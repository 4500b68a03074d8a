import Specimen.Config.Vocabulary
import Specimen.Random.Digest
import Specimen.Random.Draw
import Std.Data.HashMap

/-!
# Selection

Picking one of several candidates for a path.  Rotation has a cursor for each path and strategy, and
seeded picks have random numbers of their own for each path; only random picks use the numbers of the
run.
-/

namespace Specimen

open Specimen.Random

/-- Where rotation stands and what was drawn, for each path and strategy. -/
structure SelectionState where
  cursors : Std.HashMap String UInt64 := {}
  streams : Std.HashMap String Rng := {}
  deriving Inhabited

namespace SelectionState

/-- The key of a path and a strategy. -/
def key (path : String) (strategy : SelectionStrategy) : String := path ++ "#" ++ strategy.name

def rotate (s : SelectionState) (key : String) (length : Nat) : Nat × SelectionState :=
  let cursor := s.cursors.getD key 0
  (cursor.toNat % length, { s with cursors := s.cursors.insert key (cursor + 1) })

/-- Draws a position from the numbers of a path. -/
def drawSeeded (s : SelectionState) (seed : UInt64) (path key : String) (length : Nat) :
    Nat × SelectionState :=
  let (index, stream) := Draw.index length (s.streams.getD key (Rng.ofSeedAndText seed path))
  (index, { s with streams := s.streams.insert key stream })

/-- Picks one of a number of positions; there is nothing to pick from none. -/
def pick (s : SelectionState) (seed : UInt64) (path : String) (strategy : SelectionStrategy)
    (length : Nat) (rng : Rng) : Option Nat × SelectionState × Rng :=
  if length = 0 then (none, s, rng)
  else
    match strategy with
    | .sequential | .template =>
      let (index, s) := s.rotate (key path strategy) length
      (some index, s, rng)
    | .random =>
      let (index, rng) := Draw.index length rng
      (some index, s, rng)
    | .seeded =>
      let (index, s) := s.drawSeeded seed path (key path strategy) length
      (some index, s, rng)

end SelectionState
end Specimen
