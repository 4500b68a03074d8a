import Specimen.Pattern.Parser
import Specimen.Random.Draw

/-!
# Texts for patterns

Making up a text that matches a pattern.  Unbounded repetitions end after sixteen more than their least
count.  Literals draw nothing; a class draws one of its characters, alternatives draw one of their
branches, and a repetition draws its count unless it is fixed.  Repetitions of one body share the
count: it is the product of their counts, the inner one drawn first.
-/

namespace Specimen
namespace Pattern

/-- Why no text can be made up for a pattern. -/
inductive SampleError where
  | notAPattern
  | anchored
  | unsatisfiable
  deriving DecidableEq, Repr

namespace SampleError

def message : SampleError → String
  | .notAPattern => "regex syntax"
  | .anchored => "anchor is not supported"
  | .unsatisfiable => "regex is unsatisfiable"

end SampleError

/-- The counts of a repetition: a fixed factor and ranges to draw from, innermost first. -/
structure Counts where
  fixed : Nat := 1
  ranges : List (Nat × Nat) := []
  deriving DecidableEq, Repr

/-- A pattern made ready for drawing. -/
inductive Sampler where
  | text (counts : Counts) (chars : List Char)
  | class (counts : Counts) (set : CodeSet)
  | sequence (counts : Counts) (items : List Sampler)
  | choice (counts : Counts) (branches : List Sampler)

namespace Sampler

def counts : Sampler → Counts
  | .text c _ => c
  | .class c _ => c
  | .sequence c _ => c
  | .choice c _ => c

def withCounts (counts : Counts) : Sampler → Sampler
  | .text _ cs => .text counts cs
  | .class _ s => .class counts s
  | .sequence _ items => .sequence counts items
  | .choice _ branches => .choice counts branches

def repeated (low high : Nat) (s : Sampler) : Sampler :=
  let c := s.counts
  if low = high then s.withCounts { c with fixed := c.fixed * low }
  else s.withCounts { c with ranges := c.ranges ++ [(low, high)] }

/-- The branches that a branch of alternatives stands for: nested alternatives are opened. -/
def openBranch : Sampler → List Sampler
  | .choice ⟨1, []⟩ branches => branches
  | s => [s]

end Sampler

/-- How many repetitions an unbounded repetition has at most beyond its least count. -/
def repeatSlack : Nat := 16

mutual

def sampler : Pattern → Except SampleError Sampler
  | .empty => .ok (.text {} [])
  | .literal cs => .ok (.text {} cs)
  | .class s => if s.ranges.isEmpty then .error .unsatisfiable else .ok (.class {} s)
  | .place _ => .error .anchored
  | .repeat low high _ body =>
    let high := high.getD (low + repeatSlack)
    if high = 0 then .ok (.text {} []) else (sampler body).map (Sampler.repeated low high)
  | .capture _ body => sampler body
  | .sequence items => (samplers items).map (Sampler.sequence {})
  | .choice branches => (samplers branches).map fun bs => .choice {} (bs.flatMap Sampler.openBranch)

def samplers : List Pattern → Except SampleError (List Sampler)
  | [] => .ok []
  | p :: rest => do
    let s ← sampler p
    return s :: (← samplers rest)

end

open Specimen.Random

def repeatDraw (draw : Draw (List Char)) : Nat → Draw (List Char)
  | 0 => return []
  | n + 1 => do
    let cs ← draw
    return cs ++ (← repeatDraw draw n)

def drawCount (c : Counts) : Draw Nat :=
  c.ranges.foldlM (fun n r => do return n * (r.1 + (← Draw.uniform (r.2 + 1 - r.1)))) c.fixed

mutual

def Sampler.draw : Sampler → Draw (List Char)
  | .text counts cs => do repeatDraw (pure cs) (← drawCount counts)
  | .class counts s => do
    let one : Draw (List Char) := do
      let index ← Draw.uniform s.size
      return [Char.ofNat ((s.get? index).getD 0)]
    repeatDraw one (← drawCount counts)
  | .sequence counts items => do repeatDraw (drawAll items) (← drawCount counts)
  | .choice counts branches => do
    let one : Draw (List Char) := do
      let index ← Draw.uniform branches.length
      drawNth index branches
    repeatDraw one (← drawCount counts)

/-- Draws the texts of a list one after the other. -/
def drawAll : List Sampler → Draw (List Char)
  | [] => return []
  | s :: rest => do
    let cs ← s.draw
    return cs ++ (← drawAll rest)

/-- Draws a text of one member of a list. -/
def drawNth (index : Nat) : List Sampler → Draw (List Char)
  | [] => return []
  | s :: rest => if index = 0 then s.draw else drawNth (index - 1) rest

end

/-- The sampler of a text that is to be read as a pattern. -/
def sampler? (text : String) : Except SampleError Sampler :=
  match parse? text with
  | none => .error .notAPattern
  | some p => sampler p

end Pattern
end Specimen
