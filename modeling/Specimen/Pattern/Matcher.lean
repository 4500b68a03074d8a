import Specimen.Pattern.Parser

/-!
# Matching patterns

A pattern takes a set of positions in a text to the set of positions where a match that begins at one of
them can end.  To match a whole text the pattern is put between the start and the end of the text.
-/

namespace Specimen
namespace Pattern

/-- A text under examination. -/
abbrev Subject := Array Char

/-- Positions in increasing order, each once. -/
abbrev Positions := List Nat

def mergePositions (a b : Positions) : Positions :=
  (a ++ b).mergeSort.eraseReps

/-- Whether there is a character of a word at a position. -/
def wordAt (text : Subject) (unicode : Bool) (position : Nat) : Bool :=
  match text[position]? with
  | some c => if unicode then isWordCode c.toNat else asciiWordSet.contains c.toNat
  | none => false

/-- Whether there is a character of a word before a position. -/
def wordBefore (text : Subject) (unicode : Bool) (position : Nat) : Bool :=
  match position with
  | 0 => false
  | n + 1 => wordAt text unicode n

def charAt (text : Subject) (c : Char) (position : Nat) : Bool :=
  text[position]? == some c

def charBefore (text : Subject) (c : Char) (position : Nat) : Bool :=
  match position with
  | 0 => false
  | n + 1 => charAt text c n

def isPlace (text : Subject) (place : Place) (position : Nat) : Bool :=
  let before (unicode : Bool) := wordBefore text unicode position
  let after (unicode : Bool) := wordAt text unicode position
  match place with
  | .textStart => position == 0
  | .textEnd => position == text.size
  | .lineStart false => position == 0 || charBefore text '\n' position
  | .lineEnd false => position == text.size || charAt text '\n' position
  | .lineStart true =>
    position == 0 || charBefore text '\n' position ||
      (charBefore text '\r' position && !charAt text '\n' position)
  | .lineEnd true =>
    position == text.size || charAt text '\r' position ||
      (charAt text '\n' position && !charBefore text '\r' position)
  | .wordBoundary u => before u != after u
  | .noWordBoundary u => before u == after u
  | .wordStart u => !before u && after u
  | .wordEnd u => before u && !after u
  | .wordStartHalf u => !before u
  | .wordEndHalf u => !after u

/-- The position behind a run of characters, if they stand at a position. -/
def afterLiteral? (text : Subject) : List Char → Nat → Option Nat
  | [], position => some position
  | c :: rest, position => if charAt text c position then afterLiteral? text rest (position + 1) else none

/-- Applies a step a number of times, as long as there are positions left. -/
def stepTimes (step : Positions → Positions) : Nat → Positions → Positions
  | 0, ps => ps
  | n + 1, ps => if ps.isEmpty then ps else stepTimes step n (step ps)

/-- Collects what up to `n` steps reach, as long as a step reaches something new. -/
def stepUpTo (step : Positions → Positions) : Nat → Positions → Positions → Positions
  | 0, _, found => found
  | n + 1, last, found =>
    let next := (step last).filter fun p => !found.contains p
    if next.isEmpty then found else stepUpTo step n next (mergePositions found next)

mutual

/-- Where matches can end that begin at one of the positions. -/
def advance (text : Subject) : Pattern → Positions → Positions
  | .empty, ps => ps
  | .literal cs, ps => ps.filterMap (afterLiteral? text cs)
  | .class s, ps =>
    ps.filterMap fun p =>
      match text[p]? with
      | some c => if s.contains c.toNat then some (p + 1) else none
      | none => none
  | .place asked, ps => ps.filter (isPlace text asked)
  | .repeat low high _ body, ps =>
    let step := advance text body
    let start := stepTimes step low ps
    let more := match high with
      | some high => high - low
      | none => text.size + 1
    stepUpTo step more start start
  | .capture _ body, ps => advance text body ps
  | .sequence items, ps => advanceAll text items ps
  | .choice branches, ps => advanceAny text branches ps

/-- Where matches of one pattern after the other can end. -/
def advanceAll (text : Subject) : List Pattern → Positions → Positions
  | [], ps => ps
  | p :: rest, ps => advanceAll text rest (advance text p ps)

/-- Where matches of any of several patterns can end. -/
def advanceAny (text : Subject) : List Pattern → Positions → Positions
  | [], _ => []
  | p :: rest, ps => mergePositions (advance text p ps) (advanceAny text rest ps)

end

/-- Whether a pattern matches anywhere in a text. -/
def occursIn (p : Pattern) (text : String) : Bool :=
  let subject := text.toList.toArray
  !(advance subject p (List.range (subject.size + 1))).isEmpty

/-- The pattern that matches whole texts only; none when the text is not a pattern. -/
def whole? (text : String) : Option Pattern := parse? ("^(?:" ++ text ++ ")$")

/-- Whether a text matches a pattern as a whole; a text that is not a pattern matches everything. -/
def accepts (pattern text : String) : Bool :=
  match whole? pattern with
  | some p => p.occursIn text
  | none => true

end Pattern
end Specimen
