/-!
# Sets of code points

A `CodeSet` lists the code points of a set as inclusive ranges in increasing order, no two of
which touch.  Character properties and the character classes of patterns are sets of this kind.

Every operation works on a list of ranges in any order and brings the result into that form with
`CodeSet.ofRanges`.
-/

namespace Specimen

/-- A set of code points, as increasing inclusive ranges that neither overlap nor touch. -/
structure CodeSet where
  ranges : List (Nat × Nat)
  deriving DecidableEq, Repr, Inhabited

namespace CodeSet

/-- Joins a range to the ranges that follow it as long as they overlap or touch it. -/
def joinRanges (low high : Nat) : List (Nat × Nat) → List (Nat × Nat)
  | [] => [(low, high)]
  | (a, b) :: rest =>
    if a ≤ high + 1 then joinRanges low (max high b) rest
    else (low, high) :: joinRanges a b rest

/-- The set covered by ranges in any order; a range whose ends are reversed covers nothing. -/
def ofRanges (ranges : List (Nat × Nat)) : CodeSet :=
  match (ranges.filter fun r => r.1 ≤ r.2).mergeSort fun a b => a.1 ≤ b.1 with
  | [] => ⟨[]⟩
  | (a, b) :: rest => ⟨joinRanges a b rest⟩

/-- The set without members. -/
def empty : CodeSet := ⟨[]⟩

/-- Every code point that is a character: all but the surrogates. -/
def all : CodeSet := ⟨[(0, 0xD7FF), (0xE000, 0x10FFFF)]⟩

def singleton (code : Nat) : CodeSet := ⟨[(code, code)]⟩

def contains (s : CodeSet) (code : Nat) : Bool :=
  s.ranges.any fun r => decide (r.1 ≤ code) && decide (code ≤ r.2)

def size (s : CodeSet) : Nat :=
  s.ranges.foldl (fun n r => n + (r.2 + 1 - r.1)) 0

/-- The member at a position of increasing ranges. -/
def getInRanges? : List (Nat × Nat) → Nat → Option Nat
  | [], _ => none
  | (a, b) :: rest, i => if i < b + 1 - a then some (a + i) else getInRanges? rest (i - (b + 1 - a))

/-- The member at a position of the increasing order. -/
def get? (s : CodeSet) (index : Nat) : Option Nat := getInRanges? s.ranges index

def union (s t : CodeSet) : CodeSet :=
  ofRanges (s.ranges ++ t.ranges)

def inter (s t : CodeSet) : CodeSet :=
  ofRanges <| s.ranges.flatMap fun r => t.ranges.map fun q => (max r.1 q.1, min r.2 q.2)

/-- The gaps of an increasing list of ranges, from `start` to the last code point. -/
def gaps (start : Nat) : List (Nat × Nat) → List (Nat × Nat)
  | [] => [(start, 0x10FFFF)]
  | (a, b) :: rest => if start < a then (start, a - 1) :: gaps (b + 1) rest else gaps (b + 1) rest

/-- All characters that are not members. -/
def compl (s : CodeSet) : CodeSet :=
  inter all (ofRanges (gaps 0 s.ranges))

/-- Members of the first set that are not members of the second. -/
def diff (s t : CodeSet) : CodeSet :=
  inter s (compl t)

/-- Members of exactly one of the two sets. -/
def symmDiff (s t : CodeSet) : CodeSet :=
  union (diff s t) (diff t s)

/-- Collects digits into `n`; `isOpen` says that a number has begun. -/
def collectNumbers (n : Nat) (isOpen : Bool) : List Char → List Nat
  | [] => if isOpen then [n] else []
  | c :: rest =>
    if c.isDigit then collectNumbers (n * 10 + (c.toNat - '0'.toNat)) true rest
    else if isOpen then n :: collectNumbers 0 false rest
    else collectNumbers 0 false rest

/-- The natural numbers written in decimal, separated by blanks. -/
def readNumbers (text : String) : List Nat := collectNumbers 0 false text.toList

/-- Ranges from alternating numbers: how far the next range lies behind the last one, and how many
members it has. -/
def rangesOfRuns (position : Nat) : List Nat → List (Nat × Nat)
  | gap :: count :: rest =>
    (position + gap, position + gap + count - 1) :: rangesOfRuns (position + gap + count) rest
  | _ => []

/-- The set described by a table of runs: gap, length, gap, length, and so on. -/
def ofRuns (table : String) : CodeSet :=
  ⟨rangesOfRuns 0 (readNumbers table)⟩

end CodeSet
end Specimen
