import Specimen.Constraint.Evaluation
import Specimen.Plan.Basic
import Std.Data.HashMap
import Std.Data.HashSet

/-!
# What relationships remember

The fields of a relationship are settled one instance after another; the ordinal of an instance of a
field is the number of its values that were asked for before.  A value is settled once and never replaced.
-/

namespace Specimen

/-- The values and choices of all relationships of a run. -/
structure RelationState where
  /-- How many values of each field were asked for. -/
  asked : Std.HashMap String Nat := {}
  /-- The value of each field in each instance. -/
  settled : Std.HashMap (String × Nat) String := {}
  /-- The record of each relationship in each instance; none when there are no records. -/
  personas : Std.HashMap (String × Nat) (Option Nat) := {}
  /-- The records that a relationship has used since it last used up all of them. -/
  usedRecords : Std.HashMap String (List Nat) := {}
  /-- The combinations of values that a relationship has used. -/
  usedCombinations : Std.HashMap String (Std.HashSet (List String)) := {}
  deriving Inhabited

namespace RelationState

def next (s : RelationState) (field : String) : Nat × RelationState :=
  let n := s.asked.getD field 0
  (n, { s with asked := s.asked.insert field (n + 1) })

/-- The value of a field in an instance. -/
def value? (s : RelationState) (field : String) (ordinal : Nat) : Option String :=
  s.settled[(field, ordinal)]?

/-- Settles a field in an instance, unless it is settled. -/
def settle (s : RelationState) (field : String) (ordinal : Nat) (value : String) : RelationState :=
  { s with settled := s.settled.insertIfNew (field, ordinal) value }

theorem value?_settle {s : RelationState} {f g value : String} {n m : Nat} :
    (s.settle g m value).value? f n =
      if (g, m) = (f, n) then some ((s.value? f n).getD value) else s.value? f n := by
  simp only [value?, settle, Std.HashMap.getElem?_insertIfNew]
  by_cases hkey : (g, m) = (f, n)
  · by_cases hmem : (f, n) ∈ s.settled <;> simp [hkey, hmem]
  · simp [hkey]

/-- The settled values of the fields of a relationship. -/
def bindings (s : RelationState) (r : Relationship) (ordinal : Nat) : Bindings :=
  r.fields.foldl
    (fun b f =>
      match s.value? f ordinal with
      | some v => b.insert f v
      | none => b) Dict.empty

/-- The record of a relationship in an instance, when it was picked. -/
def persona? (s : RelationState) (id : String) (ordinal : Nat) : Option (Option Nat) :=
  s.personas[(id, ordinal)]?

/-- Remembers the record of a relationship in an instance. -/
def setPersona (s : RelationState) (id : String) (ordinal : Nat) (record : Option Nat) :
    RelationState :=
  { s with personas := s.personas.insert (id, ordinal) record }

def recordsUsed (s : RelationState) (id : String) : List Nat := s.usedRecords.getD id []

/-- Remembers that a relationship has used a record. -/
def useRecord (s : RelationState) (id : String) (record : Nat) : RelationState :=
  let used := s.recordsUsed id
  if used.contains record then s
  else { s with usedRecords := s.usedRecords.insert id (record :: used) }

def forgetRecords (s : RelationState) (id : String) : RelationState :=
  { s with usedRecords := s.usedRecords.insert id [] }

/-- Whether a relationship has used a combination of values. -/
def isCombinationUsed (s : RelationState) (id : String) (combination : List String) : Bool :=
  (s.usedCombinations.getD id {}).contains combination

/-- Remembers that a relationship has used a combination of values. -/
def useCombination (s : RelationState) (id : String) (combination : List String) : RelationState :=
  { s with
    usedCombinations := s.usedCombinations.insert id
      ((s.usedCombinations.getD id {}).insert combination) }

end RelationState
end Specimen
