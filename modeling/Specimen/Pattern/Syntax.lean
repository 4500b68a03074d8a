import Specimen.Text.CodeSet

/-!
# Patterns

The tree of a pattern, built by functions that keep it in a reduced form: runs of literals are joined,
nested sequences and alternatives are flattened, alternatives of single characters become a class, and
what alternatives begin with in common is written once.  The reduced form decides what is drawn when a
text is made up for a pattern (`Specimen.Pattern.Sampler`).
-/

namespace Specimen

/-- A place in a text, as a pattern can ask for it. -/
inductive Place where
  | textStart
  | textEnd
  | lineStart (crlf : Bool)
  | lineEnd (crlf : Bool)
  | wordBoundary (unicode : Bool)
  | noWordBoundary (unicode : Bool)
  | wordStart (unicode : Bool)
  | wordEnd (unicode : Bool)
  | wordStartHalf (unicode : Bool)
  | wordEndHalf (unicode : Bool)
  deriving DecidableEq, Repr

/-- A pattern. -/
inductive Pattern where
  | empty
  | literal (chars : List Char)
  | class (set : CodeSet)
  | place (place : Place)
  | repeat (min : Nat) (max : Option Nat) (greedy : Bool) (body : Pattern)
  | capture (number : Nat) (body : Pattern)
  | sequence (items : List Pattern)
  | choice (branches : List Pattern)
  deriving Inhabited

namespace Pattern

mutual

/-- Whether two patterns are written the same way. -/
def same : Pattern → Pattern → Bool
  | .empty, .empty => true
  | .literal a, .literal b => a == b
  | .class a, .class b => a == b
  | .place a, .place b => a == b
  | .repeat a b c p, .repeat a' b' c' p' => a == a' && b == b' && c == c' && same p p'
  | .capture a p, .capture a' p' => a == a' && same p p'
  | .sequence a, .sequence b => sameAll a b
  | .choice a, .choice b => sameAll a b
  | _, _ => false

def sameAll : List Pattern → List Pattern → Bool
  | [], [] => true
  | a :: as, b :: bs => same a b && sameAll as bs
  | _, _ => false

end

mutual

/-- Whether nothing but the empty text can match. -/
def matchesNothingElse : Pattern → Bool
  | .empty => true
  | .literal _ => false
  | .class _ => false
  | .place _ => true
  | .repeat _ _ _ p => matchesNothingElse p
  | .capture _ p => matchesNothingElse p
  | .sequence items => matchNothingElse items
  | .choice branches => matchNothingElse branches

def matchNothingElse : List Pattern → Bool
  | [] => true
  | p :: rest => matchesNothingElse p && matchNothingElse rest

end

/-- A class; one of a single character is a literal. -/
def ofSet (set : CodeSet) : Pattern :=
  match set.ranges with
  | [(a, b)] => if a = b then .literal [Char.ofNat a] else .class set
  | _ => .class set

/-- A repetition.  What matches the empty text only is repeated once at most, no repetition is the empty
pattern, and exactly one is the body. -/
def ofRepeat (min : Nat) (max : Option Nat) (greedy : Bool) (body : Pattern) : Pattern :=
  let (min, max) :=
    if body.matchesNothingElse then (Nat.min min 1, some (Nat.min (max.getD 1) 1)) else (min, max)
  if min = 0 ∧ max = some 0 then .empty
  else if min = 1 ∧ max = some 1 then body
  else .repeat min max greedy body

/-- Puts a pattern in front of a sequence in reduced form. -/
def consReduced (p : Pattern) (rest : List Pattern) : List Pattern :=
  match p, rest with
  | .literal a, .literal b :: rest => .literal (a ++ b) :: rest
  | p, rest => p :: rest

/-- The items of a sequence: nested sequences are opened and empty patterns dropped. -/
def openSequence : Pattern → List Pattern
  | .sequence items => items
  | .empty => []
  | p => [p]

def ofSequence (items : List Pattern) : Pattern :=
  match (items.flatMap openSequence).foldr consReduced [] with
  | [] => .empty
  | [p] => p
  | many => .sequence many

/-- The branches of alternatives: nested ones are opened. -/
def openChoice : Pattern → List Pattern
  | .choice branches => branches
  | p => [p]

/-- The characters of a pattern that matches exactly one of them. -/
def asSet? : Pattern → Option CodeSet
  | .literal [c] => some (CodeSet.singleton c.toNat)
  | .class set => some set
  | _ => none

/-- The set that a list of sets forms, if every entry has one. -/
def asUnion? (sets : List (Option CodeSet)) : Option CodeSet :=
  (sets.mapM id).map fun all => CodeSet.ofRanges (all.flatMap (·.ranges))

/-- The items of a sequence of at least two. -/
def items? : Pattern → Option (List Pattern)
  | .sequence items => some items
  | _ => none

/-- The number of items that two lists begin with in common. -/
def commonLength : List Pattern → List Pattern → Nat
  | a :: as, b :: bs => if same a b then commonLength as bs + 1 else 0
  | _, _ => 0

/-- Alternatives in reduced form; `fuel` bounds how often a common beginning is taken out. -/
def ofChoice (fuel : Nat) (branches : List Pattern) : Pattern :=
  match branches.flatMap openChoice with
  | [] => .class CodeSet.empty
  | [p] => p
  | many =>
    match asUnion? (many.map asSet?) with
    | some set => ofSet set
    | none =>
      match fuel, many.mapM items? with
      | fuel + 1, some (first :: others) =>
        let shared := others.foldl (fun n items => Nat.min n (commonLength first items)) first.length
        if shared = 0 then .choice many
        else
          let tails := (first :: others).map fun items => ofSequence (items.drop shared)
          ofSequence (first.take shared ++ [ofChoice fuel tails])
      | _, _ => .choice many

end Pattern
end Specimen
