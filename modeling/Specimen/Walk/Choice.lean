import Specimen.Run.State

/-!
# What the walk builds

How often an element or a group occurs, and when recursion is cut off.  The mode decides about what is
optional; a rule or the settings say how often something is asked for; and the number asked for is moved
into the bounds of the schema, of which the lower one always holds.

A choice takes, among the branches that the recursion guard does not cut, the one that is configured;
unless all optional parts are built, else the first one that the mode keeps; else the first one that is
required; else one at random.
-/

namespace Specimen

/-! ## Occurrences -/

/-- A number of occurrences moved into bounds.  Neither the upper bound nor the ceiling is exceeded,
unless the lower bound does so itself. -/
def clampOccurs (requested low : Nat) (high : MaxOccurs) (ceiling : Nat) : Nat :=
  let upper := match high.limit? with
    | some limit => min limit ceiling
    | none => ceiling
  max (min requested upper) low

namespace Walk

/-- Whether a named type is nested too deeply to be entered again. -/
def wouldTruncate (setup : Setup) (s : RunState) (type : String) : Bool :=
  decide (setup.plan.settings.maxDepth.toNat ≤ s.occurrences type) ||
    match setup.options.circularLimit with
    | some limit => decide (max limit.toNat 1 ≤ s.directRecursion type)
    | none => false

/-- The name of a type that is nested too deeply to be entered again. -/
def refused? (setup : Setup) (s : RunState) (type : ResolvedType) : Option String :=
  type.identity.filter (wouldTruncate setup s)

/-- Whether the mode keeps an optional element or attribute. -/
def optionalPresent (setup : Setup) (name path : String) : Bool :=
  let forced := setup.index.isForced path setup.plan.settings.mode
  match setup.plan.settings.mode with
  | .complete => true
  | .minimalistic => forced
  | .custom => forced || (setup.plan.rule? name path).isSome

mutual

/-- Whether the mode keeps an optional group: it does when it keeps one of the elements in it. -/
def groupPresent (setup : Setup) (path : String) : Group → Bool
  | .mk _ members => anyPresent setup path members

/-- Whether the mode keeps an element among members. -/
def anyPresent (setup : Setup) (path : String) : List Particle → Bool
  | [] => false
  | .element e :: rest =>
    optionalPresent setup e.name (joinPath path e.name) || anyPresent setup path rest
  | .group g :: rest => groupPresent setup path g || anyPresent setup path rest

end

/-- The least number of occurrences, at least one if the occurrence is forced. -/
def leastOccurs (low : Nat) (force : Bool) : Nat := max low (if force then 1 else 0)

def occurrenceCount (setup : Setup) (e : Element) (path : String) (rule : Option ElementRule)
    (force : Bool) : Nat :=
  let settings := setup.plan.settings
  let low := leastOccurs e.minOccurs force
  if low = 0 ∧ !optionalPresent setup e.name path then 0
  else
    let requested := match rule.bind (·.repeatCount) with
      | some n => n.toNat
      | none => if settings.mode = .minimalistic then max low 1 else settings.repeatCount.toNat
    clampOccurs requested low e.maxOccurs settings.unboundedCount.toNat

def groupCount (setup : Setup) (g : Group) (path : String) (force : Bool) : Nat :=
  let settings := setup.plan.settings
  let low := leastOccurs g.minOccurs force
  if low = 0 ∧ !groupPresent setup path g then 0
  else
    let requested :=
      if settings.mode = .minimalistic then max low 1
      else if g.maxOccurs.isRepeatable then settings.repeatCount.toNat
      else 1
    clampOccurs requested low g.maxOccurs settings.unboundedCount.toNat

/-! ## Branches -/

/-- The type for which the recursion guard cuts a branch; it does not look into groups. -/
def cutType? (setup : Setup) (s : RunState) : Particle → Option String
  | .element e =>
    match setup.schema.resolveType e with
    | .ok type => refused? setup s type
    | .error _ => none
  | .group _ => none

mutual

/-- Whether a branch declares an element, directly or in a nested group. -/
def declares (name : String) : Particle → Bool
  | .element e => e.name == name
  | .group g => groupDeclares name g

def groupDeclares (name : String) : Group → Bool
  | .mk _ members => anyDeclares name members

/-- Whether one of several members declares an element. -/
def anyDeclares (name : String) : List Particle → Bool
  | [] => false
  | p :: rest => declares name p || anyDeclares name rest

end

mutual

def branchForced (setup : Setup) (path : String) : Particle → Bool
  | .element e => setup.index.isForced (joinPath path e.name) setup.plan.settings.mode
  | .group g => groupForced setup path g

/-- Whether the mode keeps a member of a group. -/
def groupForced (setup : Setup) (path : String) : Group → Bool
  | .mk _ members => anyForced setup path members

/-- Whether the mode keeps one of several members. -/
def anyForced (setup : Setup) (path : String) : List Particle → Bool
  | [] => false
  | p :: rest => branchForced setup path p || anyForced setup path rest

end

/-- A branch with its position among the members of the choice. -/
abbrev Branch := Particle × Nat

/-- The branches that are not cut. -/
def eligible (setup : Setup) (s : RunState) (members : List Particle) : List Branch :=
  members.zipIdx.filter fun b => (cutType? setup s b.1).isNone

/-- The branch that needs no random number: the first that the mode keeps, or the first required. -/
def plainBranch? (setup : Setup) (path : String) (branches : List Branch) : Option Branch :=
  let kept :=
    if setup.plan.settings.mode = .complete then none
    else branches.find? fun b => branchForced setup path b.1
  match kept with
  | some b => some b
  | none => branches.find? fun b => decide (1 ≤ b.1.minOccurs)

/-- Chooses among branches that are not cut when none is configured. -/
def chooseFreely (setup : Setup) (path : String) (branches : List Branch) : Run (Option Nat) := do
  match plainBranch? setup path branches with
  | some b => return some b.2
  | none =>
    let index ← Run.draw (Random.Draw.index branches.length)
    Run.follow (.drawn path index)
    return (branches[index]?).map (·.2)

/-- Chooses a branch by its position; there is none when all branches are cut. -/
def chooseBranch (setup : Setup) (path : String) (rule : Option ElementRule)
    (members : List Particle) : Run (Option Nat) := do
  let s ← get
  Run.followAll ((members.filterMap (cutType? setup s)).map (.passedOver path))
  let branches := eligible setup s members
  if branches.isEmpty then return none
  match rule.bind (·.choice) with
  | none => chooseFreely setup path branches
  | some name =>
    match branches.find? fun b => declares name b.1 with
    | some b => do
      Run.follow (.chosen path name)
      return some b.2
    | none => do
      Run.warn {
        code := "choice_not_found"
        message := "configured choice '" ++ name ++ "' is not an eligible branch"
        path := some path }
      chooseFreely setup path branches

end Walk
end Specimen
