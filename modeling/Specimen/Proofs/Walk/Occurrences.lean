import Specimen.Proofs.Walk.Inversion

/-!
# The walk around its occurrences

Whatever the walk builds, it builds in occurrences of elements: it decides which declaration comes next and how
often, and begins one occurrence after the other.  Here this is left open: `Occur` is any way of building one
occurrence, and the functions that are named `With` are those of the walk around it.  With the walk's own
occurrences they are the walk.

So what a walk begins can be told from outside.  If the document does not change however the occurrences of some
kind are built, then the walk begins none of that kind.
-/

namespace Specimen

open Run

namespace Walk

/-- A way of building one occurrence of an element: from its type, its path, its rule, its namespace, the scope
of its siblings and what builds the members of its content. -/
abbrev Occur := Element → ResolvedType → String → Option ElementRule → Option String → Nat → Inside →
  Run (Option Node)

section

variable (setup : Setup) (occur : Occur)

/-- Builds the occurrences of an element in some way. -/
def buildElementWith (e : Element) (parentPath : String) (scope : Nat) (force : Bool)
    (inside : ResolvedType → String → Option ElementRule → Inside) : Run (List NodeChild) := do
  let path := joinPath parentPath e.name
  let type ← Run.ofSchema (setup.schema.resolveType e)
  let rule := setup.plan.rule? e.name path
  match refused? setup (← get) type with
  | some identity => cutOff setup e path identity
  | none =>
    let count := occurrenceCount setup e path rule force
    if count = 0 then
      if e.minOccurs = 0 then Run.record .countOmitted
      return []
    let occurrence := occur e type path rule e.decl.uri scope (inside type path rule)
    buildEach setup e count occurrence count

mutual

def walkElementWith (enter : Enter) (path : String) (scope : Nat) (force : Bool) :
    Element → Run (List NodeChild)
  | .mk decl none => buildElementWith setup occur (.mk decl none) path scope force (insideNamed enter)
  | .mk decl (some g) =>
    buildElementWith setup occur (.mk decl (some g)) path scope force fun _ path rule scope =>
      walkGroupWith enter path scope rule false g

def walkGroupWith (enter : Enter) (path : String) (scope : Nat) (rule : Option ElementRule)
    (force : Bool) : Group → Run (List NodeChild)
  | .mk decl members =>
    let body : Run (List NodeChild) :=
      match decl.kind with
      | .choice => do
        match ← chooseBranch setup path rule members with
        | some position => walkNthWith enter path scope rule position members
        | none => return []
      | _ => walkAllWith enter path scope rule members
    repeatStep body (groupCount setup (.mk decl members) path force)

def walkParticleWith (enter : Enter) (path : String) (scope : Nat) (rule : Option ElementRule)
    (force : Bool) : Particle → Run (List NodeChild)
  | .element e => walkElementWith enter path scope force e
  | .group g => walkGroupWith enter path scope rule force g

def walkAllWith (enter : Enter) (path : String) (scope : Nat) (rule : Option ElementRule) :
    List Particle → Run (List NodeChild)
  | [] => return []
  | p :: rest => do
    let own ← walkParticleWith enter path scope rule false p
    if ← isHalted then return own
    return own ++ (← walkAllWith enter path scope rule rest)

def walkNthWith (enter : Enter) (path : String) (scope : Nat) (rule : Option ElementRule)
    (position : Nat) : List Particle → Run (List NodeChild)
  | [] => return []
  | p :: rest =>
    match position with
    | 0 => walkParticleWith enter path scope rule true p
    | position + 1 => walkNthWith enter path scope rule position rest

end

/-- Builds the members of the content of a named type, when at most `budget` named types are entered on one
path. -/
def enterWithinWith : (budget : Nat) → Enter
  | 0 => fun _ _ _ _ => return []
  | budget + 1 => fun path scope rule g =>
    walkGroupWith setup occur (enterWithinWith budget) path scope rule false g

/-- Builds the members of the content of a named type, with the budget of the walk. -/
def enterWith : Enter :=
  enterWithinWith setup occur (setup.schema.types.length * setup.plan.settings.maxDepth.toNat + 1)

variable (enter : Enter)

/-- The members of the content of an element. -/
def insideWith (e : Element) (type : ResolvedType) (path : String) (rule : Option ElementRule) : Inside :=
  match e.content with
  | none => insideNamed enter type path rule
  | some g => fun scope => walkGroupWith setup occur enter path scope rule false g

/-- Builds one occurrence of an element in a namespace in some way, unless recursion is cut off. -/
def buildInWith (e : Element) (parentPath : String) (uri : Option String) (scope : Nat) :
    Run (Option Node) := do
  let path := joinPath parentPath e.name
  let type ← Run.ofSchema (setup.schema.resolveType e)
  match refused? setup (← get) type with
  | some identity =>
    Run.follow (.passedOver path identity)
    return none
  | none =>
    let rule := setup.plan.rule? e.name path
    occur e type path rule uri scope (insideWith setup occur enter e type path rule)

/-- Builds a document whose occurrences are built in some way. -/
def buildDocumentWith (root : Element) : Run Node := do
  let uri := root.decl.uri <|> setup.schema.targetNamespace
  let scope ← Run.openScope
  match ← buildInWith setup occur enter root "" uri scope with
  | some node => return node
  | none => return .mk { name := root.name, uri, truncated := true } []

end

/-- All occurrences that the walk of a document begins satisfy a condition, which is about the declaration of
the element, its type, its path and the types that are open.  For however the others are built, the walk is the
same. -/
def BeginsOnly (setup : Setup) (root : Element)
    (condition : Element → ResolvedType → String → List String → Prop) (s : RunState) : Prop :=
  ∀ occur : Occur,
    (∀ e type path rule uri scope inside t, condition e type path t.openTypes →
      (occur e type path rule uri scope inside).exec t =
        (buildOccurrence setup e type path rule uri scope inside).exec t) →
    (buildDocumentWith setup occur (enterWith setup occur) root).exec s =
      (buildDocument setup root).exec s

theorem BeginsOnly.mono {setup : Setup} {root : Element} {s : RunState}
    {condition condition' : Element → ResolvedType → String → List String → Prop}
    (h : BeginsOnly setup root condition s)
    (himp : ∀ e type path types, condition e type path types → condition' e type path types) :
    BeginsOnly setup root condition' s := by
  intro occur hoccur
  refine h occur fun e type path rule uri scope inside t hbegins => ?_
  exact hoccur e type path rule uri scope inside t (himp e type path t.openTypes hbegins)

/-! ## The occurrences of the walk -/

variable (setup : Setup)

section Members

variable {setup} {enter : Enter} {path : String} {scope : Nat} {rule : Option ElementRule}
  {members : List Particle}

theorem walkAllWith_eq (h : ∀ p ∈ members, ∀ force,
    walkParticleWith setup (buildOccurrence setup) enter path scope rule force p =
      walkParticle setup enter path scope rule force p) :
    walkAllWith setup (buildOccurrence setup) enter path scope rule members =
      walkAll setup enter path scope rule members := by
  induction members with
  | nil => rfl
  | cons p rest ih =>
      unfold walkAllWith walkAll
      rw [h p List.mem_cons_self, ih fun q hq => h q (List.mem_cons_of_mem _ hq)]

theorem walkNthWith_eq (occur : Occur) (position : Nat) :
    walkNthWith setup occur enter path scope rule position members =
      match members[position]? with
      | some p => walkParticleWith setup occur enter path scope rule true p
      | none => pure [] := by
  induction members generalizing position with
  | nil => rfl
  | cons p rest ih =>
      cases position with
      | zero => rfl
      | succ position => exact ih position

theorem walkGroupWith_of_choice (setup : Setup) (occur : Occur) (force : Bool) {decl : GroupDecl}
    (hkind : decl.kind = .choice) :
    walkGroupWith setup occur enter path scope rule force (.mk decl members) =
      repeatStep (chooseBranch setup path rule members >>= fun chosen =>
          match chosen with
          | some position => walkNthWith setup occur enter path scope rule position members
          | none => pure [])
        (groupCount setup (.mk decl members) path force) := by
  unfold walkGroupWith
  cases h : decl.kind with
  | choice => rfl
  | sequence | all =>
      rw [h] at hkind
      cases hkind

theorem walkGroupWith_of_ne_choice (setup : Setup) (occur : Occur) (force : Bool) {decl : GroupDecl}
    (hkind : decl.kind ≠ .choice) :
    walkGroupWith setup occur enter path scope rule force (.mk decl members) =
      repeatStep (walkAllWith setup occur enter path scope rule members)
        (groupCount setup (.mk decl members) path force) := by
  unfold walkGroupWith
  cases h : decl.kind with
  | choice => exact absurd h hkind
  | sequence | all => rfl

end Members

/-- With the walk's own occurrences, the walk around them is the walk. -/
theorem walkWith_eq (enter : Enter) :
    (∀ e path scope force, walkElementWith setup (buildOccurrence setup) enter path scope force e =
      walkElement setup enter path scope force e) ∧
    (∀ g path scope rule force, walkGroupWith setup (buildOccurrence setup) enter path scope rule force g =
      walkGroup setup enter path scope rule force g) ∧
    ∀ p path scope rule force,
      walkParticleWith setup (buildOccurrence setup) enter path scope rule force p =
        walkParticle setup enter path scope rule force p := by
  apply tree_induction
  · intro decl path scope force
    rfl
  · intro decl g ih path scope force
    unfold walkElementWith walkElement
    simp only [ih]
    rfl
  · intro decl members ih path scope rule force
    have hnth : ∀ position,
        walkNthWith setup (buildOccurrence setup) enter path scope rule position members =
          walkNth setup enter path scope rule position members := by
      intro position
      rw [walkNthWith_eq, walkNth_eq]
      cases hp : members[position]? with
      | none => rfl
      | some p => exact ih p (List.mem_of_getElem? hp) path scope rule true
    unfold walkGroupWith
    simp only [hnth, walkAllWith_eq fun p hp => ih p hp path scope rule]
    rfl
  · intro e ih path scope rule force
    exact ih path scope force
  · intro g ih path scope rule force
    exact ih path scope rule force

theorem enterWithinWith_eq (budget : Nat) :
    enterWithinWith setup (buildOccurrence setup) budget = enterWithin setup budget := by
  induction budget with
  | zero => rfl
  | succ budget ih =>
      funext path scope rule g
      unfold enterWithinWith enterWithin
      rw [ih]
      exact (walkWith_eq setup _).2.1 g path scope rule false

end Walk
end Specimen
