import Specimen.Proofs.Walk.Beside
import Specimen.Proofs.Walk.Content

/-!
# How deep the walk goes

The walk is a recursion through named types, and nothing in a schema bounds it: a type may contain itself.
What bounds it are the types that are open.  `EntersWithin` is any way of entering named types that is the
walk's own as long as the open types keep their limits and not too many are open; whatever it does elsewhere,
the documents are the same.  So no deeper entry is ever made, with any number of steps.
-/

namespace Specimen

open Run

namespace Walk

variable {setup : Setup} {stack : List String}

/-! ## Limits of the open types -/

/-- No type is open more often than the greatest depth allows, and none is open more often in a row than the
limit of circular references allows, which counts as one at least. -/
structure StackWithin (setup : Setup) (stack : List String) : Prop where
  depth : ∀ id, stack.count id ≤ setup.plan.settings.maxDepth.toNat
  runs : ∀ limit, setup.options.circularLimit = some limit → ∀ id count,
    List.replicate count id <:+: stack → count ≤ max limit.toNat 1

theorem stackWithin_nil (setup : Setup) : StackWithin setup [] := by
  constructor
  · intro id
    exact Nat.zero_le _
  · intro limit _ id count hrun
    have hnil := List.eq_nil_of_infix_nil hrun
    rw [List.replicate_eq_nil_iff] at hnil
    omega

theorem le_length_takeWhile {id : String} {count : Nat} {stack : List String}
    (h : List.replicate count id <+: stack) : count ≤ (stack.takeWhile (· == id)).length := by
  induction count generalizing stack with
  | zero => exact Nat.zero_le _
  | succ count ih =>
      obtain ⟨rest, rfl⟩ := h
      have htail := ih ⟨rest, rfl⟩
      rw [List.replicate_succ, List.cons_append, List.takeWhile_cons_of_pos (by simp)]
      exact Nat.succ_le_succ htail

/-- A type that is not refused may be opened. -/
theorem StackWithin.push (h : StackWithin setup stack) {s : RunState} (hopen : s.openTypes = stack)
    {type : ResolvedType} (hrefused : refused? setup s type = none) {identity : String}
    (hidentity : type.identity = some identity) : StackWithin setup (identity :: stack) := by
  subst hopen
  have hnot : wouldTruncate setup s identity = false := by
    unfold refused? at hrefused
    rw [hidentity] at hrefused
    simpa using hrefused
  unfold wouldTruncate at hnot
  rw [Bool.or_eq_false_iff] at hnot
  obtain ⟨hroom, hdirect⟩ := hnot
  constructor
  · intro id
    have hcount : s.openTypes.count identity < setup.plan.settings.maxDepth.toNat :=
      Nat.lt_of_not_le (of_decide_eq_false hroom)
    rw [List.count_cons]
    split
    · rename_i heq
      rw [← eq_of_beq heq]
      exact hcount
    · exact h.depth id
  · intro limit hlimit id count hrun
    rw [hlimit] at hdirect
    have hfew : s.directRecursion identity < max limit.toNat 1 :=
      Nat.lt_of_not_le (of_decide_eq_false hdirect)
    rcases List.infix_cons_iff.1 hrun with hprefix | hinfix
    · cases count with
      | zero => exact Nat.zero_le _
      | succ count =>
          rw [List.replicate_succ, List.cons_prefix_cons] at hprefix
          obtain ⟨rfl, hprefix⟩ := hprefix
          have hle := le_length_takeWhile hprefix
          exact Nat.lt_of_le_of_lt hle hfew
    · exact h.runs limit hlimit id count hinfix

theorem StackWithin.opened (h : StackWithin setup stack) {s : RunState} (hopen : s.openTypes = stack)
    {type : ResolvedType} (hrefused : refused? setup s type = none) :
    StackWithin setup (type.identity.toList ++ stack) := by
  cases hidentity : type.identity with
  | none => exact h
  | some identity => exact h.push hopen hrefused hidentity

/-! ## Ways of entering named types -/

/-- A way of entering named types that is the walk's own, as far as the open types keep their limits and
no more than `depth` types are entered one inside the other. -/
def EntersWithin (setup : Setup) : (depth : Nat) → Enter → Prop
  | 0, _ => True
  | depth + 1, enter => ∃ deeper, EntersWithin setup depth deeper ∧
    ∀ path scope rule g s, StackWithin setup s.openTypes →
      (enter path scope rule g).exec s = (walkGroup setup deeper path scope rule false g).exec s

/-- A solution of the recursion without a bound is such a way, at any depth. -/
theorem entersWithin_of_recursion {enter : Enter}
    (h : ∀ path scope rule g s, (enter path scope rule g).exec s =
      (walkGroup setup enter path scope rule false g).exec s) (depth : Nat) :
    EntersWithin setup depth enter := by
  induction depth with
  | zero => trivial
  | succ depth ih => exact ⟨enter, ih, fun path scope rule g s _ => h path scope rule g s⟩

/-- With a budget, the walk enters named types in such a way up to the budget. -/
theorem entersWithin_enterWithin {depth budget : Nat} (h : depth ≤ budget) :
    EntersWithin setup depth (enterWithin setup budget) := by
  induction depth generalizing budget with
  | zero => trivial
  | succ depth ih =>
      obtain ⟨budget, rfl⟩ : ∃ more, budget = more + 1 := ⟨budget - 1, by omega⟩
      exact ⟨enterWithin setup budget, ih (by omega), fun _ _ _ _ _ _ => rfl⟩

/-- The members of the content of an element, when named types are entered in some way. -/
def insideBy (setup : Setup) (enter : Enter) (e : Element) (type : ResolvedType) (path : String)
    (rule : Option ElementRule) : Inside :=
  match e.content with
  | none => insideNamed enter type path rule
  | some g => fun scope => walkGroup setup enter path scope rule false g

/-- Builds one occurrence of an element in a namespace, when named types are entered in some way. -/
def buildInBy (setup : Setup) (enter : Enter) (e : Element) (parentPath : String)
    (uri : Option String) (scope : Nat) : Run (Option Node) := do
  let path := joinPath parentPath e.name
  let type ← Run.ofSchema (setup.schema.resolveType e)
  match refused? setup (← get) type with
  | some identity =>
    Run.follow (.passedOver path identity)
    return none
  | none =>
    let rule := setup.plan.rule? e.name path
    buildOccurrence setup e type path rule uri scope (insideBy setup enter e type path rule)

/-- Builds a document, when named types are entered in some way. -/
def buildDocumentBy (setup : Setup) (enter : Enter) (root : Element) : Run Node := do
  let uri := root.decl.uri <|> setup.schema.targetNamespace
  let scope ← Run.openScope
  match ← buildInBy setup enter root "" uri scope with
  | some node => return node
  | none => return .mk { name := root.name, uri, truncated := true } []

theorem buildDocumentBy_enter (root : Element) :
    buildDocumentBy setup (enter setup) root = buildDocument setup root := rfl

section Walk

variable (setup)

theorem insideWith_eq (enter : Enter) :
    insideWith setup (buildOccurrence setup) enter = insideBy setup enter := by
  funext e type path rule
  cases e with
  | mk decl content =>
      cases content with
      | none => rfl
      | some g =>
          funext scope
          exact (walkWith_eq setup enter).2.1 g path scope rule false

theorem buildDocumentWith_eq (enter : Enter) (root : Element) :
    buildDocumentWith setup (buildOccurrence setup) enter root = buildDocumentBy setup enter root := by
  unfold buildDocumentWith buildInWith
  rw [insideWith_eq]
  rfl

end Walk

/-! ## Types that are open -/

section Limits

variable {root : Element} (hvalid : setup.schema.validate = .ok ())
  (hroot : setup.schema.ElementPasses root)

include hvalid hroot

theorem Admits.stackFits {path : String} {e : Element} (he : Visits setup root path stack e)
    {type : ResolvedType} (hresolve : setup.schema.resolveType e = .ok type)
    (hadmits : Admits setup stack type) (hfits : StackFits setup stack) :
    StackFits setup (type.identity.toList ++ stack) := by
  obtain ⟨s, hopen, hrefused⟩ := hadmits
  have hpasses := he.reaches.passes hvalid hroot
  have htype := Schema.typePasses_of_resolveType hvalid hpasses hresolve
  cases hidentity : type.identity with
  | none => exact hfits
  | some identity => exact hfits.push hopen htype hrefused hidentity

omit hvalid hroot in
theorem Admits.stackWithin {type : ResolvedType} (hadmits : Admits setup stack type)
    (hwithin : StackWithin setup stack) : StackWithin setup (type.identity.toList ++ stack) := by
  obtain ⟨s, hopen, hrefused⟩ := hadmits
  exact hwithin.opened hopen hrefused

/-- Wherever the walk can come, the types that are open keep their limits. -/
theorem Visits.keepsLimits {path : String} {e : Element} (h : Visits setup root path stack e) :
    StackFits setup stack ∧ StackWithin setup stack := by
  induction h with
  | root => exact ⟨stackFits_nil setup, stackWithin_nil setup⟩
  | child he hresolve _ hadmits _ ih =>
      exact ⟨hadmits.stackFits hvalid hroot he hresolve ih.1, hadmits.stackWithin ih.2⟩

theorem Enters.keepsLimits {path : String} {g : Group} (h : Enters setup root path stack g) :
    StackFits setup stack ∧ StackWithin setup stack := by
  obtain ⟨e, outer, type, he, hresolve, -, hadmits, rfl⟩ := h
  obtain ⟨hfits, hwithin⟩ := he.keepsLimits hvalid hroot
  exact ⟨hadmits.stackFits hvalid hroot he hresolve hfits, hadmits.stackWithin hwithin⟩

/-! ## Types that are entered -/

/-- Two ways of entering named types that are both the walk's own within the limits do the same, if
together with the types that are open they go as deep as the limits can lead. -/
theorem enter_alike {depth budget : Nat} {enter : Enter} (henter : EntersWithin setup depth enter)
    (hdepth : setup.schema.types.length * setup.plan.settings.maxDepth.toNat ≤ depth + stack.length)
    (hbudget : setup.schema.types.length * setup.plan.settings.maxDepth.toNat ≤
      budget + stack.length) :
    EnterAlike setup root (fun _ => True) stack enter (enterWithin setup budget) := by
  induction depth generalizing budget stack enter with
  | zero =>
      intro identity path g henters
      have hlength := (henters.keepsLimits hvalid hroot).1.length_le
      rw [List.length_cons] at hlength
      omega
  | succ depth ih =>
      intro identity path g henters scope rule
      obtain ⟨hfits, hwithin⟩ := henters.keepsLimits hvalid hroot
      cases budget with
      | zero =>
          have hlength := hfits.length_le
          rw [List.length_cons] at hlength
          omega
      | succ budget =>
          obtain ⟨deeper, hdeeper, henter⟩ := henter
          have hnext : EnterAlike setup root (fun _ => True) (identity :: stack) deeper
              (enterWithin setup budget) := by
            refine ih hdeeper ?_ ?_
            · rw [List.length_cons]
              omega
            · rw [List.length_cons]
              omega
          have hwalk := (members_alike refusesIn_true beside_self hnext).2.1 g path
            henters.visitsAll scope rule false
          rw [setup.vary_variation, (walkWith_eq setup deeper).2.1, (walkWith_eq setup _).2.1] at hwalk
          intro s hs
          rw [henter path scope rule g s (hs.opened ▸ hwithin)]
          exact hwalk s hs

/-- The document is the same for every way of entering named types that is the walk's own within the
limits of the open types. -/
theorem buildDocumentBy_eq {enter : Enter}
    (henter : EntersWithin setup
      (setup.schema.types.length * setup.plan.settings.maxDepth.toNat) enter)
    {s : RunState} (hopen : s.openTypes = []) :
    (buildDocumentBy setup enter root).exec s = (buildDocument setup root).exec s := by
  have hwalk : EnterAlike setup root (fun _ => True) [] enter (Walk.enter setup) :=
    enter_alike hvalid hroot henter (Nat.le_refl _) (Nat.le_succ _)
  have hsame := (buildDocument_alike refusesIn_true beside_self hwalk s
    (RunState.guarded_of_openTypes hopen)).1
  rw [← buildDocumentBy_enter, ← buildDocumentWith_eq, ← buildDocumentWith_eq]
  exact hsame

end Limits
end Walk
end Specimen
