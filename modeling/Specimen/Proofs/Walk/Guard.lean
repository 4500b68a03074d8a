import Specimen.Proofs.Schema.Recursion
import Specimen.Proofs.Walk.Depth

/-!
# What the guard sees

The recursion guard looks at the types that are open.  Wherever the walk can come, these are the named types on the
way there, so the guard refuses a type only if it is recursive.  Without recursive types it refuses none, and then
the walk does not depend on how deeply types may be nested.
-/

namespace Specimen

open Run

/-- A setup with other limits for how deeply types may be nested. -/
def Setup.withNesting (setup : Setup) (depth : UInt32) (circular : Option UInt32) : Setup :=
  setup.withLimits { setup.limits with depth, circular }

/-- In what a setup with other limits for how deeply types may be nested differs. -/
def Setup.nested (setup : Setup) (depth : UInt32) (circular : Option UInt32) : Variation :=
  { setup.variation with limits := { setup.limits with depth, circular } }

namespace Walk

variable {setup : Setup} {root : Element} {stack : List String}

/-! ## Refusals -/

/-- The guard refuses only types that are open. -/
theorem mem_openTypes_of_refused (hdepth : 1 ≤ setup.plan.settings.maxDepth.toNat) {s : RunState}
    {type : ResolvedType} {identity : String} (h : refused? setup s type = some identity) :
    type.identity = some identity ∧ identity ∈ s.openTypes := by
  obtain ⟨hidentity, hwould⟩ := Option.filter_eq_some_iff.1 h
  refine ⟨hidentity, ?_⟩
  unfold wouldTruncate at hwould
  rcases Bool.or_eq_true_iff.1 hwould with hdeep | hdirect
  · have hcount : 0 < s.openTypes.count identity := Nat.lt_of_lt_of_le hdepth (of_decide_eq_true hdeep)
    exact List.count_pos_iff.1 hcount
  · split at hdirect
    · have hrun : max _ 1 ≤ s.directRecursion identity := of_decide_eq_true hdirect
      have hpos : 0 < (s.openTypes.takeWhile (· == identity)).length :=
        Nat.lt_of_lt_of_le (Nat.le_max_right _ 1) hrun
      obtain ⟨other, hother⟩ := List.exists_mem_of_length_pos hpos
      have heq : other = identity := eq_of_beq (List.all_eq_true.1 List.all_takeWhile other hother)
      exact heq ▸ (List.takeWhile_sublist _).subset hother
    · cases hdirect

/-- Whether a type is a recursive type of the schema. -/
abbrev Recursive (setup : Setup) (type : String) : Prop := type ∈ setup.schema.typeGraph.recursive

/-- Wherever the walk can come, the guard refuses only recursive types. -/
theorem refusesIn_recursive (hdepth : 1 ≤ setup.plan.settings.maxDepth.toNat) (root : Element) :
    RefusesIn setup root (Recursive setup) := by
  intro path stack e type s identity he hresolve hopen hrefused
  obtain ⟨hidentity, hmem⟩ := mem_openTypes_of_refused hdepth hrefused
  exact he.reaches.recursive hresolve hidentity (hopen ▸ hmem)

/-- When a walk ends, also when it fails, only recursive types were refused. -/
theorem buildDocument_guarded (hdepth : 1 ≤ setup.plan.settings.maxDepth.toNat) {s : RunState}
    (hs : s.Guarded (Recursive setup) []) :
    ((buildDocument setup root).exec s).2.Guarded (Recursive setup) [] := by
  have hmay := refusesIn_recursive hdepth root
  have hbeside : Beside setup root setup.variation (buildOccurrence setup) := beside_self
  have henter := enterWithin_alike hmay hbeside
    (setup.schema.types.length * setup.plan.settings.maxDepth.toNat + 1) []
  obtain ⟨-, hguarded⟩ := buildDocument_alike hmay hbeside henter s hs
  rwa [buildDocumentWith_eq, enterWithinWith_eq] at hguarded

/-! ## Occurrences -/

/-- An occurrence begins only where the walk can come, with its type, while the types on the way are open. -/
theorem beginsOnly_visits {s : RunState} (hopen : s.openTypes = []) :
    BeginsOnly setup root (fun e type path types =>
      Visits setup root path types e ∧ setup.schema.resolveType e = .ok type) s := by
  intro occur hoccur
  have hbeside : Beside setup root setup.variation occur := by
    constructor
    · exact fun _ => rfl
    · intro path stack e type s _ _ _
      rfl
    · intro path stack e _
      rfl
    · rfl
    · intro path stack e type s he hresolve hopen rule uri scope inside
      exact hoccur e type path rule uri scope inside s ⟨hopen ▸ he, hresolve⟩
  have henter := enterWithin_alike refusesIn_true hbeside
    (setup.schema.types.length * setup.plan.settings.maxDepth.toNat + 1) []
  obtain ⟨hsame, -⟩ := buildDocument_alike refusesIn_true hbeside henter s
    (RunState.guarded_of_openTypes hopen)
  rw [buildDocumentWith_eq, enterWithinWith_eq] at hsame
  exact hsame

/-! ## Walks without recursion -/

section Nesting

variable (hnone : setup.schema.typeGraph.recursive = [])
  (hdepth : 1 ≤ setup.plan.settings.maxDepth.toNat) {depth : UInt32} {circular : Option UInt32}

include hnone hdepth

theorem refused?_eq_none {path : String} {e : Element} (he : setup.schema.Reaches root path stack e)
    {type : ResolvedType} (hresolve : setup.schema.resolveType e = .ok type) {s : RunState}
    (hopen : s.openTypes = stack) : refused? setup s type = none := by
  cases hrefused : refused? setup s type with
  | none => rfl
  | some identity =>
      obtain ⟨hidentity, hmem⟩ := mem_openTypes_of_refused hdepth hrefused
      have hrecursive := he.recursive hresolve hidentity (hopen ▸ hmem)
      rw [hnone] at hrecursive
      cases hrecursive

omit hnone hdepth in
theorem buildOccurrence_withNesting :
    buildOccurrence (setup.withNesting depth circular) = buildOccurrence setup := by
  funext e type path rule uri scope inside
  unfold buildOccurrence buildContent Setup.withNesting
  simp only [buildAttributes_withLimits, leafText_withLimits]
  rfl

theorem beside_withNesting (hother : 1 ≤ depth.toNat) :
    Beside setup root (setup.nested depth circular)
      (buildOccurrence (setup.withNesting depth circular)) := by
  constructor
  · exact fun _ => rfl
  · intro path stack e type s he hresolve hopen
    have hnone' : (setup.withNesting depth circular).schema.typeGraph.recursive = [] := hnone
    rw [refused?_eq_none hnone hdepth he.reaches hresolve hopen]
    exact refused?_eq_none hnone' hother he.reaches hresolve hopen
  · intro path stack e _
    rfl
  · rfl
  · intro path stack e type s _ _ _ rule uri scope inside
    rw [buildOccurrence_withNesting]

/-- Without recursive types, the document is the same however deeply types may be nested. -/
theorem buildDocument_withNesting (hvalid : setup.schema.validate = .ok ())
    (hroot : setup.schema.ElementPasses root) (hother : 1 ≤ depth.toNat) {s : RunState}
    (hopen : s.openTypes = []) :
    (buildDocument (setup.withNesting depth circular) root).exec s = (buildDocument setup root).exec s := by
  -- the budgets for named types differ, but one that is enough for both depths serves both walks
  let budget := setup.schema.types.length * max depth.toNat setup.plan.settings.maxDepth.toNat
  have hby : ∀ setup' : Setup, setup'.schema = setup.schema →
      setup'.plan.settings.maxDepth.toNat ≤ max depth.toNat setup.plan.settings.maxDepth.toNat →
        (buildDocumentBy setup' (enterWithin setup' budget) root).exec s =
          (buildDocument setup' root).exec s := by
    intro setup' hschema hle
    rw [← hschema] at hvalid hroot
    refine buildDocumentBy_eq hvalid hroot (entersWithin_enterWithin ?_) hopen
    rw [hschema]
    exact Nat.mul_le_mul_left _ hle
  have hbeside : Beside setup root (setup.nested depth circular)
      (buildOccurrence (setup.withNesting depth circular)) := beside_withNesting hnone hdepth hother
  have henter := enterWithin_alike refusesIn_true hbeside budget []
  obtain ⟨hsame, -⟩ := buildDocument_alike refusesIn_true hbeside henter s
    (RunState.guarded_of_openTypes hopen)
  change (buildDocumentWith (setup.withNesting depth circular)
    (buildOccurrence (setup.withNesting depth circular)) (enterWithinWith
      (setup.withNesting depth circular) (buildOccurrence (setup.withNesting depth circular)) budget)
        root).exec s = _ at hsame
  rw [buildDocumentWith_eq, enterWithinWith_eq, buildDocumentWith_eq, enterWithinWith_eq] at hsame
  rw [← hby setup rfl (Nat.le_max_right _ _), ← hsame]
  exact (hby (setup.withNesting depth circular) rfl (Nat.le_max_left _ _)).symm

end Nesting
end Walk
end Specimen
