import Specimen.Proofs.Run.Budget
import Specimen.Proofs.Schema.Reordering
import Specimen.Proofs.Walk.Depth

/-!
# Runs of schemas whose types are in another order

The order in which a schema declares its types decides nothing.  What is settled before the walk depends on the
types through the catalog alone, and the walk finds the same type of every element and every attribute.  It also
has as many types to enter.
-/

namespace Specimen

open Run

/-- A setup with other named types. -/
abbrev Setup.typedBy (setup : Setup) (types : List TypeDefinition) : Variation :=
  { setup.variation with types }

/-! ## The walk -/

namespace Walk

section Types

variable {setup : Setup} {root : Element} {types : List TypeDefinition}
  (hfind : setup.schema.FindsAlike (setup.vary (setup.typedBy types)).schema)

include hfind

theorem buildOccurrence_typedBy (e : Element) (type : ResolvedType) (path : String) :
    buildOccurrence (setup.vary (setup.typedBy types)) e type path = buildOccurrence setup e type path := by
  have hattributes : ∀ scope,
      buildAttributes (setup.vary (setup.typedBy types)) path scope type.attributes =
        buildAttributes setup path scope type.attributes := fun scope =>
    buildAttributes_vary setup _ (fun _ _ => rfl) (Schema.resolveAttribute_congr hfind) path scope
      fun _ _ => rfl
  have htext : ∀ facets scope, leafText (setup.vary (setup.typedBy types)) e path facets scope =
      leafText setup e path facets scope :=
    leafText_vary setup _ (fun _ _ => rfl) rfl
  funext rule uri parentScope inside
  unfold buildOccurrence buildContent
  simp only [hattributes, htext]
  rfl

theorem beside_typedBy : Beside setup root (setup.typedBy types)
    (buildOccurrence (setup.vary (setup.typedBy types))) := by
  constructor
  · exact Schema.resolveType_congr hfind
  · intro path stack e type s _ _ _
    rfl
  · intro path stack e _
    rfl
  · rfl
  · intro path stack e type s _ _ _ rule uri scope inside
    rw [buildOccurrence_typedBy hfind]

/-- With as many types that are found alike, the document is the same. -/
theorem buildDocument_typedBy (hlength : types.length = setup.schema.types.length) {s : RunState}
    (hopen : s.openTypes = []) :
    (buildDocument (setup.vary (setup.typedBy types)) root).exec s = (buildDocument setup root).exec s := by
  have hbeside : Beside setup root (setup.typedBy types) (buildOccurrence (setup.vary (setup.typedBy types))) :=
    beside_typedBy hfind
  have hbudget : enter (setup.vary (setup.typedBy types)) =
      enterWithin (setup.vary (setup.typedBy types))
        (setup.schema.types.length * setup.plan.settings.maxDepth.toNat + 1) := by
    rw [← hlength]
    rfl
  have henter := enterWithin_alike refusesIn_true hbeside
    (setup.schema.types.length * setup.plan.settings.maxDepth.toNat + 1) []
  obtain ⟨hdocument, -⟩ := buildDocument_alike refusesIn_true hbeside henter s
    (RunState.guarded_of_openTypes hopen)
  rw [enterWithinWith_eq, enterWithinWith_eq, ← hbudget, buildDocumentWith_eq, buildDocumentWith_eq] at hdocument
  exact hdocument

end Types
end Walk

/-! ## Runs -/

namespace Generation

variable {schema : Schema} {types : List TypeDefinition} {config : Config} {options : Options}

theorem planFor_withTypes (hcatalog : (schema.withTypes types).catalog = schema.catalog) :
    planFor (schema.withTypes types) config options = planFor schema config options := by
  have hfaults : ∀ plan : Plan, plan.faultsAgainst (schema.withTypes types) = plan.faultsAgainst schema := by
    intro plan
    unfold Plan.faultsAgainst
    rw [hcatalog]
    rfl
  unfold planFor
  simp only [hfaults]

/-- What is settled before the walk is the same but for the order of the types. -/
theorem prepare_withTypes (hvalid : schema.validate = .ok ()) (hperm : types.Perm schema.types) (config : Config)
    (options : Options) :
    prepare (schema.withTypes types) config options =
      (prepare schema config options).map fun p => (p.1.vary (p.1.typedBy types), p.2) := by
  have hcatalog := Schema.catalog_withTypes hvalid hperm
  have hindex : ∀ plan, Index.ofSchema (schema.withTypes types) plan = Index.ofSchema schema plan := by
    intro plan
    unfold Index.ofSchema
    rw [hcatalog]
  have hselect : ∀ plan, selectRoot (schema.withTypes types) plan options = selectRoot schema plan options :=
    fun _ => rfl
  change _ = (fun p : Setup × Element => (p.1.vary (p.1.typedBy types), p.2)) <$> prepare schema config options
  unfold prepare
  rw [hvalid, (Schema.validate_withTypes hperm).2 hvalid, planFor_withTypes hcatalog]
  simp only [hindex, hselect, map_bind, map_pure]
  rfl

/-- Schemas that declare the same types in another order are valid together, and when they are, every run of one
gives what the run of the other gives. -/
theorem types_in_any_order (schema : Schema) (types : List TypeDefinition)
    (hperm : types.Perm schema.types) :
    ((schema.withTypes types).validate = .ok () ↔ schema.validate = .ok ()) ∧
      (schema.validate = .ok () → ∀ config options freshSeed,
        run (schema.withTypes types) config options freshSeed = run schema config options freshSeed) := by
  refine ⟨Schema.validate_withTypes hperm, fun hvalid config options freshSeed => ?_⟩
  have hprepare := prepare_withTypes hvalid hperm config options
  cases hfirst : prepare schema config options with
  | error e =>
      rw [hfirst] at hprepare
      unfold run
      rw [hprepare, hfirst]
      rfl
  | ok p =>
      obtain ⟨setup, root⟩ := p
      rw [hfirst] at hprepare
      obtain rfl := (prepared_of_prepare hfirst).schema_eq
      have hfind := Schema.findsAlike_of_perm hperm (Schema.nodup_of_valid hvalid)
      have hwalk : (Walk.buildDocument (setup.vary (setup.typedBy types)) root).exec
          (beginning setup root freshSeed) = (Walk.buildDocument setup root).exec (beginning setup root freshSeed) :=
        Walk.buildDocument_typedBy hfind hperm.length_eq rfl
      rw [run_of_walk hprepare hwalk, run_of_walk hfirst rfl]
      rfl

/-- A route of stops, each with a name. -/
def routeSchema : Schema where
  version := "1"
  elements := [.mk { name := "Route", typeRef := some "RouteType" } none]
  types := [
    { name := "StopType", simpleType := some (Facets.ofBase .string) },
    { name := "RouteType", content := some (.mk { kind := .sequence } [
      .element (.mk
        { name := "Stop", typeRef := some "StopType", maxOccurs := .unbounded, fixed := some "x" } none)]) }]

theorem types_in_any_order_route : routeSchema.types.reverse.Perm routeSchema.types ∧
    routeSchema.validate = .ok () ∧ (routeSchema.withTypes routeSchema.types.reverse).validate = .ok () ∧
    (∃ made, run routeSchema {} {} 0 = .ok made) ∧
    run (routeSchema.withTypes routeSchema.types.reverse) {} {} 0 = run routeSchema {} {} 0 := by
  have hperm : routeSchema.types.reverse.Perm routeSchema.types := List.reverse_perm _
  have hvalid : routeSchema.validate = .ok () := by decide +kernel
  have hmade : (run routeSchema {} {} 0).isOk = true := by decide +kernel
  obtain ⟨hvalidity, hruns⟩ := types_in_any_order routeSchema routeSchema.types.reverse hperm
  refine ⟨hperm, hvalid, hvalidity.2 hvalid, ?_, hruns hvalid {} {} 0⟩
  cases hrun : run routeSchema {} {} 0 with
  | error e =>
      rw [hrun] at hmade
      cases hmade
  | ok made => exact ⟨made, rfl⟩

end Generation
end Specimen
