import Specimen.Proofs.Run.Budget
import Specimen.Proofs.Run.Settings
import Specimen.Proofs.Schema.Listing
import Specimen.Proofs.Walk.Guard
import Specimen.Proofs.Walk.Nesting

/-!
# Runs without recursion

The recursion guard fires only for recursive types.  When a schema has none, the guard never fires, and how
deeply types may be nested makes no difference: neither for what is settled before the walk nor for the walk.

The catalog lists what a schema declares, and it stops below a named type that it is in already.  The walk goes on
there, so it meets elements that the catalog does not list.  But as long as no type is open twice, the catalog has an
entry for whatever the walk begins.  Without recursive types it has an entry for everything.
-/

namespace Specimen

/-! ## Other depths -/

/-- A plan with another greatest depth. -/
def Plan.withDepth (plan : Plan) (depth : UInt32) : Plan :=
  { plan with settings := { plan.settings with maxDepth := depth } }

/-- A configuration with another greatest depth. -/
def Config.withDepth (config : Config) (depth : UInt32) : Config :=
  { config with settings := { config.settings with maxDepth := depth } }

namespace Config

variable {config : Config} {depth : UInt32}

theorem unseen_withDepth (h : config.settings.maxDepth ≠ 0) (hdepth : depth ≠ 0) :
    config.Unseen (fun s => { s with maxDepth := depth }) fun s => { s with maxDepth := depth } := by
  constructor
  · unfold compileSettings
    rw [if_neg h, if_neg hdepth]
  · exact fun _ => rfl

end Config

namespace Generation

variable {schema : Schema} {config : Config} {options : Options} {setup : Setup} {root : Element}
  {depth : UInt32} {circular : Option UInt32}

theorem Prepared.depth_pos (h : Prepared schema config options setup root) :
    1 ≤ setup.plan.settings.maxDepth.toNat ∧ config.settings.maxDepth ≠ 0 := by
  obtain ⟨plan, warnings, hcompile, hplan, -⟩ := h.compiled
  obtain ⟨hne, hsame⟩ := Config.depth_of_compile hcompile
  have hdepth : setup.plan.settings.maxDepth = config.settings.maxDepth := by
    rw [hplan]
    exact hsame
  refine ⟨?_, hne⟩
  rw [hdepth]
  have hpos : config.settings.maxDepth.toNat ≠ 0 := fun hzero => hne (UInt32.toNat_inj.1 hzero)
  omega

/-- What is settled before the walk does not depend on how deeply types may be nested. -/
theorem prepare_withNesting (h : config.settings.maxDepth ≠ 0) (hdepth : depth ≠ 0) :
    prepare schema (config.withDepth depth) { options with circularLimit := circular } =
      (prepare schema config options).map fun p => (p.1.withNesting depth circular, p.2) := by
  have hunseen := @Config.unseen_withDepth (override config options) depth h hdepth
  have hoverride : override (config.withDepth depth) { options with circularLimit := circular } =
      (override config options).withDepth depth := rfl
  have hprepare := @prepare_mapSettings config _ _ schema options
    (fun options => { options with circularLimit := circular }) hunseen hoverride rfl
  exact hprepare.trans (congrArg (Except.map · _) (funext fun _ => rfl))

theorem ne_zero_of_one_le {n : UInt32} (h : 1 ≤ n.toNat) : n ≠ 0 := by
  rintro rfl
  cases h

/-- When a schema has no recursive types, a run gives the same however deeply types may be nested. -/
theorem run_withNesting (hnone : schema.typeGraph.recursive = [])
    (h : 1 ≤ config.settings.maxDepth.toNat) (hdepth : 1 ≤ depth.toNat) (freshSeed : UInt64) :
    (run schema (config.withDepth depth) { options with circularLimit := circular } freshSeed).map
        Generated.result =
      (run schema config options freshSeed).map Generated.result := by
  have hother := @prepare_withNesting schema config options depth circular (ne_zero_of_one_le h)
    (ne_zero_of_one_le hdepth)
  refine run_map (fun setup => setup.withNesting depth circular) id hother fun setup root hprepare => ?_
  have hprepared := prepared_of_prepare hprepare
  have hnone' : setup.schema.typeGraph.recursive = [] := hprepared.schema_eq ▸ hnone
  have hwalk := @Walk.buildDocument_withNesting setup root hnone' hprepared.depth_pos.1 depth circular
    hprepared.schema_valid hprepared.root_passes hdepth (beginning setup root freshSeed) rfl
  rw [Except.map_id]
  exact hwalk

/-- When a walk ends, also when it fails, only recursive types of the schema were refused. -/
theorem refusesOnly_of_prepare (hprepare : prepare schema config options = .ok (setup, root)) (seed : UInt64)
    (rng : Random.Rng) :
    ((Walk.buildDocument setup root).exec (firstState setup root seed rng)).2.RefusesOnly
      (· ∈ schema.typeGraph.recursive) := by
  have hprepared := prepared_of_prepare hprepare
  have hfirst : (firstState setup root seed rng).Guarded (Walk.Recursive setup) [] := by
    refine ⟨⟨?_, ?_⟩, rfl⟩
    · exact fun _ hevent => (Array.not_mem_empty _ hevent).elim
    · exact fun _ hnotice => (Array.not_mem_empty _ hnotice).elim
  have hguarded := @Walk.buildDocument_guarded setup root hprepared.depth_pos.1 _ hfirst
  rw [← hprepared.schema_eq]
  exact hguarded.toRefusesOnly

/-- The recursion guard fires only for recursive types.  At the elements that the walk can come to it holds of
no other type, and whatever a run draws, and also when it fails, each type that its trace says was refused is
a recursive type of the schema.  So when the schema has none, nothing is cut off at a depth limit, and a run
gives the same whatever greatest depth of at least one is configured and whatever limit of circular references
is asked for. -/
theorem guard_needs_recursion (schema : Schema) (config : Config) (options : Options)
    (hdepth : 1 ≤ config.settings.maxDepth.toNat) :
    (∀ setup root, prepare schema config options = .ok (setup, root) →
      (∀ path types e type, Walk.Visits setup root path types e → schema.resolveType e = .ok type →
        ∀ s : RunState, s.openTypes = types → ∀ identity, type.identity = some identity →
          Walk.wouldTruncate setup s identity = true → identity ∈ schema.typeGraph.recursive) ∧
      ∀ seed rng, ∀ event ∈ (walkFrom setup root (firstState setup root seed rng)).2, ∀ type,
        event.refusedType? = some type → type ∈ schema.typeGraph.recursive) ∧
    (schema.typeGraph.recursive = [] →
      (∀ setup root, prepare schema config options = .ok (setup, root) → ∀ seed rng,
        let ending := ((Walk.buildDocument setup root).exec (firstState setup root seed rng)).2
        ∀ notice ∈ ending.report.truncations, notice.code ≠ "depth_limit") ∧
      ∀ depth : UInt32, 1 ≤ depth.toNat → ∀ circular freshSeed,
        (run schema (config.withDepth depth) { options with circularLimit := circular } freshSeed).map
            Generated.result =
          (run schema config options freshSeed).map Generated.result) := by
  refine ⟨fun setup root hprepare => ⟨?_, ?_⟩, fun hnone => ⟨?_, ?_⟩⟩
  · intro path types e type hvisits hresolve s hopen identity hidentity hwould
    have hprepared := prepared_of_prepare hprepare
    rw [← hprepared.schema_eq] at hresolve ⊢
    have hrefused : Walk.refused? setup s type = some identity :=
      Option.filter_eq_some_iff.2 ⟨hidentity, hwould⟩
    exact Walk.refusesIn_recursive hprepared.depth_pos.1 root hvisits hresolve hopen hrefused
  · intro seed rng event hevent type htype
    exact (refusesOnly_of_prepare hprepare seed rng).refused event hevent type htype
  · intro setup root hprepare seed rng ending notice hnotice hcode
    obtain ⟨type, htype⟩ := (refusesOnly_of_prepare hprepare seed rng).cut notice hnotice hcode
    rw [hnone] at htype
    cases htype
  · intro depth hother circular freshSeed
    exact run_withNesting hnone hdepth hother freshSeed

/-- A schema in which one named type refers to another, and none to itself. -/
def legSchema : Schema where
  version := "1"
  elements := [.mk { name := "Trip", typeRef := some "Trip" } none]
  types := [
    { name := "Trip"
      content := some (.mk { kind := .sequence } [
        .element (.mk { name := "Leg", typeRef := some "Leg", maxOccurs := .unbounded } none)]) },
    { name := "Leg"
      content := some (.mk { kind := .sequence } [
        .element (.mk { name := "City", typeRef := some "xs:string", fixed := some "x" } none)]) }]

theorem guard_needs_recursion_part : 1 ≤ ({} : Config).settings.maxDepth.toNat ∧
    (∃ setup root event, prepare Walk.partSetup.schema {} {} = .ok (setup, root) ∧
      event ∈ (walkFrom setup root (firstState setup root 0 zeroRng)).2 ∧
        event.refusedType? = some "Part" ∧ "Part" ∈ Walk.partSetup.schema.typeGraph.recursive) ∧
    legSchema.typeGraph.recursive = [] ∧ 1 ≤ (1 : UInt32).toNat ∧
      ∃ made, run legSchema {} {} 0 = .ok made ∧
        (run legSchema (Config.withDepth {} 1) { circularLimit := some 1 } 0).map Generated.result =
          .ok made.result := by
  refine ⟨by decide, ?_, by decide +kernel, by decide, ?_⟩
  · have hcomputed : zeroRun Walk.partSetup.schema {} (fun _ trace =>
        trace.any fun event => event.refusedType? == some "Part") = true := by decide +kernel
    obtain ⟨setup, root, made, trace, hprepare, hwalk, hany⟩ := exists_of_zeroRun hcomputed
    obtain ⟨event, hevent, htype⟩ := Array.any_eq_true'.1 hany
    have hrefused : event.refusedType? = some "Part" := eq_of_beq htype
    have hmem : event ∈ (walkFrom setup root (firstState setup root 0 zeroRng)).2 := by
      rw [hwalk]
      exact hevent
    refine ⟨setup, root, event, hprepare, hmem, hrefused, ?_⟩
    exact ((guard_needs_recursion Walk.partSetup.schema {} {} (by decide)).1 setup root hprepare).2 0
      zeroRng event hmem "Part" hrefused
  · have hcomputed : (match run legSchema {} {} 0 with
        | .ok _ => true
        | .error _ => false) = true := by decide +kernel
    split at hcomputed
    · rename_i made hmade
      refine ⟨made, hmade, ?_⟩
      have hsame := ((guard_needs_recursion legSchema {} {} (by decide)).2 (by decide +kernel)).2 1
        (by decide) (some 1) 0
      rw [hmade] at hsame
      exact hsame
    · cases hcomputed

/-! ## The catalog and the walk -/

/-- Each occurrence that the walk begins is one of an element of the schema that can be reached from the root,
with its type, while the types on the way are open. -/
theorem Prepared.beginsOnly_reaches (h : Prepared schema config options setup root) {s : RunState}
    (hopen : s.openTypes = []) :
    Walk.BeginsOnly setup root (fun e type path types =>
      schema.Reaches root path types e ∧ schema.resolveType e = .ok type) s := by
  refine (Walk.beginsOnly_visits hopen).mono fun e type path types hvisits => ?_
  rw [← h.schema_eq]
  exact ⟨hvisits.1.reaches, hvisits.2⟩

/-- The catalog covers the walk.  Whatever a run draws, each occurrence that it begins while no named type is
open twice is listed in the catalog of the schema: there is an entry at the path of the occurrence, with the
name and the simple type of the element, and one for each attribute of its type, with the simple type that its
values are drawn from. -/
theorem catalog_covers_walk (schema : Schema) (config : Config) (options : Options) (setup : Setup)
    (root : Element) (hprepare : prepare schema config options = .ok (setup, root)) :
    ∃ entries, schema.catalog = .ok entries ∧ ∀ s : RunState, s.openTypes = [] →
      Walk.BeginsOnly setup root
        (fun e type path types => types.Nodup → schema.Covers entries path e type) s := by
  have hprepared := prepared_of_prepare hprepare
  obtain ⟨entries, hcatalog, hentries⟩ := Schema.catalog_lists hprepared.valid
  refine ⟨entries, hcatalog, fun s hopen => ?_⟩
  refine (hprepared.beginsOnly_reaches hopen).mono fun e type path types hbegins hnodup => ?_
  exact hbegins.1.covers hprepared.root_mem hentries hnodup hbegins.2

theorem catalog_covers_walk_folder : ∃ setup root,
    prepare Schema.folderSchema {} {} = .ok (setup, root) ∧
      ∃ entries, Schema.folderSchema.catalog = .ok entries ∧ ∀ s : RunState, s.openTypes = [] →
        Walk.BeginsOnly setup root
          (fun e type path types => types.Nodup → Schema.folderSchema.Covers entries path e type) s := by
  have hcomputed : (match prepare Schema.folderSchema {} {} with
      | .ok _ => true
      | .error _ => false) = true := by decide +kernel
  split at hcomputed
  · rename_i p hprepare
    obtain ⟨setup, root⟩ := p
    exact ⟨setup, root, hprepare,
      catalog_covers_walk Schema.folderSchema {} {} setup root hprepare⟩
  · cases hcomputed

/-- A walk that begins an occurrence does not begin only occurrences that satisfy no condition. -/
example : ¬ Walk.BeginsOnly Walk.partSetup Walk.partElement (fun _ _ _ _ => False)
    (RunState.start 0 {}) := by
  intro h
  have hnone := h (fun _ _ _ _ _ _ _ => pure none) fun _ _ _ _ _ _ _ _ hfalse => hfalse.elim
  have helements := congrArg (·.2.report.elements) hnone
  revert helements
  decide +kernel

/-- When no type is recursive, the catalog covers all that the walk begins. -/
theorem catalog_covers_all (hprepare : prepare schema config options = .ok (setup, root))
    (hnone : schema.typeGraph.recursive = []) :
    ∃ entries, schema.catalog = .ok entries ∧ ∀ s : RunState, s.openTypes = [] →
      Walk.BeginsOnly setup root (fun e type path _ => schema.Covers entries path e type) s := by
  have hprepared := prepared_of_prepare hprepare
  obtain ⟨entries, hcatalog, hentries⟩ := Schema.catalog_lists hprepared.valid
  refine ⟨entries, hcatalog, fun s hopen => ?_⟩
  refine (hprepared.beginsOnly_reaches hopen).mono fun e type path types hbegins => ?_
  have hnodup := hbegins.1.nodup hnone
  exact hbegins.1.covers hprepared.root_mem hentries hnodup hbegins.2

end Generation
end Specimen
