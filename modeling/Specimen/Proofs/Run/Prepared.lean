import Specimen.Proofs.Except
import Specimen.Proofs.Plan.Owners
import Specimen.Proofs.Walk.Steps
import Specimen.Run.Generate

/-!
# What is settled before the walk

A run looks at its schema, its configuration, the data and the root before it takes a step.  What these
checks establish is collected in `Prepared`, and the first facts about the setup are drawn from it:
records are where the plan says, and every field with an owner stands for a leaf.

The checks follow the data of a rule only as far as some value, while the walk reads it as a pool.  That
is the one reference that can fail in the midst of a document (`walk_error_cases`).
-/

namespace Specimen

open Run

namespace Generation

/-- What holds of the setup and the root when the walk begins. -/
structure Prepared (schema : Schema) (config : Config) (options : Options) (setup : Setup)
    (root : Element) : Prop where
  valid : schema.validate = .ok ()
  schema_eq : setup.schema = schema
  options_eq : setup.options = options
  compiled : ∃ plan warnings, (override config options).compile = .ok plan ∧
    setup.plan = { plan with warnings } ∧ ∀ fault ∈ plan.faultsAgainst schema, fault.isError = false
  contexts : contextsFor setup.plan = .ok setup.contexts
  index : Index.ofSchema schema setup.plan = .ok setup.index
  root : selectRoot schema setup.plan options = .ok root

theorem isError_of_isOk {faults : List ConfigFault} (h : (ConfigReport.ofFaults faults).isOk = true) :
    ∀ fault ∈ faults, fault.isError = false := by
  intro fault hfault
  by_contra herror
  have hissue : fault.issue ∈ (ConfigReport.ofFaults faults).errors :=
    List.mem_filter.2 ⟨List.mem_map_of_mem hfault, by simpa [ConfigFault.isError] using herror⟩
  rw [List.isEmpty_iff.1 h] at hissue
  cases hissue

theorem planFor_eq_ok {schema : Schema} {config : Config} {options : Options} {plan : Plan}
    (h : planFor schema config options = .ok plan) :
    ∃ compiled warnings, (override config options).compile = .ok compiled ∧
      plan = { compiled with warnings } ∧
      ∀ fault ∈ compiled.faultsAgainst schema, fault.isError = false := by
  obtain ⟨compiled, hcompile, h⟩ := Except.bind_eq_ok.1 h
  dsimp only at h
  split at h
  · rename_i hok
    exact ⟨compiled, _, mapError_eq_ok.1 hcompile, (Except.ok.inj h).symm, isError_of_isOk hok⟩
  · cases h

theorem prepared_of_prepare {schema : Schema} {config : Config} {options : Options} {setup : Setup}
    {root : Element} (h : prepare schema config options = .ok (setup, root)) :
    Prepared schema config options setup root := by
  obtain ⟨⟨⟩, hvalid, h⟩ := Except.bind_eq_ok.1 h
  obtain ⟨plan, hplan, h⟩ := Except.bind_eq_ok.1 h
  obtain ⟨contexts, hcontexts, h⟩ := Except.bind_eq_ok.1 h
  obtain ⟨index, hindex, h⟩ := Except.bind_eq_ok.1 h
  obtain ⟨selected, hroot, h⟩ := Except.bind_eq_ok.1 h
  cases h
  exact {
    valid := mapError_eq_ok.1 hvalid
    schema_eq := rfl
    options_eq := rfl
    compiled := planFor_eq_ok hplan
    contexts := mapError_eq_ok.1 hcontexts
    index := mapError_eq_ok.1 hindex
    root := mapError_eq_ok.1 hroot }

/-- A run that is prepared begins with the first element if no other one is asked for. -/
theorem prepare_eq_ok_of_isSome {schema : Schema} {config : Config} {options : Options} {setup fallback : Setup}
    {first : Element} {rest : List Element}
    (hsetup : ((prepare schema config options).toOption.map (·.1)).getD fallback = setup)
    (hsome : (prepare schema config options).toOption.isSome = true) (helements : schema.elements = first :: rest)
    (hasked : options.rootElement = none) (hroot : setup.plan.metadata.rootElement = none) :
    prepare schema config options = .ok (setup, first) := by
  cases hprepare : prepare schema config options with
  | error e =>
      rw [hprepare] at hsome
      cases hsome
  | ok prepared =>
      obtain ⟨found, root⟩ := prepared
      obtain rfl : found = setup := by
        rw [hprepare] at hsetup
        exact hsetup
      have hselect := (prepared_of_prepare hprepare).root
      unfold selectRoot at hselect
      rw [hasked, hroot, helements] at hselect
      rw [← Except.ok.inj hselect]

/-! ## References into the data -/

theorem checked_of_contextsFor {plan : Plan} {contexts : Contexts} (h : contextsFor plan = .ok contexts) :
    (∀ rule ∈ plan.rules, checkRule contexts rule = .ok ()) ∧
      ∀ r ∈ plan.relationships, checkSource contexts r = .ok () := by
  obtain ⟨merged, -, h⟩ := Except.bind_eq_ok.1 h
  obtain ⟨⟨⟩, hrules, h⟩ := Except.bind_eq_ok.1 h
  obtain ⟨⟨⟩, hsources, h⟩ := Except.bind_eq_ok.1 h
  rw [← Except.ok.inj h]
  exact ⟨List.forM_eq_ok.1 hrules, List.forM_eq_ok.1 hsources⟩

theorem ok_of_discard {ε α : Type} {x : Except ε α} (h : discard x = .ok ()) : ∃ a, x = .ok a := by
  cases x with
  | error e => cases h
  | ok a => exact ⟨a, rfl⟩

/-- The source of a relationship has records. -/
theorem records_of_contextsFor {plan : Plan} {contexts : Contexts} (h : contextsFor plan = .ok contexts)
    {r : Relationship} (hr : r ∈ plan.relationships) {path : String} (hpath : r.source = some path) :
    ∃ records, contexts.records path = .ok records := by
  have hchecked := (checked_of_contextsFor h).2 r hr
  unfold checkSource at hchecked
  rw [hpath] at hchecked
  exact ok_of_discard hchecked

namespace Prepared

variable {schema : Schema} {config : Config} {options : Options} {setup : Setup} {root : Element}

/-- The data are those of the configuration, merged. -/
theorem merged (h : Prepared schema config options setup root) :
    Contexts.merge config.dataContexts = .ok setup.contexts := by
  obtain ⟨plan, warnings, hcompile, hplan, -⟩ := h.compiled
  have hdata : setup.plan.dataContexts = config.dataContexts := by
    rw [hplan, (Config.compile_eq_ok hcompile).2]
    rfl
  obtain ⟨contexts, hmerge, hcontexts⟩ := Except.bind_eq_ok.1 h.contexts
  obtain ⟨-, -, hcontexts⟩ := Except.bind_eq_ok.1 hcontexts
  obtain ⟨-, -, hcontexts⟩ := Except.bind_eq_ok.1 hcontexts
  rw [← Except.ok.inj hcontexts, ← hdata]
  exact hmerge

theorem relationship?_of_mem (h : Prepared schema config options setup root) {r : Relationship}
    (hr : r ∈ setup.plan.relationships) : setup.plan.relationship? r.id = some r := by
  obtain ⟨plan, warnings, hcompile, hplan, -⟩ := h.compiled
  rw [hplan] at hr ⊢
  exact Config.relationship?_of_mem hcompile hr

theorem root_mem (h : Prepared schema config options setup root) : root ∈ schema.elements := by
  have hselect := h.root
  unfold selectRoot at hselect
  split at hselect
  · split at hselect
    · rename_i e hfound
      cases hselect
      exact List.mem_of_find?_eq_some hfound
    · cases hselect
  · split at hselect
    · rename_i e rest helements
      cases hselect
      exact helements ▸ List.mem_cons_self
    · cases hselect

theorem root_passes (h : Prepared schema config options setup root) :
    setup.schema.ElementPasses root := by
  rw [h.schema_eq]
  exact Schema.elements_pass h.valid root h.root_mem

theorem schema_valid (h : Prepared schema config options setup root) :
    setup.schema.validate = .ok () := h.schema_eq ▸ h.valid

/-! ## Data -/

theorem records_of_rule (h : Prepared schema config options setup root) {rule : ElementRule}
    (hrule : rule ∈ setup.plan.rules) {path : String} (hpath : rule.templateSource = some path) :
    ∃ records, setup.contexts.records path = .ok records := by
  have hchecked := (checked_of_contextsFor h.contexts).1 rule hrule
  unfold checkRule at hchecked
  rw [hpath] at hchecked
  dsimp only at hchecked
  split at hchecked
  · obtain ⟨_, -, hrecords⟩ := Except.bind_eq_ok.1 hchecked
    exact ok_of_discard hrecords
  · exact ok_of_discard hchecked

/-! ## Fields -/

theorem hasLeaf_of_fieldFaults {catalog : List CatalogEntry} {id field : String} {position : Nat}
    (h : ∀ fault ∈ Plan.fieldFaults catalog id field position, fault.isError = false) :
    ∃ e ∈ catalog, e.matchesKey field ∧ e.facets.isSome := by
  unfold Plan.fieldFaults at h
  split at h
  · have herror := h _ (List.mem_singleton_self _)
    simp [ConfigFault.isError, ConfigFault.issue, Issue.error] at herror
  · split at h
    · rename_i hleaf
      obtain ⟨e, he, hsome⟩ := List.any_eq_true.1 hleaf
      obtain ⟨hmem, hkey⟩ := List.mem_filter.1 he
      exact ⟨e, hmem, hkey, hsome⟩
    · have herror := h _ (List.mem_singleton_self _)
      simp [ConfigFault.isError, ConfigFault.issue, Issue.error] at herror

theorem fieldEntry?_isSome {index : Index} {field : String}
    (h : ∃ e ∈ index.catalog, e.matchesKey field ∧ e.facets.isSome) :
    (index.fieldEntry? field).isSome := by
  obtain ⟨e, he, hkey, hfacets⟩ := h
  refine List.findSome?_isSome_iff.2 ⟨e, he, ?_⟩
  rw [if_pos hkey, Option.isSome_map]
  exact hfacets

/-- The index is that of the catalog of the schema. -/
theorem index_eq_ofCatalog (h : Prepared schema config options setup root) :
    ∃ catalog, schema.catalog = .ok catalog ∧ setup.index = Index.ofCatalog catalog setup.plan := by
  have hindex := h.index
  unfold Index.ofSchema at hindex
  cases hcatalog : schema.catalog with
  | error e =>
      rw [hcatalog] at hindex
      cases hindex
  | ok catalog =>
      rw [hcatalog] at hindex
      exact ⟨catalog, rfl, (Except.ok.inj hindex).symm⟩

/-- Every field with an owner stands for a leaf. -/
theorem fieldEntry?_of_owned (h : Prepared schema config options setup root) {field : String}
    (howned : (setup.plan.owners.get? field).isSome) : (setup.index.fieldEntry? field).isSome := by
  obtain ⟨id, hid⟩ := Option.isSome_iff_exists.1 howned
  obtain ⟨plan, warnings, hcompile, hplan, hfaults⟩ := h.compiled
  rw [hplan] at hid
  obtain ⟨r, hr, -, hfield, -⟩ := Config.owner_hasField hcompile hid
  obtain ⟨catalog, hcatalog, hindex⟩ := h.index_eq_ofCatalog
  obtain ⟨position, hposition⟩ := List.getElem?_of_mem hfield
  have hsound : ∀ fault ∈ Plan.fieldFaults catalog r.id field position, fault.isError = false := by
    intro fault hfault
    refine hfaults fault ?_
    unfold Plan.faultsAgainst
    rw [hcatalog]
    refine List.mem_append_right _ (List.mem_flatMap.2 ⟨r, hr, ?_⟩)
    exact List.mem_flatMap.2 ⟨_, List.mk_mem_zipIdx_iff_getElem?.2 hposition, hfault⟩
  rw [hindex]
  exact fieldEntry?_isSome (hasLeaf_of_fieldFaults hsound)

end Prepared

/-! ## Errors of the walk -/

/-- The data that a rule without custom values refers to is no pool. -/
def BadPool (setup : Setup) (e : ContextError) : Prop :=
  ∃ rule ∈ setup.plan.rules, rule.customValues = [] ∧
    ∃ path, rule.dataContext = some path ∧ setup.contexts.pool path = .error e

theorem walkFailure_cases {schema : Schema} {config : Config} {options : Options} {setup : Setup}
    {root : Element} (hprepared : Prepared schema config options setup root) {e : RunError}
    (h : WalkFailure setup e) :
    (∃ steps, e = .timeout steps) ∨ (∃ breakdown, e = .broken breakdown) ∨
      ∃ cause, e = .contexts cause ∧ BadPool setup cause := by
  cases h with
  | timeout steps => exact .inl ⟨steps, rfl⟩
  | leaf h =>
      cases h with
      | pool hrule hcustom hpath hpool =>
          exact .inr (.inr ⟨_, rfl, _, hrule, hcustom, _, hpath, hpool⟩)
      | records hrule hpath hrecords =>
          obtain ⟨records, hok⟩ := hprepared.records_of_rule hrule hpath
          rw [hok] at hrecords
          cases hrecords
      | source hr hpath hrecords =>
          obtain ⟨records, hok⟩ := records_of_contextsFor hprepared.contexts hr hpath
          rw [hok] at hrecords
          cases hrecords
      | field howned hentry =>
          have hsome := hprepared.fieldEntry?_of_owned howned
          rw [hentry] at hsome
          cases hsome
      | computation fault => exact .inr (.inl ⟨_, rfl⟩)
      | endlessWait => exact .inr (.inl ⟨_, rfl⟩)

/-- Once everything is prepared, a document fails only because the budget runs out, because a run breaks
down, or because the data of a rule without custom values is no pool. -/
theorem walk_error_cases (schema : Schema) (config : Config) (options : Options) (setup : Setup)
    (root : Element) (hprepared : prepare schema config options = .ok (setup, root))
    (s t : RunState) (e : RunError)
    (hrun : (Walk.buildDocument setup root).exec s = (.error e, t)) :
    (∃ steps, e = .timeout steps) ∨ (∃ breakdown, e = .broken breakdown) ∨
      ∃ cause, e = .contexts cause ∧ BadPool setup cause := by
  have h := prepared_of_prepare hprepared
  have hsteps := Walk.buildDocument_takesWalkSteps h.schema_valid h.root_passes
  exact walkFailure_cases h (hsteps.failure_of_exec hrun)

/-- An element whose text can only be `a`. -/
def leafElement : Element :=
  .mk { name := "Root", simpleType := some { base := .string, enumeration := ["a"] } } none

/-- A schema with one leaf, which can only be `a`. -/
def leafSchema : Schema where
  version := "1"
  elements := [leafElement]

/-- A configuration that draws the leaf from data that is an object. -/
def objectPoolConfig : Config where
  dataContexts := Dict.empty.insert "c" { values := Dict.empty.insert "v" (.object [("k", .string "a")]) }
  elements := Dict.empty.insert "Root" { dataContext := some "c.v" }

theorem objectPool_walk : ∃ setup root t,
    prepare leafSchema objectPoolConfig {} = .ok (setup, root) ∧
      (Walk.buildDocument setup root).exec (firstState setup root 0 (Random.Rng.ofSeed 0)) =
        (.error (.contexts (.notPool "c.v")), t) := by
  have hrun : (match prepare leafSchema objectPoolConfig {} with
      | .error _ => none
      | .ok (setup, root) =>
        match (Walk.buildDocument setup root).exec
            (firstState setup root 0 (Random.Rng.ofSeed 0)) with
        | (.ok _, _) => none
        | (.error e, _) => some e) = some (RunError.contexts (.notPool "c.v")) := by
    decide +kernel
  split at hrun
  · cases hrun
  · rename_i setup root hprepared
    split at hrun
    · cases hrun
    · rename_i e t hexec
      cases hrun
      exact ⟨setup, root, t, hprepared, hexec⟩

theorem walk_error_cases_objectPool : ∃ setup root t e,
    prepare leafSchema objectPoolConfig {} = .ok (setup, root) ∧
      (Walk.buildDocument setup root).exec (firstState setup root 0 (Random.Rng.ofSeed 0)) =
        (.error e, t) ∧
      ((∃ steps, e = .timeout steps) ∨ (∃ breakdown, e = .broken breakdown) ∨
        ∃ cause, e = .contexts cause ∧ BadPool setup cause) := by
  obtain ⟨setup, root, t, hprepared, hexec⟩ := objectPool_walk
  exact ⟨setup, root, t, _, hprepared, hexec,
    walk_error_cases leafSchema objectPoolConfig {} setup root hprepared _ t _ hexec⟩

/-- A document can fail for what the configuration refers to after everything was prepared. -/
theorem walk_fails_after_preparation : ¬ ∀ schema config options setup root,
    prepare schema config options = .ok (setup, root) →
      ∀ s, (∃ document t, (Walk.buildDocument setup root).exec s = (.ok document, t)) ∨
        ∃ steps t, (Walk.buildDocument setup root).exec s = (.error (.timeout steps), t) := by
  intro h
  obtain ⟨setup, root, t, hprepared, hexec⟩ := objectPool_walk
  rcases h leafSchema objectPoolConfig {} setup root hprepared _ with
    ⟨document, t', hok⟩ | ⟨steps, t', htimeout⟩
  · rw [hexec] at hok
    cases hok
  · rw [hexec] at htimeout
    cases htimeout

end Generation
end Specimen
