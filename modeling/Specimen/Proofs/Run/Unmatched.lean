import Specimen.Proofs.Document.Outline
import Specimen.Proofs.Plan.Unmatched
import Specimen.Proofs.Run.Recursion
import Specimen.Proofs.Walk.Rules
import Specimen.Proofs.Walk.Warnings

/-!
# Rules that are reported as unmatched

A rule whose key matches nothing in the catalog is reported and kept.  The catalog follows recursive types once, and
the walk further: a key with a slash can match a path that is not in the catalog.  Where it does not, the rule is
never found, so that a run without it differs in its warnings at most.
-/

namespace Specimen
namespace Generation

variable {schema : Schema} {config : Config} {options : Options} {setup : Setup} {root : Element}
  {key : String} {element : ElementConfig} {plan : Plan}

/-! ## What is settled without the rule -/

theorem isOk_of_isError {faults : List ConfigFault} (h : ∀ fault ∈ faults, fault.isError = false) :
    (ConfigReport.ofFaults faults).isOk = true := by
  refine List.isEmpty_iff.2 (List.filter_eq_nil_iff.2 fun issue hissue => ?_)
  obtain ⟨fault, hfault, rfl⟩ := List.mem_map.1 hissue
  have herror := h fault hfault
  unfold ConfigFault.isError at herror
  rw [herror]
  exact Bool.false_ne_true

theorem contextsFor_without {contexts : Contexts} (h : contextsFor plan = .ok contexts)
    (warnings : List Issue) : contextsFor (plan.without key warnings) = .ok contexts := by
  obtain ⟨merged, hmerged, h⟩ := Except.bind_eq_ok.1 h
  obtain ⟨⟨⟩, hrules, h⟩ := Except.bind_eq_ok.1 h
  have hkept : (plan.without key warnings).rules.forM (checkRule merged) = .ok () :=
    List.forM_eq_ok.2 fun rule hrule => List.forM_eq_ok.1 hrules rule (List.mem_of_mem_filter hrule)
  exact Except.bind_eq_ok.2 ⟨merged, hmerged, Except.bind_eq_ok.2 ⟨(), hkept, h⟩⟩

section Without

variable (hkey : config.elements.get? key = some element) (hfree : element.relationship = none)

include hkey hfree

theorem planFor_without (h : planFor schema config options = .ok plan) :
    ∃ warnings, planFor schema (config.without key) options = .ok (plan.without key warnings) := by
  obtain ⟨compiled, warnings, hcompile, rfl, hfaults⟩ := planFor_eq_ok h
  obtain ⟨warnings', hcompile'⟩ := Config.compile_without hcompile hkey hfree
  let beside := ConfigReport.ofFaults ((compiled.without key warnings').faultsAgainst schema)
  have hok : beside.isOk = true :=
    isOk_of_isError fun fault hfault => hfaults fault (Plan.faultsAgainst_without_subset warnings' hfault)
  refine ⟨warnings' ++ beside.warnings, ?_⟩
  refine Except.bind_eq_ok.2 ⟨compiled.without key warnings', mapError_eq_ok.2 hcompile', ?_⟩
  dsimp only
  rw [if_pos hok]
  rfl

/-- Everything that is settled before the walk is settled without the rule as with it. -/
theorem prepare_without (h : prepare schema config options = .ok (setup, root)) {catalog : List CatalogEntry}
    (hcatalog : schema.catalog = .ok catalog) (hnone : ∀ e ∈ catalog, e.matchesKey key = false) :
    ∃ warnings, prepare schema (config.without key) options =
      .ok (setup.vary (setup.ruledBy (setup.plan.without key warnings).rules warnings), root) := by
  obtain ⟨⟨⟩, hvalid, h⟩ := Except.bind_eq_ok.1 h
  obtain ⟨plan, hplan, h⟩ := Except.bind_eq_ok.1 h
  obtain ⟨contexts, hcontexts, h⟩ := Except.bind_eq_ok.1 h
  obtain ⟨index, hindex, h⟩ := Except.bind_eq_ok.1 h
  obtain ⟨selected, hroot, h⟩ := Except.bind_eq_ok.1 h
  cases h
  obtain ⟨warnings, hplan'⟩ := planFor_without hkey hfree hplan
  have hcontexts' := @contextsFor_without key plan contexts (mapError_eq_ok.1 hcontexts) warnings
  have hindex' : Index.ofSchema schema (plan.without key warnings) = Index.ofSchema schema plan := by
    unfold Index.ofSchema
    rw [hcatalog]
    exact congrArg Except.ok (Plan.index_without warnings hnone)
  refine ⟨warnings, Except.bind_eq_ok.2 ⟨(), hvalid, Except.bind_eq_ok.2 ⟨_, hplan', ?_⟩⟩⟩
  refine Except.bind_eq_ok.2 ⟨contexts, mapError_eq_ok.2 hcontexts', ?_⟩
  refine Except.bind_eq_ok.2 ⟨index, ?_, Except.bind_eq_ok.2 ⟨root, hroot, rfl⟩⟩
  rw [hindex']
  exact hindex

end Without

/-! ## What the walk finds -/

/-- A key that is not in the catalog is found by the walk only inside a type that is nested in itself, and only if
it has a slash. -/
theorem Prepared.sameRules (h : Prepared schema config options setup root) {catalog : List CatalogEntry}
    (hcatalog : schema.catalog = .ok catalog) (hnone : ∀ e ∈ catalog, e.matchesKey key = false)
    (hdeep : key.toList.contains '/' = true → ∀ name path types, Walk.LooksFor setup root name path types →
      ¬ types.Nodup → keyMatches key name path = false) (warnings : List Issue) :
    Walk.SameRules setup root (setup.ruledBy (setup.plan.without key warnings).rules warnings) := by
  obtain ⟨entries, hentries, hlists⟩ := Schema.catalog_lists h.valid
  obtain rfl := Except.ok.inj (hcatalog.symm.trans hentries)
  have hrules : ∀ {name path : String}, keyMatches key name path = false →
      setup.Rules (setup.ruledBy (setup.plan.without key warnings).rules warnings) name path :=
    fun hmiss => Plan.rule?_without warnings hmiss
  constructor
  · intro entry hentry
    obtain ⟨catalog', hcatalog', hindex⟩ := h.index_eq_ofCatalog
    obtain rfl := Except.ok.inj (hcatalog.symm.trans hcatalog')
    rw [hindex] at hentry
    exact hrules (hnone entry hentry)
  · intro name path types hlooks
    have hnamed : schema.Named root name path types := h.schema_eq ▸ hlooks.named
    refine hrules ?_
    by_cases hnodup : types.Nodup
    · obtain ⟨entry, hentry, rfl, rfl⟩ := hnamed.exists_entry h.valid h.root_mem hlists hnodup
      exact hnone entry hentry
    · by_cases hslash : key.toList.contains '/' = true
      · exact hdeep hslash name path types hlooks hnodup
      · obtain ⟨entry, hentry, rfl⟩ := hnamed.exists_entry_of_name h.valid h.root_mem hlists
        have hmiss := hnone entry hentry
        unfold CatalogEntry.matchesKey keyMatches at hmiss
        unfold keyMatches
        rw [if_neg hslash] at hmiss ⊢
        exact hmiss

/-! ## Runs -/

/-- The state before the first step, when nothing was warned of. -/
def unwarned (setup : Setup) (root : Element) (freshSeed : UInt64) : RunState :=
  let s := beginning setup root freshSeed
  { s with report := { s.report with warnings := #[], warningsByCode := {} } }

/-- A run begins with the warnings about its configuration. -/
theorem beginning_eq_after (setup : Setup) (root : Element) (freshSeed : UInt64) :
    beginning setup root freshSeed =
      (unwarned setup root freshSeed).after (setup.plan.warnings.map noticeOf).toArray := by
  have hcodes : codesOf (setup.plan.warnings.map noticeOf).toArray =
      (setup.plan.warnings.map noticeOf).foldl (fun t n => t.bump n.code) {} := (Array.foldl_toList _).symm
  unfold unwarned RunState.after Report.after
  simp only [Array.append_empty, hcodes]
  unfold beginning firstState firstReport
  rw [Report.foldl_warn]
  simp only [Array.empty_append]
  rfl

/-- A configuration says something about a key, and it is reported that nothing in the schema matches the key. -/
def ReportsUnmatched (schema : Schema) (config : Config) (options : Options) (key : String) : Prop :=
  ∃ plan, (override config options).compile = .ok plan ∧
    .unmatchedElement key ∈ plan.faultsAgainst schema

/-- What a configuration says about a key that is reported as unmatched has no effect, if the key matches nothing
that the walk can come to inside a type that is nested in itself.  Only a key with a slash can match there.  When
it is taken out, and it names no relationship, the document is the same, and so is the report except for what is
warned of. -/
theorem unmatched_rule_idle (schema : Schema) (config : Config) (options : Options) (freshSeed : UInt64)
    (made : Generated) (hrun : run schema config options freshSeed = .ok made) (key : String)
    (element : ElementConfig) (hkey : config.elements.get? key = some element)
    (hfree : element.relationship = none) (hunmatched : ReportsUnmatched schema config options key)
    (hdeep : ∀ setup root, prepare schema config options = .ok (setup, root) →
      key.toList.contains '/' = true → ∀ name path types, Walk.LooksFor setup root name path types →
        ¬ types.Nodup → keyMatches key name path = false) :
    ∃ made', run schema (config.without key) options freshSeed = .ok made' ∧
      made'.document = made.document ∧
      { made'.report with
        warnings := made.report.warnings
        warningsByCode := made.report.warningsByCode } = made.report := by
  obtain ⟨plan, -, hfault⟩ := hunmatched
  obtain ⟨catalog, hcatalog, hnone⟩ := Plan.unmatched_of_faultsAgainst hfault
  obtain ⟨setup, root, t, hprepare, hwalk, hreport⟩ := run_eq_ok hrun
  obtain ⟨warnings, hprepare'⟩ := prepare_without hkey hfree hprepare hcatalog hnone
  have hsame := (prepared_of_prepare hprepare).sameRules hcatalog hnone (hdeep setup root hprepare) warnings
  have hignores : Run.IgnoresWarnings (Walk.buildDocument setup root) := Walk.buildDocument_ignoresWarnings root
  let earlier := (setup.plan.warnings.map noticeOf).toArray
  let earlier' := (warnings.map noticeOf).toArray
  rcases hbare : (Walk.buildDocument setup root).exec (unwarned setup root freshSeed) with ⟨result, u⟩
  rw [beginning_eq_after, hignores earlier, hbare] at hwalk
  obtain ⟨rfl, rfl⟩ := Prod.mk.inj hwalk
  let setup' := setup.vary (setup.ruledBy (setup.plan.without key warnings).rules warnings)
  have hwalk' : (Walk.buildDocument setup' root).exec (beginning setup' root freshSeed) =
      (.ok made.document, u.after earlier') := by
    rw [Walk.buildDocument_ruledBy hsame rfl, beginning_eq_after]
    change (Walk.buildDocument setup root).exec ((unwarned setup root freshSeed).after earlier') = _
    rw [hignores earlier', hbare]
  refine ⟨_, run_of_walk hprepare' hwalk', rfl, ?_⟩
  rw [hreport]
  rfl

/-- A configuration of a city that is nowhere. -/
def strayConfig : Config where
  elements := Dict.empty.insert "Trip/City" { customValues := [.string "y"] }

/-- Whether a key is reported as unmatched. -/
def reportsUnmatched (schema : Schema) (config : Config) (key : String) : Bool :=
  match (override config {}).compile with
  | .ok plan => (plan.faultsAgainst schema).any fun
    | .unmatchedElement other => other == key
    | _ => false
  | .error _ => false

theorem reportsUnmatched_of_eq_true (h : reportsUnmatched schema config key = true) :
    ReportsUnmatched schema config {} key := by
  unfold reportsUnmatched at h
  split at h
  · rename_i plan hplan
    obtain ⟨fault, hfault, hsame⟩ := List.any_eq_true.1 h
    split at hsame
    · exact ⟨plan, hplan, eq_of_beq hsame ▸ hfault⟩
    · cases hsame
  · cases h

theorem unmatched_rule_idle_trip : ∃ made, run legSchema strayConfig {} 0 = .ok made ∧
    strayConfig.elements.get? "Trip/City" = some { customValues := [.string "y"] } ∧
    ReportsUnmatched legSchema strayConfig {} "Trip/City" ∧
    ∃ made', run legSchema (strayConfig.without "Trip/City") {} 0 = .ok made' ∧
      made'.document = made.document ∧
      { made'.report with
        warnings := made.report.warnings
        warningsByCode := made.report.warningsByCode } = made.report := by
  have hcomputed : (match run legSchema strayConfig {} 0 with
      | .ok _ => true
      | .error _ => false) = true := by decide +kernel
  have hkey : strayConfig.elements.get? "Trip/City" = some { customValues := [.string "y"] } := rfl
  have hreports : ReportsUnmatched legSchema strayConfig {} "Trip/City" :=
    reportsUnmatched_of_eq_true (by decide +kernel)
  split at hcomputed
  · rename_i made hmade
    refine ⟨made, hmade, hkey, hreports, ?_⟩
    refine unmatched_rule_idle legSchema strayConfig {} 0 made hmade "Trip/City" _ hkey rfl hreports ?_
    intro setup root hprepare _ name path types hlooks hrepeated
    have hnone : legSchema.typeGraph.recursive = [] := by decide +kernel
    rw [← (prepared_of_prepare hprepare).schema_eq] at hnone
    cases hlooks with
    | element he => exact absurd (he.reaches.nodup hnone) hrepeated
    | attr he => exact absurd (he.reaches.nodup hnone) hrepeated
  · cases hcomputed

/-- A schema of folders with a title, each of which may contain another one. -/
def titledSchema : Schema where
  version := "1"
  elements := [.mk { name := "Folder", typeRef := some "Folder" } none]
  types := [{
    name := "Folder"
    content := some (.mk { kind := .sequence } [
      .element (.mk { name := "Title", typeRef := some "xs:string", fixed := some "x", nillable := true } none),
      .element (.mk { name := "Inner", typeRef := some "Folder", minOccurs := 0 } none)]) }]

/-- A configuration in which the titles of inner folders are nil. -/
def nilTitleConfig : Config where
  settings := { maxDepth := 2, repeatCount := 1 }
  elements := Dict.empty.insert "Inner/Title" { nil := some true }

theorem exists_of_leaves {result : Except GenerationError Generated} {leaves : List DocumentLeaf}
    (h : result.toOption.map (fun made => made.document.documentLeaves) = some leaves) :
    ∃ made, result = .ok made ∧ made.document.documentLeaves = leaves := by
  cases result with
  | error e => cases h
  | ok made => exact ⟨made, rfl, Option.some.inj h⟩

/-- A rule that is reported as unmatched takes effect, inside a folder that is in another one. -/
theorem unmatched_rule_found : ∃ made made',
    run titledSchema nilTitleConfig {} 0 = .ok made ∧
    nilTitleConfig.elements.get? "Inner/Title" = some { nil := some true } ∧
    ReportsUnmatched titledSchema nilTitleConfig {} "Inner/Title" ∧
    run titledSchema (nilTitleConfig.without "Inner/Title") {} 0 = .ok made' ∧
    made.document.documentLeaves = [⟨"Title", "Folder/Title", "x"⟩] ∧
    made'.document.documentLeaves = [⟨"Title", "Folder/Title", "x"⟩, ⟨"Title", "Folder/Inner/Title", "x"⟩] := by
  have hfound : (run titledSchema nilTitleConfig {} 0).toOption.map
      (fun made => made.document.documentLeaves) = some [⟨"Title", "Folder/Title", "x"⟩] := by decide +kernel
  have hidle : (run titledSchema (nilTitleConfig.without "Inner/Title") {} 0).toOption.map
      (fun made => made.document.documentLeaves) =
        some [⟨"Title", "Folder/Title", "x"⟩, ⟨"Title", "Folder/Inner/Title", "x"⟩] := by decide +kernel
  obtain ⟨made, hmade, hleaves⟩ := exists_of_leaves hfound
  obtain ⟨made', hmade', hleaves'⟩ := exists_of_leaves hidle
  exact ⟨made, made', hmade, rfl, reportsUnmatched_of_eq_true (by decide +kernel), hmade', hleaves, hleaves'⟩

end Generation
end Specimen
