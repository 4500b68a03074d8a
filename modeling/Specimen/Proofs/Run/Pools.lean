import Specimen.Proofs.Run.Documents
import Specimen.Proofs.Run.Prepared

/-!
# What a source gives to fields

The source of a relationship is read in two ways.  Before the walk it has to be a list of records.  When a field needs
candidates it has to be a list of plain values, and a list of records is passed over as if there were no source.  No
list with an item in it is both: a source that gives candidates to a field is refused, and one that is not refused gives
it none.
-/

namespace Specimen

open Run

/-- The values that a list holds for a field: its plain items, and what its records have under the key of the
field. -/
def Relationship.held (r : Relationship) (field : String) (items : List Json) : List String :=
  items.filterMap fun item => item.plainText? <|> recordText? item (r.recordKey field)

/-- No rule has values or data for a leaf. -/
def Plan.LeavesOpen (plan : Plan) (name path : String) : Prop :=
  ∀ rule, plan.rule? name path = some rule → rule.customValues = [] ∧ rule.dataContext = none

theorem Plan.leavesOpen_of_rules {plan : Plan} (h : plan.rules = []) (name path : String) :
    plan.LeavesOpen name path := by
  intro rule hrule
  have hmem := Plan.mem_rules_of_rule? hrule
  rw [h] at hmem
  cases hmem

/-! ## Lists -/

namespace Contexts

theorem plainText?_of_isRecord {item : Json} (h : isRecord item = true) : item.plainText? = none := by
  cases item with
  | object members => rfl
  | null | bool | int | float | string | array => cases h

variable {c : Contexts} {path : String} {items : List Json}

/-- The texts of plain values are a pool. -/
theorem pool_of_plain (hlist : c.find path = .ok (.array items))
    (hplain : ∀ item ∈ items, item.plainText?.isSome = true) :
    c.pool path = .ok (items.filterMap (·.plainText?)) := by
  unfold Contexts.pool
  rw [hlist]
  clear hlist
  induction items with
  | nil => rfl
  | cons item rest ih =>
      obtain ⟨text, htext⟩ := Option.isSome_iff_exists.1 (hplain item List.mem_cons_self)
      have hrest := ih fun other hother => hplain other (List.mem_cons_of_mem _ hother)
      refine Except.bind_eq_ok.2 ⟨_, rfl, ?_⟩
      dsimp only
      rw [List.mapM_cons, htext, List.filterMap_cons, htext]
      exact Except.bind_eq_ok.2 ⟨text, rfl, Except.bind_eq_ok.2 ⟨_, hrest, rfl⟩⟩

/-- A list is no pool if an item of it is not plain. -/
theorem pool_of_not_plain (hlist : c.find path = .ok (.array items)) {item : Json} (hitem : item ∈ items)
    (hnone : item.plainText? = none) : ∃ e, c.pool path = .error e := by
  cases hpool : c.pool path with
  | error e => exact ⟨e, rfl⟩
  | ok texts =>
      unfold Contexts.pool at hpool
      rw [hlist] at hpool
      obtain ⟨text, -, htext⟩ := List.exists_of_mapM_eq_ok hpool hitem
      rw [hnone] at htext
      cases htext

theorem isRecord_of_records {records : List Json} (hlist : c.find path = .ok (.array items))
    (h : c.records path = .ok records) : ∀ item ∈ items, isRecord item = true := by
  obtain ⟨found, hfound, h⟩ := Except.bind_eq_ok.1 h
  obtain rfl : found = .array items := Except.ok.inj (hfound.symm.trans hlist)
  dsimp only at h
  split at h
  · rename_i hall
    exact List.all_eq_true.1 hall
  · cases h

end Contexts

/-! ## Candidates -/

namespace Leaf

variable {setup : Setup} {field : String} {r : Relationship}

/-- The pool that the source of a relationship is, if it is one. -/
def sharedPool (contexts : Contexts) (r : Relationship) : List String :=
  match r.source with
  | some path => (contexts.pool path).toOption.getD []
  | none => []

theorem sharedPool_of_source {contexts : Contexts} {source : String} (h : r.source = some source) :
    sharedPool contexts r = (contexts.pool source).toOption.getD [] := by
  unfold sharedPool
  rw [h]

/-- The candidates for a leaf from a pool, or from what is generated for it if the pool is empty. -/
def candidatesFrom (setup : Setup) (q : LeafRequest) (configured : List String) : Run (List String) := do
  let pool ← if configured.isEmpty then samplePool setup q else pure configured
  let conforming := pool.filter fun v => q.facets.accepts v setup.options.libraries.isMatch
  return if conforming.isEmpty then pool else conforming

/-- A pool with values in it is what candidates are taken from, and nothing is generated. -/
theorem candidatesFrom_of_ne_nil (setup : Setup) (q : LeafRequest) {configured : List String} (hne : configured ≠ []) :
    ∃ pool, candidatesFrom setup q configured = pure pool ∧ pool ≠ [] ∧ ∀ v ∈ pool, v ∈ configured := by
  unfold candidatesFrom
  rw [if_neg (by simpa using hne), pure_bind]
  refine ⟨_, rfl, ?_, ?_⟩
  · split
    · exact hne
    · rename_i hsome
      simpa using hsome
  · intro v hv
    split at hv
    · exact hv
    · exact List.mem_of_mem_filter hv

theorem configuredPool_of_open {q : LeafRequest} (hopen : setup.plan.LeavesOpen q.name q.path) :
    configuredPool setup q r = pure (sharedPool setup.contexts r) := by
  unfold configuredPool
  cases hrule : setup.plan.rule? q.name q.path with
  | none => rfl
  | some rule =>
      obtain ⟨hcustom, hdata⟩ := hopen rule hrule
      dsimp only
      rw [hcustom, hdata]
      rfl

/-- A field that no rule has values for takes them from the source of its relationship. -/
theorem candidatePool_of_open {entry : CatalogEntry} {facets : Facets}
    (hentry : setup.index.fieldEntry? field = some (entry, facets))
    (hopen : setup.plan.LeavesOpen entry.name entry.path) :
    candidatePool setup field r =
      candidatesFrom setup { name := entry.name, path := entry.path, facets } (sharedPool setup.contexts r) := by
  have hconfigured : configuredPool setup { name := entry.name, path := entry.path, facets } r =
      pure (sharedPool setup.contexts r) :=
    configuredPool_of_open (q := { name := entry.name, path := entry.path, facets }) hopen
  unfold candidatePool fieldRequest
  rw [hentry]
  dsimp only
  rw [pure_bind, hconfigured, pure_bind]
  rfl

variable {source : String} {items : List Json} (hsource : r.source = some source)
  (hlist : setup.contexts.find source = .ok (.array items))

include hsource hlist

theorem sharedPool_of_plain (hplain : ∀ item ∈ items, item.plainText?.isSome = true) :
    sharedPool setup.contexts r = items.filterMap (·.plainText?) := by
  rw [sharedPool_of_source hsource, Contexts.pool_of_plain hlist hplain]
  rfl

theorem sharedPool_of_not_plain {item : Json} (hitem : item ∈ items) (hnone : item.plainText? = none) :
    sharedPool setup.contexts r = [] := by
  obtain ⟨e, hpool⟩ := Contexts.pool_of_not_plain hlist hitem hnone
  rw [sharedPool_of_source hsource, hpool]
  rfl

variable {entry : CatalogEntry} {facets : Facets} (hentry : setup.index.fieldEntry? field = some (entry, facets))
  (hopen : setup.plan.LeavesOpen entry.name entry.path)

include hentry hopen

/-- The candidates from a list of plain values are in the list. -/
theorem candidatePool_of_plain (hne : items ≠ []) (hplain : ∀ item ∈ items, item.plainText?.isSome = true) :
    ∃ pool, candidatePool setup field r = pure pool ∧ pool ≠ [] ∧ ∀ v ∈ pool, v ∈ r.held field items := by
  obtain ⟨first, hfirst⟩ := List.exists_mem_of_ne_nil items hne
  obtain ⟨text, htext⟩ := Option.isSome_iff_exists.1 (hplain first hfirst)
  have hsome : items.filterMap (·.plainText?) ≠ [] :=
    List.ne_nil_of_mem (List.mem_filterMap.2 ⟨first, hfirst, htext⟩)
  obtain ⟨pool, hpool, hpoolNe, htaken⟩ := candidatesFrom_of_ne_nil setup
    { name := entry.name, path := entry.path, facets } hsome
  refine ⟨pool, ?_, hpoolNe, fun v hv => ?_⟩
  · rw [candidatePool_of_open hentry hopen, sharedPool_of_plain hsource hlist hplain, hpool]
  · obtain ⟨item, hitem, htext⟩ := List.mem_filterMap.1 (htaken v hv)
    exact List.mem_filterMap.2 ⟨item, hitem, by rw [htext]; rfl⟩

/-- If an item of a list is not plain, the candidates are generated. -/
theorem candidatePool_of_not_plain {item : Json} (hitem : item ∈ items) (hnone : item.plainText? = none) :
    candidatePool setup field r =
      candidatesFrom setup { name := entry.name, path := entry.path, facets } [] := by
  rw [candidatePool_of_open hentry hopen, sharedPool_of_not_plain hsource hlist hitem hnone]

end Leaf

namespace Generation

/-- Where no rule has values for a field, it takes its candidates from a source that is a list of plain values, and from
no other list.  What is checked before a run is that there are no plain values in the list, so that the candidates are
generated as if there were no source. -/
theorem candidates_of_source (setup : Setup) (field : String) (r : Relationship) (source : String) (items : List Json)
    (entry : CatalogEntry) (facets : Facets) (hsource : r.source = some source)
    (hlist : setup.contexts.find source = .ok (.array items)) (hne : items ≠ [])
    (hentry : setup.index.fieldEntry? field = some (entry, facets))
    (hopen : setup.plan.LeavesOpen entry.name entry.path) :
    ((∀ item ∈ items, item.plainText?.isSome = true) →
      ∃ pool, Leaf.candidatePool setup field r = pure pool ∧ pool ≠ [] ∧ ∀ v ∈ pool, v ∈ r.held field items) ∧
    ((∃ item ∈ items, item.plainText? = none) →
      Leaf.candidatePool setup field r =
        Leaf.candidatesFrom setup { name := entry.name, path := entry.path, facets } []) ∧
    (contextsFor setup.plan = .ok setup.contexts → r ∈ setup.plan.relationships →
      (∀ item ∈ items, item.plainText? = none) ∧
        Leaf.candidatePool setup field r =
          Leaf.candidatesFrom setup { name := entry.name, path := entry.path, facets } []) := by
  refine ⟨Leaf.candidatePool_of_plain hsource hlist hentry hopen hne, ?_, fun hchecked hr => ?_⟩
  · rintro ⟨item, hitem, hnone⟩
    exact Leaf.candidatePool_of_not_plain hsource hlist hentry hopen hitem hnone
  · obtain ⟨records, hrecords⟩ := records_of_contextsFor hchecked hr hsource
    have hnone : ∀ item ∈ items, item.plainText? = none := fun item hitem =>
      Contexts.plainText?_of_isRecord (Contexts.isRecord_of_records hlist hrecords item hitem)
    obtain ⟨first, hfirst⟩ := List.exists_mem_of_ne_nil items hne
    exact ⟨hnone, Leaf.candidatePool_of_not_plain hsource hlist hentry hopen hfirst (hnone first hfirst)⟩

/-- A port is a station or a harbour. -/
def port : Element :=
  .mk { name := "Port", simpleType := some { base := .string, enumeration := ["station", "harbour"] } } none

def portSchema : Schema where
  version := "0.1"
  elements := [port]

/-- The ports of a transfer are those of a list of records. -/
def transferConfig : Config where
  dataContexts := Dict.empty.insert "c"
    { values := Dict.empty.insert "ports" (.array [.object [("Port", .string "harbour")]]) }
  relationships := Dict.empty.insert "transfer"
    { fields := ["Port"]
      strategy := "dependent_values"
      source := some "c.ports" }

/-- The setup of a run for a transfer. -/
def transferSetup : Setup :=
  ((prepare portSchema transferConfig {}).toOption.map (·.1)).getD
    { schema := portSchema, plan := {} }

theorem prepare_transfer : prepare portSchema transferConfig {} = .ok (transferSetup, port) :=
  prepare_eq_ok_of_isSome rfl (by decide +kernel) rfl rfl (by decide +kernel)

/-- Whether a relationship has the harbour for the port in the list that its source is. -/
def offersHarbour (setup : Setup) (r : Relationship) : Bool :=
  match setup.contexts.find "c.ports" with
  | .ok (.array items) => r.held "Port" items == ["harbour"]
  | _ => false

/-- Whether an action returns these texts. -/
def returnsTexts (m : Run (List String)) (s : RunState) (texts : List String) : Bool :=
  match (m.exec s).1 with
  | .ok found => found == texts
  | .error _ => false

/-- The relationship of a transfer: its source has a harbour, and no rule is about ports. -/
structure Transfer (r : Relationship) (items : List Json) : Prop where
  mem : r ∈ transferSetup.plan.relationships
  strategy : r.strategy = .dependentValues
  owns : transferSetup.plan.owns r "Port" = true
  source : r.source = some "c.ports"
  list : transferSetup.contexts.find "c.ports" = .ok (.array items)
  held : r.held "Port" items = ["harbour"]
  entry : (transferSetup.index.fieldEntry? "Port").isSome = true
  rules : transferSetup.plan.rules = []

theorem Transfer.ne_nil {r : Relationship} {items : List Json} (h : Transfer r items) : items ≠ [] := by
  rintro rfl
  exact List.cons_ne_nil _ _ h.held.symm

theorem exists_transfer : ∃ r items, Transfer r items ∧
    ∃ t, (Leaf.candidatePool transferSetup "Port" r).exec (firstState transferSetup port 0 zeroRng) =
      (.ok ["station"], t) := by
  have hcheck : transferSetup.plan.relationships.any (fun r =>
      r.strategy == .dependentValues && transferSetup.plan.owns r "Port" && r.source == some "c.ports" &&
        offersHarbour transferSetup r && returnsTexts (Leaf.candidatePool transferSetup "Port" r)
          (firstState transferSetup port 0 zeroRng) ["station"]) = true := by decide +kernel
  obtain ⟨r, hr, hfacts⟩ := List.any_eq_true.1 hcheck
  simp only [Bool.and_eq_true, beq_iff_eq] at hfacts
  obtain ⟨⟨⟨⟨hstrategy, howns⟩, hsource⟩, hoffers⟩, hreturns⟩ := hfacts
  unfold offersHarbour at hoffers
  split at hoffers
  · rename_i items hlist
    refine ⟨r, items,
      ⟨hr, hstrategy, howns, hsource, hlist, eq_of_beq hoffers, by decide +kernel, by decide +kernel⟩, ?_⟩
    unfold returnsTexts at hreturns
    split at hreturns
    · rename_i found hfound
      exact ⟨_, Prod.ext (hfound.trans (congrArg _ (eq_of_beq hreturns))) rfl⟩
    · cases hreturns
  · cases hoffers

/-- The harbours of a transfer as a list of plain values. -/
def plainSetup : Setup :=
  { transferSetup with
    contexts := ⟨Dict.empty.insert "c" (Dict.empty.insert "ports" (.array [.string "harbour"]))⟩ }

theorem candidates_of_source_harbour : ∃ r,
    (∃ pool, Leaf.candidatePool plainSetup "Port" r = pure pool ∧ pool ≠ [] ∧ ∀ v ∈ pool, v = "harbour") ∧
      ∃ q, Leaf.candidatePool transferSetup "Port" r = Leaf.candidatesFrom transferSetup q [] := by
  obtain ⟨r, items, hr, -⟩ := exists_transfer
  obtain ⟨⟨entry, facets⟩, hentry⟩ := Option.isSome_iff_exists.1 hr.entry
  have hopen := Plan.leavesOpen_of_rules hr.rules entry.name entry.path
  have hplain := (candidates_of_source plainSetup "Port" r "c.ports" [.string "harbour"] entry facets hr.source rfl
    (List.cons_ne_nil _ _) hentry hopen).1
  have hrecords := (candidates_of_source transferSetup "Port" r "c.ports" items entry facets hr.source hr.list
    hr.ne_nil hentry hopen).2.2 (prepared_of_prepare prepare_transfer).contexts hr.mem
  obtain ⟨pool, hpool, hpoolNe, hheld⟩ := hplain fun item hitem => by
    rw [List.mem_singleton.1 hitem]
    rfl
  refine ⟨r, ⟨pool, hpool, hpoolNe, fun v hv => ?_⟩, _, hrecords.2⟩
  simpa [Relationship.held, Json.plainText?] using hheld v hv

/-- Although its list has a harbour, and nothing else is said of ports, a transfer may only be offered a station. -/
theorem candidates_beside_source : ∃ r items,
    prepare portSchema transferConfig {} = .ok (transferSetup, port) ∧
      r ∈ transferSetup.plan.relationships ∧ r.strategy = .dependentValues ∧
      transferSetup.plan.owns r "Port" = true ∧ transferSetup.plan.rules = [] ∧ r.source = some "c.ports" ∧
      transferSetup.contexts.find "c.ports" = .ok (.array items) ∧ items ≠ [] ∧ r.held "Port" items = ["harbour"] ∧
      ∃ t, (Leaf.candidatePool transferSetup "Port" r).exec (firstState transferSetup port 0 zeroRng) =
        (.ok ["station"], t) := by
  obtain ⟨r, items, hr, hpool⟩ := exists_transfer
  exact ⟨r, items, prepare_transfer, hr.mem, hr.strategy, hr.owns, hr.rules, hr.source, hr.list, hr.ne_nil, hr.held,
    hpool⟩

end Generation
end Specimen
