import Specimen.Proofs.Leaf.Delivery
import Specimen.Proofs.Run.Documents
import Specimen.Proofs.Walk.Evaluation

/-!
# Constraints on documents

A relationship checks its constraints against the values it settles.  Whether the document satisfies them is
another matter: a leaf may carry a value that was never settled, and a value may be settled without a check.
`Watched` says when neither happens, and then no violation in a document goes without a warning.
-/

namespace Specimen

open Run

namespace Generation

/-- When a relationship watches a constraint in the documents below a root. -/
structure Watched (setup : Setup) (root : Element) (r : Relationship) (c : Constraint) : Prop where
  /-- Some field of the constraint is settled with a check. -/
  drawn : ∃ f ∈ c.fields, r.strategy = .dependentValues → f ∉ r.dependsOn
  /-- The fields that are settled with a check have candidates. -/
  candidates : ∀ f ∈ c.fields, r.strategy = .dependentValues → f ∉ r.dependsOn →
    Returns (Leaf.candidatePool setup f r) fun pool _ => pool ≠ []
  /-- Every leaf that a field of the constraint stands for asks for that field. -/
  asked : ∀ name path facets fixed, setup.schema.HasLeaf root name path facets fixed →
    setup.plan.Asks c name path fixed

variable {schema : Schema} {config : Config} {options : Options} {setup : Setup} {root : Element}
  {r : Relationship} {c : Constraint}

theorem Watched.checks (hwatched : Watched setup root r c)
    (hprepared : Prepared schema config options setup root) (hr : r ∈ setup.plan.relationships)
    (hstrategy : r.strategy ≠ .consistentPersona) (hc : c ∈ r.constraints)
    (howned : ∀ f ∈ c.fields, setup.plan.owns r f = true) :
    r.Checks setup (Leaf.fieldSources setup) c := by
  obtain ⟨plan, warnings, hcompile, hplan, -⟩ := hprepared.compiled
  have hmem : r ∈ plan.relationships := by
    rw [hplan] at hr
    exact hr
  have hfound : setup.plan.relationship? r.id = some r := by
    rw [hplan]
    exact Config.relationship?_of_mem hcompile hmem
  refine ⟨hfound, hstrategy, hc, Config.constraints_listFields hcompile hmem hc, fun f hf => ?_,
    hwatched.drawn, hwatched.candidates⟩
  have hget : plan.owners.get? f = some r.id := by
    have howns := eq_of_beq (howned f hf)
    rw [hplan] at howns
    exact howns
  obtain ⟨r', -, -, hfield, howner⟩ := Config.owner_hasField hcompile hget
  have hsame : plan.owner? f = some r := by
    unfold Plan.owner?
    rw [hget]
    exact Config.relationship?_of_mem hcompile hmem
  rw [howner] at hsame
  exact ⟨Option.some.inj hsame ▸ hfield, howned f hf⟩

theorem enforces_firstState (hchecks : r.Checks setup (Leaf.fieldSources setup) c) (seed : UInt64)
    (rng : Random.Rng) : (firstState setup root seed rng).Enforces setup.plan r c := by
  have hnone : ∀ f n, (firstState setup root seed rng).relations.value? f n = none := fun f n =>
    Std.HashMap.getElem?_empty
  constructor
  · intro _ n f _ _ hsome
    rw [hnone] at hsome
    cases hsome
  · intro n b hb
    obtain ⟨f, hf, -⟩ := hchecks.drawn
    obtain ⟨v, hv, -⟩ := hb f hf
    rw [hnone] at hv
    cases hv

/-- When a relationship watches a constraint, the report warns of every violation of it in the document: if
the values that the document carries where the fields of the constraint occur for the `n`-th time violate it,
there is a warning that names the relationship. -/
theorem relationship_violations_flagged (schema : Schema) (config : Config) (options : Options)
    (setup : Setup) (root : Element) (hprepared : prepare schema config options = .ok (setup, root))
    (r : Relationship) (hr : r ∈ setup.plan.relationships) (hstrategy : r.strategy ≠ .consistentPersona)
    (c : Constraint) (hc : c ∈ r.constraints) (howned : ∀ f ∈ c.fields, setup.plan.owns r f = true)
    (hwatched : Watched setup root r c) (seed : UInt64) (rng : Random.Rng) (made : Generated)
    (trace : Trace) (hrun : walkFrom setup root (firstState setup root seed rng) = (.ok made, trace))
    (n : Nat) (b : Bindings)
    (hcarried : ∀ f ∈ c.fields, ∃ v, made.document.occurrence? f n = some v ∧ b.get? f = some v)
    (hviolated : c.check b = .violated) :
    ∃ w ∈ made.report.warnings, w.code = "constraint_violation" ∧ w.relationship = some r.id := by
  have h := prepared_of_prepare hprepared
  have hchecks := hwatched.checks h hr hstrategy hc howned
  obtain ⟨t, hdocument, hreport, -⟩ := walkFrom_eq_ok hrun
  have hdelivers := (Walk.buildDocument_resolved h.schema_valid h.root_passes hdocument).delivers hchecks
    hwatched.asked
  have henforced := hdelivers.enforces (enforces_firstState hchecks seed rng)
  rw [hreport]
  refine henforced.flagged n b (fun f hf => ?_) hviolated
  obtain ⟨v, hv, hbv⟩ := hcarried f hf
  have hsettled := hdelivers.values f hf n v hv
  have hfirst : (firstState setup root seed rng).relations.asked.getD f 0 = 0 := Std.HashMap.getD_empty
  rw [hfirst, Nat.zero_add] at hsettled
  exact ⟨v, hsettled, hbv⟩

/-- The element that a trip begins with. -/
def departure : Element := .mk { name := "Departure", typeRef := some "xs:string" } none

/-- A schema of the ends of a trip, each a document by itself. -/
def tripSchema : Schema where
  version := "1"
  elements := [departure, .mk { name := "Arrival", typeRef := some "xs:string" } none]

/-- A trip may not depart from nowhere, but no other departure is known; the arrival may depend on the
departure. -/
def tripConfig (dependent : Bool) : Config where
  relationships := Dict.empty.insert "trip"
    { fields := ["Departure", "Arrival"]
      strategy := "dependent_values"
      dependsOn := if dependent then ["Departure"] else []
      constraints := ["Departure != 'nowhere'"] }
  elements := Dict.empty.insert "Departure"
    { customValues := [.string "nowhere"], selectionStrategy := some "random" }

/-- The setup of a run for a trip. -/
def tripSetup (dependent : Bool) : Setup :=
  ((prepare tripSchema (tripConfig dependent) {}).toOption.map (·.1)).getD { schema := tripSchema, plan := {} }

theorem prepare_trip (dependent : Bool) :
    prepare tripSchema (tripConfig dependent) {} = .ok (tripSetup dependent, departure) := by
  have hsome : ∀ b, (prepare tripSchema (tripConfig b) {}).toOption.isSome = true := by decide +kernel
  have hroot : ∀ b, (tripSetup b).plan.metadata.rootElement = none := by decide +kernel
  exact prepare_eq_ok_of_isSome rfl (hsome dependent) rfl rfl (hroot dependent)

/-- The text of the departure. -/
def departureLeaf : LeafRequest where
  name := "Departure"
  path := "Departure"
  facets := .ofBase .string
  scope := some 1

/-- The state in which the departure of a trip is resolved. -/
def tripState (dependent : Bool) : RunState :=
  Walk.atText { firstState (tripSetup dependent) departure 0 zeroRng with scopes := 1 }

/-- Whether an action returns a text, in a state that satisfies a condition. -/
def returnsText (m : Run String) (s : RunState) (text : String) (condition : RunState → Bool) : Bool :=
  match m.exec s with
  | (.ok value, t) => value == text && condition t
  | (.error _, _) => false

theorem exists_of_returnsText {m : Run String} {s : RunState} {text : String} {condition : RunState → Bool}
    (h : returnsText m s text condition = true) :
    ∃ t, m.exec s = (.ok text, t) ∧ condition t = true := by
  unfold returnsText at h
  split at h
  · rename_i value t hrun
    obtain ⟨htext, hcondition⟩ := Bool.and_eq_true_iff.1 h
    exact ⟨t, eq_of_beq htext ▸ hrun, hcondition⟩
  · cases h

/-- A run for a trip, by what its departure resolves to. -/
theorem trip_run {dependent : Bool} {t : RunState}
    (htext : (Leaf.resolve (tripSetup dependent) departureLeaf).exec (tripState dependent) =
      (.ok "nowhere", t)) :
    ∃ made trace, walkFrom (tripSetup dependent) departure
        (firstState (tripSetup dependent) departure 0 zeroRng) = (.ok made, trace) ∧
      made.document.occurrence? "Departure" 0 = some "nowhere" ∧ made.report = t.report := by
  have hprepared := prepared_of_prepare (prepare_trip dependent)
  have hnil : ∀ b, ((tripSetup b).plan.rule? "Departure" "Departure").any (·.nil) = false := by
    decide +kernel
  have hbudget : (tripSetup dependent).options.isExceededBy 1 = false := by
    rw [hprepared.options_eq]
    decide
  have hresolve : (tripSetup dependent).schema.resolveType departure = .ok ⟨none, .builtin .string, []⟩ := by
    rw [hprepared.schema_eq]
    rfl
  obtain ⟨document, hdocument, hleaves⟩ := Walk.buildDocument_of_text hresolve rfl rfl rfl (hnil dependent)
    (s := firstState (tripSetup dependent) departure 0 zeroRng) hbudget htext
  refine ⟨⟨document, t.report, (tripSetup dependent).plan⟩, t.trace, ?_, ?_, rfl⟩
  · unfold walkFrom
    rw [hdocument]
    rfl
  · unfold Node.occurrence?
    dsimp only
    rw [hleaves]
    decide

/-- The relationship of a trip. -/
structure TripRelationship (dependent : Bool) (r : Relationship) (c : Constraint) : Prop where
  owner : (tripSetup dependent).plan.owner? "Departure" = some r
  id : r.id = "trip"
  strategy : r.strategy = .dependentValues
  after : r.after = []
  dependsOn : r.dependsOn = if dependent then ["Departure"] else []
  owned : ∀ f ∈ r.fields, (tripSetup dependent).plan.owns r f = true
  constraint : c ∈ r.constraints
  fields : c.fields = ["Departure"]
  violated : c.check (Dict.empty.insert "Departure" "nowhere") = .violated

theorem exists_tripRelationship (dependent : Bool) : ∃ r c, TripRelationship dependent r c := by
  have hfacts : ∀ b, ((tripSetup b).plan.owner? "Departure").any (fun r =>
      r.id == "trip" && r.strategy == .dependentValues && r.after == [] &&
        r.dependsOn == (if b then ["Departure"] else []) &&
          r.fields.all ((tripSetup b).plan.owns r) && r.constraints.any fun c =>
            c.fields == ["Departure"] &&
              c.check (Dict.empty.insert "Departure" "nowhere") == .violated) = true := by
    decide +kernel
  cases howner : (tripSetup dependent).plan.owner? "Departure" with
  | none =>
      have h := hfacts dependent
      rw [howner] at h
      cases h
  | some r =>
      have h := hfacts dependent
      rw [howner] at h
      simp only [Option.any_some, Bool.and_eq_true, beq_iff_eq, List.all_eq_true, List.any_eq_true] at h
      obtain ⟨⟨⟨⟨⟨hid, hstrategy⟩, hafter⟩, hdependsOn⟩, howned⟩, c, hc, hfields, hviolated⟩ := h
      exact ⟨r, c, howner, hid, hstrategy, hafter, hdependsOn, howned, hc, hfields, hviolated⟩

namespace TripRelationship

variable {dependent : Bool} {r : Relationship} {c : Constraint}

theorem mem (h : TripRelationship dependent r c) : r ∈ (tripSetup dependent).plan.relationships :=
  (Relation.owner?_spec h.owner).1

theorem ne_persona (h : TripRelationship dependent r c) : r.strategy ≠ .consistentPersona := by
  rw [h.strategy]
  nofun

theorem owns (h : TripRelationship dependent r c) :
    ∀ f ∈ c.fields, (tripSetup dependent).plan.owns r f = true := by
  rw [h.fields]
  intro f hf
  rw [List.mem_singleton.1 hf]
  exact Relation.owns_of_owner? h.owner

theorem carried (h : TripRelationship dependent r c) {document : Node}
    (hcarried : document.occurrence? "Departure" 0 = some "nowhere") : ∀ f ∈ c.fields,
      ∃ v, document.occurrence? f 0 = some v ∧
        (Dict.empty.insert "Departure" "nowhere" : Bindings).get? f = some v := by
  rw [h.fields]
  intro f hf
  rw [List.mem_singleton.1 hf]
  exact ⟨"nowhere", hcarried, by decide⟩

end TripRelationship

/-- The state in which the relationship of a trip supplies the departure. -/
def firstTripState (dependent : Bool) (r : Relationship) : RunState :=
  { tripState dependent with
    relations := ((tripState dependent).relations.next "Departure").2
    report := (tripState dependent).report.countRelationship r.id }

theorem trip_delegate? (dependent : Bool) :
    Leaf.delegate? (tripSetup dependent) departureLeaf = some "Departure" := by
  have h : ∀ b, Leaf.delegate? (tripSetup b) departureLeaf = some "Departure" := by decide +kernel
  exact h dependent

theorem tripState_relations (dependent : Bool) : (tripState dependent).relations = {} := rfl

theorem trip_resolve_dependent {r : Relationship} {c : Constraint} (hr : TripRelationship true r c) :
    ∃ t, (Leaf.resolve (tripSetup true) departureLeaf).exec (tripState true) = (.ok "nowhere", t) ∧
      t.report.warnings.all (fun w => w.relationship != some "trip") = true := by
  have hgives : ((tripSetup true).plan.owner? "Departure").any (fun r =>
      returnsText (Relation.dependentValue (tripSetup true) (Leaf.fieldSources (tripSetup true))
        (Relation.resolveAt (tripSetup true) (Leaf.fieldSources (tripSetup true)) 0
          (tripSetup true).plan.owners.size) r "Departure" 0 >>=
            Leaf.handOut (tripSetup true) departureLeaf "Departure") (firstTripState true r) "nowhere"
              fun t => t.report.warnings.all fun w => w.relationship != some "trip") = true := by
    decide +kernel
  rw [hr.owner, Option.any_some] at hgives
  obtain ⟨t, hrun, hwarnings⟩ := exists_of_returnsText hgives
  refine ⟨t, ?_, hwarnings⟩
  rw [Leaf.resolve_of_dependentValues rfl (trip_delegate? true) hr.owner hr.strategy hr.after
    (tripState_relations true)]
  exact hrun

theorem trip_resolve_drawn {r : Relationship} {c : Constraint} (hr : TripRelationship false r c) :
    ∃ t, (Leaf.resolve (tripSetup false) departureLeaf).exec (tripState false) = (.ok "nowhere", t) := by
  have hgives : ((tripSetup false).plan.owner? "Departure").any (fun r =>
      returnsText (((Leaf.fieldSources (tripSetup false)).pool "Departure" r >>= fun pool =>
        if pool.isEmpty then (Leaf.fieldSources (tripSetup false)).independent "Departure"
        else Relation.drawDependent (Leaf.fieldSources (tripSetup false)) r Dict.empty "Departure" pool) >>=
          Leaf.handOut (tripSetup false) departureLeaf "Departure") (firstTripState false r) "nowhere"
            fun _ => true) = true := by
    decide +kernel
  rw [hr.owner, Option.any_some] at hgives
  obtain ⟨t, hrun, -⟩ := exists_of_returnsText hgives
  refine ⟨t, ?_⟩
  rw [Leaf.resolve_of_dependentValues rfl (trip_delegate? false) hr.owner hr.strategy hr.after
    (tripState_relations false), exec_bind,
    Leaf.dependentValue_of_unsettled hr.dependsOn hr.owned (fun _ _ => Std.HashMap.getElem?_empty),
    ← exec_bind]
  exact hrun

theorem hasLeaf_trip {name path : String} {facets : Facets} {fixed : Option String}
    (h : tripSchema.HasLeaf departure name path facets fixed) :
    name = "Departure" ∧ path = "Departure" ∧ fixed = none := by
  have hresolve : tripSchema.resolveType departure = .ok ⟨none, .builtin .string, []⟩ := rfl
  cases h with
  | text he =>
      obtain ⟨rfl, rfl⟩ := he.eq_root hresolve nofun
      exact ⟨rfl, rfl, rfl⟩
  | attr he htype ha =>
      obtain ⟨rfl, rfl⟩ := he.eq_root hresolve nofun
      rw [hresolve] at htype
      cases htype
      cases ha

theorem watched_trip {r : Relationship} {c : Constraint} (hr : TripRelationship false r c) :
    Watched (tripSetup false) departure r c := by
  have hmem : ∀ f ∈ c.fields, f = "Departure" := by
    rw [hr.fields]
    exact fun f => List.mem_singleton.1
  refine ⟨⟨"Departure", ?_, fun _ => ?_⟩, fun f hf _ _ => ?_, fun name path facets fixed h f hf hkey => ?_⟩
  · rw [hr.fields]
    exact List.mem_singleton_self _
  · rw [hr.dependsOn]
    exact List.not_mem_nil
  · rw [hmem f hf]
    have hcustom : ((tripSetup false).index.fieldEntry? "Departure").any (fun p =>
        ((tripSetup false).plan.rule? p.1.name p.1.path).any fun rule => !rule.customValues.isEmpty) =
          true := by
      decide +kernel
    exact Leaf.candidatePool_of_customValues hcustom r
  · rw [(prepared_of_prepare (prepare_trip false)).schema_eq] at h
    obtain ⟨rfl, rfl, rfl⟩ := hasLeaf_trip h
    refine ⟨rfl, ?_⟩
    rw [hmem f hf]
    exact (Option.filter_eq_some_iff.1 (trip_delegate? false)).1

theorem relationship_violations_flagged_trip : ∃ setup root r c made trace b,
    prepare tripSchema (tripConfig false) {} = .ok (setup, root) ∧ r ∈ setup.plan.relationships ∧
      r.strategy ≠ .consistentPersona ∧ c ∈ r.constraints ∧
      (∀ f ∈ c.fields, setup.plan.owns r f = true) ∧ Watched setup root r c ∧
      walkFrom setup root (firstState setup root 0 zeroRng) = (.ok made, trace) ∧
      (∀ f ∈ c.fields, ∃ v, made.document.occurrence? f 0 = some v ∧ b.get? f = some v) ∧
      c.check b = .violated ∧
      ∃ w ∈ made.report.warnings, w.code = "constraint_violation" ∧ w.relationship = some r.id := by
  obtain ⟨r, c, hr⟩ := exists_tripRelationship false
  obtain ⟨t, htext⟩ := trip_resolve_drawn hr
  obtain ⟨made, trace, hrun, hcarried, -⟩ := trip_run htext
  exact ⟨_, _, r, c, made, trace, _, prepare_trip false, hr.mem, hr.ne_persona, hr.constraint,
    hr.owns, watched_trip hr, hrun, hr.carried hcarried, hr.violated,
    relationship_violations_flagged tripSchema (tripConfig false) {} _ _ (prepare_trip false) r hr.mem
      hr.ne_persona c hr.constraint hr.owns (watched_trip hr) 0 zeroRng made trace hrun 0 _
      (hr.carried hcarried) hr.violated⟩

/-- A violation among the fields that others depend on goes without a warning: these fields are settled
without a check. -/
theorem relationship_violations_unflagged : ¬ ∀ schema config options setup root,
    prepare schema config options = .ok (setup, root) → ∀ r ∈ setup.plan.relationships,
      r.strategy ≠ .consistentPersona → ∀ c ∈ r.constraints,
        (∀ f ∈ c.fields, setup.plan.owns r f = true) → ∀ seed rng made trace,
          walkFrom setup root (firstState setup root seed rng) = (.ok made, trace) →
            ∀ (n : Nat) (b : Bindings),
              (∀ f ∈ c.fields, ∃ v, made.document.occurrence? f n = some v ∧ b.get? f = some v) →
                c.check b = .violated →
                  ∃ w ∈ made.report.warnings,
                    w.code = "constraint_violation" ∧ w.relationship = some r.id := by
  intro h
  obtain ⟨r, c, hr⟩ := exists_tripRelationship true
  obtain ⟨t, htext, hwarnings⟩ := trip_resolve_dependent hr
  obtain ⟨made, trace, hrun, hcarried, hreport⟩ := trip_run htext
  obtain ⟨w, hw, -, hnames⟩ := h tripSchema (tripConfig true) {} _ _ (prepare_trip true) r hr.mem
    hr.ne_persona c hr.constraint hr.owns 0 zeroRng made trace hrun 0 _ (hr.carried hcarried) hr.violated
  rw [hreport] at hw
  have hother := Array.all_eq_true_iff_forall_mem.1 hwarnings w hw
  rw [hnames, hr.id] at hother
  cases hother

end Generation
end Specimen
