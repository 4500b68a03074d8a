import Specimen.Proofs.Graph.Counting
import Specimen.Proofs.Plan.Owners

/-!
# Declared precedence

The dependencies of relationships say which fields are settled before which.  A cycle through different fields is
reported exactly when there is one, so in a configuration that is accepted what is declared can be followed only
finitely far.
-/

open Relation (ReflTransGen TransGen)

namespace Specimen

/-- A relationship declares that one of its fields waits for another field: one that others depend on, or
one of a relationship that comes first. -/
def Relationship.Declares (relationships : List Relationship) (r : Relationship)
    (field other : String) : Prop :=
  (field ∈ r.dependents ∧ other ∈ r.dependsOn) ∨
    ∃ id ∈ r.after, ∃ earlier,
      relationships.find? (fun candidate => candidate.id == id) = some earlier ∧
        field ∈ r.fields ∧ other ∈ earlier.fields ∧ other ≠ field

namespace Config

variable {relationships : List Relationship} {c : Config} {plan : Plan}

/-! ## Edges -/

theorem leads_foldl_add {g : Graph} {fields : List String} {targets : String → List String}
    {n t : String} : (fields.foldl (fun g f => g.add f (targets f)) g).Leads n t ↔
      g.Leads n t ∨ (n ∈ fields ∧ t ∈ targets n) := by
  refine (foldl_iff (f := fun g f => g.add f (targets f)) (Graph.Leads · n t)
    (fun _ _ => Graph.leads_add) fields g).trans ?_
  simp

theorem leads_addEarlier {g : Graph} {r : Relationship} {id field other : String} :
    (addEarlier relationships r g id).Leads field other ↔ g.Leads field other ∨ ∃ earlier,
      relationships.find? (fun candidate => candidate.id == id) = some earlier ∧
        field ∈ r.fields ∧ other ∈ earlier.fields ∧ other ≠ field := by
  unfold addEarlier
  cases relationships.find? fun candidate => candidate.id == id with
  | none => simp
  | some earlier => simp [leads_foldl_add]

theorem leads_addPrecedence {g : Graph} {r : Relationship} {field other : String} :
    (addPrecedence relationships g r).Leads field other ↔
      g.Leads field other ∨ r.Declares relationships field other := by
  unfold addPrecedence
  dsimp only
  refine (foldl_iff (f := addEarlier relationships r) (Graph.Leads · field other)
    (fun _ _ => leads_addEarlier) r.after _).trans ?_
  rw [leads_foldl_add, leads_foldl_add, or_assoc]
  simp [Relationship.Declares]

theorem leads_precedence {field other : String} :
    (precedence relationships).Leads field other ↔
      ∃ r ∈ relationships, r.Declares relationships field other := by
  unfold precedence
  refine (foldl_iff (f := addPrecedence relationships) (Graph.Leads · field other)
    (fun _ _ => leads_addPrecedence) relationships []).trans ?_
  simp [Graph.Leads]

/-! ## Nodes -/

theorem mem_nodes_foldl_add {g : Graph} {fields : List String} {targets : String → List String}
    {n : String} : n ∈ (fields.foldl (fun g f => g.add f (targets f)) g).nodes ↔
      n ∈ g.nodes ∨ n ∈ fields := by
  refine (foldl_iff (f := fun g f => g.add f (targets f)) (n ∈ Graph.nodes ·)
    (fun _ _ => Graph.mem_nodes_add) fields g).trans ?_
  simp

theorem mem_nodes_addEarlier {g : Graph} {r : Relationship} {id field : String} :
    field ∈ (addEarlier relationships r g id).nodes ↔ field ∈ g.nodes ∨
      (relationships.find? fun candidate => candidate.id == id).isSome ∧ field ∈ r.fields := by
  unfold addEarlier
  cases relationships.find? fun candidate => candidate.id == id with
  | none => simp
  | some earlier => simp [mem_nodes_foldl_add]

theorem mem_nodes_addPrecedence {g : Graph} {r : Relationship} {field : String} :
    field ∈ (addPrecedence relationships g r).nodes ↔ field ∈ g.nodes ∨ field ∈ r.fields := by
  unfold addPrecedence
  dsimp only
  refine (foldl_iff (f := addEarlier relationships r) (field ∈ Graph.nodes ·)
    (fun _ _ => mem_nodes_addEarlier) r.after _).trans ?_
  rw [mem_nodes_foldl_add, mem_nodes_foldl_add]
  constructor
  · rintro (((hg | hfield) | hdependent) | ⟨id, -, -, hfield⟩)
    · exact .inl hg
    · exact .inr hfield
    · exact .inr (List.mem_filter.1 hdependent).1
    · exact .inr hfield
  · exact fun h => .inl (.inl h)

theorem mem_nodes_precedence {field : String} :
    field ∈ (precedence relationships).nodes ↔ ∃ r ∈ relationships, field ∈ r.fields := by
  unfold precedence
  refine (foldl_iff (f := addPrecedence relationships) (field ∈ Graph.nodes ·)
    (fun _ _ => mem_nodes_addPrecedence) relationships []).trans ?_
  simp [Graph.nodes]

/-- What adding targets to nodes keeps holds of the graph of all relationships. -/
theorem precedence_induction {P : Graph → Prop} (hnil : P [])
    (hadd : ∀ g node targets, P g → P (g.add node targets)) (relationships : List Relationship) :
    P (precedence relationships) := by
  have hfold : ∀ {g : Graph}, P g → ∀ (fields : List String) (targets : String → List String),
      P (fields.foldl (fun g f => g.add f (targets f)) g) := fun hg fields targets =>
    List.foldlRecOn fields _ hg fun g hg f _ => hadd g f (targets f) hg
  refine List.foldlRecOn relationships _ hnil fun g hg r _ => ?_
  have hdependents := hfold (hfold hg r.fields fun _ => []) r.dependents fun _ => r.dependsOn
  refine List.foldlRecOn r.after _ hdependents fun g hg id _ => ?_
  unfold addEarlier
  split
  · exact hg
  · exact hfold hg _ _

theorem orderly_precedence (relationships : List Relationship) : (precedence relationships).Orderly :=
  precedence_induction .nil (fun _ node targets hg => hg.add node targets) relationships

/-! ## Reported cycles -/

section Cycles

variable (fields : List String)

theorem dependencyCycle_not_mem_settings (s : GenerationSettings) :
    ConfigFault.dependencyCycle fields ∉ (compileSettings s).1 := by
  simp [compileSettings]

theorem dependencyCycle_not_mem_contexts (contexts : Dict DataContext) :
    ConfigFault.dependencyCycle fields ∉ contextFaults contexts := by
  unfold contextFaults
  dsimp only
  split
  · simp
  · simp

theorem dependencyCycle_not_mem_selection (owner : StrategyOwner) (name : String) :
    ConfigFault.dependencyCycle fields ∉ (compileSelection owner name).1 := by
  unfold compileSelection
  split
  · exact List.not_mem_nil
  · simp

theorem dependencyCycle_not_mem_dependencies (id : String) (d : RelationshipDef) :
    ConfigFault.dependencyCycle fields ∉ (c.compileDependencies id d).1 := by
  intro h
  obtain ⟨⟨_, found⟩, -, hfault⟩ := List.mem_filterMap.1 h
  cases found with
  | error e => cases hfault
  | ok dependency => cases hfault

theorem dependencyCycle_not_mem_constraints (id : String) (d : RelationshipDef) :
    ConfigFault.dependencyCycle fields ∉ (compileConstraints id d).1 := by
  intro h
  obtain ⟨read, hread, hfault⟩ := List.mem_filterMap.1 h
  obtain ⟨p, -, rfl⟩ := List.mem_map.1 hread
  unfold compileConstraint at hfault
  split at hfault
  · rename_i fault hfound
    cases hfault
    split at hfound
    · cases hfound
    · split at hfound
      · cases hfound
      · cases hfound
  · cases hfault

theorem dependencyCycle_not_mem_relationship (settings : PlanSettings) (id : String) (d : RelationshipDef) :
    ConfigFault.dependencyCycle fields ∉ (c.compileRelationship settings id d).1 := by
  unfold compileRelationship Checked.ifSound
  cases d.selectionStrategy with
  | none => simp [dependencyCycle_not_mem_dependencies, dependencyCycle_not_mem_constraints]
  | some name =>
      simp [dependencyCycle_not_mem_selection, dependencyCycle_not_mem_dependencies,
        dependencyCycle_not_mem_constraints]

theorem dependencyCycle_not_mem_element (relationships : List Relationship) (key : String) (e : ElementConfig) :
    ConfigFault.dependencyCycle fields ∉ (compileElement relationships key e).1 := by
  have howner : ConfigFault.dependencyCycle fields ∉ ownerFaults relationships key e.relationship := by
    unfold ownerFaults
    split
    · exact List.not_mem_nil
    · split
      · simp
      · split
        · exact List.not_mem_nil
        · simp
  unfold compileElement Checked.ifSound
  cases e.selectionStrategy with
  | none => simp [howner]
  | some name => simp [howner, dependencyCycle_not_mem_selection]

/-- Only the dependencies between fields are at fault for a cycle. -/
theorem dependencyCycle_mem_draft : ConfigFault.dependencyCycle fields ∈ c.draft.1 ↔
    (precedence c.draft.2.relationships).stuck = fields ∧ fields ≠ [] := by
  have hrelationships : ConfigFault.dependencyCycle fields ∉ ((c.relationships.entries.map fun e =>
      c.compileRelationship (compileSettings c.settings).2 e.1 e.2).map (·.1)).flatten := by
    simp [dependencyCycle_not_mem_relationship]
  have helements : ConfigFault.dependencyCycle fields ∉ ((c.elements.entries.map fun e =>
      compileElement c.draft.2.relationships e.1 e.2).map (·.1)).flatten := by
    simp [dependencyCycle_not_mem_element]
  constructor
  · intro h
    have hlast := (List.mem_append.1 h).resolve_left fun hearlier => by
      rcases List.mem_append.1 hearlier with hearlier | helement
      · rcases List.mem_append.1 hearlier with hearlier | hrelationship
        · rcases List.mem_append.1 hearlier with hsettings | hcontexts
          · exact dependencyCycle_not_mem_settings fields _ hsettings
          · exact dependencyCycle_not_mem_contexts fields _ hcontexts
        · exact hrelationships hrelationship
      · exact helements helement
    split at hlast
    · cases hlast
    · rename_i hstuck
      cases List.mem_singleton.1 hlast
      exact ⟨rfl, hstuck⟩
  · rintro ⟨rfl, hstuck⟩
    refine List.mem_append_right _ ?_
    split
    · rename_i hnone
      exact absurd hnone hstuck
    · exact List.mem_singleton_self _

end Cycles

/-- Compiling a configuration reports an error with a code. -/
def Reports (c : Config) (code : String) : Prop :=
  ∃ faults, c.compile = .error faults ∧ ∃ issue ∈ (ConfigReport.ofFaults faults).errors, issue.code = code

theorem reports_iff {code : String} :
    c.Reports code ↔ ∃ fault ∈ c.draft.1, fault.isError = true ∧ fault.issue.code = code := by
  have hissue : ∀ faults, (∃ issue ∈ (ConfigReport.ofFaults faults).errors, issue.code = code) ↔
      ∃ fault ∈ faults, fault.isError = true ∧ fault.issue.code = code := by
    intro faults
    simp [ConfigReport.ofFaults, ConfigFault.isError, and_assoc]
  unfold Reports compile
  dsimp only
  simp only [hissue]
  constructor
  · rintro ⟨faults, hcompile, hfault⟩
    split at hcompile
    · rwa [Except.error.inj hcompile]
    · cases hcompile
  · rintro ⟨fault, hfault, herror, hcode⟩
    have hany : c.draft.1.any (·.isError) = true := List.any_eq_true.2 ⟨fault, hfault, herror⟩
    exact ⟨c.draft.1, if_pos hany, fault, hfault, herror, hcode⟩

theorem code_eq_cycle_iff {fault : ConfigFault} :
    fault.issue.code = "relationship_dependency_cycle" ↔ ∃ fields, fault = .dependencyCycle fields := by
  constructor
  · intro h
    cases fault with
    | dependencyCycle fields => exact ⟨fields, rfl⟩
    | _ => simp [ConfigFault.issue, Issue.error, Issue.warning, Issue.withHint] at h
  · rintro ⟨fields, rfl⟩
    rfl

/-- A cycle is reported when one of the fields is stuck. -/
theorem reports_cycle_iff : c.Reports "relationship_dependency_cycle" ↔
    (precedence c.draft.2.relationships).stuck ≠ [] := by
  rw [reports_iff]
  constructor
  · rintro ⟨fault, hfault, -, hcode⟩
    obtain ⟨fields, rfl⟩ := code_eq_cycle_iff.1 hcode
    obtain ⟨rfl, hstuck⟩ := (dependencyCycle_mem_draft fields).1 hfault
    exact hstuck
  · intro hstuck
    exact ⟨_, (dependencyCycle_mem_draft _).2 ⟨rfl, hstuck⟩, rfl, rfl⟩

/-- A field waits for another one by what relationships declare. -/
def Waits (relationships : List Relationship) (field other : String) : Prop :=
  ∃ r ∈ relationships, r.Declares relationships field other

/-- A configuration is reported for a dependency cycle exactly if among the relationships that are compiled without
an error the fields wait for each other in a cycle through different fields.

What is asked for this is any graph whose nodes and targets are sets.  Either all its nodes are listed, once each and
after the other nodes that they lead to, and it has no cycle through different nodes; or it has one, and what is left
over are exactly the nodes from which such a cycle can be reached. -/
theorem cycles_detected :
    (∀ c : Config, c.Reports "relationship_dependency_cycle" ↔
      ∃ field, Graph.OnCycle (Waits c.draft.2.relationships) field) ∧
    ∀ g : Graph, g.Orderly →
      (∃ order, g.toposort = .ok order ∧ order.Perm g.nodes ∧ order.Nodup ∧
        (∀ before n after, order = before ++ n :: after →
          ∀ t, g.Leads n t → t ∈ g.nodes → t ≠ n → t ∈ before) ∧
        ∀ n, ¬ Graph.OnCycle g.Leads n) ∨
      ∃ left, g.toposort = .error left ∧ (∃ n, Graph.OnCycle g.Leads n) ∧
        ∀ n, n ∈ left ↔ n ∈ g.nodes ∧ ∃ m, ReflTransGen g.Leads n m ∧ Graph.OnCycle g.Leads m := by
  constructor
  · intro c
    have hleads : (precedence c.draft.2.relationships).Leads = Waits c.draft.2.relationships := by
      funext field other
      exact propext leads_precedence
    rw [reports_cycle_iff, Ne, Graph.stuck_eq_nil_iff (orderly_precedence _), hleads]
    simp
  · intro g hg
    cases hlisting : g.toposort with
    | ok order =>
        obtain ⟨hperm, hnodup, hfirst⟩ := Graph.toposort_eq_ok hg hlisting
        have hstuck : g.stuck = [] := by
          unfold Graph.stuck
          rw [hlisting]
        exact .inl ⟨order, rfl, hperm, hnodup, hfirst, (Graph.stuck_eq_nil_iff hg).1 hstuck⟩
    | error left =>
        obtain ⟨rfl, hne⟩ := Graph.toposort_eq_error hg hlisting
        rw [Ne, Graph.stuck_eq_nil_iff hg] at hne
        exact .inr ⟨g.stuck, rfl, by simpa using hne, fun n => Graph.mem_stuck hg⟩

/-- Two nodes in a ring, one that leads to the ring, and one that leads to itself only. -/
def ringGraph : Graph := [("A", ["B"]), ("B", ["A"]), ("C", ["B", "Z"]), ("D", ["D", "Z"])]

theorem cycles_detected_ring : ringGraph.Orderly ∧ ringGraph.toposort = .error ["A", "B", "C"] ∧
    (∃ m, ReflTransGen ringGraph.Leads "C" m ∧ Graph.OnCycle ringGraph.Leads m) ∧
    ¬ ∃ m, ReflTransGen ringGraph.Leads "D" m ∧ Graph.OnCycle ringGraph.Leads m := by
  have horderly : ringGraph.Orderly := ⟨by unfold Graph.Increasing; decide, by decide⟩
  have hlisting : ringGraph.toposort = .error ["A", "B", "C"] := by rfl
  rcases cycles_detected.2 ringGraph horderly with ⟨order, horder, -⟩ | ⟨left, hleft, -, hmem⟩
  · rw [hlisting] at horder
    cases horder
  · rw [hlisting] at hleft
    cases hleft
    refine ⟨horderly, hlisting, ((hmem "C").1 (by decide)).2, fun hreaches => ?_⟩
    have hnot : "D" ∉ ["A", "B", "C"] := by decide
    exact hnot ((hmem "D").2 ⟨by decide, hreaches⟩)

/-! ## Accepted configurations -/

theorem stuck_precedence_eq_nil (h : c.compile = .ok plan) :
    (precedence plan.relationships).stuck = [] := by
  obtain ⟨hsound, rfl⟩ := compile_eq_ok h
  by_contra hstuck
  have herror := hsound _ ((dependencyCycle_mem_draft _).2 ⟨rfl, hstuck⟩)
  cases herror

/-- In an accepted configuration what relationships declare about different fields can be followed only
finitely far. -/
theorem wellFounded_declares (h : c.compile = .ok plan) :
    WellFounded fun other field => other ≠ field ∧ (∃ r ∈ plan.relationships, other ∈ r.fields) ∧
      ∃ r ∈ plan.relationships, r.Declares plan.relationships field other := by
  have hwell := Graph.wellFounded_of_stuck_eq_nil (orderly_precedence plan.relationships)
    (stuck_precedence_eq_nil h)
  refine Subrelation.wf (fun {other field} hdeclares => ?_) hwell
  obtain ⟨hne, hnode, hdeclares⟩ := hdeclares
  exact ⟨leads_precedence.2 hdeclares, hne, mem_nodes_precedence.2 hnode⟩

theorem findDependency_eq_ok {id name : String} {fields : List String} {dependency : Dependency}
    (h : c.findDependency id fields name = .ok dependency) :
    (∃ f ∈ fields, dependency = .field f) ∨
      name ≠ id ∧ c.relationships.contains name ∧ dependency = .relationship name := by
  unfold findDependency at h
  split at h
  · rename_i f hfield
    cases h
    exact .inl ⟨f, findField_mem hfield, rfl⟩
  · split at h
    · rename_i hother
      cases h
      exact .inr ⟨hother.1, hother.2, rfl⟩
    · cases h

theorem mem_fields_of_compileDependencies {id field : String} {d : RelationshipDef}
    (h : field ∈ (c.compileDependencies id d).2.1) : field ∈ d.fields := by
  obtain ⟨⟨p, found⟩, hfound, hsome⟩ := List.mem_filterMap.1 h
  obtain ⟨p, -, hp⟩ := List.mem_map.1 hfound
  obtain ⟨rfl, rfl⟩ := Prod.mk.inj hp
  dsimp only at hsome
  split at hsome
  · rename_i f hdependency
    cases hsome
    obtain ⟨f, hmem, heq⟩ | ⟨-, -, heq⟩ := findDependency_eq_ok hdependency
    · cases heq
      exact hmem
    · cases heq
  · cases hsome

theorem other_of_compileDependencies {id other : String} {d : RelationshipDef}
    (h : other ∈ (c.compileDependencies id d).2.2) : other ≠ id ∧ c.relationships.contains other := by
  obtain ⟨⟨p, found⟩, hfound, hsome⟩ := List.mem_filterMap.1 h
  obtain ⟨p, -, hp⟩ := List.mem_map.1 hfound
  obtain ⟨rfl, rfl⟩ := Prod.mk.inj hp
  dsimp only at hsome
  split at hsome
  · rename_i name hdependency
    cases hsome
    obtain ⟨_, -, heq⟩ | ⟨hne, hcontains, heq⟩ := findDependency_eq_ok hdependency
    · cases heq
    · cases heq
      exact ⟨hne, hcontains⟩
  · cases hsome

/-- No relationship comes before itself. -/
theorem not_mem_after (h : c.compile = .ok plan) {r : Relationship} (hr : r ∈ plan.relationships) :
    r.id ∉ r.after := by
  obtain ⟨-, rfl⟩ := compile_eq_ok h
  obtain ⟨e, -, hsome⟩ := mem_relationships.1 hr
  obtain ⟨_, _, -, rfl⟩ := compileRelationship_eq_some hsome
  intro hself
  exact (other_of_compileDependencies hself).1 rfl

end Config
end Specimen
