import Specimen.Proofs.Constraint.Fields
import Specimen.Proofs.Plan.Paths
import Specimen.Proofs.Plan.Waiting

/-!
# Consistent plans

A plan is made in passes over relationships, over elements and over fields.  Each pass leaves out what is wrong
and says so.  In the plan of an accepted configuration nothing was left out: every relationship and every element
of the configuration has its counterpart, and the parts of the plan refer to each other as they should.
-/

namespace Specimen

/-- The names in a relationship of a plan stand for fields of it and for other relationships of the plan. -/
structure Relationship.Consistent (relationships : List Relationship) (r : Relationship) : Prop where
  fields_ne_nil : r.fields ≠ []
  fields_nodup : r.fields.Nodup
  dependsOn_subset : r.dependsOn ⊆ r.fields
  fieldMap_subset : r.fieldMap.keys ⊆ r.fields
  after_others : ∀ id ∈ r.after, id ≠ r.id ∧ ∃ other ∈ relationships, other.id = id
  source_isSome : r.strategy = .consistentPersona → r.source.isSome
  constraints : ∀ k ∈ r.constraints,
    k.expr.fields ⊆ r.fields ∧ k.fields.Pairwise (· < ·) ∧ ∀ f, f ∈ k.fields ↔ f ∈ k.expr.fields

/-- The relationship that is named by the first element that names one and whose key ends in a field. -/
def Config.namedOwner? (c : Config) (field : String) : Option String :=
  c.elements.entries.findSome? fun e =>
    if (segmentsOf e.1).getLast? = some field.toList then e.2.relationship else none

/-- The parts of the plan of a configuration fit together. -/
structure Plan.Consistent (c : Config) (plan : Plan) : Prop where
  ids_nodup : (plan.relationships.map (·.id)).Nodup
  ordered : plan.relationships.Pairwise fun a b =>
    a.priority < b.priority ∨ a.priority = b.priority ∧ a.id < b.id
  relationships : ∀ r ∈ plan.relationships, r.Consistent plan.relationships
  mem_owners : ∀ field, field ∈ plan.owners.keys ↔ ∃ r ∈ plan.relationships, field ∈ r.fields
  owner_hasField : ∀ field id, plan.owners.get? field = some id →
    ∃ r ∈ plan.relationships, r.id = id ∧ field ∈ r.fields
  owner_eq : ∀ field, plan.owners.get? field =
    (c.namedOwner? field).or ((plan.relationships.find? (·.hasField field)).map (·.id))
  depth_pos : 1 ≤ plan.settings.maxDepth

namespace Config

variable {c : Config} {plan : Plan} {relationships : List Relationship} {settings : PlanSettings}
  {id key field : String} {d : RelationshipDef} {e : ElementConfig} {r : Relationship}

/-! ## Nothing is left out -/

theorem ifSound_of_sound {α : Type} {faults : List ConfigFault} (h : ∀ fault ∈ faults, fault.isError = false)
    (value : Option α) : (Checked.ifSound faults value).2 = value := by
  have hnone : faults.any (·.isError) = false := by
    rw [List.any_eq_false]
    intro fault hfault
    simp [h fault hfault]
  unfold Checked.ifSound
  rw [hnone]
  rfl

theorem relationship_sound (hsound : ∀ fault ∈ c.draft.1, fault.isError = false) {entry : String × RelationshipDef}
    (hentry : entry ∈ c.relationships.entries) :
    ∀ fault ∈ (c.compileRelationship (compileSettings c.settings).2 entry.1 entry.2).1, fault.isError = false := by
  intro fault hfault
  refine hsound fault ?_
  refine List.mem_append_left _ (List.mem_append_left _ (List.mem_append_right _ ?_))
  exact List.mem_flatten.2 ⟨_, List.mem_map_of_mem (List.mem_map_of_mem hentry), hfault⟩

theorem element_sound (hsound : ∀ fault ∈ c.draft.1, fault.isError = false) {entry : String × ElementConfig}
    (hentry : entry ∈ c.elements.entries) :
    ∀ fault ∈ (compileElement c.draft.2.relationships entry.1 entry.2).1, fault.isError = false := by
  intro fault hfault
  refine hsound fault (List.mem_append_left _ (List.mem_append_right _ ?_))
  exact List.mem_flatten.2 ⟨_, List.mem_map_of_mem (List.mem_map_of_mem hentry), hfault⟩

theorem not_of_sound_ite {p : Prop} [Decidable p] {fault : ConfigFault} (herror : fault.isError = true)
    (h : ∀ x ∈ if p then [fault] else [], x.isError = false) : ¬ p := by
  intro hp
  rw [if_pos hp] at h
  rw [h fault List.mem_cons_self] at herror
  cases herror

theorem eq_nil_of_sound_map {α : Type} {l : List α} {g : α → ConfigFault} (herror : ∀ a, (g a).isError = true)
    (h : ∀ x ∈ l.map g, x.isError = false) : l = [] := by
  refine List.eq_nil_iff_forall_not_mem.2 fun a ha => ?_
  have hnone := h (g a) (List.mem_map_of_mem ha)
  rw [herror a] at hnone
  cases hnone

/-- What holds of the definition of a relationship that is compiled without an error. -/
structure SoundDef (d : RelationshipDef) : Prop where
  fields_ne_nil : d.fields ≠ []
  fields_nodup : d.fields.Nodup
  strategy : (RelationshipStrategy.ofName? d.strategy).isSome
  selection : ∀ name, d.selectionStrategy = some name → (SelectionStrategy.ofName? name).isSome
  source : RelationshipStrategy.ofName? d.strategy = some .consistentPersona → d.source.isSome
  fieldMap_subset : d.fieldMap.keys ⊆ d.fields

theorem nodup_of_repeatedFields_eq_nil {seen fields : List String} (h : repeatedFields seen fields = []) :
    fields.Nodup ∧ ∀ f ∈ fields, f ∉ seen := by
  induction fields generalizing seen with
  | nil => exact ⟨.nil, List.forall_mem_nil _⟩
  | cons f rest ih =>
      unfold repeatedFields at h
      split at h
      · cases h
      · rename_i hfresh
        obtain ⟨hnodup, hseen⟩ := ih h
        have hrest : f ∉ rest := fun hmem => hseen f hmem List.mem_cons_self
        refine ⟨List.nodup_cons.2 ⟨hrest, hnodup⟩, List.forall_mem_cons.2 ⟨?_, ?_⟩⟩
        · simpa using hfresh
        · exact fun g hg hmem => hseen g hg (List.mem_cons_of_mem _ hmem)

theorem isSome_of_compileSelection {owner : StrategyOwner} {name : String}
    (h : ∀ fault ∈ (compileSelection owner name).1, fault.isError = false) :
    (SelectionStrategy.ofName? name).isSome := by
  unfold compileSelection at h
  split at h
  · rename_i hfound
    rw [hfound]
    rfl
  · have hnone := h _ (List.mem_singleton_self _)
    cases hnone

theorem soundDef_of_compileRelationship
    (h : ∀ fault ∈ (c.compileRelationship settings id d).1, fault.isError = false) : SoundDef d := by
  unfold compileRelationship at h
  simp only [Checked.ifSound, List.mem_append, or_imp, forall_and] at h
  obtain ⟨⟨⟨⟨⟨⟨⟨⟨hfields, hrepeated⟩, hstrategy⟩, hselection⟩, hsource⟩, -⟩, -⟩, hmap⟩, -⟩ := h
  constructor
  · have hne := not_of_sound_ite rfl hfields
    simpa using hne
  · exact (nodup_of_repeatedFields_eq_nil (eq_nil_of_sound_map (fun _ => rfl) hrepeated)).1
  · have hsome := not_of_sound_ite rfl hstrategy
    simpa [Option.isSome_iff_ne_none] using hsome
  · intro name hname
    rw [hname] at hselection
    exact isSome_of_compileSelection hselection
  · intro hpersona
    have hsome := not_of_sound_ite rfl hsource
    simpa [hpersona, Option.isSome_iff_ne_none] using hsome
  · intro field hfield
    have hnil := eq_nil_of_sound_map (fun _ => rfl) hmap
    simpa using List.filter_eq_nil_iff.1 hnil field hfield

theorem isSome_of_sound (h : ∀ fault ∈ (c.compileRelationship settings id d).1, fault.isError = false) :
    (c.compileRelationship settings id d).2.isSome := by
  have hdef := soundDef_of_compileRelationship h
  obtain ⟨strategy, hstrategy⟩ := Option.isSome_iff_exists.1 hdef.strategy
  rw [Option.isSome_iff_ne_none]
  intro hnone
  have hvalue := Option.bind_eq_none_iff.1 ((ifSound_of_sound h _).symm.trans hnone) strategy hstrategy
  cases hname : d.selectionStrategy with
  | none =>
      simp only [hname] at hvalue
      cases Option.bind_eq_none_iff.1 hvalue _ rfl
  | some name =>
      obtain ⟨selection, hselection⟩ := Option.isSome_iff_exists.1 (hdef.selection name hname)
      simp only [hname, compileSelection, hselection] at hvalue
      cases Option.bind_eq_none_iff.1 hvalue selection rfl

/-- Every relationship of an accepted configuration is in its plan. -/
theorem exists_relationship (h : c.compile = .ok plan) (hid : c.relationships.contains id = true) :
    ∃ r ∈ plan.relationships, r.id = id := by
  obtain ⟨hsound, rfl⟩ := compile_eq_ok h
  rw [Dict.contains_eq_isSome_get?] at hid
  obtain ⟨d, hd⟩ := Option.isSome_iff_exists.1 hid
  have hentry := Dict.get?_mem hd
  obtain ⟨r, hr⟩ := Option.isSome_iff_exists.1 (isSome_of_sound (relationship_sound hsound hentry))
  refine ⟨r, mem_relationships.2 ⟨(id, d), hentry, hr⟩, ?_⟩
  obtain ⟨_, _, -, rfl⟩ := compileRelationship_eq_some hr
  rfl

/-- The relationships of the plan of an accepted configuration are consistent. -/
theorem relationship_consistent (h : c.compile = .ok plan) (hr : r ∈ plan.relationships) :
    r.Consistent plan.relationships := by
  obtain ⟨hsound, hplan⟩ := compile_eq_ok h
  obtain ⟨⟨id, d⟩, hentry, hsome⟩ := mem_relationships.1 (hplan ▸ hr)
  have hdef := soundDef_of_compileRelationship (relationship_sound hsound hentry)
  obtain ⟨strategy, selection, hstrategy, rfl⟩ := compileRelationship_eq_some hsome
  constructor
  · exact hdef.fields_ne_nil
  · exact hdef.fields_nodup
  · exact fun f hf => mem_fields_of_compileDependencies hf
  · exact hdef.fieldMap_subset
  · intro other hother
    obtain ⟨hne, hcontains⟩ := other_of_compileDependencies hother
    exact ⟨hne, exists_relationship h hcontains⟩
  · intro hpersona
    exact hdef.source (hstrategy.trans (congrArg some hpersona))
  · intro k hk
    obtain ⟨hsubset, hsorted⟩ := mem_constraints hk
    refine ⟨hsubset, ?_, fun f => ?_⟩
    · rw [hsorted]
      exact Graph.pairwise_sorted k.expr.fields
    · rw [hsorted, Graph.mem_sorted]

/-! ## The order of relationships -/

theorem precedes_iff {a b : Relationship} :
    precedes a b = true ↔ a.priority < b.priority ∨ a.priority = b.priority ∧ a.id ≤ b.id := by
  simp [precedes]

theorem precedes_trans (a b c : Relationship) (hab : precedes a b = true) (hbc : precedes b c = true) :
    precedes a c = true := by
  rw [precedes_iff] at *
  rcases hab with hab | ⟨hab, hid⟩
  · rcases hbc with hbc | ⟨hbc, -⟩
    · exact .inl (Int32.lt_trans hab hbc)
    · exact .inl (hbc ▸ hab)
  · rcases hbc with hbc | ⟨hbc, hid'⟩
    · exact .inl (hab ▸ hbc)
    · exact .inr ⟨hab.trans hbc, String.le_trans hid hid'⟩

theorem precedes_total (a b : Relationship) : (precedes a b || precedes b a) = true := by
  rw [Bool.or_eq_true, precedes_iff, precedes_iff]
  by_cases hlt : a.priority < b.priority
  · exact .inl (.inl hlt)
  · by_cases hgt : b.priority < a.priority
    · exact .inr (.inl hgt)
    · have heq := Int32.le_antisymm (Int32.not_lt.1 hgt) (Int32.not_lt.1 hlt)
      exact (String.le_total a.id b.id).imp (fun hid => .inr ⟨heq, hid⟩) fun hid => .inr ⟨heq.symm, hid⟩

/-- The relationships of a plan stand in the order of their priorities, and those of one priority in the order
of their ids. -/
theorem relationships_ordered (c : Config) : c.draft.2.relationships.Pairwise fun a b =>
    a.priority < b.priority ∨ a.priority = b.priority ∧ a.id < b.id := by
  have hsorted : c.draft.2.relationships.Pairwise fun a b => precedes a b = true :=
    List.pairwise_mergeSort precedes_trans precedes_total _
  refine List.Pairwise.imp₂ (fun a b hab hne => ?_) hsorted (relationships_pairwise c)
  refine (precedes_iff.1 hab).imp_right fun ⟨hpriority, hid⟩ => ⟨hpriority, ?_⟩
  exact String.not_le.1 fun hle => hne (String.le_antisymm hid hle)

/-! ## Owners that elements name -/

theorem exists_rule (h : ∀ fault ∈ (compileElement relationships key e).1, fault.isError = false) :
    ∃ rule, (compileElement relationships key e).2 = some rule :=
  ⟨_, ifSound_of_sound h _⟩

theorem getLast?_segmentsOf (key : String) : (segmentsOf key).getLast? = some (localName key).toList := by
  rw [segmentsOf, Text.getLast?_splitAt, localName, String.toList_ofList]

theorem localName_eq_iff : localName key = field ↔ (segmentsOf key).getLast? = some field.toList := by
  rw [getLast?_segmentsOf, Option.some_inj, String.toList_inj]

theorem findSome?_filterMap {α β γ : Type} {f : α → Option β} {g : β → Option γ} {g' : α → Option γ} {l : List α}
    (h : ∀ a ∈ l, (f a).bind g = g' a) : (l.filterMap f).findSome? g = l.findSome? g' := by
  induction l with
  | nil => rfl
  | cons a rest ih =>
      obtain ⟨hfirst, hrest⟩ := List.forall_mem_cons.1 h
      rw [List.filterMap_cons, List.findSome?_cons, ← ih hrest, ← hfirst]
      cases f a <;> rfl

/-- The rules of an accepted configuration name the owners that its elements name. -/
theorem findSome?_rules (hsound : ∀ fault ∈ c.draft.1, fault.isError = false) (field : String) :
    (c.draft.2.rules.findSome? fun rule => if localName rule.key = field then rule.relationship else none) =
      c.namedOwner? field := by
  have hrules : c.draft.2.rules =
      c.elements.entries.filterMap fun e => (compileElement c.draft.2.relationships e.1 e.2).2 :=
    List.filterMap_map
  rw [hrules]
  refine findSome?_filterMap fun entry hentry => ?_
  obtain ⟨rule, hrule⟩ := exists_rule (element_sound hsound hentry)
  obtain ⟨hkey, hrelationship⟩ := compileElement_eq_some hrule
  rw [hrule, Option.bind_some, hkey, hrelationship]
  simp only [localName_eq_iff]

theorem owner_eq (h : c.compile = .ok plan) (field : String) : plan.owners.get? field =
    (c.namedOwner? field).or ((plan.relationships.find? (·.hasField field)).map (·.id)) := by
  obtain ⟨hsound, rfl⟩ := compile_eq_ok h
  rw [get?_owners, findSome?_rules hsound]

/-- The fields that have owners are those of the relationships. -/
theorem mem_owners_iff (h : c.compile = .ok plan) :
    field ∈ plan.owners.keys ↔ ∃ r ∈ plan.relationships, field ∈ r.fields := by
  rw [Dict.mem_keys_iff]
  constructor
  · intro hsome
    obtain ⟨id, hid⟩ := Option.isSome_iff_exists.1 hsome
    obtain ⟨r, hr, -, hfield, -⟩ := owner_hasField h hid
    exact ⟨r, hr, hfield⟩
  · rintro ⟨r, hr, hfield⟩
    exact isSome_owner h hr hfield

/-- The parts of the plan of an accepted configuration fit together. -/
theorem compiled_plan_consistent (h : c.compile = .ok plan) : plan.Consistent c := by
  constructor
  · obtain ⟨-, rfl⟩ := compile_eq_ok h
    exact List.pairwise_map.2 (relationships_pairwise c)
  · obtain ⟨-, rfl⟩ := compile_eq_ok h
    exact relationships_ordered c
  · exact fun r hr => relationship_consistent h hr
  · exact fun field => mem_owners_iff h
  · intro field id hid
    obtain ⟨r, hr, hname, hfield, -⟩ := owner_hasField h hid
    exact ⟨r, hr, hname, hfield⟩
  · exact owner_eq h
  · obtain ⟨hne, hdepth⟩ := depth_of_compile h
    rw [hdepth, UInt32.le_iff_toNat_le]
    exact Nat.pos_of_ne_zero fun hzero => hne (UInt32.toNat_inj.1 hzero)

/-- A configuration with a persona, and with a trip that comes after it and is named as the owner of a field that
both of them have. -/
def tourConfig : Config where
  relationships := (Dict.empty.insert "people"
      { fields := ["Name", "City"], strategy := "consistent_persona", source := some "people.list",
        fieldMap := Dict.empty.insert "Name" "full_name" }).insert "trip"
    { fields := ["Departure", "City"], strategy := "constraint_based", dependsOn := ["people"],
      constraints := ["dep != city"] }
  elements := Dict.empty.insert "Trip/City" { relationship := some "trip" }

theorem tourConfig_draft : tourConfig.draft.1.any (·.isError) = false ∧
    tourConfig.draft.2.owners.entries = [("City", "trip"), ("Departure", "trip"), ("Name", "people")] := by
  unfold draft
  dsimp only
  rw [mergeSort_of_inOrder (by decide +kernel)]
  decide +kernel

theorem compiled_plan_consistent_tour : tourConfig.compile = .ok tourConfig.draft.2 ∧
    tourConfig.draft.2.Consistent tourConfig ∧
    tourConfig.draft.2.owners.entries = [("City", "trip"), ("Departure", "trip"), ("Name", "people")] := by
  have hcompile := compile_of_sound tourConfig_draft.1
  exact ⟨hcompile, compiled_plan_consistent hcompile, tourConfig_draft.2⟩

end Config
end Specimen
