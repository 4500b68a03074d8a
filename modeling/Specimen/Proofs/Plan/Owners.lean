import Specimen.Plan.Compile
import Specimen.Proofs.Dict

/-!
# Accepted configurations

What holds of the plan of every configuration that is accepted: the ids of its relationships are
distinct, and every field that has an owner is a field of its owner, whether a rule names the owner or
it is the first relationship that has the field.
-/

namespace Specimen

theorem findField_mem {fields : List String} {name field : String} (h : findField fields name = .ok field) :
    field ∈ fields := by
  unfold findField at h
  split at h
  · rename_i hname
    cases h
    exact hname
  · split at h
    · rename_i hsame
      cases h
      exact List.mem_of_mem_filter (hsame ▸ List.mem_singleton_self field : field ∈ sameButCase fields name)
    · cases h
    · split at h
      · rename_i hstart
        cases h
        exact List.mem_of_mem_filter (hstart ▸ List.mem_singleton_self field : field ∈ startingWith fields name)
      · cases h
      · cases h

namespace Config

variable {c : Config} {plan : Plan}

theorem compile_eq_ok (h : c.compile = .ok plan) :
    (∀ fault ∈ c.draft.1, fault.isError = false) ∧ plan = c.draft.2 := by
  unfold compile at h
  dsimp only at h
  split at h
  · cases h
  · rename_i hfaults
    refine ⟨fun fault hfault => ?_, (Except.ok.inj h).symm⟩
    by_contra herror
    exact hfaults (List.any_eq_true.2 ⟨fault, hfault, by simpa using herror⟩)

theorem compile_of_sound (h : c.draft.1.any (·.isError) = false) : c.compile = .ok c.draft.2 := by
  unfold compile
  dsimp only
  rw [h]
  rfl

/-- Relationships that are in order already are left so.  Sorting does not compute, so this comes first wherever a draft
is computed. -/
theorem mergeSort_of_inOrder
    (h : ((c.relationships.entries.map fun e =>
      c.compileRelationship (compileSettings c.settings).2 e.1 e.2).filterMap (·.2)).Pairwise fun a b =>
        precedes a b = true) :
    ((c.relationships.entries.map fun e =>
      c.compileRelationship (compileSettings c.settings).2 e.1 e.2).filterMap (·.2)).mergeSort precedes =
      (c.relationships.entries.map fun e =>
        c.compileRelationship (compileSettings c.settings).2 e.1 e.2).filterMap (·.2) :=
  List.mergeSort_of_pairwise h

theorem depth_of_compile (h : c.compile = .ok plan) :
    c.settings.maxDepth ≠ 0 ∧ plan.settings.maxDepth = c.settings.maxDepth := by
  obtain ⟨hsound, rfl⟩ := compile_eq_ok h
  refine ⟨fun hzero => ?_, rfl⟩
  have hfault : ConfigFault.zeroDepth ∈ (compileSettings c.settings).1 := by
    unfold compileSettings
    simp [hzero]
  have hnone := hsound .zeroDepth <|
    List.mem_append_left _ (List.mem_append_left _ (List.mem_append_left _ (List.mem_append_left _ hfault)))
  cases hnone

/-! ## Relationships -/

theorem ifSound_eq_some {α : Type} {faults : List ConfigFault} {value : Option α} {a : α}
    (h : (Checked.ifSound faults value).2 = some a) : value = some a := by
  unfold Checked.ifSound at h
  dsimp only at h
  split at h
  · cases h
  · exact h

theorem compileRelationship_eq_some {settings : PlanSettings} {id : String} {d : RelationshipDef}
    {r : Relationship} (h : (c.compileRelationship settings id d).2 = some r) :
    ∃ strategy selection, RelationshipStrategy.ofName? d.strategy = some strategy ∧
      r = {
        id
        strategy
        fields := d.fields
        dependsOn := (c.compileDependencies id d).2.1
        after := (c.compileDependencies id d).2.2
        constraints := (compileConstraints id d).2
        ensureUnique := d.ensureUnique.getD settings.uniqueCombinations
        source := d.source
        selection
        priority := d.priority
        fieldMap := d.fieldMap
        maxAttempts := d.maxAttempts } := by
  have hvalue := ifSound_eq_some h
  obtain ⟨strategy, hstrategy, hvalue⟩ := Option.bind_eq_some_iff.1 hvalue
  obtain ⟨selection, -, hvalue⟩ := Option.bind_eq_some_iff.1 hvalue
  exact ⟨strategy, selection, hstrategy, (Option.some.inj hvalue).symm⟩

/-- The relationships of a plan are those that are compiled without an error. -/
theorem mem_relationships {r : Relationship} : r ∈ c.draft.2.relationships ↔
    ∃ e ∈ c.relationships.entries,
      (c.compileRelationship (compileSettings c.settings).2 e.1 e.2).2 = some r := by
  refine List.mem_mergeSort.trans (List.mem_filterMap.trans ?_)
  simp only [List.mem_map, exists_exists_and_eq_and]
  rfl

/-- The relationships of an accepted configuration have distinct ids. -/
theorem relationships_pairwise (c : Config) :
    c.draft.2.relationships.Pairwise fun a b => a.id ≠ b.id := by
  have hentries : ((c.relationships.entries.map fun e =>
      c.compileRelationship (compileSettings c.settings).2 e.1 e.2).filterMap (·.2)).Pairwise
        fun a b => a.id ≠ b.id := by
    rw [List.filterMap_map, List.pairwise_filterMap]
    refine c.relationships.sorted.imp fun {a b} hlt r hr r' hr' => ?_
    obtain ⟨_, _, -, rfl⟩ := compileRelationship_eq_some hr
    obtain ⟨_, _, -, rfl⟩ := compileRelationship_eq_some hr'
    exact String.ne_of_lt hlt
  exact (List.mergeSort_perm _ _).symm.pairwise hentries fun h => h.symm

theorem find?_of_mem {relationships : List Relationship}
    (hdistinct : relationships.Pairwise fun a b => a.id ≠ b.id) {r : Relationship}
    (hr : r ∈ relationships) : relationships.find? (fun other => other.id == r.id) = some r := by
  induction relationships with
  | nil => cases hr
  | cons first rest ih =>
      obtain ⟨hfirst, hrest⟩ := List.pairwise_cons.1 hdistinct
      rcases List.mem_cons.1 hr with rfl | hr
      · exact List.find?_cons_of_pos (by simp)
      · rw [List.find?_cons_of_neg (by simpa using hfirst r hr)]
        exact ih hrest hr

theorem relationship?_of_mem (h : c.compile = .ok plan) {r : Relationship}
    (hr : r ∈ plan.relationships) : plan.relationship? r.id = some r := by
  obtain ⟨-, rfl⟩ := compile_eq_ok h
  exact find?_of_mem (relationships_pairwise c) hr

/-! ## Owners -/

theorem get?_addOwner {owners : Dict String} {field f id : String} :
    (addOwner owners f id).get? field = (owners.get? field).or (if f = field then some id else none) := by
  unfold addOwner
  rw [Dict.contains_eq_isSome_get?]
  by_cases heq : f = field
  · subst heq
    cases hget : owners.get? f <;> simp [hget]
  · split <;> simp [heq]

/-- Of several owners for one field that are added one after the other, the first one stays. -/
theorem get?_foldl_or {α : Type} {f : Dict String → α → Dict String} {g : α → Option String} {field : String}
    (hstep : ∀ owners a, (f owners a).get? field = (owners.get? field).or (g a)) (l : List α)
    (owners : Dict String) : (l.foldl f owners).get? field = (owners.get? field).or (l.findSome? g) := by
  induction l generalizing owners with
  | nil => exact Option.or_none.symm
  | cons a rest ih =>
      rw [List.foldl_cons, ih, hstep, Option.or_assoc, List.findSome?_cons]
      cases g a <;> rfl

theorem findSome?_ite {α β : Type} (p : α → Bool) (g : α → β) (l : List α) :
    (l.findSome? fun a => if p a then some (g a) else none) = (l.find? p).map g := by
  induction l with
  | nil => rfl
  | cons a rest ih =>
      rw [List.findSome?_cons, List.find?_cons, ih]
      cases p a <;> rfl

theorem get?_addNamedOwner {owners : Dict String} {rule : ElementRule} {field : String} :
    (addNamedOwner owners rule).get? field =
      (owners.get? field).or (if localName rule.key = field then rule.relationship else none) := by
  unfold addNamedOwner
  split
  · rename_i id hid
    rw [get?_addOwner, hid]
  · rename_i hnone
    rw [hnone, ite_self, Option.or_none]

theorem get?_addOwned {owners : Dict String} {r : Relationship} {field : String} :
    (addOwned owners r).get? field =
      (owners.get? field).or (if r.hasField field then some r.id else none) := by
  have hfields : ∀ fields : List String, (fields.findSome? fun f => if f = field then some r.id else none) =
      if fields.contains field then some r.id else none := by
    intro fields
    induction fields with
    | nil => rfl
    | cons f rest ih =>
        rw [List.findSome?_cons, ih]
        by_cases heq : f = field
        · simp [heq]
        · simp [heq, Ne.symm heq]
  unfold addOwned
  rw [get?_foldl_or (f := fun owners f => addOwner owners f r.id) fun _ _ => get?_addOwner, hfields]
  rfl

/-- The owner of a field is the one that the first rule for it names, or else the first relationship that has
the field. -/
theorem get?_fieldOwners {relationships : List Relationship} {rules : List ElementRule} {field : String} :
    (fieldOwners relationships rules).get? field =
      (rules.findSome? fun rule => if localName rule.key = field then rule.relationship else none).or
        ((relationships.find? (·.hasField field)).map (·.id)) := by
  unfold fieldOwners
  rw [get?_foldl_or (f := addOwned) fun _ _ => get?_addOwned,
    get?_foldl_or (f := addNamedOwner) fun _ _ => get?_addNamedOwner, findSome?_ite]
  rfl

theorem get?_owners (c : Config) (field : String) : c.draft.2.owners.get? field =
    (c.draft.2.rules.findSome? fun rule => if localName rule.key = field then rule.relationship else none).or
      ((c.draft.2.relationships.find? (·.hasField field)).map (·.id)) :=
  get?_fieldOwners

/-- The relationship with an id is there and has a field. -/
def HasField (relationships : List Relationship) (id field : String) : Prop :=
  ∃ r, relationships.find? (fun other => other.id == id) = some r ∧ field ∈ r.fields

/-- All owners have the fields that they own. -/
def OwnersHave (relationships : List Relationship) (owners : Dict String) : Prop :=
  ∀ field id, owners.get? field = some id → HasField relationships id field

theorem ownersHave_addOwner {relationships : List Relationship} {owners : Dict String}
    (howners : OwnersHave relationships owners) {field id : String}
    (hfield : HasField relationships id field) :
    OwnersHave relationships (addOwner owners field id) := by
  unfold addOwner
  split
  · exact howners
  · intro f other hget
    rw [Dict.get?_insert] at hget
    split at hget
    · rename_i heq
      cases hget
      exact heq ▸ hfield
    · exact howners f other hget

theorem ownersHave_fieldOwners {relationships : List Relationship} {rules : List ElementRule}
    (hdistinct : relationships.Pairwise fun a b => a.id ≠ b.id)
    (hrules : ∀ rule ∈ rules, ∀ id, rule.relationship = some id →
      HasField relationships id (localName rule.key)) :
    OwnersHave relationships (fieldOwners relationships rules) := by
  have hnamed : OwnersHave relationships (rules.foldl addNamedOwner {}) := by
    refine List.foldlRecOn rules _ (fun _ _ h => by cases h) fun owners howners rule hrule => ?_
    unfold addNamedOwner
    split
    · rename_i id hid
      exact ownersHave_addOwner howners (hrules rule hrule id hid)
    · exact howners
  refine List.foldlRecOn relationships _ hnamed fun owners howners r hr => ?_
  refine List.foldlRecOn r.fields _ howners fun owners howners field hfield => ?_
  exact ownersHave_addOwner howners ⟨r, find?_of_mem hdistinct hr, hfield⟩

theorem ownerFaults_subset (relationships : List Relationship) (key : String) (e : ElementConfig) :
    ownerFaults relationships key e.relationship ⊆ (compileElement relationships key e).1 := by
  intro fault hfault
  unfold compileElement
  simp [Checked.ifSound, hfault]

theorem compileElement_eq_some {relationships : List Relationship} {key : String} {e : ElementConfig}
    {rule : ElementRule} (h : (compileElement relationships key e).2 = some rule) :
    rule.key = key ∧ rule.relationship = e.relationship := by
  cases Option.some.inj (ifSound_eq_some h)
  exact ⟨rfl, rfl⟩

theorem hasField_of_ownerFaults {relationships : List Relationship} {key id : String}
    (h : ∀ fault ∈ ownerFaults relationships key (some id), fault.isError = false) :
    HasField relationships id (localName key) := by
  unfold ownerFaults at h
  dsimp only at h
  split at h
  · have herror := h _ (List.mem_singleton_self _)
    simp [ConfigFault.isError, ConfigFault.issue, Issue.error] at herror
  · rename_i r hr
    split at h
    · rename_i hfield
      exact ⟨r, hr, List.contains_iff_mem.1 hfield⟩
    · have herror := h _ (List.mem_singleton_self _)
      simp [ConfigFault.isError, ConfigFault.issue, Issue.error] at herror

theorem hasField_of_rule (hsound : ∀ fault ∈ c.draft.1, fault.isError = false) {rule : ElementRule}
    (hrule : rule ∈ c.draft.2.rules) {id : String} (hid : rule.relationship = some id) :
    HasField c.draft.2.relationships id (localName rule.key) := by
  obtain ⟨checked, hchecked, hsome⟩ := List.mem_filterMap.1 hrule
  obtain ⟨entry, hentry, rfl⟩ := List.mem_map.1 hchecked
  obtain ⟨hkey, hrelationship⟩ := compileElement_eq_some hsome
  rw [hkey]
  refine hasField_of_ownerFaults fun fault hfault => hsound fault ?_
  rw [← hid, hrelationship] at hfault
  have hown := ownerFaults_subset _ _ _ hfault
  refine List.mem_append_left _ (List.mem_append_right _ ?_)
  exact List.mem_flatten.2 ⟨_, List.mem_map_of_mem hchecked, hown⟩

/-- Every field that has an owner is a field of its owner. -/
theorem owner_hasField (h : c.compile = .ok plan) {field id : String}
    (howner : plan.owners.get? field = some id) :
    ∃ r ∈ plan.relationships, r.id = id ∧ field ∈ r.fields ∧ plan.owner? field = some r := by
  obtain ⟨hsound, rfl⟩ := compile_eq_ok h
  have howners : OwnersHave c.draft.2.relationships c.draft.2.owners :=
    ownersHave_fieldOwners (relationships_pairwise c) fun rule hrule id hid =>
      hasField_of_rule hsound hrule hid
  obtain ⟨r, hr, hfield⟩ := howners field id howner
  have hid := List.find?_some hr
  refine ⟨r, List.mem_of_find?_eq_some hr, eq_of_beq hid, hfield, ?_⟩
  unfold Plan.owner?
  rw [howner]
  exact hr

theorem mem_fields_of_owner? (h : c.compile = .ok plan) {field : String} {r : Relationship}
    (howner : plan.owner? field = some r) : field ∈ r.fields := by
  obtain ⟨id, hget, -⟩ := Option.bind_eq_some_iff.1 howner
  obtain ⟨r', -, -, hfield, howner'⟩ := owner_hasField h hget
  cases howner.symm.trans howner'
  exact hfield

end Config
end Specimen
