import Specimen.Proofs.Plan.Waiting
import Specimen.Proofs.Run.Step
import Specimen.Relation.Resolution

/-!
# Steps of relationships

Settling the fields of relationships takes only the steps that any value takes.  It fails when its
sources fail, when records that a relationship names are not there, or when fields wait for each other.

Other fields are settled on the way only if the field waits for them.  So the fields that are being
settled form a chain, and they are as many as there are owners only if one of them waits for itself.
-/

open Relation (TransGen)

namespace Specimen

open Run

namespace Relation

/-- What settling a relationship relies on: sources for the fields that have owners, and a failure for
records that are not there. -/
structure Supplied (setup : Setup) (sources : FieldSources) (failure : RunError → Prop) : Prop where
  independent : ∀ f, (setup.plan.owners.get? f).isSome →
    TakesTentativeSteps failure (sources.independent f)
  pool : ∀ f r, (setup.plan.owners.get? f).isSome → r ∈ setup.plan.relationships →
    TakesTentativeSteps failure (sources.pool f r)
  records : ∀ r ∈ setup.plan.relationships, ∀ path e, r.source = some path →
    setup.contexts.records path = .error e → failure (.contexts e)

section Settling

variable {setup : Setup} {sources : FieldSources} {failure : RunError → Prop}
  {resolve : String → Run (Option String)}

theorem isSome_of_owns {r : Relationship} {f : String} (h : setup.plan.owns r f = true) :
    (setup.plan.owners.get? f).isSome := by
  rw [eq_of_beq h]
  rfl

theorem settleForeign_takesValueSteps {r : Relationship} {field : String} {fields : List String}
    (hresolve : ∀ other ∈ fields, other ≠ field → setup.plan.owns r other = false →
      TakesValueSteps failure (resolve other)) :
    TakesValueSteps failure (settleForeign setup resolve r field fields) := by
  induction fields with
  | nil => exact .pure ()
  | cons other rest ih =>
      have hrest := ih fun f hf => hresolve f (List.mem_cons_of_mem _ hf)
      unfold settleForeign
      dsimp only
      split
      · rename_i hforeign
        have howns : setup.plan.owns r other = false := by simpa using hforeign.2
        exact (hresolve other List.mem_cons_self hforeign.1 howns).bind fun _ => hrest
      · exact hrest

theorem settleOwned_takesValueSteps {r : Relationship} {fields : List String}
    (hresolve : ∀ f ∈ fields, setup.plan.owns r f = true → TakesValueSteps failure (resolve f)) :
    TakesValueSteps failure (settleOwned setup resolve r fields) := by
  induction fields with
  | nil => exact .pure ()
  | cons field rest ih =>
      have hrest := ih fun f hf => hresolve f (List.mem_cons_of_mem _ hf)
      unfold settleOwned
      dsimp only
      split
      · rename_i howns
        exact (hresolve field List.mem_cons_self howns).bind fun _ => hrest
      · exact hrest

theorem settleEarlier_takesValueSteps {ids : List String}
    (hresolve : ∀ id ∈ ids, ∀ earlier, setup.plan.relationship? id = some earlier →
      ∀ f ∈ earlier.fields, setup.plan.owns earlier f = true → TakesValueSteps failure (resolve f)) :
    TakesValueSteps failure (settleEarlier setup resolve ids) := by
  induction ids with
  | nil => exact .pure ()
  | cons id rest ih =>
      have hrest := ih fun other hother => hresolve other (List.mem_cons_of_mem _ hother)
      unfold settleEarlier
      dsimp only
      split
      · rename_i earlier hearlier
        have howned := settleOwned_takesValueSteps (hresolve id List.mem_cons_self earlier hearlier)
        exact howned.bind fun _ => hrest
      · exact hrest

theorem bindings_takesTentativeSteps (r : Relationship) (ordinal : Nat) :
    TakesTentativeSteps failure (bindings r ordinal) :=
  Confined.get.bind fun _ => .pure _

/-! ## Personas -/

theorem personaCandidates_takesTentativeSteps (r : Relationship) (records : List Json) :
    TakesTentativeSteps failure (personaCandidates r records) := by
  unfold personaCandidates
  dsimp only
  split
  · exact .pure _
  · refine Confined.get.bind fun s => ?_
    split
    · refine (relate_takesTentativeSteps fun s => s.sameValues_forgetRecords r.id).bind fun _ => ?_
      exact (warn_takesTentativeSteps _).bind fun _ => Confined.get.bind fun _ => .pure _
    · exact Confined.get.bind fun _ => .pure _

theorem tryRecords_takesTentativeSteps (r : Relationship) (records : List Json) (candidates : List Nat)
    (foreign : Bindings) (tries : Nat) :
    TakesTentativeSteps failure (tryRecords r records candidates foreign tries) := by
  induction tries with
  | zero => exact .pure _
  | succ tries ih =>
      unfold tryRecords
      dsimp only
      refine (pickFrom_takesTentativeSteps _ _ _).bind fun picked => ?_
      cases picked with
      | none => exact .pure _
      | some index =>
          dsimp only
          split
          · exact .pure _
          · refine (record_takesTentativeSteps .retry).bind fun _ => ?_
            split
            · exact (warn_takesTentativeSteps _).bind fun _ => .pure _
            · exact ih

theorem pickPersona_takesTentativeSteps (r : Relationship) (records : List Json) (ordinal : Nat) :
    TakesTentativeSteps failure (pickPersona setup r records ordinal) := by
  unfold pickPersona
  split
  · exact (warn_takesTentativeSteps _).bind fun _ => .pure _
  · refine (personaCandidates_takesTentativeSteps _ _).bind fun candidates => ?_
    refine (bindings_takesTentativeSteps _ _).bind fun foreign => ?_
    refine (tryRecords_takesTentativeSteps _ _ _ _ _).bind fun chosen => ?_
    cases chosen with
    | none => exact .pure _
    | some index =>
        have hpicked : TakesTentativeSteps failure (do
            Run.follow (.picked r.id ordinal index)
            return some index) := (follow_takesTentativeSteps rfl).bind fun _ => .pure _
        dsimp only
        split
        · exact (relate_takesTentativeSteps fun s => s.sameValues_useRecord r.id index).bind fun _ => hpicked
        · exact hpicked

theorem personaOf_takesValueSteps {r : Relationship} {field : String}
    (hresolve : ∀ other ∈ r.fields, other ≠ field → setup.plan.owns r other = false →
      TakesValueSteps failure (resolve other))
    (records : List Json) (ordinal : Nat) :
    TakesValueSteps failure (personaOf setup resolve r records field ordinal) := by
  refine Confined.get.bind fun s => ?_
  split
  · exact .pure _
  · refine (settleForeign_takesValueSteps hresolve).bind fun _ => ?_
    refine (pickPersona_takesTentativeSteps _ _ _).toValue.bind fun index => ?_
    exact (relate_takesValueSteps _).bind fun _ => .pure _

theorem personaValue_takesValueSteps (hsupplied : Supplied setup sources failure) {r : Relationship}
    (hr : r ∈ setup.plan.relationships) {field : String}
    (hresolve : ∀ other ∈ r.fields, other ≠ field → setup.plan.owns r other = false →
      TakesValueSteps failure (resolve other))
    (ordinal : Nat) :
    TakesValueSteps failure (personaValue setup resolve r field ordinal) := by
  unfold personaValue
  split
  · exact .pure _
  · rename_i path hpath
    refine (ofContexts_takesTentativeSteps (hsupplied.records r hr path · hpath)).toValue.bind fun records => ?_
    refine (personaOf_takesValueSteps hresolve _ _).bind fun index => ?_
    split
    · exact .pure _
    · exact (relate_takesValueSteps _).bind fun _ => Confined.get.bind fun _ => .pure _

/-! ## Values that depend on others or are drawn together -/

theorem settleDependencies_takesValueSteps (hsupplied : Supplied setup sources failure)
    (r : Relationship) (ordinal : Nat) (fields : List String) :
    TakesValueSteps failure (settleDependencies setup sources r ordinal fields) := by
  induction fields with
  | nil => exact .pure ()
  | cons field rest ih =>
      unfold settleDependencies isSettled
      dsimp only
      refine (Confined.get.bind fun _ => .pure _).bind fun settled => ?_
      split
      · rename_i hfield
        have howner := isSome_of_owns (Bool.and_eq_true _ _ ▸ hfield).2
        exact (hsupplied.independent field howner).toValue.bind fun _ => (relate_takesValueSteps _).bind
          fun _ => ih
      · exact ih

theorem drawDependent_takesTentativeSteps (r : Relationship) (bound : Bindings) (field : String)
    (pool : List String) : TakesTentativeSteps failure (drawDependent sources r bound field pool) := by
  unfold drawDependent
  refine Confined.get.bind fun s => ?_
  dsimp only
  refine (pickFrom_takesTentativeSteps _ _ _).bind fun picked => ?_
  have hfiltered : ∀ id f n, TakesTentativeSteps failure (follow (.filtered id f n)) :=
    fun _ _ _ => follow_takesTentativeSteps rfl
  have hremembered : ∀ {combination : List String}, TakesTentativeSteps failure
      (relate fun s => s.useCombination r.id combination) := fun {combination} =>
    relate_takesTentativeSteps fun s => s.sameValues_useCombination r.id combination
  split
  · split
    · exact (warn_takesTentativeSteps _).bind fun _ => hremembered.bind fun _ => .pure _
    · exact (hfiltered _ _ _).bind fun _ => hremembered.bind fun _ => .pure _
  · split
    · exact (warn_takesTentativeSteps _).bind fun _ => .pure _
    · exact (hfiltered _ _ _).bind fun _ => .pure _

theorem dependentValue_takesValueSteps (hsupplied : Supplied setup sources failure)
    {r : Relationship} (hr : r ∈ setup.plan.relationships) {field : String}
    (hresolve : field ∉ r.dependsOn → ∀ other ∈ r.fields, other ≠ field →
      setup.plan.owns r other = false → TakesValueSteps failure (resolve other))
    (hfield : (setup.plan.owners.get? field).isSome) (ordinal : Nat) :
    TakesValueSteps failure (dependentValue setup sources resolve r field ordinal) := by
  unfold dependentValue
  split
  · exact (hsupplied.independent field hfield).toValue
  · rename_i hdependent
    have hforeign := hresolve fun hmem => hdependent (List.contains_iff_mem.2 hmem)
    refine (settleDependencies_takesValueSteps hsupplied _ _ _).bind fun _ => ?_
    refine (settleForeign_takesValueSteps hforeign).bind fun _ => ?_
    refine (bindings_takesTentativeSteps _ _).toValue.bind fun bound => ?_
    refine (hsupplied.pool field r hfield hr).toValue.bind fun pool => ?_
    split
    · exact (hsupplied.independent field hfield).toValue
    · exact (drawDependent_takesTentativeSteps _ _ _ _).toValue

theorem drawFields_takesTentativeSteps (hsupplied : Supplied setup sources failure) {fields : List String}
    (hfields : ∀ f ∈ fields, (setup.plan.owners.get? f).isSome) (bound : Bindings) :
    TakesTentativeSteps failure (drawFields sources fields bound) := by
  induction fields generalizing bound with
  | nil => exact .pure _
  | cons field rest ih =>
      unfold drawFields
      have hrest : ∀ f ∈ rest, (setup.plan.owners.get? f).isSome := fun f hf =>
        hfields f (List.mem_cons_of_mem _ hf)
      exact (hsupplied.independent field (hfields field List.mem_cons_self)).bind fun value =>
        ih hrest _

theorem redraw_takesTentativeSteps (hsupplied : Supplied setup sources failure) (r : Relationship)
    {again : List String} (hagain : ∀ f ∈ again, (setup.plan.owners.get? f).isSome) (tries : Nat)
    (bound : Bindings) : TakesTentativeSteps failure (redraw sources r again tries bound) := by
  induction tries generalizing bound with
  | zero => exact .pure _
  | succ tries ih =>
      unfold redraw
      split
      · exact .pure _
      · exact (record_takesTentativeSteps .retry).bind fun _ =>
          (drawFields_takesTentativeSteps hsupplied hagain _).bind fun next => ih next

theorem isSome_of_mem_pendingFields {s : RelationState} {r : Relationship} {ordinal : Nat}
    {f : String} (h : f ∈ pendingFields setup s r ordinal) : (setup.plan.owners.get? f).isSome := by
  have hf := (List.mem_filter.1 h).2
  exact isSome_of_owns (Bool.and_eq_true _ _ ▸ hf).1

theorem constraintValue_takesValueSteps (hsupplied : Supplied setup sources failure)
    {r : Relationship} {field : String}
    (hresolve : ∀ other ∈ r.fields, other ≠ field → setup.plan.owns r other = false →
      TakesValueSteps failure (resolve other))
    (ordinal : Nat) :
    TakesValueSteps failure (constraintValue setup sources resolve r field ordinal) := by
  unfold constraintValue
  refine (settleForeign_takesValueSteps hresolve).bind fun _ => ?_
  refine Confined.get.bind fun s => ?_
  refine (bindings_takesTentativeSteps _ _).toValue.bind fun bound => ?_
  have hpending : ∀ f ∈ pendingFields setup s.relations r ordinal,
      (setup.plan.owners.get? f).isSome := fun f => isSome_of_mem_pendingFields
  refine (drawFields_takesTentativeSteps hsupplied hpending _).toValue.bind fun first => ?_
  refine (redraw_takesTentativeSteps hsupplied r (fun f hf => hpending f (List.mem_filter.1 hf).1) _
    _).toValue.bind fun last => ?_
  dsimp only
  split
  · exact (warn_takesTentativeSteps _).toValue.bind fun _ => (relate_takesValueSteps _).bind fun _ =>
      Confined.get.bind fun _ => .pure _
  · exact (relate_takesValueSteps _).bind fun _ => Confined.get.bind fun _ => .pure _

/-! ## Fields -/

theorem valueBy_takesValueSteps (hsupplied : Supplied setup sources failure) {r : Relationship}
    (hr : r ∈ setup.plan.relationships) {field : String}
    (hresolve : ∀ other, setup.plan.ReadsForeign r field other →
      TakesValueSteps failure (resolve other))
    (hfield : (setup.plan.owners.get? field).isSome) (ordinal : Nat) :
    TakesValueSteps failure (valueBy setup sources resolve r field ordinal) := by
  unfold valueBy
  split
  · rename_i hstrategy
    exact personaValue_takesValueSteps hsupplied hr (fun other hother hne howns =>
      hresolve other ⟨hother, hne, howns, by simp [hstrategy]⟩) ordinal
  · have hdependent := dependentValue_takesValueSteps hsupplied hr
      (fun hmem other hother hne howns => hresolve other ⟨hother, hne, howns, fun _ => hmem⟩)
      hfield ordinal
    exact hdependent.bind fun _ => .pure _
  · rename_i hstrategy
    exact constraintValue_takesValueSteps hsupplied (fun other hother hne howns =>
      hresolve other ⟨hother, hne, howns, by simp [hstrategy]⟩) ordinal

theorem owner?_spec {plan : Plan} {field : String} {r : Relationship}
    (h : plan.owner? field = some r) :
    r ∈ plan.relationships ∧ plan.owners.get? field = some r.id := by
  obtain ⟨id, hid, hr⟩ := Option.bind_eq_some_iff.1 h
  have hname := List.find?_some hr
  exact ⟨List.mem_of_find?_eq_some hr, hid.trans (congrArg some (eq_of_beq hname).symm)⟩

/-- Settling a field settles only fields that it waits for. -/
theorem resolveAt_succ_takesValueSteps (hsupplied : Supplied setup sources failure)
    {ordinal budget : Nat} {field : String}
    (hresolve : ∀ other, setup.plan.Waits field other →
      TakesValueSteps failure (resolveAt setup sources ordinal budget other)) :
    TakesValueSteps failure (resolveAt setup sources ordinal (budget + 1) field) := by
  unfold resolveAt
  refine Confined.get.bind fun s => ?_
  split
  · exact .pure _
  · split
    · exact .pure _
    · rename_i r howner
      obtain ⟨hr, hid⟩ := owner?_spec howner
      have hfield : (setup.plan.owners.get? field).isSome := by rw [hid]; rfl
      have hearlier := settleEarlier_takesValueSteps
        fun id hid earlier hearlier f hf howns =>
          hresolve f ⟨r, howner, .inl ⟨id, hid, earlier, hearlier, hf, howns⟩⟩
      have hvalue := valueBy_takesValueSteps hsupplied hr
        (fun other hreads => hresolve other ⟨r, howner, .inr hreads⟩) hfield ordinal
      dsimp only
      refine hearlier.bind fun _ => ?_
      refine (record_takesTentativeSteps (.relationship _)).toValue.bind fun _ => ?_
      refine hvalue.bind fun value => ?_
      split
      · exact (relate_takesValueSteps _).bind fun _ => .pure _
      · exact .pure _

theorem resolveAt_takesValueSteps_of_endlessWait (hsupplied : Supplied setup sources failure)
    (hwait : failure (.broken .endlessWait)) (ordinal budget : Nat) (field : String) :
    TakesValueSteps failure (resolveAt setup sources ordinal budget field) := by
  induction budget generalizing field with
  | zero => exact .throw hwait
  | succ budget ih => exact resolveAt_succ_takesValueSteps hsupplied fun other _ => ih other

/-- When no field waits for itself, a budget that exceeds the number of owners does not run out.  The
fields on `path` are being settled already; they all wait for the field. -/
theorem resolveAt_takesValueSteps_of_acyclic (hsupplied : Supplied setup sources failure)
    (hacyclic : ∀ f, ¬ TransGen setup.plan.Waits f f) (ordinal : Nat) {budget : Nat} {field : String}
    {path : List String} (hnodup : path.Nodup)
    (hpath : ∀ f ∈ path, TransGen setup.plan.Waits f field)
    (hbudget : setup.plan.owners.size < path.length + budget) :
    TakesValueSteps failure (resolveAt setup sources ordinal budget field) := by
  induction budget generalizing path field with
  | zero =>
      have howned : ∀ f ∈ path, f ∈ setup.plan.owners.keys := by
        intro f hf
        obtain ⟨next, hnext, -⟩ := TransGen.head'_iff.1 (hpath f hf)
        exact hnext.mem_keys
      have hlength := Plan.length_le_size hnodup howned
      omega
  | succ budget ih =>
      have hfresh : field ∉ path := fun hmem => hacyclic field (hpath field hmem)
      refine resolveAt_succ_takesValueSteps hsupplied fun other hwaits => ?_
      refine ih (List.nodup_cons.2 ⟨hfresh, hnodup⟩) (fun f hf => ?_) ?_
      · rcases List.mem_cons.1 hf with rfl | hf
        · exact .single hwaits
        · exact (hpath f hf).tail hwaits
      · rw [List.length_cons]
        omega

/-- A budget that exceeds the number of owners runs out only if a field waits for itself. -/
theorem resolveAt_takesValueSteps (hsupplied : Supplied setup sources failure)
    (hwait : (∃ f, TransGen setup.plan.Waits f f) → failure (.broken .endlessWait))
    (ordinal : Nat) {budget : Nat} (hbudget : setup.plan.owners.size < budget) (field : String) :
    TakesValueSteps failure (resolveAt setup sources ordinal budget field) := by
  by_cases hcycle : ∃ f, TransGen setup.plan.Waits f f
  · exact resolveAt_takesValueSteps_of_endlessWait hsupplied (hwait hcycle) ordinal budget field
  · exact resolveAt_takesValueSteps_of_acyclic hsupplied (not_exists.1 hcycle) ordinal .nil (by simp)
      (by simpa using hbudget)

theorem resolveField_takesValueSteps (hsupplied : Supplied setup sources failure)
    (hwait : (∃ f, TransGen setup.plan.Waits f f) → failure (.broken .endlessWait)) (field : String) :
    TakesValueSteps failure (resolveField setup sources field) := by
  refine Confined.bind (.modifyGet fun s => ?_) fun ordinal =>
    resolveAt_takesValueSteps hsupplied hwait ordinal (Nat.lt_succ_self _) field
  exact .single (.related (s.relations.next field).2)

end Settling
end Relation
end Specimen
