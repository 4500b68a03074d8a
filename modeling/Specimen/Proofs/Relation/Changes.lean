import Specimen.Proofs.Dict
import Specimen.Proofs.Run.Step

/-!
# What relationships remember

Settling fields changes little: values are added for one relationship in one instance, and no value is ever
replaced.  `Changes` says what may be different afterwards, and every strategy is a chain of such changes.
-/

namespace Specimen

/-- What may be different after a relationship has settled fields in an instance. -/
structure RelationState.Changes (r : Relationship) (ordinal : Nat) (settled : String → Prop)
    (s t : RelationState) : Prop where
  asked : t.asked = s.asked
  kept : ∀ f n v, s.value? f n = some v → t.value? f n = some v
  only : ∀ f n, t.value? f n ≠ s.value? f n → settled f ∧ n = ordinal
  personas : ∀ id n, t.persona? id n ≠ s.persona? id n →
    id = r.id ∧ n = ordinal ∧ r.strategy = .consistentPersona

namespace RelationState

variable {r : Relationship} {ordinal : Nat} {P Q : String → Prop} {s t u : RelationState}

theorem value?_of_eq_settle {f v : String} (h : t = s.settle f ordinal v) :
    t.value? f ordinal = some ((s.value? f ordinal).getD v) := by
  rw [h, value?_settle, if_pos rfl]

theorem asked_next (s : RelationState) (field f : String) :
    (s.next field).2.asked.getD f 0 = s.asked.getD f 0 + if f = field then 1 else 0 := by
  unfold next
  dsimp only
  rw [Std.HashMap.getD_insert]
  by_cases heq : f = field
  · simp [heq]
  · simp [heq, Ne.symm heq]

theorem persona?_setPersona {id id' : String} {n n' : Nat} {record : Option Nat} :
    (s.setPersona id n record).persona? id' n' =
      if (id, n) = (id', n') then some record else s.persona? id' n' := by
  unfold persona? setPersona
  rw [Std.HashMap.getElem?_insert]
  simp

namespace SameValues

theorem value?_eq (h : s.SameValues t) (f : String) (n : Nat) : t.value? f n = s.value? f n := by
  unfold value?
  rw [h.settled]

theorem persona?_eq (h : s.SameValues t) (id : String) (n : Nat) :
    t.persona? id n = s.persona? id n := by
  unfold persona?
  rw [h.personas]

theorem bindings_eq (h : s.SameValues t) (r : Relationship) (n : Nat) :
    t.bindings r n = s.bindings r n := by
  unfold bindings
  simp only [h.value?_eq]

theorem changes (h : s.SameValues t) : Changes r ordinal P s t where
  asked := h.asked
  kept f n _ hv := (h.value?_eq f n).trans hv
  only f n hne := absurd (h.value?_eq f n) hne
  personas id n hne := absurd (h.persona?_eq id n) hne

end SameValues

namespace Changes

theorem refl (s : RelationState) : Changes r ordinal P s s :=
  SameValues.changes ⟨rfl, rfl, rfl⟩

theorem trans (hst : Changes r ordinal P s t) (htu : Changes r ordinal P t u) :
    Changes r ordinal P s u where
  asked := htu.asked.trans hst.asked
  kept f n v hv := htu.kept f n v (hst.kept f n v hv)
  only f n hne := by
    by_cases hfirst : t.value? f n = s.value? f n
    · exact htu.only f n fun heq => hne (heq.trans hfirst)
    · exact hst.only f n hfirst
  personas id n hne := by
    by_cases hfirst : t.persona? id n = s.persona? id n
    · exact htu.personas id n fun heq => hne (heq.trans hfirst)
    · exact hst.personas id n hfirst

theorem mono (h : Changes r ordinal P s t) (hPQ : ∀ f, P f → Q f) : Changes r ordinal Q s t :=
  { h with only := fun f n hne => (h.only f n hne).imp_left (hPQ f) }

theorem value?_eq (h : Changes r ordinal P s t) {f : String} (hf : ¬ P f) (n : Nat) :
    t.value? f n = s.value? f n :=
  Decidable.byContradiction fun hne => hf (h.only f n hne).1

theorem persona?_eq (h : Changes r ordinal P s t) {id : String} (hid : id ≠ r.id) (n : Nat) :
    t.persona? id n = s.persona? id n :=
  Decidable.byContradiction fun hne => hid (h.personas id n hne).1

theorem settle {f : String} (hf : P f) (s : RelationState) (v : String) :
    Changes r ordinal P s (s.settle f ordinal v) where
  asked := rfl
  kept g n w hw := by
    rw [value?_settle, hw]
    split
    · rfl
    · rfl
  only g n hne := by
    rw [value?_settle] at hne
    split at hne
    · rename_i heq
      obtain ⟨rfl, rfl⟩ := Prod.mk.inj heq
      exact ⟨hf, rfl⟩
    · exact absurd rfl hne
  personas _ _ hne := absurd rfl hne

theorem setPersona (hstrategy : r.strategy = .consistentPersona) (s : RelationState)
    (record : Option Nat) : Changes r ordinal P s (s.setPersona r.id ordinal record) where
  asked := rfl
  kept _ _ _ hv := hv
  only _ _ hne := absurd rfl hne
  personas id n hne := by
    rw [persona?_setPersona] at hne
    split at hne
    · rename_i heq
      obtain ⟨rfl, rfl⟩ := Prod.mk.inj heq
      exact ⟨rfl, rfl, hstrategy⟩
    · exact absurd rfl hne

theorem foldl {fields : List String} {step : RelationState → String → RelationState}
    (hstep : ∀ s, ∀ f ∈ fields, Changes r ordinal P s (step s f)) (s : RelationState) :
    Changes r ordinal P s (fields.foldl step s) := by
  induction fields generalizing s with
  | nil => exact refl s
  | cons f rest ih =>
      exact (hstep s f List.mem_cons_self).trans
        (ih (fun s g hg => hstep s g (List.mem_cons_of_mem f hg)) _)

end Changes

/-- Settles a field by its value among others. -/
def settleBy (values : Bindings) (ordinal : Nat) (s : RelationState) (field : String) : RelationState :=
  match values.get? field with
  | some v => s.settle field ordinal v
  | none => s

theorem changes_settleBy {r : Relationship} (values : Bindings) {f : String} (hf : P f)
    (s : RelationState) : Changes r ordinal P s (s.settleBy values ordinal f) := by
  unfold settleBy
  split
  · exact .settle hf s _
  · exact .refl s

theorem value?_foldl_settleBy (r : Relationship) {fields : List String} {values : Bindings}
    {f v : String} (hf : f ∈ fields) (hv : values.get? f = some v) (s : RelationState)
    (hopen : s.value? f ordinal = none) :
    (fields.foldl (settleBy values ordinal) s).value? f ordinal = some v := by
  induction fields generalizing s with
  | nil => cases hf
  | cons g rest ih =>
      rw [List.foldl_cons]
      by_cases heq : g = f
      · subst heq
        have hnow : (s.settleBy values ordinal g).value? g ordinal = some v := by
          unfold settleBy
          rw [hv, value?_settle, if_pos rfl, hopen]
          rfl
        have hrest : Changes r ordinal (fun _ => True) (s.settleBy values ordinal g)
            (rest.foldl (settleBy values ordinal) (s.settleBy values ordinal g)) :=
          .foldl (fun s f _ => changes_settleBy values trivial s) _
        exact hrest.kept g ordinal v hnow
      · have hfirst : Changes r ordinal (· = g) s (s.settleBy values ordinal g) :=
          changes_settleBy values (P := (· = g)) rfl s
        refine ih ((List.mem_cons.1 hf).resolve_left (Ne.symm heq)) _ ?_
        rw [hfirst.value?_eq (Ne.symm heq), hopen]

theorem bindings_of_unsettled {s : RelationState} {r : Relationship} {n : Nat}
    (hopen : ∀ f ∈ r.fields, s.value? f n = none) : s.bindings r n = Dict.empty := by
  unfold bindings
  refine List.foldlRecOn (motive := fun b => b = Dict.empty) r.fields _ rfl fun b hb f hf => ?_
  rw [hopen f hf]
  exact hb

/-- The bindings of a relationship are the settled values of its fields. -/
theorem get?_bindings (s : RelationState) (r : Relationship) (n : Nat) (f : String) :
    (s.bindings r n).get? f = if f ∈ r.fields then s.value? f n else none := by
  have hfold : (s.bindings r n).get? f = if f ∈ r.fields then (s.value? f n).or none else none :=
    Dict.get?_foldl_insert (s.value? · n) (fun d k => by cases s.value? k n <;> rfl) r.fields Dict.empty f
  rw [hfold, Option.or_none]

end RelationState

/-- What a relationship does when it settles fields in an instance; `K` says what else is kept. -/
structure RunState.SettlesBy (K : RunState → RunState → Prop) (r : Relationship) (ordinal : Nat)
    (P : String → Prop) (s t : RunState) : Prop where
  grows : K s t
  changes : s.relations.Changes r ordinal P t.relations

/-- What a relationship does when it settles fields in an instance. -/
abbrev RunState.Settles (r : Relationship) (ordinal : Nat) (P : String → Prop) (s t : RunState) :
    Prop := RunState.SettlesBy Grows r ordinal P s t

namespace RunState

variable {K : RunState → RunState → Prop} {r : Relationship} {ordinal : Nat} {P Q : String → Prop}
  {s t u : RunState}

theorem QuietBy.settles (h : s.QuietBy K t) : SettlesBy K r ordinal P s t := ⟨h.grows, h.same.changes⟩

namespace SettlesBy

theorem refl (hK : Kept K) (s : RunState) : SettlesBy K r ordinal P s s :=
  ((Quiet.refl s).by_kept hK).settles

theorem trans (hK : Kept K) (hst : SettlesBy K r ordinal P s t) (htu : SettlesBy K r ordinal P t u) :
    SettlesBy K r ordinal P s u := ⟨hK.trans hst.grows htu.grows, hst.changes.trans htu.changes⟩

theorem mono (h : SettlesBy K r ordinal P s t) (hPQ : ∀ f, P f → Q f) : SettlesBy K r ordinal Q s t :=
  ⟨h.grows, h.changes.mono hPQ⟩

end SettlesBy

namespace Settles

theorem by_kept (h : Settles r ordinal P s t) (hK : Kept K) : SettlesBy K r ordinal P s t :=
  ⟨hK.of_grows h.grows, h.changes⟩

theorem of_relate {change : RelationState → RelationState}
    (hchange : s.relations.Changes r ordinal P (change s.relations))
    (h : (Run.relate change).exec s = (.ok (), t)) : Settles r ordinal P s t := by
  cases h
  exact ⟨.of_same rfl rfl rfl rfl, hchange⟩

end Settles
end RunState
end Specimen
