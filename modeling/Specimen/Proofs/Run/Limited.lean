import Specimen.Proofs.Run.Step

/-!
# Limited actions

Two actions are compared that differ only in how many steps they may take.  The limited one does what the
full one does for as long as the limit is not exceeded.  When it is, the limited action stops short: either
it fails, or the walk is stopped and it returns a part of what the full action returns.
-/

open Relation (ReflTransGen)

namespace Specimen

/-! ## What is counted -/

/-- A later state has taken at least as many steps, and a walk that was stopped is not resumed. -/
structure RunState.Later (s t : RunState) : Prop where
  steps : s.report.steps ≤ t.report.steps
  halted : s.halted = true → t.halted = true

theorem RunState.Later.of_chain {s t : RunState} (h : ReflTransGen RunState.Later s t) :
    s.Later t := by
  induction h with
  | refl => exact ⟨Nat.le_refl _, id⟩
  | tail _ hstep ih =>
      exact ⟨Nat.le_trans ih.steps hstep.steps, fun h => hstep.halted (ih.halted h)⟩

/-- A walk that goes on later has not been stopped before. -/
theorem RunState.Later.going {s t : RunState} (h : s.Later t) (ht : t.halted = false) :
    s.halted = false := by
  cases hs : s.halted with
  | false => rfl
  | true => rw [h.halted hs] at ht; cases ht

/-- A change that takes no step of the budget and does not stop the walk. -/
structure RunState.Uncounted (s t : RunState) : Prop where
  steps : t.report.steps = s.report.steps
  halted : t.halted = s.halted

theorem RunState.Uncounted.of_chain {s t : RunState} (h : ReflTransGen RunState.Uncounted s t) :
    s.Uncounted t := by
  induction h with
  | refl => exact ⟨rfl, rfl⟩
  | tail _ hstep ih => exact ⟨hstep.steps.trans ih.steps, hstep.halted.trans ih.halted⟩

theorem RunState.Uncounted.later {s t : RunState} (h : s.Uncounted t) : s.Later t :=
  ⟨Nat.le_of_eq h.steps.symm, fun hs => h.halted.trans hs⟩

theorem RunState.uncounted_of_valueStep {s t : RunState} (h : ValueStep s t) : s.Uncounted t := by
  cases h with
  | drew | picked | related | used | followed => exact ⟨rfl, rfl⟩
  | counted change hcount => cases hcount <;> exact ⟨rfl, rfl⟩

namespace Run

variable {α β : Type}

/-- An action takes no step of the budget and does not stop the walk. -/
abbrev IsUncounted (m : Run α) : Prop := Confined RunState.Uncounted (fun _ => True) m

theorem TakesValueSteps.isUncounted {failure : RunError → Prop} {m : Run α}
    (h : TakesValueSteps failure m) : IsUncounted m :=
  h.mono (fun _ _ => RunState.uncounted_of_valueStep) fun _ _ => trivial

theorem warn_isUncounted (n : Notice) : IsUncounted (warn n) :=
  .bind (.modify fun _ => .single ⟨rfl, rfl⟩) fun _ => .modify fun _ => .single ⟨rfl, rfl⟩

theorem IsUncounted.ofSchema (found : Except SchemaError α) : IsUncounted (ofSchema found) := by
  cases found with
  | ok a => exact .pure a
  | error e => exact .throw trivial

theorem record_isUncounted (change : Report → Report) (h : ∀ r, (change r).steps = r.steps) :
    IsUncounted (record change) :=
  .modify fun s => .single ⟨h s.report, rfl⟩

/-- A state is not left behind by an action. -/
abbrev GoesForward (m : Run α) : Prop := Confined RunState.Later (fun _ => True) m

theorem GoesForward.later {m : Run α} (hm : GoesForward m) {s t : RunState}
    {r : Except RunError α} (h : m.exec s = (r, t)) : s.Later t :=
  .of_chain (hm.steps_of_exec h)

theorem IsUncounted.goesForward {m : Run α} (h : IsUncounted m) : GoesForward m :=
  h.mono (fun _ _ => RunState.Uncounted.later) fun _ => id

/-! ## Stopping short -/

/-- From a state, an action exceeds the limit: it returns a part of what was to be returned from a walk
that is stopped, or it fails when parts are not kept. -/
def StopsShort (limit : Nat) (keep : Bool) (part : α → Prop) (m : Run α) (s : RunState) : Prop :=
  if keep then ∃ a t, m.exec s = (.ok a, t) ∧ t.halted = true ∧ part a
  else ∃ t, m.exec s = (.error (.timeout (limit + 1)), t)

section StopsShort

variable {limit : Nat} {keep : Bool} {s : RunState}

theorem StopsShort.of_exec_eq {part : α → Prop} {m : Run β} {f : β → Run α} {b : β} {t : RunState}
    (hfirst : m.exec s = (.ok b, t)) (h : StopsShort limit keep part (f b) t) :
    StopsShort limit keep part (m >>= f) s := by
  unfold StopsShort at h ⊢
  rwa [exec_bind_of_ok hfirst]

/-- What follows an action that stops short adds nothing. -/
theorem StopsShort.bind {part : β → Prop} {part' : α → Prop} {m : Run β} {f : β → Run α}
    (h : StopsShort limit keep part m s)
    (hrest : ∀ b t, part b → t.halted = true →
      ∃ a u, (f b).exec t = (.ok a, u) ∧ u.halted = true ∧ part' a) :
    StopsShort limit keep part' (m >>= f) s := by
  unfold StopsShort at h ⊢
  cases keep with
  | true =>
      obtain ⟨b, t, hrun, hhalted, hpart⟩ := h
      obtain ⟨a, u, hlast, hstays, hpart'⟩ := hrest b t hpart hhalted
      exact ⟨a, u, (exec_bind_of_ok hrun).trans hlast, hstays, hpart'⟩
  | false =>
      obtain ⟨t, hrun⟩ := h
      exact ⟨t, exec_bind_of_error hrun⟩

end StopsShort

/-! ## Following -/

/-- A limited action follows a full one.  Nothing is said when the full action fails or is stopped
itself. -/
structure Follows (limit : Nat) (keep : Bool) (part : α → α → Prop) (limited full : Run α) : Prop where
  forward : GoesForward full
  same : ∀ {s a t}, full.exec s = (.ok a, t) → t.halted = false → t.report.steps ≤ limit →
    limited.exec s = (.ok a, t)
  short : ∀ {s a t}, full.exec s = (.ok a, t) → t.halted = false → s.report.steps ≤ limit →
    limit < t.report.steps → StopsShort limit keep (part · a) limited s

namespace Follows

variable {limit : Nat} {keep : Bool} {part : α → α → Prop} {part' : β → β → Prop}

/-- An action that takes no step of the budget is not limited. -/
theorem refl {m : Run α} (hm : IsUncounted m) : Follows limit keep part m m where
  forward := hm.goesForward
  same h _ _ := h
  short h _ hs ht := by
    have hsteps := (RunState.Uncounted.of_chain (hm.steps_of_exec h)).steps
    omega

theorem pure (a : α) : Follows limit keep part (pure a : Run α) (pure a) := refl (.pure a)

theorem bind {limited full : Run α} {limited' full' : α → Run β}
    (h : Follows limit keep part limited full)
    (hrest : ∀ a, Follows limit keep part' (limited' a) (full' a))
    (hpart : ∀ a' a t' t b u, part a' a → t'.halted = true → (full' a).exec t = (.ok b, u) →
      u.halted = false → ∃ b' u', (limited' a').exec t' = (.ok b', u') ∧ u'.halted = true ∧ part' b' b) :
    Follows limit keep part' (limited >>= limited') (full >>= full') where
  forward := h.forward.bind fun a => (hrest a).forward
  same {s b u} hrun hgoing hle := by
    obtain ⟨a, t, hfirst, hlast⟩ := exec_bind_eq_ok.1 hrun
    have hlater := (hrest a).forward.later hlast
    have hgoing' := hlater.going hgoing
    rw [exec_bind_of_ok (h.same hfirst hgoing' (Nat.le_trans hlater.steps hle))]
    exact (hrest a).same hlast hgoing hle
  short {s b u} hrun hgoing hs hlt := by
    obtain ⟨a, t, hfirst, hlast⟩ := exec_bind_eq_ok.1 hrun
    have hlater := (hrest a).forward.later hlast
    have hgoing' := hlater.going hgoing
    by_cases hle : t.report.steps ≤ limit
    · exact .of_exec_eq (h.same hfirst hgoing' hle) ((hrest a).short hlast hgoing hle hlt)
    · exact (h.short hfirst hgoing' hs (Nat.lt_of_not_le hle)).bind fun a' t' ha' hhalted =>
        hpart a' a t' t b u ha' hhalted hlast hgoing

/-- What comes after an action that takes no step of the budget decides. -/
theorem bind_uncounted {m : Run α} (hm : IsUncounted m) {limited full : α → Run β}
    (hrest : ∀ a, Follows limit keep part' (limited a) (full a)) :
    Follows limit keep part' (m >>= limited) (m >>= full) := by
  have hfirst : Follows limit keep (fun _ _ => False) m m := refl hm
  exact hfirst.bind hrest fun _ _ _ _ _ _ hpart => hpart.elim

/-- Which part was returned is said of what the full action returns when it goes on. -/
theorem mono {part₀ : α → α → Prop} {limited full : Run α}
    (h : Follows limit keep part₀ limited full)
    (hpart : ∀ s a t a', full.exec s = (.ok a, t) → t.halted = false → part₀ a' a → part a' a) :
    Follows limit keep part limited full where
  forward := h.forward
  same := h.same
  short {s a t} hrun hgoing hs hlt := by
    have hshort := h.short hrun hgoing hs hlt
    unfold StopsShort at hshort ⊢
    cases keep with
    | true =>
        obtain ⟨a', t', hrun', hhalted, ha'⟩ := hshort
        exact ⟨a', t', hrun', hhalted, hpart s a t a' hrun hgoing ha'⟩
    | false => exact hshort

theorem map {limited full : Run α} (h : Follows limit keep part limited full) {f : α → β}
    (hpart : ∀ a' a, part a' a → part' (f a') (f a)) :
    Follows limit keep part' (limited >>= fun a => Pure.pure (f a))
      (full >>= fun a => Pure.pure (f a)) := by
  refine h.bind (fun a => pure (f a)) fun a' a t' t b u ha hhalted hlast _ => ?_
  obtain ⟨rfl, -⟩ := exec_pure_eq_ok.1 hlast
  exact ⟨f a', t', rfl, hhalted, hpart a' a ha⟩

end Follows
end Run
end Specimen
