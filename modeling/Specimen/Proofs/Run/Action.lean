import Mathlib.Logic.Relation
import Specimen.Run.State

/-!
# Actions of a run

An action runs from a state and ends in another one, with a value or with an error.  The first section
says how composed actions run; nothing later opens the error monad again.

An action is *confined* to a step relation and to a set of failures when every run of it is a sequence of
such steps and fails only in such a way.  Confinement is proved once for each action, from its parts;
what a run leaves unchanged, and what it can never fail with, is then read off the steps and failures.
-/

open Relation (ReflTransGen)

namespace Specimen
namespace Run

variable {α β : Type}

/-! ## How composed actions run -/

@[simp] theorem exec_pure (a : α) (s : RunState) : (pure a : Run α).exec s = (.ok a, s) := rfl

@[simp] theorem exec_throw (e : RunError) (s : RunState) :
    (throw e : Run α).exec s = (.error e, s) := rfl

@[simp] theorem exec_get (s : RunState) : (get : Run RunState).exec s = (.ok s, s) := rfl

theorem exec_bind (m : Run α) (f : α → Run β) (s : RunState) :
    (m >>= f).exec s =
      match m.exec s with
      | (.ok a, s') => (f a).exec s'
      | (.error e, s') => (.error e, s') := by
  change ExceptT.bindCont f (m.exec s).1 (m.exec s).2 = _
  rcases m.exec s with ⟨e | a, s'⟩
  · rfl
  · rfl

theorem exec_tryCatch (m : Run α) (h : RunError → Run α) (s : RunState) :
    (tryCatch m h : Run α).exec s =
      match m.exec s with
      | (.ok a, s') => (.ok a, s')
      | (.error e, s') => (h e).exec s' := by
  simp only [exec, tryCatch, tryCatchThe, MonadExceptOf.tryCatch, ExceptT.tryCatch, ExceptT.run,
    ExceptT.mk, bind, StateT.bind]
  rcases m s with ⟨e | a, s'⟩
  · rfl
  · rfl

/-- A composed action returns when both parts do. -/
theorem exec_bind_eq_ok {m : Run α} {f : α → Run β} {s s'' : RunState} {b : β} :
    (m >>= f).exec s = (.ok b, s'') ↔
      ∃ a s', m.exec s = (.ok a, s') ∧ (f a).exec s' = (.ok b, s'') := by
  rw [exec_bind]
  rcases m.exec s with ⟨e | a, s'⟩
  · simp
  · constructor
    · intro h
      exact ⟨a, s', rfl, h⟩
    · rintro ⟨_, _, heq, h⟩
      cases heq
      exact h

theorem exec_bind_of_ok {m : Run α} {f : α → Run β} {s s' : RunState} {a : α}
    (h : m.exec s = (.ok a, s')) : (m >>= f).exec s = (f a).exec s' := by
  rw [exec_bind, h]

theorem exec_bind_of_error {m : Run α} {f : α → Run β} {s s' : RunState} {e : RunError}
    (h : m.exec s = (.error e, s')) : (m >>= f).exec s = (.error e, s') := by
  rw [exec_bind, h]

theorem exec_pure_eq_ok {a b : α} {s s' : RunState} :
    (pure a : Run α).exec s = (.ok b, s') ↔ a = b ∧ s = s' := by
  simp

theorem exec_get_bind (f : RunState → Run α) (s : RunState) :
    (get >>= f).exec s = (f s).exec s := by
  rw [exec_bind, exec_get]

theorem exec_record_bind (change : Report → Report) (f : Unit → Run α) (s : RunState) :
    (record change >>= f).exec s = (f ()).exec { s with report := change s.report } := rfl

theorem exec_relate_bind (change : RelationState → RelationState) (f : Unit → Run α) (s : RunState) :
    (relate change >>= f).exec s = (f ()).exec { s with relations := change s.relations } := rfl

theorem exec_openScope_bind (f : Nat → Run α) (s : RunState) :
    (openScope >>= f).exec s = (f (s.scopes + 1)).exec { s with scopes := s.scopes + 1 } := rfl

/-! ## What an action may do -/

/-- Every run of an action is a sequence of steps, and every error of it is a failure. -/
structure Confined (step : RunState → RunState → Prop) (failure : RunError → Prop)
    (m : Run α) : Prop where
  steps : ∀ s, ReflTransGen step s (m.exec s).2
  fails : ∀ s e, (m.exec s).1 = .error e → failure e

namespace Confined

variable {step : RunState → RunState → Prop} {failure : RunError → Prop}

theorem steps_of_exec {m : Run α} (hm : Confined step failure m) {s s' : RunState}
    {r : Except RunError α} (h : m.exec s = (r, s')) : ReflTransGen step s s' := by
  have hsteps := hm.steps s
  rwa [h] at hsteps

theorem failure_of_exec {m : Run α} (hm : Confined step failure m) {s s' : RunState} {e : RunError}
    (h : m.exec s = (.error e, s')) : failure e :=
  hm.fails s e (by rw [h])

theorem pure (a : α) : Confined step failure (pure a : Run α) where
  steps _ := .refl
  fails _ _ h := nomatch h

theorem throw {e : RunError} (he : failure e) : Confined step failure (throw e : Run α) where
  steps _ := .refl
  fails s e' h := by
    rw [exec_throw, Except.error.injEq] at h
    exact h ▸ he

theorem get : Confined step failure (get : Run RunState) where
  steps _ := .refl
  fails _ _ h := nomatch h

theorem modify {f : RunState → RunState} (hf : ∀ s, ReflTransGen step s (f s)) :
    Confined step failure (modify f : Run Unit) where
  steps := hf
  fails _ _ h := nomatch h

theorem modifyGet {f : RunState → α × RunState} (hf : ∀ s, ReflTransGen step s (f s).2) :
    Confined step failure (modifyGet f : Run α) where
  steps := hf
  fails _ _ h := nomatch h

/-- The second part need only be confined for the values that the first part returns. -/
theorem bind_of {m : Run α} {f : α → Run β} (hm : Confined step failure m)
    (hf : ∀ a s s', m.exec s = (.ok a, s') → Confined step failure (f a)) :
    Confined step failure (m >>= f) where
  steps s := by
    have hsteps := hm.steps s
    rw [exec_bind]
    rcases hrun : m.exec s with ⟨e | a, s'⟩
    · rwa [hrun] at hsteps
    · rw [hrun] at hsteps
      exact hsteps.trans ((hf a s s' hrun).steps s')
  fails s e h := by
    rw [exec_bind] at h
    rcases hrun : m.exec s with ⟨e' | a, s'⟩
    · rw [hrun] at h
      exact hm.fails s e (by simpa [hrun] using h)
    · rw [hrun] at h
      exact (hf a s s' hrun).fails s' e h

theorem bind {m : Run α} {f : α → Run β} (hm : Confined step failure m)
    (hf : ∀ a, Confined step failure (f a)) : Confined step failure (m >>= f) :=
  hm.bind_of fun a _ _ _ => hf a

theorem tryCatch {m : Run α} {h : RunError → Run α} (hm : Confined step failure m)
    (hh : ∀ e, failure e → Confined step failure (h e)) :
    Confined step failure (tryCatch m h) where
  steps s := by
    have hsteps := hm.steps s
    rw [exec_tryCatch]
    rcases hrun : m.exec s with ⟨e | a, s'⟩
    · rw [hrun] at hsteps
      exact hsteps.trans ((hh e (hm.failure_of_exec hrun)).steps s')
    · rwa [hrun] at hsteps
  fails s e he := by
    rw [exec_tryCatch] at he
    rcases hrun : m.exec s with ⟨e' | a, s'⟩
    · rw [hrun] at he
      exact (hh e' (hm.failure_of_exec hrun)).fails s' e he
    · rw [hrun] at he
      cases he

/-- An action that cannot fail returns. -/
theorem returns {m : Run α} (hm : Confined step (fun _ => False) m) (s : RunState) :
    ∃ a s', m.exec s = (.ok a, s') := by
  rcases hrun : m.exec s with ⟨e | a, s'⟩
  · exact (hm.failure_of_exec hrun).elim
  · exact ⟨a, s', rfl⟩

theorem mono {step' : RunState → RunState → Prop} {failure' : RunError → Prop} {m : Run α}
    (hm : Confined step failure m) (hstep : ∀ s s', step s s' → step' s s')
    (hfailure : ∀ e, failure e → failure' e) : Confined step' failure' m where
  steps s := ReflTransGen.mono hstep _ _ (hm.steps s)
  fails s e h := hfailure e (hm.fails s e h)

end Confined

/-! ## What an action returns -/

/-- Every value that an action returns satisfies a condition, in the state in which it is returned. -/
def Returns (m : Run α) (post : α → RunState → Prop) : Prop :=
  ∀ s a s', m.exec s = (.ok a, s') → post a s'

namespace Returns

variable {post : α → RunState → Prop}

theorem pure {a : α} (h : ∀ s, post a s) : Returns (pure a : Run α) post := by
  intro s b s' hrun
  obtain ⟨rfl, rfl⟩ := exec_pure_eq_ok.1 hrun
  exact h s

/-- The condition is that of the last part, which goes on from where the first part has returned. -/
theorem bind_at {m : Run β} {f : β → Run α} {mid : β → RunState → Prop} (hm : Returns m mid)
    (hf : ∀ b s a s', mid b s → (f b).exec s = (.ok a, s') → post a s') :
    Returns (m >>= f) post := by
  intro s a s' hrun
  obtain ⟨b, t, hfirst, hlast⟩ := exec_bind_eq_ok.1 hrun
  exact hf b t a s' (hm s b t hfirst) hlast

theorem bind_of {m : Run β} {f : β → Run α} {P : β → Prop} (hm : Returns m fun b _ => P b)
    (hf : ∀ b, P b → Returns (f b) post) : Returns (m >>= f) post :=
  bind_at hm fun b s a s' hb hrun => hf b hb s a s' hrun

theorem bind {m : Run β} {f : β → Run α} (hf : ∀ b, Returns (f b) post) : Returns (m >>= f) post :=
  bind_of (P := fun _ => True) (fun _ _ _ _ => trivial) fun b _ => hf b

theorem mono {m : Run α} {post' : α → RunState → Prop} (h : Returns m post)
    (hpost : ∀ a s, post a s → post' a s) : Returns m post' :=
  fun s a s' hrun => hpost a s' (h s a s' hrun)

end Returns

/-! ## Conditions on states -/

/-- An action keeps a condition on states, also when it fails. -/
def Maintains (I : RunState → Prop) (m : Run α) : Prop := ∀ s, I s → I (m.exec s).2

namespace Maintains

variable {I : RunState → Prop}

theorem pure (a : α) : Maintains I (pure a : Run α) := fun _ hs => hs

theorem throw (e : RunError) : Maintains I (throw e : Run α) := fun _ hs => hs

theorem bind {m : Run α} {f : α → Run β} (hm : Maintains I m) (hf : ∀ a, Maintains I (f a)) :
    Maintains I (m >>= f) := by
  intro s hs
  have hfirst := hm s hs
  rw [exec_bind]
  rcases hrun : m.exec s with ⟨e | a, t⟩
  · rwa [hrun] at hfirst
  · rw [hrun] at hfirst
    exact hf a t hfirst

theorem get_bind {f : RunState → Run α} (hf : ∀ s, Maintains I (f s)) : Maintains I (get >>= f) := by
  intro s hs
  rw [exec_get_bind]
  exact hf s s hs

theorem tryCatch {m : Run α} {h : RunError → Run α} (hm : Maintains I m) (hh : ∀ e, Maintains I (h e)) :
    Maintains I (tryCatch m h) := by
  intro s hs
  have hfirst := hm s hs
  rw [exec_tryCatch]
  rcases hrun : m.exec s with ⟨e | a, t⟩
  · rw [hrun] at hfirst
    exact hh e t hfirst
  · rwa [hrun] at hfirst

end Maintains
end Run
end Specimen
