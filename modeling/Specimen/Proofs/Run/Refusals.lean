import Specimen.Proofs.Run.Step

/-!
# Refusals

The recursion guard of a walk refuses to open a type that is nested too deeply.  Each time the trace says
which type it was, and when an element is cut off because of it, a notice says so as well.  Most of what a run
does is calm: the same types are open before and after it, and nothing is refused.

`Guarded` is what the walk keeps: certain types are open, and only types that may be refused were.  `Alike`
sets two actions side by side that do the same from all states of a kind, and stay in states of that kind.
-/

open Relation (ReflTransGen)

namespace Specimen

/-- The type that an event says was nested too deeply. -/
def TraceEvent.refusedType? : TraceEvent → Option String
  | .cut _ type _ _ => some type
  | .passedOver _ type => some type
  | _ => none

theorem TraceEvent.refusedType?_eq_none {e : TraceEvent} (h : e.isRefusal = false) :
    e.refusedType? = none := by
  cases e with
  | cut | passedOver => cases h
  | warned | filtered | chosen | drawn | picked => rfl

namespace RunState

/-! ## What was refused -/

/-- Only types that may be refused were refused, and nothing was cut off if there are none. -/
structure RefusesOnly (may : String → Prop) (s : RunState) : Prop where
  refused : ∀ e ∈ s.trace, ∀ type, e.refusedType? = some type → may type
  cut : ∀ n ∈ s.report.truncations, n.code = "depth_limit" → ∃ type, may type

/-- Certain types are open, and only types that may be refused were refused. -/
structure Guarded (may : String → Prop) (stack : List String) (s : RunState) : Prop
    extends RefusesOnly may s where
  opened : s.openTypes = stack

/-- When any type may be refused, this is about the types that are open alone. -/
theorem guarded_of_openTypes {stack : List String} {s : RunState} (h : s.openTypes = stack) :
    s.Guarded (fun _ => True) stack where
  refused _ _ _ _ := trivial
  cut _ _ _ := ⟨"", trivial⟩
  opened := h

/-- Between two states no type was opened or closed for good, none was refused, and nothing was cut off. -/
structure Calm (s t : RunState) : Prop where
  openTypes : t.openTypes = s.openTypes
  trace : ∀ e ∈ t.trace, e ∈ s.trace ∨ e.refusedType? = none
  truncations : ∀ n ∈ t.report.truncations, n ∈ s.report.truncations ∨ n.code ≠ "depth_limit"

namespace Calm

variable {s t : RunState}

theorem of_kept (hopen : t.openTypes = s.openTypes) (htrace : t.trace = s.trace)
    (htruncations : t.report.truncations = s.report.truncations) : s.Calm t where
  openTypes := hopen
  trace _ he := .inl (htrace ▸ he)
  truncations _ hn := .inl (htruncations ▸ hn)

theorem push {e : TraceEvent} (h : e.refusedType? = none) :
    s.Calm { s with trace := s.trace.push e } where
  openTypes := rfl
  trace e' he' := by
    rcases Array.mem_push.1 he' with hkept | rfl
    · exact .inl hkept
    · exact .inr h
  truncations _ hn := .inl hn

theorem truncate {n : Notice} (h : n.code ≠ "depth_limit") :
    s.Calm { s with report := s.report.truncate n } where
  openTypes := rfl
  trace _ he := .inl he
  truncations n' hn' := by
    rcases Array.mem_push.1 hn' with hkept | rfl
    · exact .inl hkept
    · exact .inr h

theorem of_valueStep (h : ValueStep s t) : s.Calm t := by
  cases h with
  | drew | picked | related | used => exact .of_kept rfl rfl rfl
  | followed e hevent => exact .push (TraceEvent.refusedType?_eq_none hevent)
  | counted change hcount => cases hcount <;> exact .of_kept rfl rfl rfl

end Calm

theorem RefusesOnly.calm {may : String → Prop} {s t : RunState} (h : s.RefusesOnly may)
    (hcalm : s.Calm t) : t.RefusesOnly may where
  refused e he type htype := by
    rcases hcalm.trace e he with hkept | hnone
    · exact h.refused e hkept type htype
    · rw [hnone] at htype
      cases htype
  cut n hn hcode := by
    rcases hcalm.truncations n hn with hkept | hother
    · exact h.cut n hkept hcode
    · exact absurd hcode hother

namespace Guarded

variable {may : String → Prop} {stack : List String} {s t : RunState}

theorem calm (h : s.Guarded may stack) (hcalm : s.Calm t) : t.Guarded may stack where
  toRefusesOnly := h.toRefusesOnly.calm hcalm
  opened := hcalm.openTypes.trans h.opened

theorem calmSteps (h : s.Guarded may stack) (hsteps : ReflTransGen Calm s t) :
    t.Guarded may stack := by
  induction hsteps with
  | refl => exact h
  | tail _ hstep ih => exact ih.calm hstep

theorem pushType (h : s.Guarded may stack) (identity : String) :
    (s.pushType identity).Guarded may (identity :: stack) where
  refused := h.refused
  cut := h.cut
  opened := congrArg (identity :: ·) h.opened

theorem popType {identity : String} (h : s.Guarded may (identity :: stack)) :
    s.popType.Guarded may stack where
  refused := h.refused
  cut := h.cut
  opened := congrArg List.tail h.opened

theorem refuse (h : s.Guarded may stack) {e : TraceEvent}
    (he : ∀ type, e.refusedType? = some type → may type) :
    ({ s with trace := s.trace.push e }).Guarded may stack where
  refused e' he' := by
    rcases Array.mem_push.1 he' with hkept | rfl
    · exact h.refused e' hkept
    · exact he
  cut := h.cut
  opened := h.opened

theorem refuseAll (h : s.Guarded may stack) {events : List TraceEvent}
    (hevents : ∀ e ∈ events, ∀ type, e.refusedType? = some type → may type) :
    ({ s with trace := s.trace ++ events }).Guarded may stack where
  refused e he := by
    rw [← Array.mem_toList_iff, Array.toList_appendList, List.mem_append] at he
    rcases he with hkept | hnew
    · exact h.refused e (Array.mem_toList_iff.1 hkept)
    · exact hevents e hnew
  cut := h.cut
  opened := h.opened

/-- Where a type may be refused, something may be cut off. -/
theorem truncate (h : s.Guarded may stack) {type : String} (htype : may type) (n : Notice) :
    ({ s with report := s.report.truncate n }).Guarded may stack where
  refused := h.refused
  cut _ _ _ := ⟨type, htype⟩
  opened := h.opened

end Guarded
end RunState

namespace Run

variable {α β : Type}

/-! ## Calm actions -/

/-- An action refuses nothing. -/
abbrev IsCalm (m : Run α) : Prop := Confined RunState.Calm (fun _ => True) m

theorem TakesValueSteps.isCalm {failure : RunError → Prop} {m : Run α}
    (h : TakesValueSteps failure m) : IsCalm m :=
  h.mono (fun _ _ => .of_valueStep) fun _ _ => trivial

theorem follow_isCalm {e : TraceEvent} (h : e.refusedType? = none) : IsCalm (follow e) :=
  .modify fun _ => .single (.push h)

theorem record_isCalm (change : Report → Report) (h : ∀ r, (change r).truncations = r.truncations) :
    IsCalm (record change) :=
  .modify fun s => .single (.of_kept rfl rfl (h s.report))

theorem truncate_isCalm {n : Notice} (h : n.code ≠ "depth_limit") : IsCalm (record (.truncate n)) :=
  .modify fun _ => .single (.truncate h)

theorem warn_isCalm (n : Notice) : IsCalm (warn n) :=
  (follow_isCalm rfl).bind fun _ => record_isCalm (.warn n) fun _ => rfl

theorem openScope_isCalm : IsCalm openScope := .modifyGet fun _ => .single (.of_kept rfl rfl rfl)

theorem draw_isCalm (d : Random.Draw α) : IsCalm (draw d) :=
  .modifyGet fun _ => .single (.of_kept rfl rfl rfl)

theorem ofSchema_isCalm (found : Except SchemaError α) : IsCalm (ofSchema found) := by
  cases found with
  | ok a => exact .pure a
  | error e => exact .throw trivial

/-! ## Two actions side by side -/

/-- From each state of a kind, two actions do the same, and they end in a state of that kind again, also when
they fail. -/
def Alike (kind : RunState → Prop) (m m' : Run α) : Prop :=
  ∀ s, kind s → m.exec s = m'.exec s ∧ kind (m'.exec s).2

namespace Alike

variable {kind : RunState → Prop}

theorem pure (a : α) : Alike kind (pure a : Run α) (pure a) := fun _ hs => ⟨rfl, hs⟩

theorem bind {m m' : Run α} {f f' : α → Run β} (h : Alike kind m m')
    (hrest : ∀ a, Alike kind (f a) (f' a)) : Alike kind (m >>= f) (m' >>= f') := by
  intro s hs
  obtain ⟨hsame, hkind⟩ := h s hs
  rw [exec_bind, exec_bind, hsame]
  rcases hrun : m'.exec s with ⟨e | a, t⟩
  · rw [hrun] at hkind
    exact ⟨rfl, hkind⟩
  · rw [hrun] at hkind
    exact hrest a t hkind

/-- What would come after an error makes no difference. -/
theorem throw_bind (e : RunError) (f f' : α → Run β) : Alike kind (throw e >>= f) (throw e >>= f') := by
  intro s hs
  rw [exec_bind_of_error (exec_throw e s), exec_bind_of_error (exec_throw e s)]
  exact ⟨rfl, hs⟩

/-- What is looked up in the state is looked up in a state of the kind. -/
theorem get_bind {f f' : RunState → Run α} (h : ∀ s, kind s → Alike kind (f s) (f' s)) :
    Alike kind (get >>= f) (get >>= f') := by
  intro s hs
  rw [exec_get_bind, exec_get_bind]
  exact h s hs s hs

end Alike

/-- While certain types are open, two actions do the same, and only types that may be refused are refused. -/
abbrev AlikeAt (may : String → Prop) (stack : List String) (m m' : Run α) : Prop :=
  Alike (RunState.Guarded may stack) m m'

theorem Confined.alike {may : String → Prop} {stack : List String} {m : Run α} (h : IsCalm m) :
    AlikeAt may stack m m := fun s hs => ⟨rfl, hs.calmSteps (h.steps s)⟩

end Run
end Specimen
