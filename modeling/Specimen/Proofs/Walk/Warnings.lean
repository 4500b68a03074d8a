import Specimen.Proofs.Run.Composition
import Specimen.Proofs.Walk.Composition

/-!
# What a run has warned of

A run adds to the warnings of its report and never looks at them.  So whatever was warned of before it begins
stays in front of what it warns of itself, and makes no difference to anything else.  This is proved of each
action from its parts: whatever the source of its value, a leaf gets the same value in the same way, and the walk
looks at the types that are open, at whether it is halted, and at what its leaves look at.
-/

namespace Specimen

/-- A report with warnings before its own, all of which are counted. -/
def Report.after (earlier : Array Notice) (r : Report) : Report :=
  { r with
    warnings := earlier ++ r.warnings
    warningsByCode := codesOf (earlier ++ r.warnings) }

/-- A state whose report has warnings before its own. -/
def RunState.after (earlier : Array Notice) (s : RunState) : RunState :=
  { s with report := s.report.after earlier }

namespace Run

variable {α β : Type}

/-- Warnings that were there before an action make no difference to it and stay in front. -/
def IgnoresWarnings (m : Run α) : Prop :=
  ∀ earlier s, m.exec (s.after earlier) = ((m.exec s).1, (m.exec s).2.after earlier)

namespace IgnoresWarnings

theorem pure (a : α) : IgnoresWarnings (pure a : Run α) := fun _ _ => rfl

theorem throw (e : RunError) : IgnoresWarnings (throw e : Run α) := fun _ _ => rfl

theorem bind {m : Run α} {f : α → Run β} (hm : IgnoresWarnings m) (hf : ∀ a, IgnoresWarnings (f a)) :
    IgnoresWarnings (m >>= f) := by
  intro earlier s
  rw [exec_bind, exec_bind, hm earlier s]
  rcases m.exec s with ⟨e | a, t⟩
  · rfl
  · exact hf a earlier t

/-- What is looked up in the state must not be its warnings. -/
theorem get_bind {f : RunState → Run α} (hsame : ∀ earlier s, f (s.after earlier) = f s)
    (hf : ∀ s, IgnoresWarnings (f s)) : IgnoresWarnings (get >>= f) := by
  intro earlier s
  rw [exec_get_bind, exec_get_bind, hsame]
  exact hf s earlier s

theorem tryCatch {m : Run α} {h : RunError → Run α} (hm : IgnoresWarnings m)
    (hh : ∀ e, IgnoresWarnings (h e)) : IgnoresWarnings (tryCatch m h) := by
  intro earlier s
  rw [exec_tryCatch, exec_tryCatch, hm earlier s]
  rcases m.exec s with ⟨e | a, t⟩
  · exact hh e earlier t
  · rfl

theorem modify {f : RunState → RunState} (hf : ∀ earlier s, f (s.after earlier) = (f s).after earlier) :
    IgnoresWarnings (modify f : Run Unit) := fun earlier s => Prod.ext rfl (hf earlier s)

theorem modifyGet {f : RunState → α × RunState}
    (hf : ∀ earlier s, f (s.after earlier) = ((f s).1, (f s).2.after earlier)) :
    IgnoresWarnings (modifyGet f : Run α) := by
  intro earlier s
  change (Except.ok (f (s.after earlier)).1, (f (s.after earlier)).2) = _
  rw [hf]
  rfl

theorem andFinally {m : Run α} {change : RunState → RunState} (hm : IgnoresWarnings m)
    (hchange : ∀ earlier s, change (s.after earlier) = (change s).after earlier) :
    IgnoresWarnings (andFinally m change) := by
  intro earlier s
  change ((m.exec (s.after earlier)).1, change (m.exec (s.after earlier)).2) = _
  rw [hm earlier s, hchange]
  rfl

end IgnoresWarnings

/-! ## Actions of which others are made -/

theorem record_ignoresWarnings {change : Report → Report}
    (h : ∀ earlier r, change (r.after earlier) = (change r).after earlier) :
    IgnoresWarnings (record change) := by
  refine .modify fun earlier s => ?_
  change { s.after earlier with report := change (s.report.after earlier) } = _
  rw [h]
  rfl

theorem follow_ignoresWarnings (e : TraceEvent) : IgnoresWarnings (follow e) := .modify fun _ _ => rfl

theorem warn_ignoresWarnings (n : Notice) : IgnoresWarnings (warn n) := by
  refine (follow_ignoresWarnings _).bind fun _ => record_ignoresWarnings fun earlier r => ?_
  have hpush : earlier ++ r.warnings.push n = (earlier ++ r.warnings).push n := Array.append_push
  unfold Report.warn Report.after
  rw [hpush, codesOf_push]

theorem tick_ignoresWarnings (options : Options) : IgnoresWarnings (tick options) := by
  refine (record_ignoresWarnings fun _ _ => rfl).bind fun _ => .get_bind (fun _ _ => rfl) fun s => ?_
  dsimp only
  split
  · exact .throw _
  · exact .pure _

theorem ignoresWarnings_unrestricted : Unrestricted fun _ m => IgnoresWarnings m where
  pure := .pure
  throw := .throw
  bind := .bind
  look hsame hf := .get_bind (fun earlier s => hsame s (s.report.after earlier)) hf
  modifyGet {_ f} hsame := by
    refine .modifyGet fun earlier s => ?_
    rw [RunState.after, RunState.after, report_of_same hsame s]
    exact hsame s (s.report.after earlier)
  warn := warn_ignoresWarnings
  retry := record_ignoresWarnings fun _ _ => rfl
  relationship _ := record_ignoresWarnings fun _ _ => rfl
  value _ := record_ignoresWarnings fun _ _ => rfl

theorem count_ignoresWarnings {change : Report → Report} (hspares : Report.SparesWarnings change) :
    IgnoresWarnings (record change) := by
  refine record_ignoresWarnings fun earlier r => ?_
  unfold Report.after
  rw [hspares, hspares.warnings]

theorem ignoresWarnings_composable : Composable fun _ m => IgnoresWarnings m :=
  ignoresWarnings_unrestricted.composable

end Run

/-! ## Leaves and the walk -/

open Run

variable {setup : Setup}

namespace Leaf

theorem generates_ignoresWarnings : Generates setup fun _ m => IgnoresWarnings m :=
  ignoresWarnings_composable.generates count_ignoresWarnings

theorem resolve_ignoresWarnings (q : LeafRequest) : IgnoresWarnings (resolve setup q) :=
  (ignoresWarnings_unrestricted.selective AnyPick).resolve generates_ignoresWarnings .any
    ignoresWarnings_unrestricted.takesRecords fun _ => trivial

end Leaf

namespace Walk

theorem carries_ignoresWarnings (root : Element) : Carries setup root fun _ m => IgnoresWarnings m where
  toComposable := ignoresWarnings_composable
  record := count_ignoresWarnings
  tick := tick_ignoresWarnings _
  tryCatch := .tryCatch
  halt := .modify fun _ _ => rfl
  andFinally h := h.andFinally fun _ _ => rfl
  leaf _ := Leaf.resolve_ignoresWarnings _

/-- What was warned of before a document is begun makes no difference to it. -/
theorem buildDocument_ignoresWarnings (root : Element) : IgnoresWarnings (buildDocument setup root) :=
  (carries_ignoresWarnings root).buildDocument

end Walk

end Specimen
