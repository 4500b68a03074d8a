import Specimen.Proofs.Leaf.Steps

/-!
# Accepted values

No value that breaks its simple type goes unnoticed, and none that a sibling has used.  Whichever source the value of
a leaf comes from, either it was accepted in a state on the way to it or the report has a warning at the path of the
leaf; and a warning that was given is never taken back.  Where siblings have to differ, the value is marked as used.

A relationship is the exception: its values only have to satisfy the simple type, although they are marked as well.

States are compared with one from before, since what siblings have used then is used in every state on the way.
-/

namespace Specimen

open Run

namespace LeafRequest

/-- The report warns of the value of a leaf. -/
def Flagged (q : LeafRequest) (s : RunState) : Prop :=
  ∃ n ∈ s.report.warnings, n.code = "constraint_violation" ∧ n.path = some q.path

/-- A value satisfies the simple type of its leaf, or the report warns that it does not. -/
def Excused (setup : Setup) (q : LeafRequest) (value : String) (s : RunState) : Prop :=
  q.facets.check value setup.options.libraries.isMatch = .ok () ∨ q.Flagged s

/-- Where siblings have to differ, a value is marked as used. -/
def Marked (setup : Setup) (q : LeafRequest) (value : String) (s : RunState) : Prop :=
  setup.plan.settings.uniqueCombinations = true → ∀ scope, q.scope = some scope →
    s.isUsed scope q.path value = true

/-- A value was accepted after a state, or the report warns of it; and it is marked. -/
structure Kept (setup : Setup) (s₀ : RunState) (q : LeafRequest) (value : String) (s : RunState) : Prop where
  judged : (∃ u, s₀.Grows u ∧ Leaf.accept setup u q value = .ok ()) ∨ q.Flagged s
  marked : q.Marked setup value s

variable {setup : Setup} {q : LeafRequest} {value : String} {s₀ s t : RunState}

theorem Flagged.grows (h : q.Flagged s) (hgrows : s.Grows t) : q.Flagged t := by
  obtain ⟨n, hn, hcode, hpath⟩ := h
  exact ⟨n, hgrows.warnings n hn, hcode, hpath⟩

theorem Excused.grows (h : q.Excused setup value s) (hgrows : s.Grows t) : q.Excused setup value t :=
  h.imp_right (·.grows hgrows)

theorem Marked.grows (h : q.Marked setup value s) (hgrows : s.Grows t) : q.Marked setup value t :=
  fun hunique scope hscope => hgrows.used scope q.path value (h hunique scope hscope)

end LeafRequest

open LeafRequest (Flagged Excused Marked Kept)

namespace Run

/-- Whatever an action returns that runs later than a state satisfies a condition. -/
def Since {α : Type} (s₀ : RunState) (m : Run α) (post : α → RunState → Prop) : Prop :=
  ∀ s a s', s₀.Grows s → m.exec s = (.ok a, s') → s₀.Grows s' ∧ post a s'

namespace Since

variable {α β : Type} {s₀ : RunState} {post : α → RunState → Prop} {failure : RunError → Prop}

theorem pure {a : α} (h : ∀ s, post a s) : Since s₀ (pure a : Run α) post := by
  intro s b s' hs hrun
  obtain ⟨rfl, rfl⟩ := exec_pure_eq_ok.1 hrun
  exact ⟨hs, h s⟩

/-- What an action returns on its own, it returns later than any state. -/
theorem of_returns {m : Run α} (hm : TakesValueSteps failure m) (h : Returns m post) : Since s₀ m post :=
  fun s a s' hs hrun => ⟨hs.trans (.of_valueSteps (hm.steps_of_exec hrun)), h s a s' hrun⟩

theorem bind_of {m : Run β} {f : β → Run α} {P : β → Prop} (hm : Since s₀ m fun b _ => P b)
    (hf : ∀ b, P b → Since s₀ (f b) post) : Since s₀ (m >>= f) post := by
  intro s a s' hs hrun
  obtain ⟨b, t, hfirst, hlast⟩ := exec_bind_eq_ok.1 hrun
  obtain ⟨ht, hb⟩ := hm s b t hs hfirst
  exact hf b hb t a s' ht hlast

/-- The first part only has to take value steps. -/
theorem bind {m : Run β} {f : β → Run α} (hm : TakesTentativeSteps (fun _ => True) m)
    (hf : ∀ b, Since s₀ (f b) post) : Since s₀ (m >>= f) post :=
  bind_of (P := fun _ => True) (of_returns hm.toValue fun _ _ _ _ => trivial) fun b _ => hf b

theorem get_bind {f : RunState → Run α} (hf : ∀ s, s₀.Grows s → Since s₀ (f s) post) :
    Since s₀ (get >>= f) post := by
  intro s a s' hs hrun
  rw [exec_get_bind] at hrun
  exact hf s hs s a s' hs hrun

theorem mono {m : Run α} {post' : α → RunState → Prop} (h : Since s₀ m post)
    (hpost : ∀ a s, post a s → post' a s) : Since s₀ m post' :=
  fun s a s' hs hrun => (h s a s' hs hrun).imp_right (hpost a s')

end Since

theorem warn_returns (n : Notice) : Returns (warn n) fun _ s => n ∈ s.report.warnings := by
  intro s _ s' hrun
  obtain ⟨_, t, -, hrecord⟩ := exec_bind_eq_ok.1 hrun
  have hstate : s' = { t with report := t.report.warn n } := (congrArg Prod.snd hrecord).symm
  rw [hstate]
  exact Array.mem_push_self

theorem grows_of_exec {α : Type} {m : Run α} {s s' : RunState} {r : Except RunError α}
    (hm : TakesTentativeSteps (fun _ => True) m) (h : m.exec s = (r, s')) : s.Grows s' := (hm.quiet h).grows

end Run

namespace Leaf

variable {setup : Setup} {s₀ : RunState}

theorem check_of_accept {s : RunState} {q : LeafRequest} {value : String}
    (h : accept setup s q value = .ok ()) : q.facets.check value setup.options.libraries.isMatch = .ok () := by
  unfold accept at h
  split at h
  · cases h
  · assumption

/-- Where siblings have to differ, a value that is accepted was not used by any of them. -/
theorem isUsed_of_accept {s : RunState} {q : LeafRequest} {value : String} {scope : Nat}
    (h : accept setup s q value = .ok ()) (hunique : setup.plan.settings.uniqueCombinations = true)
    (hscope : q.scope = some scope) : s.isUsed scope q.path value = false := by
  unfold accept at h
  rw [check_of_accept h, hscope] at h
  dsimp only at h
  split at h
  · cases h
  · rename_i hfree
    rw [hunique, Bool.true_and] at hfree
    exact Bool.eq_false_iff.2 hfree

/-- What a source yields is kept as it should be. -/
abbrev PicksKept (setup : Setup) (s₀ : RunState) (q : LeafRequest) (m : Run Picked) : Prop :=
  Since s₀ m fun picked s => ∀ value, picked = .value value → Kept setup s₀ q value s

/-- The value that is returned is kept as it should be. -/
abbrev ReturnsKept (setup : Setup) (s₀ : RunState) (q : LeafRequest) (m : Run String) : Prop :=
  Since s₀ m fun value s => Kept setup s₀ q value s

/-! ## Values that are marked -/

theorem markUsed_returns (q : LeafRequest) (value : String) :
    Returns (markUsed setup q value) fun _ s => q.Marked setup value s := by
  intro s _ s' hrun hunique scope hscope
  unfold markUsed at hrun
  rw [hscope] at hrun
  dsimp only at hrun
  rw [if_pos hunique] at hrun
  cases hrun
  rw [RunState.isUsed_markUsed, decide_eq_true rfl, Bool.true_or]

theorem keep_returns (q : LeafRequest) (source value : String) :
    Returns (keep setup q source value) fun _ s => q.Marked setup value s :=
  (markUsed_returns q value).bind_at fun _ _ _ _ hmarked hrecord =>
    hmarked.grows (grows_of_exec (record_takesTentativeSteps (.value source)) hrecord)

theorem finish_returns (q : LeafRequest) (generator source value : String) :
    Returns (finish setup q generator source value) fun kept s => kept = value ∧ q.Marked setup value s := by
  refine (markUsed_returns q value).bind_at fun _ s kept s' hmarked hrun => ?_
  obtain ⟨_, t, hrecord, hrun⟩ := exec_bind_eq_ok.1 hrun
  obtain ⟨rfl, rfl⟩ := exec_pure_eq_ok.1 hrun
  cases hrecord
  exact ⟨rfl, hmarked.grows (.of_same rfl rfl rfl rfl)⟩

/-- A warning at the path of a leaf flags it. -/
theorem flagged_of_warn {q : LeafRequest} {n : Notice} (hcode : n.code = "constraint_violation")
    (hpath : n.path = some q.path) {s t : RunState} {a : Unit} (hrun : (warn n).exec s = (.ok a, t)) :
    s.Grows t ∧ q.Flagged t :=
  ⟨grows_of_exec (warn_takesTentativeSteps n) hrun, n, warn_returns n s a t hrun, hcode, hpath⟩

/-! ## Picked values -/

theorem keep_picksKept {u : RunState} {q : LeafRequest} {value : String} (hu : s₀.Grows u)
    (haccept : accept setup u q value = .ok ()) (source : String) :
    PicksKept setup s₀ q (keep setup q source value >>= fun _ => pure (Picked.value value)) := by
  intro s picked s' hs hrun
  obtain ⟨_, t, hkeep, hrun⟩ := exec_bind_eq_ok.1 hrun
  obtain ⟨rfl, rfl⟩ := exec_pure_eq_ok.1 hrun
  refine ⟨hs.trans ((keep_takesTentativeSteps q source value).quiet hkeep).grows, ?_⟩
  rintro _ ⟨⟩
  exact ⟨.inl ⟨u, hu, haccept⟩, keep_returns q source value s _ t hkeep⟩

theorem settle_picksKept (q : LeafRequest) (source : String) (last : Option Refusal) :
    PicksKept setup s₀ q (settle setup q source last) := by
  unfold settle
  split
  · exact .pure fun _ _ => nofun
  · rename_i refusal
    split
    · exact .pure fun _ _ => nofun
    · intro s picked s' hs hrun
      obtain ⟨_, t, hwarn, hrun⟩ := exec_bind_eq_ok.1 hrun
      obtain ⟨_, u, hkeep, hrun⟩ := exec_bind_eq_ok.1 hrun
      obtain ⟨rfl, rfl⟩ := exec_pure_eq_ok.1 hrun
      obtain ⟨hst, hflagged⟩ := flagged_of_warn rfl rfl hwarn
      have htu := ((keep_takesTentativeSteps q source refusal.value).quiet hkeep).grows
      refine ⟨(hs.trans hst).trans htu, ?_⟩
      rintro _ ⟨⟩
      exact ⟨.inr (hflagged.grows htu), keep_returns q source _ t _ u hkeep⟩

theorem tryPool_picksKept (q : LeafRequest) (pool : List String) (strategy : SelectionStrategy)
    (source : String) (tries : Nat) (last : Option Refusal) :
    PicksKept setup s₀ q (tryPool setup q pool strategy source tries last) := by
  induction tries generalizing last with
  | zero => exact settle_picksKept q source last
  | succ tries ih =>
      unfold tryPool
      refine .bind (pickFrom_takesTentativeSteps _ _ _) fun picked => ?_
      split
      · exact settle_picksKept q source last
      · refine .get_bind fun s hs => ?_
        split
        · rename_i haccept
          exact keep_picksKept hs haccept source
        · exact .bind (record_takesTentativeSteps .retry) fun _ => ih _

theorem pickFromPool_picksKept (q : LeafRequest) (pool : List String)
    (strategy : SelectionStrategy) (source : String) :
    PicksKept setup s₀ q (pickFromPool setup q pool strategy source) := by
  unfold pickFromPool
  split
  · exact .pure fun _ _ => nofun
  · exact tryPool_picksKept q pool strategy source _ none

theorem tryRecords_picksKept (q : LeafRequest) (records : List Json) (key path : String)
    (strategy : SelectionStrategy) (tries : Nat) (last : Option Refusal) :
    PicksKept setup s₀ q (tryRecords setup q records key path strategy tries last) := by
  induction tries generalizing last with
  | zero => exact settle_picksKept q _ last
  | succ tries ih =>
      unfold tryRecords
      refine .bind (pickFrom_takesTentativeSteps _ _ _) fun picked => ?_
      split
      · exact settle_picksKept q _ last
      · split
        · exact .bind (warn_takesTentativeSteps _) fun _ => .pure fun _ _ h => by cases h
        · refine .get_bind fun s hs => ?_
          split
          · rename_i haccept
            exact keep_picksKept hs haccept _
          · exact .bind (record_takesTentativeSteps .retry) fun _ => ih _

theorem pickFromRecords_picksKept (q : LeafRequest) (rule : ElementRule) (path : String) :
    PicksKept setup s₀ q (pickFromRecords setup q rule path) := by
  refine .bind (ofContexts_takesTentativeSteps fun _ _ => trivial) fun records => ?_
  split
  · exact .pure fun _ _ => nofun
  · exact tryRecords_picksKept q records _ path _ _ none

/-! ## Generated values -/

theorem tryGenerator_accepts (q : LeafRequest) (g : Generator) (tries : Nat)
    (last : Option (Refusal × Generator)) :
    Since s₀ (tryGenerator setup q g tries last) fun made _ =>
      ∀ value g, made = .ok (value, g) → ∃ u, s₀.Grows u ∧ accept setup u q value = .ok () := by
  induction tries generalizing last with
  | zero => exact .pure fun _ _ _ => nofun
  | succ tries ih =>
      unfold tryGenerator
      refine .bind (attempt_takesTentativeSteps _ fun _ => trivial) fun made => ?_
      split
      · exact .bind (warn_takesTentativeSteps _) fun _ => .pure fun _ _ _ => nofun
      · refine .get_bind fun s hs => ?_
        split
        · rename_i haccept
          refine .pure fun _ value _ heq => ?_
          obtain ⟨rfl, -⟩ := Prod.mk.inj (Except.ok.inj heq)
          exact ⟨s, hs, haccept⟩
        · exact .bind (record_takesTentativeSteps .retry) fun _ => ih _

theorem tryGenerators_accepts (q : LeafRequest) (generators : List Generator)
    (last : Option (Refusal × Generator)) :
    Since s₀ (tryGenerators setup q generators last) fun made _ =>
      ∀ value g, made = .ok (value, g) → ∃ u, s₀.Grows u ∧ accept setup u q value = .ok () := by
  induction generators generalizing last with
  | nil => exact .pure fun _ _ _ => nofun
  | cons g rest ih =>
      unfold tryGenerators
      refine .bind_of (tryGenerator_accepts q g _ last) fun made hmade => ?_
      split
      · exact .pure fun _ => hmade
      · exact ih _

theorem generate_returnsKept (q : LeafRequest) (source : String) :
    ReturnsKept setup s₀ q (generate setup q source) := by
  have hfinish : ∀ id value, TakesTentativeSteps (LeafFailure setup) (finish setup q id source value) :=
    fun id value => finish_takesTentativeSteps q id source value
  have htext : TakesTentativeSteps (LeafFailure setup) (anyText setup q) := anyText_takesTentativeSteps q
  have hkept : ∀ (n : Notice) (id value : String), n.code = "constraint_violation" →
      n.path = some q.path →
      ReturnsKept setup s₀ q (warn n >>= fun _ => finish setup q id source value) := by
    intro n id value hcode hpath s kept s' hs hrun
    obtain ⟨_, t, hwarn, hrun⟩ := exec_bind_eq_ok.1 hrun
    obtain ⟨hst, hflagged⟩ := flagged_of_warn hcode hpath hwarn
    have hts' := ((hfinish id value).quiet hrun).grows
    obtain ⟨rfl, hmarked⟩ := finish_returns q id source value t kept s' hrun
    exact ⟨(hs.trans hst).trans hts', .inr (hflagged.grows hts'), hmarked⟩
  unfold generate
  refine .bind_of (tryGenerators_accepts q _ none) fun made hmade => ?_
  split
  · rename_i value g
    refine (Since.of_returns (hfinish _ value).toValue (finish_returns q _ source value)).mono ?_
    rintro kept s ⟨rfl, hmarked⟩
    exact ⟨.inl (hmade kept g rfl), hmarked⟩
  · split
    · exact hkept _ _ _ rfl rfl
    · exact .bind (htext.mono (fun _ _ => id) fun _ _ => trivial) fun text => hkept _ _ _ rfl rfl

theorem fallBack_returnsKept (q : LeafRequest) (source reason : String) :
    ReturnsKept setup s₀ q (fallBack setup q source reason) :=
  .bind (record_takesTentativeSteps .fallback) fun _ =>
    .bind (warn_takesTentativeSteps _) fun _ => generate_returnsKept q _

/-! ## Sources in order -/

theorem orElse_returnsKept {q : LeafRequest} {picks : Run Picked} (hpicks : PicksKept setup s₀ q picks)
    (source : String) {next : Run String} (hnext : ReturnsKept setup s₀ q next) :
    ReturnsKept setup s₀ q (picks >>= orElse setup q source next) := by
  intro s value s' hs hrun
  obtain ⟨picked, t, hpicked, hrun⟩ := exec_bind_eq_ok.1 hrun
  obtain ⟨ht, hkept⟩ := hpicks s picked t hs hpicked
  cases picked with
  | value text =>
      obtain ⟨rfl, rfl⟩ := exec_pure_eq_ok.1 hrun
      exact ⟨ht, hkept text rfl⟩
  | refused reason => exact fallBack_returnsKept q source reason t value s' ht hrun
  | empty => exact hnext t value s' ht hrun

theorem fromRecords_returnsKept (q : LeafRequest) (rule : ElementRule) :
    ReturnsKept setup s₀ q (fromRecords setup q rule) := by
  unfold fromRecords
  split
  · exact orElse_returnsKept (pickFromRecords_picksKept q rule _) _ (generate_returnsKept q _)
  · exact generate_returnsKept q _

theorem fromContexts_returnsKept (q : LeafRequest) (rule : ElementRule) :
    ReturnsKept setup s₀ q (fromContexts setup q rule) := by
  unfold fromContexts
  split
  · exact .bind (ofContexts_takesTentativeSteps fun _ _ => trivial) fun pool =>
      orElse_returnsKept (pickFromPool_picksKept q pool _ _) _ (fromRecords_returnsKept q rule)
  · exact fromRecords_returnsKept q rule

/-- The value of a leaf from its own sources was accepted, or the report warns of it; and it is marked. -/
theorem fromSources_returnsKept (q : LeafRequest) : ReturnsKept setup s₀ q (fromSources setup q) := by
  unfold fromSources
  split
  · rename_i rule _
    exact orElse_returnsKept (pickFromPool_picksKept q _ _ _) _ (fromContexts_returnsKept q rule)
  · exact generate_returnsKept q _

/-! ## Leaves -/

theorem keepRelated_returns (q : LeafRequest) (field value : String) :
    Returns (keepRelated setup q field value) fun _ s => q.Excused setup value s ∧ q.Marked setup value s := by
  unfold keepRelated
  dsimp only
  split
  · rename_i hcheck
    exact fun s _ s' hrun => ⟨.inl hcheck, keep_returns q _ value s _ s' hrun⟩
  · intro s _ s' hrun
    obtain ⟨_, t, hwarn, hrun⟩ := exec_bind_eq_ok.1 hrun
    obtain ⟨-, hflagged⟩ := flagged_of_warn rfl rfl hwarn
    have hts' := ((keep_takesTentativeSteps q "relationship" value).quiet hrun).grows
    exact ⟨.inr (hflagged.grows hts'), keep_returns q _ value t _ s' hrun⟩

/-- A relationship has a value for a leaf that is asked for in a state. -/
def IsSupplied (setup : Setup) (q : LeafRequest) (s : RunState) : Prop :=
  ∃ field value t, delegate? setup q = some field ∧
    (Relation.resolveField setup (fieldSources setup) field).exec s = (.ok (some value), t)

/-- A leaf that is not fixed has its value from its own sources, or else from a relationship. -/
theorem resolve_eq_ok {q : LeafRequest} (hfixed : q.fixed = none) {s s' : RunState} {value : String}
    (hrun : (resolve setup q).exec s = (.ok value, s')) :
    (∃ t, s.Grows t ∧ (fromSources setup q).exec t = (.ok value, s')) ∨
      IsSupplied setup q s ∧ ∃ field t, (keepRelated setup q field value).exec t = (.ok (), s') := by
  unfold resolve resolveOpen at hrun
  rw [hfixed] at hrun
  dsimp only at hrun
  split at hrun
  · exact .inl ⟨s, .refl s, hrun⟩
  · rename_i field hfield
    obtain ⟨supplied, t, hsupplied, hrun⟩ := exec_bind_eq_ok.1 hrun
    cases supplied with
    | none =>
        have hsteps : TakesValueSteps (LeafFailure setup)
            (Relation.resolveField setup (fieldSources setup) field) :=
          Relation.resolveField_takesValueSteps fieldSources_supplied .endlessWait _
        exact .inl ⟨t, .of_valueSteps (hsteps.steps_of_exec hsupplied), hrun⟩
    | some v =>
        obtain ⟨⟨⟩, u, hkeep, hrun⟩ := exec_bind_eq_ok.1 hrun
        obtain ⟨rfl, rfl⟩ := exec_pure_eq_ok.1 hrun
        exact .inr ⟨⟨field, v, t, hfield, hsupplied⟩, field, t, hkeep⟩

/-- The value of a leaf that is not fixed satisfies its simple type, or a warning at the path of the leaf
says that it does not; and it is marked as used. -/
theorem resolve_returnsMarked {q : LeafRequest} (hfixed : q.fixed = none) :
    Returns (resolve setup q) fun value s => q.Excused setup value s ∧ q.Marked setup value s := by
  intro s value s' hrun
  rcases resolve_eq_ok hfixed hrun with ⟨t, -, hsources⟩ | ⟨-, field, t, hkeep⟩
  · obtain ⟨-, hjudged, hmarked⟩ := fromSources_returnsKept q t value s' (.refl t) hsources
    exact ⟨hjudged.imp_left fun ⟨_, _, haccept⟩ => check_of_accept haccept, hmarked⟩
  · exact keepRelated_returns q field value t () s' hkeep

/-- A leaf that is not fixed and has no value from a relationship gets one that a sibling has used only with a
warning. -/
theorem resolve_flags {q : LeafRequest} (hfixed : q.fixed = none) {s s' : RunState} {value : String}
    (hsupplied : ¬ IsSupplied setup q s) (hunique : setup.plan.settings.uniqueCombinations = true)
    {scope : Nat} (hscope : q.scope = some scope) (hused : s.isUsed scope q.path value = true)
    (hrun : (resolve setup q).exec s = (.ok value, s')) : q.Flagged s' := by
  rcases resolve_eq_ok hfixed hrun with ⟨t, ht, hsources⟩ | ⟨hrelated, -⟩
  · obtain ⟨-, hjudged, -⟩ := fromSources_returnsKept q t value s' ht hsources
    rcases hjudged with ⟨u, hu, haccept⟩ | hflagged
    · have hfree := isUsed_of_accept haccept hunique hscope
      rw [hu.used scope q.path value hused] at hfree
      cases hfree
    · exact hflagged
  · exact absurd hrelated hsupplied

end Leaf
end Specimen
