import Specimen.Proofs.Constraint.Renaming
import Specimen.Proofs.Plan.Owners

/-!
# What a constraint depends on

Checking a constraint looks only at the fields that it refers to.  In the plan of an accepted configuration
these are the fields that the constraint lists.  What an expression makes of the values that are known does not change
when more of them are, except where it is undecided for want of a value.
-/

namespace Specimen

/-- Two bindings agree on several fields. -/
def Bindings.AgreeOn (fields : List String) (b b' : Bindings) : Prop :=
  ∀ f ∈ fields, b.get? f = b'.get? f

/-- Bindings have, of several fields, whatever other ones have of them. -/
def Bindings.ExtendOn (fields : List String) (b b' : Bindings) : Prop :=
  ∀ f ∈ fields, ∀ v, b.get? f = some v → b'.get? f = some v

/-- A value for a field that has none is known beside the others. -/
theorem Bindings.extends_insert {b : Bindings} {k w : String} (hk : b.get? k = none) (f v : String)
    (h : b.get? f = some v) : (b.insert k w).get? f = some v := by
  rw [Dict.get?_insert, if_neg, h]
  rintro rfl
  cases hk.symm.trans h

namespace Expr

/-- Over some bindings an expression has what it has over others, if this holds at its fields. -/
theorem eval_related_self {R : (α : Type) → Except EvalError α → Except EvalError α → Prop} (hR : Sequenced R)
    {b b' : Bindings} (e : Expr) (h : ∀ x ∈ e.fields, R Value ((field x).eval b) ((field x).eval b')) :
    R Value (e.eval b) (e.eval b') := by
  refine eval_related hR e (rename?_self (ε := Unit) e) fun x hx y hy => ?_
  cases hy
  exact h x hx

theorem eval_congr {b b' : Bindings} (e : Expr) (h : b.AgreeOn e.fields b') : e.eval b = e.eval b' := by
  have hequal : Sequenced fun _ x y => x = y :=
    { settled := fun _ => rfl, bind := fun hxy hgo => hxy ▸ congrArg _ (funext hgo) }
  refine eval_related_self hequal e fun x hx => ?_
  rw [eval, eval, h x hx]

end Expr

/-- What was computed stands when more is known, unless a field was wanting that has a property. -/
def Completes (p : String → Prop) {α : Type} (x y : Except EvalError α) : Prop :=
  (Settled x ∧ x = y) ∨ ∃ f, x = .error (.unbound f) ∧ p f

theorem Completes.sequenced (p : String → Prop) : Sequenced fun _ x y => Completes p x y where
  settled h := .inl ⟨h, rfl⟩
  bind {α β x y g k} h hgo := by
    rcases h with ⟨hx, rfl⟩ | ⟨f, rfl, hf⟩
    · cases x with
      | ok v => exact hgo v
      | error e => exact .inl ⟨fun f hf => hx f (congrArg _ (Except.error.inj hf)), rfl⟩
    · exact .inr ⟨f, rfl, hf⟩

namespace Expr

variable {b b' : Bindings}

/-- What an expression has over some values stands when more is known, unless one of its fields was wanting. -/
theorem eval_completes (e : Expr) (h : b.ExtendOn e.fields b') :
    Completes (fun f => f ∈ e.fields ∧ b.get? f = none) (e.eval b) (e.eval b') := by
  refine eval_related_self (Completes.sequenced _) e fun x hx => ?_
  rw [eval, eval]
  cases hget : b.get? x with
  | none => exact .inr ⟨x, rfl, hx, hget⟩
  | some s =>
      rw [h x hx s hget]
      exact .inl ⟨.ok _, rfl⟩

/-! ## Replaced names -/

/-- The fields of an expression in which names were replaced are replacements. -/
theorem fields_of_rename? {ε : Type} {f : String → Except ε String} {p : String → Prop}
    (hf : ∀ {name field}, f name = .ok field → p field) (e : Expr) {renamed : Expr}
    (h : e.rename? f = .ok renamed) : ∀ x ∈ renamed.fields, p x := by
  intro y hy
  obtain ⟨x, -, hxy⟩ := List.exists_of_forall₂ (forall₂_fields h).flip hy
  exact hf hxy

end Expr

namespace Constraint

/-- A constraint lists the fields that its expression refers to. -/
def ListsFields (c : Constraint) : Prop := ∀ f, f ∈ c.fields ↔ f ∈ c.expr.fields

theorem check_congr {c : Constraint} (hlists : c.ListsFields) {b b' : Bindings}
    (h : b.AgreeOn c.fields b') : c.check b = c.check b' := by
  unfold check
  rw [Expr.eval_congr c.expr fun f hf => h f ((hlists f).2 hf)]

variable {c : Constraint} {b b' : Bindings}

/-- A constraint is undecided for want of a field exactly if its expression has no value for that reason. -/
theorem check_eq_unbound_iff {f : String} : c.check b = .unbound f ↔ c.expr.eval b = .error (.unbound f) := by
  unfold check
  cases c.expr.eval b with
  | ok v => dsimp only; split <;> exact ⟨nofun, nofun⟩
  | error e => cases e <;> simp

/-- What is said of a constraint stands when more is known of the fields that it refers to, unless one of these was
wanting. -/
theorem check_completes (h : b.ExtendOn c.expr.fields b') :
    ((∀ f, c.check b ≠ .unbound f) ∧ c.check b' = c.check b) ∨
      ∃ f, c.check b = .unbound f ∧ f ∈ c.expr.fields ∧ b.get? f = none := by
  rcases Expr.eval_completes c.expr h with ⟨hsettled, heq⟩ | ⟨f, hf, hmissing⟩
  · refine .inl ⟨fun f hf => hsettled f (check_eq_unbound_iff.1 hf), ?_⟩
    rw [check, check, heq]
  · exact .inr ⟨f, check_eq_unbound_iff.2 hf, hmissing⟩

/-- A constraint that is violated stays so when more is known of the fields that it refers to. -/
theorem check_violated_mono (h : b.ExtendOn c.expr.fields b') (hviolated : c.check b = .violated) :
    c.check b' = .violated := by
  rcases check_completes h with ⟨-, heq⟩ | ⟨f, hf, -⟩
  · exact heq.trans hviolated
  · cases hviolated.symm.trans hf

/-- A field for want of which a constraint is undecided is one that it refers to and that has no value. -/
theorem missing_of_check_eq_unbound {f : String} (h : c.check b = .unbound f) :
    f ∈ c.expr.fields ∧ b.get? f = none := by
  have hself : b.ExtendOn c.expr.fields b := fun _ _ _ hget => hget
  rcases check_completes hself with ⟨hdecided, -⟩ | ⟨g, hg, hmissing⟩
  · exact absurd h (hdecided f)
  · obtain rfl := Outcome.unbound.inj (h.symm.trans hg)
    exact hmissing

theorem allBoundHold_iff {cs : List Constraint} {b : Bindings} :
    allBoundHold cs b = true ↔ ∀ c ∈ cs, c.check b ≠ .violated := by
  have hviolated : ∀ o : Outcome, (!o.isViolated) = true ↔ o ≠ .violated := by
    intro o
    cases o <;> simp [Outcome.isViolated]
  unfold allBoundHold
  simp only [List.all_eq_true, hviolated]

/-- What is said of a constraint stands when more becomes known, unless it is undecided; then it waits for a field that
it refers to and that has no value.  So a constraint whose fields all have values is decided, and what violates one of
several constraints does so whatever else becomes known. -/
theorem outcomes_stable {b b' : Bindings} (hextends : ∀ f v, b.get? f = some v → b'.get? f = some v) :
    (∀ c : Constraint, (∀ f, c.check b ≠ .unbound f) → c.check b' = c.check b) ∧
    (∀ (c : Constraint) f, c.check b = .unbound f → f ∈ c.expr.fields ∧ b.get? f = none) ∧
    (∀ c : Constraint, (∀ f ∈ c.expr.fields, ∃ v, b.get? f = some v) → ∀ f, c.check b ≠ .unbound f) ∧
    ∀ cs, allBoundHold cs b = false → allBoundHold cs b' = false := by
  refine ⟨fun c hdecided => ?_, fun c f => missing_of_check_eq_unbound, fun c hbound f hf => ?_, fun cs hfails => ?_⟩
  · rcases check_completes fun f _ v => hextends f v with ⟨-, heq⟩ | ⟨f, hf, -⟩
    · exact heq
    · exact absurd hf (hdecided f)
  · obtain ⟨hfield, hmissing⟩ := missing_of_check_eq_unbound hf
    obtain ⟨v, hv⟩ := hbound f hfield
    cases hmissing.symm.trans hv
  · apply Bool.eq_false_iff.2
    intro hholds
    refine Bool.eq_false_iff.1 hfails (allBoundHold_iff.2 fun c hc hviolated => ?_)
    exact allBoundHold_iff.1 hholds c hc (check_violated_mono (fun f _ v => hextends f v) hviolated)

/-- A route does not begin and end in the same port. -/
def awayFromHome : Constraint where
  source := "from != 'Oslo' or to != 'Oslo'"
  expr := .binary .or (.binary .ne (.field "from") (.text "Oslo")) (.binary .ne (.field "to") (.text "Oslo"))
  fields := ["from", "to"]

theorem outcomes_stable_ports :
    awayFromHome.check ((Dict.empty.insert "from" "Bergen").insert "to" "Oslo") = .satisfied ∧
      awayFromHome.check (Dict.empty.insert "from" "Oslo") = .unbound "to" ∧ "to" ∈ awayFromHome.expr.fields ∧
      allBoundHold [awayFromHome] (((Dict.empty.insert "from" "Oslo").insert "to" "Oslo").insert "via" "Bergen") =
        false := by
  have hbergen : awayFromHome.check (Dict.empty.insert "from" "Bergen") = .satisfied := by decide +kernel
  have hoslo : awayFromHome.check (Dict.empty.insert "from" "Oslo") = .unbound "to" := by decide +kernel
  have hfails : allBoundHold [awayFromHome] ((Dict.empty.insert "from" "Oslo").insert "to" "Oslo") = false := by
    decide +kernel
  refine ⟨?_, hoslo, ?_, ?_⟩
  · have hdecided : ∀ f, awayFromHome.check (Dict.empty.insert "from" "Bergen") ≠ .unbound f := by
      intro f
      rw [hbergen]
      exact nofun
    have hextends := Bindings.extends_insert (b := Dict.empty.insert "from" "Bergen") (k := "to") (w := "Oslo") rfl
    exact ((outcomes_stable hextends).1 awayFromHome hdecided).trans hbergen
  · exact (missing_of_check_eq_unbound hoslo).1
  · exact (outcomes_stable (Bindings.extends_insert rfl)).2.2.2 [awayFromHome] hfails

end Constraint

namespace Config

variable {c : Config} {plan : Plan}

theorem compileConstraint_eq_ok {id : String} {fields : List String} {position : Nat} {source : String}
    {k : Constraint} (h : compileConstraint id fields position source = .ok k) :
    (∀ f ∈ k.expr.fields, f ∈ fields) ∧ k.fields = Graph.sorted k.expr.fields := by
  unfold compileConstraint at h
  split at h
  · cases h
  · split at h
    · cases h
    · rename_i hrename
      cases h
      exact ⟨Expr.fields_of_rename? (fun hfound => findField_mem (mapError_eq_ok.1 hfound)) _ hrename, rfl⟩

theorem mem_constraints {id : String} {d : RelationshipDef} {k : Constraint}
    (h : k ∈ (compileConstraints id d).2) :
    (∀ f ∈ k.expr.fields, f ∈ d.fields) ∧ k.fields = Graph.sorted k.expr.fields := by
  obtain ⟨read, hread, hok⟩ := List.mem_filterMap.1 h
  obtain ⟨p, -, rfl⟩ := List.mem_map.1 hread
  split at hok
  · cases hok
  · rename_i hcompiled
    cases hok
    exact compileConstraint_eq_ok hcompiled

/-- The constraints of an accepted configuration list the fields that they refer to. -/
theorem constraints_listFields (h : c.compile = .ok plan) {r : Relationship}
    (hr : r ∈ plan.relationships) {k : Constraint} (hk : k ∈ r.constraints) : k.ListsFields := by
  obtain ⟨-, rfl⟩ := compile_eq_ok h
  obtain ⟨e, -, hsome⟩ := mem_relationships.1 hr
  obtain ⟨_, _, -, rfl⟩ := compileRelationship_eq_some hsome
  intro f
  rw [(mem_constraints hk).2, Graph.mem_sorted]

end Config
end Specimen
