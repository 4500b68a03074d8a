import Specimen.Constraint.Evaluation
import Specimen.Proofs.Dict
import Specimen.Proofs.Except

/-!
# Constraints under other names

Replacing the names in an expression goes through its fields from left to right and stops at the first that has no
replacement.  The meaning is kept: the expression with the new names has, over some bindings, what the old one has over
bindings that give to each name what its replacement stands for.

What two expressions have that differ only in their names is compared once for all, by `eval_related`: a relation
between results that going on with related results keeps holds of what they have if it holds at their fields.
-/

namespace Specimen

/-- A computation that does not fail for want of a field. -/
def Settled {α : Type} (x : Except EvalError α) : Prop := ∀ name, x ≠ .error (.unbound name)

namespace Settled

variable {α β : Type}

theorem ok (v : α) : Settled (.ok v : Except EvalError α) := nofun

theorem bind {x : Except EvalError α} {g : α → Except EvalError β} (hx : Settled x) (hg : ∀ v, Settled (g v)) :
    Settled (x >>= g) := by
  cases x with
  | ok v => exact hg v
  | error e => exact fun name hname => hx name (congrArg Except.error (Except.error.inj hname))

end Settled

theorem truthOperand_settled (v : Value) : Settled (truthOperand v) := by
  unfold truthOperand
  split <;> exact nofun

theorem UnaryOp.apply_settled (op : UnaryOp) (v : Value) : Settled (op.apply v) := by
  cases op <;> (unfold apply; dsimp only; split <;> exact nofun)

theorem BinaryOp.apply_settled (op : BinaryOp) (v w : Value) : Settled (op.apply v w) := by
  cases op with
  | add | sub =>
      unfold apply
      dsimp only
      split <;> exact nofun
  | and | or | eq | ne | lt | le | gt | ge => exact nofun

theorem dateOf_settled (text : String) : Settled (dateOf text) := by
  unfold dateOf
  dsimp only
  split
  · exact nofun
  · split
    · exact nofun
    · split <;> exact nofun

namespace Builtin

theorem argument_settled (function : Builtin) (args : List Value) (index : Nat) :
    Settled (function.argument args index) := by
  unfold argument
  split <;> exact nofun

theorem apply_settled (function : Builtin) (args : List Value) : Settled (function.apply args) := by
  refine (argument_settled function args 0).bind fun first => ?_
  cases function with
  | length | lower | upper => exact nofun
  | abs =>
      dsimp only
      split <;> exact nofun
  | dateDiff =>
      refine (dateOf_settled _).bind fun start => ?_
      refine (argument_settled .dateDiff args 1).bind fun second => ?_
      exact (dateOf_settled _).bind fun finish => .ok _
  | contains => exact (argument_settled .contains args 1).bind fun second => .ok _
  | startsWith => exact (argument_settled .startsWith args 1).bind fun second => .ok _
  | endsWith => exact (argument_settled .endsWith args 1).bind fun second => .ok _

end Builtin

/-- What an operator makes of the value of its left side and of its right side, at which it may not look. -/
def BinaryOp.after (op : BinaryOp) (left : Value) (right : Except EvalError Value) : Except EvalError Value :=
  match op with
  | .and => do
    let a ← truthOperand left
    if a then return .bool (← truthOperand (← right)) else return .bool false
  | .or => do
    let a ← truthOperand left
    if a then return .bool true else return .bool (← truthOperand (← right))
  | op => do op.apply left (← right)

theorem Expr.eval_binary (b : Bindings) (op : BinaryOp) (l r : Expr) :
    (binary op l r).eval b = l.eval b >>= fun left => op.after left (r.eval b) := by
  cases op <;> rw [eval] <;> first | rfl | exact nofun

/-- A relation between results that holds of whatever does not fail for want of a field and itself, and that going on
with related results keeps. -/
structure Sequenced (R : (α : Type) → Except EvalError α → Except EvalError α → Prop) : Prop where
  settled {α : Type} {x : Except EvalError α} (h : Settled x) : R α x x
  bind {α β : Type} {x y : Except EvalError α} {g k : α → Except EvalError β} (h : R α x y)
    (hgo : ∀ v, R β (g v) (k v)) : R β (x >>= g) (y >>= k)

namespace Sequenced

variable {R : (α : Type) → Except EvalError α → Except EvalError α → Prop}

theorem after (hR : Sequenced R) (op : BinaryOp) (left : Value) {x y : Except EvalError Value} (h : R Value x y) :
    R Value (op.after left x) (op.after left y) := by
  have htruth := hR.settled (truthOperand_settled left)
  have hright : R Value (do return .bool (← truthOperand (← x))) (do return .bool (← truthOperand (← y))) :=
    hR.bind h fun v => hR.settled ((truthOperand_settled v).bind fun _ => .ok _)
  cases op with
  | and =>
      refine hR.bind htruth fun a => ?_
      cases a with
      | true => exact hright
      | false => exact hR.settled (.ok _)
  | or =>
      refine hR.bind htruth fun a => ?_
      cases a with
      | true => exact hR.settled (.ok _)
      | false => exact hright
  | eq | ne | lt | le | gt | ge | add | sub => exact hR.bind h fun v => hR.settled (BinaryOp.apply_settled _ left v)

end Sequenced

namespace Expr

variable {ε : Type} {f : String → Except ε String}

mutual

/-- The fields of an expression are replaced one after the other, from left to right. -/
theorem fields_rename? (e : Expr) : fields <$> e.rename? f = e.fields.mapM f := by
  cases e with
  | number x | text s | bool b => rfl
  | field name => cases h : f name <;> simp [rename?, fields, h]
  | unary op e =>
      rw [rename?, fields, ← fields_rename? e]
      simp only [bind_pure_comp, Functor.map_map, fields]
  | binary op l r =>
      rw [rename?, fields, List.mapM_append, ← fields_rename? l, ← fields_rename? r]
      simp only [map_bind, bind_map_left, bind_pure_comp, Functor.map_map, fields]
  | call function args =>
      rw [rename?, fields, ← fields_renameArgs? args]
      simp only [bind_pure_comp, Functor.map_map, fields]

theorem fields_renameArgs? (args : List Expr) : fieldsOfArgs <$> renameArgs? f args = (fieldsOfArgs args).mapM f := by
  cases args with
  | nil => rfl
  | cons e rest =>
      rw [renameArgs?, fieldsOfArgs, List.mapM_append, ← fields_rename? e, ← fields_renameArgs? rest]
      simp only [map_bind, bind_map_left, bind_pure_comp, Functor.map_map, fieldsOfArgs]

end

mutual

/-- Nothing changes when every name is replaced by itself. -/
theorem rename?_self (e : Expr) : e.rename? (Except.ok : String → Except ε String) = .ok e := by
  cases e with
  | number x | text s | bool b | field name => rfl
  | unary op e =>
      rw [rename?, rename?_self e]
      rfl
  | binary op l r =>
      rw [rename?, rename?_self l, rename?_self r]
      rfl
  | call function args =>
      rw [rename?, renameArgs?_self args]
      rfl

theorem renameArgs?_self (args : List Expr) : renameArgs? (Except.ok : String → Except ε String) args = .ok args := by
  cases args with
  | nil => rfl
  | cons e rest =>
      rw [renameArgs?, rename?_self e, renameArgs?_self rest]
      rfl

end

variable {R : (α : Type) → Except EvalError α → Except EvalError α → Prop} {b b' : Bindings}

mutual

/-- What an expression has and what it has under other names are related if this holds at its fields. -/
theorem eval_related (hR : Sequenced R) (e : Expr) {renamed : Expr} (hrename : e.rename? f = .ok renamed)
    (hfield : ∀ x ∈ e.fields, ∀ y, f x = .ok y → R Value ((field x).eval b) ((field y).eval b')) :
    R Value (e.eval b) (renamed.eval b') := by
  cases e with
  | number x | text s | bool v =>
      cases hrename
      exact hR.settled (.ok _)
  | field name =>
      obtain ⟨y, hy, ⟨⟩⟩ := Except.bind_eq_ok.1 hrename
      exact hfield name (List.mem_singleton_self name) y hy
  | unary op e =>
      obtain ⟨operand, hoperand, ⟨⟩⟩ := Except.bind_eq_ok.1 hrename
      have hrelated := eval_related hR e hoperand hfield
      exact hR.bind hrelated fun v => hR.settled (op.apply_settled v)
  | binary op l r =>
      obtain ⟨left, hleft, hrename⟩ := Except.bind_eq_ok.1 hrename
      obtain ⟨right, hright, ⟨⟩⟩ := Except.bind_eq_ok.1 hrename
      have hl := eval_related hR l hleft fun x hx => hfield x (List.mem_append_left _ hx)
      have hr := eval_related hR r hright fun x hx => hfield x (List.mem_append_right _ hx)
      rw [eval_binary, eval_binary]
      exact hR.bind hl fun v => hR.after op v hr
  | call function args =>
      obtain ⟨renamedArgs, hargs, ⟨⟩⟩ := Except.bind_eq_ok.1 hrename
      have hrelated := evalArgs_related hR args hargs hfield
      exact hR.bind hrelated fun vs => hR.settled (function.apply_settled vs)

theorem evalArgs_related (hR : Sequenced R) (args : List Expr) {renamed : List Expr}
    (hrename : renameArgs? f args = .ok renamed)
    (hfield : ∀ x ∈ fieldsOfArgs args, ∀ y, f x = .ok y → R Value ((field x).eval b) ((field y).eval b')) :
    R (List Value) (evalArgs b args) (evalArgs b' renamed) := by
  cases args with
  | nil =>
      cases hrename
      exact hR.settled (.ok _)
  | cons e rest =>
      obtain ⟨first, hfirst, hrename⟩ := Except.bind_eq_ok.1 hrename
      obtain ⟨others, hothers, ⟨⟩⟩ := Except.bind_eq_ok.1 hrename
      have he := eval_related hR e hfirst fun x hx => hfield x (List.mem_append_left _ hx)
      have hrest := evalArgs_related hR rest hothers fun x hx => hfield x (List.mem_append_right _ hx)
      refine hR.bind he fun v => ?_
      exact hR.bind hrest fun vs => hR.settled (.ok _)

end

end Expr

namespace EvalError

/-- What was found, under the new name of a field that has no value. -/
def rename {ε : Type} (f : String → Except ε String) : EvalError → EvalError
  | .unbound name => .unbound (((f name).toOption).getD name)
  | e => e

variable {ε : Type} {f : String → Except ε String}

theorem mapError_rename_of_settled {α : Type} {x : Except EvalError α} (h : Settled x) :
    x.mapError (rename f) = x := by
  cases x with
  | ok v => rfl
  | error e =>
      cases e with
      | unbound name => exact absurd rfl (h name)
      | notNeedsBool | negNeedsNumber | connectiveNeedsBool | sumNeedsNumbers | absNeedsNumber | missingArgument _
        | notADate _ => rfl

/-- To be the same up to the names of fields is kept by going on. -/
theorem sequenced_rename (f : String → Except ε String) :
    Sequenced fun _ x y => y = x.mapError (rename f) where
  settled h := (mapError_rename_of_settled h).symm
  bind {α β x y g k} h hgo := by
    cases x with
    | ok v => exact h ▸ hgo v
    | error e => exact h ▸ rfl

end EvalError

/-- Bindings give to several names what the replacements of these stand for in other bindings. -/
def Bindings.GiveUnder {ε : Type} (f : String → Except ε String) (names : List String) (b before : Bindings) : Prop :=
  ∀ x ∈ names, ∀ y, f x = .ok y → before.get? x = b.get? y

theorem Bindings.exists_giveUnder {ε : Type} (f : String → Except ε String) (names : List String) (b : Bindings) :
    ∃ before, GiveUnder f names b before := by
  let value? := fun x => (f x).toOption.bind b.get?
  let give := fun (before : Bindings) x => (value? x).elim before (before.insert x)
  have hgive : ∀ before x, give before x = (value? x).elim before (before.insert x) := fun _ _ => rfl
  refine ⟨names.foldl give Dict.empty, fun x hx y hy => ?_⟩
  rw [Dict.get?_foldl_insert value? hgive, if_pos hx, Dict.get?_empty, Option.or_none]
  simp [value?, hy, Except.toOption]

namespace Expr

variable {ε : Type} {f : String → Except ε String} {e renamed : Expr}

/-- The fields of an expression under other names are the replacements of its fields. -/
theorem forall₂_fields (h : e.rename? f = .ok renamed) :
    List.Forall₂ (fun x y => f x = .ok y) e.fields renamed.fields := by
  have hfields := fields_rename? (f := f) e
  rw [h] at hfields
  exact List.mapM_eq_ok_iff.1 hfields.symm

theorem rename?_eq_error_iff {err : ε} : e.rename? f = .error err ↔
    ∃ before x after, e.fields = before ++ x :: after ∧ (∀ y ∈ before, ∃ z, f y = .ok z) ∧ f x = .error err := by
  rw [← List.mapM_eq_error_iff, ← fields_rename?]
  cases e.rename? f with
  | ok renamed => exact ⟨nofun, nofun⟩
  | error err' => exact ⟨fun h => congrArg _ (Except.error.inj h), fun h => congrArg _ (Except.error.inj h)⟩

/-- Under other names, an expression has what it has over bindings that give to each name what its replacement
stands for. -/
theorem eval_rename (h : e.rename? f = .ok renamed) {b before : Bindings}
    (hbefore : Bindings.GiveUnder f e.fields b before) :
    renamed.eval b = (e.eval before).mapError (EvalError.rename f) := by
  refine eval_related (EvalError.sequenced_rename f) e h fun x hx y hy => ?_
  rw [eval, eval, hbefore x hx y hy]
  cases b.get? y with
  | some s => rfl
  | none => simp [Except.mapError, EvalError.rename, hy, Except.toOption]

/-- Names cannot be replaced exactly if one of the fields has no replacement, and the first of these is why.  Else
the fields are replaced one by one, and the expression has, over any bindings, what the one with the old names has
over those that give to each name what its replacement stands for: the same value or the same error, where a field
without a value is named as it is replaced. -/
theorem renaming_commutes {ε : Type} (f : String → Except ε String) (e : Expr) :
    (∀ err, e.rename? f = .error err ↔ ∃ before x after, e.fields = before ++ x :: after ∧
      (∀ y ∈ before, ∃ z, f y = .ok z) ∧ f x = .error err) ∧
    ∀ renamed, e.rename? f = .ok renamed →
      List.Forall₂ (fun x y => f x = .ok y) e.fields renamed.fields ∧
      ∀ b, (∃ before, Bindings.GiveUnder f e.fields b before) ∧
        ∀ before, Bindings.GiveUnder f e.fields b before →
          renamed.eval b = (e.eval before).mapError (EvalError.rename f) := by
  refine ⟨fun err => rename?_eq_error_iff, fun renamed hrenamed => ⟨forall₂_fields hrenamed, fun b => ⟨?_, ?_⟩⟩⟩
  · exact Bindings.exists_giveUnder f e.fields b
  · exact fun before hbefore => eval_rename hrenamed hbefore

/-- The full names of two fields. -/
def portNames (name : String) : Except String String :=
  if name = "from" then .ok "Route/From" else if name = "to" then .ok "Route/To" else .error name

/-- A route does not lead to where it begins. -/
def differentPorts : Expr := .binary .ne (.field "from") (.field "to")

theorem renaming_commutes_ports : ∃ renamed, differentPorts.rename? portNames = .ok renamed ∧
    renamed.fields = ["Route/From", "Route/To"] ∧
    renamed.eval (Dict.empty.insert "Route/From" "Oslo") = .error (.unbound "Route/To") ∧
    (Expr.binary .and differentPorts (.field "via")).rename? portNames = .error "via" := by
  have hrenamed : differentPorts.rename? portNames =
      .ok (.binary .ne (.field "Route/From") (.field "Route/To")) := by
    rfl
  obtain ⟨-, hcommutes⟩ := renaming_commutes portNames differentPorts
  obtain ⟨-, hmeaning⟩ := hcommutes _ hrenamed
  refine ⟨_, hrenamed, rfl, ?_, ?_⟩
  · obtain ⟨-, heval⟩ := hmeaning (Dict.empty.insert "Route/From" "Oslo")
    have hbefore : Bindings.GiveUnder portNames differentPorts.fields (Dict.empty.insert "Route/From" "Oslo")
        (Dict.empty.insert "from" "Oslo") := by
      intro x hx y hy
      rcases List.mem_pair.1 hx with rfl | rfl
      · cases hy
        rfl
      · cases hy
        rfl
    rw [heval _ hbefore]
    rfl
  · refine ((renaming_commutes portNames _).1 "via").2 ⟨["from", "to"], "via", [], rfl, ?_, rfl⟩
    simp [portNames]

end Expr
end Specimen
