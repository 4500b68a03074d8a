import Specimen.Proofs.Constraint.Grammar

/-!
# Parsing what the grammar derives

Every expression that the grammar derives from tokens is read from them, and nothing else is.

A rule of the parser takes as many tokens as it can.  It reads a derivation to its end when the tokens
behind it cannot go on with the rule (`Ends`); the operators between operands are such tokens for the rule
of the operands.  Between two tokens the rules call each other only so deep, which the weight of a rule
counts, so ten units of fuel for each token are enough.
-/

namespace Specimen
namespace Parse

variable {k o : Level} {finish fuel : Nat} {ts : List Token} {rest : Tokens} {e : Expr}

/-! ## What can stand behind a derivation -/

/-- How deep a rule of the parser calls others before it takes a token; weaker rules weigh more. -/
def Level.weight : Level → Nat
  | .primary => 1
  | .sign => 2
  | .sum => 4
  | .comparison => 5
  | .not => 6
  | .and => 8
  | .or => 10

theorem Chains.weight_lt (hk : Chains k o) : o.weight + 1 < k.weight := by
  cases hk <;> decide

/-- Tokens with which a rule cannot go on: they neither open the arguments of a call nor continue this rule
or a stronger one. -/
structure Ends (k : Level) (ts : Tokens) : Prop where
  call : ∀ here rest, ts ≠ ⟨.openParen, here⟩ :: rest
  joint : ∀ p o, Chains p o → p.weight ≤ k.weight → joint? p ts = none
  comparison : Level.comparison.weight ≤ k.weight → comparison? ts = none

theorem Ends.mono {ts : Tokens} (h : Ends k ts) (hle : o.weight ≤ k.weight) : Ends o ts where
  call := h.call
  joint p q hp hweight := h.joint p q hp (Nat.le_trans hweight hle)
  comparison hweight := h.comparison (Nat.le_trans hweight hle)

theorem joint?_eq_none {t : Located} (hk : Chains k o) (h : ∀ op, ¬ Joins k t.token op) :
    joint? k (t :: rest) = none := by
  refine Option.eq_none_iff_forall_ne_some.2 fun p hp => ?_
  obtain ⟨t', heq, ht⟩ := (joint?_eq_some hk).1 hp
  cases heq
  exact h p.1 ht

theorem comparison?_eq_none {t : Located} (h : ∀ op, ¬ Compares t.token op) :
    comparison? (t :: rest) = none := by
  refine Option.eq_none_iff_forall_ne_some.2 fun p hp => ?_
  obtain ⟨t', heq, ht⟩ := comparison?_eq_some.1 hp
  cases heq
  exact h p.1 ht

theorem ends_nil (k : Level) : Ends k [] where
  call _ _ := by simp
  joint p o hp _ := by cases hp <;> rfl
  comparison _ := rfl

/-- A token that is neither an opening bracket nor joins nor compares ends every rule. -/
theorem ends_of_token {t : Located} (hopen : t.token ≠ .openParen)
    (hjoint : ∀ p o op, Chains p o → p.weight ≤ k.weight → ¬ Joins p t.token op)
    (hcompare : Level.comparison.weight ≤ k.weight → ∀ op, ¬ Compares t.token op) :
    Ends k (t :: rest) where
  call here after heq := by
    cases heq
    exact hopen rfl
  joint p o hp hweight := joint?_eq_none hp fun op => hjoint p o op hp hweight
  comparison hweight := comparison?_eq_none (hcompare hweight)

theorem ends_close (k : Level) (here : Nat) : Ends k (⟨.closeParen, here⟩ :: rest) := by
  apply ends_of_token
  · exact Token.noConfusion
  · intro p o op _ _ h
    cases h
  · intro _ op h
    cases h

theorem ends_comma (k : Level) (here : Nat) : Ends k (⟨.comma, here⟩ :: rest) := by
  apply ends_of_token
  · exact Token.noConfusion
  · intro p o op _ _ h
    cases h
  · intro _ op h
    cases h

/-- A token joins the operands of one rule only. -/
theorem Joins.level_eq {p : Level} {t : Token} {op op' : BinaryOp} (h : Joins k t op)
    (h' : Joins p t op') : p = k := by
  cases h with
  | orWord hs =>
      cases h' with
      | orWord => rfl
      | andWord hs' => exact absurd (hs.symm.trans hs') (by decide)
  | andWord hs =>
      cases h' with
      | orWord hs' => exact absurd (hs.symm.trans hs') (by decide)
      | andWord => rfl
  | orSymbol | andSymbol | plus | minus =>
      cases h'
      all_goals rfl

theorem Compares.not_joins {t : Token} {op op' : BinaryOp} (h : Compares t op) : ¬ Joins k t op' := by
  intro hjoint
  cases hjoint <;> cases h

/-- An operator between operands ends the rule of the operands. -/
theorem Joins.ends {t : Located} {op : BinaryOp} (h : Joins k t.token op) (hk : Chains k o) :
    Ends o (t :: rest) := by
  have hweight := hk.weight_lt
  apply ends_of_token
  · intro hopen
    rw [hopen] at h
    cases h
  · intro p q op' hp hle hjoint
    have hsame := h.level_eq hjoint
    subst hsame
    omega
  · intro _ op' hcompare
    exact hcompare.not_joins h

theorem Compares.ends {t : Located} {op : BinaryOp} (h : Compares t.token op) :
    Ends .sum (t :: rest) := by
  apply ends_of_token
  · intro hopen
    rw [hopen] at h
    cases h
  · intro p q op' _ _ hjoint
    exact h.not_joins hjoint
  · intro hweight
    exact absurd hweight (by decide)

/-! ## How derivations begin -/

theorem arity_pos (function : Builtin) : 0 < function.arity := by
  cases function <;> decide

/-- A derivation has a first token, which is not a closing bracket, and for the rules below `not` not an
exclamation mark. -/
theorem Derives.begins (h : Derives k ts e) : ∃ t after, ts = t :: after ∧ t ≠ .closeParen ∧
    (k.weight < Level.not.weight → t ≠ .symbol .bang) := by
  induction h with
  | operand hk _ ih =>
      obtain ⟨t, after, rfl, hclose, hbang⟩ := ih
      refine ⟨t, after, rfl, hclose, fun hweight => hbang ?_⟩
      have := hk.weight_lt
      omega
  | join hk _ _ _ ihl _ =>
      obtain ⟨t, after, rfl, hclose, hbang⟩ := ihl
      exact ⟨t, _, rfl, hclose, hbang⟩
  | negation ht _ _ =>
      refine ⟨_, _, rfl, ?_, fun hweight => absurd hweight (by decide)⟩
      rintro rfl
      cases ht
  | plain _ _ ih =>
      obtain ⟨t, after, rfl, hclose, hbang⟩ := ih
      exact ⟨t, after, rfl, hclose, fun _ => hbang (by decide)⟩
  | single _ ih =>
      obtain ⟨t, after, rfl, hclose, hbang⟩ := ih
      exact ⟨t, after, rfl, hclose, fun _ => hbang (by decide)⟩
  | compare _ _ _ ihl _ =>
      obtain ⟨t, after, rfl, hclose, hbang⟩ := ihl
      exact ⟨t, _, rfl, hclose, fun _ => hbang (by decide)⟩
  | unsigned _ ih =>
      obtain ⟨t, after, rfl, hclose, hbang⟩ := ih
      exact ⟨t, after, rfl, hclose, fun _ => hbang (by decide)⟩
  | opposite | number | text | bool | field | call | group =>
      exact ⟨_, _, rfl, by simp, by simp⟩

/-! ## What is derived is read -/

/-- However the tokens are placed, a rule with enough fuel reads the expression from them. -/
def Parses (k : Level) (ts : List Token) (e : Expr) : Prop :=
  ∀ (finish fuel : Nat) (used rest : Tokens), used.map (·.token) = ts → Ends k rest →
    10 * ts.length + k.weight ≤ fuel → run finish k fuel (used ++ rest) = .ok (e, rest)

/-- A rule that repeats comes to the end of the expression and goes on from there.  The fuel that is left
lacks at most one unit for each token. -/
def Resumes (k : Level) (ts : List Token) (e : Expr) : Prop :=
  ∀ (o : Level) (finish fuel : Nat) (used rest : Tokens), Chains k o → used.map (·.token) = ts →
    Ends o rest → 10 * ts.length + k.weight ≤ fuel → ∃ left, fuel ≤ left + ts.length + 1 ∧
      ∀ result, tail finish k left e rest = .ok result → run finish k fuel (used ++ rest) = .ok result

theorem Resumes.parses (hk : Chains k o) (h : Resumes k ts e) : Parses k ts e := by
  intro finish fuel used rest hused hends hfuel
  have hweight := hk.weight_lt
  have hle : o.weight ≤ k.weight := by omega
  obtain ⟨left, hleft, hresult⟩ := h o finish fuel used rest hk hused (hends.mono hle) hfuel
  apply hresult
  obtain ⟨left, rfl⟩ : ∃ n, left = n + 1 := ⟨left - 1, by omega⟩
  exact (tail_eq_ok hk).2 (.inl ⟨hends.joint k o hk (Nat.le_refl _), rfl, rfl⟩)

theorem resumes_operand (h : Parses o ts e) (hk : Chains k o) : Resumes k ts e := by
  intro o' finish fuel used rest hk' hused hends hfuel
  have hsame : o' = o := by cases hk <;> cases hk' <;> rfl
  subst hsame
  have hweight := hk.weight_lt
  obtain ⟨fuel, rfl⟩ : ∃ n, fuel = n + 1 := ⟨fuel - 1, by omega⟩
  refine ⟨fuel, by omega, fun result hresult => ?_⟩
  exact (run_chain_eq_ok hk).2 ⟨e, rest, h finish fuel used rest hused hends (by omega), hresult⟩

theorem Resumes.join {ls rs : List Token} {t : Token} {op : BinaryOp} {l r : Expr}
    (hl : Resumes k ls l) (hr : Parses o rs r) (hk : Chains k o) (ht : Joins k t op) :
    Resumes k (ls ++ t :: rs) (.binary op l r) := by
  intro o' finish fuel used rest hk' hused hends hfuel
  have hsame : o' = o := by cases hk <;> cases hk' <;> rfl
  subst hsame
  obtain ⟨first, others, rfl, hfirst, hothers⟩ := List.map_eq_append_iff.1 hused
  obtain ⟨joint, second, rfl, rfl, hsecond⟩ := List.map_eq_cons_iff.1 hothers
  rw [List.length_append, List.length_cons] at hfuel ⊢
  have hweight := hk.weight_lt
  obtain ⟨left, hleft, hresult⟩ := hl o' finish fuel first (joint :: (second ++ rest)) hk hfirst
    (ht.ends hk) (by omega)
  obtain ⟨left, rfl⟩ : ∃ n, left = n + 1 := ⟨left - 1, by omega⟩
  refine ⟨left, by omega, fun result htail => ?_⟩
  have hright := hr finish left second rest hsecond hends (by omega)
  have hjoint : joint? k (joint :: (second ++ rest)) = some (op, second ++ rest) :=
    (joint?_eq_some hk).2 ⟨joint, rfl, ht⟩
  have hrun := hresult result ((tail_eq_ok hk).2 (.inr ⟨op, _, r, rest, hjoint, hright, htail⟩))
  simpa using hrun

theorem parses_negation {t : Token} (ht : Negates t) (h : Parses .not ts e) :
    Parses .not (t :: ts) (.unary .not e) := by
  intro finish fuel used rest hused hends hfuel
  obtain ⟨first, others, rfl, rfl, hothers⟩ := List.map_eq_cons_iff.1 hused
  rw [List.length_cons] at hfuel
  obtain ⟨fuel, rfl⟩ : ∃ n, fuel = n + 1 := ⟨fuel - 1, by omega⟩
  have hoperand := h finish fuel others rest hothers hends (by omega)
  exact run_not_eq_ok.2 (.inl ⟨first, others ++ rest, e, rfl, ht, hoperand, rfl⟩)

theorem parses_plain (hplain : StartsPlain ts) (hderived : Derives .comparison ts e)
    (h : Parses .comparison ts e) : Parses .not ts e := by
  intro finish fuel used rest hused hends hfuel
  obtain ⟨t, after, rfl, -, hbang⟩ := hderived.begins
  obtain ⟨first, others, rfl, rfl, -⟩ := List.map_eq_cons_iff.1 hused
  have hweight : Level.not.weight = Level.comparison.weight + 1 := rfl
  obtain ⟨fuel, rfl⟩ : ∃ n, fuel = n + 1 := ⟨fuel - 1, by omega⟩
  have hoperand := h finish fuel (first :: others) rest hused (hends.mono (by omega)) (by omega)
  refine run_not_eq_ok.2 (.inr ⟨?_, hoperand⟩)
  intro t mid heq hnegates
  have hsame : t = first := (List.cons.inj heq).1.symm
  subst hsame
  generalize htoken : t.token = token at hnegates
  cases hnegates with
  | word hs => exact hplain _ after (by rw [htoken]) hs
  | symbol => exact hbang (by decide) htoken

theorem parses_single (h : Parses .sum ts e) : Parses .comparison ts e := by
  intro finish fuel used rest hused hends hfuel
  have hweight : Level.comparison.weight = Level.sum.weight + 1 := rfl
  obtain ⟨fuel, rfl⟩ : ∃ n, fuel = n + 1 := ⟨fuel - 1, by omega⟩
  have hsum := h finish fuel used rest hused (hends.mono (by omega)) (by omega)
  exact run_comparison_eq_ok.2 ⟨e, rest, hsum, .inl ⟨hends.comparison (Nat.le_refl _), rfl, rfl⟩⟩

theorem parses_compare {ls rs : List Token} {t : Token} {op : BinaryOp} {l r : Expr}
    (hl : Parses .sum ls l) (ht : Compares t op) (hr : Parses .sum rs r) :
    Parses .comparison (ls ++ t :: rs) (.binary op l r) := by
  intro finish fuel used rest hused hends hfuel
  obtain ⟨first, others, rfl, hfirst, hothers⟩ := List.map_eq_append_iff.1 hused
  obtain ⟨middle, second, rfl, rfl, hsecond⟩ := List.map_eq_cons_iff.1 hothers
  rw [List.length_append, List.length_cons] at hfuel
  have hweight : Level.comparison.weight = Level.sum.weight + 1 := rfl
  obtain ⟨fuel, rfl⟩ : ∃ n, fuel = n + 1 := ⟨fuel - 1, by omega⟩
  have hleft := hl finish fuel first (middle :: (second ++ rest)) hfirst ht.ends (by omega)
  have hright := hr finish fuel second rest hsecond (hends.mono (by omega)) (by omega)
  have hop : comparison? (middle :: (second ++ rest)) = some (op, second ++ rest) :=
    comparison?_eq_some.2 ⟨middle, rfl, ht⟩
  have hrun := run_comparison_eq_ok.2 ⟨l, _, hleft, .inr ⟨op, _, r, hop, hright, rfl⟩⟩
  simpa using hrun

theorem parses_opposite (h : Parses .sign ts e) :
    Parses .sign (.symbol .minus :: ts) (.unary .neg e) := by
  intro finish fuel used rest hused hends hfuel
  obtain ⟨⟨token, here⟩, others, rfl, rfl, hothers⟩ := List.map_eq_cons_iff.1 hused
  rw [List.length_cons] at hfuel
  obtain ⟨fuel, rfl⟩ : ∃ n, fuel = n + 1 := ⟨fuel - 1, by omega⟩
  have hoperand := h finish fuel others rest hothers hends (by omega)
  exact run_sign_eq_ok.2 (.inl ⟨here, others ++ rest, e, rfl, hoperand, rfl⟩)

/-- A primary does not begin with a minus sign. -/
theorem Derives.primary_begins (h : Derives .primary ts e) :
    ∃ t after, ts = t :: after ∧ t ≠ .symbol .minus := by
  cases h with
  | operand hk => cases hk
  | join hk => cases hk
  | number | text | bool | field | call | group => exact ⟨_, _, rfl, Token.noConfusion⟩

theorem parses_unsigned (hderived : Derives .primary ts e) (h : Parses .primary ts e) :
    Parses .sign ts e := by
  intro finish fuel used rest hused hends hfuel
  obtain ⟨t, after, rfl, hminus⟩ := hderived.primary_begins
  obtain ⟨first, others, rfl, rfl, -⟩ := List.map_eq_cons_iff.1 hused
  have hweight : Level.sign.weight = Level.primary.weight + 1 := rfl
  obtain ⟨fuel, rfl⟩ : ∃ n, fuel = n + 1 := ⟨fuel - 1, by omega⟩
  have hprimary := h finish fuel (first :: others) rest hused (hends.mono (by omega)) (by omega)
  refine run_sign_eq_ok.2 (.inr ⟨fun here mid heq => ?_, hprimary⟩)
  rw [(List.cons.inj heq).1] at hminus
  exact hminus rfl

/-- A primary of one token is read in one step. -/
theorem parses_token {t : Token} (h : ∀ finish fuel here rest, Ends .primary rest →
    primary finish (fuel + 1) (⟨t, here⟩ :: rest) = .ok (e, rest)) : Parses .primary [t] e := by
  intro finish fuel used rest hused hends hfuel
  obtain ⟨⟨token, here⟩, others, rfl, rfl, hothers⟩ := List.map_eq_cons_iff.1 hused
  cases List.map_eq_nil_iff.1 hothers
  rw [List.length_singleton] at hfuel
  obtain ⟨fuel, rfl⟩ : ∃ n, fuel = n + 1 := ⟨fuel - 1, by omega⟩
  exact h finish fuel here rest hends

theorem parses_bool {s : String} (b : Bool) (h : Text.lowerAscii s = if b then "true" else "false") :
    Parses .primary [.name s] (.bool b) := by
  apply parses_token
  intro finish fuel here rest _
  cases b with
  | true => simp [primary, h]
  | false => simp [primary, h]

theorem parses_field {s : String} (htrue : Text.lowerAscii s ≠ "true")
    (hfalse : Text.lowerAscii s ≠ "false") : Parses .primary [.name s] (.field s) := by
  apply parses_token
  intro finish fuel here rest hends
  simp only [primary, if_neg htrue, if_neg hfalse]
  split
  · rename_i there after
    exact absurd rfl (hends.call there after)
  · rfl

theorem parses_group (h : Parses .or ts e) : Parses .primary (.openParen :: ts ++ [.closeParen]) e := by
  intro finish fuel used rest hused hends hfuel
  rw [List.cons_append] at hused
  obtain ⟨⟨token, here⟩, others, rfl, rfl, hothers⟩ := List.map_eq_cons_iff.1 hused
  obtain ⟨inner, last, rfl, hinner, hlast⟩ := List.map_eq_append_iff.1 hothers
  obtain ⟨⟨token, there⟩, none, rfl, rfl, hnone⟩ := List.map_eq_cons_iff.1 hlast
  cases List.map_eq_nil_iff.1 hnone
  simp only [List.length_append, List.length_cons, List.length_nil] at hfuel
  have hweight : Level.or.weight = Level.primary.weight + 9 := rfl
  obtain ⟨fuel, rfl⟩ : ∃ n, fuel = n + 1 := ⟨fuel - 1, by omega⟩
  have hread := h finish fuel inner (⟨.closeParen, there⟩ :: rest) hinner (ends_close _ there)
    (by omega)
  have hor : orExpr finish fuel (inner ++ ⟨.closeParen, there⟩ :: rest) =
      .ok (e, ⟨.closeParen, there⟩ :: rest) := hread
  rw [List.cons_append, List.append_assoc, List.cons_append, List.nil_append]
  simp only [run, primary]
  exact bind_eq_ok.2 ⟨_, hor, rfl⟩

theorem argumentList_complete {args : List (List Token × Expr)} (hargs : args ≠ [])
    (h : ∀ a ∈ args, Parses .or a.1 a.2) {used : Tokens}
    (hused : used.map (·.token) = argumentTokens args ++ [.closeParen])
    (hfuel : 10 * used.length + 1 ≤ fuel) :
    argumentList finish fuel (used ++ rest) = .ok (args.map (·.2), rest) := by
  induction args generalizing fuel used with
  | nil => exact absurd rfl hargs
  | cons a args ih =>
      have hweight : Level.or.weight = 10 := rfl
      have ha := h a List.mem_cons_self
      obtain ⟨fuel, rfl⟩ : ∃ n, fuel = n + 1 := ⟨fuel - 1, by omega⟩
      by_cases hlast : args = []
      · subst hlast
        rw [argumentTokens_singleton] at hused
        obtain ⟨first, others, rfl, hfirst, hothers⟩ := List.map_eq_append_iff.1 hused
        obtain ⟨⟨token, here⟩, none, rfl, rfl, hnone⟩ := List.map_eq_cons_iff.1 hothers
        cases List.map_eq_nil_iff.1 hnone
        have hlength := congrArg List.length hfirst
        simp only [List.length_append, List.length_map, List.length_singleton] at hfuel hlength
        have hread : orExpr finish fuel (first ++ ⟨.closeParen, here⟩ :: rest) =
            .ok (a.2, ⟨.closeParen, here⟩ :: rest) :=
          ha finish fuel first _ hfirst (ends_close _ here) (by omega)
        rw [List.append_assoc, List.cons_append, List.nil_append, argumentList]
        exact bind_eq_ok.2 ⟨_, hread, rfl⟩
      · rw [argumentTokens_cons hlast, List.append_assoc, List.cons_append] at hused
        obtain ⟨first, others, rfl, hfirst, hothers⟩ := List.map_eq_append_iff.1 hused
        obtain ⟨⟨token, here⟩, later, rfl, rfl, hlater⟩ := List.map_eq_cons_iff.1 hothers
        have hlength := congrArg List.length hfirst
        simp only [List.length_append, List.length_map, List.length_cons] at hfuel hlength
        have hread : orExpr finish fuel (first ++ ⟨.comma, here⟩ :: (later ++ rest)) =
            .ok (a.2, ⟨.comma, here⟩ :: (later ++ rest)) :=
          ha finish fuel first _ hfirst (ends_comma _ here) (by omega)
        have hothers : argumentList finish fuel (later ++ rest) = .ok (args.map (·.2), rest) :=
          ih hlast (fun b hb => h b (List.mem_cons_of_mem _ hb)) hlater (by omega)
        rw [List.append_assoc, List.cons_append, argumentList]
        exact bind_eq_ok.2 ⟨_, hread, bind_eq_ok.2 ⟨_, hothers, rfl⟩⟩

theorem ofName?_ne {s word : String} {function : Builtin}
    (h : Builtin.ofName? (Text.lowerAscii s) = some function) (hword : Builtin.ofName? word = none) :
    Text.lowerAscii s ≠ word := by
  intro heq
  rw [heq, hword] at h
  cases h

theorem argumentTokens_begins {args : List (List Token × Expr)} (hargs : args ≠ [])
    (h : ∀ a ∈ args, Derives .or a.1 a.2) :
    ∃ t after, argumentTokens args = t :: after ∧ t ≠ .closeParen := by
  cases args with
  | nil => exact absurd rfl hargs
  | cons a args =>
      obtain ⟨t, after, ha, hclose, -⟩ := (h a List.mem_cons_self).begins
      by_cases hlast : args = []
      · subst hlast
        exact ⟨t, after, argumentTokens_singleton.trans ha, hclose⟩
      · rw [argumentTokens_cons hlast, ha]
        exact ⟨t, _, rfl, hclose⟩

theorem parses_call {s : String} {function : Builtin} {args : List (List Token × Expr)}
    (hname : Builtin.ofName? (Text.lowerAscii s) = some function)
    (hderived : ∀ a ∈ args, Derives .or a.1 a.2) (h : ∀ a ∈ args, Parses .or a.1 a.2)
    (harity : args.length = function.arity) :
    Parses .primary (.name s :: .openParen :: argumentTokens args ++ [.closeParen])
      (.call function (args.map (·.2))) := by
  intro finish fuel used rest hused hends hfuel
  rw [List.cons_append, List.cons_append] at hused
  obtain ⟨⟨token, here⟩, others, rfl, rfl, hothers⟩ := List.map_eq_cons_iff.1 hused
  obtain ⟨⟨token, there⟩, inner, rfl, rfl, hinner⟩ := List.map_eq_cons_iff.1 hothers
  have hlength := congrArg List.length hinner
  simp only [List.length_append, List.length_cons, List.length_map, List.length_nil] at hfuel hlength
  obtain ⟨fuel, rfl⟩ : ∃ n, fuel = n + 2 := ⟨fuel - 2, by omega⟩
  have hargs : args ≠ [] := by
    rintro rfl
    exact absurd harity (Nat.ne_of_lt (arity_pos function))
  have hlist : argumentList finish fuel (inner ++ rest) = .ok (args.map (·.2), rest) :=
    argumentList_complete hargs h hinner (by omega)
  have harguments : arguments finish (fuel + 1) (inner ++ rest) = .ok (args.map (·.2), rest) := by
    obtain ⟨t, after, htokens, hclose⟩ := argumentTokens_begins hargs hderived
    rw [htokens, List.cons_append] at hinner
    obtain ⟨first, later, rfl, hfirst, -⟩ := List.map_eq_cons_iff.1 hinner
    rw [List.cons_append] at hlist ⊢
    unfold arguments
    split
    · rename_i heq
      rw [(List.cons.inj heq).1] at hfirst
      exact absurd hfirst.symm hclose
    · exact hlist
  have htrue := ofName?_ne hname (by rfl : Builtin.ofName? "true" = none)
  have hfalse := ofName?_ne hname (by rfl : Builtin.ofName? "false" = none)
  simp only [List.cons_append, run, primary, if_neg htrue, if_neg hfalse, hname]
  refine bind_eq_ok.2 ⟨_, harguments, ?_⟩
  simp [harity, pure, Except.pure]

/-- A rule reads everything that it derives. -/
theorem Derives.complete (h : Derives k ts e) : Parses k ts e ∧ ∀ o, Chains k o → Resumes k ts e := by
  induction h with
  | operand hk _ ih =>
      have hresumes := resumes_operand ih.1 hk
      exact ⟨hresumes.parses hk, fun _ _ => hresumes⟩
  | join hk _ ht _ ihl ihr =>
      have hresumes := (ihl.2 _ hk).join ihr.1 hk ht
      exact ⟨hresumes.parses hk, fun _ _ => hresumes⟩
  | negation ht _ ih => exact ⟨parses_negation ht ih.1, nofun⟩
  | plain hplain hderived ih => exact ⟨parses_plain hplain hderived ih.1, nofun⟩
  | single _ ih => exact ⟨parses_single ih.1, nofun⟩
  | compare _ ht _ ihl ihr => exact ⟨parses_compare ihl.1 ht ihr.1, nofun⟩
  | opposite _ ih => exact ⟨parses_opposite ih.1, nofun⟩
  | unsigned hderived ih => exact ⟨parses_unsigned hderived ih.1, nofun⟩
  | number | text => exact ⟨parses_token fun _ _ _ _ _ => rfl, nofun⟩
  | bool b hs => exact ⟨parses_bool b hs, nofun⟩
  | field htrue hfalse => exact ⟨parses_field htrue hfalse, nofun⟩
  | call hname hderived harity ih =>
      exact ⟨parses_call hname hderived (fun a ha => (ih a ha).1) harity, nofun⟩
  | group _ ih => exact ⟨parses_group ih.1, nofun⟩

end Parse

namespace Expr

variable {finish : Nat} {ts : List Located} {e : Expr}

/-- Tokens form exactly the expressions that the grammar derives from them. -/
theorem ofTokens_eq_ok_iff : ofTokens finish ts = .ok e ↔
    Parse.Derives .or (ts.map (·.token)) e := by
  unfold ofTokens
  constructor
  · intro h
    obtain ⟨⟨e', rest⟩, hrun, hrest⟩ := Parse.bind_eq_ok.1 h
    obtain ⟨used, hused, hderived⟩ := (Parse.sound finish (10 * ts.length + 10)).run
      (k := Parse.Level.or) hrun
    cases rest with
    | nil =>
        cases hrest
        rw [hused, List.append_nil]
        exact hderived
    | cons t after => cases hrest
  · intro h
    refine Parse.bind_eq_ok.2 ⟨(e, []), ?_, rfl⟩
    have hrun := h.complete.1 finish (10 * ts.length + 10) ts [] rfl (Parse.ends_nil _) (by
      rw [List.length_map]
      exact Nat.le_refl _)
    rwa [List.append_nil] at hrun

/-- The parser accepts exactly the grammar. -/
theorem parse_eq_ok_iff {source : String} : parse source = .ok e ↔
    ∃ ts, Token.scan source = .ok ts ∧ Parse.Derives .or (ts.map (·.token)) e := by
  unfold parse
  refine Parse.bind_eq_ok.trans ?_
  simp only [ofTokens_eq_ok_iff]

end Expr
end Specimen
