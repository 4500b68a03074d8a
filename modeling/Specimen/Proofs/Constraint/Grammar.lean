import Mathlib.Data.List.Basic
import Specimen.Constraint.Parser

/-!
# The grammar of constraints

The grammar that constraints follow, from the weakest binding to the strongest:

    or         := and (('or' | '||') and)*
    and        := not (('and' | '&&') not)*
    not        := ('not' | '!') not | comparison
    comparison := sum [relation sum]
    sum        := sign (('+' | '-') sign)*
    sign       := '-' sign | primary
    primary    := number | text | 'true' | 'false' | name | function '(' args ')' | '(' or ')'

Repetitions group to the left.  Words count in any case.  A name spelled `not` at the beginning of an
operand of `not` is always the operator, and a function takes exactly the arguments that it needs.

What the parser reads is derived by the grammar: every rule of the parser uses up a derivation of the
expression that it gives.
-/

namespace Specimen
namespace Parse

/-! ## The grammar -/

/-- The rules of the grammar, from the weakest binding to the strongest. -/
inductive Level where
  | or
  | and
  | not
  | comparison
  | sum
  | sign
  | primary
  deriving DecidableEq, Repr

/-- The rules that repeat: their operands are those of another rule. -/
inductive Chains : Level → Level → Prop where
  | or : Chains .or .and
  | and : Chains .and .not
  | sum : Chains .sum .sign

/-- The tokens between the operands of a rule that repeats. -/
inductive Joins : Level → Token → BinaryOp → Prop where
  | orWord {s : String} (h : Text.lowerAscii s = "or") : Joins .or (.name s) .or
  | orSymbol : Joins .or (.symbol .orOr) .or
  | andWord {s : String} (h : Text.lowerAscii s = "and") : Joins .and (.name s) .and
  | andSymbol : Joins .and (.symbol .andAnd) .and
  | plus : Joins .sum (.symbol .plus) .add
  | minus : Joins .sum (.symbol .minus) .sub

/-- The tokens that negate what follows. -/
inductive Negates : Token → Prop where
  | word {s : String} (h : Text.lowerAscii s = "not") : Negates (.name s)
  | symbol : Negates (.symbol .bang)

/-- The tokens that compare. -/
inductive Compares : Token → BinaryOp → Prop where
  | eqEq : Compares (.symbol .eqEq) .eq
  | eq : Compares (.symbol .eq) .eq
  | bangEq : Compares (.symbol .bangEq) .ne
  | ltGt : Compares (.symbol .ltGt) .ne
  | lt : Compares (.symbol .lt) .lt
  | ltEq : Compares (.symbol .ltEq) .le
  | gt : Compares (.symbol .gt) .gt
  | gtEq : Compares (.symbol .gtEq) .ge

/-- Tokens that do not begin with a name spelled `not`. -/
def StartsPlain (ts : List Token) : Prop :=
  ∀ s rest, ts = .name s :: rest → Text.lowerAscii s ≠ "not"

/-- The tokens of arguments: those of each, with commas between them. -/
def argumentTokens (args : List (List Token × Expr)) : List Token :=
  [Token.comma].intercalate (args.map (·.1))

/-- A rule derives an expression from tokens. -/
inductive Derives : Level → List Token → Expr → Prop where
  | operand {k o : Level} {ts : List Token} {e : Expr} (hk : Chains k o) (h : Derives o ts e) :
      Derives k ts e
  | join {k o : Level} {ls rs : List Token} {joint : Token} {op : BinaryOp} {l r : Expr}
      (hk : Chains k o) (hl : Derives k ls l) (hj : Joins k joint op) (hr : Derives o rs r) :
      Derives k (ls ++ joint :: rs) (.binary op l r)
  | negation {t : Token} {ts : List Token} {e : Expr} (ht : Negates t) (h : Derives .not ts e) :
      Derives .not (t :: ts) (.unary .not e)
  | plain {ts : List Token} {e : Expr} (hplain : StartsPlain ts) (h : Derives .comparison ts e) :
      Derives .not ts e
  | single {ts : List Token} {e : Expr} (h : Derives .sum ts e) : Derives .comparison ts e
  | compare {ls rs : List Token} {t : Token} {op : BinaryOp} {l r : Expr}
      (hl : Derives .sum ls l) (ht : Compares t op) (hr : Derives .sum rs r) :
      Derives .comparison (ls ++ t :: rs) (.binary op l r)
  | opposite {ts : List Token} {e : Expr} (h : Derives .sign ts e) :
      Derives .sign (.symbol .minus :: ts) (.unary .neg e)
  | unsigned {ts : List Token} {e : Expr} (h : Derives .primary ts e) : Derives .sign ts e
  | number (x : Float) : Derives .primary [.number x] (.number x)
  | text (s : String) : Derives .primary [.text s] (.text s)
  | bool (b : Bool) {s : String} (h : Text.lowerAscii s = if b then "true" else "false") :
      Derives .primary [.name s] (.bool b)
  | field {s : String} (htrue : Text.lowerAscii s ≠ "true") (hfalse : Text.lowerAscii s ≠ "false") :
      Derives .primary [.name s] (.field s)
  | call {s : String} {function : Builtin} {args : List (List Token × Expr)}
      (hname : Builtin.ofName? (Text.lowerAscii s) = some function)
      (hargs : ∀ a ∈ args, Derives .or a.1 a.2) (harity : args.length = function.arity) :
      Derives .primary (.name s :: .openParen :: argumentTokens args ++ [.closeParen])
        (.call function (args.map (·.2)))
  | group {ts : List Token} {e : Expr} (h : Derives .or ts e) :
      Derives .primary (.openParen :: ts ++ [.closeParen]) e

/-! ## The functions of the parser -/

variable {finish fuel : Nat} {k o : Level} {ts rest : Tokens} {e : Expr}

/-- The function for a rule. -/
def run (finish : Nat) : Level → Nat → Tokens → Except SyntaxError (Expr × Tokens)
  | .or => orExpr finish
  | .and => andExpr finish
  | .not => notExpr finish
  | .comparison => compareExpr finish
  | .sum => addExpr finish
  | .sign => negExpr finish
  | .primary => primary finish

/-- The function for what follows the first operand of a rule that repeats. -/
def tail (finish : Nat) : Level → Nat → Expr → Tokens → Except SyntaxError (Expr × Tokens)
  | .or => orTail finish
  | .and => andTail finish
  | _ => addTail finish

/-- The operator between two operands of a rule that repeats, and what follows it. -/
def joint? : Level → Tokens → Option (BinaryOp × Tokens)
  | .or => fun ts => (afterConnective? "or" .orOr ts).map (.or, ·)
  | .and => fun ts => (afterConnective? "and" .andAnd ts).map (.and, ·)
  | _ => sign?

theorem afterConnective?_eq_some {word : String} {symbol : Symbol} :
    afterConnective? word symbol ts = some rest ↔ ∃ t : Located, ts = t :: rest ∧
      (t.token = .symbol symbol ∨ ∃ s, t.token = .name s ∧ Text.lowerAscii s = word) := by
  rcases ts with _ | ⟨⟨token, here⟩, ts⟩
  · simp [afterConnective?]
  · cases token <;> simp [afterConnective?, isWord, and_comm]

theorem joint?_eq_some (hk : Chains k o) {op : BinaryOp} :
    joint? k ts = some (op, rest) ↔ ∃ t : Located, ts = t :: rest ∧ Joins k t.token op := by
  constructor
  · intro h
    cases hk with
    | or =>
        obtain ⟨after, hafter, heq⟩ := Option.map_eq_some_iff.1 h
        cases heq
        obtain ⟨⟨token, here⟩, rfl, rfl | ⟨s, rfl, hs⟩⟩ := afterConnective?_eq_some.1 hafter
        · exact ⟨_, rfl, .orSymbol⟩
        · exact ⟨_, rfl, .orWord hs⟩
    | and =>
        obtain ⟨after, hafter, heq⟩ := Option.map_eq_some_iff.1 h
        cases heq
        obtain ⟨⟨token, here⟩, rfl, rfl | ⟨s, rfl, hs⟩⟩ := afterConnective?_eq_some.1 hafter
        · exact ⟨_, rfl, .andSymbol⟩
        · exact ⟨_, rfl, .andWord hs⟩
    | sum =>
        have hsign : sign? ts = some (op, rest) := h
        unfold sign? at hsign
        split at hsign
        · cases hsign
          exact ⟨_, rfl, .plus⟩
        · cases hsign
          exact ⟨_, rfl, .minus⟩
        · cases hsign
  · rintro ⟨⟨token, here⟩, rfl, hjoint⟩
    cases hjoint with
    | orWord hs => simp [joint?, afterConnective?, isWord, hs]
    | andWord hs => simp [joint?, afterConnective?, isWord, hs]
    | orSymbol | andSymbol | plus | minus => rfl

theorem comparison?_eq_some {op : BinaryOp} :
    comparison? ts = some (op, rest) ↔ ∃ t : Located, ts = t :: rest ∧ Compares t.token op := by
  constructor
  · intro h
    unfold comparison? at h
    split at h
    · rename_i symbol here after
      split at h <;> cases h
      exacts [⟨_, rfl, .eqEq⟩, ⟨_, rfl, .eq⟩, ⟨_, rfl, .bangEq⟩, ⟨_, rfl, .ltGt⟩, ⟨_, rfl, .lt⟩,
        ⟨_, rfl, .ltEq⟩, ⟨_, rfl, .gt⟩, ⟨_, rfl, .gtEq⟩]
    · cases h
  · rintro ⟨⟨token, here⟩, rfl, h⟩
    cases h <;> rfl

theorem bind_eq_ok {ε α β : Type} {x : Except ε α} {f : α → Except ε β} {b : β} :
    x.bind f = .ok b ↔ ∃ a, x = .ok a ∧ f a = .ok b := by
  cases x <;> simp [Except.bind]

theorem run_chain_eq (hk : Chains k o) : run finish k (fuel + 1) ts =
    (run finish o fuel ts).bind fun p => tail finish k fuel p.1 p.2 := by
  cases hk with
  | or => simp only [run, tail, orExpr]; rfl
  | and => simp only [run, tail, andExpr]; rfl
  | sum => simp only [run, tail, addExpr]; rfl

theorem run_chain_eq_ok (hk : Chains k o) : run finish k (fuel + 1) ts = .ok (e, rest) ↔
    ∃ l mid, run finish o fuel ts = .ok (l, mid) ∧ tail finish k fuel l mid = .ok (e, rest) := by
  rw [run_chain_eq hk, bind_eq_ok, Prod.exists]

theorem tail_eq (hk : Chains k o) (l : Expr) : tail finish k (fuel + 1) l ts =
    (joint? k ts).elim (.ok (l, ts)) fun p =>
      (run finish o fuel p.2).bind fun q => tail finish k fuel (.binary p.1 l q.1) q.2 := by
  cases hk with
  | or =>
    simp only [run, tail, orTail, joint?]
    cases afterConnective? "or" .orOr ts <;> rfl
  | and =>
    simp only [run, tail, andTail, joint?]
    cases afterConnective? "and" .andAnd ts <;> rfl
  | sum =>
    simp only [run, tail, addTail, joint?]
    cases sign? ts <;> rfl

theorem tail_eq_ok (hk : Chains k o) {l : Expr} : tail finish k (fuel + 1) l ts = .ok (e, rest) ↔
    (joint? k ts = none ∧ e = l ∧ rest = ts) ∨ ∃ op mid r after, joint? k ts = some (op, mid) ∧
      run finish o fuel mid = .ok (r, after) ∧
        tail finish k fuel (.binary op l r) after = .ok (e, rest) := by
  rw [tail_eq hk]
  cases hjoint : joint? k ts with
  | none => simp [eq_comm]
  | some p =>
      rcases p with ⟨op, mid⟩
      simp [bind_eq_ok]

theorem afterNot_eq_some : afterConnective? "not" .bang ts = some rest ↔
    ∃ t : Located, ts = t :: rest ∧ Negates t.token := by
  rw [afterConnective?_eq_some]
  refine exists_congr fun t => and_congr_right fun _ => ?_
  constructor
  · rintro (h | ⟨s, h, hs⟩)
    · exact h ▸ .symbol
    · exact h ▸ .word hs
  · intro h
    generalize t.token = token at h
    cases h with
    | word hs => exact .inr ⟨_, rfl, hs⟩
    | symbol => exact .inl rfl

theorem run_not_eq : run finish .not (fuel + 1) ts =
    (afterConnective? "not" .bang ts).elim (run finish .comparison fuel ts) fun mid =>
      (run finish .not fuel mid).bind fun p => .ok (.unary .not p.1, p.2) := by
  simp only [run, notExpr]
  cases afterConnective? "not" .bang ts <;> rfl

theorem run_not_eq_ok : run finish .not (fuel + 1) ts = .ok (e, rest) ↔
    (∃ t mid operand, ts = t :: mid ∧ Negates t.token ∧
      run finish .not fuel mid = .ok (operand, rest) ∧ e = .unary .not operand) ∨
    ((∀ t mid, ts = t :: mid → ¬ Negates t.token) ∧
      run finish .comparison fuel ts = .ok (e, rest)) := by
  rw [run_not_eq]
  cases hnot : afterConnective? "not" .bang ts with
  | some mid =>
      obtain ⟨t, rfl, ht⟩ := afterNot_eq_some.1 hnot
      simp [bind_eq_ok, ht, @eq_comm _ e]
  | none =>
      have hplain : ∀ t mid, ts = t :: mid → ¬ Negates t.token := by
        intro t mid heq ht
        have hsome := afterNot_eq_some.2 ⟨t, heq, ht⟩
        rw [hnot] at hsome
        cases hsome
      constructor
      · intro h
        exact .inr ⟨hplain, h⟩
      · rintro (⟨t, mid, operand, heq, ht, -⟩ | ⟨-, h⟩)
        · exact absurd ht (hplain t mid heq)
        · exact h

theorem run_comparison_eq : run finish .comparison (fuel + 1) ts =
    (run finish .sum fuel ts).bind fun p => (comparison? p.2).elim (.ok p) fun c =>
      (run finish .sum fuel c.2).bind fun q => .ok (.binary c.1 p.1 q.1, q.2) := by
  simp only [run, compareExpr]
  refine bind_congr fun p => ?_
  cases comparison? p.2 <;> rfl

theorem run_comparison_eq_ok : run finish .comparison (fuel + 1) ts = .ok (e, rest) ↔
    ∃ l mid, run finish .sum fuel ts = .ok (l, mid) ∧
      ((comparison? mid = none ∧ e = l ∧ rest = mid) ∨ ∃ op after r,
        comparison? mid = some (op, after) ∧ run finish .sum fuel after = .ok (r, rest) ∧
          e = .binary op l r) := by
  rw [run_comparison_eq, bind_eq_ok, Prod.exists]
  refine exists₂_congr fun l mid => and_congr_right fun _ => ?_
  cases hop : comparison? mid with
  | none => simp [eq_comm]
  | some p =>
      rcases p with ⟨op, after⟩
      simp [bind_eq_ok, @eq_comm _ e]

theorem run_sign_eq_ok : run finish .sign (fuel + 1) ts = .ok (e, rest) ↔
    (∃ here mid operand, ts = ⟨.symbol .minus, here⟩ :: mid ∧
      run finish .sign fuel mid = .ok (operand, rest) ∧ e = .unary .neg operand) ∨
    ((∀ here mid, ts ≠ ⟨.symbol .minus, here⟩ :: mid) ∧
      run finish .primary fuel ts = .ok (e, rest)) := by
  simp only [run, negExpr]
  split
  · rename_i here mid
    refine (bind_eq_ok (x := negExpr finish fuel mid)).trans ?_
    simp [pure, Except.pure, @eq_comm _ e]
  · rename_i hplain
    constructor
    · intro h
      exact .inr ⟨fun here mid heq => hplain here mid heq, h⟩
    · rintro (⟨here, mid, operand, heq, -⟩ | ⟨-, h⟩)
      · exact absurd heq (hplain here mid)
      · exact h

/-! ## What is read is derived -/

/-- From tokens an expression is read by a rule, up to the tokens that are left. -/
def Reads (k : Level) (ts : Tokens) (e : Expr) (rest : Tokens) : Prop :=
  ∃ used, ts = used ++ rest ∧ Derives k (used.map (·.token)) e

/-- From tokens arguments are read, and their closing bracket. -/
def ReadsArguments (ts : Tokens) (args : List Expr) (rest : Tokens) : Prop :=
  ∃ (used : Tokens) (derived : List (List Token × Expr)), ts = used ++ rest ∧
    used.map (·.token) = argumentTokens derived ++ [.closeParen] ∧ args = derived.map (·.2) ∧
      ∀ a ∈ derived, Derives .or a.1 a.2

theorem argumentTokens_cons {a : List Token × Expr} {args : List (List Token × Expr)}
    (h : args ≠ []) : argumentTokens (a :: args) = a.1 ++ .comma :: argumentTokens args := by
  cases args with
  | nil => exact absurd rfl h
  | cons b args => simp [argumentTokens, List.intercalate]

theorem argumentTokens_singleton {a : List Token × Expr} : argumentTokens [a] = a.1 := by
  simp [argumentTokens, List.intercalate]

theorem Reads.trans {p : Level} {mid : Tokens} {l r : Expr} (hl : Reads k ts l mid) {t : Located}
    {after : Tokens} (hmid : mid = t :: after) (hr : Reads o after r rest)
    (hjoin : ∀ {ls rs}, Derives k ls l → Derives o rs r → Derives p (ls ++ t.token :: rs) e) :
    Reads p ts e rest := by
  obtain ⟨ls, rfl, hl⟩ := hl
  obtain ⟨rs, rfl, hr⟩ := hr
  subst hmid
  refine ⟨ls ++ t :: rs, by simp, ?_⟩
  rw [List.map_append, List.map_cons]
  exact hjoin hl hr

/-- Everything that the functions of the parser read within their fuel is derived. -/
structure Sound (finish fuel : Nat) : Prop where
  run : ∀ {k : Level} {ts e rest}, run finish k fuel ts = .ok (e, rest) → Reads k ts e rest
  tail : ∀ {k o : Level} {l before ts e rest}, Chains k o → Reads k before l ts →
    tail finish k fuel l ts = .ok (e, rest) → Reads k before e rest
  arguments : ∀ {ts args rest}, arguments finish fuel ts = .ok (args, rest) →
    ReadsArguments ts args rest
  argumentList : ∀ {ts args rest}, argumentList finish fuel ts = .ok (args, rest) →
    args ≠ [] ∧ ReadsArguments ts args rest

theorem Reads.map {k o : Level} (h : Reads o ts e rest)
    (hrule : ∀ {ts}, Derives o ts e → Derives k ts e) : Reads k ts e rest := by
  obtain ⟨used, rfl, h⟩ := h
  exact ⟨used, rfl, hrule h⟩

theorem Reads.cons {k o : Level} {t : Located} {operand : Expr} (h : Reads o ts operand rest)
    (hrule : ∀ {ts}, Derives o ts operand → Derives k (t.token :: ts) e) :
    Reads k (t :: ts) e rest := by
  obtain ⟨used, rfl, h⟩ := h
  exact ⟨t :: used, rfl, hrule h⟩

theorem reads_of_token {t : Located} (h : Derives .primary [t.token] e) :
    Reads .primary (t :: rest) e rest :=
  ⟨[t], rfl, h⟩

theorem primary_reads (h : Sound finish fuel)
    (hrun : Parse.run finish .primary (fuel + 1) ts = .ok (e, rest)) :
    Reads .primary ts e rest := by
  simp only [Parse.run, primary] at hrun
  split at hrun
  · cases hrun
  · cases hrun
    exact reads_of_token (.number _)
  · cases hrun
    exact reads_of_token (.text _)
  · rename_i here after
    obtain ⟨⟨inner, mid⟩, hinner, hclose⟩ := bind_eq_ok.1 hrun
    obtain ⟨used, rfl, hderived⟩ := h.run (k := Level.or) hinner
    dsimp only at hclose
    split at hclose
    · rename_i there after
      cases hclose
      refine ⟨⟨.openParen, here⟩ :: used ++ [⟨.closeParen, there⟩], by simp, ?_⟩
      simpa using Derives.group hderived
    · cases hclose
  · rename_i s here after
    by_cases htrue : Text.lowerAscii s = "true"
    · rw [if_pos htrue] at hrun
      cases hrun
      exact reads_of_token (.bool true htrue)
    rw [if_neg htrue] at hrun
    by_cases hfalse : Text.lowerAscii s = "false"
    · rw [if_pos hfalse] at hrun
      cases hrun
      exact reads_of_token (.bool false hfalse)
    rw [if_neg hfalse] at hrun
    split at hrun
    · rename_i there after
      split at hrun
      · cases hrun
      · rename_i function hname
        obtain ⟨⟨args, mid⟩, hargs, hcount⟩ := bind_eq_ok.1 hrun
        obtain ⟨used, derived, rfl, hused, rfl, hderived⟩ := h.arguments hargs
        dsimp only at hcount
        split at hcount
        · rename_i harity
          cases hcount
          rw [List.length_map] at harity
          refine ⟨_ :: _ :: used, rfl, ?_⟩
          rw [List.map_cons, List.map_cons, hused]
          exact .call hname hderived harity
        · cases hcount
    · cases hrun
      exact reads_of_token (.field htrue hfalse)
  · cases hrun

theorem chain_reads (h : Sound finish fuel) (hk : Chains k o)
    (hrun : Parse.run finish k (fuel + 1) ts = .ok (e, rest)) : Reads k ts e rest := by
  obtain ⟨l, mid, hl, htail⟩ := (run_chain_eq_ok hk).1 hrun
  have hfirst : Reads k ts l mid := (h.run hl).map fun hl => .operand hk hl
  exact h.tail hk hfirst htail

theorem tail_reads (h : Sound finish fuel) (hk : Chains k o) {l : Expr} {before : Tokens}
    (hl : Reads k before l ts) (htail : Parse.tail finish k (fuel + 1) l ts = .ok (e, rest)) :
    Reads k before e rest := by
  rcases (tail_eq_ok hk).1 htail with ⟨-, rfl, rfl⟩ | ⟨op, mid, r, after, hjoint, hr, htail⟩
  · exact hl
  · obtain ⟨t, hts, ht⟩ := (joint?_eq_some hk).1 hjoint
    have hjoined : Reads k before (.binary op l r) after :=
      hl.trans hts (h.run hr) fun hl hr => .join hk hl ht hr
    exact h.tail hk hjoined htail

theorem not_reads (h : Sound finish fuel)
    (hrun : Parse.run finish .not (fuel + 1) ts = .ok (e, rest)) : Reads .not ts e rest := by
  rcases run_not_eq_ok.1 hrun with ⟨t, mid, operand, rfl, ht, hoperand, rfl⟩ | ⟨hplain, hrun⟩
  · exact (h.run hoperand).cons fun hoperand => .negation ht hoperand
  · obtain ⟨used, rfl, hused⟩ := h.run hrun
    refine ⟨used, rfl, .plain ?_ hused⟩
    intro s after heq hs
    obtain ⟨t, mid, rfl, ht, -⟩ := List.map_eq_cons_iff.1 heq
    exact hplain t (mid ++ rest) rfl (ht ▸ .word hs)

theorem comparison_reads (h : Sound finish fuel)
    (hrun : Parse.run finish .comparison (fuel + 1) ts = .ok (e, rest)) :
    Reads .comparison ts e rest := by
  obtain ⟨l, mid, hl, hrest⟩ := run_comparison_eq_ok.1 hrun
  rcases hrest with ⟨-, rfl, rfl⟩ | ⟨op, after, r, hop, hr, rfl⟩
  · exact (h.run hl).map fun hl => .single hl
  · obtain ⟨t, hmid, ht⟩ := comparison?_eq_some.1 hop
    exact (h.run hl).trans hmid (h.run hr) fun hl hr => .compare hl ht hr

theorem sign_reads (h : Sound finish fuel)
    (hrun : Parse.run finish .sign (fuel + 1) ts = .ok (e, rest)) : Reads .sign ts e rest := by
  rcases run_sign_eq_ok.1 hrun with ⟨here, mid, operand, rfl, hoperand, rfl⟩ | ⟨-, hrun⟩
  · exact (h.run hoperand).cons fun hoperand => .opposite hoperand
  · exact (h.run hrun).map fun hprimary => .unsigned hprimary

theorem argumentList_reads (h : Sound finish fuel) {args : List Expr}
    (hrun : Parse.argumentList finish (fuel + 1) ts = .ok (args, rest)) :
    args ≠ [] ∧ ReadsArguments ts args rest := by
  unfold Parse.argumentList at hrun
  obtain ⟨⟨arg, mid⟩, harg, hnext⟩ := bind_eq_ok.1 hrun
  obtain ⟨first, rfl, hfirst⟩ := h.run (k := Level.or) harg
  dsimp only at hnext
  split at hnext
  · rename_i here after
    obtain ⟨⟨others, last⟩, hothers, hdone⟩ := bind_eq_ok.1 hnext
    cases hdone
    obtain ⟨hsome, used, derived, rfl, hused, rfl, hderived⟩ := h.argumentList hothers
    have hne : derived ≠ [] := fun heq => hsome (by rw [heq]; rfl)
    refine ⟨List.cons_ne_nil _ _, first ++ ⟨.comma, here⟩ :: used,
      (first.map (·.token), arg) :: derived, by simp, ?_, rfl, ?_⟩
    · rw [argumentTokens_cons hne]
      simp [hused]
    · exact List.forall_mem_cons.2 ⟨hfirst, hderived⟩
  · rename_i here after
    cases hnext
    refine ⟨List.cons_ne_nil _ _, first ++ [⟨.closeParen, here⟩], [(first.map (·.token), arg)],
      by simp, ?_, rfl, ?_⟩
    · simp [argumentTokens_singleton]
    · exact List.forall_mem_singleton.2 hfirst
  · cases hnext

theorem arguments_reads (h : Sound finish fuel) {args : List Expr}
    (hrun : Parse.arguments finish (fuel + 1) ts = .ok (args, rest)) : ReadsArguments ts args rest := by
  unfold Parse.arguments at hrun
  split at hrun
  · rename_i here after
    cases hrun
    exact ⟨[⟨.closeParen, here⟩], [], rfl, rfl, rfl, by simp⟩
  · exact (h.argumentList hrun).2

/-- Whatever the fuel, what the parser reads is derived. -/
theorem sound (finish fuel : Nat) : Sound finish fuel := by
  induction fuel with
  | zero =>
      constructor
      · intro k ts e rest h
        cases k <;> cases h
      · intro k o l before ts e rest hk _ h
        cases hk <;> cases h
      · intro ts args rest h
        cases h
      · intro ts args rest h
        cases h
  | succ fuel ih =>
      constructor
      · intro k ts e rest h
        cases k with
        | or => exact chain_reads ih .or h
        | and => exact chain_reads ih .and h
        | sum => exact chain_reads ih .sum h
        | not => exact not_reads ih h
        | comparison => exact comparison_reads ih h
        | sign => exact sign_reads ih h
        | primary => exact primary_reads ih h
      · intro k o l before ts e rest hk hl h
        exact tail_reads ih hk hl h
      · intro ts args rest h
        exact arguments_reads ih h
      · intro ts args rest h
        exact argumentList_reads ih h

end Parse
end Specimen
