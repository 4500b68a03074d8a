import Specimen.Proofs.Constraint.Parsing
import Specimen.Proofs.Constraint.Scanning

/-!
# Writing constraints

An expression is written with its operators between spaces, its texts quoted, and brackets at least where
the strength of the operators demands them.  What is written so parses back to the expression, and
every expression over names, numbers, texts and truth values can be written so.
-/

namespace Specimen
namespace Parse

/-- The text of an operator or of a word. -/
inductive Spells : Token → List Char → Prop where
  | symbol (s : Symbol) : Spells (.symbol s) s.text.toList
  | name {cs : List Char} (h : Token.IsName cs) : Spells (.name (String.ofList cs)) cs

/-- What one rule derives another one derives too, as an operand that stands alone. -/
inductive Weakens : Level → Level → Prop where
  | chain {k o : Level} (hk : Chains k o) : Weakens k o
  | not : Weakens .not .comparison
  | comparison : Weakens .comparison .sum
  | sign : Weakens .sign .primary

/-- The texts of an expression, at a place where a rule is expected. -/
inductive Renders : Level → Expr → List Char → Prop where
  | number {x : Float} {cs : List Char} (hcs : Token.IsNumeral cs)
      (hx : Decimal.readFloat? (String.ofList cs) = some x) : Renders .primary (.number x) cs
  | text {quote : Char} (hquote : quote = '\'' ∨ quote = '"') (s : String) :
      Renders .primary (.text s) (quote :: Token.escaped quote s.toList ++ [quote])
  | bool (b : Bool) {cs : List Char} (hcs : Token.IsName cs)
      (hword : Text.lowerAscii (String.ofList cs) = if b then "true" else "false") :
      Renders .primary (.bool b) cs
  | field {cs : List Char} (hcs : Token.IsName cs)
      (hword : Text.lowerAscii (String.ofList cs) ∉ ["true", "false", "not"]) :
      Renders .primary (.field (String.ofList cs)) cs
  | call {cs : List Char} {function : Builtin} {args : List (List Char × Expr)}
      (hcs : Token.IsName cs)
      (hname : Builtin.ofName? (Text.lowerAscii (String.ofList cs)) = some function)
      (hargs : ∀ a ∈ args, Renders .or a.2 a.1) (harity : args.length = function.arity) :
      Renders .primary (.call function (args.map (·.2)))
        (cs ++ '(' :: ([','].intercalate (args.map (·.1)) ++ [')']))
  | group {e : Expr} {cs : List Char} (h : Renders .or e cs) :
      Renders .primary e ('(' :: (cs ++ [')']))
  | opposite {e : Expr} {cs : List Char} (h : Renders .sign e cs) :
      Renders .sign (.unary .neg e) ('-' :: cs)
  | bang {e : Expr} {cs : List Char} (h : Renders .not e cs) :
      Renders .not (.unary .not e) ('!' :: cs)
  | negation {t : Token} {w : List Char} {e : Expr} {cs : List Char} (ht : Negates t)
      (hw : Spells t w) (h : Renders .not e cs) : Renders .not (.unary .not e) (w ++ ' ' :: cs)
  | compare {t : Token} {w : List Char} {op : BinaryOp} {l r : Expr} {ls rs : List Char}
      (hl : Renders .sum l ls) (ht : Compares t op) (hw : Spells t w) (hr : Renders .sum r rs) :
      Renders .comparison (.binary op l r) (ls ++ ' ' :: (w ++ ' ' :: rs))
  | join {k o : Level} {t : Token} {w : List Char} {op : BinaryOp} {l r : Expr} {ls rs : List Char}
      (hk : Chains k o) (hl : Renders k l ls) (ht : Joins k t op) (hw : Spells t w)
      (hr : Renders o r rs) : Renders k (.binary op l r) (ls ++ ' ' :: (w ++ ' ' :: rs))
  | weaken {k o : Level} {e : Expr} {cs : List Char} (hk : Weakens k o) (h : Renders o e cs) :
      Renders k e cs
  | spaceBefore {k : Level} {e : Expr} {cs : List Char} (h : Renders k e cs) : Renders k e (' ' :: cs)
  | spaceBehind {k : Level} {e : Expr} {cs : List Char} (h : Renders k e cs) :
      Renders k e (cs ++ [' '])

/-! ## What is written is read -/

variable {k o : Level} {e : Expr} {cs : List Char} {ts : List Token}

theorem Spells.scans {t : Token} {w : List Char} (h : Spells t w) : Token.Scans w [t] := by
  cases h with
  | symbol s => exact Token.scans_symbol s
  | name hw => exact Token.scans_name hw

/-- A text that can stand behind an exclamation mark. -/
def Operand (cs : List Char) : Prop := ∃ c after, cs = c :: after ∧ c ≠ '='

theorem Operand.append (h : Operand cs) (ds : List Char) : Operand (cs ++ ds) := by
  obtain ⟨c, after, rfl, hc⟩ := h
  exact ⟨c, after ++ ds, rfl, hc⟩

theorem operand_of_isName (h : Token.IsName cs) : Operand cs := by
  cases h with
  | word _ hc _ =>
      refine ⟨_, _, rfl, ?_⟩
      rintro rfl
      revert hc
      decide
  | mark _ => exact ⟨_, _, rfl, by decide⟩

theorem operand_of_isNumeral (h : Token.IsNumeral cs) : Operand cs := by
  obtain ⟨hne, hdigits⟩ := h
  obtain ⟨c, after, rfl⟩ := List.exists_cons_of_ne_nil hne
  refine ⟨c, after, rfl, ?_⟩
  rintro rfl
  exact absurd (hdigits '=' List.mem_cons_self) (by decide)

theorem operand_of_negates {t : Token} (ht : Negates t) (hcs : Spells t cs) : Operand cs := by
  cases hcs with
  | symbol s =>
      cases ht
      exact ⟨'!', [], rfl, by decide⟩
  | name hcs => exact operand_of_isName hcs

/-- A text is cut into tokens from which a rule derives an expression.  Below `not` the tokens do not begin
with that operator. -/
structure Writes (k : Level) (e : Expr) (cs : List Char) (ts : List Token) : Prop where
  scans : Token.Scans cs ts
  derives : Derives k ts e
  plain : k.weight < Level.not.weight → StartsPlain ts
  operand : Operand cs

theorem startsPlain_of_name {s : String} {after : List Token} (h : Text.lowerAscii s ≠ "not") :
    StartsPlain (.name s :: after) := by
  rintro s' after' heq
  cases heq
  exact h

theorem startsPlain_of_ne {t : Token} {after : List Token} (h : ∀ s, t ≠ .name s) :
    StartsPlain (t :: after) := by
  rintro s after' heq
  cases heq
  exact absurd rfl (h s)

theorem StartsPlain.append (h : StartsPlain ts) (hts : ts ≠ []) (us : List Token) :
    StartsPlain (ts ++ us) := by
  cases ts with
  | nil => exact absurd rfl hts
  | cons t after =>
      intro s rest heq
      exact h s after (by rw [(List.cons.inj heq).1])

theorem Derives.ne_nil (h : Derives k ts e) : ts ≠ [] := by
  obtain ⟨t, after, rfl, -⟩ := h.begins
  exact List.cons_ne_nil t after

theorem Writes.weaken (h : Writes o e cs ts) (hk : Weakens k o) : Writes k e cs ts := by
  refine ⟨h.scans, ?_, ?_, h.operand⟩
  · cases hk with
    | chain hk => exact .operand hk h.derives
    | not => exact .plain (h.plain (by decide)) h.derives
    | comparison => exact .single h.derives
    | sign => exact .unsigned h.derives
  · intro hweight
    apply h.plain
    cases hk with
    | chain hk =>
        have hlt := hk.weight_lt
        omega
    | not => exact absurd hweight (by decide)
    | comparison | sign => decide

/-- Between spaces an operator separates its operands. -/
theorem scans_infix {ls rs w : List Char} {t : Token} {us vs : List Token} (hl : Token.Scans ls us)
    (hw : Spells t w) (hr : Token.Scans rs vs) :
    Token.Scans (ls ++ ' ' :: (w ++ ' ' :: rs)) (us ++ t :: vs) := by
  have hspace : ' ' ∈ Token.separators := by decide
  exact hl.append hspace (hw.scans.append hspace hr.space).space

/-- An expression that begins with what is written for its left operand. -/
theorem Writes.between {l : Expr} {ls rs w : List Char} {us vs : List Token} {t : Token}
    (hl : Writes o l ls us) (hw : Spells t w) (hr : Token.Scans rs vs)
    (hderives : Derives k (us ++ t :: vs) e)
    (hle : k.weight < Level.not.weight → o.weight < Level.not.weight) :
    Writes k e (ls ++ ' ' :: (w ++ ' ' :: rs)) (us ++ t :: vs) where
  scans := scans_infix hl.scans hw hr
  derives := hderives
  plain hweight := (hl.plain (hle hweight)).append hl.derives.ne_nil _
  operand := hl.operand.append _

theorem writes_arguments {args : List (List Char × Expr)}
    (h : ∀ a ∈ args, ∃ ts, Writes .or a.2 a.1 ts) :
    ∃ derived : List (List Token × Expr), derived.map (·.2) = args.map (·.2) ∧
      (∀ a ∈ derived, Derives .or a.1 a.2) ∧
        Token.Scans ([','].intercalate (args.map (·.1)) ++ [')'])
          (argumentTokens derived ++ [.closeParen]) := by
  induction args with
  | nil =>
      refine ⟨[], rfl, by simp, ?_⟩
      exact Token.scans_nil.closeParen
  | cons a args ih =>
      obtain ⟨derived, hsame, hderived, hscans⟩ := ih fun b hb => h b (List.mem_cons_of_mem _ hb)
      obtain ⟨ts, ha⟩ := h a List.mem_cons_self
      refine ⟨(ts, a.2) :: derived, by simp [hsame], ?_, ?_⟩
      · exact List.forall_mem_cons.2 ⟨ha.derives, hderived⟩
      · by_cases hargs : args = []
        · subst hargs
          have hnone : derived = [] := List.map_eq_nil_iff.1 hsame
          subst hnone
          rw [argumentTokens_singleton]
          simpa [List.intercalate] using ha.scans.append (by decide) Token.scans_nil.closeParen
        · have hsome : derived ≠ [] := by
            rintro rfl
            exact hargs (List.map_eq_nil_iff.1 hsame.symm)
          have htext : [','].intercalate ((a :: args).map (·.1)) =
              a.1 ++ ',' :: [','].intercalate (args.map (·.1)) := by
            cases args with
            | nil => exact absurd rfl hargs
            | cons b args => simp [List.intercalate]
          rw [argumentTokens_cons hsome, htext]
          simpa using ha.scans.append (by decide) hscans.comma

theorem writes_call {function : Builtin} {args : List (List Char × Expr)} (hcs : Token.IsName cs)
    (hname : Builtin.ofName? (Text.lowerAscii (String.ofList cs)) = some function)
    (hargs : ∀ a ∈ args, ∃ ts, Writes .or a.2 a.1 ts) (harity : args.length = function.arity) :
    ∃ ts, Writes .primary (.call function (args.map (·.2)))
      (cs ++ '(' :: ([','].intercalate (args.map (·.1)) ++ [')'])) ts := by
  obtain ⟨derived, hsame, hderived, hscans⟩ := writes_arguments hargs
  have hlength : derived.length = function.arity := by
    rw [← harity, ← List.length_map (f := Prod.snd), hsame, List.length_map]
  have hcall := Derives.call hname hderived hlength
  rw [hsame] at hcall
  refine ⟨_, ?_, hcall, ?_, (operand_of_isName hcs).append _⟩
  · exact (Token.scans_name hcs).append (by decide) hscans.openParen
  · intro _
    exact startsPlain_of_name (ofName?_ne hname rfl)

/-- What is written is cut into tokens from which the expression is derived. -/
theorem Renders.writes (h : Renders k e cs) : ∃ ts, Writes k e cs ts := by
  induction h with
  | @number x cs hcs hx =>
      exact ⟨[.number x], Token.scans_number hcs hx, .number x, fun _ => startsPlain_of_ne nofun,
        operand_of_isNumeral hcs⟩
  | @text quote hquote s =>
      refine ⟨[.text s], Token.scans_text hquote, .text s, ?_, ?_⟩
      · intro _
        exact startsPlain_of_ne nofun
      · refine ⟨quote, _, rfl, ?_⟩
        rcases hquote with rfl | rfl <;> decide
  | @bool b cs hcs hword =>
      refine ⟨[.name (String.ofList cs)], Token.scans_name hcs, .bool b hword, ?_, operand_of_isName hcs⟩
      intro _
      apply startsPlain_of_name
      rw [hword]
      cases b <;> decide
  | @field cs hcs hword =>
      simp only [List.mem_cons, List.not_mem_nil, or_false, not_or] at hword
      obtain ⟨htrue, hfalse, hnot⟩ := hword
      exact ⟨[.name (String.ofList cs)], Token.scans_name hcs, .field htrue hfalse,
        fun _ => startsPlain_of_name hnot, operand_of_isName hcs⟩
  | call hcs hname _ harity ih => exact writes_call hcs hname ih harity
  | group _ ih =>
      obtain ⟨ts, h⟩ := ih
      refine ⟨_, ?_, .group h.derives, ?_, ⟨_, _, rfl, by decide⟩⟩
      · exact (h.scans.append (by decide) Token.scans_nil.closeParen).openParen
      · intro _
        exact startsPlain_of_ne nofun
  | opposite _ ih =>
      obtain ⟨ts, h⟩ := ih
      refine ⟨_, h.scans.minus, .opposite h.derives, ?_, ⟨_, _, rfl, by decide⟩⟩
      intro _
      exact startsPlain_of_ne nofun
  | bang _ ih =>
      obtain ⟨ts, h⟩ := ih
      obtain ⟨c, after, rfl, hc⟩ := h.operand
      refine ⟨_, h.scans.bang (List.cons_ne_nil _ _) (by simpa using hc), .negation .symbol h.derives,
        ?_, ⟨_, _, rfl, by decide⟩⟩
      intro hweight
      exact absurd hweight (by decide)
  | negation ht hw _ ih =>
      obtain ⟨ts, h⟩ := ih
      refine ⟨_, hw.scans.append (by decide) h.scans.space, .negation ht h.derives, ?_,
        (operand_of_negates ht hw).append _⟩
      intro hweight
      exact absurd hweight (by decide)
  | compare _ ht hw _ ihl ihr =>
      obtain ⟨us, hl⟩ := ihl
      obtain ⟨vs, hr⟩ := ihr
      exact ⟨_, hl.between hw hr.scans (.compare hl.derives ht hr.derives) fun _ => by decide⟩
  | join hk _ ht hw _ ihl ihr =>
      obtain ⟨us, hl⟩ := ihl
      obtain ⟨vs, hr⟩ := ihr
      exact ⟨_, hl.between hw hr.scans (.join hk hl.derives ht hr.derives) id⟩
  | weaken hk _ ih =>
      obtain ⟨ts, h⟩ := ih
      exact ⟨ts, h.weaken hk⟩
  | spaceBefore _ ih =>
      obtain ⟨ts, h⟩ := ih
      exact ⟨ts, h.scans.space, h.derives, h.plain, ⟨_, _, rfl, by decide⟩⟩
  | spaceBehind _ ih =>
      obtain ⟨ts, h⟩ := ih
      refine ⟨ts, ?_, h.derives, h.plain, h.operand.append _⟩
      simpa using h.scans.append (by decide) Token.scans_nil.space

end Parse

namespace Expr

/-- Expressions over numbers that have a numeral, texts, truth values, names that are no words of the
language, and functions with as many arguments as they take. -/
inductive Writable : Expr → Prop where
  | number {x : Float} {cs : List Char} (hcs : Token.IsNumeral cs)
      (hx : Decimal.readFloat? (String.ofList cs) = some x) : Writable (.number x)
  | text (s : String) : Writable (.text s)
  | bool (b : Bool) : Writable (.bool b)
  | field {s : String} (hs : Token.IsName s.toList)
      (hword : Text.lowerAscii s ∉ ["true", "false", "not"]) : Writable (.field s)
  | unary (op : UnaryOp) {e : Expr} (h : Writable e) : Writable (.unary op e)
  | binary (op : BinaryOp) {l r : Expr} (hl : Writable l) (hr : Writable r) :
      Writable (.binary op l r)
  | call {function : Builtin} {args : List Expr} (hargs : ∀ e ∈ args, Writable e)
      (harity : args.length = function.arity) : Writable (.call function args)

/-- A primary can stand wherever an expression can. -/
theorem renders_of_primary {e : Expr} {cs : List Char} (h : Parse.Renders .primary e cs)
    (k : Parse.Level) : Parse.Renders k e cs := by
  have hsign := h.weaken .sign
  have hsum := hsign.weaken (.chain .sum)
  have hcomparison := hsum.weaken .comparison
  have hnot := hcomparison.weaken .not
  have hand := hnot.weaken (.chain .and)
  have hor := hand.weaken (.chain .or)
  cases k <;> assumption

/-- Every rule derives what can stand in brackets. -/
theorem renders_or {k : Parse.Level} {e : Expr} {cs : List Char} (h : Parse.Renders k e cs) :
    Parse.Renders .or e cs := by
  have hand : Parse.Renders .and e cs → Parse.Renders .or e cs := fun h => h.weaken (.chain .or)
  have hnot : Parse.Renders .not e cs → Parse.Renders .or e cs := fun h => hand (h.weaken (.chain .and))
  have hcomparison : Parse.Renders .comparison e cs → Parse.Renders .or e cs := fun h =>
    hnot (h.weaken .not)
  have hsum : Parse.Renders .sum e cs → Parse.Renders .or e cs := fun h =>
    hcomparison (h.weaken .comparison)
  cases k with
  | or => exact h
  | and => exact hand h
  | not => exact hnot h
  | comparison => exact hcomparison h
  | sum => exact hsum h
  | sign => exact hsum (h.weaken (.chain .sum))
  | primary => exact renders_of_primary h .or

theorem exists_renders_binary (op : BinaryOp) {l r : Expr} {ls rs : List Char}
    (hl : Parse.Renders .primary l ls) (hr : Parse.Renders .primary r rs) :
    ∃ cs, Parse.Renders .or (.binary op l r) cs := by
  have hleft := renders_of_primary hl
  have hright := renders_of_primary hr
  have hcompare : ∀ symbol, Parse.Compares (.symbol symbol) op →
      ∃ cs, Parse.Renders .or (.binary op l r) cs := fun symbol hop =>
    ⟨_, renders_or (.compare (hleft .sum) hop (.symbol symbol) (hright .sum))⟩
  have hjoin : ∀ symbol {k o}, Parse.Chains k o → Parse.Joins k (.symbol symbol) op →
      ∃ cs, Parse.Renders .or (.binary op l r) cs := fun symbol {k o} hk hop =>
    ⟨_, renders_or (.join hk (hleft k) hop (.symbol symbol) (hright o))⟩
  cases op with
  | eq => exact hcompare .eqEq .eqEq
  | ne => exact hcompare .bangEq .bangEq
  | lt => exact hcompare .lt .lt
  | le => exact hcompare .ltEq .ltEq
  | gt => exact hcompare .gt .gt
  | ge => exact hcompare .gtEq .gtEq
  | and => exact hjoin .andAnd .and .andSymbol
  | or => exact hjoin .orOr .or .orSymbol
  | add => exact hjoin .plus .sum .plus
  | sub => exact hjoin .minus .sum .minus

theorem isName_of_builtin (function : Builtin) : Token.IsName function.name.toList ∧
    Builtin.ofName? (Text.lowerAscii function.name) = some function := by
  constructor
  · cases function <;> exact .of_all (by decide) (by decide) (by decide)
  · cases function <;> rfl

theorem exists_renders_args {args : List Expr}
    (h : ∀ e ∈ args, ∃ cs, Parse.Renders .primary e cs) :
    ∃ texts : List (List Char × Expr), texts.map (·.2) = args ∧
      ∀ a ∈ texts, Parse.Renders .or a.2 a.1 := by
  induction args with
  | nil => exact ⟨[], rfl, by simp⟩
  | cons e args ih =>
      obtain ⟨cs, he⟩ := h e List.mem_cons_self
      obtain ⟨texts, hsame, htexts⟩ := ih fun e' he' => h e' (List.mem_cons_of_mem _ he')
      refine ⟨(cs, e) :: texts, by rw [List.map_cons, hsame], ?_⟩
      exact List.forall_mem_cons.2 ⟨renders_or he, htexts⟩

/-- Every expression that can be written has a text. -/
theorem Writable.renders {e : Expr} (h : Writable e) : ∃ cs, Parse.Renders .primary e cs := by
  induction h with
  | number hcs hx => exact ⟨_, .number hcs hx⟩
  | text s => exact ⟨_, .text (.inl rfl) s⟩
  | bool b =>
      cases b with
      | true => exact ⟨"true".toList, .bool true (.of_all (by decide) (by decide) (by decide)) rfl⟩
      | false => exact ⟨"false".toList, .bool false (.of_all (by decide) (by decide) (by decide)) rfl⟩
  | @field s hs hword =>
      have hfield := Parse.Renders.field hs (by rwa [String.ofList_toList])
      rw [String.ofList_toList] at hfield
      exact ⟨_, hfield⟩
  | unary op _ ih =>
      obtain ⟨cs, h⟩ := ih
      cases op with
      | not => exact ⟨_, .group (renders_or (.bang (renders_of_primary h .not)))⟩
      | neg => exact ⟨_, .group (renders_or (.opposite (renders_of_primary h .sign)))⟩
  | binary op _ _ ihl ihr =>
      obtain ⟨ls, hl⟩ := ihl
      obtain ⟨rs, hr⟩ := ihr
      obtain ⟨cs, hbinary⟩ := exists_renders_binary op hl hr
      exact ⟨_, .group hbinary⟩
  | @call function args _ harity ih =>
      obtain ⟨texts, rfl, htexts⟩ := exists_renders_args ih
      rw [List.length_map] at harity
      obtain ⟨hname, hbuiltin⟩ := isName_of_builtin function
      exact ⟨_, .call hname (by rwa [String.ofList_toList]) htexts harity⟩

theorem exists_readFloat?_of_isNumeral {cs : List Char} (h : Token.IsNumeral cs) :
    ∃ x, Decimal.readFloat? (String.ofList cs) = some x := by
  obtain ⟨hne, hdigits⟩ := h
  obtain ⟨c, after, rfl⟩ := List.exists_cons_of_ne_nil hne
  have hc : c.isDigit = true := hdigits c List.mem_cons_self
  have hsign : c ≠ '+' ∧ c ≠ '-' := by
    constructor <;> rintro rfl <;> cases hc
  obtain ⟨htake, hdrop⟩ := Token.span_boundary (p := Char.isDigit) (by decide) hdigits
    Token.boundary_nil
  rw [List.append_nil] at htake hdrop
  have hword : ∀ word : String, word.toList.head?.any Char.isDigit = false →
      String.ofList ((c :: after).map Char.toLower) ≠ word := by
    rintro word hdigit rfl
    have hlower : c.toLower = c := by
      obtain ⟨hlow, hhigh⟩ := Text.toNat_of_isDigit hc
      have hupper : ¬ (c.val ≥ 'A'.val ∧ c.val ≤ 'Z'.val) := by
        rintro ⟨hcapital, -⟩
        have hcode : 65 ≤ c.toNat := UInt32.le_iff_toNat_le.1 hcapital
        omega
      exact dif_neg hupper
    simp [hlower, hc] at hdigit
  have hunsigned : ∃ x, Decimal.readUnsignedFloat? (c :: after) = some x := by
    unfold Decimal.readUnsignedFloat?
    dsimp only
    rw [if_neg, if_neg, htake, hdrop]
    · exact ⟨_, rfl⟩
    · exact hword _ (by decide)
    · rintro (h | h)
      · exact hword _ (by decide) h
      · exact hword _ (by decide) h
  unfold Decimal.readFloat?
  rw [String.toList_ofList]
  split
  · rename_i heq
    exact absurd (List.cons.inj heq).1 hsign.1
  · rename_i heq
    exact absurd (List.cons.inj heq).1 hsign.2
  · exact hunsigned

/-- What is written with brackets at least where they are needed parses back. -/
theorem parse_of_renders {e : Expr} {source : String} (h : Parse.Renders .or e source.toList) :
    parse source = .ok e := by
  obtain ⟨ts, h⟩ := h.writes
  obtain ⟨located, hscan, htokens⟩ := h.scans.scan
  exact parse_eq_ok_iff.2 ⟨located, hscan, htokens ▸ h.derives⟩

/-- The parser accepts exactly the grammar: a text parses to an expression if and only if it can be cut
into tokens and the grammar derives the expression from them.  In particular every writable expression has
texts, and each of them parses back to it; the digits of a number are always readable. -/
theorem parser_accepts_grammar :
    (∀ (source : String) (e : Expr), parse source = .ok e ↔
      ∃ ts, Token.scan source = .ok ts ∧ Parse.Derives .or (ts.map (·.token)) e) ∧
    (∀ (e : Expr) (source : String), Parse.Renders .or e source.toList → parse source = .ok e) ∧
    (∀ e : Expr, Writable e → ∃ source : String, Parse.Renders .or e source.toList) ∧
    ∀ cs, Token.IsNumeral cs → ∃ x, Decimal.readFloat? (String.ofList cs) = some x ∧
      Writable (.number x) := by
  refine ⟨fun source e => parse_eq_ok_iff, fun e source => parse_of_renders, ?_, ?_⟩
  · intro e h
    obtain ⟨cs, hcs⟩ := h.renders
    refine ⟨String.ofList cs, ?_⟩
    rw [String.toList_ofList]
    exact renders_or hcs
  · intro cs hcs
    obtain ⟨x, hx⟩ := exists_readFloat?_of_isNumeral hcs
    exact ⟨x, hx, .number hcs hx⟩

/-- The text `!(Code = 'it\'s') or len(Code) >= 3` and its tree. -/
theorem parser_accepts_grammar_disjunction : ∃ x, Decimal.readFloat? "3" = some x ∧
    parse "!(Code = 'it\\'s') or len(Code) >= 3" =
      .ok (.binary .or (.unary .not (.binary .eq (.field "Code") (.text "it's")))
        (.binary .ge (.call .length [.field "Code"]) (.number x))) := by
  have hnumeral : Token.IsNumeral ['3'] := ⟨List.cons_ne_nil _ _, List.all_eq_true.1 (by decide)⟩
  obtain ⟨x, hx, -⟩ := parser_accepts_grammar.2.2.2 _ hnumeral
  have hword : ∀ word ∈ ["Code", "len", "or"], Token.IsName word.toList := by
    simp only [List.forall_mem_cons]
    refine ⟨?_, ?_, ?_, nofun⟩ <;> exact .of_all (by decide) (by decide) (by decide)
  have hcode : Parse.Renders .primary (.field "Code") "Code".toList :=
    .field (hword "Code" (by simp)) (by decide)
  have htext : Parse.Renders .primary (.text "it's") "'it\\'s'".toList := .text (.inl rfl) "it's"
  have hequal := Parse.Renders.compare (renders_of_primary hcode .sum) .eq (.symbol .eq)
    (renders_of_primary htext .sum)
  have hdifferent := (renders_of_primary (.group (renders_or hequal)) .not).bang
  have hlength : Parse.Renders .primary (.call .length [.field "Code"]) "len(Code)".toList :=
    @Parse.Renders.call _ _ [("Code".toList, .field "Code")] (hword "len" (by simp)) rfl
      (by simpa using renders_or hcode) rfl
  have hlong := Parse.Renders.compare (renders_of_primary hlength .sum) .gtEq (.symbol .gtEq)
    (renders_of_primary (.number hnumeral hx) .sum)
  have hboth := Parse.Renders.join .or (renders_or hdifferent) (.orWord rfl)
    (.name (hword "or" (by simp))) ((hlong.weaken .not).weaken (.chain .and))
  refine ⟨x, hx, parser_accepts_grammar.2.1 _ _ ?_⟩
  exact hboth

end Expr
end Specimen
