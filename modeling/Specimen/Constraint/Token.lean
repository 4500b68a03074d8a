import Specimen.Constraint.Expr
import Specimen.Decimal.Reader
import Specimen.Text.Property

/-!
# Tokens of constraints

A constraint is cut into names, numbers, quoted texts, brackets, commas and operators.  Each token knows
the byte at which it begins.  Operators are the longest that fit; a name begins with a letter, an
underscore or the mark of an attribute; in a quoted text a backslash keeps the next character.
-/

namespace Specimen

/-- An operator as it is written. -/
inductive Symbol where
  | eqEq
  | bangEq
  | ltGt
  | ltEq
  | gtEq
  | andAnd
  | orOr
  | eq
  | lt
  | gt
  | bang
  | plus
  | minus
  deriving DecidableEq, Repr

namespace Symbol

def text : Symbol → String
  | .eqEq => "=="
  | .bangEq => "!="
  | .ltGt => "<>"
  | .ltEq => "<="
  | .gtEq => ">="
  | .andAnd => "&&"
  | .orOr => "||"
  | .eq => "="
  | .lt => "<"
  | .gt => ">"
  | .bang => "!"
  | .plus => "+"
  | .minus => "-"

/-- The longest operator that a text begins with, and what follows it. -/
def ofChars? : List Char → Option (Symbol × List Char)
  | '=' :: '=' :: rest => some (.eqEq, rest)
  | '!' :: '=' :: rest => some (.bangEq, rest)
  | '<' :: '>' :: rest => some (.ltGt, rest)
  | '<' :: '=' :: rest => some (.ltEq, rest)
  | '>' :: '=' :: rest => some (.gtEq, rest)
  | '&' :: '&' :: rest => some (.andAnd, rest)
  | '|' :: '|' :: rest => some (.orOr, rest)
  | '=' :: rest => some (.eq, rest)
  | '<' :: rest => some (.lt, rest)
  | '>' :: rest => some (.gt, rest)
  | '!' :: rest => some (.bang, rest)
  | '+' :: rest => some (.plus, rest)
  | '-' :: rest => some (.minus, rest)
  | _ => none

theorem length_lt_of_ofChars? {cs rest : List Char} {s : Symbol} (h : ofChars? cs = some (s, rest)) :
    rest.length < cs.length := by
  unfold ofChars? at h
  split at h <;> simp only [Option.some.injEq, Prod.mk.injEq, reduceCtorEq] at h <;>
    (obtain ⟨_, rfl⟩ := h; simp only [List.length_cons]; omega)

end Symbol

/-- A token of a constraint. -/
inductive Token where
  | name (text : String)
  | number (value : Float)
  | text (value : String)
  | openParen
  | closeParen
  | comma
  | symbol (symbol : Symbol)

namespace Token

def describe : Token → String
  | .name s => "'" ++ s ++ "'"
  | .number x => "'" ++ Decimal.plain.write x ++ "'"
  | .text s => "string '" ++ s ++ "'"
  | .openParen => "'('"
  | .closeParen => "')'"
  | .comma => "','"
  | .symbol s => "'" ++ s.text ++ "'"

end Token

/-- A token and the byte at which it begins. -/
structure Located where
  token : Token
  position : Nat

/-- What is wrong with the text of a constraint. -/
inductive SyntaxFault where
  | unterminatedText
  | invalidNumber (literal : String)
  | unexpectedChar (c : Char)
  | unexpectedToken (token : Token)
  | unexpectedEnd
  | expectedClose
  | expectedSeparator
  | unknownFunction (name : String)
  | wrongArity (function : Builtin) (count : Nat)

/-- A fault in the text of a constraint and the byte at which it was noticed. -/
structure SyntaxError where
  fault : SyntaxFault
  position : Nat

namespace SyntaxError

/-- The wording of a fault without its position. -/
def detail (e : SyntaxError) : String :=
  match e.fault with
  | .unterminatedText => "unterminated string literal"
  | .invalidNumber literal => "invalid number '" ++ literal ++ "'"
  | .unexpectedChar c => "unexpected character '" ++ String.singleton c ++ "'"
  | .unexpectedToken token => "unexpected token " ++ token.describe
  | .unexpectedEnd => "unexpected end of expression"
  | .expectedClose => "expected ')'"
  | .expectedSeparator => "expected ',' or ')'"
  | .unknownFunction name => "unknown function '" ++ name ++ "'"
  | .wrongArity function count =>
    "function '" ++ function.name ++ "' expects " ++ toString function.arity ++
      " argument(s), got " ++ toString count

def message (e : SyntaxError) : String :=
  e.detail ++ " at offset " ++ toString e.position

end SyntaxError

namespace Token

def byteLength (cs : List Char) : Nat := cs.foldl (fun n c => n + c.utf8Size) 0

/-- Reads a quoted text after its opening quote: its characters and what follows the closing quote. -/
def quoted? (quote : Char) : List Char → Option (List Char × List Char)
  | [] => none
  | c :: rest =>
    if c = quote then some ([], rest)
    else if c = '\\' then
      match rest with
      | [] => none
      | escaped :: rest => (quoted? quote rest).map fun p => (escaped :: p.1, p.2)
    else (quoted? quote rest).map fun p => (c :: p.1, p.2)

theorem length_lt_of_quoted? {quote : Char} {cs text rest : List Char}
    (h : quoted? quote cs = some (text, rest)) : rest.length < cs.length := by
  fun_induction quoted? quote cs generalizing text with
  | case1 => simp at h
  | case2 => simp_all
  | case3 => simp at h
  | case4 _ escaped rest' ih =>
    simp only [Option.map_eq_some_iff, Prod.mk.injEq, Prod.exists] at h
    obtain ⟨t, r, hq, _, rfl⟩ := h
    have := ih hq
    simp only [List.length_cons]
    omega
  | case5 c rest' _ _ ih =>
    simp only [Option.map_eq_some_iff, Prod.mk.injEq, Prod.exists] at h
    obtain ⟨t, r, hq, _, rfl⟩ := h
    have := ih hq
    simp only [List.length_cons]
    omega

def isNumberChar (c : Char) : Bool := c.isDigit || c == '.'

def isNameChar (c : Char) : Bool := Text.isAlphanumeric c || c == '_' || c == '.' || c == '@'

/-- Whether a character continues the name of an attribute. -/
def isAttributeChar (c : Char) : Bool := Text.isAlphanumeric c || c == '_'

theorem length_dropWhile_le (p : Char → Bool) (cs : List Char) :
    (cs.dropWhile p).length ≤ cs.length :=
  (List.dropWhile_suffix p).length_le

/-- The tokens of a text that begins at byte `offset`. -/
def scanFrom (offset : Nat) (cs : List Char) : Except SyntaxError (List Located) :=
  match cs with
  | [] => .ok []
  | c :: rest =>
    if Text.isBlank c then scanFrom (offset + c.utf8Size) rest
    else if c = '(' then (scanFrom (offset + 1) rest).map (⟨.openParen, offset⟩ :: ·)
    else if c = ')' then (scanFrom (offset + 1) rest).map (⟨.closeParen, offset⟩ :: ·)
    else if c = ',' then (scanFrom (offset + 1) rest).map (⟨.comma, offset⟩ :: ·)
    else if c = '\'' ∨ c = '"' then
      match h : quoted? c rest with
      | none => .error ⟨.unterminatedText, offset⟩
      | some (body, after) =>
        have := length_lt_of_quoted? h
        let next := offset + byteLength (c :: rest) - byteLength after
        (scanFrom next after).map (⟨.text (String.ofList body), offset⟩ :: ·)
    else if c.isDigit then
      let literal := c :: rest.takeWhile isNumberChar
      have := length_dropWhile_le isNumberChar rest
      match Decimal.readFloat? (String.ofList literal) with
      | none => .error ⟨.invalidNumber (String.ofList literal), offset⟩
      | some value =>
        (scanFrom (offset + byteLength literal) (rest.dropWhile isNumberChar)).map
          (⟨.number value, offset⟩ :: ·)
    else if Text.isAlphabetic c ∨ c = '_' then
      let name := c :: rest.takeWhile isNameChar
      have := length_dropWhile_le isNameChar rest
      (scanFrom (offset + byteLength name) (rest.dropWhile isNameChar)).map
        (⟨.name (String.ofList name), offset⟩ :: ·)
    else if c = '@' then
      let name := c :: rest.takeWhile isAttributeChar
      have := length_dropWhile_le isAttributeChar rest
      (scanFrom (offset + byteLength name) (rest.dropWhile isAttributeChar)).map
        (⟨.name (String.ofList name), offset⟩ :: ·)
    else
      match h : Symbol.ofChars? (c :: rest) with
      | none => .error ⟨.unexpectedChar c, offset⟩
      | some (op, after) =>
        have := Symbol.length_lt_of_ofChars? h
        (scanFrom (offset + (rest.length + 1 - after.length)) after).map
          (⟨.symbol op, offset⟩ :: ·)
termination_by cs.length
decreasing_by all_goals simp_all <;> omega

def scan (source : String) : Except SyntaxError (List Located) := scanFrom 0 source.toList

end Token
end Specimen
