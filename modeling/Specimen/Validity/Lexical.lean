import Specimen.Calendar.Reader
import Specimen.Decimal.Reader
import Specimen.Encoding.Binary
import Specimen.Schema.Primitive
import Specimen.Text.Property
import Specimen.Text.Split

/-!
# Lexical forms

Which texts are values of a built-in type.  Numbers are read as `Specimen.Decimal` reads them and dates
as `Specimen.Calendar` does; names, languages and durations have grammars of their own.
-/

namespace Specimen
namespace Lexical

/-- Splits a text at the first occurrence of a mark. -/
def splitOnce? (mark : Char) (cs : List Char) : Option (List Char × List Char) :=
  match cs.dropWhile (· ≠ mark) with
  | [] => none
  | _ :: after => some (cs.takeWhile (· ≠ mark), after)

/-- The digits before and after the point of a decimal number, without its sign. -/
def decimalDigits? (cs : List Char) : Option (List Char × List Char) :=
  let unsigned := match cs with
    | '-' :: rest => rest
    | '+' :: rest => rest
    | rest => rest
  let (whole, part) := (splitOnce? '.' unsigned).getD (unsigned, [])
  if (whole.isEmpty && part.isEmpty) || !whole.all Char.isDigit || !part.all Char.isDigit then none
  else some (whole, part)

/-- Whether a text has a tab or a line end. -/
def hasLineMark (cs : List Char) : Bool :=
  cs.any fun c => c = '\t' || c = '\n' || c = '\r'

/-- Whether a text has two blanks in a row. -/
def hasDoubleBlank : List Char → Bool
  | ' ' :: ' ' :: _ => true
  | _ :: rest => hasDoubleBlank rest
  | [] => false

/-- Whether a name can begin with a character. -/
def isNameStart (c : Char) : Bool := Text.isAlphabetic c || c == '_'

/-- Whether a name can go on with a character. -/
def isNameChar (c : Char) : Bool := Text.isAlphanumeric c || c == '_' || c == '-' || c == '.'

/-- Whether a text is a name without colons. -/
def isLocalName : List Char → Bool
  | [] => false
  | c :: rest => isNameStart c && rest.all isNameChar

def isName : List Char → Bool
  | [] => false
  | c :: rest => (isNameStart c || c == ':') && rest.all fun c => isNameChar c || c == ':'

/-- Whether a text is a name that may have one prefix. -/
def isQualifiedName (cs : List Char) : Bool :=
  match splitOnce? ':' cs with
  | some (lead, rest) => isLocalName lead && isLocalName rest
  | none => isLocalName cs

def isNameToken (cs : List Char) : Bool :=
  !cs.isEmpty &&
    cs.all fun c => Text.isAlphanumeric c || c == '.' || c == '_' || c == '-' || c == ':'

/-- Whether a text names a language: words of one to eight characters with hyphens between them. -/
def isLanguage (cs : List Char) : Bool :=
  match Text.splitAt '-' cs with
  | [] => false
  | first :: rest =>
    let fits (part : List Char) : Bool := 1 ≤ part.length && part.length ≤ 8
    fits first && first.all Char.isAlpha && rest.all fun part => fits part && part.all Char.isAlphanum

/-- Whether every designator of a part of a duration follows a number and they come in order; `hasNumber`
says that a number stands before the text. -/
def designatorsInOrder (hasNumber : Bool) (order : List Char) : List Char → Bool
  | [] => !hasNumber
  | c :: rest =>
    if c.isDigit || c == '.' then designatorsInOrder true order rest
    else
      match order.dropWhile (· ≠ c) with
      | [] => false
      | _ :: later => hasNumber && designatorsInOrder false later rest

def isDuration (cs : List Char) : Bool :=
  let body := match cs with
    | '-' :: rest => rest
    | rest => rest
  match body with
  | 'P' :: body =>
    if body.isEmpty || body.getLast? == some 'T' then false
    else
      let (date, time) := (splitOnce? 'T' body).getD (body, [])
      designatorsInOrder false ['Y', 'M', 'D'] date && designatorsInOrder false ['H', 'M', 'S'] time
  | _ => false

/-- Whether a text is an integer within bounds. -/
def isIntegerWithin (low high : Int) (s : String) : Bool :=
  match Decimal.readWide? s with
  | some n => decide (low ≤ n) && decide (n ≤ high)
  | none => false

/-- Whether a text is a year: an integer of at least four characters. -/
def isYear (s : String) : Bool :=
  4 ≤ s.utf8ByteSize && (Decimal.readIntWithin? (-(Nat.pow 2 31)) (Nat.pow 2 31 - 1) s).isSome

/-- Whether a text is a value of a built-in type. -/
def isValue (base : Primitive) (s : String) : Bool :=
  let cs := s.toList
  match base with
  | .boolean => s == "true" || s == "false" || s == "1" || s == "0"
  | .decimal => (decimalDigits? cs).isSome
  | .float | .double => (Decimal.readFloat? s).isSome
  | .date => (Date.read? s).isSome
  | .dateTime => (Moment.read? s).isSome || Moment.isStamp s
  | .time => (TimeOfDay.read? s).isSome
  | .gYear => isYear s
  | .gYearMonth => (Date.read? (s ++ "-01")).isSome
  | .duration => isDuration cs
  | .hexBinary => Encoding.isHex cs
  | .base64Binary => (Encoding.base64Length? cs).isSome
  | .language => isLanguage cs
  | .ncName | .id | .idRef => isLocalName cs
  | .name => isName cs
  | .qName => isQualifiedName cs
  | .nmToken => isNameToken cs
  | .token => Text.trimChars cs == cs && !hasDoubleBlank cs && !hasLineMark cs
  | .normalizedString => !hasLineMark cs
  | .anyUri => !cs.any Text.isBlank
  | .string => true
  | other =>
    match other.integerRange? with
    | some (low, high) => isIntegerWithin low high s
    | none => true

end Lexical
end Specimen
