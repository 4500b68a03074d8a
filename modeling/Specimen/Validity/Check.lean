import Specimen.Pattern.Matcher
import Specimen.Schema.Primitive
import Specimen.Validity.Lexical

/-!
# Values of simple types

A text is a value of a simple type when it has the form of the base type and satisfies every facet.  The
first facet that fails is reported: form, enumeration, length, pattern, bounds, digits.

Numbers are compared as doubles.  Points in time are compared as texts, which is their order as long as
they are written in the same way.
-/

namespace Specimen

/-- The facets that bound a value. -/
inductive BoundKind where
  | minInclusive
  | maxInclusive
  | minExclusive
  | maxExclusive
  deriving DecidableEq, Repr

namespace BoundKind

def name : BoundKind → String
  | .minInclusive => "minInclusive"
  | .maxInclusive => "maxInclusive"
  | .minExclusive => "minExclusive"
  | .maxExclusive => "maxExclusive"

/-- Whether a value that compares with a bound in this way respects it. -/
def allows : BoundKind → Ordering → Bool
  | .minInclusive, o => o != .lt
  | .maxInclusive, o => o != .gt
  | .minExclusive, o => o == .gt
  | .maxExclusive, o => o == .lt

end BoundKind

/-- Why a text is not a value of a simple type. -/
inductive Rejection where
  | form (value : String) (base : Primitive)
  | notEnumerated (value : String)
  | tooShort (length minimum : Nat)
  | tooLong (length maximum : Nat)
  | pattern (value pattern : String)
  | bound (value : String) (kind : BoundKind) (bound : String)
  | fractionDigits (value : String) (limit : Nat)
  | totalDigits (value : String) (limit : Nat)
  deriving DecidableEq, Repr

namespace Rejection

def message : Rejection → String
  | .form value base => "'" ++ value ++ "' is not a valid " ++ base.xsdName
  | .notEnumerated value => "'" ++ value ++ "' is not one of the enumerated values"
  | .tooShort length minimum =>
    "length " ++ toString length ++ " is below minimum " ++ toString minimum
  | .tooLong length maximum => "length " ++ toString length ++ " exceeds maximum " ++ toString maximum
  | .pattern value p => "'" ++ value ++ "' does not match pattern '" ++ p ++ "'"
  | .bound value kind b => "'" ++ value ++ "' violates " ++ kind.name ++ " " ++ b
  | .fractionDigits value limit =>
    "'" ++ value ++ "' has more than " ++ toString limit ++ " fraction digits"
  | .totalDigits value limit =>
    "'" ++ value ++ "' has more than " ++ toString limit ++ " total digits"

end Rejection

/-- The length of a value: octets for binary types, characters otherwise. -/
def valueLength (base : Primitive) (value : String) : Nat :=
  match base with
  | .hexBinary => value.utf8ByteSize / 2
  | .base64Binary => (Encoding.base64Length? value.toList).getD 0
  | _ => value.length

/-- The order of two numbers, when neither is undefined. -/
def compareFloats? (x y : Float) : Option Ordering :=
  if x < y then some .lt else if y < x then some .gt else if x == y then some .eq else none

def compareStrings (a b : String) : Ordering :=
  if a < b then .lt else if a = b then .eq else .gt

/-- The order of two values of an ordered type. -/
def compareOrdered (base : Primitive) (a b : String) : Option Ordering :=
  if base.isNumeric then
    match Decimal.readFloat? a, Decimal.readFloat? b with
    | some x, some y => compareFloats? x y
    | _, _ => none
  else if base.isTemporal then some (compareStrings a b)
  else none

namespace Facets

/-- The bounds of a simple type, in the order in which they are checked. -/
def bounds (f : Facets) : List (BoundKind × String) :=
  let bound (kind : BoundKind) (b : Option String) := (b.map fun s => (kind, s)).toList
  bound .minInclusive f.minInclusive ++ bound .maxInclusive f.maxInclusive ++
    bound .minExclusive f.minExclusive ++ bound .maxExclusive f.maxExclusive

def checkForm (f : Facets) (value : String) : Except Rejection Unit :=
  if Lexical.isValue f.base value then .ok () else .error (.form value f.base)

/-- Checks that a value is one of those enumerated. -/
def checkEnumeration (f : Facets) (value : String) : Except Rejection Unit :=
  if f.enumeration.isEmpty || f.enumeration.contains value then .ok ()
  else .error (.notEnumerated value)

def checkLength (f : Facets) (value : String) : Except Rejection Unit :=
  let length := valueLength f.base value
  let low := f.lengthBounds.1.getD 0
  if length < low then .error (.tooShort length low)
  else
    match f.lengthBounds.2 with
    | some high => if high < length then .error (.tooLong length high) else .ok ()
    | none => .ok ()

def checkPattern (isMatch : (pattern text : String) → Bool) (f : Facets) (value : String) :
    Except Rejection Unit :=
  match f.pattern with
  | some p => if isMatch p value then .ok () else .error (.pattern value p)
  | none => .ok ()

/-- Checks a value against bounds; bounds that cannot be compared with it are passed over. -/
def checkBounds (base : Primitive) (value : String) : List (BoundKind × String) → Except Rejection Unit
  | [] => .ok ()
  | (kind, bound) :: rest =>
    match compareOrdered base value bound with
    | some o => if kind.allows o then checkBounds base value rest else .error (.bound value kind bound)
    | none => checkBounds base value rest

/-- Checks the number of digits of a value that is a decimal number. -/
def checkDigits (f : Facets) (value : String) : Except Rejection Unit :=
  match Lexical.decimalDigits? value.toList with
  | none => .ok ()
  | some (whole, part) =>
    let whole := whole.dropWhile (· = '0')
    let part := (part.reverse.dropWhile (· = '0')).reverse
    let exceeds (limit : Option UInt32) (count : Nat) : Option Nat :=
      (limit.map UInt32.toNat).filter fun n => n < count
    match exceeds f.fractionDigits part.length, exceeds f.totalDigits (whole.length + part.length) with
    | some limit, _ => .error (.fractionDigits value limit)
    | none, some limit => .error (.totalDigits value limit)
    | none, none => .ok ()

/-- Checks a value against a simple type; what it means to match a pattern is taken as given. -/
def check (f : Facets) (value : String) (isMatch : (pattern text : String) → Bool := Pattern.accepts) :
    Except Rejection Unit := do
  f.checkForm value
  f.checkEnumeration value
  f.checkLength value
  f.checkPattern isMatch value
  checkBounds f.base value f.bounds
  f.checkDigits value

/-- Whether a text is a value of a simple type. -/
def accepts (f : Facets) (value : String) (isMatch : (pattern text : String) → Bool := Pattern.accepts) :
    Bool :=
  match f.check value isMatch with
  | .ok _ => true
  | .error _ => false

end Facets
end Specimen
