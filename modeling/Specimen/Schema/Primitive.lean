/-!
# Simple types

The built-in simple types of XML Schema that a simple type can restrict, with their names and the
families they belong to.

A simple type is a built-in type together with the facets that narrow it.  Bounds are kept as they were
written, since their meaning depends on the base.
-/

namespace Specimen

/-! ## Built-in types -/

/-- A built-in simple type. -/
inductive Primitive where
  | string
  | normalizedString
  | token
  | language
  | name
  | ncName
  | nmToken
  | qName
  | id
  | idRef
  | anyUri
  | boolean
  | decimal
  | integer
  | long
  | int
  | short
  | byte
  | nonNegativeInteger
  | positiveInteger
  | nonPositiveInteger
  | negativeInteger
  | unsignedLong
  | unsignedInt
  | unsignedShort
  | unsignedByte
  | float
  | double
  | date
  | dateTime
  | time
  | gYear
  | gYearMonth
  | duration
  | base64Binary
  | hexBinary
  deriving DecidableEq, Repr, Inhabited

namespace Primitive

/-- The name of a built-in type, without a prefix. -/
def xsdName : Primitive → String
  | .string => "string"
  | .normalizedString => "normalizedString"
  | .token => "token"
  | .language => "language"
  | .name => "Name"
  | .ncName => "NCName"
  | .nmToken => "NMTOKEN"
  | .qName => "QName"
  | .id => "ID"
  | .idRef => "IDREF"
  | .anyUri => "anyURI"
  | .boolean => "boolean"
  | .decimal => "decimal"
  | .integer => "integer"
  | .long => "long"
  | .int => "int"
  | .short => "short"
  | .byte => "byte"
  | .nonNegativeInteger => "nonNegativeInteger"
  | .positiveInteger => "positiveInteger"
  | .nonPositiveInteger => "nonPositiveInteger"
  | .negativeInteger => "negativeInteger"
  | .unsignedLong => "unsignedLong"
  | .unsignedInt => "unsignedInt"
  | .unsignedShort => "unsignedShort"
  | .unsignedByte => "unsignedByte"
  | .float => "float"
  | .double => "double"
  | .date => "date"
  | .dateTime => "dateTime"
  | .time => "time"
  | .gYear => "gYear"
  | .gYearMonth => "gYearMonth"
  | .duration => "duration"
  | .base64Binary => "base64Binary"
  | .hexBinary => "hexBinary"

/-- Every built-in type, in the order in which they are listed to users. -/
def all : List Primitive := [
  .string, .normalizedString, .token, .language, .name, .ncName, .nmToken, .qName, .id, .idRef,
  .anyUri, .boolean, .decimal, .integer, .long, .int, .short, .byte, .nonNegativeInteger,
  .positiveInteger, .nonPositiveInteger, .negativeInteger, .unsignedLong, .unsignedInt,
  .unsignedShort, .unsignedByte, .float, .double, .date, .dateTime, .time, .gYear, .gYearMonth,
  .duration, .base64Binary, .hexBinary]

theorem mem_all (p : Primitive) : p ∈ all := by
  cases p <;> decide

def ofName? (name : String) : Option Primitive :=
  all.find? fun p => p.xsdName == name

/-- The built-in type that a reference names: its bare name, or its name behind `xs:` or `xsd:`. -/
def ofTypeName? (name : String) : Option Primitive :=
  let cs := name.toList
  match cs.dropWhile (· ≠ ':') with
  | [] => ofName? name
  | _ :: after =>
    let lead := String.ofList (cs.takeWhile (· ≠ ':'))
    if lead = "xs" ∨ lead = "xsd" then ofName? (String.ofList after) else none

/-- The least and the greatest value of an integer type. -/
def integerRange? : Primitive → Option (Int × Int)
  | .integer => some (-(Nat.pow 2 63), Nat.pow 2 63 - 1)
  | .long => some (-(Nat.pow 2 63), Nat.pow 2 63 - 1)
  | .int => some (-(Nat.pow 2 31), Nat.pow 2 31 - 1)
  | .short => some (-(Nat.pow 2 15), Nat.pow 2 15 - 1)
  | .byte => some (-(Nat.pow 2 7), Nat.pow 2 7 - 1)
  | .nonNegativeInteger => some (0, Nat.pow 2 63 - 1)
  | .positiveInteger => some (1, Nat.pow 2 63 - 1)
  | .nonPositiveInteger => some (-(Nat.pow 2 63), 0)
  | .negativeInteger => some (-(Nat.pow 2 63), -1)
  | .unsignedLong => some (0, Nat.pow 2 64 - 1)
  | .unsignedInt => some (0, Nat.pow 2 32 - 1)
  | .unsignedShort => some (0, Nat.pow 2 16 - 1)
  | .unsignedByte => some (0, Nat.pow 2 8 - 1)
  | _ => none

def isInteger (p : Primitive) : Bool := p.integerRange?.isSome

def isNumeric (p : Primitive) : Bool :=
  p.isInteger || p == .decimal || p == .float || p == .double

def isTemporal : Primitive → Bool
  | .date | .dateTime | .time | .gYear | .gYearMonth => true
  | _ => false

def isTextual : Primitive → Bool
  | .string | .normalizedString | .token => true
  | _ => false

end Primitive

/-! ## Facets -/

/-- A simple type: its base and the facets that narrow it. -/
structure Facets where
  base : Primitive
  pattern : Option String := none
  enumeration : List String := []
  length : Option UInt32 := none
  minLength : Option UInt32 := none
  maxLength : Option UInt32 := none
  minInclusive : Option String := none
  maxInclusive : Option String := none
  minExclusive : Option String := none
  maxExclusive : Option String := none
  totalDigits : Option UInt32 := none
  fractionDigits : Option UInt32 := none
  deriving DecidableEq, Repr, Inhabited

namespace Facets

/-- The simple type that narrows its base by nothing. -/
def ofBase (base : Primitive) : Facets := { base }

/-- Whether no facet narrows the base. -/
def isUnrestricted (f : Facets) : Bool :=
  f.pattern.isNone && f.enumeration.isEmpty && f.length.isNone && f.minLength.isNone &&
    f.maxLength.isNone && f.minInclusive.isNone && f.maxInclusive.isNone && f.minExclusive.isNone &&
    f.maxExclusive.isNone && f.totalDigits.isNone && f.fractionDigits.isNone

/-- The least and the greatest length; a fixed length is both. -/
def lengthBounds (f : Facets) : Option Nat × Option Nat :=
  match f.length with
  | some n => (some n.toNat, some n.toNat)
  | none => (f.minLength.map UInt32.toNat, f.maxLength.map UInt32.toNat)

end Facets
end Specimen
