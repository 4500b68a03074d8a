import Specimen.Calendar.Date
import Specimen.Pattern.Sampler
import Specimen.Schema.Primitive

/-!
# Value generators

A generator makes up the text of one leaf from its simple type and a stream of random words.  It may
refuse, because no value exists or its pattern cannot be sampled, and it may break, when a number or a
date leaves the range that can be computed with; `GeneratorFailure` tells the two apart.

What it means to match a pattern, which texts are made up for one, and which names and places look real
are matters of libraries: generators take them as they are given (`Libraries`).
-/

namespace Specimen

/-- What a generator knows about a leaf. -/
structure Leaf where
  /-- The local name of the element, or `@` and that of the attribute. -/
  name : String
  path : String
  facets : Facets
  /-- The date around which temporal values lie. -/
  baseDate : Date

/-- How a computation can leave its range. -/
inductive Fault where
  | integerOverflow
  | dateOverflow
  | emptyRange
  deriving DecidableEq, Repr

def Fault.message : Fault → String
  | .integerOverflow => "an integer left its range"
  | .dateOverflow => "a date left its range"
  | .emptyRange => "nothing can be drawn from an empty range"

/-- Why there is no value for a leaf. -/
inductive GeneratorFailure where
  /-- No value satisfies the facets of a base type. -/
  | unsatisfiable (reason : String) (base : Primitive)
  /-- No text can be made up for the pattern at a path. -/
  | pattern (pattern path : String) (cause : Pattern.SampleError)
  /-- The computation left its range. -/
  | broken (fault : Fault)
  deriving DecidableEq, Repr

namespace GeneratorFailure

def message : GeneratorFailure → String
  | .unsatisfiable reason base => reason ++ " for " ++ base.xsdName ++ " facets"
  | .pattern pat path cause => "pattern '" ++ pat ++ "' on '" ++ path ++ "': " ++ cause.message
  | .broken fault => fault.message

end GeneratorFailure

/-- A computation that draws from a stream and may fail. -/
abbrev Attempt := ExceptT GeneratorFailure Random.Draw

/-- The generators that go by the simple type alone. -/
inductive PrimitiveGenerator where
  | base64
  | boolean
  | date
  | dateTime
  | decimal
  | duration
  | enumeration
  | float
  | gYear
  | gYearMonth
  | hex
  | integer
  | language
  | ncName
  | pattern
  | qName
  | string
  | time
  | uri
  deriving DecidableEq, Repr

/-- The generators that go by the name of a leaf. -/
inductive SemanticGenerator where
  | city
  | company
  | country
  | email
  | firstName
  | fullName
  | jobTitle
  | lastName
  | phone
  | sentence
  | state
  | street
  | url
  | username
  | zip
  deriving DecidableEq, Repr

/-- What values are made of and judged by that is settled elsewhere. -/
structure Libraries where
  /-- Whether a text matches a pattern as a whole. -/
  isMatch : (pattern text : String) → Bool
  /-- Makes up a text for a pattern, or tells why there is none. -/
  sample? : (pattern : String) → Except Pattern.SampleError (Random.Draw String)
  /-- Makes up a value that looks real. -/
  realistic : SemanticGenerator → Random.Draw String

/-- A generator. -/
inductive Generator where
  | primitive (kind : PrimitiveGenerator)
  | semantic (kind : SemanticGenerator)
  deriving DecidableEq, Repr

namespace PrimitiveGenerator

/-- The last part of the identifier of a generator. -/
def name : PrimitiveGenerator → String
  | .base64 => "base64"
  | .boolean => "boolean"
  | .date => "date"
  | .dateTime => "datetime"
  | .decimal => "decimal"
  | .duration => "duration"
  | .enumeration => "enumeration"
  | .float => "float"
  | .gYear => "gyear"
  | .gYearMonth => "gyearmonth"
  | .hex => "hex"
  | .integer => "integer"
  | .language => "language"
  | .ncName => "ncname"
  | .pattern => "pattern"
  | .qName => "qname"
  | .string => "string"
  | .time => "time"
  | .uri => "uri"

/-- The generators in the order of their identifiers. -/
def all : List PrimitiveGenerator := [
  .base64, .boolean, .date, .dateTime, .decimal, .duration, .enumeration, .float, .gYear,
  .gYearMonth, .hex, .integer, .language, .ncName, .pattern, .qName, .string, .time, .uri]

end PrimitiveGenerator

namespace SemanticGenerator

/-- The last part of the identifier of a generator. -/
def name : SemanticGenerator → String
  | .city => "city"
  | .company => "company"
  | .country => "country"
  | .email => "email"
  | .firstName => "first_name"
  | .fullName => "full_name"
  | .jobTitle => "job_title"
  | .lastName => "last_name"
  | .phone => "phone"
  | .sentence => "sentence"
  | .state => "state"
  | .street => "street"
  | .url => "url"
  | .username => "username"
  | .zip => "zip"

/-- The generators in the order of their identifiers. -/
def all : List SemanticGenerator := [
  .city, .company, .country, .email, .firstName, .fullName, .jobTitle, .lastName, .phone,
  .sentence, .state, .street, .url, .username, .zip]

end SemanticGenerator

namespace Generator

def id : Generator → String
  | .primitive g => "primitive." ++ g.name
  | .semantic g => "semantic." ++ g.name

/-- The generators in the order of their identifiers. -/
def all : List Generator :=
  PrimitiveGenerator.all.map .primitive ++ SemanticGenerator.all.map .semantic

def ofId? (id : String) : Option Generator := all.find? fun g => g.id == id

/-- The generator that honours the facets of a simple type. -/
def forFacets (f : Facets) : PrimitiveGenerator :=
  if !f.enumeration.isEmpty then .enumeration
  else if f.pattern.isSome then .pattern
  else
    match f.base with
    | .boolean => .boolean
    | .decimal => .decimal
    | .float | .double => .float
    | .date => .date
    | .dateTime => .dateTime
    | .time => .time
    | .gYear => .gYear
    | .gYearMonth => .gYearMonth
    | .duration => .duration
    | .anyUri => .uri
    | .language => .language
    | .qName => .qName
    | .id | .idRef | .ncName | .name | .nmToken => .ncName
    | .base64Binary => .base64
    | .hexBinary => .hex
    | .string | .normalizedString | .token => .string
    | _ => .integer

end Generator
end Specimen
