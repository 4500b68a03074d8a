import Specimen.Calendar.Reader
import Specimen.Decimal.Reader
import Specimen.Decimal.Writer
import Specimen.Encoding.Binary
import Specimen.Generator.Basic
import Specimen.Text.Case

/-!
# Generators for built-in types

For every family of built-in types a generator that honours the facets it knows.  Sides that no facet
bounds are narrowed to a readable window: integers from 0 to 10000, dates within a year of the base
date, texts of four to twelve characters.
-/

namespace Specimen
namespace Generate

open Specimen.Random

def failWith {α : Type} (e : GeneratorFailure) : Attempt α := throw e

/-- Stops because no value satisfies the facets. -/
def unsatisfiable {α : Type} (f : Facets) (reason : String) : Except GeneratorFailure α :=
  .error (.unsatisfiable reason f.base)

def broken {α : Type} (fault : Fault) : Except GeneratorFailure α := .error (.broken fault)

def wordMax : Nat := Nat.pow 2 32 - 1

/-! ## Texts -/

def charset : List Char :=
  "abcdefghijklmnopqrstuvwxyzABCDEFGHIJKLMNOPQRSTUVWXYZ0123456789".toList

/-- The least and the greatest length of a made-up text. -/
def textLengthRange (f : Facets) : Nat × Nat :=
  match f.lengthBounds with
  | (some low, some high) => (min low high, high)
  | (some low, none) => (low, min (low + 8) wordMax)
  | (none, some high) => (min 4 high, min high (4 + 32))
  | (none, none) => (4, 12)

def randomChars : Nat → Draw (List Char)
  | 0 => return []
  | n + 1 => do
    let index ← Draw.index charset.length
    return charset.getD index 'a' :: (← randomChars n)

/-- A text of a length that the facets allow. -/
def string (f : Facets) : Draw String := do
  let (low, high) := textLengthRange f
  let length ← Draw.range .w32 low high
  return String.ofList (← randomChars length.toNat)

/-! ## Numbers -/

def bound? (b : Option String) : Option Float :=
  b.bind fun s => Decimal.readFloat? (Text.trim s)

/-- The greatest whole number that is not above `mantissa * 2 ^ exponent`. -/
def wholeBelow (mantissa exponent : Int) : Int :=
  if 0 ≤ exponent then mantissa * Nat.pow 2 exponent.toNat else mantissa / Nat.pow 2 (-exponent).toNat

/-- The integer of 128 bits that is nearest to a whole number. -/
def nearestWide (n : Int) : Int := max Decimal.wideMin (min n Decimal.wideMax)

/-- A number rounded down, as an integer of 128 bits; what is too large becomes the nearest one, and
what is no number becomes zero. -/
def floorOf (x : Float) : Int :=
  match FloatParts.ofFloat x with
  | .nan => 0
  | .infinite negative => if negative then Decimal.wideMin else Decimal.wideMax
  | .finite negative m q => nearestWide (wholeBelow (if negative then -m else m) q)

/-- A number rounded up, as an integer of 128 bits. -/
def ceilOf (x : Float) : Int :=
  match FloatParts.ofFloat x with
  | .nan => 0
  | .infinite negative => if negative then Decimal.wideMin else Decimal.wideMax
  | .finite negative m q => nearestWide (-wholeBelow (if negative then m else -m) q)

/-- The greater of two bounds, where either may be absent. -/
def greater? : Option Int → Option Int → Option Int
  | some a, some b => some (max a b)
  | some a, none => some a
  | none, b => b

/-- The lesser of two bounds, where either may be absent. -/
def lesser? : Option Int → Option Int → Option Int
  | some a, some b => some (min a b)
  | some a, none => some a
  | none, b => b

/-- The least integer that the lower bounds allow. -/
def lowerInteger? (f : Facets) : Except GeneratorFailure (Option Int) :=
  let included := (bound? f.minInclusive).map ceilOf
  match bound? f.minExclusive with
  | none => .ok included
  | some x =>
    let n := floorOf x
    if n = Decimal.wideMax then broken .integerOverflow else .ok (greater? included (some (n + 1)))

/-- The greatest integer that the upper bounds allow. -/
def upperInteger? (f : Facets) : Except GeneratorFailure (Option Int) :=
  let included := (bound? f.maxInclusive).map floorOf
  match bound? f.maxExclusive with
  | none => .ok included
  | some x =>
    let n := ceilOf x
    if n = Decimal.wideMin then broken .integerOverflow else .ok (lesser? included (some (n - 1)))

/-- The width of the window that replaces a missing bound. -/
def window : Int := 10000

/-- Narrows the sides that no facet bounds. -/
def narrow (hasLower hasUpper : Bool) (low high : Int) : Int × Int :=
  match hasLower, hasUpper with
  | true, true => (low, high)
  | true, false => (low, min high (min (low + window) Decimal.wideMax))
  | false, true => (max low (max (high - window) Decimal.wideMin), high)
  | false, false =>
    if max low 0 ≤ min high window then (max low 0, min high window)
    else (max low (max (high - window) Decimal.wideMin), high)

/-- The least and the greatest integer to draw. -/
def integerRange (f : Facets) : Except GeneratorFailure (Int × Int) := do
  let (low, high) := f.base.integerRange?.getD (-(Nat.pow 2 63), Nat.pow 2 63 - 1)
  let lower ← lowerInteger? f
  let upper ← upperInteger? f
  let low := lower.elim low (max low)
  let high := upper.elim high (min high)
  let (low, high) := match f.totalDigits with
    | some digits =>
      let limit : Int := Nat.pow 10 (min digits.toNat 30) - 1
      (max low (-limit), min high limit)
    | none => (low, high)
  let (low, high) := narrow lower.isSome upper.isSome low high
  if high < low then unsatisfiable f "empty integer range" else return (low, high)

def integer (f : Facets) : Attempt String := do
  let (low, high) ← integerRange f
  return toString (← Draw.range .w128 low high)

/-- The greater of two numbers; one that is not a number gives way to the other. -/
def floatMax (a b : Float) : Float := if a.isNaN then b else if b.isNaN then a else if a < b then b else a

/-- The lesser of two numbers; one that is not a number gives way to the other. -/
def floatMin (a b : Float) : Float := if a.isNaN then b else if b.isNaN then a else if b < a then b else a

def powerOfTen (n : Nat) : Float := Float.ofScientific 1 false n

/-- The number of decimal places of a made-up number. -/
def places (f : Facets) : Nat := min ((f.fractionDigits.map UInt32.toNat).getD 2) 6

/-- The least and the greatest number to draw. -/
def numberRange (f : Facets) : Except GeneratorFailure (Float × Float) :=
  let step := 1.0 / powerOfTen (places f)
  let low := (bound? f.minInclusive).or ((bound? f.minExclusive).map (· + step))
  let high := (bound? f.maxInclusive).or ((bound? f.maxExclusive).map (· - step))
  let (low, high) := match f.totalDigits with
    | some digits =>
      let limit := powerOfTen (min (digits.toNat - places f) 15) - step
      (some (low.elim (-limit) (floatMax · (-limit))), some (high.elim limit (floatMin · limit)))
    | none => (low, high)
  let (low, high) := match low, high with
    | some low, some high => (low, high)
    | some low, none => (low, low + 10000.0)
    | none, some high => if 0.0 ≤ high then (0.0, high) else (high - 10000.0, high)
    | none, none => (0.0, 10000.0)
  if high < low then unsatisfiable f "empty numeric range" else .ok (low, high)

/-- Rounds a number to the decimal places of the facets, inward at the ends of the range. -/
def roundInto (f : Facets) (low high raw : Float) : Float :=
  let factor := powerOfTen (places f)
  let value := (raw * factor).round / factor
  let value := if value < low then (low * factor).ceil / factor else value
  if high < value then (high * factor).floor / factor else value

def number (f : Facets) : Attempt String := do
  let (low, high) ← numberRange f
  let raw ←
    if low == high then pure low
    else if !(low ≤ high) || !(high - low).isFinite then failWith (.broken .emptyRange)
    else Draw.floatRange low high
  return Decimal.fixed (roundInto f low high raw) (places f)

/-! ## Dates and times -/

def within {α : Type} : Option α → Except GeneratorFailure α
  | some a => .ok a
  | none => broken .dateOverflow

/-- A bound of a range: the inclusive facet, else the exclusive one moved by a step, else a default.  The
default is computed in any case. -/
def boundOr {α : Type} (read : String → Option α) (included excluded : Option String)
    (step : α → Option α) (fallback : Option α) : Except GeneratorFailure α := do
  let bound ← match included.bind read with
    | some a => pure (some a)
    | none =>
      match excluded.bind read with
      | some a => some <$> within (step a)
      | none => pure none
  let fallback ← within fallback
  return bound.getD fallback

/-- How far around the base date made-up dates lie. -/
def windowDays : Int := 365

/-- The first and the last date to draw. -/
def dateRange (f : Facets) (base : Date) (read : String → Option Date) :
    Except GeneratorFailure (Date × Date) := do
  let low ← boundOr read f.minInclusive f.minExclusive (·.addDays? 1) (base.addDays? (-windowDays))
  let high ← boundOr read f.maxInclusive f.maxExclusive (·.addDays? (-1)) (base.addDays? windowDays)
  if high.dayNumber < low.dayNumber then unsatisfiable f "empty date range" else return (low, high)

def date (f : Facets) (base : Date) : Attempt String := do
  let (low, high) ← dateRange f base Date.read?
  let offset ← Draw.range .w64 0 (high.dayNumber - low.dayNumber)
  return (Date.ofDayNumber (low.dayNumber + offset)).text

/-- The first and the last moment to draw. -/
def momentRange (f : Facets) (base : Date) : Except GeneratorFailure (Moment × Moment) := do
  let midnight : Moment := ⟨base, ⟨0, false⟩⟩
  let low ← boundOr Moment.read? f.minInclusive f.minExclusive (·.addSeconds? 1)
    (midnight.addDays? (-windowDays))
  let high ← boundOr Moment.read? f.maxInclusive f.maxExclusive (·.addSeconds? (-1))
    (midnight.addDays? windowDays)
  if low.isAfter high then unsatisfiable f "empty dateTime range" else return (low, high)

def dateTime (f : Facets) (base : Date) : Attempt String := do
  let (low, high) ← momentRange f base
  let offset ← Draw.range .w64 0 (high.secondsSince low)
  let moment ← within (low.addSeconds? offset)
  return moment.text

/-- The second of the day that a text denotes. -/
def secondOf? (s : String) : Option Nat := (TimeOfDay.read? s).map (·.second)

/-- The first and the last second of the day to draw. -/
def secondRange (f : Facets) : Except GeneratorFailure (Nat × Nat) :=
  let low := ((f.minInclusive.bind secondOf?).or ((f.minExclusive.bind secondOf?).map (· + 1))).getD 0
  let high :=
    ((f.maxInclusive.bind secondOf?).or ((f.maxExclusive.bind secondOf?).map (· - 1))).getD 86399
  if high < low then unsatisfiable f "empty time range" else .ok (low, high)

def time (f : Facets) : Attempt String := do
  let (low, high) ← secondRange f
  let second ← Draw.range .w32 low high
  return TimeOfDay.text ⟨second.toNat, false⟩

def yearOf? (s : String) : Option Int := Decimal.readIntWithin? (-(Nat.pow 2 31)) (Nat.pow 2 31 - 1) s

/-- A bound for years: the inclusive facet, else the exclusive one moved by a step, else a default. -/
def yearBound (included excluded : Option String) (step fallback : Int) :
    Except GeneratorFailure Int :=
  match included.bind yearOf? with
  | some y => .ok y
  | none =>
    match excluded.bind yearOf? with
    | some y =>
      if -(Nat.pow 2 31) ≤ y + step ∧ y + step < Nat.pow 2 31 then .ok (y + step)
      else broken .integerOverflow
    | none => .ok fallback

/-- The first and the last year to draw. -/
def yearRange (f : Facets) (base : Date) : Except GeneratorFailure (Int × Int) := do
  let low ← yearBound f.minInclusive f.minExclusive 1 (base.year - 5)
  let high ← yearBound f.maxInclusive f.maxExclusive (-1) (base.year + 5)
  if high < low then unsatisfiable f "empty gYear range" else return (low, high)

def gYear (f : Facets) (base : Date) : Attempt String := do
  let (low, high) ← yearRange f base
  return paddedInt 4 (← Draw.range .w32 low high)

/-- The number of a month, counted from the year 0. -/
def monthNumber (d : Date) : Int := d.year * 12 + (d.month : Int) - 1

def gYearMonth (f : Facets) (base : Date) : Attempt String := do
  let (low, high) ← dateRange f base fun s => Date.read? (s ++ "-01")
  let n ← Draw.range .w32 (monthNumber low) (monthNumber high)
  return paddedInt 4 (n / 12) ++ "-" ++ paddedInt 2 (n % 12 + 1)

/-- A duration of days, hours and minutes. -/
def duration : Draw String := do
  let days ← Draw.range .w32 0 30
  let hours ← Draw.range .w32 0 23
  let minutes ← Draw.range .w32 0 59
  return "P" ++ toString days ++ "DT" ++ toString hours ++ "H" ++ toString minutes ++ "M"

/-! ## Names, identifiers and octets -/

def boolean : Draw String := do
  return if ← Draw.coin then "true" else "false"

def uri : Draw String := do
  let segment ← randomChars 8
  return "https://example.com/" ++ String.ofList (segment.map Char.toLower)

def languages : List String := ["en", "en-US", "en-GB", "pt-BR", "de", "fr-FR", "es"]

def language : Draw String := do
  let index ← Draw.index languages.length
  return languages.getD index "en"

/-- The letters and digits of the name of a leaf, in lower case and beginning with a letter. -/
def stem (name : String) : List Char :=
  let cs := (name.toList.dropWhile (· = '@')).filter Char.isAlphanum
  match (cs.take 12).map Char.toLower with
  | [] => ['n']
  | c :: rest => if c.isAlpha then c :: rest else 'n' :: c :: rest

/-- A natural number in base sixteen, in lower case, with eight digits. -/
def hex8 (n : Nat) : List Char :=
  let ds := (Nat.toDigits 16 n).map Char.toLower
  List.replicate (8 - ds.length) '0' ++ ds

/-- A name made of the name of the leaf and a random part. -/
def ncName (name : String) : Draw String := do
  let w ← Draw.word32
  return String.ofList (stem name ++ '-' :: hex8 w)

def octetCount (f : Facets) : Draw Nat :=
  match f.lengthBounds with
  | (some low, some high) => do
    let n ← Draw.range .w32 (min low high : Nat) high
    return n.toNat
  | (some low, none) => return max low 1
  | (none, some high) => return min 12 high
  | (none, none) => return 12

def hexBinary (f : Facets) : Draw String := do
  return Encoding.toHex (← Draw.bytes (← octetCount f))

def base64Binary (f : Facets) : Draw String := do
  return Encoding.toBase64 (← Draw.bytes (← octetCount f))

/-! ## Facets that replace the base -/

def enumeration (f : Facets) : Attempt String := do
  if f.enumeration.isEmpty then failWith (.unsatisfiable "empty enumeration" f.base)
  let index ← Draw.index f.enumeration.length
  return f.enumeration.getD index ""

def pattern (libraries : Libraries) (f : Facets) (path : String) : Attempt String :=
  let text := f.pattern.getD ""
  match libraries.sample? text with
  | .ok draw => ExceptT.lift draw
  | .error cause => failWith (.pattern text path cause)

end Generate

namespace PrimitiveGenerator

def run (g : PrimitiveGenerator) (libraries : Libraries) (leaf : Leaf) : Attempt String :=
  match g with
  | .base64 => Generate.base64Binary leaf.facets
  | .boolean => Generate.boolean
  | .date => Generate.date leaf.facets leaf.baseDate
  | .dateTime => Generate.dateTime leaf.facets leaf.baseDate
  | .decimal => Generate.number leaf.facets
  | .duration => Generate.duration
  | .enumeration => Generate.enumeration leaf.facets
  | .float => Generate.number leaf.facets
  | .gYear => Generate.gYear leaf.facets leaf.baseDate
  | .gYearMonth => Generate.gYearMonth leaf.facets leaf.baseDate
  | .hex => Generate.hexBinary leaf.facets
  | .integer => Generate.integer leaf.facets
  | .language => Generate.language
  | .ncName => Generate.ncName leaf.name
  | .pattern => Generate.pattern libraries leaf.facets leaf.path
  | .qName => Generate.ncName leaf.name
  | .string => Generate.string leaf.facets
  | .time => Generate.time leaf.facets
  | .uri => Generate.uri

end PrimitiveGenerator
end Specimen
