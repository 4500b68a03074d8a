import Specimen.Calendar.Date
import Specimen.Text.Property

/-!
# Reading dates and times

Dates are read as year, month and day with hyphens, times as hour, minute and second with colons.  Each
number may follow white space and has at most as many digits as its field is wide; one is enough.  A
year with a sign may have any number of digits.  The second 60 is a leap second.  Nothing may follow.

Time stamps with an offset (`Moment.isStamp`) are stricter: every field has its full width.
-/

namespace Specimen

/-- Why a date or time could not be read. -/
inductive CalendarError where
  | outOfRange
  | invalid
  | tooShort
  | tooLong
  deriving DecidableEq, Repr

namespace CalendarError

def message : CalendarError → String
  | .outOfRange => "input is out of range"
  | .invalid => "input contains invalid characters"
  | .tooShort => "premature end of input"
  | .tooLong => "trailing input"

end CalendarError

namespace Calendar

/-- The largest number that a field is read into. -/
def fieldMax : Nat := Nat.pow 2 63 - 1

/-- Reads digits into a number while `width` allows; `n` holds the digits read so far. -/
def scanDigits (n : Nat) : Nat → List Char → Except CalendarError (Nat × List Char)
  | width + 1, c :: rest =>
    if c.isDigit then
      let next := n * 10 + (c.toNat - '0'.toNat)
      if fieldMax < next then .error .outOfRange else scanDigits next width rest
    else .ok (n, c :: rest)
  | _, rest => .ok (n, rest)

/-- Reads a number of one to `width` digits. -/
def scanNumber (width : Nat) : List Char → Except CalendarError (Nat × List Char)
  | [] => .error .tooShort
  | c :: rest => if c.isDigit then scanDigits 0 width (c :: rest) else .error .invalid

def skipBlanks (cs : List Char) : List Char := cs.dropWhile Text.isBlank

def scanMark (mark : Char) : List Char → Except CalendarError (List Char)
  | [] => .error .tooShort
  | c :: rest => if c = mark then .ok rest else .error .invalid

/-- Reads a field that has to lie between two numbers. -/
def scanField (low high : Nat) (cs : List Char) : Except CalendarError (Nat × List Char) := do
  let (n, rest) ← scanNumber 2 (skipBlanks cs)
  if low ≤ n ∧ n ≤ high then return (n, rest) else throw .outOfRange

/-- A year must fit into 32 bits. -/
def checkYear (year : Int) (rest : List Char) : Except CalendarError (Int × List Char) :=
  if -(Nat.pow 2 31) ≤ year ∧ year < Nat.pow 2 31 then .ok (year, rest) else .error .outOfRange

/-- Reads a year: up to four digits, or a sign and any number of digits. -/
def scanYear (cs : List Char) : Except CalendarError (Int × List Char) := do
  match skipBlanks cs with
  | '-' :: rest =>
    let (n, rest) ← scanNumber rest.length rest
    checkYear (-(n : Int)) rest
  | '+' :: rest =>
    let (n, rest) ← scanNumber rest.length rest
    checkYear n rest
  | cs =>
    let (n, rest) ← scanNumber 4 cs
    checkYear n rest

/-- Reads the parts of a date; `gap` drops what may stand before a hyphen. -/
def scanDateParts (gap : List Char → List Char) (cs : List Char) :
    Except CalendarError ((Int × Nat × Nat) × List Char) := do
  let (year, rest) ← scanYear cs
  let rest ← scanMark '-' (gap rest)
  let (month, rest) ← scanField 1 12 rest
  let rest ← scanMark '-' (gap rest)
  let (day, rest) ← scanField 1 31 rest
  return ((year, month, day), rest)

/-- Reads the parts of a time of day. -/
def scanTimeParts (cs : List Char) : Except CalendarError (TimeOfDay × List Char) := do
  let (hour, rest) ← scanField 0 23 cs
  let rest ← scanMark ':' rest
  let (minute, rest) ← scanField 0 59 rest
  let rest ← scanMark ':' rest
  let (second, rest) ← scanField 0 60 rest
  let whole := hour * 3600 + minute * 60
  return (if second = 60 then ⟨whole + 59, true⟩ else ⟨whole + second, false⟩, rest)

def dateOfParts (parts : Int × Nat × Nat) : Except CalendarError Date :=
  match Date.ofParts? parts.1 parts.2.1 parts.2.2 with
  | some d => .ok d
  | none => .error .outOfRange

/-- Nothing may follow what was read. -/
def checkEnd (rest : List Char) : Except CalendarError Unit :=
  if rest.isEmpty then .ok () else .error .tooLong

end Calendar

namespace Date

def read? (s : String) : Option Date :=
  let result : Except CalendarError Date := do
    let (parts, rest) ← Calendar.scanDateParts id s.toList
    Calendar.checkEnd rest
    Calendar.dateOfParts parts
  result.toOption

/-- Reads a date of an option, where white space may also surround the hyphens. -/
def readOption (s : String) : Except CalendarError Date := do
  let (parts, rest) ← Calendar.scanDateParts Calendar.skipBlanks s.toList
  Calendar.checkEnd (Calendar.skipBlanks rest)
  Calendar.dateOfParts parts

end Date

namespace TimeOfDay

def read? (s : String) : Option TimeOfDay :=
  let result : Except CalendarError TimeOfDay := do
    let (time, rest) ← Calendar.scanTimeParts s.toList
    Calendar.checkEnd rest
    return time
  result.toOption

end TimeOfDay

namespace Moment

/-- Reads a moment without an offset. -/
def read? (s : String) : Option Moment :=
  let result : Except CalendarError Moment := do
    let (parts, rest) ← Calendar.scanDateParts id s.toList
    let rest ← Calendar.scanMark 'T' rest
    let (time, rest) ← Calendar.scanTimeParts rest
    Calendar.checkEnd rest
    return ⟨← Calendar.dateOfParts parts, time⟩
  result.toOption

def twoDigits? : List Char → Option (Nat × List Char)
  | a :: b :: rest =>
    if a.isDigit && b.isDigit then
      some ((a.toNat - '0'.toNat) * 10 + (b.toNat - '0'.toNat), rest)
    else none
  | _ => none

def afterMark? (marks : List Char) : List Char → Option (List Char)
  | c :: rest => if c ∈ marks then some rest else none
  | [] => none

/-- Drops a fraction of a second, which has at least one digit. -/
def afterFraction? : List Char → Option (List Char)
  | '.' :: c :: rest => if c.isDigit then some (rest.dropWhile Char.isDigit) else none
  | '.' :: [] => none
  | rest => some rest

/-- Whether an offset from universal time is well formed. -/
def isOffset : List Char → Bool
  | ['Z'] | ['z'] => true
  | sign :: rest =>
    (sign = '+' || sign = '-' || sign = '−') &&
      ((do
        let (hour, rest) ← twoDigits? rest
        let rest ← afterMark? [':'] rest
        let (minute, rest) ← twoDigits? rest
        return hour ≤ 23 && minute ≤ 59 && rest.isEmpty).getD false)
  | [] => false

/-- Whether a text is a time stamp: a date, a time and an offset, each field with its full width. -/
def isStamp (s : String) : Bool :=
  (do
    let (century, rest) ← twoDigits? s.toList
    let (year, rest) ← twoDigits? rest
    let rest ← afterMark? ['-'] rest
    let (month, rest) ← twoDigits? rest
    let rest ← afterMark? ['-'] rest
    let (day, rest) ← twoDigits? rest
    let rest ← afterMark? ['T', 't', ' '] rest
    let (hour, rest) ← twoDigits? rest
    let rest ← afterMark? [':'] rest
    let (minute, rest) ← twoDigits? rest
    let rest ← afterMark? [':'] rest
    let (second, rest) ← twoDigits? rest
    let rest ← afterFraction? rest
    let date ← Date.ofParts? (century * 100 + year : Nat) month day
    return date.isValid && hour ≤ 23 && minute ≤ 59 && second ≤ 60 && isOffset rest).getD false

end Moment
end Specimen
