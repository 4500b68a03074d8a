/-!
# Dates and times of day

Dates of the Gregorian calendar, extended to all years from -262143 to 262142, and times of day to the
second.  A leap second belongs to the second before it: it is that second with a mark.

Days are numbered from the first of January of the year 1, which makes the distance of two dates a
difference and the shift of a date by days a sum.
-/

namespace Specimen

/-- A date. -/
structure Date where
  year : Int
  month : Nat
  day : Nat
  deriving DecidableEq, Repr, Inhabited

namespace Date

/-- Whether a year has a 29th of February. -/
def isLeapYear (year : Int) : Bool :=
  year % 4 == 0 && (year % 100 != 0 || year % 400 == 0)

def daysInMonth (year : Int) (month : Nat) : Nat :=
  match month with
  | 2 => if isLeapYear year then 29 else 28
  | 4 | 6 | 9 | 11 => 30
  | _ => 31

/-- The number of days of a year before a month. -/
def daysBeforeMonth (year : Int) (month : Nat) : Nat :=
  (List.range (month - 1)).foldl (fun n m => n + daysInMonth year (m + 1)) 0

/-- The number of days between the first of January of the year 1 and that of a year. -/
def daysBeforeYear (year : Int) : Int :=
  365 * (year - 1) + (year - 1) / 4 - (year - 1) / 100 + (year - 1) / 400

/-- The first and the last year that dates reach. -/
def firstYear : Int := -262143
def lastYear : Int := 262142

/-- Whether a date exists and lies within reach. -/
def isValid (d : Date) : Bool :=
  firstYear ≤ d.year && d.year ≤ lastYear && 1 ≤ d.month && d.month ≤ 12 && 1 ≤ d.day &&
    d.day ≤ daysInMonth d.year d.month

/-- The date with a year, a month and a day, if there is one within reach. -/
def ofParts? (year : Int) (month day : Nat) : Option Date :=
  let d : Date := ⟨year, month, day⟩
  if d.isValid then some d else none

def dayNumber (d : Date) : Int :=
  daysBeforeYear d.year + daysBeforeMonth d.year d.month + d.day - 1

def ofDayNumber (n : Int) : Date :=
  let guess := n * 400 / 146097
  let year :=
    if n < daysBeforeYear (guess + 1) then guess
    else if n < daysBeforeYear (guess + 2) then guess + 1
    else guess + 2
  let rest := (n - daysBeforeYear year).toNat
  let month := ((List.range 12).reverse.find? fun m => daysBeforeMonth year (m + 1) ≤ rest).getD 0 + 1
  ⟨year, month, rest - daysBeforeMonth year month + 1⟩

/-- The date a number of days later, if it lies within reach. -/
def addDays? (d : Date) (days : Int) : Option Date :=
  let shifted := ofDayNumber (d.dayNumber + days)
  if firstYear ≤ shifted.year ∧ shifted.year ≤ lastYear then some shifted else none

end Date

/-- A natural number with leading zeros up to a width. -/
def paddedNat (width n : Nat) : String :=
  let ds := (Nat.repr n).toList
  String.ofList (List.replicate (width - ds.length) '0' ++ ds)

/-- An integer with leading zeros up to a width that counts the sign. -/
def paddedInt (width : Nat) (n : Int) : String :=
  if n < 0 then "-" ++ paddedNat (width - 1) n.natAbs else paddedNat width n.natAbs

namespace Date

/-- The text of a year: four digits, or a sign and at least four digits beyond them. -/
def yearText (year : Int) : String :=
  if 0 ≤ year ∧ year < 10000 then paddedNat 4 year.natAbs
  else (if year < 0 then "-" else "+") ++ paddedNat 4 year.natAbs

def text (d : Date) : String :=
  yearText d.year ++ "-" ++ paddedNat 2 d.month ++ "-" ++ paddedNat 2 d.day

end Date

/-- A time of day to the second. -/
structure TimeOfDay where
  /-- Seconds since midnight. -/
  second : Nat
  /-- Whether this is the leap second after that second. -/
  isLeap : Bool := false
  deriving DecidableEq, Repr, Inhabited

namespace TimeOfDay

def text (t : TimeOfDay) : String :=
  paddedNat 2 (t.second / 3600) ++ ":" ++ paddedNat 2 (t.second % 3600 / 60) ++ ":" ++
    paddedNat 2 (t.second % 60 + if t.isLeap then 1 else 0)

end TimeOfDay

/-- A date and a time of day. -/
structure Moment where
  date : Date
  time : TimeOfDay
  deriving DecidableEq, Repr, Inhabited

namespace Moment

def text (m : Moment) : String := m.date.text ++ "T" ++ m.time.text

def isAfter (a b : Moment) : Bool :=
  let da := a.date.dayNumber
  let db := b.date.dayNumber
  if da = db then
    if a.time.second = b.time.second then a.time.isLeap && !b.time.isLeap
    else decide (b.time.second < a.time.second)
  else decide (db < da)

/-- The seconds from one moment to a later one; a leap second counts when it is left behind. -/
def secondsSince (later earlier : Moment) : Int :=
  let days := later.date.dayNumber - earlier.date.dayNumber
  let a := later.time
  let b := earlier.time
  let counted : Int :=
    if b.second < a.second ∧ b.isLeap then 1 else if a.second < b.second ∧ a.isLeap then -1 else 0
  let marks : Int := (if a.isLeap then 1 else 0) - (if b.isLeap then 1 else 0)
  days * 86400 + ((a.second : Int) - b.second) + counted + marks

/-- The moment a number of seconds later, if it lies within reach.  A leap second that is left is
counted from the second before it, and from the second after it when time goes back. -/
def addSeconds? (m : Moment) (seconds : Int) : Option Moment :=
  if seconds = 0 then some m
  else
    let start : Int := if m.time.isLeap && seconds < 0 then m.time.second + 1 else m.time.second
    let total := start + seconds
    (m.date.addDays? (total / 86400)).map fun date => ⟨date, ⟨(total % 86400).toNat, false⟩⟩

/-- The moment a number of days later, if it lies within reach. -/
def addDays? (m : Moment) (days : Int) : Option Moment :=
  (m.date.addDays? days).map fun date => { m with date }

end Moment
end Specimen
