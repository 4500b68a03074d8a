import Specimen.Calendar.Date
import Specimen.Decimal.Reader
import Specimen.Json.Basic
import Specimen.Text.Hexadecimal

/-!
# Plain values of TOML

A value without quotes and brackets is a single word: a truth value, an integer in one of four bases, a
floating-point number, or a date and time of which parts may be missing.  Underscores may stand between
digits.

Infinite numbers and numbers that are none become null, and dates become an object that holds their
normal form.
-/

namespace Specimen
namespace Toml

/-- Whether a character can be part of a word. -/
def isWordChar (c : Char) : Bool :=
  c.isAlphanum || c == '_' || c == '+' || c == '-' || c == '.' || c == ':'

/-- Digits with underscores between them, without the underscores. -/
def joinDigits? (isDigit : Char → Bool) : List Char → Option (List Char)
  | [] => none
  | [c] => if isDigit c then some [c] else none
  | c :: '_' :: rest => if isDigit c then (joinDigits? isDigit rest).map (c :: ·) else none
  | c :: rest => if isDigit c then (joinDigits? isDigit rest).map (c :: ·) else none

def splitSign : List Char → List Char × List Char
  | '+' :: rest => ([], rest)
  | '-' :: rest => (['-'], rest)
  | rest => ([], rest)

/-- Decimal digits of a whole number, which do not begin with a zero unless it is the only one. -/
def wholeDigits? (cs : List Char) : Option (List Char) :=
  match joinDigits? Char.isDigit cs with
  | some ['0'] => some ['0']
  | some ('0' :: _) => none
  | other => other

/-- The number that digits of a base denote. -/
def numberInBase (base : Nat) (ds : List Char) : Nat :=
  ds.foldl (fun n c => n * base + (Text.hexValue? c).getD 0) 0

/-- Whether a character is a digit of a base. -/
def isDigitOf (base : Nat) (c : Char) : Bool :=
  match Text.hexValue? c with
  | some v => decide (v < base)
  | none => false

def integer? (cs : List Char) : Option Int :=
  let inBase (base : Nat) (ds : List Char) : Option Int :=
    (joinDigits? (isDigitOf base) ds).map fun ds => (numberInBase base ds : Int)
  let value? : Option Int :=
    match cs with
    | '0' :: 'x' :: ds => inBase 16 ds
    | '0' :: 'o' :: ds => inBase 8 ds
    | '0' :: 'b' :: ds => inBase 2 ds
    | cs =>
      let (sign, ds) := splitSign cs
      (wholeDigits? ds).map fun ds =>
        if sign.isEmpty then (numberInBase 10 ds : Int) else -(numberInBase 10 ds : Int)
  value?.filter fun n => decide (-(Nat.pow 2 63) ≤ n) && decide (n < Nat.pow 2 63)

/-- The exponent of a floating-point number, from its letter on; nothing when there is none. -/
def exponentText? : List Char → Option (List Char)
  | [] => some []
  | c :: rest =>
    if c = 'e' ∨ c = 'E' then
      let (sign, ds) := splitSign rest
      (joinDigits? Char.isDigit ds).map fun ds => 'e' :: sign ++ ds
    else none

/-- A floating-point number: with a fraction, an exponent or both, or one of the words for infinity and
for what is not a number.  What is too large for a double is refused unless it is negative. -/
def float? (cs : List Char) : Option Float :=
  let (sign, body) := splitSign cs
  if body = ['i', 'n', 'f'] then some (if sign.isEmpty then 1.0 / 0.0 else -1.0 / 0.0)
  else if body = ['n', 'a', 'n'] then some (0.0 / 0.0)
  else
    let whole := body.takeWhile fun c => c.isDigit || c == '_'
    let afterWhole := body.dropWhile fun c => c.isDigit || c == '_'
    let fraction? : Option (List Char × List Char) :=
      match afterWhole with
      | '.' :: rest =>
        (joinDigits? Char.isDigit (rest.takeWhile fun c => c.isDigit || c == '_')).map fun ds =>
          ('.' :: ds, rest.dropWhile fun c => c.isDigit || c == '_')
      | [] => none
      | rest => some ([], rest)
    match wholeDigits? whole, fraction? with
    | some whole, some (fraction, rest) =>
      match exponentText? rest with
      | some exponent =>
        (Decimal.readFloat? (String.ofList (sign ++ whole ++ fraction ++ exponent))).filter fun x =>
          !(x == 1.0 / 0.0)
      | none => none
    | _, _ => none

def floatJson (x : Float) : Json := if x.isFinite then .float x else .null

/-- Two digits within bounds and what follows them. -/
def twoDigits? (low high : Nat) : List Char → Option (Nat × List Char)
  | a :: b :: rest =>
    match Decimal.readNat? [a, b] with
    | some n => if low ≤ n ∧ n ≤ high then some (n, rest) else none
    | none => none
  | _ => none

def after? (mark : Char) : List Char → Option (List Char)
  | c :: rest => if c = mark then some rest else none
  | [] => none

def date? : List Char → Option (String × List Char)
  | a :: b :: c :: d :: rest => do
    let year ← Decimal.readNat? [a, b, c, d]
    let (month, rest) ← twoDigits? 1 12 (← after? '-' rest)
    let (day, rest) ← twoDigits? 1 31 (← after? '-' rest)
    if day ≤ Date.daysInMonth year month then
      return (paddedNat 4 year ++ "-" ++ paddedNat 2 month ++ "-" ++ paddedNat 2 day, rest)
    else none
  | _ => none

/-- The fraction of a second, cut after nine digits and without zeros at its end. -/
def secondFraction (ds : List Char) : String :=
  match ((ds.take 9).reverse.dropWhile (· = '0')).reverse with
  | [] => ""
  | ds => "." ++ String.ofList ds

/-- A time of day and what follows it. -/
def time? (cs : List Char) : Option (String × List Char) := do
  let (hour, rest) ← twoDigits? 0 23 cs
  let (minute, rest) ← twoDigits? 0 59 (← after? ':' rest)
  let (second, rest) ← twoDigits? 0 60 (← after? ':' rest)
  let text := paddedNat 2 hour ++ ":" ++ paddedNat 2 minute ++ ":" ++ paddedNat 2 second
  match rest with
  | '.' :: more =>
    let ds := more.takeWhile Char.isDigit
    if ds.isEmpty then return (text, rest)
    else return (text ++ secondFraction ds, more.dropWhile Char.isDigit)
  | rest => return (text, rest)

/-- The distance of a time from universal time. -/
def offset? : List Char → Option String
  | [] => some ""
  | ['Z'] => some "Z"
  | ['z'] => some "Z"
  | c :: rest => do
    if c = '+' ∨ c = '-' then
      let (hour, rest) ← twoDigits? 0 23 rest
      let (minute, rest) ← twoDigits? 0 59 (← after? ':' rest)
      if !rest.isEmpty then none
      let sign := if c = '-' ∧ 0 < hour + minute then "-" else "+"
      return sign ++ paddedNat 2 hour ++ ":" ++ paddedNat 2 minute
    else none

/-- The normal form of a date, a time, or both. -/
def moment? (cs : List Char) : Option String :=
  match date? cs with
  | some (date, []) => some date
  | some (date, c :: rest) =>
    if c = 'T' ∨ c = 't' ∨ c = ' ' then do
      let (time, rest) ← time? rest
      return date ++ "T" ++ time ++ (← offset? rest)
    else none
  | none =>
    match time? cs with
    | some (time, []) => some time
    | _ => none

def momentJson (text : String) : Json := .object [("$__toml_private_datetime", .string text)]

def word? (cs : List Char) : Option Json :=
  if cs = ['t', 'r', 'u', 'e'] then some (.bool true)
  else if cs = ['f', 'a', 'l', 's', 'e'] then some (.bool false)
  else
    match moment? cs with
    | some text => some (momentJson text)
    | none =>
      match float? cs with
      | some x => some (floatJson x)
      | none => (integer? cs).map .int

/-- The value of the word at the beginning of a text, and what follows it.  A blank may stand between a
date and a time. -/
def scalar? (cs : List Char) : Option (Json × List Char) :=
  let word := cs.takeWhile isWordChar
  let rest := cs.dropWhile isWordChar
  let joined? : Option (String × List Char) :=
    match rest with
    | ' ' :: more =>
      if (date? word).any fun d => d.2.isEmpty then
        (moment? (word ++ ' ' :: more.takeWhile isWordChar)).map fun text =>
          (text, more.dropWhile isWordChar)
      else none
    | _ => none
  match joined? with
  | some (text, rest) => some (momentJson text, rest)
  | none => (word? word).map fun j => (j, rest)

end Toml
end Specimen
