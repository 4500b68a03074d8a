import Specimen.Json.Basic
import Specimen.Text.Hexadecimal

/-!
# Reading JSON

A reader for JSON texts that gives the document or refuses the text.  Values may be nested 127 deep.
Members of an object are put in order of their keys, and the last of several members with one key
stands.

Whole numbers are integers as long as they lie between `-2 ^ 63` and `2 ^ 64 - 1`; all others are
floating-point numbers.  A floating-point number is computed from its first digits (as many as fit into
64 bits) by one multiplication or division by a power of ten, and refused when it overflows.
-/

namespace Specimen
namespace Json
namespace Reader

/-- Drops the white space that may stand between tokens. -/
def skipBlanks (cs : List Char) : List Char :=
  cs.dropWhile fun c => c = ' ' || c = '\n' || c = '\t' || c = '\r'

def hex4? : List Char → Option (Nat × List Char)
  | a :: b :: c :: d :: rest => (Text.hexNumber? [a, b, c, d]).map fun n => (n, rest)
  | _ => none

/-- Reads the rest of a `\u` escape: a code point, or two surrogates that form one. -/
def unicodeEscape? (cs : List Char) : Option (Char × List Char) := do
  let (unit, rest) ← hex4? cs
  if 0xD800 ≤ unit ∧ unit ≤ 0xDBFF then
    match rest with
    | '\\' :: 'u' :: more =>
      let (low, rest) ← hex4? more
      if 0xDC00 ≤ low ∧ low ≤ 0xDFFF then
        return (Char.ofNat (0x10000 + (unit - 0xD800) * 0x400 + (low - 0xDC00)), rest)
      else none
    | _ => none
  else if 0xDC00 ≤ unit ∧ unit ≤ 0xDFFF then none
  else return (Char.ofNat unit, rest)

/-- Reads a text after its opening quote; `done` holds its characters so far, last first. -/
def quoted? (fuel : Nat) (done : List Char) (cs : List Char) : Option (String × List Char) :=
  match fuel with
  | 0 => none
  | fuel + 1 =>
    match cs with
    | [] => none
    | '"' :: rest => some (String.ofList done.reverse, rest)
    | '\\' :: 'u' :: rest =>
      match unicodeEscape? rest with
      | some (c, rest) => quoted? fuel (c :: done) rest
      | none => none
    | '\\' :: c :: rest =>
      if c = '"' ∨ c = '\\' ∨ c = '/' then quoted? fuel (c :: done) rest
      else if c = 'b' then quoted? fuel (Char.ofNat 8 :: done) rest
      else if c = 'f' then quoted? fuel (Char.ofNat 12 :: done) rest
      else if c = 'n' then quoted? fuel ('\n' :: done) rest
      else if c = 'r' then quoted? fuel ('\r' :: done) rest
      else if c = 't' then quoted? fuel ('\t' :: done) rest
      else none
    | c :: rest => if c.toNat < 32 ∨ c = '\\' then none else quoted? fuel (c :: done) rest

/-- The largest integer of 64 bits without a sign. -/
def maxWord : Nat := Nat.pow 2 64 - 1

/-- Ten to a power, as far as a double reaches. -/
def powerOfTen (n : Nat) : Float := Float.ofScientific 1 false n

/-- Multiplies or divides by a power of ten, in steps of `10 ^ 308`; overflow is refused. -/
def scale? (fuel : Nat) (x : Float) (exponent : Int) : Option Float :=
  match fuel with
  | 0 => some x
  | fuel + 1 =>
    if exponent.natAbs ≤ 308 then
      if 0 ≤ exponent then
        let y := x * powerOfTen exponent.toNat
        if y.isInf then none else some y
      else some (x / powerOfTen exponent.natAbs)
    else if x == 0 then some x
    else if 0 ≤ exponent then none
    else scale? fuel (x / powerOfTen 308) (exponent + 308)

/-- The number with a sign, significant digits and an exponent. -/
def floatOfParts? (negative : Bool) (significand : Nat) (exponent : Int) : Option Json :=
  (scale? 8 (Float.ofNat significand) exponent).map fun x => .float (if negative then -x else x)

/-- Takes digits into a significand while it fits into 64 bits; gives the significand, the number of
digits taken and what follows them. -/
def takeDigits (significand count : Nat) : List Char → Nat × Nat × List Char
  | [] => (significand, count, [])
  | c :: rest =>
    if c.isDigit then
      let next := significand * 10 + (c.toNat - '0'.toNat)
      if maxWord < next then (significand, count, c :: rest) else takeDigits next (count + 1) rest
    else (significand, count, c :: rest)

def exponent? (negative : Bool) (significand : Nat) (start : Int) (cs : List Char) :
    Option (Json × List Char) :=
  let (down, cs) :=
    match cs with
    | '+' :: rest => (false, rest)
    | '-' :: rest => (true, rest)
    | rest => (false, rest)
  let digits := cs.takeWhile Char.isDigit
  let rest := cs.dropWhile Char.isDigit
  if digits.isEmpty then none
  else
    let value := digits.foldl (fun n c => n * 10 + (c.toNat - '0'.toNat)) 0
    if Nat.pow 2 31 - 1 < value then
      if significand ≠ 0 ∧ !down then none
      else some (.float (if negative then -0.0 else 0.0), rest)
    else
      let exponent := if down then start - value else start + value
      (floatOfParts? negative significand exponent).map fun j => (j, rest)

/-- Reads what may follow the digits of a number: an exponent or nothing. -/
def afterDigits? (negative : Bool) (significand : Nat) (exponent : Int) :
    List Char → Option (Json × List Char)
  | 'e' :: rest => exponent? negative significand exponent rest
  | 'E' :: rest => exponent? negative significand exponent rest
  | rest => (floatOfParts? negative significand exponent).map fun j => (j, rest)

def fraction? (negative : Bool) (significand : Nat) (exponent : Int) (cs : List Char) :
    Option (Json × List Char) :=
  let (significand', count, rest) := takeDigits significand 0 cs
  let tail := rest.dropWhile Char.isDigit
  if count = 0 ∧ tail.length = rest.length then none
  else afterDigits? negative significand' (exponent - count) tail

def number? (negative : Bool) (cs : List Char) : Option (Json × List Char) :=
  let digits := cs.takeWhile Char.isDigit
  if digits.isEmpty then none
  else if digits.head? == some '0' && digits.length != 1 then none
  else
    let (significand, _, rest) := takeDigits 0 0 cs
    let dropped := rest.takeWhile Char.isDigit
    match rest.dropWhile Char.isDigit with
    | '.' :: tail => fraction? negative significand dropped.length tail
    | 'e' :: tail => exponent? negative significand dropped.length tail
    | 'E' :: tail => exponent? negative significand dropped.length tail
    | tail =>
      if !dropped.isEmpty then
        (floatOfParts? negative significand dropped.length).map fun j => (j, tail)
      else if !negative then some (.int significand, tail)
      else if significand = 0 then some (.float (-0.0), tail)
      else if significand ≤ Nat.pow 2 63 then some (.int (-(significand : Int)), tail)
      else some (.float (-(Float.ofNat significand)), tail)

mutual

/-- Reads a value nested at most `depth` deep. -/
def value? (fuel depth : Nat) (cs : List Char) : Option (Json × List Char) :=
  match fuel with
  | 0 => none
  | fuel + 1 =>
    match skipBlanks cs with
    | 'n' :: 'u' :: 'l' :: 'l' :: rest => some (.null, rest)
    | 't' :: 'r' :: 'u' :: 'e' :: rest => some (.bool true, rest)
    | 'f' :: 'a' :: 'l' :: 's' :: 'e' :: rest => some (.bool false, rest)
    | '"' :: rest => (quoted? (rest.length + 1) [] rest).map fun (s, rest) => (.string s, rest)
    | '-' :: rest => number? true rest
    | '[' :: rest =>
      match depth with
      | 0 => none
      | depth + 1 =>
        match skipBlanks rest with
        | ']' :: rest => some (.array [], rest)
        | rest => (items? fuel depth rest).map fun (items, rest) => (.array items, rest)
    | '{' :: rest =>
      match depth with
      | 0 => none
      | depth + 1 =>
        match skipBlanks rest with
        | '}' :: rest => some (.object [], rest)
        | rest =>
          (members? fuel depth rest).map fun (ms, rest) => (.object (sortMembers ms), rest)
    | rest => number? false rest

/-- Reads the items of an array up to its closing bracket. -/
def items? (fuel depth : Nat) (cs : List Char) : Option (List Json × List Char) :=
  match fuel with
  | 0 => none
  | fuel + 1 => do
    let (item, rest) ← value? fuel depth cs
    match skipBlanks rest with
    | ']' :: rest => return ([item], rest)
    | ',' :: rest =>
      let (items, rest) ← items? fuel depth rest
      return (item :: items, rest)
    | _ => none

/-- Reads the members of an object up to its closing brace. -/
def members? (fuel depth : Nat) (cs : List Char) : Option (List (String × Json) × List Char) :=
  match fuel with
  | 0 => none
  | fuel + 1 => do
    match skipBlanks cs with
    | '"' :: rest =>
      let (key, rest) ← quoted? (rest.length + 1) [] rest
      match skipBlanks rest with
      | ':' :: rest =>
        let (item, rest) ← value? fuel depth rest
        match skipBlanks rest with
        | '}' :: rest => return ([(key, item)], rest)
        | ',' :: rest =>
          let (members, rest) ← members? fuel depth rest
          return ((key, item) :: members, rest)
        | _ => none
      | _ => none
    | _ => none

end

end Reader

/-- Reads a text that holds exactly one document. -/
def parse? (text : String) : Option Json :=
  let cs := text.toList
  match Reader.value? (2 * cs.length + 2) 127 cs with
  | some (j, rest) => if (Reader.skipBlanks rest).isEmpty then some j else none
  | none => none

end Json
end Specimen
