import Specimen.Decimal.Writer

/-!
# Reading numbers

Texts of integers and of floating-point numbers as values are written in schemas, configurations and
constraints.  An integer is an optional sign and one or more ASCII digits.  A floating-point number is
an optional sign and either one of the words `inf`, `infinity`, `nan` in any case, or digits with an
optional point and an optional exponent, with a digit before or after the point.  Neither may hold
white space.
-/

namespace Specimen
namespace Decimal

/-- The number that a list of ASCII digits denotes. -/
def ofDigits (cs : List Char) : Nat :=
  cs.foldl (fun n c => n * 10 + (c.toNat - '0'.toNat)) 0

/-- Reads a natural number: one or more ASCII digits and nothing else. -/
def readNat? (cs : List Char) : Option Nat :=
  if !cs.isEmpty && cs.all Char.isDigit then some (ofDigits cs) else none

/-- Reads an integer: an optional sign and a natural number. -/
def readInt? : List Char → Option Int
  | '+' :: cs => (readNat? cs).map Int.ofNat
  | '-' :: cs => (readNat? cs).map fun n => -(n : Int)
  | cs => (readNat? cs).map Int.ofNat

/-- Reads an integer that has to lie between two bounds; a minus sign is refused when the lower bound
is not negative. -/
def readIntWithin? (low high : Int) (s : String) : Option Int :=
  let cs := s.toList
  if 0 ≤ low && cs.head? == some '-' then none
  else
    match readInt? cs with
    | some n => if low ≤ n && n ≤ high then some n else none
    | none => none

/-- The bounds of the widest integers that are computed with: 128 bits with a sign. -/
def wideMin : Int := -(Nat.pow 2 127)
def wideMax : Int := Nat.pow 2 127 - 1

/-- Reads an integer of at most 128 bits. -/
def readWide? (s : String) : Option Int :=
  readIntWithin? wideMin wideMax s

/-- The double nearest to `digits * 10 ^ exponent`. -/
def toFloat (digits : Nat) (exponent : Int) : Float :=
  if digits = 0 then 0
  else
    let magnitude := exponent + ((Nat.repr digits).length : Int)
    if 320 < magnitude then 1.0 / 0.0
    else if magnitude < -360 then 0
    else if 0 ≤ exponent then Float.ofScientific digits false exponent.toNat
    else Float.ofScientific digits true (-exponent).toNat

/-- Reads the part of a floating-point number that follows the sign. -/
def readUnsignedFloat? (cs : List Char) : Option Float :=
  let word := String.ofList (cs.map Char.toLower)
  if word = "inf" ∨ word = "infinity" then some (1.0 / 0.0)
  else if word = "nan" then some (0.0 / 0.0)
  else
    let whole := cs.takeWhile Char.isDigit
    let afterWhole := cs.dropWhile Char.isDigit
    let (part, afterPart) :=
      match afterWhole with
      | '.' :: rest => (rest.takeWhile Char.isDigit, rest.dropWhile Char.isDigit)
      | rest => ([], rest)
    if whole.isEmpty && part.isEmpty then none
    else
      let exponent? : Option Int :=
        match afterPart with
        | [] => some 0
        | c :: rest => if c = 'e' ∨ c = 'E' then readInt? rest else none
      exponent?.map fun exponent => toFloat (ofDigits (whole ++ part)) (exponent - part.length)

def readFloat? (s : String) : Option Float :=
  match s.toList with
  | '+' :: cs => readUnsignedFloat? cs
  | '-' :: cs => (readUnsignedFloat? cs).map Neg.neg
  | cs => readUnsignedFloat? cs

end Decimal
end Specimen
