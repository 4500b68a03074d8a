/-!
# Writing floating-point numbers

A finite double is `m * 2 ^ q` for a natural number `m`.  The decimals that read back as this number
are those of an interval around it, which reaches half way to the two neighbouring doubles and holds
its ends exactly when `m` is even.

`Decimal.shortest` tries 1, 2, … digits.  For each it looks at the two multiples of the decimal unit
next to the number; the first count for which one of them lies in the interval wins.

`Decimal.fixed` writes a double with a given number of decimal places.  The exact binary value is rounded
to the nearest multiple of the last place, and a value half way between two multiples goes to the even
one.  The sign is kept even when nothing but zeros is left.
-/

namespace Specimen

/-! ## The shortest decimal -/

/-- A positive decimal `digits * 10 ^ exponent`. -/
structure Decimal where
  digits : Nat
  exponent : Int
  deriving DecidableEq, Repr, Inhabited

/-- What a double is: not a number, an infinity, or `mantissa * 2 ^ exponent` with a sign. -/
inductive FloatParts where
  | nan
  | infinite (negative : Bool)
  | finite (negative : Bool) (mantissa : Nat) (exponent : Int)
  deriving DecidableEq, Repr

def FloatParts.ofFloat (x : Float) : FloatParts :=
  let bits := x.toBits.toNat
  let negative := decide (Nat.pow 2 63 ≤ bits)
  let biased : Nat := bits / Nat.pow 2 52 % Nat.pow 2 11
  let fraction : Nat := bits % Nat.pow 2 52
  if biased = 2047 then
    if fraction = 0 then .infinite negative else .nan
  else if biased = 0 then .finite negative fraction (-1074)
  else .finite negative (Nat.pow 2 52 + fraction) ((biased : Int) - 1075)

namespace Decimal

/-- The value of `numerator / denominator` in units of `10 ^ exponent`, rounded down. -/
def floorIn (numerator denominator : Nat) (exponent : Int) : Nat :=
  if 0 ≤ exponent then numerator / (denominator * Nat.pow 10 exponent.toNat)
  else numerator * Nat.pow 10 (-exponent).toNat / denominator

/-- How `count * 10 ^ exponent` compares with `numerator / denominator`. -/
def compareWith (count : Nat) (exponent : Int) (numerator denominator : Nat) : Ordering :=
  if 0 ≤ exponent then compare (count * Nat.pow 10 exponent.toNat * denominator) numerator
  else compare (count * denominator) (numerator * Nat.pow 10 (-exponent).toNat)

/-- The least `k` near an estimate such that `numerator / denominator` is below `10 ^ k`. -/
def magnitude (numerator denominator : Nat) : Int :=
  let guess : Int := ((numerator.log2 : Int) - denominator.log2) * 30103 / 100000 - 2
  let candidates := (List.range 6).map fun i : Nat => guess + i
  (candidates.find? fun k => compareWith 1 k numerator denominator == .gt).getD (guess + 6)

/-- Takes the trailing zeros of the digits into the exponent; `fuel` bounds their number. -/
def stripZeros (fuel : Nat) (d : Decimal) : Decimal :=
  match fuel with
  | 0 => d
  | fuel + 1 =>
    if d.digits ≠ 0 ∧ d.digits % 10 = 0 then stripZeros fuel ⟨d.digits / 10, d.exponent + 1⟩ else d

/-- The decimal with the fewest digits that reads back as `m * 2 ^ q`, the nearest of those, and the
larger one when two are equally near. -/
def shortest (m : Nat) (q : Int) : Decimal :=
  let scale (n : Nat) : Nat := if 2 ≤ q then n * Nat.pow 2 (q - 2).toNat else n
  let denominator := if 2 ≤ q then 1 else Nat.pow 2 (2 - q).toNat
  let below := if m = Nat.pow 2 52 ∧ -1074 < q then 1 else 2
  let value := scale (4 * m)
  let low := scale (4 * m - below)
  let high := scale (4 * m + 2)
  let hit (count : Nat) (exponent : Int) : Bool :=
    let toLow := compareWith count exponent low denominator
    let toHigh := compareWith count exponent high denominator
    if m % 2 = 0 then toLow != .lt && toHigh != .gt else toLow == .gt && toHigh == .lt
  let k := magnitude value denominator
  let attempt (n : Nat) : Option Decimal :=
    let exponent := k - n
    let count := floorIn value denominator exponent
    match hit count exponent, hit (count + 1) exponent with
    | true, false => some ⟨count, exponent⟩
    | false, true => some ⟨count + 1, exponent⟩
    | false, false => none
    | true, true =>
      match compareWith (2 * count + 1) exponent (2 * value) denominator with
      | .gt => some ⟨count, exponent⟩
      | _ => some ⟨count + 1, exponent⟩
  stripZeros 20 (((List.range 17).findSome? fun i => attempt (i + 1)).getD ⟨m, 0⟩)

/-- How a floating-point number is laid out once its digits are known. -/
structure Layout where
  /-- Magnitudes (the `k` with `10 ^ (k - 1) ≤ x < 10 ^ k`) that are written without an exponent. -/
  positionalFrom : Int
  positionalTo : Int
  /-- Whether a whole number keeps a point and a zero. -/
  keepsPoint : Bool
  nan : String
  infinity : String

def zeros (n : Nat) : List Char := List.replicate n '0'

/-- Writes `d` without an exponent. -/
def positional (d : Decimal) (keepsPoint : Bool) : List Char :=
  let ds := (Nat.repr d.digits).toList
  if 0 ≤ d.exponent then
    ds ++ zeros d.exponent.toNat ++ (if keepsPoint then ['.', '0'] else [])
  else
    let places := (-d.exponent).toNat
    if places < ds.length then
      ds.take (ds.length - places) ++ '.' :: ds.drop (ds.length - places)
    else
      '0' :: '.' :: (zeros (places - ds.length) ++ ds)

/-- Writes `d` with one digit before the point and an exponent that always has a sign. -/
def scientific (d : Decimal) : List Char :=
  let ds := (Nat.repr d.digits).toList
  let exponent := d.exponent + (ds.length : Int) - 1
  let tail := ds.drop 1
  ds.take 1 ++ (if tail.isEmpty then [] else '.' :: tail) ++
    'e' :: (if exponent < 0 then '-' else '+') :: (Nat.repr exponent.natAbs).toList

/-- The text of a double under a layout. -/
def Layout.write (layout : Layout) (x : Float) : String :=
  match FloatParts.ofFloat x with
  | .nan => layout.nan
  | .infinite negative => (if negative then "-" else "") ++ layout.infinity
  | .finite negative m q =>
    let body :=
      if m = 0 then (if layout.keepsPoint then ['0', '.', '0'] else ['0'])
      else
        let d := shortest m q
        let k := d.exponent + ((Nat.repr d.digits).length : Int)
        if layout.positionalFrom ≤ k ∧ k ≤ layout.positionalTo then positional d layout.keepsPoint
        else scientific d
    String.ofList (if negative then '-' :: body else body)

/-- Numbers in values: never an exponent, and whole numbers have no point. -/
def plain : Layout := ⟨-400, 400, false, "NaN", "inf"⟩

/-- Numbers in JSON documents: an exponent below `10 ^ -5` and from `10 ^ 16` on. -/
def document : Layout := ⟨-4, 16, true, "null", "null"⟩

/-! ## Fixed decimal places -/

/-- The quotient rounded to the nearest natural number, a half to the even neighbour. -/
def divNearestEven (numerator denominator : Nat) : Nat :=
  let quotient := numerator / denominator
  let doubled := 2 * (numerator % denominator)
  if doubled < denominator then quotient
  else if denominator < doubled then quotient + 1
  else if quotient % 2 = 0 then quotient else quotient + 1

/-- A natural number of units of the last place, written with that many places. -/
def withPlaces (count places : Nat) : List Char :=
  let whole := (Nat.repr (count / Nat.pow 10 places)).toList
  if places = 0 then whole
  else
    let part := (Nat.repr (count % Nat.pow 10 places)).toList
    whole ++ '.' :: (zeros (places - part.length) ++ part)

/-- The text of a double with a fixed number of decimal places. -/
def fixed (x : Float) (places : Nat) : String :=
  match FloatParts.ofFloat x with
  | .nan => "NaN"
  | .infinite negative => if negative then "-inf" else "inf"
  | .finite negative m q =>
    let count :=
      if 0 ≤ q then m * Nat.pow 2 q.toNat * Nat.pow 10 places
      else divNearestEven (m * Nat.pow 10 places) (Nat.pow 2 (-q).toNat)
    let body := withPlaces count places
    String.ofList (if negative then '-' :: body else body)

end Decimal
end Specimen
