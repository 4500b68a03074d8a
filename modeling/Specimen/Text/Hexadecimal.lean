/-!
# Digits of base sixteen

The value of such digits, and characters given by the digits of their code point.
-/

namespace Specimen
namespace Text

/-- The value of a digit of base sixteen. -/
def hexValue? (c : Char) : Option Nat :=
  if c.isDigit then some (c.toNat - '0'.toNat)
  else if 'a' ≤ c ∧ c ≤ 'f' then some (c.toNat - 'a'.toNat + 10)
  else if 'A' ≤ c ∧ c ≤ 'F' then some (c.toNat - 'A'.toNat + 10)
  else none

/-- The number that digits of base sixteen denote. -/
def hexNumber? (ds : List Char) : Option Nat :=
  if ds.isEmpty then none
  else (ds.mapM hexValue?).map fun values => values.foldl (fun n v => n * 16 + v) 0

/-- The character whose code point digits of base sixteen denote. -/
def hexChar? (ds : List Char) : Option Char :=
  (hexNumber? ds).bind fun code =>
    if code < 0xD800 ∨ (0xDFFF < code ∧ code ≤ 0x10FFFF) then some (Char.ofNat code) else none

end Text
end Specimen
