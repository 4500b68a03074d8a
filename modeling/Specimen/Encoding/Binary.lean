/-!
# Octets as text

The two text forms of octets: pairs of digits of base sixteen, and base 64 with padding.  The reader of
base 64 accepts only what the writer produces: full groups of four, padding where it is needed, and no
bits set beyond the last octet.
-/

namespace Specimen
namespace Encoding

/-- A digit of base sixteen, in upper case. -/
def hexDigit (n : Nat) : Char :=
  if n < 10 then Char.ofNat ('0'.toNat + n) else Char.ofNat ('A'.toNat + (n - 10))

/-- Octets in base sixteen, in upper case. -/
def toHex (octets : List UInt8) : String :=
  String.ofList (octets.flatMap fun b => [hexDigit (b.toNat / 16), hexDigit (b.toNat % 16)])

/-- Whether a character is a digit of base sixteen, in either case. -/
def isHexDigit (c : Char) : Bool :=
  c.isDigit || ('a' ≤ c && c ≤ 'f') || ('A' ≤ c && c ≤ 'F')

/-- Whether a text is octets in base sixteen. -/
def isHex (cs : List Char) : Bool :=
  cs.length % 2 == 0 && cs.all isHexDigit

/-- The digit of base 64 for a number below 64. -/
def base64Digit (n : Nat) : Char :=
  if n < 26 then Char.ofNat ('A'.toNat + n)
  else if n < 52 then Char.ofNat ('a'.toNat + (n - 26))
  else if n < 62 then Char.ofNat ('0'.toNat + (n - 52))
  else if n = 62 then '+'
  else '/'

/-- The number of a digit of base 64. -/
def base64Value? (c : Char) : Option Nat :=
  if 'A' ≤ c ∧ c ≤ 'Z' then some (c.toNat - 'A'.toNat)
  else if 'a' ≤ c ∧ c ≤ 'z' then some (c.toNat - 'a'.toNat + 26)
  else if c.isDigit then some (c.toNat - '0'.toNat + 52)
  else if c = '+' then some 62
  else if c = '/' then some 63
  else none

/-- Octets in base 64, as characters. -/
def base64Chars : List UInt8 → List Char
  | [] => []
  | [a] =>
    let n := a.toNat * 16
    [base64Digit (n / 64), base64Digit (n % 64), '=', '=']
  | [a, b] =>
    let n := (a.toNat * 256 + b.toNat) * 4
    [base64Digit (n / 4096), base64Digit (n / 64 % 64), base64Digit (n % 64), '=']
  | a :: b :: c :: rest =>
    let n := (a.toNat * 256 + b.toNat) * 256 + c.toNat
    base64Digit (n / 262144) :: base64Digit (n / 4096 % 64) :: base64Digit (n / 64 % 64) ::
      base64Digit (n % 64) :: base64Chars rest

def toBase64 (octets : List UInt8) : String := String.ofList (base64Chars octets)

/-- The number of octets that a text in base 64 stands for. -/
def base64Length? : List Char → Option Nat
  | [] => some 0
  | [a, b, '=', '='] => do
    let _ ← base64Value? a
    let b ← base64Value? b
    if b % 16 = 0 then some 1 else none
  | [a, b, c, '='] => do
    let _ ← base64Value? a
    let _ ← base64Value? b
    let c ← base64Value? c
    if c % 4 = 0 then some 2 else none
  | a :: b :: c :: d :: rest => do
    let _ ← base64Value? a
    let _ ← base64Value? b
    let _ ← base64Value? c
    let _ ← base64Value? d
    return 3 + (← base64Length? rest)
  | _ => none

end Encoding
end Specimen
