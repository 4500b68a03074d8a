/-!
# Streams and draws

The source of randomness is a stream of 32-bit words produced by the eight-round ChaCha block function
from a key of 32 bytes.  The same key always gives the same stream, so a run is repeatable.

A key is spread from a seed of 64 bits by a permuted congruential generator, or derived from a seed
and a text by a digest (`Specimen.Random.Digest`).

Integers of a range, doubles of a range, and truth values are drawn from a stream.  A draw changes
nothing but the position in it.  An integer of a range of `r` values comes from the high half of the
product of a word and `r`.  Ranges inside patterns are unbiased (`Draw.uniform`); all others correct the
bias by at most one further word (`Draw.range`).
-/

namespace Specimen
namespace Random

/-! ## Word streams -/

def rotateLeft (x : UInt32) (n : UInt32) : UInt32 :=
  (x <<< n) ||| (x >>> (32 - n))

def rotateRight (x : UInt32) (n : UInt32) : UInt32 :=
  (x >>> n) ||| (x <<< (32 - n))

/-- The sixteen words that the block function works on. -/
abbrev Block := Vector UInt32 16

def quarterRound (s : Block) (a b c d : Fin 16) : Block :=
  let s := s.set a (s[a] + s[b])
  let s := s.set d (rotateLeft (s[d] ^^^ s[a]) 16)
  let s := s.set c (s[c] + s[d])
  let s := s.set b (rotateLeft (s[b] ^^^ s[c]) 12)
  let s := s.set a (s[a] + s[b])
  let s := s.set d (rotateLeft (s[d] ^^^ s[a]) 8)
  let s := s.set c (s[c] + s[d])
  s.set b (rotateLeft (s[b] ^^^ s[c]) 7)

/-- Mixes all columns and then all diagonals of a block. -/
def doubleRound (s : Block) : Block :=
  let s := quarterRound s 0 4 8 12
  let s := quarterRound s 1 5 9 13
  let s := quarterRound s 2 6 10 14
  let s := quarterRound s 3 7 11 15
  let s := quarterRound s 0 5 10 15
  let s := quarterRound s 1 6 11 12
  let s := quarterRound s 2 7 8 13
  quarterRound s 3 4 9 14

/-- A key of eight words. -/
abbrev Key := Vector UInt32 8

/-- The sixteen words of the stream at a block number. -/
def keystream (key : Key) (number : UInt64) : Block :=
  let start : Block :=
    #v[0x61707865, 0x3320646e, 0x79622d32, 0x6b206574,
       key[0], key[1], key[2], key[3], key[4], key[5], key[6], key[7],
       number.toUInt32, (number >>> 32).toUInt32, 0, 0]
  let mixed := doubleRound (doubleRound (doubleRound (doubleRound start)))
  start.zipWith (· + ·) mixed

/-- A position in a stream: the key, the number of the next block, and the words of the current block
that are still to be given out. -/
structure Rng where
  key : Key
  next : UInt64
  pending : List UInt32
  deriving Repr

instance : Inhabited Rng := ⟨⟨Vector.replicate 8 0, 0, []⟩⟩

/-- The stream of a key, from its start. -/
def Rng.ofKey (key : Key) : Rng := ⟨key, 0, []⟩

def Rng.nextWord (rng : Rng) : UInt32 × Rng :=
  match rng.pending with
  | w :: rest => (w, { rng with pending := rest })
  | [] =>
    let block := keystream rng.key rng.next
    (block[0], ⟨rng.key, rng.next + 1, block.toList.drop 1⟩)

/-- The words that a seed is spread to; `count` says how many. -/
def spreadSeed (state : UInt64) : Nat → List UInt32
  | 0 => []
  | count + 1 =>
    let state := state * 6364136223846793005 + 11634580027462260723
    let mixed := (((state >>> 18) ^^^ state) >>> 27).toUInt32
    let turn := (state >>> 59).toUInt32
    (if turn = 0 then mixed else rotateRight mixed turn) :: spreadSeed state count

/-- A key from a list of words; missing words are zero. -/
def keyOfWords (words : List UInt32) : Key :=
  Vector.ofFn fun i => words.getD i.val 0

def Rng.ofSeed (seed : UInt64) : Rng :=
  Rng.ofKey (keyOfWords (spreadSeed seed 8))

/-! ## Draws -/

/-- A value drawn from a stream. -/
abbrev Draw := StateM Rng

namespace Draw

/-- The widths of words that integers are drawn from. -/
inductive Width where
  | w32
  | w64
  | w128
  deriving DecidableEq, Repr

def Width.bits : Width → Nat
  | .w32 => 32
  | .w64 => 64
  | .w128 => 128

def word32 : Draw Nat := fun rng =>
  let (w, rng) := rng.nextWord
  (w.toNat, rng)

/-- A word of 64 bits, its low half drawn first. -/
def word64 : Draw Nat := do
  let low ← word32
  let high ← word32
  return low + high * Nat.pow 2 32

/-- A word of 128 bits, its low half drawn first. -/
def word128 : Draw Nat := do
  let low ← word64
  let high ← word64
  return low + high * Nat.pow 2 64

def word : Width → Draw Nat
  | .w32 => word32
  | .w64 => word64
  | .w128 => word128

/-- A natural number below `count`. -/
def below (width : Width) (count : Nat) : Draw Nat := do
  let size := Nat.pow 2 width.bits
  let x ← word width
  let high := x * count / size
  let low := x * count % size
  if size - count < low then
    let y ← word width
    if size ≤ low + y * count / size then return high + 1 else return high
  else return high

/-- An integer between two bounds, both included.  A range as large as the width has words is a word
itself, read with a sign when the range has negative numbers. -/
def range (width : Width) (low high : Int) : Draw Int := do
  let size : Int := Nat.pow 2 width.bits
  if high - low + 1 = size then
    let x ← word width
    return if low < 0 ∧ size ≤ 2 * x then (x : Int) - size else x
  else
    let n ← below width (high - low + 1).toNat
    return low + n

/-- A natural number below `count`, without bias: words that would favour a result are drawn again, at
most `fuel` times. -/
def uniformBelow (fuel : Nat) (count : Nat) : Draw Nat := do
  let size := Nat.pow 2 32
  let x ← word32
  let low := x * count % size
  if (size - count) % count ≤ low then return x * count / size
  else
    match fuel with
    | 0 => return x * count / size
    | fuel + 1 => uniformBelow fuel count

/-- A natural number below `count`, without bias. -/
def uniform (count : Nat) : Draw Nat := uniformBelow 128 count

/-- A position in a list of `length` items. -/
def index (length : Nat) : Draw Nat :=
  below (if length < Nat.pow 2 32 then .w32 else .w64) length

/-- A double with `0 ≤ x < 1`, from the upper 52 bits of a word. -/
def unit : Draw Float := do
  let w ← word64
  return Float.ofBits (UInt64.ofNat (1023 * Nat.pow 2 52 + w / Nat.pow 2 12)) - 1.0

def floatRange (low high : Float) : Draw Float := do
  let x ← unit
  return x * (high - low) + low

/-- A truth value, both equally likely. -/
def coin : Draw Bool := do
  let w ← word64
  return decide (w < Nat.pow 2 63)

/-- A number of bytes; each word gives four, the lowest first. -/
def bytes (count : Nat) : Draw (List UInt8) := do
  let words ← (List.range ((count + 3) / 4)).mapM fun _ => word32
  let all := words.flatMap fun w =>
    [UInt8.ofNat w, UInt8.ofNat (w / Nat.pow 2 8), UInt8.ofNat (w / Nat.pow 2 16),
      UInt8.ofNat (w / Nat.pow 2 24)]
  return all.take count

end Draw

end Random
end Specimen
