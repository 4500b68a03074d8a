import Specimen.Random.Draw

/-!
# Substreams

The SHA-256 digest, and the streams that are derived from a seed and a text with it.  Streams of
different texts are unrelated, so what is drawn for one text never shifts what is drawn for another.
-/

namespace Specimen
namespace Random

def roundConstants : List UInt32 := [
  0x428a2f98, 0x71374491, 0xb5c0fbcf, 0xe9b5dba5, 0x3956c25b, 0x59f111f1, 0x923f82a4, 0xab1c5ed5,
  0xd807aa98, 0x12835b01, 0x243185be, 0x550c7dc3, 0x72be5d74, 0x80deb1fe, 0x9bdc06a7, 0xc19bf174,
  0xe49b69c1, 0xefbe4786, 0x0fc19dc6, 0x240ca1cc, 0x2de92c6f, 0x4a7484aa, 0x5cb0a9dc, 0x76f988da,
  0x983e5152, 0xa831c66d, 0xb00327c8, 0xbf597fc7, 0xc6e00bf3, 0xd5a79147, 0x06ca6351, 0x14292967,
  0x27b70a85, 0x2e1b2138, 0x4d2c6dfc, 0x53380d13, 0x650a7354, 0x766a0abb, 0x81c2c92e, 0x92722c85,
  0xa2bfe8a1, 0xa81a664b, 0xc24b8b70, 0xc76c51a3, 0xd192e819, 0xd6990624, 0xf40e3585, 0x106aa070,
  0x19a4c116, 0x1e376c08, 0x2748774c, 0x34b0bcb5, 0x391c0cb3, 0x4ed8aa4a, 0x5b9cca4f, 0x682e6ff3,
  0x748f82ee, 0x78a5636f, 0x84c87814, 0x8cc70208, 0x90befffa, 0xa4506ceb, 0xbef9a3f7, 0xc67178f2]

/-- The eight words that a digest carries from chunk to chunk. -/
structure HashState where
  a : UInt32
  b : UInt32
  c : UInt32
  d : UInt32
  e : UInt32
  f : UInt32
  g : UInt32
  h : UInt32

def HashState.start : HashState :=
  ⟨0x6a09e667, 0xbb67ae85, 0x3c6ef372, 0xa54ff53a, 0x510e527f, 0x9b05688c, 0x1f83d9ab, 0x5be0cd19⟩

/-- One round, with its constant and its message word. -/
def HashState.round (s : HashState) (constant word : UInt32) : HashState :=
  let s1 := rotateRight s.e 6 ^^^ rotateRight s.e 11 ^^^ rotateRight s.e 25
  let choice := (s.e &&& s.f) ^^^ ((~~~ s.e) &&& s.g)
  let t1 := s.h + s1 + choice + constant + word
  let s0 := rotateRight s.a 2 ^^^ rotateRight s.a 13 ^^^ rotateRight s.a 22
  let majority := (s.a &&& s.b) ^^^ (s.a &&& s.c) ^^^ (s.b &&& s.c)
  ⟨t1 + (s0 + majority), s.a, s.b, s.c, s.d + t1, s.e, s.f, s.g⟩

/-- The sum of two states, word by word. -/
def HashState.add (s t : HashState) : HashState :=
  ⟨s.a + t.a, s.b + t.b, s.c + t.c, s.d + t.d, s.e + t.e, s.f + t.f, s.g + t.g, s.h + t.h⟩

def HashState.words (s : HashState) : List UInt32 := [s.a, s.b, s.c, s.d, s.e, s.f, s.g, s.h]

/-- A word from four bytes, the highest first. -/
def wordOfBytes (a b c d : UInt8) : UInt32 :=
  (a.toUInt32 <<< 24) ||| (b.toUInt32 <<< 16) ||| (c.toUInt32 <<< 8) ||| d.toUInt32

/-- The bytes of a word, the highest first. -/
def bytesOfWord (w : UInt32) : List UInt8 :=
  [(w >>> 24).toUInt8, (w >>> 16).toUInt8, (w >>> 8).toUInt8, w.toUInt8]

/-- The words of a list of bytes, four at a time. -/
def wordsOfBytes : List UInt8 → List UInt32
  | a :: b :: c :: d :: rest => wordOfBytes a b c d :: wordsOfBytes rest
  | _ => []

/-- Extends a message schedule by `count` words; `recent` holds the last sixteen words, latest first. -/
def schedule (recent : List UInt32) : Nat → List UInt32
  | 0 => []
  | count + 1 =>
    let w2 := recent.getD 1 0
    let w7 := recent.getD 6 0
    let w15 := recent.getD 14 0
    let w16 := recent.getD 15 0
    let s0 := rotateRight w15 7 ^^^ rotateRight w15 18 ^^^ (w15 >>> 3)
    let s1 := rotateRight w2 17 ^^^ rotateRight w2 19 ^^^ (w2 >>> 10)
    let w := w16 + s0 + w7 + s1
    w :: schedule (w :: recent.take 15) count

/-- Takes one chunk of sixteen words into a state. -/
def HashState.absorb (s : HashState) (chunk : List UInt32) : HashState :=
  let words := chunk ++ schedule chunk.reverse 48
  s.add ((roundConstants.zip words).foldl (fun s p => s.round p.1 p.2) s)

/-- Takes whole chunks into a state; `fuel` bounds their number. -/
def HashState.absorbAll (fuel : Nat) (s : HashState) (words : List UInt32) : HashState :=
  match fuel with
  | 0 => s
  | fuel + 1 =>
    if words.isEmpty then s else absorbAll fuel (s.absorb (words.take 16)) (words.drop 16)

/-- A natural number of 64 bits as bytes, the highest first. -/
def bytesOfLength (n : Nat) : List UInt8 :=
  (List.range 8).map fun i => UInt8.ofNat (n / Nat.pow 256 (7 - i))

/-- A message with the padding that fills its last chunk. -/
def padded (message : List UInt8) : List UInt8 :=
  let length := message.length
  let fill := (119 - length % 64) % 64
  message ++ 0x80 :: (List.replicate fill 0 ++ bytesOfLength (8 * length))

/-- The SHA-256 digest of a message, as 32 bytes. -/
def digest (message : List UInt8) : List UInt8 :=
  let words := wordsOfBytes (padded message)
  (HashState.start.absorbAll (words.length / 16) words).words.flatMap bytesOfWord

/-- The bytes of a word of 64 bits, the lowest first. -/
def bytesOfSeed (seed : UInt64) : List UInt8 :=
  (List.range 8).map fun i => (seed >>> (8 * UInt64.ofNat i)).toUInt8

/-- The words of a list of bytes, the lowest byte of each first. -/
def lowFirstWords : List UInt8 → List UInt32
  | a :: b :: c :: d :: rest => wordOfBytes d c b a :: lowFirstWords rest
  | _ => []

/-- The stream of a seed and a text. -/
def Rng.ofSeedAndText (seed : UInt64) (text : String) : Rng :=
  Rng.ofKey (keyOfWords (lowFirstWords (digest (bytesOfSeed seed ++ text.toUTF8.toList))))

end Random
end Specimen
