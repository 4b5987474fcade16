namespace TokenNet
namespace Digest

/-!
# SHA-256

The message is padded to blocks of sixteen words; every block is spread to
sixty-four words and folded into eight words of state, one round for each word.
The digest is the final state, written in hexadecimal.
-/

/-- The constants of the rounds: the first 32 bits of the fractional parts of the
cube roots of the first sixty-four primes. -/
def roundConstants : List UInt32 :=
  [0x428a2f98, 0x71374491, 0xb5c0fbcf, 0xe9b5dba5, 0x3956c25b, 0x59f111f1, 0x923f82a4, 0xab1c5ed5,
    0xd807aa98, 0x12835b01, 0x243185be, 0x550c7dc3, 0x72be5d74, 0x80deb1fe, 0x9bdc06a7, 0xc19bf174,
    0xe49b69c1, 0xefbe4786, 0x0fc19dc6, 0x240ca1cc, 0x2de92c6f, 0x4a7484aa, 0x5cb0a9dc, 0x76f988da,
    0x983e5152, 0xa831c66d, 0xb00327c8, 0xbf597fc7, 0xc6e00bf3, 0xd5a79147, 0x06ca6351, 0x14292967,
    0x27b70a85, 0x2e1b2138, 0x4d2c6dfc, 0x53380d13, 0x650a7354, 0x766a0abb, 0x81c2c92e, 0x92722c85,
    0xa2bfe8a1, 0xa81a664b, 0xc24b8b70, 0xc76c51a3, 0xd192e819, 0xd6990624, 0xf40e3585, 0x106aa070,
    0x19a4c116, 0x1e376c08, 0x2748774c, 0x34b0bcb5, 0x391c0cb3, 0x4ed8aa4a, 0x5b9cca4f, 0x682e6ff3,
    0x748f82ee, 0x78a5636f, 0x84c87814, 0x8cc70208, 0x90befffa, 0xa4506ceb, 0xbef9a3f7, 0xc67178f2]

/-- The eight words that are carried from block to block. -/
structure State where
  /-- The first word. -/
  a : UInt32
  /-- The second word. -/
  b : UInt32
  /-- The third word. -/
  c : UInt32
  /-- The fourth word. -/
  d : UInt32
  /-- The fifth word. -/
  e : UInt32
  /-- The sixth word. -/
  f : UInt32
  /-- The seventh word. -/
  g : UInt32
  /-- The eighth word. -/
  h : UInt32
deriving DecidableEq, Repr

namespace State

/-- The state before the first block: the first 32 bits of the fractional parts of
the square roots of the first eight primes. -/
def initial : State :=
  ⟨0x6a09e667, 0xbb67ae85, 0x3c6ef372, 0xa54ff53a, 0x510e527f, 0x9b05688c, 0x1f83d9ab, 0x5be0cd19⟩

/-- The word-wise sum of two states. -/
def add (s t : State) : State :=
  ⟨s.a + t.a, s.b + t.b, s.c + t.c, s.d + t.d, s.e + t.e, s.f + t.f, s.g + t.g, s.h + t.h⟩

/-- The words in order. -/
def words (s : State) : List UInt32 := [s.a, s.b, s.c, s.d, s.e, s.f, s.g, s.h]

end State

/-- A word rotated to the right. -/
def rotateRight (x places : UInt32) : UInt32 :=
  (x >>> places) ||| (x <<< (32 - places))

/-- The mixing of earlier words into a later one, first kind. -/
def spreadLow (x : UInt32) : UInt32 := rotateRight x 7 ^^^ rotateRight x 18 ^^^ (x >>> 3)

/-- The mixing of earlier words into a later one, second kind. -/
def spreadHigh (x : UInt32) : UInt32 := rotateRight x 17 ^^^ rotateRight x 19 ^^^ (x >>> 10)

/-- Adds one word to a block that is being spread.  The words come last first, and
the next one depends on those two, seven, fifteen and sixteen places back. -/
def spreadWord (words : List UInt32) : List UInt32 :=
  (spreadHigh (words.getD 1 0) + words.getD 6 0 + spreadLow (words.getD 14 0) +
    words.getD 15 0) :: words

/-- A block of sixteen words spread to sixty-four. -/
def spread (block : List UInt32) : List UInt32 :=
  ((List.range 48).foldl (fun words _ => spreadWord words) block.reverse).reverse

/-- One round with a constant and a word of the spread block. -/
def round (s : State) (constant word : UInt32) : State :=
  let mixed := rotateRight s.e 6 ^^^ rotateRight s.e 11 ^^^ rotateRight s.e 25
  let choice := (s.e &&& s.f) ^^^ (~~~ s.e &&& s.g)
  let first := s.h + mixed + choice + constant + word
  let turned := rotateRight s.a 2 ^^^ rotateRight s.a 13 ^^^ rotateRight s.a 22
  let majority := (s.a &&& s.b) ^^^ (s.a &&& s.c) ^^^ (s.b &&& s.c)
  ⟨first + (turned + majority), s.a, s.b, s.c, s.d + first, s.e, s.f, s.g⟩

/-- Folds a block of sixteen words into the state. -/
def compress (s : State) (block : List UInt32) : State :=
  s.add ((roundConstants.zip (spread block)).foldl (fun t pair => round t pair.1 pair.2) s)

/-- The four bytes of a word, the most significant first. -/
def wordBytes (word : UInt32) : List UInt8 :=
  [(word >>> 24).toUInt8, (word >>> 16).toUInt8, (word >>> 8).toUInt8, word.toUInt8]

/-- The word of four bytes, the most significant first. -/
def wordOfBytes (a b c d : UInt8) : UInt32 :=
  (a.toUInt32 <<< 24) ||| (b.toUInt32 <<< 16) ||| (c.toUInt32 <<< 8) ||| d.toUInt32

/-- Bytes taken four at a time as words. -/
def wordsOfBytes : List UInt8 → List UInt32
  | a :: b :: c :: d :: rest => wordOfBytes a b c d :: wordsOfBytes rest
  | _ => []

/-- The bytes that follow a message of the given length: a one bit, zeros up to
eight bytes before the end of a block, and the length in bits. -/
def padding (length : Nat) : List UInt8 :=
  let bits := (UInt64.ofNat length) * 8
  -- One byte for the bit and eight for the length leave fifty-five of a block.
  let zeros : List UInt8 := List.replicate ((119 - length % 64) % 64) 0
  (0x80 : UInt8) :: zeros ++ wordBytes (bits >>> 32).toUInt32 ++ wordBytes bits.toUInt32

/-- Folds words into a state, sixteen at a time, for at most the given number of
blocks. -/
def compressAll : Nat → State → List UInt32 → State
  | 0, s, _ => s
  | blocks + 1, s, words => compressAll blocks (compress s (words.take 16)) (words.drop 16)

/-- The final state of a message. -/
def sha256 (message : List UInt8) : State :=
  let words := wordsOfBytes (message ++ padding message.length)
  compressAll (words.length / 16) State.initial words

/-- The two hexadecimal digits of a byte. -/
def hexByte (byte : UInt8) : List Char :=
  [Nat.digitChar (byte.toNat / 16), Nat.digitChar (byte.toNat % 16)]

/-- The digest of a text in hexadecimal. -/
def sha256Hex (text : String) : String :=
  String.ofList ((sha256 text.toUTF8.toList).words.flatMap fun word =>
    (wordBytes word).flatMap hexByte)

end Digest
end TokenNet
