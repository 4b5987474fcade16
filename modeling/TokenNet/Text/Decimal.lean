namespace TokenNet
namespace Text

/-!
# Decimal numbers

Words of 64 bits are written in decimal without leading zeros.  Reading accepts
one plus sign in front and any number of leading zeros, wants at least one
digit and nothing but the ten ASCII digits, and refuses what does not fit.
-/

/-- The decimal digits of a number, without leading zeros. -/
def decimalDigits (n : Nat) : List Char := Nat.toDigits 10 n

/-- The decimal text of a number. -/
def decimal (n : Nat) : String := String.ofList (decimalDigits n)

/-- The decimal text of a word. -/
def decimalWord (n : UInt64) : String := decimal n.toNat

/-- Whether a character is one of the ten ASCII digits. -/
def isDigit (c : Char) : Bool := '0' ≤ c && c ≤ '9'

/-- The number that a run of digits denotes, most significant digit first. -/
def ofDigits (digits : List Char) : Nat :=
  digits.foldl (fun n c => n * 10 + (c.toNat - '0'.toNat)) 0

/-- A number as a word, if it fits into 64 bits. -/
def wordOfNat? (n : Nat) : Option UInt64 :=
  if n < UInt64.size then some (UInt64.ofNat n) else none

/-- The word that a non-empty run of digits denotes, if it fits. -/
def wordOfDigits? (digits : List Char) : Option UInt64 :=
  if digits.isEmpty || !digits.all isDigit then none else wordOfNat? (ofDigits digits)

/-- Reads a word: digits, with at most one plus sign in front. -/
def readWord? : List Char → Option UInt64
  | '+' :: digits => wordOfDigits? digits
  | digits => wordOfDigits? digits

end Text
end TokenNet
