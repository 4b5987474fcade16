import TokenNet.Json.Basic

namespace TokenNet
namespace Json

/-!
# Reading JSON texts

A text holds one value, with white space allowed between the parts.  Strings are
cut off at their closing quote and numbers at the end of the longest number, but
what they stand for is not looked at.  Each call of the three readers of values
uses up one unit of fuel; a text never needs more than it has characters.
-/

/-- Whether a character may stand between the parts of a text. -/
def isSpace (c : Char) : Bool := c = ' ' || c = '\n' || c = '\t' || c = '\r'

/-- What follows the leading white space. -/
def skipSpace (text : List Char) : List Char := text.dropWhile isSpace

/-- Cuts a string off after its closing quote.  Every escape has to be complete,
and controls have to be escaped. -/
def cutString? : List Char → Option (List Char × List Char)
  | [] => none
  | '"' :: rest => some ([], rest)
  | '\\' :: 'u' :: a :: b :: c :: d :: rest => do
      let _ ← hexWord? a b c d
      let (spelling, rest) ← cutString? rest
      return ('\\' :: 'u' :: a :: b :: c :: d :: spelling, rest)
  | '\\' :: c :: rest => do
      let _ ← escapedChar? c
      let (spelling, rest) ← cutString? rest
      return ('\\' :: c :: spelling, rest)
  | c :: rest =>
      -- A backslash here has nothing to escape.
      if c.toNat < 0x20 || c = '\\' then none
      else do
        let (spelling, rest) ← cutString? rest
        return (c :: spelling, rest)

/-- Cuts off a run of at least one digit. -/
def cutDigits? (text : List Char) : Option (List Char × List Char) :=
  let digits := text.takeWhile Text.isDigit
  if digits.isEmpty then none else some (digits, text.dropWhile Text.isDigit)

/-- Cuts off the whole part of a number: a zero, or digits of which the first is
none. -/
def cutWhole? : List Char → Option (List Char × List Char)
  | '0' :: rest => some (['0'], rest)
  | text => cutDigits? text

/-- Cuts off a fraction, if there is one. -/
def cutFraction? : List Char → Option (List Char × List Char)
  | '.' :: rest => do
      let (digits, rest) ← cutDigits? rest
      return ('.' :: digits, rest)
  | text => some ([], text)

/-- Cuts off an exponent, if there is one. -/
def cutExponent? : List Char → Option (List Char × List Char)
  | [] => some ([], [])
  | c :: rest =>
      if c = 'e' ∨ c = 'E' then
        let (sign, rest) :=
          match rest with
          | '+' :: rest => (['+'], rest)
          | '-' :: rest => (['-'], rest)
          | rest => ([], rest)
        do
          let (digits, rest) ← cutDigits? rest
          return (c :: sign ++ digits, rest)
      else some ([], c :: rest)

/-- Cuts off a number. -/
def cutNumber? (text : List Char) : Option (List Char × List Char) := do
  let (sign, rest) :=
    match text with
    | '-' :: rest => (['-'], rest)
    | rest => ([], rest)
  let (whole, rest) ← cutWhole? rest
  let (fraction, rest) ← cutFraction? rest
  let (exponent, rest) ← cutExponent? rest
  return (sign ++ whole ++ fraction ++ exponent, rest)

mutual

/-- Reads one value, and yields what follows it. -/
def parseValue? : Nat → List Char → Option (Json × List Char)
  | 0, _ => none
  | fuel + 1, text =>
      match skipSpace text with
      | 'n' :: 'u' :: 'l' :: 'l' :: rest => some (.null, rest)
      | 't' :: 'r' :: 'u' :: 'e' :: rest => some (.bool true, rest)
      | 'f' :: 'a' :: 'l' :: 's' :: 'e' :: rest => some (.bool false, rest)
      | '"' :: rest => do
          let (spelling, rest) ← cutString? rest
          return (.string spelling, rest)
      | '[' :: rest =>
          match skipSpace rest with
          | ']' :: rest => some (.array [], rest)
          | rest => do
              let (items, rest) ← parseItems? fuel rest
              return (.array items, rest)
      | '\x7b' :: rest =>
          match skipSpace rest with
          | '\x7d' :: rest => some (.object [], rest)
          | rest => do
              let (members, rest) ← parseMembers? fuel rest
              return (.object members, rest)
      | rest => do
          let (spelling, rest) ← cutNumber? rest
          return (.number spelling, rest)

/-- Reads the items of a list up to its closing bracket. -/
def parseItems? : Nat → List Char → Option (List Json × List Char)
  | 0, _ => none
  | fuel + 1, text => do
      let (item, rest) ← parseValue? fuel text
      match skipSpace rest with
      | ']' :: rest => some ([item], rest)
      | ',' :: rest => do
          let (items, rest) ← parseItems? fuel rest
          return (item :: items, rest)
      | _ => none

/-- Reads the members of an object up to its closing brace. -/
def parseMembers? : Nat → List Char → Option (List (List Char × Json) × List Char)
  | 0, _ => none
  | fuel + 1, text =>
      match skipSpace text with
      | '"' :: rest => do
          let (key, rest) ← cutString? rest
          match skipSpace rest with
          | ':' :: rest => do
              let (value, rest) ← parseValue? fuel rest
              match skipSpace rest with
              | '\x7d' :: rest => some ([(key, value)], rest)
              | ',' :: rest => do
                  let (members, rest) ← parseMembers? fuel rest
                  return ((key, value) :: members, rest)
              | _ => none
          | _ => none
      | _ => none

end

/-- Reads a text that holds one value and nothing else. -/
def parseChars? (text : List Char) : Option Json := do
  let (json, rest) ← parseValue? (text.length + 1) text
  if (skipSpace rest).isEmpty then some json else none

/-- Reads a text that holds one value and nothing else. -/
def parse? (text : String) : Option Json := parseChars? text.toList

end Json
end TokenNet
