import TokenNet.Text.Decimal

namespace TokenNet

/-!
# JSON values

A value is a tree.  Numbers and strings, the keys of objects among them, are kept
as they are spelled: whatever is skipped when a record is read is never asked what
it stands for.  The members of an object keep their order.
-/

/-- A JSON value, with its numbers and strings as they are spelled. -/
inductive Json where
  /-- The value `null`. -/
  | null
  /-- A truth value. -/
  | bool (value : Bool)
  /-- A number. -/
  | number (spelling : List Char)
  /-- A string, without the quotes around it. -/
  | string (spelling : List Char)
  /-- A list of values. -/
  | array (items : List Json)
  /-- A list of members, each with its key. -/
  | object (members : List (List Char × Json))
deriving Inhabited, Repr

namespace Json

/-! ### Strings -/

/-- The spelling of one character: quote, backslash and controls are escaped, all
others stand for themselves. -/
def escapeChar (c : Char) : List Char :=
  if c = '"' then ['\\', '"']
  else if c = '\\' then ['\\', '\\']
  else if c.toNat = 0x8 then ['\\', 'b']
  else if c.toNat = 0xC then ['\\', 'f']
  else if c = '\n' then ['\\', 'n']
  else if c = '\r' then ['\\', 'r']
  else if c = '\t' then ['\\', 't']
  else if c.toNat < 0x20 then
    ['\\', 'u', '0', '0', Nat.digitChar (c.toNat / 16), Nat.digitChar (c.toNat % 16)]
  else [c]

/-- The spelling of a text. -/
def escape (text : List Char) : List Char := text.flatMap escapeChar

/-- The value of a hexadecimal digit in either case. -/
def hexDigit? (c : Char) : Option Nat :=
  if '0' ≤ c ∧ c ≤ '9' then some (c.toNat - '0'.toNat)
  else if 'a' ≤ c ∧ c ≤ 'f' then some (c.toNat - 'a'.toNat + 10)
  else if 'A' ≤ c ∧ c ≤ 'F' then some (c.toNat - 'A'.toNat + 10)
  else none

/-- The value of four hexadecimal digits. -/
def hexWord? (a b c d : Char) : Option Nat := do
  let a ← hexDigit? a
  let b ← hexDigit? b
  let c ← hexDigit? c
  let d ← hexDigit? d
  return ((a * 16 + b) * 16 + c) * 16 + d

/-- The character for which a backslash and one sign stand. -/
def escapedChar? (c : Char) : Option Char :=
  if c = '"' ∨ c = '\\' ∨ c = '/' then some c
  else if c = 'b' then some '\x08'
  else if c = 'f' then some '\x0c'
  else if c = 'n' then some '\n'
  else if c = 'r' then some '\r'
  else if c = 't' then some '\t'
  else none

/-- Whether a 16-bit unit is the first of a pair. -/
def isHighSurrogate (unit : Nat) : Bool := 0xD800 ≤ unit && unit < 0xDC00

/-- Whether a 16-bit unit is the second of a pair. -/
def isLowSurrogate (unit : Nat) : Bool := 0xDC00 ≤ unit && unit < 0xE000

/-- The character of a pair of 16-bit units. -/
def surrogatePair (high low : Nat) : Char :=
  Char.ofNat (0x10000 + (high - 0xD800) * 0x400 + (low - 0xDC00))

/-- The text that a spelling stands for.  A unit of a pair that stands alone has
no text. -/
def unescape? : List Char → Option (List Char)
  | [] => some []
  | '\\' :: 'u' :: a :: b :: c :: d :: rest => do
      let unit ← hexWord? a b c d
      -- The second unit of a pair cannot come first, and the first not alone.
      if isLowSurrogate unit then none
      else if isHighSurrogate unit then
        match rest with
        | '\\' :: 'u' :: e :: f :: g :: h :: rest => do
            let low ← hexWord? e f g h
            if isLowSurrogate low then
              (unescape? rest).map (surrogatePair unit low :: ·)
            else none
        | _ => none
      else (unescape? rest).map (Char.ofNat unit :: ·)
  | '\\' :: c :: rest => do
      let c ← escapedChar? c
      (unescape? rest).map (c :: ·)
  | c :: rest => (unescape? rest).map (c :: ·)

/-! ### Building and reading leaves -/

/-- The value of a text. -/
def ofText (text : String) : Json := .string (escape text.toList)

/-- The value of a number. -/
def ofNat (n : Nat) : Json := .number (Text.decimalDigits n)

/-- The value of a word. -/
def ofWord (n : UInt64) : Json := ofNat n.toNat

/-- The text of a string. -/
def text? : Json → Option String
  | .string spelling => (unescape? spelling).map String.ofList
  | _ => none

/-- The word of a number, which has to be spelled with digits alone. -/
def word? : Json → Option UInt64
  | .number spelling => Text.wordOfDigits? spelling
  | _ => none

/-! ### Writing -/

/-- The spelling of a truth value. -/
def boolSpelling (value : Bool) : List Char := if value then "true".toList else "false".toList

/-- A spelling between quotes. -/
def quoted (spelling : List Char) : List Char := '"' :: spelling ++ ['"']

mutual

/-- A value without any white space. -/
def compactChars : Json → List Char
  | .null => "null".toList
  | .bool value => boolSpelling value
  | .number spelling => spelling
  | .string spelling => quoted spelling
  | .array [] => ['[', ']']
  | .array (item :: items) => '[' :: compactChars item ++ compactItems items ++ [']']
  | .object [] => ['\x7b', '\x7d']
  | .object ((key, value) :: members) =>
      '\x7b' :: quoted key ++ ':' :: compactChars value ++ compactMembers members ++ ['\x7d']

/-- The items after the first one, each after a comma. -/
def compactItems : List Json → List Char
  | [] => []
  | item :: items => ',' :: compactChars item ++ compactItems items

/-- The members after the first one, each after a comma. -/
def compactMembers : List (List Char × Json) → List Char
  | [] => []
  | (key, value) :: members =>
      ',' :: quoted key ++ ':' :: compactChars value ++ compactMembers members

end

/-- A value in one line, without any white space. -/
def compact (json : Json) : String := String.ofList (compactChars json)

/-- A line end and the indent of a depth, two blanks for each level. -/
def newLine (depth : Nat) : List Char := '\n' :: List.replicate (2 * depth) ' '

mutual

/-- A value at some depth, spread over lines. -/
def prettyChars (depth : Nat) : Json → List Char
  | .null => "null".toList
  | .bool value => boolSpelling value
  | .number spelling => spelling
  | .string spelling => quoted spelling
  | .array [] => ['[', ']']
  | .array (item :: items) =>
      '[' :: newLine (depth + 1) ++ prettyChars (depth + 1) item ++
        prettyItems depth items ++ newLine depth ++ [']']
  | .object [] => ['\x7b', '\x7d']
  | .object ((key, value) :: members) =>
      '\x7b' :: newLine (depth + 1) ++ quoted key ++ ':' :: ' ' :: prettyChars (depth + 1) value ++
        prettyMembers depth members ++ newLine depth ++ ['\x7d']

/-- The items after the first one, each on a line of its own. -/
def prettyItems (depth : Nat) : List Json → List Char
  | [] => []
  | item :: items =>
      ',' :: newLine (depth + 1) ++ prettyChars (depth + 1) item ++ prettyItems depth items

/-- The members after the first one, each on a line of its own. -/
def prettyMembers (depth : Nat) : List (List Char × Json) → List Char
  | [] => []
  | (key, value) :: members =>
      ',' :: newLine (depth + 1) ++ quoted key ++ ':' :: ' ' :: prettyChars (depth + 1) value ++
        prettyMembers depth members

end

/-- A value spread over lines, two blanks deeper at each level. -/
def pretty (json : Json) : String := String.ofList (prettyChars 0 json)

end Json

end TokenNet
