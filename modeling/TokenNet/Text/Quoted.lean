import TokenNet.Text.Unprintable

namespace TokenNet
namespace Text

/-!
# Quoted texts in messages

A text that a message quotes stands between double quotes.  Tab, line feed,
carriage return, the null character, the double quote and the backslash are
written with a backslash and one sign; every other character without a visible
form is written by its number in braces.
-/

/-- The written form of one character of a quoted text. -/
def quoteChar (c : Char) : List Char :=
  if c = '\t' then ['\\', 't']
  else if c = '\n' then ['\\', 'n']
  else if c = '\r' then ['\\', 'r']
  else if c.toNat = 0 then ['\\', '0']
  else if c = '"' then ['\\', '"']
  else if c = '\\' then ['\\', '\\']
  else if isUnprintable c then
    ['\\', 'u', '\x7b'] ++ Nat.toDigits 16 c.toNat ++ ['\x7d']
  else [c]

/-- A text between double quotes, with what cannot be shown escaped. -/
def quote (text : String) : String :=
  String.ofList (['"'] ++ text.toList.flatMap quoteChar ++ ['"'])

end Text
end TokenNet
