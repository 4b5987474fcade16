namespace TokenNet
namespace CommandLine

/-!
# The log

Errors go to a log that is read at a terminal.  A text in the log must not be able
to steer the terminal: the controls with which a command to a terminal can begin
are written by their numbers, all other characters as they are.
-/

/-- Whether a control of one byte can steer a terminal: bell, backspace, form feed,
escape and delete. -/
def isSteeringByte (c : Char) : Bool :=
  c.toNat = 0x07 || c.toNat = 0x08 || c.toNat = 0x0C || c.toNat = 0x1B || c.toNat = 0x7F

/-- Whether a character is one of the thirty-two controls above the ASCII range. -/
def isHighControl (c : Char) : Bool := 0x80 ≤ c.toNat && c.toNat ≤ 0x9F

/-- The form of a character in the log. -/
def logChar (c : Char) : List Char :=
  if isSteeringByte c then
    ['\\', 'x', Nat.digitChar (c.toNat / 16), Nat.digitChar (c.toNat % 16)]
  else if isHighControl c then
    ['\\', 'u', '\x7b'] ++ Nat.toDigits 16 c.toNat ++ ['\x7d']
  else [c]

/-- A text as the log shows it. -/
def logText (text : String) : String := String.ofList (text.toList.flatMap logChar)

/-- The lines of an error in the log: the first one is marked. -/
def logLines (text : String) : List String :=
  ("ERROR " ++ logText text).splitOn "\n"

end CommandLine
end TokenNet
