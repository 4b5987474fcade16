import TokenNet.Scenario.Field

namespace TokenNet

/-!
# Scripts

Every content line of a script is a command: it moves tokens, starts a snapshot,
or lets ticks pass.
-/

/-- A command of a script. -/
inductive Command where
  /-- Move tokens along a link. -/
  | send (source target : String) (tokens : UInt64)
  /-- Start a snapshot at a node. -/
  | snapshot (node : String)
  /-- Let ticks pass. -/
  | tick (count : UInt64)
deriving DecidableEq, Repr

namespace Scenario

/-- The word that moves tokens. -/
def sendWord : List Char := "send".toList

/-- The word that starts a snapshot. -/
def snapshotWord : List Char := "snapshot".toList

/-- The word that lets ticks pass. -/
def tickWord : List Char := "tick".toList

/-- Reads a command from the fields of a line. -/
def readCommand (line : Nat) (fields : List (List Char)) : Except ParseError Command :=
  match fields with
  | [] => .error ⟨line, .emptyCommand⟩
  | word :: arguments =>
      let malformed := .error ⟨line, .malformedCommand (String.ofList word)⟩
      if word = sendWord then
        match arguments with
        | [source, target, tokens] => do
            let tokens ← number line .tokenAmount tokens
            return .send (String.ofList source) (String.ofList target) tokens
        | _ => malformed
      else if word = snapshotWord then
        match arguments with
        | [node] => .ok (.snapshot (String.ofList node))
        | _ => malformed
      else if word = tickWord then
        match arguments with
        | [] => .ok (.tick 1)
        | [count] => do
            let count ← number line .tickCount count
            return .tick count
        | _ => malformed
      else malformed

/-- Reads a script: one command from each content line. -/
def parseScript (text : String) : Except ParseError (List Command) :=
  (Text.contentLines text).mapM fun line => readCommand line.number line.fields

end Scenario

end TokenNet
