import TokenNet.Scenario.Field
import TokenNet.Snapshot.Basic

namespace TokenNet
namespace Scenario

/-!
# Texts of expected snapshots

The first content line is the number of the snapshot.  A line of two fields gives
a node and its balance, a line of three fields a transfer on its way.
-/

/-- The text between an opening and a closing part, if it has both. -/
def between? (opening closing text : List Char) : Option (List Char) :=
  if opening.isPrefixOf text then
    let rest := text.drop opening.length
    if closing.isSuffixOf rest then some (rest.take (rest.length - closing.length))
    else none
  else none

/-- Reads the number of the snapshot. -/
def readSnapshotId (line : Text.ContentLine) : Except ParseError SnapshotId :=
  match line.fields with
  | [id] => number line.number .snapshotId id
  | _ => .error ⟨line.number, .expectedSnapshotId⟩

/-- Adds to a snapshot what one line says. -/
def readEntry (snapshot : Snapshot) (line : Text.ContentLine) : Except ParseError Snapshot :=
  match line.fields with
  | [node, tokens] => do
      let tokens ← number line.number .tokenCount tokens
      return { snapshot with
        balances := snapshot.balances.insert (String.ofList node) tokens }
  | [source, target, message] =>
      match between? "token(".toList ")".toList message with
      | none => .error ⟨line.number, .unknownMessage (String.ofList message)⟩
      | some amount => do
          let amount ← number line.number .tokenAmount amount
          let transfer : Transfer := ⟨String.ofList source, String.ofList target, amount⟩
          return { snapshot with messages := snapshot.messages ++ [transfer] }
  | found => .error ⟨line.number, .unexpectedFields found.length⟩

/-- Reads an expected snapshot. -/
def parseSnapshot (text : String) : Except ParseError Snapshot :=
  match Text.contentLines text with
  | [] => .error ⟨0, .missingSnapshotId⟩
  | first :: rest => do
      let id ← readSnapshotId first
      rest.foldlM readEntry (Snapshot.empty id)

end Scenario
end TokenNet
