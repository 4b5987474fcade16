import TokenNet.Network.Basic
import TokenNet.Scenario.Field

namespace TokenNet
namespace Scenario

/-!
# Topology texts

The first content line is the number of nodes.  As many lines follow that give a
name and its tokens; every later line gives the two ends of a link.
-/

/-- Reads the first content line. -/
def readNodeCount (line : Text.ContentLine) : Except ParseError UInt64 :=
  match line.fields with
  | [count] => number line.number .nodeCount count
  | _ => .error ⟨line.number, .expectedNodeCount⟩

/-- Reads the links. -/
def readLinks : List Text.ContentLine → Except ParseError (List Link)
  | [] => .ok []
  | line :: rest =>
      match line.fields with
      | [source, target] => do
          let links ← readLinks rest
          return ⟨String.ofList source, String.ofList target⟩ :: links
      | found => .error ⟨line.number, .expectedTwoFields found.length⟩

/-- Reads as many nodes as are left, then the links. -/
def readNodes : Nat → List Text.ContentLine →
    Except ParseError (List InitialNode × List Link)
  | 0, lines => do
      let links ← readLinks lines
      return ([], links)
  -- There is no line to blame for what is missing.
  | left + 1, [] => .error ⟨0, .missingNodes (left + 1)⟩
  | left + 1, line :: rest =>
      match line.fields with
      | [name, tokens] => do
          let tokens ← number line.number .tokenCount tokens
          let (nodes, links) ← readNodes left rest
          return (⟨String.ofList name, tokens⟩ :: nodes, links)
      | found => .error ⟨line.number, .expectedTwoFields found.length⟩

/-- Reads a topology.  Seed and bound on delays are the usual ones. -/
def parseTopology (text : String) : Except ParseError Config :=
  match Text.contentLines text with
  | [] => .error ⟨0, .missingNodeCount⟩
  | first :: rest => do
      let count ← readNodeCount first
      let (nodes, links) ← readNodes count.toNat rest
      return { nodes := nodes, links := links }

end Scenario
end TokenNet
