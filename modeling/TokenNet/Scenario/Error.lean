import TokenNet.Network.Error

namespace TokenNet

/-!
# Errors of scenarios

A scenario fails because one of its texts cannot be read, because the network
refuses a command, or because a snapshot cannot become complete.
-/

/-- What a number in a text stands for. -/
inductive Quantity where
  /-- How many nodes a topology has. -/
  | nodeCount
  /-- How many tokens a node holds. -/
  | tokenCount
  /-- How many tokens move. -/
  | tokenAmount
  /-- How many ticks pass. -/
  | tickCount
  /-- The number of a snapshot. -/
  | snapshotId
deriving DecidableEq, Repr

/-- The name of a quantity in messages. -/
def Quantity.name : Quantity → String
  | nodeCount => "node count"
  | tokenCount => "token count"
  | tokenAmount => "token amount"
  | tickCount => "tick count"
  | snapshotId => "snapshot id"

/-- Why a line cannot be read. -/
inductive ParseCause where
  /-- A field is not a number of 64 bits. -/
  | notNumber (quantity : Quantity) (field : String)
  /-- The first line of a topology is not a single field. -/
  | expectedNodeCount
  /-- A line of a topology does not have two fields. -/
  | expectedTwoFields (found : Nat)
  /-- The topology has no content. -/
  | missingNodeCount
  /-- The topology ends before all its nodes have been listed. -/
  | missingNodes (left : Nat)
  /-- A command is unknown or has the wrong number of fields. -/
  | malformedCommand (word : String)
  /-- A command line has no field. -/
  | emptyCommand
  /-- The first line of an expected snapshot is not a single field. -/
  | expectedSnapshotId
  /-- A message on its way is not of tokens. -/
  | unknownMessage (field : String)
  /-- A line of an expected snapshot has neither two nor three fields. -/
  | unexpectedFields (found : Nat)
  /-- The expected snapshot has no content. -/
  | missingSnapshotId
deriving DecidableEq, Repr

/-- The text of a cause. -/
def ParseCause.message : ParseCause → String
  | notNumber quantity field => "invalid " ++ quantity.name ++ " " ++ Text.quote field
  | expectedNodeCount => "expected node count"
  | expectedTwoFields found => "expected 2 fields, found " ++ Text.decimal found
  | missingNodeCount => "missing node count"
  | missingNodes left =>
      "topology ended with " ++ Text.decimal left ++ " node lines missing"
  | malformedCommand word => "malformed " ++ Text.quote word ++ " command"
  | emptyCommand => "empty command"
  | expectedSnapshotId => "expected snapshot id"
  | unknownMessage field => "unknown message " ++ Text.quote field
  | unexpectedFields found => "unexpected " ++ Text.decimal found ++ " fields"
  | missingSnapshotId => "missing snapshot id"

/-- A text that cannot be read. -/
structure ParseError where
  /-- The physical line to blame, counted from one; zero blames the whole text. -/
  line : Nat
  /-- What is wrong. -/
  cause : ParseCause
deriving DecidableEq, Repr

/-- The text of a parse error: the line, then the cause. -/
def ParseError.message (error : ParseError) : String :=
  "line " ++ Text.decimal error.line ++ ": " ++ error.cause.message

/-- Why a scenario fails. -/
inductive ScenarioError where
  /-- A text cannot be read. -/
  | parse (error : ParseError)
  /-- The network refuses. -/
  | network (error : NetworkError)
  /-- Snapshots are incomplete and nothing is under way any more. -/
  | stalled (outstanding : List SnapshotId)
  /-- Snapshots are incomplete although every message has had the time to arrive, which cannot be. -/
  | unsettled (outstanding : List SnapshotId)
deriving DecidableEq, Repr

/-- Numbers between brackets, separated by commas. -/
def ScenarioError.listText (snapshots : List SnapshotId) : String :=
  "[" ++ ", ".intercalate (snapshots.map Text.decimalWord) ++ "]"

/-- The text of a failure. -/
def ScenarioError.message : ScenarioError → String
  | parse error => error.message
  | network error => error.message
  | stalled outstanding =>
      "snapshots " ++ listText outstanding ++ " cannot complete: no messages left in transit"
  | unsettled outstanding =>
      "snapshots " ++ listText outstanding ++ " cannot complete: every message was delivered"

end TokenNet
