import TokenNet.Snapshot.Text

namespace TokenNet

/-!
# Comparing snapshots

A snapshot matches an expected one if the numbers and the balances agree and
every node has the same transfers on their way to it, in the same order.  How
the transfers to different nodes are interleaved does not matter.  A snapshot
conserves tokens if its total is the one given.
-/

/-- The first difference of a snapshot from an expected one. -/
inductive Mismatch where
  /-- The numbers differ. -/
  | number (expected actual : SnapshotId)
  /-- The balances differ. -/
  | balances (id : SnapshotId) (expected actual : SortedMap String UInt64)
  /-- There are more or fewer transfers. -/
  | count (id : SnapshotId) (expected actual : List Transfer)
  /-- The transfers to one node differ. -/
  | messages (id : SnapshotId) (target : String) (expected actual : List Transfer)
deriving DecidableEq, Repr

namespace Mismatch

/-- What is the matter, followed by the two sides. -/
def report (id : SnapshotId) (matter expected actual : String) : String :=
  "Snapshot " ++ Text.decimalWord id ++ ": " ++ matter ++ " do not match.\nExpected:\n" ++
    expected ++ "\nActual:\n" ++ actual

/-- The text of a difference. -/
def message : Mismatch → String
  | number expected actual =>
      "Snapshot IDs do not match: " ++ Text.decimalWord expected ++ " != " ++
        Text.decimalWord actual
  | balances id expected actual =>
      report id "tokens" (Snapshot.balancesText "\t" expected)
        (Snapshot.balancesText "\t" actual)
  | count id expected actual =>
      report id "number of messages" (Snapshot.transfersText "\t" expected)
        (Snapshot.transfersText "\t" actual)
  | messages id target expected actual =>
      report id ("messages received at " ++ target) (Snapshot.transfersText "\t" expected)
        (Snapshot.transfersText "\t" actual)

end Mismatch

/-- A snapshot whose tokens do not add up to the total of the network. -/
structure ConservationError where
  /-- The total of the network. -/
  expected : UInt64
  /-- The total of the snapshot. -/
  actual : UInt64
  /-- The snapshot. -/
  snapshot : Snapshot
deriving DecidableEq, Repr

/-- The text of a conservation error: both totals and the whole snapshot. -/
def ConservationError.message (error : ConservationError) : String :=
  "Snapshot " ++ Text.decimalWord error.snapshot.id ++ ": simulator has " ++
    Text.decimalWord error.expected ++ " tokens, snapshot has " ++
    Text.decimalWord error.actual ++ ":\n" ++
    Snapshot.balancesText "\t" error.snapshot.balances ++ "\n" ++
    Snapshot.transfersText "\t" error.snapshot.messages

/-- The transfers to each node that any are to, those to one node in their order. -/
def Transfer.byTarget (transfers : List Transfer) : SortedMap String (List Transfer) :=
  transfers.foldl (fun groups transfer =>
    groups.insert transfer.target ((groups.get? transfer.target).getD [] ++ [transfer])) .empty

namespace Snapshot

/-- The first difference from an expected snapshot: numbers, then balances, then
the count of transfers, then the transfers to each node, in the order of the
names of the nodes that the expected snapshot has transfers to. -/
def mismatch? (actual expected : Snapshot) : Option Mismatch :=
  if expected.id ≠ actual.id then some (.number expected.id actual.id)
  else if expected.balances ≠ actual.balances then
    some (.balances actual.id expected.balances actual.balances)
  -- With as many transfers on both sides, those to the expected targets settle the rest.
  else if expected.messages.length ≠ actual.messages.length then
    some (.count actual.id expected.messages actual.messages)
  else
    let actualTo := fun target => ((Transfer.byTarget actual.messages).get? target).getD []
    ((Transfer.byTarget expected.messages).toList.find? fun group =>
      group.2 ≠ actualTo group.1).map fun group =>
        .messages actual.id group.1 group.2 (actualTo group.1)

/-- The first of the snapshots whose tokens do not add up to the total. -/
def findUnconserved (total : UInt64) : List Snapshot → Except Fault (Option ConservationError)
  | [] => .ok none
  | snapshot :: rest => do
      let actual ← snapshot.total
      if actual = total then findUnconserved total rest
      else return some ⟨total, actual, snapshot⟩

end Snapshot

end TokenNet
