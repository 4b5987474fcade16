import TokenNet.Fault
import TokenNet.Link
import TokenNet.Message

namespace TokenNet

/-!
# Snapshots

A node reports its part of a snapshot: the balance it had when it took part and
the token transfers that were still on their way to it at that moment.  The
snapshot puts the reports of all nodes together.
-/

/-- Tokens found on their way from one node to another. -/
structure Transfer where
  /-- The sender. -/
  source : String
  /-- The receiver. -/
  target : String
  /-- The tokens on their way. -/
  amount : UInt64
deriving DecidableEq, Repr

/-- The link that a transfer was found on. -/
def Transfer.link (transfer : Transfer) : Link := ⟨transfer.source, transfer.target⟩

/-- The part of a snapshot that one node reports. -/
structure Report where
  /-- The snapshot. -/
  snapshot : SnapshotId
  /-- The node that reports. -/
  node : String
  /-- The balance of the node when it took part. -/
  balance : UInt64
  /-- The transfers that were on their way to the node, in the order in which
  they arrived. -/
  inFlight : List Transfer
deriving DecidableEq, Repr

/-- The state of a whole network: what the nodes hold and what is on its way. -/
structure Snapshot where
  /-- The number of the snapshot. -/
  id : SnapshotId
  /-- The balance of every node. -/
  balances : SortedMap String UInt64
  /-- The transfers on their way. -/
  messages : List Transfer
deriving DecidableEq, Repr

namespace Snapshot

/-- The snapshot with no nodes and nothing on its way. -/
def empty (id : SnapshotId) : Snapshot := ⟨id, SortedMap.empty, []⟩

/-- Transfers that carry tokens. -/
def positive (transfers : List Transfer) : List Transfer :=
  transfers.filter fun transfer => 0 < transfer.amount

/-- The reports by node; of two reports of one node the later counts. -/
def byNode (reports : List Report) : SortedMap String Report :=
  SortedMap.ofList (reports.map fun report => (report.node, report))

/-- The snapshot put together from one report per node.  Nodes come in the order
of their names, each with its transfers in the order of arrival; transfers that
carry nothing are left out. -/
def ofReports (id : SnapshotId) (reports : SortedMap String Report) : Snapshot where
  id := id
  balances := reports.mapValues fun _ report => report.balance
  messages := reports.values.flatMap fun report => positive report.inFlight

/-- The snapshot put together from a list of reports. -/
def assemble (id : SnapshotId) (reports : List Report) : Snapshot :=
  ofReports id (byNode reports)

/-- The tokens that the nodes hold. -/
def balanceTotal (snapshot : Snapshot) : Except Fault UInt64 :=
  checkedSum snapshot.balances.values

/-- The tokens on their way. -/
def inFlightTotal (snapshot : Snapshot) : Except Fault UInt64 :=
  checkedSum (snapshot.messages.map Transfer.amount)

/-- All tokens of the snapshot. -/
def total (snapshot : Snapshot) : Except Fault UInt64 := do
  let held ← snapshot.balanceTotal
  let moving ← snapshot.inFlightTotal
  checkedAdd held moving

/-- The transfers on their way to one node. -/
def messagesTo (snapshot : Snapshot) (target : String) : List Transfer :=
  snapshot.messages.filter fun transfer => transfer.target = target

/-- Adds a transfer to the tokens found on its link. -/
def addToLink (totals : SortedMap Link UInt64) (transfer : Transfer) :
    Except Fault (SortedMap Link UInt64) := do
  let sum ← checkedAdd ((totals.get? transfer.link).getD 0) transfer.amount
  return totals.insert transfer.link sum

/-- The tokens on their way on each link that has any transfer. -/
def linkTotals (snapshot : Snapshot) : Except Fault (SortedMap Link UInt64) :=
  snapshot.messages.foldlM addToLink SortedMap.empty

end Snapshot

end TokenNet
