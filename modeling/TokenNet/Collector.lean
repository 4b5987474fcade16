import TokenNet.Network.Error

namespace TokenNet

/-!
# Collectors

A collector counts down the nodes that still have to report their part of one
snapshot and keeps the reports.  Once nobody is awaited the snapshot can be put
together; until then whoever waits for it is held up, unless the collector has
been abandoned.
-/

/-- The reports of one snapshot. -/
structure Collector where
  /-- The snapshot. -/
  snapshot : SnapshotId
  /-- The nodes that take part. -/
  participants : SortedSet String
  /-- The nodes that have not reported yet. -/
  remaining : SortedSet String
  /-- The reports handed in. -/
  reported : SortedMap String Report
  /-- Whether the snapshot was given up before all had reported. -/
  abandoned : Bool
deriving DecidableEq, Repr

/-- What waiting for a snapshot comes to. -/
inductive Waiting where
  /-- The snapshot is there. -/
  | ready (snapshot : Snapshot)
  /-- The snapshot was given up. -/
  | abandoned
  /-- The wait goes on until something is reported or the snapshot given up. -/
  | blocked
deriving DecidableEq, Repr

namespace Collector

/-- A collector that awaits every participant. -/
def create (snapshot : SnapshotId) (participants : SortedSet String) : Collector :=
  ⟨snapshot, participants, participants, SortedMap.empty, false⟩

/-- The number of nodes that have not reported yet. -/
def outstanding (collector : Collector) : Nat := collector.remaining.size

/-- Whether every node has reported. -/
def isComplete (collector : Collector) : Bool := collector.outstanding = 0

/-- Whether a node has reported. -/
def hasReported (collector : Collector) (node : String) : Bool :=
  collector.reported.contains node

/-- Takes a report of this snapshot from a node that is still awaited, and tells
whether it was the last one.  Any other report is refused. -/
def accept (report : Report) : Action Collector NetworkError Bool := fun collector =>
  -- A report of another snapshot is refused under that snapshot's number.
  if report.snapshot ≠ collector.snapshot then
    .refused (.unexpectedReport report.node report.snapshot) collector
  else if !collector.remaining.contains report.node then
    .refused (.unexpectedReport report.node collector.snapshot) collector
  else
    let after := { collector with
      remaining := collector.remaining.erase report.node
      reported := collector.reported.insert report.node report }
    .done after.isComplete after

/-- The snapshot, put together once every node has reported. -/
def assemble? (collector : Collector) : Option Snapshot :=
  if collector.isComplete then
    some (Snapshot.assemble collector.snapshot collector.reported.values)
  else none

/-- Gives the snapshot up, unless it is complete. -/
def abandon (collector : Collector) : Collector :=
  if collector.isComplete then collector else { collector with abandoned := true }

/-- What waiting for the snapshot comes to now. -/
def wait (collector : Collector) : Waiting :=
  match collector.assemble? with
  | some snapshot => .ready snapshot
  | none => if collector.abandoned then .abandoned else .blocked

end Collector

end TokenNet
