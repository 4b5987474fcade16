import TokenNet.Network.Basic

namespace TokenNet
namespace Network

/-!
# Collecting snapshots

Reports are handed in to the collector of their snapshot.  Once a snapshot is
complete it can be taken away, once; handles that were given out before go on
answering.
-/

/-- Hands in the part of one node, and tells whether it was the last one. -/
def notify (report : Report) : NetworkAction Bool := do
  let complete ← callCollector report.snapshot (Collector.accept report)
  record fun tick => .snapshotEnded tick report.node report.snapshot
  return complete

/-- A handle on a snapshot that has not been taken away. -/
def handle (snapshot : SnapshotId) : NetworkAction Handle := fun net =>
  match net.collectors.get? snapshot with
  | none => .refused (.unknownSnapshot snapshot) net
  | some _ => .done ⟨snapshot⟩ net

/-- What waiting on a handle comes to. -/
def waitOn (net : Network) (handle : Handle) : Option Waiting :=
  (net.collectorOf? handle).map Collector.wait

/-- The network after the collector of a snapshot has been taken away. -/
def retire (net : Network) (snapshot : SnapshotId) (collector : Collector) : Network :=
  { net with
    collectors := net.collectors.erase snapshot
    retired := net.retired.insert snapshot collector }

/-- Takes a snapshot away if it is complete. -/
def tryCollect (snapshot : SnapshotId) : NetworkAction (Option Snapshot) := fun net =>
  match net.collectors.get? snapshot with
  | none => .refused (.unknownSnapshot snapshot) net
  | some collector =>
      match collector.assemble? with
      | none => .done none net
      | some assembled => .done (some assembled) (net.retire snapshot collector)

/-- Waits for a snapshot and takes it away.  The answer is empty if the wait would
go on for ever, since nothing happens in the meantime. -/
def collect (snapshot : SnapshotId) : NetworkAction (Option Snapshot) := fun net =>
  match net.collectors.get? snapshot with
  | none => .refused (.unknownSnapshot snapshot) net
  | some collector =>
      match collector.wait with
      | .ready assembled => .done (some assembled) (net.retire snapshot collector)
      | .abandoned => .refused (.snapshotAbandoned snapshot) net
      | .blocked => .done none net

/-- Takes a complete snapshot away without looking at it, and tells whether it was
complete. -/
def release (snapshot : SnapshotId) : NetworkAction Bool := fun net =>
  match net.collectors.get? snapshot with
  | none => .refused (.unknownSnapshot snapshot) net
  | some collector =>
      if collector.isComplete then .done true (net.retire snapshot collector)
      else .done false net

/-- Gives up those of the snapshots that are not complete. -/
def abandon (snapshots : List SnapshotId) (net : Network) : Network :=
  { net with
    collectors := net.collectors.mapValues fun id collector =>
      if id ∈ snapshots then collector.abandon else collector }

/-- Gives up every snapshot that is not complete, as happens when the network
itself is given up. -/
def close (net : Network) : Network :=
  { net with collectors := net.collectors.mapValues fun _ collector => collector.abandon }

end Network
end TokenNet
