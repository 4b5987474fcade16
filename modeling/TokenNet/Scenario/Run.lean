import TokenNet.Network.Traffic
import TokenNet.Scenario.Script

namespace TokenNet

/-!
# Running a script

The commands are carried out one after another.  Then ticks pass until every
snapshot is complete, and a few more, so that what is still under way can arrive.
The snapshots that the script started are taken away in the order of their
numbers.  If the script fails, those of them that are incomplete are given up.
-/

/-- A call on a network in the course of a scenario. -/
abbrev ScenarioAction (α : Type) : Type := Action Network ScenarioError α

namespace Network

/-- Whether a node has no marker of a snapshot left to send: it takes part, or its
part has been handed in. -/
def hasBegun (net : Network) (collector : Collector) (name : String) : Bool :=
  collector.hasReported name ||
    match net.nodes.get? name with
    | some node => node.recordings.contains collector.snapshot
    | none => false

/-- The number of markers that may still be sent for the snapshots that are not
complete: one for each link of a node that does not take part yet. -/
def unsentMarkers (net : Network) : Nat :=
  ((net.collectors.filter fun _ collector => !collector.isComplete).values.map fun collector =>
    (net.links.toList.filter fun link => !net.hasBegun collector link.source).length).foldr
      (· + ·) 0

/-- A number of ticks after which nothing is under way.  Of the messages under way
and still to be sent, one is delivered at the latest whenever as many ticks have
passed as a delay can have. -/
def settleBound (net : Network) : Nat :=
  (net.pending + net.unsentMarkers) * max 1 net.maxDelay.toNat

/-- The snapshots that have not been taken away, from a number on. -/
def retainedFrom (net : Network) (first : SnapshotId) : List SnapshotId :=
  net.collectors.keys.filter fun snapshot => first ≤ snapshot

end Network

namespace Scenario

/-- Carries out a command. -/
def perform : Command → NetworkAction Unit
  | .send source target tokens => do
      let _ ← Network.control (.passToken source target tokens)
  | .snapshot node => do
      let _ ← Network.control (.snapshot node)
  | .tick count => Network.pass count.toNat

/-- Carries out commands one after another. -/
def performAll : List Command → NetworkAction Unit
  | [] => return ()
  | command :: rest => do
      perform command
      performAll rest

/-- Lets ticks pass until every snapshot is complete, but at most the given number
of them.  It is an error if a snapshot is incomplete while nothing is under way. -/
def settle (ticks : Nat) : ScenarioAction Unit := do
  let outstanding ← Action.read Network.outstanding
  if outstanding.isEmpty then
    return ()
  else
    let pending ← Action.read Network.pending
    -- Only a marker can complete a snapshot, and none is left.
    if pending = 0 then
      Action.refuse (.stalled outstanding)
    else
      match ticks with
      | 0 => Action.refuse (.unsettled outstanding)
      | ticks + 1 => do
          let _ ← Action.mapError .network Network.tick
          settle ticks

/-- Carries out the commands and lets the network come to rest. -/
def drive (commands : List Command) : ScenarioAction Unit := do
  Action.mapError .network (performAll commands)
  let bound ← Action.read Network.settleBound
  settle bound
  -- Whatever no snapshot waited for gets the longest delay to arrive in.
  let maxDelay ← Action.read Network.maxDelay
  Action.mapError .network (Network.pass (maxDelay.toNat + 1))

/-- Takes complete snapshots away, one after another. -/
def collectAll : List SnapshotId → NetworkAction (List Snapshot)
  | [] => return []
  | id :: rest => do
      let snapshot ← Network.tryCollect id
      let later ← collectAll rest
      return snapshot.toList ++ later

/-- Runs a script and yields the snapshots that it started, in the order of their
numbers.  A script that fails gives up those that are incomplete. -/
def runScript (commands : List Command) : ScenarioAction (List Snapshot) := fun net =>
  match drive commands net with
  | .done _ after =>
      Action.mapError .network (collectAll (after.retainedFrom net.nextSnapshot)) after
  | .refused error after =>
      .refused error (Network.abandon (after.retainedFrom net.nextSnapshot) after)
  | .faulted fault => .faulted fault

end Scenario

end TokenNet
