import TokenNet.Action
import TokenNet.Snapshot.Basic

namespace TokenNet

/-!
# Nodes

A node holds tokens and knows the channels that lead to it and away from it.
For every snapshot that it takes part in and has not yet reported it keeps a
recording: the balance at the start, the sources whose marker has come, the
sources whose marker it still awaits, and the transfers from those.  A node
never touches a channel; it answers with effects, which its network carries out.
-/

/-- What a node keeps about a snapshot that it takes part in. -/
structure Recording where
  /-- The snapshot. -/
  snapshot : SnapshotId
  /-- The balance when the node took part. -/
  balance : UInt64
  /-- The sources whose marker has come. -/
  seen : SortedSet String
  /-- The sources whose marker is still to come. -/
  awaiting : SortedSet String
  /-- The transfers that came from sources while their marker was still to come,
  in the order of arrival. -/
  inFlight : List Transfer
deriving DecidableEq, Repr

/-- What a node asks of its network. -/
inductive Effect where
  /-- Send a message to a neighbour. -/
  | send (target : String) (message : Message)
  /-- The node has finished its part of a snapshot. -/
  | completed (report : Report)
deriving DecidableEq, Repr

/-- Why a node refuses a call. -/
inductive NodeError where
  /-- The node holds fewer tokens than it is to send. -/
  | insufficientTokens (node : String) (requested available : UInt64)
  /-- No channel leads to the receiver. -/
  | unknownDestination (node target : String)
  /-- No channel comes from the sender. -/
  | unknownSource (node source : String)
  /-- The marker of a snapshot came twice from one source. -/
  | duplicateMarker (node source : String) (snapshot : SnapshotId)
  /-- The node already takes part in the snapshot that it is to start. -/
  | alreadyStarted (node : String) (snapshot : SnapshotId)
deriving DecidableEq, Repr

/-- The text of a refusal. -/
def NodeError.message : NodeError → String
  | insufficientTokens node requested available =>
      "node " ++ node ++ " attempted to send " ++ Text.decimalWord requested ++
        " tokens when it only has " ++ Text.decimalWord available
  | unknownDestination node target =>
      "unknown destination " ++ target ++ " from node " ++ node
  | unknownSource node source => "node " ++ node ++ " has no inbound link from " ++ source
  | duplicateMarker node source snapshot =>
      "duplicate marker for snapshot " ++ Text.decimalWord snapshot ++ " on link " ++
        source ++ " -> " ++ node
  | alreadyStarted node snapshot =>
      "snapshot " ++ Text.decimalWord snapshot ++ " already started on node " ++ node

/-- A node with its channels, each given by its number, and its recordings. -/
structure Node where
  /-- The name of the node. -/
  name : String
  /-- The tokens that the node holds. -/
  tokens : UInt64
  /-- The channels that lead away, by receiver. -/
  outbound : SortedMap String Nat
  /-- The channels that lead here, by sender. -/
  inbound : SortedMap String Nat
  /-- The snapshots that the node takes part in and has not yet reported. -/
  recordings : SortedMap SnapshotId Recording
deriving DecidableEq, Repr

namespace Recording

/-- Writes down a transfer if the marker of its sender is still to come. -/
def note (transfer : Transfer) (recording : Recording) : Recording :=
  if recording.awaiting.contains transfer.source then
    { recording with inFlight := recording.inFlight ++ [transfer] }
  else recording

/-- Moves a source from those awaited to those seen. -/
def see (source : String) (recording : Recording) : Recording :=
  { recording with
    seen := recording.seen.add source
    awaiting := recording.awaiting.erase source }

/-- The part of the snapshot that a node reports from its recording. -/
def report (node : String) (recording : Recording) : Report :=
  ⟨recording.snapshot, node, recording.balance, recording.inFlight⟩

end Recording

namespace Node

/-- A node with tokens and without channels. -/
def create (name : String) (tokens : UInt64) : Node :=
  ⟨name, tokens, SortedMap.empty, SortedMap.empty, SortedMap.empty⟩

/-- Connects the node to a receiver. -/
def addOutbound (node : Node) (target : String) (channel : Nat) : Node :=
  { node with outbound := node.outbound.insert target channel }

/-- Connects the node to a sender. -/
def addInbound (node : Node) (source : String) (channel : Nat) : Node :=
  { node with inbound := node.inbound.insert source channel }

/-- The number of snapshots that the node takes part in. -/
def activeRecordings (node : Node) : Nat := node.recordings.size

/-- Takes tokens off the balance and yields the message that moves them.  The
receiver is looked at first, then the balance. -/
def send (amount : UInt64) (target : String) : Action Node NodeError Message := fun node =>
  if !node.outbound.contains target then
    .refused (.unknownDestination node.name target) node
  else if node.tokens < amount then
    .refused (.insufficientTokens node.name amount node.tokens) node
  else .done (.token amount) { node with tokens := node.tokens - amount }

/-- The recording of a node that takes part now.  If a marker made it take part,
`trigger` is its sender, whose marker has thereby come. -/
def freshRecording (node : Node) (snapshot : SnapshotId) (trigger : Option String) :
    Recording where
  snapshot := snapshot
  balance := node.tokens
  seen := SortedSet.ofList trigger.toList
  awaiting := (SortedSet.ofKeys node.inbound).filter fun source _ => some source ≠ trigger
  inFlight := []

/-- Takes part in a snapshot: a marker goes to every receiver, in the order of
their names.  If no marker is to come, the node has finished already and keeps no
recording. -/
def takePart (snapshot : SnapshotId) (trigger : Option String) (node : Node) :
    List Effect × Node :=
  let recording := node.freshRecording snapshot trigger
  let markers := node.outbound.keys.map fun target => Effect.send target (.marker snapshot)
  if recording.awaiting.isEmpty then
    -- Nothing is awaited, so the report follows the markers at once.
    (markers ++ [.completed (recording.report node.name)], node)
  else
    (markers, { node with recordings := node.recordings.insert snapshot recording })

/-- Starts a snapshot at this node. -/
def startSnapshot (snapshot : SnapshotId) : Action Node NodeError (List Effect) := fun node =>
  if node.recordings.contains snapshot then
    .refused (.alreadyStarted node.name snapshot) node
  else
    let (effects, after) := node.takePart snapshot none
    .done effects after

/-- Receives tokens.  They count for the balance at once; every recording that
still awaits the marker of the sender writes them down, unless there are none. -/
def receiveTokens (source : String) (amount : UInt64) :
    Action Node NodeError (List Effect) := fun node =>
  match checkedAdd node.tokens amount with
  | .error fault => .faulted fault
  | .ok tokens =>
      if 0 < amount then
        -- A recording that has seen the marker of the sender leaves the transfer out.
        .done [] { node with
          tokens := tokens
          recordings := node.recordings.mapValues fun _ recording =>
            recording.note ⟨source, node.name, amount⟩ }
      else .done [] { node with tokens := tokens }

/-- Receives a marker.  The first one of a snapshot makes the node take part; the
last one that is awaited completes its part. -/
def receiveMarker (source : String) (snapshot : SnapshotId) :
    Action Node NodeError (List Effect) := fun node =>
  match node.recordings.get? snapshot with
  | none =>
      let (effects, after) := node.takePart snapshot (some source)
      .done effects after
  | some recording =>
      if recording.seen.contains source then
        .refused (.duplicateMarker node.name source snapshot) node
      else
        let recording := recording.see source
        -- The balance reported is the one of the start, not the one of now.
        if recording.awaiting.isEmpty then
          .done [.completed (recording.report node.name)]
            { node with recordings := node.recordings.erase snapshot }
        else
          .done [] { node with recordings := node.recordings.insert snapshot recording }

/-- Receives a message.  The sender has to be a neighbour. -/
def receive (source : String) (message : Message) :
    Action Node NodeError (List Effect) := fun node =>
  if !node.inbound.contains source then
    .refused (.unknownSource node.name source) node
  else
    match message with
    | .token amount => receiveTokens source amount node
    | .marker snapshot => receiveMarker source snapshot node

end Node

end TokenNet
