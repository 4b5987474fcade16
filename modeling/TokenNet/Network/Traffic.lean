import TokenNet.Network.Collection
import TokenNet.Network.Topology

namespace TokenNet

/-!
# Traffic

Tokens and markers are put on channels with a tick at which they become due, and
every tick delivers at most one parcel of each sender.  A snapshot starts at one
node and, at the same instant, at all nodes that the first one cannot reach.
-/

/-- What is asked of a network from outside. -/
inductive ControlEvent where
  /-- Move tokens along a link. -/
  | passToken (source target : String) (tokens : UInt64)
  /-- Start a snapshot at a node. -/
  | snapshot (node : String)
deriving DecidableEq, Repr

/-- What happened in one tick. -/
structure TickReport where
  /-- The tick. -/
  tick : UInt64
  /-- The number of parcels delivered. -/
  deliveries : Nat
  /-- The snapshots that became complete, in order. -/
  completed : List SnapshotId
deriving DecidableEq, Repr

namespace Network

/-! ### Sending -/

/-- Draws a delay. -/
def drawDelay : NetworkAction UInt64 := fun net =>
  let (delay, generator) := net.generator.below net.maxDelay
  .done delay { net with generator := generator }

/-- Draws the tick at which a message sent now becomes due: the next one, plus a
delay. -/
def receiveTime : NetworkAction UInt64 := do
  let tick ← Action.read tickNow
  -- The next tick has to exist before a delay is drawn.
  let earliest ← Action.ofExcept (checkedAdd tick 1)
  let delay ← drawDelay
  Action.ofExcept (checkedAdd earliest delay)

/-- Puts a parcel on the channel of a link. -/
def push (link : Link) (parcel : Parcel) : NetworkAction Unit := fun net =>
  match net.channels.get? link with
  | none => .refused (.node link.source (.unknownDestination link.source link.target)) net
  | some channel =>
      match channel.push parcel with
      | .ok after => .done () { net with channels := net.channels.insert link after }
      | .error fault => .faulted fault

/-- Is refused unless the link exists. -/
def requireLink (link : Link) : NetworkAction Unit := fun net =>
  if net.channels.contains link then .done () net
  else .refused (.node link.source (.unknownDestination link.source link.target)) net

/-- Sends a message: a due tick is drawn, the journal is written, and the parcel
joins its channel. -/
def enqueue (source target : String) (message : Message) : NetworkAction Unit := do
  requireLink ⟨source, target⟩
  let due ← receiveTime
  let parcel : Parcel := ⟨source, target, message, due⟩
  record fun tick => .sent tick parcel
  push ⟨source, target⟩ parcel

/-- Carries out what a node asks for, and tells which snapshots thereby became
complete. -/
def applyEffects (name : String) : List Effect → NetworkAction (List SnapshotId)
  | [] => return []
  | .send target message :: rest => do
      enqueue name target message
      applyEffects name rest
  | .completed report :: rest => do
      let complete ← notify report
      let later ← applyEffects name rest
      return if complete then report.snapshot :: later else later

/-- Moves tokens from a node towards a neighbour. -/
def sendTokens (source target : String) (tokens : UInt64) : NetworkAction Unit := do
  -- Nothing can be added any more, even if the node refuses.
  freeze
  let message ← callNode source (Node.send tokens target)
  enqueue source target message

/-! ### Starting snapshots -/

/-- Takes the next number for a snapshot. -/
def allocate : NetworkAction SnapshotId := do
  let snapshot ← Action.read nextSnapshot
  let next ← Action.ofExcept (checkedAdd snapshot 1)
  Action.update fun net => { net with nextSnapshot := next }
  return snapshot

/-- Opens a collector that awaits every node. -/
def openCollector (snapshot : SnapshotId) : NetworkAction Unit :=
  Action.update fun net => { net with
    collectors := net.collectors.insert snapshot
      (Collector.create snapshot (SortedSet.ofKeys net.nodes)) }

/-- Makes nodes take part in a snapshot of their own accord, one after another. -/
def startAt (snapshot : SnapshotId) : List String → NetworkAction Unit
  | [] => return ()
  | name :: rest => do
      let effects ← callNode name (Node.startSnapshot snapshot)
      let _ ← applyEffects name effects
      startAt snapshot rest

/-- Starts a snapshot at a node.  The nodes that it cannot reach would never see
one of its markers; they take part at the same instant, in the order of their
names. -/
def startSnapshot (name : String) : NetworkAction SnapshotId := do
  freeze
  requireNode name
  let snapshot ← allocate
  openCollector snapshot
  record fun tick => .snapshotStarted tick name snapshot
  let others ← Action.read fun net => net.unreachableFrom name
  -- The node that was asked for comes first, whatever its name.
  startAt snapshot (name :: others)
  return snapshot

/-- Does what is asked from outside.  The answer is the number of the snapshot, if
one was started. -/
def control : ControlEvent → NetworkAction (Option SnapshotId)
  | .passToken source target tokens => do
      sendTokens source target tokens
      return none
  | .snapshot node => do
      let snapshot ← startSnapshot node
      return some snapshot

/-! ### Delivering -/

/-- Counts a marker for which the receiver has no use, and writes it down. -/
def reject (source target : String) (snapshot : SnapshotId) : NetworkAction Unit := do
  Action.update fun net => { net with rejected := net.rejected + 1 }
  record fun tick => .markerRejected tick source target snapshot

/-- Whether a marker for a node comes too late: its snapshot has been taken away,
or the node has reported. -/
def isStale (net : Network) (snapshot : SnapshotId) (target : String) : Bool :=
  match net.collectors.get? snapshot with
  | none => true
  | some collector => collector.hasReported target

/-- Hands a message to its receiver and carries out what the receiver asks for.  A
marker that the receiver has had before is rejected. -/
def handOver (parcel : Parcel) : NetworkAction (List SnapshotId) := fun net =>
  match callNode parcel.target (Node.receive parcel.source parcel.message) net with
  | .done effects after => applyEffects parcel.target effects after
  | .refused (.node _ (.duplicateMarker node source snapshot)) after =>
      (do reject source node snapshot; return []) after
  | .refused error after => .refused error after
  | .faulted fault => .faulted fault

/-- Delivers a parcel, and tells which snapshots thereby became complete.  A marker
that comes too late does not reach the receiver. -/
def deliver (parcel : Parcel) : NetworkAction (List SnapshotId) := do
  record fun tick => .received tick parcel.source parcel.target parcel.message
  match parcel.message with
  | .token _ => handOver parcel
  | .marker snapshot =>
      let stale ← Action.read fun net => net.isStale snapshot parcel.target
      if stale then
        reject parcel.source parcel.target snapshot
        return []
      else handOver parcel

/-- The first parcel of a sender that is due, in the order of the receivers, with
its link and the channel that is left without it.  Only the oldest parcel of each
channel counts. -/
def firstDue? (net : Network) (source : String) : Option (Link × Parcel × Channel) :=
  (net.channels.leaving source).findSome? fun entry =>
    (entry.2.popDue? net.clock).map fun popped => (⟨source, entry.1⟩, popped)

/-- Takes the first parcel of a sender that is due off its channel. -/
def takeDue (source : String) : NetworkAction (Option Parcel) := fun net =>
  match net.firstDue? source with
  | none => .done none net
  | some (link, parcel, channel) =>
      .done (some parcel) { net with channels := net.channels.insert link channel }

/-- Delivers one due parcel of each sender in turn.  Yields the number of parcels
and the snapshots that became complete. -/
def scan : List String → NetworkAction (Nat × List SnapshotId)
  | [] => return (0, [])
  | source :: rest => do
      let due ← takeDue source
      match due with
      | none => scan rest
      | some parcel =>
          let completed ← deliver parcel
          let (deliveries, later) ← scan rest
          return (deliveries + 1, completed ++ later)

/-- Moves the clock. -/
def advance : NetworkAction Unit := do
  let clock ← Action.read clock
  let after ← Action.ofExcept clock.advance
  Action.update fun net => { net with clock := after }

/-- Lets one tick pass: every node, in the order of the names, sends off at most
one parcel that is due. -/
def tick : NetworkAction TickReport := do
  freeze
  advance
  let names ← Action.read nodeNames
  -- A message sent in the course of the scan is due in a later tick.
  let (deliveries, completed) ← scan names
  let now ← Action.read tickNow
  return ⟨now, deliveries, completed⟩

/-- Lets a number of ticks pass. -/
def pass : Nat → NetworkAction Unit
  | 0 => return ()
  | ticks + 1 => do
      let _ ← tick
      pass ticks

end Network

end TokenNet
