import TokenNet.Arena.Topology

namespace TokenNet
namespace Arena

/-!
# Traffic in an arena

Messages are put on channels by number, and every tick goes through the handles in the order of the
names and, for each of them, through the numbers in the order of the receivers.
-/

/-! ### Sending -/

/-- Sends a message from the node of a handle: a due tick is drawn, the journal is written, and the
parcel joins the channel whose number the node knows. -/
def enqueue (handle : Nat) (target : String) (message : Message) : ArenaAction Unit := do
  let node ← nodeAt handle
  match node.outbound.get? target with
  | none => Action.refuse (.node node.name (.unknownDestination node.name target))
  | some number =>
      let due ← onBooks Network.receiveTime
      let parcel : Parcel := ⟨node.name, target, message, due⟩
      onBooks (Network.record fun tick => .sent tick parcel)
      push number parcel

/-- Carries out what the node of a handle asks for, and tells which snapshots thereby became
complete. -/
def applyEffects (handle : Nat) : List Effect → ArenaAction (List SnapshotId)
  | [] => return []
  | .send target message :: rest => do
      enqueue handle target message
      applyEffects handle rest
  | .completed report :: rest => do
      let complete ← onBooks (Network.notify report)
      let later ← applyEffects handle rest
      return if complete then report.snapshot :: later else later

/-- Moves tokens from a node towards a neighbour. -/
def sendTokens (source target : String) (tokens : UInt64) : ArenaAction Unit := do
  onBooks Network.freeze
  let handle ← requireHandle source
  let message ← callNode handle source (Node.send tokens target)
  enqueue handle target message

/-! ### Starting snapshots -/

/-- Opens a collector that awaits every node of the index. -/
def openCollector (snapshot : SnapshotId) : ArenaAction Unit :=
  Action.update fun arena => { arena with
    books := { arena.books with
      collectors := arena.books.collectors.insert snapshot
        (Collector.create snapshot (SortedSet.ofKeys arena.index)) } }

/-- Makes the nodes of handles take part in a snapshot of their own accord, one after another. -/
def startAt (snapshot : SnapshotId) : List Nat → ArenaAction Unit
  | [] => return ()
  | handle :: rest => do
      let node ← nodeAt handle
      let effects ← callNode handle node.name (Node.startSnapshot snapshot)
      let _ ← applyEffects handle effects
      startAt snapshot rest

/-- Starts a snapshot at a node, and at the same instant at the nodes that it cannot reach. -/
def startSnapshot (name : String) : ArenaAction SnapshotId := do
  onBooks Network.freeze
  let initiator ← requireHandle name
  let snapshot ← onBooks Network.allocate
  openCollector snapshot
  onBooks (Network.record fun tick => .snapshotStarted tick name snapshot)
  let others ← unreachableFrom initiator
  startAt snapshot (initiator :: others)
  return snapshot

/-- Does what is asked from outside. -/
def control : ControlEvent → ArenaAction (Option SnapshotId)
  | .passToken source target tokens => do
      sendTokens source target tokens
      return none
  | .snapshot node => do
      let snapshot ← startSnapshot node
      return some snapshot

/-! ### Delivering -/

/-- Hands a message to the receiver of a handle and carries out what it asks for.  A marker that
the receiver has had before is rejected. -/
def handTo (handle : Nat) (parcel : Parcel) : ArenaAction (List SnapshotId) := fun arena =>
  match callNode handle parcel.target (Node.receive parcel.source parcel.message) arena with
  | .done effects after => applyEffects handle effects after
  | .refused (.node _ (.duplicateMarker node source snapshot)) after =>
      (do onBooks (Network.reject source node snapshot); return []) after
  | .refused error after => .refused error after
  | .faulted fault => .faulted fault

/-- Hands a message to its receiver, if there is one. -/
def handOver (parcel : Parcel) : ArenaAction (List SnapshotId) := do
  let handle ← requireHandle parcel.target
  handTo handle parcel

/-- Delivers a parcel, and tells which snapshots thereby became complete.  A marker that comes too
late does not reach the receiver. -/
def deliver (parcel : Parcel) : ArenaAction (List SnapshotId) := do
  onBooks (Network.record fun tick => .received tick parcel.source parcel.target parcel.message)
  match parcel.message with
  | .token _ => handOver parcel
  | .marker snapshot =>
      let stale ← Action.read fun arena => arena.books.network.isStale snapshot parcel.target
      if stale then
        onBooks (Network.reject parcel.source parcel.target snapshot)
        return []
      else handOver parcel

/-- Takes the first parcel that is due off the channels of numbers. -/
def takeFirst : List Nat → ArenaAction (Option Parcel)
  | [] => return none
  | number :: rest => do
      let due ← popDue number
      match due with
      | some parcel => return some parcel
      | none => takeFirst rest

/-- Delivers one due parcel of each handle in turn.  Yields the number of parcels and the snapshots
that became complete. -/
def scan : List Nat → ArenaAction (Nat × List SnapshotId)
  | [] => return (0, [])
  | handle :: rest => do
      let node ← nodeAt handle
      let due ← takeFirst node.outbound.values
      match due with
      | none => scan rest
      | some parcel =>
          let completed ← deliver parcel
          let (deliveries, later) ← scan rest
          return (deliveries + 1, completed ++ later)

/-- Lets one tick pass: every node, in the order of the names, sends off at most one parcel that is
due. -/
def tick : ArenaAction TickReport := do
  onBooks Network.freeze
  onBooks Network.advance
  let handles ← Action.read fun arena => arena.index.values
  let (deliveries, completed) ← scan handles
  let now ← Action.read tickNow
  return ⟨now, deliveries, completed⟩

/-! ### Calls -/

/-- Makes a call. -/
def answer : Call → ArenaAction Answer
  | .addNode name tokens => (fun _ => .carriedOut) <$> addNode name tokens
  | .addLink source target => (fun _ => .carriedOut) <$> addLink source target
  | .send source target tokens => (fun _ => .carriedOut) <$> sendTokens source target tokens
  | .control event => .controlled <$> control event
  | .startSnapshot node => .started <$> startSnapshot node
  | .tick => .passed <$> tick
  | .receiveTime => .due <$> onBooks Network.receiveTime
  | .notify report => .reported <$> onBooks (Network.notify report)
  | .handle snapshot => .handle <$> onBooks (Network.handle snapshot)
  | .tryCollect snapshot => .taken <$> onBooks (Network.tryCollect snapshot)
  | .collect snapshot => .awaited <$> onBooks (Network.collect snapshot)
  | .release snapshot => .released <$> onBooks (Network.release snapshot)
  | .abandon snapshots =>
      (fun _ => .carriedOut) <$> onBooks (Action.update (Network.abandon snapshots))

/-- Makes a call and goes on with the state that it leaves, whether or not the call is refused. -/
def reply (call : Call) (arena : Arena) : Except Fault (Reply × Arena) :=
  match answer call arena with
  | .done value after => .ok (.ok value, after)
  | .refused error after => .ok (.error error, after)
  | .faulted fault => .error fault

/-- Makes calls one after another.  Yields what became of each, and the last state. -/
def history : List Call → Arena → Except Fault (List Reply × Arena)
  | [], arena => .ok ([], arena)
  | call :: rest, arena => do
      let (first, middle) ← arena.reply call
      let (later, last) ← middle.history rest
      return (first :: later, last)

end Arena
end TokenNet
