import TokenNet.Network.Traffic

namespace TokenNet

/-!
# Calls

Everything that can be asked of a network, as data.  A history is a list of calls
made one after another: a call that is refused does not end it, a fault does.
-/

/-- A call on a network. -/
inductive Call where
  /-- Add a node. -/
  | addNode (name : String) (tokens : UInt64)
  /-- Add a link. -/
  | addLink (source target : String)
  /-- Move tokens along a link. -/
  | send (source target : String) (tokens : UInt64)
  /-- Do what a control event says. -/
  | control (event : ControlEvent)
  /-- Start a snapshot at a node. -/
  | startSnapshot (node : String)
  /-- Let one tick pass. -/
  | tick
  /-- Draw the tick at which a message sent now would become due. -/
  | receiveTime
  /-- Hand in the part of one node in a snapshot. -/
  | notify (report : Report)
  /-- Ask for a handle on a snapshot. -/
  | handle (snapshot : SnapshotId)
  /-- Take a snapshot away if it is complete. -/
  | tryCollect (snapshot : SnapshotId)
  /-- Wait for a snapshot and take it away. -/
  | collect (snapshot : SnapshotId)
  /-- Take a complete snapshot away without looking at it. -/
  | release (snapshot : SnapshotId)
  /-- Give up those of the snapshots that are not complete. -/
  | abandon (snapshots : List SnapshotId)
deriving DecidableEq, Repr

/-- What a call yields that is not refused. -/
inductive Answer where
  /-- The call has been carried out, and there is nothing to tell. -/
  | carriedOut
  /-- A control event has been carried out; it may have started a snapshot. -/
  | controlled (snapshot : Option SnapshotId)
  /-- A snapshot has been started. -/
  | started (snapshot : SnapshotId)
  /-- A tick has passed. -/
  | passed (report : TickReport)
  /-- A message sent now would become due at this tick. -/
  | due (tick : UInt64)
  /-- A report has been handed in, which may have been the last one. -/
  | reported (complete : Bool)
  /-- A handle has been given out. -/
  | handle (handle : Handle)
  /-- The snapshot has been taken away, unless it is incomplete. -/
  | taken (snapshot : Option Snapshot)
  /-- The snapshot has been taken away, unless waiting for it would go on for
  ever. -/
  | awaited (snapshot : Option Snapshot)
  /-- The snapshot has been taken away, unless it is incomplete. -/
  | released (complete : Bool)
deriving DecidableEq, Repr

/-- What became of a call: its answer, or why it was refused. -/
abbrev Reply : Type := Except NetworkError Answer

namespace Network

/-- Makes a call. -/
def answer : Call → NetworkAction Answer
  | .addNode name tokens => (fun _ => .carriedOut) <$> addNode name tokens
  | .addLink source target => (fun _ => .carriedOut) <$> addLink source target
  | .send source target tokens => (fun _ => .carriedOut) <$> sendTokens source target tokens
  | .control event => .controlled <$> control event
  | .startSnapshot node => .started <$> startSnapshot node
  | .tick => .passed <$> tick
  | .receiveTime => .due <$> receiveTime
  | .notify report => .reported <$> notify report
  | .handle snapshot => .handle <$> handle snapshot
  | .tryCollect snapshot => .taken <$> tryCollect snapshot
  | .collect snapshot => .awaited <$> collect snapshot
  | .release snapshot => .released <$> release snapshot
  | .abandon snapshots => (fun _ => .carriedOut) <$> Action.update (abandon snapshots)

/-- Makes a call and goes on with the state that it leaves, whether or not the call is
refused. -/
def reply (call : Call) (net : Network) : Except Fault (Reply × Network) :=
  match answer call net with
  | .done value after => .ok (.ok value, after)
  | .refused error after => .ok (.error error, after)
  | .faulted fault => .error fault

/-- Makes calls one after another.  Yields what became of each, and the last state. -/
def history : List Call → Network → Except Fault (List Reply × Network)
  | [], net => .ok ([], net)
  | call :: rest, net => do
      let (first, middle) ← net.reply call
      let (later, last) ← middle.history rest
      return (first :: later, last)

end Network

end TokenNet
