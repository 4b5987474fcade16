import TokenNet.Network.Call
import TokenNet.Proofs.Queues

namespace TokenNet

/-!
# Runs step by step

A run takes a network through steps.  Each step is one of the actions that calls are
made of, and comes with what happens in it to nodes and tokens, in order.  A node joins
a snapshot at the step in which `Node.takePart` is called for it: of its own accord
(`Step.join`), or because the first marker reaches it (`Network.arrival`).

Steps are finer than calls: every parcel that a tick delivers has a step of its own, and
so has every node that a snapshot starts at.
-/

/-- What happens to nodes and tokens in the course of a run. -/
inductive Happening where
  /-- A node was added with the tokens that it starts with. -/
  | opened (name : String) (tokens : UInt64)
  /-- The source of a link sent tokens. -/
  | sent (link : Link) (amount : UInt64)
  /-- Tokens were delivered to the target of a link. -/
  | delivered (link : Link) (amount : UInt64)
  /-- A snapshot was opened at a node. -/
  | announced (name : String) (snapshot : SnapshotId)
  /-- A node took part in a snapshot. -/
  | joined (name : String) (snapshot : SnapshotId)
  /-- A report was handed in from outside. -/
  | notified (report : Report)
deriving DecidableEq, Repr

namespace Network

/-- Whether a node keeps a recording of a snapshot. -/
def isRecording (net : Network) (snapshot : SnapshotId) (name : String) : Bool :=
  match net.nodes.get? name with
  | some node => node.recordings.contains snapshot
  | none => false

/-- What happens when a parcel is delivered.  Tokens count at once.  A marker makes its
receiver take part if it does not come too late and no other came before. -/
def arrival (net : Network) (parcel : Parcel) : List Happening :=
  match parcel.message with
  | .token amount => [.delivered parcel.link amount]
  | .marker snapshot =>
      if net.isStale snapshot parcel.target || net.isRecording snapshot parcel.target then []
      else [.joined parcel.target snapshot]

/-- Opens a new snapshot at a node that exists.  No node takes part yet. -/
def announce (name : String) : NetworkAction SnapshotId := do
  freeze
  requireNode name
  let snapshot ← allocate
  openCollector snapshot
  record fun tick => .snapshotStarted tick name snapshot
  return snapshot

/-- A step of a network and what happens in it. -/
inductive Step : Network → List Happening → Network → Prop where
  /-- No node and no link can be added any more. -/
  | freeze {net : Network} : Step net [] { net with started := true }
  /-- The clock moves. -/
  | advance {net after : Network} (hAdvance : Network.advance net = .done () after) :
      Step net [] after
  /-- A delay is drawn. -/
  | draw {net after : Network} {due : UInt64} (hDraw : receiveTime net = .done due after) :
      Step net [] after
  /-- A node is added. -/
  | addNode {net after : Network} {node : InitialNode} (hAdd : net.withNode node = .ok after) :
      Step net [.opened node.name node.tokens] after
  /-- A link is added. -/
  | addLink {net after : Network} {link : Link} (hAdd : net.withLink link = .ok after) :
      Step net [] after
  /-- Tokens leave a node. -/
  | send {net after : Network} {source target : String} {amount : UInt64}
      (hSend : sendTokens source target amount net = .done () after) :
      Step net [.sent ⟨source, target⟩ amount] after
  /-- A snapshot is opened. -/
  | announce {net after : Network} {name : String} {snapshot : SnapshotId}
      (hOpen : Network.announce name net = .done snapshot after) :
      Step net [.announced name snapshot] after
  /-- A node that has not reported takes part of its own accord. -/
  | join {net after : Network} {name : String} {snapshot : SnapshotId} {collector : Collector}
      (hFound : net.collectors.get? snapshot = some collector)
      (hAwaited : collector.hasReported name = false)
      (hStart : startAt snapshot [name] net = .done () after) :
      Step net [.joined name snapshot] after
  /-- A parcel that is due leaves its channel and is delivered. -/
  | deliver {net between after : Network} {source : String} {parcel : Parcel}
      {completed : List SnapshotId} (hTake : takeDue source net = .done (some parcel) between)
      (hDeliver : Network.deliver parcel between = .done completed after) :
      Step net (between.arrival parcel) after
  /-- A report is handed in from outside. -/
  | notify {net after : Network} {report : Report} {complete : Bool}
      (hNotify : Network.notify report net = .done complete after) :
      Step net [.notified report] after
  /-- A complete snapshot is taken away. -/
  | retire {net : Network} {snapshot : SnapshotId} {collector : Collector}
      (hFound : net.collectors.get? snapshot = some collector)
      (hComplete : collector.isComplete = true) :
      Step net [] (net.retire snapshot collector)
  /-- Snapshots are given up. -/
  | abandon {net : Network} (snapshots : List SnapshotId) :
      Step net [] (Network.abandon snapshots net)

/-- A chain of steps, with everything that happens in it. -/
inductive Run (net : Network) : List Happening → Network → Prop where
  /-- Nothing has happened. -/
  | start : Run net [] net
  /-- One more step. -/
  | step {trace happenings : List Happening} {between after : Network}
      (hRun : Run net trace between) (hStep : Step between happenings after) :
      Run net (trace ++ happenings) after

theorem Step.run {net after : Network} {happenings : List Happening}
    (hStep : Step net happenings after) : Run net happenings after :=
  Run.step Run.start hStep

theorem Run.trans {net between after : Network} {earlier later : List Happening}
    (hEarlier : Run net earlier between) (hLater : Run between later after) :
    Run net (earlier ++ later) after := by
  induction hLater with
  | start => rwa [List.append_nil]
  | step _ hStep ih =>
      rw [← List.append_assoc]
      exact Run.step ih hStep

end Network

/-- Whether a happening needs no call of its own: no node is added, no snapshot opened and no
report handed in from outside. -/
def Happening.isInner : Happening → Bool
  | .sent _ _ => true
  | .delivered _ _ => true
  | .joined _ _ => true
  | .opened _ _ => false
  | .announced _ _ => false
  | .notified _ => false

/-- Only what needs no call of its own happens. -/
def Inner (trace : List Happening) : Prop := ∀ happening ∈ trace, happening.isInner = true

/-- No report was handed in from outside. -/
def Honest (trace : List Happening) : Prop := ∀ report, .notified report ∉ trace

theorem inner_nil : Inner [] := fun _ hNone => absurd hNone List.not_mem_nil

theorem inner_singleton {happening : Happening} (hInner : happening.isInner = true) :
    Inner [happening] := fun _ hMember => List.mem_singleton.mp hMember ▸ hInner

theorem inner_append {earlier later : List Happening} :
    Inner (earlier ++ later) ↔ Inner earlier ∧ Inner later :=
  List.forall_mem_append

theorem Inner.honest {trace : List Happening} (hInner : Inner trace) : Honest trace :=
  fun _ hReport => Bool.false_ne_true (hInner _ hReport)

theorem honest_append {earlier later : List Happening} :
    Honest (earlier ++ later) ↔ Honest earlier ∧ Honest later := by
  unfold Honest
  simp only [List.mem_append, not_or, forall_and]

/-- What a delivery makes happen needs no call of its own. -/
theorem Network.inner_arrival (net : Network) (parcel : Parcel) : Inner (net.arrival parcel) := by
  unfold arrival
  split
  · exact inner_singleton rfl
  · split
    · exact inner_nil
    · exact inner_singleton rfl

end TokenNet
