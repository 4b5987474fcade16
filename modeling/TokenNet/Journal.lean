import TokenNet.Channel

namespace TokenNet

/-!
# The journal

Whatever happens in a network is written into its journal together with the tick
in which it happened, in the order in which it happened.
-/

/-- Something that happened in a network. -/
inductive Event where
  /-- A parcel was put on its channel. -/
  | sent (tick : UInt64) (parcel : Parcel)
  /-- A message was delivered. -/
  | received (tick : UInt64) (source target : String) (message : Message)
  /-- A snapshot was started at a node. -/
  | snapshotStarted (tick : UInt64) (node : String) (snapshot : SnapshotId)
  /-- The part of one node in a snapshot was handed in. -/
  | snapshotEnded (tick : UInt64) (node : String) (snapshot : SnapshotId)
  /-- A marker was delivered for which the receiver had no use. -/
  | markerRejected (tick : UInt64) (source target : String) (snapshot : SnapshotId)
deriving DecidableEq, Repr

namespace Event

/-- The tick in which the event happened. -/
def tick : Event → UInt64
  | sent tick _ => tick
  | received tick _ _ _ => tick
  | snapshotStarted tick _ _ => tick
  | snapshotEnded tick _ _ => tick
  | markerRejected tick _ _ _ => tick

/-- The name of the kind of event. -/
def kind : Event → String
  | sent _ _ => "MessageSent"
  | received _ _ _ _ => "MessageReceived"
  | snapshotStarted _ _ _ => "SnapshotStarted"
  | snapshotEnded _ _ _ => "SnapshotEnded"
  | markerRejected _ _ _ _ => "MarkerRejected"

/-- The node to which the event happened: the sender of what was sent, the
receiver of what was delivered. -/
def node : Event → String
  | sent _ parcel => parcel.source
  | received _ _ target _ => target
  | snapshotStarted _ node _ => node
  | snapshotEnded _ node _ => node
  | markerRejected _ _ target _ => target

/-- The snapshot that the event belongs to. -/
def snapshot? : Event → Option SnapshotId
  | sent _ parcel => parcel.message.snapshot?
  | received _ _ _ message => message.snapshot?
  | snapshotStarted _ _ snapshot => some snapshot
  | snapshotEnded _ _ snapshot => some snapshot
  | markerRejected _ _ _ snapshot => some snapshot

end Event

/-- The events of a network in the order in which they happened. -/
structure Journal where
  /-- The events, the earliest first. -/
  events : Array Event
deriving DecidableEq, Repr

namespace Journal

/-- The journal in which nothing has been written yet. -/
def empty : Journal := ⟨#[]⟩

/-- Writes an event behind all others. -/
def write (journal : Journal) (event : Event) : Journal := ⟨journal.events.push event⟩

/-- The number of events. -/
def size (journal : Journal) : Nat := journal.events.size

/-- Whether there is no event. -/
def isEmpty (journal : Journal) : Bool := journal.events.isEmpty

/-- All events, the earliest first. -/
def toList (journal : Journal) : List Event := journal.events.toList

/-- The events that were written after the first `count` of them. -/
def since (journal : Journal) (count : Nat) : List Event :=
  (journal.events.extract count journal.events.size).toList

/-- The events of one tick. -/
def atTick (journal : Journal) (tick : UInt64) : List Event :=
  journal.toList.filter fun event => event.tick = tick

/-- The events of one kind. -/
def ofKind (journal : Journal) (kind : String) : List Event :=
  journal.toList.filter fun event => event.kind = kind

/-- The events that happened to one node. -/
def ofNode (journal : Journal) (node : String) : List Event :=
  journal.toList.filter fun event => event.node = node

/-- The messages delivered to one node, each with its sender. -/
def receivedBy (journal : Journal) (node : String) : List (String × Message) :=
  journal.toList.filterMap fun event =>
    match event with
    | .received _ source target message =>
        if target = node then some (source, message) else none
    | _ => none

end Journal

end TokenNet
