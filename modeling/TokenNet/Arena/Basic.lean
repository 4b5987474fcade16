import TokenNet.Network.Call

namespace TokenNet

/-!
# Arenas

A network whose nodes and channels stand in two arrays.  A node is reached by its place, the handle,
and an index leads from names to handles; a channel is reached by its place, the number that the
nodes at both of its ends know it by.  Whoever asks for a place that an array does not have is cut
short.

What a network keeps besides its nodes and channels is the same here, and so are the actions that
concern nothing else (`Arena.onBooks`).  Every call is answered as the network of the same
configuration answers it, although that one reaches everything by name.
-/

/-- What a network keeps besides its nodes and channels. -/
structure Books where
  /-- The time. -/
  clock : Clock
  /-- The generator of delays. -/
  generator : Generator
  /-- Delays are drawn below this bound. -/
  maxDelay : UInt64
  /-- The number of the next snapshot. -/
  nextSnapshot : SnapshotId
  /-- The collectors of the snapshots that have not been taken away. -/
  collectors : SortedMap SnapshotId Collector
  /-- The collectors of the snapshots that have been taken away. -/
  retired : SortedMap SnapshotId Collector
  /-- What has happened. -/
  journal : Journal
  /-- The number of markers for which the receiver had no use. -/
  rejected : Nat
  /-- Whether anything has been asked, so that nothing can be added any more. -/
  started : Bool
deriving DecidableEq, Repr

/-- The books of a network. -/
def Network.books (net : Network) : Books where
  clock := net.clock
  generator := net.generator
  maxDelay := net.maxDelay
  nextSnapshot := net.nextSnapshot
  collectors := net.collectors
  retired := net.retired
  journal := net.journal
  rejected := net.rejected
  started := net.started

/-- The network that keeps these books and has no nodes. -/
def Books.network (books : Books) : Network where
  clock := books.clock
  generator := books.generator
  maxDelay := books.maxDelay
  nodes := SortedMap.empty
  links := #[]
  channels := ChannelTable.empty
  nextSnapshot := books.nextSnapshot
  collectors := books.collectors
  retired := books.retired
  journal := books.journal
  rejected := books.rejected
  started := books.started

/-- The state of a network in arrays. -/
structure Arena where
  /-- The nodes; the place of a node is its handle. -/
  nodes : Array Node
  /-- The handles by name. -/
  index : SortedMap String Nat
  /-- The channels; the place of a channel is its number. -/
  channels : Array Channel
  /-- All the rest. -/
  books : Books
deriving DecidableEq, Repr

namespace Arena

/-- The arena without nodes. -/
def empty (seed maxDelay : UInt64) : Arena where
  nodes := #[]
  index := SortedMap.empty
  channels := #[]
  books := (Network.empty seed maxDelay).books

/-! ### Questions -/

/-- The current tick. -/
def tickNow (arena : Arena) : UInt64 := arena.books.clock.tick

/-- The node of a name. -/
def node? (arena : Arena) (name : String) : Option Node :=
  (arena.index.get? name).bind fun handle => arena.nodes[handle]?

/-- The names of the nodes, in order. -/
def nodeNames (arena : Arena) : List String := arena.index.keys

/-- The receivers that a node has a link to, in the order of their names. -/
def successors (arena : Arena) (name : String) : List String :=
  ((arena.node? name).map fun node => node.outbound.keys).getD []

/-- The number of the channel to a receiver, as its sender knows it. -/
def outboundNumber? (arena : Arena) (source target : String) : Option Nat :=
  (arena.node? source).bind fun node => node.outbound.get? target

/-- The number of the channel from a sender, as its receiver knows it. -/
def inboundNumber? (arena : Arena) (source target : String) : Option Nat :=
  (arena.node? target).bind fun node => node.inbound.get? source

/-- The channel from one node to another. -/
def channel? (arena : Arena) (source target : String) : Option Channel :=
  (arena.outboundNumber? source target).bind fun number => arena.channels[number]?

/-- The number of messages under way. -/
def pending (arena : Arena) : Nat :=
  (arena.channels.toList.map Channel.size).foldr (· + ·) 0

/-- The tokens that the nodes hold. -/
def heldTokens (arena : Arena) : Except Fault UInt64 :=
  checkedSum (arena.nodes.toList.map Node.tokens)

/-- The tokens under way. -/
def movingTokens (arena : Arena) : Except Fault UInt64 := do
  let amounts ← arena.channels.toList.mapM Channel.tokens
  checkedSum amounts

/-- All tokens: those held and those under way. -/
def totalTokens (arena : Arena) : Except Fault UInt64 := do
  let held ← arena.heldTokens
  let moving ← arena.movingTokens
  checkedAdd held moving

/-- The balance of every node, in the order of the names. -/
def balances (arena : Arena) : List (String × UInt64) :=
  arena.nodeNames.filterMap fun name => (arena.node? name).map fun node => (name, node.tokens)

/-- The number of snapshots that have not been taken away. -/
def retained (arena : Arena) : Nat := arena.books.network.retained

/-- The snapshots that some node still has to report on. -/
def outstanding (arena : Arena) : List SnapshotId := arena.books.network.outstanding

/-- The collector that a handle on a snapshot refers to. -/
def collectorOf? (arena : Arena) (handle : Handle) : Option Collector :=
  arena.books.network.collectorOf? handle

/-- The arena in one line: its time and the sizes of its parts. -/
def summary (arena : Arena) : String :=
  "Simulator \x7b current_tick: " ++ Text.decimalWord arena.tickNow ++
    ", num_nodes: " ++ Text.decimal arena.nodes.size ++
    ", num_channels: " ++ Text.decimal arena.channels.size ++
    ", pending_messages: " ++ Text.decimal arena.pending ++
    ", next_snapshot_id: " ++ Text.decimalWord arena.books.nextSnapshot ++
    ", event_count: " ++ Text.decimal arena.books.journal.size ++ " \x7d"

end Arena

/-- A call on a network in arrays. -/
abbrev ArenaAction (α : Type) : Type := Action Arena NetworkError α

/-- The same outcome with another state. -/
def Outcome.mapState {σ τ ε α : Type} (f : σ → τ) : Outcome σ ε α → Outcome τ ε α
  | .done value state => .done value (f state)
  | .refused error state => .refused error (f state)
  | .faulted fault => .faulted fault

namespace Arena

/-! ### Small actions -/

/-- Does what concerns the books and neither nodes nor channels. -/
def onBooks {α : Type} (action : NetworkAction α) : ArenaAction α := fun arena =>
  (action arena.books.network).mapState fun after => { arena with books := after.books }

/-- The handle of a node, if there is one of this name. -/
def requireHandle (name : String) : ArenaAction Nat := fun arena =>
  match arena.index.get? name with
  | some handle => .done handle arena
  | none => .refused (.nodeNotFound name) arena

/-- The node of a handle. -/
def nodeAt (handle : Nat) : ArenaAction Node := fun arena =>
  match arena.nodes[handle]? with
  | some node => .done node arena
  | none => .faulted (.outOfRange handle arena.nodes.size)

/-- The arena with another node under a handle. -/
def setNode (arena : Arena) (handle : Nat) (node : Node) : Arena :=
  { arena with nodes := arena.nodes.setIfInBounds handle node }

/-- Calls the node of a handle, whose errors are reported under a name.  A node that refuses is left
as it was. -/
def callNode {α : Type} (handle : Nat) (name : String) (call : Action Node NodeError α) :
    ArenaAction α := fun arena =>
  match arena.nodes[handle]? with
  | none => .faulted (.outOfRange handle arena.nodes.size)
  | some node =>
      match call node with
      | .done value after => .done value (arena.setNode handle after)
      | .refused error _ => .refused (.node name error) arena
      | .faulted fault => .faulted fault

/-- The arena with another channel under a number. -/
def setChannel (arena : Arena) (number : Nat) (channel : Channel) : Arena :=
  { arena with channels := arena.channels.setIfInBounds number channel }

/-- Puts a parcel on the channel of a number. -/
def push (number : Nat) (parcel : Parcel) : ArenaAction Unit := fun arena =>
  match arena.channels[number]? with
  | none => .faulted (.outOfRange number arena.channels.size)
  | some channel =>
      match channel.push parcel with
      | .ok after => .done () (arena.setChannel number after)
      | .error fault => .faulted fault

/-- Takes the oldest parcel off the channel of a number if it is due. -/
def popDue (number : Nat) : ArenaAction (Option Parcel) := fun arena =>
  match arena.channels[number]? with
  | none => .faulted (.outOfRange number arena.channels.size)
  | some channel =>
      match channel.popDue? arena.books.clock with
      | none => .done none arena
      | some (parcel, rest) => .done (some parcel) (arena.setChannel number rest)

end Arena

end TokenNet
