import TokenNet.ChannelTable
import TokenNet.Collector
import TokenNet.Generator
import TokenNet.Journal

namespace TokenNet

/-!
# Networks

A network consists of nodes, the channels between them, a clock, a generator of
delays, the collectors of its snapshots and a journal.  This file holds the
state, the questions that can be asked of it, and the small actions from which
all others are made.
-/

/-- A node as a configuration lists it. -/
structure InitialNode where
  /-- The name of the node. -/
  name : String
  /-- The tokens that the node starts with. -/
  tokens : UInt64
deriving DecidableEq, Repr

/-- The seed of a configuration that names none. -/
def usualSeed : UInt64 := 0x5EED

/-- The bound on delays of a configuration that names none. -/
def usualMaxDelay : UInt64 := 5

/-- What a network is built from. -/
structure Config where
  /-- The seed of the generator of delays. -/
  seed : UInt64 := usualSeed
  /-- Delays are drawn below this bound; zero stands for no delay. -/
  maxDelay : UInt64 := usualMaxDelay
  /-- The nodes, in the order in which they are added. -/
  nodes : List InitialNode := []
  /-- The links, in the order in which they are added. -/
  links : List Link := []
deriving DecidableEq, Repr

/-- The configuration with another seed and another bound on delays, where they are
given. -/
def Config.override (config : Config) (seed maxDelay : Option UInt64) : Config :=
  { config with seed := seed.getD config.seed, maxDelay := maxDelay.getD config.maxDelay }

/-- The state of a network. -/
structure Network where
  /-- The time. -/
  clock : Clock
  /-- The generator of delays. -/
  generator : Generator
  /-- Delays are drawn below this bound. -/
  maxDelay : UInt64
  /-- The nodes by name. -/
  nodes : SortedMap String Node
  /-- The links in the order in which they were added.  The place of a link is
  the number of its channel. -/
  links : Array Link
  /-- The channels. -/
  channels : ChannelTable
  /-- The number of the next snapshot. -/
  nextSnapshot : SnapshotId
  /-- The collectors of the snapshots that have not been taken away. -/
  collectors : SortedMap SnapshotId Collector
  /-- The collectors of the snapshots that have been taken away, for the handles
  that are still about. -/
  retired : SortedMap SnapshotId Collector
  /-- What has happened. -/
  journal : Journal
  /-- The number of markers for which the receiver had no use. -/
  rejected : Nat
  /-- Whether anything has been asked of the network, so that no node and no link
  can be added any more. -/
  started : Bool
deriving DecidableEq, Repr

/-- A claim on the snapshot of a number, which outlives the collection of the
snapshot. -/
structure Handle where
  /-- The snapshot. -/
  snapshot : SnapshotId
deriving DecidableEq, Repr

namespace Network

/-- The network without nodes. -/
def empty (seed maxDelay : UInt64) : Network where
  clock := Clock.start
  generator := Generator.ofSeed seed
  maxDelay := maxDelay
  nodes := SortedMap.empty
  links := #[]
  channels := ChannelTable.empty
  nextSnapshot := 0
  collectors := SortedMap.empty
  retired := SortedMap.empty
  journal := Journal.empty
  rejected := 0
  started := false

/-! ### Questions -/

/-- The current tick. -/
def tickNow (net : Network) : UInt64 := net.clock.tick

/-- The nodes in the order of their names. -/
def nodeNames (net : Network) : List String := net.nodes.keys

/-- The receivers that a node has a link to, in the order of their names. -/
def successors (net : Network) (name : String) : List String :=
  match net.nodes.get? name with
  | some node => node.outbound.keys
  | none => []

/-- The channel from one node to another. -/
def channel? (net : Network) (source target : String) : Option Channel :=
  net.channels.get? ⟨source, target⟩

/-- The number of messages under way. -/
def pending (net : Network) : Nat :=
  (net.channels.toList.map Channel.size).foldr (· + ·) 0

/-- The tokens that the nodes hold. -/
def heldTokens (net : Network) : Except Fault UInt64 :=
  checkedSum (net.nodes.values.map Node.tokens)

/-- The tokens under way. -/
def movingTokens (net : Network) : Except Fault UInt64 := do
  let amounts ← net.channels.toList.mapM Channel.tokens
  checkedSum amounts

/-- All tokens of the network: those held and those under way. -/
def totalTokens (net : Network) : Except Fault UInt64 := do
  let held ← net.heldTokens
  let moving ← net.movingTokens
  checkedAdd held moving

/-- The number of snapshots that have not been taken away. -/
def retained (net : Network) : Nat := net.collectors.size

/-- The snapshots that some node still has to report on. -/
def outstanding (net : Network) : List SnapshotId :=
  (net.collectors.filter fun _ collector => !collector.isComplete).keys

/-- The balance of every node, in the order of the names. -/
def balances (net : Network) : List (String × UInt64) :=
  net.nodes.toList.map fun entry => (entry.1, entry.2.tokens)

/-- The collector that a handle refers to. -/
def collectorOf? (net : Network) (handle : Handle) : Option Collector :=
  match net.collectors.get? handle.snapshot with
  | some collector => some collector
  | none => net.retired.get? handle.snapshot

/-- The network in one line: its time and the sizes of its parts. -/
def summary (net : Network) : String :=
  "Simulator \x7b current_tick: " ++ Text.decimalWord net.tickNow ++
    ", num_nodes: " ++ Text.decimal net.nodes.size ++
    ", num_channels: " ++ Text.decimal net.links.size ++
    ", pending_messages: " ++ Text.decimal net.pending ++
    ", next_snapshot_id: " ++ Text.decimalWord net.nextSnapshot ++
    ", event_count: " ++ Text.decimal net.journal.size ++ " \x7d"

end Network

/-- A call on a network. -/
abbrev NetworkAction (α : Type) : Type := Action Network NetworkError α

namespace Network

/-! ### Small actions -/

/-- From now on no node and no link can be added. -/
def freeze : NetworkAction Unit :=
  Action.update fun net => { net with started := true }

/-- Writes an event of the current tick into the journal. -/
def record (event : UInt64 → Event) : NetworkAction Unit :=
  Action.update fun net => { net with journal := net.journal.write (event net.tickNow) }

/-- Is refused unless a node of this name exists. -/
def requireNode (name : String) : NetworkAction Unit := fun net =>
  if net.nodes.contains name then .done () net else .refused (.nodeNotFound name) net

/-- Calls a node.  A node that refuses is left as it was. -/
def callNode {α : Type} (name : String) (call : Action Node NodeError α) :
    NetworkAction α := fun net =>
  match net.nodes.get? name with
  | none => .refused (.nodeNotFound name) net
  | some node =>
      match call node with
      | .done value after => .done value { net with nodes := net.nodes.insert name after }
      | .refused error _ => .refused (.node name error) net
      | .faulted fault => .faulted fault

/-- Calls the collector of a snapshot.  A collector that refuses is left as it
was. -/
def callCollector {α : Type} (snapshot : SnapshotId)
    (call : Action Collector NetworkError α) : NetworkAction α := fun net =>
  match net.collectors.get? snapshot with
  | none => .refused (.unknownSnapshot snapshot) net
  | some collector =>
      match call collector with
      | .done value after =>
          .done value { net with collectors := net.collectors.insert snapshot after }
      | .refused error _ => .refused error net
      | .faulted fault => .faulted fault

end Network

end TokenNet
