import TokenNet.Arena.Basic

namespace TokenNet
namespace Arena

/-!
# Building an arena

A new node gets the next handle and a new link the next number, which is written down at both of its
ends.  What is reachable is found by handles: a node is left as soon as it has been seen under its
name.
-/

/-- Is refused once anything has been asked. -/
def requireOpen : ArenaAction Unit := fun arena =>
  if arena.books.started then .refused .topologyFrozen arena else .done () arena

/-- The arena with one more node, which gets the next handle. -/
def withNode (arena : Arena) (node : InitialNode) : Arena :=
  { arena with
    index := arena.index.insert node.name arena.nodes.size
    nodes := arena.nodes.push (Node.create node.name node.tokens) }

/-- Adds a node. -/
def addNode (name : String) (tokens : UInt64) : ArenaAction Unit := do
  requireOpen
  if Network.isNodeName name then
    let taken ← Action.read fun arena => arena.index.contains name
    if taken then Action.refuse (.duplicateNode name)
    else Action.update fun arena => arena.withNode ⟨name, tokens⟩
  else Action.refuse (.invalidName name)

/-- The arena with one more link between two nodes, given by their handles.  Its channel gets the
next number. -/
def connect (arena : Arena) (link : Link) (source target : Nat × Node) : Arena :=
  let number := arena.channels.size
  { arena with
    channels := arena.channels.push (Channel.ofLink link)
    nodes := (arena.nodes.setIfInBounds source.1
      (source.2.addOutbound link.target number)).setIfInBounds target.1
        (target.2.addInbound link.source number) }

/-- Adds a link between nodes that there are. -/
def addLink (source target : String) : ArenaAction Unit := do
  requireOpen
  let start ← requireHandle source
  let finish ← requireHandle target
  -- Two names with one handle are one name.
  if start = finish then Action.refuse (.selfLink source)
  else
    let sender ← nodeAt start
    if sender.outbound.contains target then Action.refuse (.duplicateLink source target)
    else
      let receiver ← nodeAt finish
      Action.update fun arena =>
        arena.connect ⟨source, target⟩ (start, sender) (finish, receiver)

/-- Adds nodes one after another. -/
def addNodes : List InitialNode → ArenaAction Unit
  | [] => return ()
  | node :: rest => do
      addNode node.name node.tokens
      addNodes rest

/-- Adds links one after another. -/
def addLinks : List Link → ArenaAction Unit
  | [] => return ()
  | link :: rest => do
      addLink link.source link.target
      addLinks rest

/-- Builds the arena of a configuration: its nodes are added first, then its links, and the first
that is refused decides. -/
def ofConfig (config : Config) : Outcome Arena NetworkError Unit :=
  (do addNodes config.nodes; addLinks config.links) (empty config.seed config.maxDelay)

/-! ### Reachability -/

/-- The nodes that have been seen or can be reached from a waiting handle, found in at most the
given number of steps. -/
def explore : Nat → SortedSet String → List Nat → ArenaAction (SortedSet String)
  | 0, seen, _ => return seen
  | _ + 1, seen, [] => return seen
  | steps + 1, seen, handle :: waiting => do
      let node ← nodeAt handle
      let index ← Action.read index
      let fresh := node.outbound.keys.filter fun target => !seen.contains target
      explore steps (fresh.foldl SortedSet.add seen) (waiting ++ fresh.filterMap index.get?)

/-- The names of the nodes that can be reached along links, the first node included. -/
def reachableFrom (start : Nat) : ArenaAction (SortedSet String) := do
  let node ← nodeAt start
  let steps ← Action.read fun arena => arena.index.size
  explore steps (SortedSet.add SortedMap.empty node.name) [start]

/-- The handles of the nodes that cannot be reached, in the order of their names. -/
def unreachableFrom (start : Nat) : ArenaAction (List Nat) := do
  let reached ← reachableFrom start
  Action.read fun arena => (arena.index.filter fun name _ => !reached.contains name).values

end Arena
end TokenNet
