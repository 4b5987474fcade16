import TokenNet.Network.Basic
import TokenNet.Text.Blank

namespace TokenNet
namespace Network

/-!
# Building a network

Nodes and links are added one by one until something is first asked of the
network.  A name has at least one character and none that is white space; no two
nodes share a name, no link leads from a node to itself and none is added twice.
-/

/-- Whether a text can name a node. -/
def isNodeName (name : String) : Bool :=
  !name.toList.isEmpty && name.toList.all fun c => !Text.isBlank c

/-- The network with one more node. -/
def withNode (net : Network) (node : InitialNode) : Except NetworkError Network :=
  if net.started then .error .topologyFrozen
  else if !isNodeName node.name then .error (.invalidName node.name)
  else if net.nodes.contains node.name then .error (.duplicateNode node.name)
  else .ok { net with nodes := net.nodes.insert node.name (Node.create node.name node.tokens) }

/-- The network with one more link, whose channel gets the next number. -/
def connect (net : Network) (link : Link) (source target : Node) : Network :=
  let number := net.links.size
  { net with
    links := net.links.push link
    channels := net.channels.insert link (Channel.ofLink link)
    nodes := (net.nodes.insert link.source (source.addOutbound link.target number)).insert
      link.target (target.addInbound link.source number) }

/-- The network with one more link between nodes that it has. -/
def withLink (net : Network) (link : Link) : Except NetworkError Network :=
  if net.started then .error .topologyFrozen
  else
    match net.nodes.get? link.source with
    | none => .error (.nodeNotFound link.source)
    | some source =>
        match net.nodes.get? link.target with
        | none => .error (.nodeNotFound link.target)
        | some target =>
            -- Both ends are known here, so a link of a node to itself has its own cause.
            if link.source = link.target then .error (.selfLink link.source)
            else if source.outbound.contains link.target then
              .error (.duplicateLink link.source link.target)
            else .ok (net.connect link source target)

/-- The network of a configuration: its nodes are added first, then its links,
and the first that is refused decides. -/
def ofConfig (config : Config) : Except NetworkError Network := do
  let net ← config.nodes.foldlM withNode (empty config.seed config.maxDelay)
  config.links.foldlM withLink net

/-- The network without nodes and with the usual bound on delays. -/
def ofSeed (seed : UInt64) : Network := empty seed usualMaxDelay

/-- Carries out a change that may be refused; then nothing changes. -/
def attempt (change : Network → Except NetworkError Network) : NetworkAction Unit := fun net =>
  match change net with
  | .ok after => .done () after
  | .error error => .refused error net

/-- Adds a node. -/
def addNode (name : String) (tokens : UInt64) : NetworkAction Unit :=
  attempt fun net => net.withNode ⟨name, tokens⟩

/-- Adds a link. -/
def addLink (source target : String) : NetworkAction Unit :=
  attempt fun net => net.withLink ⟨source, target⟩

/-! ### Reachability -/

/-- The nodes that have been seen or can be reached from a waiting node, found in at
most the given number of steps.  Every step takes the node that has waited longest and
lets the receivers of its links wait that have not been seen. -/
def explore (net : Network) : Nat → SortedSet String → List String → SortedSet String
  | 0, seen, _ => seen
  | _ + 1, seen, [] => seen
  | steps + 1, seen, name :: waiting =>
      let fresh := (net.successors name).filter fun target => !seen.contains target
      net.explore steps (fresh.foldl SortedSet.add seen) (waiting ++ fresh)

/-- The nodes that can be reached along links, the first node included.  No node
waits twice, so there are at most as many steps as nodes. -/
def reachableFrom (net : Network) (start : String) : SortedSet String :=
  net.explore net.nodes.size (SortedSet.add SortedMap.empty start) [start]

/-- The nodes that cannot be reached, in the order of their names. -/
def unreachableFrom (net : Network) (start : String) : List String :=
  let reached := net.reachableFrom start
  net.nodeNames.filter fun name => !reached.contains name

end Network
end TokenNet
