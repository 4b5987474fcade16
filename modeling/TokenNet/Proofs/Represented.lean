import TokenNet.Proofs.Books
import TokenNet.Proofs.Maps

namespace TokenNet

/-!
# Networks in arrays

In an arena the index, the nodes and the channels tell one graph in several ways: by name, by handle
and by number, and each number at both ends of a channel.  `Arena.Consistent` says that they tell the
same.  A consistent arena represents a network (`Arena.Represents`) if both answer alike whenever
they are asked for a node or for a channel by name, the network lists its links by the numbers of
their channels, and both keep the same books.  This file shows what the changes that calls are made
of come to on both sides.
-/

/-- The node keeps its name and its channels. -/
structure Node.Placed (node changed : Node) : Prop where
  /-- The name is the same. -/
  name_eq : changed.name = node.name
  /-- The same channels lead away, under the same numbers. -/
  outbound_eq : changed.outbound = node.outbound
  /-- The same channels lead here, under the same numbers. -/
  inbound_eq : changed.inbound = node.inbound

namespace Arena

variable {arena : Arena} {net : Network} {name source target : String} {handle number : Nat}
  {node changed : Node} {channel after : Channel}

/-! ### Consistency -/

/-- The index leads from a name to the one place of a node with this name. -/
def Indexed (arena : Arena) : Prop :=
  ∀ name handle, arena.index.get? name = some handle ↔
    ∃ node, arena.nodes[handle]? = some node ∧ node.name = name

/-- Names, handles and numbers tell one graph. -/
structure Consistent (arena : Arena) : Prop where
  /-- The index leads from a name to the one place of a node with this name. -/
  index_iff : ∀ name handle, arena.index.get? name = some handle ↔
    ∃ node, arena.nodes[handle]? = some node ∧ node.name = name
  /-- A sender knows a channel to a receiver by a number exactly if the channel of this number leads
  from the one to the other. -/
  outbound_iff : ∀ source target number, arena.outboundNumber? source target = some number ↔
    ∃ channel, arena.channels[number]? = some channel ∧ channel.source = source ∧
      channel.target = target
  /-- A receiver knows the channel from a sender by the number by which the sender knows it. -/
  inbound_iff : ∀ source target number, arena.inboundNumber? source target = some number ↔
    arena.outboundNumber? source target = some number
  /-- Every number belongs to one link. -/
  link_of_number : ∀ number < arena.channels.size,
    ∃! link : Link, arena.outboundNumber? link.source link.target = some number

/-- Numbers belong to one link each because a channel has one sender and one receiver. -/
theorem consistent_of (hIndexed : arena.Indexed)
    (hOutbound : ∀ source target number, arena.outboundNumber? source target = some number ↔
      ∃ channel, arena.channels[number]? = some channel ∧ channel.source = source ∧
        channel.target = target)
    (hInbound : ∀ source target number, arena.inboundNumber? source target = some number ↔
      arena.outboundNumber? source target = some number) : arena.Consistent := by
  refine ⟨hIndexed, hOutbound, hInbound, fun number hNumber => ?_⟩
  have hChannel := Array.getElem?_eq_getElem hNumber
  refine ⟨arena.channels[number].link, (hOutbound _ _ _).mpr ⟨_, hChannel, rfl, rfl⟩, ?_⟩
  intro link hLink
  obtain ⟨channel, hFound, hSource, hTarget⟩ := (hOutbound _ _ _).mp hLink
  cases hChannel.symm.trans hFound
  exact (show link = ⟨link.source, link.target⟩ from rfl).trans (by rw [← hSource, ← hTarget]; rfl)

theorem node?_eq_some_iff : arena.node? name = some node ↔
    ∃ handle, arena.index.get? name = some handle ∧ arena.nodes[handle]? = some node :=
  Option.bind_eq_some_iff

theorem inboundNumber?_eq_some_iff : arena.inboundNumber? source target = some number ↔
    ∃ node, arena.node? target = some node ∧ node.inbound.get? source = some number :=
  Option.bind_eq_some_iff

theorem channel?_eq_some_iff : arena.channel? source target = some channel ↔
    ∃ number, arena.outboundNumber? source target = some number ∧
      arena.channels[number]? = some channel :=
  Option.bind_eq_some_iff

namespace Indexed

variable (hIndexed : arena.Indexed)
include hIndexed

/-- Behind the handle of a name stands a node of this name. -/
theorem exists_node (hHandle : arena.index.get? name = some handle) :
    ∃ node, arena.nodes[handle]? = some node ∧ node.name = name :=
  (hIndexed name handle).mp hHandle

theorem name_eq (hHandle : arena.index.get? name = some handle)
    (hNode : arena.nodes[handle]? = some node) : node.name = name := by
  obtain ⟨found, hFound, hName⟩ := hIndexed.exists_node hHandle
  cases hFound.symm.trans hNode
  exact hName

/-- A node can be found under its name. -/
theorem index_eq (hNode : arena.nodes[handle]? = some node) :
    arena.index.get? node.name = some handle :=
  (hIndexed _ _).mpr ⟨node, hNode, rfl⟩

theorem node?_eq (hNode : arena.nodes[handle]? = some node) :
    arena.node? node.name = some node :=
  node?_eq_some_iff.mpr ⟨handle, hIndexed.index_eq hNode, hNode⟩

theorem name_of_node? (hNode : arena.node? name = some node) : node.name = name := by
  obtain ⟨handle, hHandle, hFound⟩ := node?_eq_some_iff.mp hNode
  exact hIndexed.name_eq hHandle hFound

/-- A name has a handle exactly if it has a node. -/
theorem node?_eq_none_iff : arena.node? name = none ↔ arena.index.get? name = none := by
  constructor
  · intro hNone
    cases hHandle : arena.index.get? name with
    | none => rfl
    | some handle =>
        obtain ⟨node, hNode, -⟩ := hIndexed.exists_node hHandle
        rw [node?_eq_some_iff.mpr ⟨handle, hHandle, hNode⟩] at hNone
        cases hNone
  · intro hNone
    unfold node?
    rw [hNone]
    rfl

end Indexed

namespace Consistent

variable (hConsistent : arena.Consistent)
include hConsistent

theorem indexed : arena.Indexed := hConsistent.index_iff

/-- The channel of a number leads from its sender to its receiver, who both know it by the number. -/
theorem outboundNumber?_eq (hChannel : arena.channels[number]? = some channel) :
    arena.outboundNumber? channel.source channel.target = some number :=
  (hConsistent.outbound_iff _ _ _).mpr ⟨channel, hChannel, rfl, rfl⟩

theorem channel?_eq (hChannel : arena.channels[number]? = some channel) :
    arena.channel? channel.source channel.target = some channel :=
  channel?_eq_some_iff.mpr ⟨number, hConsistent.outboundNumber?_eq hChannel, hChannel⟩

theorem link_eq (hNumber : arena.outboundNumber? source target = some number)
    (hChannel : arena.channels[number]? = some channel) : channel.link = ⟨source, target⟩ := by
  obtain ⟨found, hFound, rfl, rfl⟩ := (hConsistent.outbound_iff _ _ _).mp hNumber
  cases hFound.symm.trans hChannel
  rfl

/-- A node that knows a number has a channel of this number. -/
theorem exists_channel (hNumber : arena.outboundNumber? source target = some number) :
    ∃ channel, arena.channels[number]? = some channel ∧ channel.link = ⟨source, target⟩ := by
  obtain ⟨channel, hChannel, rfl, rfl⟩ := (hConsistent.outbound_iff _ _ _).mp hNumber
  exact ⟨channel, hChannel, rfl⟩

theorem channel?_eq_none_iff :
    arena.channel? source target = none ↔ arena.outboundNumber? source target = none := by
  constructor
  · intro hNone
    cases hNumber : arena.outboundNumber? source target with
    | none => rfl
    | some number =>
        obtain ⟨channel, hChannel, -⟩ := hConsistent.exists_channel hNumber
        rw [channel?_eq_some_iff.mpr ⟨number, hNumber, hChannel⟩] at hNone
        cases hNone
  · intro hNone
    unfold channel?
    rw [hNone]
    rfl

/-- Consistency does not concern the books. -/
theorem withBooks (books : Books) : Arena.Consistent { arena with books := books } :=
  ⟨hConsistent.index_iff, hConsistent.outbound_iff, hConsistent.inbound_iff,
    hConsistent.link_of_number⟩

end Consistent

/-! ### Representation -/

/-- A consistent arena and a network that answer alike when they are asked by name. -/
structure Represents (arena : Arena) (net : Network) : Prop where
  /-- The arena is consistent. -/
  consistent : arena.Consistent
  /-- Both keep the same books. -/
  books_eq : arena.books = net.books
  /-- Under a name both find the same node. -/
  node?_eq : ∀ name, net.nodes.get? name = arena.node? name
  /-- On a link both find the same channel. -/
  channel?_eq : ∀ link, net.channels.get? link = arena.channel? link.source link.target
  /-- The links are listed by the numbers of their channels. -/
  links_eq : net.links = arena.channels.map Channel.link

namespace Represents

theorem withBooks (hRepresents : arena.Represents net) (books : Books) :
    Arena.Represents { arena with books := books } (net.withBooks books) where
  consistent := hRepresents.consistent.withBooks books
  books_eq := rfl
  node?_eq := hRepresents.node?_eq
  channel?_eq := hRepresents.channel?_eq
  links_eq := hRepresents.links_eq

/-- The index and the network know the same names. -/
theorem keys_eq (hRepresents : arena.Represents net) : net.nodes.keys = arena.index.keys := by
  apply SortedMap.keys_eq_of_mem_iff
  intro name
  rw [← not_iff_not, ← SortedMap.get?_eq_none_iff, ← SortedMap.get?_eq_none_iff,
    hRepresents.node?_eq, hRepresents.consistent.indexed.node?_eq_none_iff]

theorem contains_eq (hRepresents : arena.Represents net) (name : String) :
    net.nodes.contains name = arena.index.contains name := by
  rw [Bool.eq_iff_iff, SortedMap.contains_iff, SortedMap.contains_iff, hRepresents.keys_eq]

theorem get?_of_handle (hRepresents : arena.Represents net)
    (hHandle : arena.index.get? name = some handle) (hNode : arena.nodes[handle]? = some node) :
    net.nodes.get? name = some node :=
  (hRepresents.node?_eq name).trans (node?_eq_some_iff.mpr ⟨handle, hHandle, hNode⟩)

/-- Who has no handle has no node. -/
theorem get?_of_none (hRepresents : arena.Represents net)
    (hNone : arena.index.get? name = none) : net.nodes.get? name = none :=
  (hRepresents.node?_eq name).trans (hRepresents.consistent.indexed.node?_eq_none_iff.mpr hNone)

end Represents

/-! ### Another node under a handle -/

section SetNode

variable (hIndexed : arena.Indexed) (hNode : arena.nodes[handle]? = some node)
include hNode

theorem getElem?_setNode (other : Nat) :
    (arena.setNode handle changed).nodes[other]? =
      if handle = other then some changed else arena.nodes[other]? := by
  obtain ⟨hBound, -⟩ := Array.getElem?_eq_some_iff.mp hNode
  show (arena.nodes.setIfInBounds handle changed)[other]? = _
  rw [Array.getElem?_setIfInBounds, if_pos hBound]

include hIndexed

/-- The index goes by names only. -/
theorem Indexed.setNode (hName : changed.name = node.name) :
    (arena.setNode handle changed).Indexed := by
  intro name other
  refine (hIndexed name other).trans ?_
  rw [getElem?_setNode hNode]
  by_cases hSame : handle = other
  · subst hSame
    rw [if_pos rfl, hNode]
    simp [hName]
  · rw [if_neg hSame]

theorem node?_setNode (asked : String) :
    (arena.setNode handle changed).node? asked =
      if node.name = asked then some changed else arena.node? asked := by
  refine Option.ext fun found => ?_
  rw [node?_eq_some_iff]
  by_cases hName : node.name = asked
  · subst hName
    rw [if_pos rfl]
    constructor
    · rintro ⟨other, hOther, hFound⟩
      cases (hIndexed.index_eq hNode).symm.trans hOther
      rwa [getElem?_setNode hNode, if_pos rfl] at hFound
    · rintro ⟨⟩
      refine ⟨handle, hIndexed.index_eq hNode, ?_⟩
      rw [getElem?_setNode hNode, if_pos rfl]
  · rw [if_neg hName, node?_eq_some_iff]
    refine exists_congr fun other => and_congr_right fun hOther => ?_
    rw [getElem?_setNode hNode, if_neg]
    rintro rfl
    exact hName (hIndexed.name_eq hOther hNode)

theorem outboundNumber?_setNode (source target : String) :
    (arena.setNode handle changed).outboundNumber? source target =
      if node.name = source then changed.outbound.get? target
      else arena.outboundNumber? source target := by
  unfold outboundNumber?
  rw [node?_setNode hIndexed hNode]
  split <;> rfl

theorem inboundNumber?_setNode (source target : String) :
    (arena.setNode handle changed).inboundNumber? source target =
      if node.name = target then changed.inbound.get? source
      else arena.inboundNumber? source target := by
  unfold inboundNumber?
  rw [node?_setNode hIndexed hNode]
  split <;> rfl

theorem outboundNumber?_eq_of_getElem? (target : String) :
    arena.outboundNumber? node.name target = node.outbound.get? target := by
  unfold outboundNumber?
  rw [hIndexed.node?_eq hNode]
  rfl

theorem inboundNumber?_eq_of_getElem? (source : String) :
    arena.inboundNumber? source node.name = node.inbound.get? source := by
  unfold inboundNumber?
  rw [hIndexed.node?_eq hNode]
  rfl

end SetNode

section Placed

variable (hConsistent : arena.Consistent) (hNode : arena.nodes[handle]? = some node)
  (hPlaced : node.Placed changed)
include hConsistent hNode hPlaced

theorem outboundNumber?_of_placed (source target : String) :
    (arena.setNode handle changed).outboundNumber? source target =
      arena.outboundNumber? source target := by
  rw [outboundNumber?_setNode hConsistent.indexed hNode]
  split
  · next hName =>
    rw [← hName, outboundNumber?_eq_of_getElem? hConsistent.indexed hNode, hPlaced.outbound_eq]
  · rfl

theorem inboundNumber?_of_placed (source target : String) :
    (arena.setNode handle changed).inboundNumber? source target =
      arena.inboundNumber? source target := by
  rw [inboundNumber?_setNode hConsistent.indexed hNode]
  split
  · next hName =>
    rw [← hName, inboundNumber?_eq_of_getElem? hConsistent.indexed hNode, hPlaced.inbound_eq]
  · rfl

/-- A node that changes and keeps its place leaves the arena consistent. -/
theorem Consistent.setNode : (arena.setNode handle changed).Consistent := by
  refine consistent_of (hConsistent.indexed.setNode hNode hPlaced.name_eq)
    (fun source target number => ?_) fun source target number => ?_
  · rw [outboundNumber?_of_placed hConsistent hNode hPlaced]
    exact hConsistent.outbound_iff source target number
  · rw [outboundNumber?_of_placed hConsistent hNode hPlaced,
      inboundNumber?_of_placed hConsistent hNode hPlaced]
    exact hConsistent.inbound_iff source target number

end Placed

/-- The node of a handle and the node of its name change together. -/
theorem Represents.setNode (hRepresents : arena.Represents net)
    (hNode : arena.nodes[handle]? = some node) (hPlaced : node.Placed changed) :
    (arena.setNode handle changed).Represents
      { net with nodes := net.nodes.insert node.name changed } where
  consistent := hRepresents.consistent.setNode hNode hPlaced
  books_eq := hRepresents.books_eq
  node?_eq asked := by
    rw [node?_setNode hRepresents.consistent.indexed hNode, SortedMap.get?_insert,
      hRepresents.node?_eq]
  channel?_eq link := by
    unfold channel?
    rw [outboundNumber?_of_placed hRepresents.consistent hNode hPlaced]
    exact hRepresents.channel?_eq link
  links_eq := hRepresents.links_eq

/-! ### Another channel under a number -/

section SetChannel

variable (hConsistent : arena.Consistent) (hChannel : arena.channels[number]? = some channel)
include hChannel

theorem getElem?_setChannel (other : Nat) :
    (arena.setChannel number after).channels[other]? =
      if number = other then some after else arena.channels[other]? := by
  obtain ⟨hBound, -⟩ := Array.getElem?_eq_some_iff.mp hChannel
  show (arena.channels.setIfInBounds number after)[other]? = _
  rw [Array.getElem?_setIfInBounds, if_pos hBound]

include hConsistent

/-- A channel that changes and keeps its ends leaves the arena consistent. -/
theorem Consistent.setChannel (hLink : after.link = channel.link) :
    (arena.setChannel number after).Consistent := by
  refine consistent_of hConsistent.index_iff (fun source target other => ?_) hConsistent.inbound_iff
  refine (hConsistent.outbound_iff source target other).trans ?_
  rw [getElem?_setChannel hChannel]
  by_cases hSame : number = other
  · subst hSame
    have hSource : after.source = channel.source := congrArg Link.source hLink
    have hTarget : after.target = channel.target := congrArg Link.target hLink
    rw [if_pos rfl, hChannel]
    simp [hSource, hTarget]
  · rw [if_neg hSame]

theorem channel?_setChannel (source target : String) :
    (arena.setChannel number after).channel? source target =
      if channel.link = ⟨source, target⟩ then some after else arena.channel? source target := by
  refine Option.ext fun found => ?_
  rw [channel?_eq_some_iff]
  by_cases hEnds : channel.link = ⟨source, target⟩
  · have hNumber : arena.outboundNumber? source target = some number :=
      (hConsistent.outbound_iff _ _ _).mpr
        ⟨channel, hChannel, congrArg Link.source hEnds, congrArg Link.target hEnds⟩
    rw [if_pos hEnds]
    constructor
    · rintro ⟨other, hOther, hFound⟩
      cases hNumber.symm.trans hOther
      rwa [getElem?_setChannel hChannel, if_pos rfl] at hFound
    · rintro ⟨⟩
      refine ⟨number, hNumber, ?_⟩
      rw [getElem?_setChannel hChannel, if_pos rfl]
  · rw [if_neg hEnds, channel?_eq_some_iff]
    refine exists_congr fun other => and_congr_right fun hOther => ?_
    rw [getElem?_setChannel hChannel, if_neg]
    rintro rfl
    exact hEnds (hConsistent.link_eq hOther hChannel)

end SetChannel

/-- The channel of a number and the channel of its link change together. -/
theorem Represents.setChannel (hRepresents : arena.Represents net)
    (hChannel : arena.channels[number]? = some channel) (hLink : after.link = channel.link) :
    (arena.setChannel number after).Represents
      { net with channels := net.channels.insert channel.link after } where
  consistent := hRepresents.consistent.setChannel hChannel hLink
  books_eq := hRepresents.books_eq
  node?_eq := hRepresents.node?_eq
  channel?_eq link := by
    rw [channel?_setChannel hRepresents.consistent hChannel, ChannelTable.get?_insert,
      hRepresents.channel?_eq]
  links_eq := by
    rw [hRepresents.links_eq]
    refine Array.ext_getElem? fun other => ?_
    rw [Array.getElem?_map, Array.getElem?_map, getElem?_setChannel hChannel]
    by_cases hSame : number = other
    · subst hSame
      rw [if_pos rfl, hChannel, Option.map_some, Option.map_some, hLink]
    · rw [if_neg hSame]

end Arena

end TokenNet
