import TokenNet.Proofs.Agreement
import TokenNet.Proofs.Represented

namespace TokenNet

/-!
# Adding to an arena

A node that is added gets the next handle, and a link the next number; what the arena represents
then is the network with the same node or link added (`Arena.Represents.withNode`,
`Arena.Represents.connect`).  So nodes and links are accepted and refused alike by an arena and by
the network that it represents, and so are configurations (`Arena.agrees_ofConfig`).
-/

namespace Arena

variable {arena : Arena} {net : Network}

/-! ### Nodes -/

section WithNode

variable {node : InitialNode}

theorem node?_withNode (hIndexed : arena.Indexed) (asked : String) :
    (arena.withNode node).node? asked =
      if node.name = asked then some (Node.create node.name node.tokens)
      else arena.node? asked := by
  unfold node?
  show ((arena.index.insert node.name arena.nodes.size).get? asked).bind
    (fun handle => (arena.nodes.push (Node.create node.name node.tokens))[handle]?) = _
  rw [SortedMap.get?_insert]
  by_cases hName : node.name = asked
  · rw [if_pos hName, if_pos hName, Option.bind_some, Array.getElem?_push, if_pos rfl]
  · rw [if_neg hName, if_neg hName]
    refine Option.bind_congr fun handle hHandle => ?_
    obtain ⟨found, hFound, -⟩ := hIndexed.exists_node hHandle
    obtain ⟨hBound, -⟩ := Array.getElem?_eq_some_iff.mp hFound
    rw [Array.getElem?_push, if_neg (Nat.ne_of_lt hBound)]

variable (hNew : arena.index.get? node.name = none)
include hNew

theorem Indexed.withNode (hIndexed : arena.Indexed) : (arena.withNode node).Indexed := by
  intro name handle
  show (arena.index.insert node.name arena.nodes.size).get? name = some handle ↔
    ∃ found, (arena.nodes.push (Node.create node.name node.tokens))[handle]? = some found ∧
      found.name = name
  rw [SortedMap.get?_insert_eq_some_iff, Array.getElem?_push]
  have hOld : ∀ {known place}, arena.index.get? known = some place →
      place < arena.nodes.size ∧ node.name ≠ known := by
    intro known place hPlace
    obtain ⟨found, hFound, -⟩ := hIndexed.exists_node hPlace
    obtain ⟨hBound, -⟩ := Array.getElem?_eq_some_iff.mp hFound
    refine ⟨hBound, fun hSame => ?_⟩
    rw [← hSame, hNew] at hPlace
    cases hPlace
  by_cases hLast : handle = arena.nodes.size
  · subst hLast
    rw [if_pos rfl]
    constructor
    · rintro (⟨rfl, -⟩ | ⟨-, hPlace⟩)
      · exact ⟨_, rfl, rfl⟩
      · exact absurd (hOld hPlace).1 (Nat.lt_irrefl _)
    · rintro ⟨_, ⟨⟩, rfl⟩
      exact Or.inl ⟨rfl, rfl⟩
  · rw [if_neg hLast, ← hIndexed name handle]
    constructor
    · rintro (⟨-, rfl⟩ | ⟨-, hPlace⟩)
      · exact absurd rfl hLast
      · exact hPlace
    · exact fun hPlace => Or.inr ⟨(hOld hPlace).2, hPlace⟩

/-- A new node has no neighbours, and the others keep theirs. -/
theorem outboundNumber?_withNode (hIndexed : arena.Indexed) (source target : String) :
    (arena.withNode node).outboundNumber? source target = arena.outboundNumber? source target := by
  unfold outboundNumber?
  rw [node?_withNode hIndexed]
  split
  · next hName =>
    rw [← hName, hIndexed.node?_eq_none_iff.mpr hNew]
    exact SortedMap.get?_empty target
  · rfl

theorem inboundNumber?_withNode (hIndexed : arena.Indexed) (source target : String) :
    (arena.withNode node).inboundNumber? source target = arena.inboundNumber? source target := by
  unfold inboundNumber?
  rw [node?_withNode hIndexed]
  split
  · next hName =>
    rw [← hName, hIndexed.node?_eq_none_iff.mpr hNew]
    exact SortedMap.get?_empty source
  · rfl

theorem Consistent.withNode (hConsistent : arena.Consistent) :
    (arena.withNode node).Consistent := by
  refine consistent_of (hConsistent.indexed.withNode hNew) (fun source target number => ?_)
    fun source target number => ?_
  · rw [outboundNumber?_withNode hNew hConsistent.indexed]
    exact hConsistent.outbound_iff source target number
  · rw [outboundNumber?_withNode hNew hConsistent.indexed,
      inboundNumber?_withNode hNew hConsistent.indexed]
    exact hConsistent.inbound_iff source target number

theorem Represents.withNode (hRepresents : arena.Represents net) :
    (arena.withNode node).Represents
      { net with
        nodes := net.nodes.insert node.name (Node.create node.name node.tokens) } where
  consistent := hRepresents.consistent.withNode hNew
  books_eq := hRepresents.books_eq
  node?_eq asked := by
    rw [node?_withNode hRepresents.consistent.indexed, SortedMap.get?_insert,
      hRepresents.node?_eq]
  channel?_eq link := by
    unfold channel?
    rw [outboundNumber?_withNode hNew hRepresents.consistent.indexed]
    exact hRepresents.channel?_eq link
  links_eq := hRepresents.links_eq

end WithNode

/-! ### Links -/

section Connect

variable {link : Link} {source target : Nat} {sender receiver : Node}
  (hSource : arena.nodes[source]? = some sender) (hTarget : arena.nodes[target]? = some receiver)
  (hSender : sender.name = link.source) (hReceiver : receiver.name = link.target)
  (hDistinct : link.source ≠ link.target)

/-- The nodes know the new number at both ends. -/
theorem connect_eq : arena.connect link (source, sender) (target, receiver) =
    (Arena.setNode { arena with channels := arena.channels.push (Channel.ofLink link) } source
      (sender.addOutbound link.target arena.channels.size)).setNode target
        (receiver.addInbound link.source arena.channels.size) := rfl

include hSource hTarget hSender hReceiver hDistinct

/-- The other end stands where it stood when the number has been written down at the one. -/
theorem getElem?_setNode_other (node : Node) :
    (arena.setNode source node).nodes[target]? = some receiver := by
  rw [getElem?_setNode hSource, if_neg]
  · exact hTarget
  · rintro rfl
    cases hSource.symm.trans hTarget
    exact hDistinct (hSender.symm.trans hReceiver)

theorem Indexed.connect (hIndexed : arena.Indexed) :
    (arena.connect link (source, sender) (target, receiver)).Indexed := by
  have hPushed : Arena.Indexed
      { arena with channels := arena.channels.push (Channel.ofLink link) } := hIndexed
  have hStart := @Indexed.setNode _ _ _ (sender.addOutbound link.target arena.channels.size)
    hPushed hSource rfl
  rw [connect_eq]
  exact hStart.setNode
    (getElem?_setNode_other hSource hTarget hSender hReceiver hDistinct _) rfl

theorem node?_connect (hIndexed : arena.Indexed) (asked : String) :
    (arena.connect link (source, sender) (target, receiver)).node? asked =
      if link.target = asked then some (receiver.addInbound link.source arena.channels.size)
      else if link.source = asked then some (sender.addOutbound link.target arena.channels.size)
      else arena.node? asked := by
  have hPushed : Arena.Indexed
      { arena with channels := arena.channels.push (Channel.ofLink link) } := hIndexed
  have hStart := @Indexed.setNode _ _ _ (sender.addOutbound link.target arena.channels.size)
    hPushed hSource rfl
  rw [connect_eq, node?_setNode hStart
    (getElem?_setNode_other hSource hTarget hSender hReceiver hDistinct _), hReceiver,
    node?_setNode hPushed hSource, hSender]
  rfl

/-- Its sender knows the new channel by its number, and nobody knows another one than before. -/
theorem outboundNumber?_connect (hIndexed : arena.Indexed) (asked other : String) :
    (arena.connect link (source, sender) (target, receiver)).outboundNumber? asked other =
      if link = ⟨asked, other⟩ then some arena.channels.size
      else arena.outboundNumber? asked other := by
  obtain ⟨start, finish⟩ := link
  have hStart := outboundNumber?_eq_of_getElem? hIndexed hSource other
  have hFinish := outboundNumber?_eq_of_getElem? hIndexed hTarget other
  unfold outboundNumber? at hStart hFinish ⊢
  rw [node?_connect hSource hTarget hSender hReceiver hDistinct hIndexed]
  simp only [Link.mk.injEq] at hSender hReceiver hDistinct ⊢
  by_cases hFirst : start = asked
  · subst hFirst
    rw [if_neg (Ne.symm hDistinct), if_pos rfl, Option.bind_some, ← hSender, hStart,
      Node.addOutbound, SortedMap.get?_insert]
    simp
  · by_cases hLast : finish = asked
    · subst hLast
      rw [if_pos rfl, if_neg fun hBoth => hFirst hBoth.1, ← hReceiver, hFinish]
      rfl
    · rw [if_neg hLast, if_neg hFirst, if_neg fun hBoth => hFirst hBoth.1]

theorem inboundNumber?_connect (hIndexed : arena.Indexed) (asked other : String) :
    (arena.connect link (source, sender) (target, receiver)).inboundNumber? asked other =
      if link = ⟨asked, other⟩ then some arena.channels.size
      else arena.inboundNumber? asked other := by
  obtain ⟨start, finish⟩ := link
  have hStart := inboundNumber?_eq_of_getElem? hIndexed hSource asked
  have hFinish := inboundNumber?_eq_of_getElem? hIndexed hTarget asked
  unfold inboundNumber? at hStart hFinish ⊢
  rw [node?_connect hSource hTarget hSender hReceiver hDistinct hIndexed]
  simp only [Link.mk.injEq] at hSender hReceiver hDistinct ⊢
  by_cases hLast : finish = other
  · subst hLast
    rw [if_pos rfl, Option.bind_some, ← hReceiver, hFinish, Node.addInbound,
      SortedMap.get?_insert]
    simp
  · by_cases hFirst : start = other
    · subst hFirst
      rw [if_neg hLast, if_pos rfl, if_neg fun hBoth => hLast hBoth.2, ← hSender, hStart]
      rfl
    · rw [if_neg hLast, if_neg hFirst, if_neg fun hBoth => hLast hBoth.2]

/-- A link that is new leaves the arena consistent. -/
theorem Consistent.connect (hConsistent : arena.Consistent)
    (hNew : sender.outbound.get? link.target = none) :
    (arena.connect link (source, sender) (target, receiver)).Consistent := by
  have hIndexed := hConsistent.indexed
  have hUnknown : arena.outboundNumber? link.source link.target = none := by
    rw [← hSender, outboundNumber?_eq_of_getElem? hIndexed hSource, hNew]
  refine consistent_of
    (hIndexed.connect hSource hTarget hSender hReceiver hDistinct) (fun asked other number => ?_)
    fun asked other number => ?_
  · rw [outboundNumber?_connect hSource hTarget hSender hReceiver hDistinct hIndexed]
    show _ ↔ ∃ channel, (arena.channels.push (Channel.ofLink link))[number]? = some channel ∧ _
    rw [Array.getElem?_push]
    have hBefore := hConsistent.outbound_iff asked other number
    by_cases hLast : number = arena.channels.size
    · -- Nobody knew this number before.
      subst hLast
      have hNobody : arena.outboundNumber? asked other ≠ some arena.channels.size := fun hKnown => by
        obtain ⟨channel, hChannel, -⟩ := hBefore.mp hKnown
        exact Nat.lt_irrefl _ (Array.getElem?_eq_some_iff.mp hChannel).1
      rw [if_pos rfl]
      by_cases hLink : link = ⟨asked, other⟩
      · rw [if_pos hLink]
        subst hLink
        exact iff_of_true rfl ⟨_, rfl, rfl, rfl⟩
      · rw [if_neg hLink]
        refine iff_of_false hNobody ?_
        rintro ⟨_, ⟨⟩, rfl, rfl⟩
        exact hLink rfl
    · rw [if_neg hLast, ← hBefore]
      by_cases hLink : link = ⟨asked, other⟩
      · subst hLink
        rw [if_pos rfl, hUnknown]
        exact iff_of_false (fun hSame => hLast (Option.some.inj hSame).symm)
          (Option.some_ne_none _ ·.symm)
      · rw [if_neg hLink]
  · rw [outboundNumber?_connect hSource hTarget hSender hReceiver hDistinct hIndexed,
      inboundNumber?_connect hSource hTarget hSender hReceiver hDistinct hIndexed]
    split
    · exact Iff.rfl
    · exact hConsistent.inbound_iff asked other number

/-- A link is added on both sides. -/
theorem Represents.connect (hRepresents : arena.Represents net)
    (hNew : sender.outbound.get? link.target = none) :
    (arena.connect link (source, sender) (target, receiver)).Represents
      (net.connect link sender receiver) where
  consistent := hRepresents.consistent.connect hSource hTarget hSender hReceiver hDistinct hNew
  books_eq := hRepresents.books_eq
  node?_eq asked := by
    have hSize : net.links.size = arena.channels.size := by
      rw [hRepresents.links_eq, Array.size_map]
    rw [node?_connect hSource hTarget hSender hReceiver hDistinct hRepresents.consistent.indexed]
    show ((net.nodes.insert link.source (sender.addOutbound link.target net.links.size)).insert
      link.target (receiver.addInbound link.source net.links.size)).get? asked = _
    rw [SortedMap.get?_insert, SortedMap.get?_insert, hSize, hRepresents.node?_eq]
  channel?_eq asked := by
    show (net.channels.insert link (Channel.ofLink link)).get? asked =
      (Arena.outboundNumber? _ asked.source asked.target).bind fun number =>
        (arena.channels.push (Channel.ofLink link))[number]?
    rw [outboundNumber?_connect hSource hTarget hSender hReceiver hDistinct
      hRepresents.consistent.indexed, ChannelTable.get?_insert]
    by_cases hLink : link = asked
    · subst hLink
      rw [if_pos rfl, if_pos rfl, Option.bind_some, Array.getElem?_push, if_pos rfl]
    · rw [if_neg hLink, if_neg hLink, hRepresents.channel?_eq]
      refine Option.bind_congr fun number hNumber => ?_
      obtain ⟨channel, hChannel, -⟩ := hRepresents.consistent.exists_channel hNumber
      obtain ⟨hBound, -⟩ := Array.getElem?_eq_some_iff.mp hChannel
      rw [Array.getElem?_push, if_neg (Nat.ne_of_lt hBound)]
  links_eq := by
    show net.links.push link = (arena.channels.push (Channel.ofLink link)).map Channel.link
    rw [Array.map_push, ← hRepresents.links_eq]
    rfl

end Connect

/-! ### Adding -/

theorem requireOpen_of_started (hStarted : arena.books.started = true) :
    requireOpen arena = .refused .topologyFrozen arena := by
  unfold requireOpen
  rw [if_pos hStarted]

theorem requireOpen_of_open (hOpen : arena.books.started = false) :
    requireOpen arena = .done () arena := by
  unfold requireOpen
  rw [hOpen, if_neg Bool.false_ne_true]

theorem requireHandle_of_none {name : String} (hNone : arena.index.get? name = none) :
    requireHandle name arena = .refused (.nodeNotFound name) arena := by
  unfold requireHandle
  rw [hNone]

theorem requireHandle_of_some {name : String} {handle : Nat}
    (hSome : arena.index.get? name = some handle) : requireHandle name arena = .done handle arena := by
  unfold requireHandle
  rw [hSome]

theorem nodeAt_of_some {handle : Nat} {node : Node} (hNode : arena.nodes[handle]? = some node) :
    nodeAt handle arena = .done node arena := by
  unfold nodeAt
  rw [hNode]

theorem Represents.started_eq (hRepresents : arena.Represents net) :
    arena.books.started = net.started :=
  congrArg Books.started hRepresents.books_eq

theorem addNode_eq (name : String) (tokens : UInt64) (arena : Arena) :
    addNode name tokens arena =
      if arena.books.started then .refused .topologyFrozen arena
      else if !Network.isNodeName name then .refused (.invalidName name) arena
      else if arena.index.contains name then .refused (.duplicateNode name) arena
      else .done () (arena.withNode ⟨name, tokens⟩) := by
  unfold addNode
  cases hStarted : arena.books.started with
  | true => exact Action.bind_of_refused (requireOpen_of_started hStarted)
  | false =>
      rw [Action.bind_of_done (requireOpen_of_open hStarted)]
      cases Network.isNodeName name with
      | false => rfl
      | true =>
          refine (Action.bind_of_done rfl).trans ?_
          dsimp only
          by_cases hTaken : arena.index.contains name = true
          · rw [if_pos hTaken, if_pos hTaken]
            rfl
          · rw [if_neg hTaken, if_neg hTaken]
            rfl

/-- An action ends on an arena like a change that may be refused, and leaves what represents the
changed network. -/
def Follows (action : ArenaAction Unit) (arena : Arena) : Except NetworkError Network → Prop
  | .ok net => ∃ after, action arena = .done () after ∧ after.Represents net
  | .error error => action arena = .refused error arena

/-- A node is added and refused alike. -/
theorem Represents.addNode (hRepresents : arena.Represents net) (node : InitialNode) :
    Follows (addNode node.name node.tokens) arena (net.withNode node) := by
  have hKnown := hRepresents.contains_eq node.name
  have hAdd := addNode_eq node.name node.tokens arena
  rw [hRepresents.started_eq, ← hKnown] at hAdd
  unfold Network.withNode
  split_ifs at hAdd ⊢ with hStarted hName hTaken
  · exact hAdd
  · exact hAdd
  · exact hAdd
  · refine ⟨_, hAdd, hRepresents.withNode ?_⟩
    rw [SortedMap.get?_eq_none_iff, ← SortedMap.contains_iff, ← hKnown]
    exact hTaken

theorem addLink_eq {link : Link} {start finish : Nat} {sender receiver : Node}
    (hOpen : arena.books.started = false) (hSource : arena.index.get? link.source = some start)
    (hTarget : arena.index.get? link.target = some finish)
    (hSender : arena.nodes[start]? = some sender)
    (hReceiver : arena.nodes[finish]? = some receiver) :
    addLink link.source link.target arena =
      if start = finish then .refused (.selfLink link.source) arena
      else if sender.outbound.contains link.target then
        .refused (.duplicateLink link.source link.target) arena
      else .done () (arena.connect link (start, sender) (finish, receiver)) := by
  unfold addLink
  rw [Action.bind_of_done (requireOpen_of_open hOpen),
    Action.bind_of_done (requireHandle_of_some hSource),
    Action.bind_of_done (requireHandle_of_some hTarget)]
  by_cases hSame : start = finish
  · rw [if_pos hSame, if_pos hSame]
    rfl
  · rw [if_neg hSame, if_neg hSame, Action.bind_of_done (nodeAt_of_some hSender)]
    cases sender.outbound.contains link.target with
    | true => rfl
    | false => exact Action.bind_of_done (nodeAt_of_some hReceiver)

/-- A link is added and refused alike. -/
theorem Represents.addLink (hRepresents : arena.Represents net) (link : Link) :
    Follows (addLink link.source link.target) arena (net.withLink link) := by
  have hIndexed := hRepresents.consistent.indexed
  unfold Network.withLink
  by_cases hStarted : net.started = true
  · rw [if_pos hStarted]
    exact Action.bind_of_refused
      (requireOpen_of_started (hRepresents.started_eq.trans hStarted))
  rw [if_neg hStarted]
  have hOpen : arena.books.started = false :=
    hRepresents.started_eq.trans (Bool.eq_false_iff.mpr hStarted)
  cases hSource : arena.index.get? link.source with
  | none =>
      rw [hRepresents.get?_of_none hSource]
      exact (Action.bind_of_done (requireOpen_of_open hOpen)).trans
        (Action.bind_of_refused (requireHandle_of_none hSource))
  | some start =>
  obtain ⟨sender, hSender, hSenderName⟩ := hIndexed.exists_node hSource
  rw [hRepresents.get?_of_handle hSource hSender]
  cases hTarget : arena.index.get? link.target with
  | none =>
      rw [hRepresents.get?_of_none hTarget]
      unfold Follows Arena.addLink
      rw [Action.bind_of_done (requireOpen_of_open hOpen),
        Action.bind_of_done (requireHandle_of_some hSource),
        Action.bind_of_refused (requireHandle_of_none hTarget)]
  | some finish =>
  obtain ⟨receiver, hReceiver, hReceiverName⟩ := hIndexed.exists_node hTarget
  rw [hRepresents.get?_of_handle hTarget hReceiver]
  -- Two names have one handle exactly if they are the same.
  have hHandles : start = finish ↔ link.source = link.target := by
    constructor
    · rintro rfl
      cases hSender.symm.trans hReceiver
      exact hSenderName.symm.trans hReceiverName
    · intro hSame
      rw [hSame, hTarget] at hSource
      exact (Option.some.inj hSource).symm
  have hAdd := addLink_eq hOpen hSource hTarget hSender hReceiver
  simp only [hHandles] at hAdd
  dsimp only
  split_ifs at hAdd ⊢ with hSame hKnown
  · exact hAdd
  · exact hAdd
  · refine ⟨_, hAdd, hRepresents.connect hSender hReceiver hSenderName hReceiverName hSame ?_⟩
    rw [SortedMap.get?_eq_none_iff, ← SortedMap.contains_iff]
    exact hKnown

/-! ### Configurations -/

theorem represents_empty (seed maxDelay : UInt64) :
    (empty seed maxDelay).Represents (Network.empty seed maxDelay) where
  consistent := by
    refine consistent_of (fun name handle => ?_) (fun source target number => ?_) fun _ _ _ => ?_
    · exact iff_of_false (by simp [empty]) (by simp [empty])
    · exact iff_of_false (by simp [outboundNumber?, node?, empty]) (by simp [empty])
    · exact iff_of_false (by simp [inboundNumber?, node?, empty])
        (by simp [outboundNumber?, node?, empty])
  books_eq := rfl
  node?_eq _ := rfl
  channel?_eq _ := rfl
  links_eq := Array.map_empty.symm

/-- What is built step by step on an arena, and by changes that may be refused on a network. -/
def Built (outcome : Outcome Arena NetworkError Unit) : Except NetworkError Network → Prop
  | .ok net => ∃ arena, outcome = .done () arena ∧ arena.Represents net
  | .error error => ∃ arena, outcome = .refused error arena

/-- Items are added one after another alike if each of them is. -/
theorem built_foldlM {ι : Type} {items : List ι} {add : ι → ArenaAction Unit}
    {addAll : List ι → ArenaAction Unit} {change : Network → ι → Except NetworkError Network}
    (hNil : addAll [] = pure ())
    (hCons : ∀ item rest, addAll (item :: rest) = (do add item; addAll rest))
    (hAdd : ∀ {arena : Arena} {net : Network}, arena.Represents net → ∀ item,
      Follows (add item) arena (change net item))
    (hRepresents : arena.Represents net) : Built (addAll items arena) (items.foldlM change net) := by
  induction items generalizing arena net with
  | nil => exact ⟨arena, congrFun hNil arena, hRepresents⟩
  | cons item rest ih =>
      have hFirst := hAdd hRepresents item
      rw [hCons, List.foldlM_cons]
      cases hChange : change net item with
      | error error =>
          rw [hChange] at hFirst
          exact ⟨arena, Action.bind_of_refused hFirst⟩
      | ok between =>
          rw [hChange] at hFirst
          obtain ⟨middle, hDone, hBetween⟩ := hFirst
          rw [Action.bind_of_done hDone]
          exact ih hBetween

/-- An arena is built of a configuration exactly if a network is, and represents it; otherwise both
are refused for the same reason. -/
theorem built_ofConfig (config : Config) : Built (ofConfig config) (Network.ofConfig config) := by
  have hNodes : Built (addNodes config.nodes (empty config.seed config.maxDelay))
      (config.nodes.foldlM Network.withNode (Network.empty config.seed config.maxDelay)) :=
    built_foldlM rfl (fun _ _ => rfl) (fun hRepresents node => hRepresents.addNode node)
      (represents_empty config.seed config.maxDelay)
  unfold ofConfig Network.ofConfig
  cases hBetween : config.nodes.foldlM Network.withNode
      (Network.empty config.seed config.maxDelay) with
  | error error =>
      rw [hBetween] at hNodes
      obtain ⟨left, hRefused⟩ := hNodes
      exact ⟨left, Action.bind_of_refused hRefused⟩
  | ok between =>
      rw [hBetween] at hNodes
      obtain ⟨middle, hDone, hRepresents⟩ := hNodes
      rw [Action.bind_of_done hDone]
      exact built_foldlM rfl (fun _ _ => rfl) (fun hRepresents link => hRepresents.addLink link)
        hRepresents

end Arena

end TokenNet
