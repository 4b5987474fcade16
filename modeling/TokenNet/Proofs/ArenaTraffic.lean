import TokenNet.Proofs.ArenaTopology

namespace TokenNet

/-!
# Traffic in an arena and in its network

What a call does by handles and numbers, the network that the arena represents does by names
(`Action.Simulates`, `Arena.RepresentsOn`).  No handle and no number of a consistent arena lies
outside its array, so that nothing is cut short for that.  The index stays as it is, which is why
handles that have been looked up stay good.
-/

/-! ### Nodes keep their place -/

namespace Node

variable {node after : Node}

theorem Placed.refl (node : Node) : node.Placed node := ⟨rfl, rfl, rfl⟩

theorem placed_takePart (node : Node) (snapshot : SnapshotId) (trigger : Option String) :
    node.Placed (node.takePart snapshot trigger).2 := by
  unfold takePart
  dsimp only
  split <;> exact ⟨rfl, rfl, rfl⟩

theorem placed_of_send {amount : UInt64} {target : String} {message : Message}
    (hDone : send amount target node = .done message after) : node.Placed after := by
  unfold send at hDone
  split_ifs at hDone
  cases hDone
  exact ⟨rfl, rfl, rfl⟩

theorem placed_of_startSnapshot {snapshot : SnapshotId} {effects : List Effect}
    (hDone : startSnapshot snapshot node = .done effects after) : node.Placed after := by
  unfold startSnapshot at hDone
  split at hDone
  · cases hDone
  · cases hDone
    exact node.placed_takePart snapshot none

theorem placed_of_receiveTokens {source : String} {amount : UInt64} {effects : List Effect}
    (hDone : receiveTokens source amount node = .done effects after) : node.Placed after := by
  unfold receiveTokens at hDone
  cases hSum : checkedAdd node.tokens amount <;> simp only [hSum] at hDone
  · cases hDone
  · split at hDone <;> cases hDone <;> exact ⟨rfl, rfl, rfl⟩

theorem placed_of_receiveMarker {source : String} {snapshot : SnapshotId} {effects : List Effect}
    (hDone : receiveMarker source snapshot node = .done effects after) : node.Placed after := by
  unfold receiveMarker at hDone
  cases hRecording : node.recordings.get? snapshot <;> simp only [hRecording] at hDone
  · cases hDone
    exact node.placed_takePart snapshot (some source)
  · split_ifs at hDone <;> cases hDone <;> exact ⟨rfl, rfl, rfl⟩

theorem placed_of_receive {source : String} {message : Message} {effects : List Effect}
    (hDone : receive source message node = .done effects after) : node.Placed after := by
  unfold receive at hDone
  split at hDone
  · cases hDone
  · cases message with
    | token amount => exact placed_of_receiveTokens hDone
    | marker snapshot => exact placed_of_receiveMarker hDone

end Node

/-- A parcel that is pushed leaves the ends of a channel as they are. -/
theorem Channel.link_of_push {channel after : Channel} {parcel : Parcel}
    (hPushed : channel.push parcel = .ok after) : after.link = channel.link := by
  unfold push at hPushed
  split_ifs at hPushed
  cases hPushed
  rfl

theorem Channel.link_of_popDue? {channel after : Channel} {parcel : Parcel} {clock : Clock}
    (hPopped : channel.popDue? clock = some (parcel, after)) : after.link = channel.link := by
  unfold popDue? at hPopped
  split at hPopped
  · cases hPopped
  · split_ifs at hPopped
    cases hPopped
    rfl

/-! ### Small actions -/

/-- Nobody can be called who is not there. -/
theorem Network.callNode_of_none {α : Type} {net : Network} {name : String}
    {call : Action Node NodeError α} (hNone : net.nodes.get? name = none) :
    callNode name call net = .refused (.nodeNotFound name) net := by
  unfold callNode
  rw [hNone]

namespace Arena

variable {arena : Arena} {net : Network} {α : Type}

/-- The arena represents the network and has this index. -/
def RepresentsOn (index : SortedMap String Nat) (arena : Arena) (net : Network) : Prop :=
  arena.Represents net ∧ arena.index = index

/-- What keeps to the books is done alike, and whatever else is known of the arena stays true. -/
theorem simulates_onBooks {P : Arena → Prop} {action : NetworkAction α}
    (hKeeps : Network.KeepsToBooks action)
    (hStays : ∀ arena books, P arena → P { arena with books := books }) :
    Action.Simulates (fun arena net => arena.Represents net ∧ P arena) (onBooks action) action := by
  rintro arena net ⟨hRepresents, hP⟩
  have hAction := hKeeps net
  rw [← hRepresents.books_eq] at hAction
  unfold onBooks
  rw [hAction]
  cases action arena.books.network with
  | done value after => exact ⟨rfl, hRepresents.withBooks _, hStays _ _ hP⟩
  | refused error after => exact ⟨rfl, hRepresents.withBooks _, hStays _ _ hP⟩
  | faulted fault => exact rfl

section Index

variable {index : SortedMap String Nat} {name : String} {handle : Nat}

theorem simulates_onIndex {action : NetworkAction α} (hKeeps : Network.KeepsToBooks action) :
    Action.Simulates (RepresentsOn index) (onBooks action) action :=
  simulates_onBooks hKeeps fun _ _ hIndex => hIndex

/-- A node is called alike by its handle and by its name. -/
theorem simulates_callNode {call : Action Node NodeError α} (hHandle : index.get? name = some handle)
    (hPlaced : ∀ {node value after}, call node = .done value after → node.Placed after) :
    Action.Simulates (RepresentsOn index) (callNode handle name call)
      (Network.callNode name call) := by
  rintro arena net ⟨hRepresents, rfl⟩
  obtain ⟨node, hNode, hName⟩ := hRepresents.consistent.indexed.exists_node hHandle
  unfold callNode Network.callNode
  rw [hNode, hRepresents.get?_of_handle hHandle hNode]
  dsimp only
  cases hCall : call node with
  | done value after =>
      subst hName
      exact ⟨rfl, hRepresents.setNode hNode (hPlaced hCall), rfl⟩
  | refused error after => exact ⟨rfl, hRepresents, rfl⟩
  | faulted fault => exact rfl

/-! ### Sending -/

/-- A parcel is pushed alike by number and by link. -/
theorem simulates_push {source target : String} {number : Nat} (parcel : Parcel) :
    Action.Simulates
      (fun arena net => arena.Represents net ∧ arena.index = index ∧
        arena.outboundNumber? source target = some number)
      (push number parcel) (Network.push ⟨source, target⟩ parcel) := by
  rintro arena net ⟨hRepresents, hIndex, hNumber⟩
  obtain ⟨channel, hChannel, hLink⟩ := hRepresents.consistent.exists_channel hNumber
  have hFound : net.channels.get? ⟨source, target⟩ = some channel :=
    (hRepresents.channel?_eq _).trans (channel?_eq_some_iff.mpr ⟨number, hNumber, hChannel⟩)
  unfold push Network.push
  rw [hChannel, hFound]
  dsimp only
  cases hPushed : channel.push parcel with
  | error fault => exact rfl
  | ok after =>
      have hAfter := hRepresents.setChannel hChannel (Channel.link_of_push hPushed)
      rw [hLink] at hAfter
      exact ⟨rfl, hAfter, hIndex, hNumber⟩

/-- A message is sent alike by the node of a handle and by the node of its name. -/
theorem simulates_enqueue (hHandle : index.get? name = some handle) (target : String)
    (message : Message) :
    Action.Simulates (RepresentsOn index) (enqueue handle target message)
      (Network.enqueue name target message) := by
  rintro arena net ⟨hRepresents, rfl⟩
  obtain ⟨node, hNode, rfl⟩ := hRepresents.consistent.indexed.exists_node hHandle
  have hNumber := outboundNumber?_eq_of_getElem? hRepresents.consistent.indexed hNode target
  have hLink : net.channels.get? ⟨node.name, target⟩ = arena.channel? node.name target :=
    hRepresents.channel?_eq ⟨node.name, target⟩
  unfold enqueue Network.enqueue
  rw [Action.bind_of_done (nodeAt_of_some hNode)]
  cases hFound : node.outbound.get? target with
  | none =>
      have hMissing : ¬ net.channels.contains ⟨node.name, target⟩ = true := by
        unfold ChannelTable.contains
        rw [hLink, hRepresents.consistent.channel?_eq_none_iff.mpr (hNumber.trans hFound)]
        exact Bool.false_ne_true
      have hRefused : Network.requireLink ⟨node.name, target⟩ net = _ := if_neg hMissing
      rw [Action.bind_of_refused hRefused]
      exact ⟨rfl, hRepresents, rfl⟩
  | some number =>
      rw [hFound] at hNumber
      obtain ⟨channel, hChannel, -⟩ := hRepresents.consistent.exists_channel hNumber
      have hKnown : net.channels.contains ⟨node.name, target⟩ = true := by
        unfold ChannelTable.contains
        rw [hLink, channel?_eq_some_iff.mpr ⟨number, hNumber, hChannel⟩]
        rfl
      have hDone : Network.requireLink ⟨node.name, target⟩ net = _ := if_pos hKnown
      rw [Action.bind_of_done hDone]
      -- Drawing and writing leave the number at its channel.
      have hStays : ∀ after books,
          (fun after : Arena => after.index = arena.index ∧
            after.outboundNumber? node.name target = some number) after →
          (fun after : Arena => after.index = arena.index ∧
            after.outboundNumber? node.name target = some number)
            { after with books := books } := fun _ _ hAfter => hAfter
      have hRest := (simulates_onBooks Network.keepsToBooks_receiveTime hStays).bind fun due =>
        (simulates_onBooks (Network.keepsToBooks_record fun tick =>
          .sent tick ⟨node.name, target, message, due⟩) hStays).bind fun _ =>
            simulates_push ⟨node.name, target, message, due⟩
      exact (hRest ⟨hRepresents, rfl, hNumber⟩).mono (fun _ _ _ hAfter => ⟨hAfter.1, hAfter.2.1⟩)
        fun _ _ _ hAfter => ⟨hAfter.1, hAfter.2.1⟩

/-- What a node asks for is carried out alike. -/
theorem simulates_applyEffects (hHandle : index.get? name = some handle) (effects : List Effect) :
    Action.Simulates (RepresentsOn index) (applyEffects handle effects)
      (Network.applyEffects name effects) := by
  induction effects with
  | nil => exact Action.simulates_pure []
  | cons effect rest ih =>
      cases effect with
      | send target message =>
          exact (simulates_enqueue hHandle target message).bind fun _ => ih
      | completed report =>
          refine (simulates_onIndex (Network.keepsToBooks_notify report)).bind fun complete => ?_
          exact ih.bind fun later => Action.simulates_pure _

end Index

theorem simulates_freeze {index : SortedMap String Nat} :
    Action.Simulates (RepresentsOn index) (onBooks Network.freeze) Network.freeze :=
  simulates_onIndex Network.keepsToBooks_freeze

theorem simulates_sendTokens {index : SortedMap String Nat} (source target : String)
    (tokens : UInt64) :
    Action.Simulates (RepresentsOn index) (sendTokens source target tokens)
      (Network.sendTokens source target tokens) := by
  refine simulates_freeze.bind fun _ => ?_
  rintro arena net ⟨hRepresents, rfl⟩
  cases hHandle : arena.index.get? source with
  | none =>
      rw [Action.bind_of_refused (requireHandle_of_none hHandle),
        Action.bind_of_refused (Network.callNode_of_none (hRepresents.get?_of_none hHandle))]
      exact ⟨rfl, hRepresents, rfl⟩
  | some handle =>
      rw [Action.bind_of_done (requireHandle_of_some hHandle)]
      exact ((simulates_callNode hHandle Node.placed_of_send).bind fun message =>
        simulates_enqueue hHandle target message) ⟨hRepresents, rfl⟩

/-! ### Reachability -/

/-- A receiver has a handle. -/
theorem Consistent.exists_handle_of_outbound (hConsistent : arena.Consistent) {handle : Nat}
    {node : Node} {target : String} (hNode : arena.nodes[handle]? = some node)
    (hTarget : target ∈ node.outbound.keys) :
    ∃ place, arena.index.get? target = some place := by
  obtain ⟨number, hNumber⟩ := SortedMap.mem_keys_iff.mp hTarget
  rw [← outboundNumber?_eq_of_getElem? hConsistent.indexed hNode] at hNumber
  obtain ⟨receiver, hReceiver, -⟩ :=
    inboundNumber?_eq_some_iff.mp ((hConsistent.inbound_iff _ _ _).mpr hNumber)
  obtain ⟨place, hPlace, -⟩ := node?_eq_some_iff.mp hReceiver
  exact ⟨place, hPlace⟩

/-- Handles stand for names, one by one. -/
def HandlesOf (index : SortedMap String Nat) : List Nat → List String → Prop :=
  List.Forall₂ fun handle name => index.get? name = some handle

theorem handlesOf_filterMap {index : SortedMap String Nat} {names : List String}
    (hKnown : ∀ name ∈ names, ∃ handle, index.get? name = some handle) :
    HandlesOf index (names.filterMap index.get?) names := by
  induction names with
  | nil => exact List.Forall₂.nil
  | cons name rest ih =>
      obtain ⟨handle, hHandle⟩ := hKnown name List.mem_cons_self
      rw [List.filterMap_cons_some hHandle]
      exact List.Forall₂.cons hHandle
        (ih fun other hOther => hKnown other (List.mem_cons_of_mem _ hOther))

/-- The search goes the same way by handles and by names. -/
theorem Represents.explore_eq (hRepresents : arena.Represents net) (steps : Nat)
    (seen : SortedSet String) {handles : List Nat} {names : List String}
    (hWaiting : HandlesOf arena.index handles names) :
    explore steps seen handles arena = .done (net.explore steps seen names) arena := by
  induction steps generalizing seen handles names with
  | zero => rfl
  | succ steps ih =>
      cases hWaiting with
      | nil => rfl
      | @cons handle name handles names hHandle hRest =>
          obtain ⟨node, hNode, hName⟩ := hRepresents.consistent.indexed.exists_node hHandle
          have hSuccessors : net.successors name = node.outbound.keys := by
            unfold Network.successors
            rw [hRepresents.get?_of_handle hHandle hNode]
          have hKnown : ∀ target ∈ node.outbound.keys.filter fun target => !seen.contains target,
              ∃ place, arena.index.get? target = some place := fun target hTarget =>
            hRepresents.consistent.exists_handle_of_outbound hNode (List.mem_of_mem_filter hTarget)
          unfold explore Network.explore
          rw [Action.bind_of_done (nodeAt_of_some hNode), hSuccessors]
          exact ih _ (List.rel_append hRest (handlesOf_filterMap hKnown))

/-- The same nodes cannot be reached, by handles and by names. -/
theorem Represents.unreachableFrom_eq (hRepresents : arena.Represents net) {name : String}
    {handle : Nat} (hHandle : arena.index.get? name = some handle) :
    ∃ others, unreachableFrom handle arena = .done others arena ∧
      HandlesOf arena.index others (net.unreachableFrom name) := by
  obtain ⟨node, hNode, hName⟩ := hRepresents.consistent.indexed.exists_node hHandle
  have hSize : arena.index.size = net.nodes.size := by
    have hLength := congrArg List.length hRepresents.keys_eq
    unfold SortedMap.keys at hLength
    rw [List.length_map, List.length_map] at hLength
    exact hLength.symm
  have hReached : reachableFrom handle arena = .done (net.reachableFrom name) arena := by
    unfold reachableFrom Network.reachableFrom
    rw [Action.bind_of_done (nodeAt_of_some hNode), hName, ← hSize]
    exact hRepresents.explore_eq _ _ (List.Forall₂.cons hHandle List.Forall₂.nil)
  have hOthers := SortedMap.forall₂_values_keys
    (arena.index.filter fun other _ => !(net.reachableFrom name).contains other)
  rw [SortedMap.keys_filter, ← hRepresents.keys_eq] at hOthers
  refine ⟨_, Action.bind_of_done hReached, hOthers.imp fun place other hPlace => ?_⟩
  rw [SortedMap.get?_filter, Option.filter_eq_some_iff] at hPlace
  exact hPlace.1

/-! ### Starting snapshots -/

section Start

variable {index : SortedMap String Nat}

theorem simulates_startAt (snapshot : SnapshotId) {handles : List Nat} {names : List String}
    (hNames : HandlesOf index handles names) :
    Action.Simulates (RepresentsOn index) (startAt snapshot handles)
      (Network.startAt snapshot names) := by
  induction hNames with
  | nil => exact Action.simulates_pure ()
  | @cons handle name handles names hHandle hRest ih =>
      rintro arena net ⟨hRepresents, rfl⟩
      obtain ⟨node, hNode, rfl⟩ := hRepresents.consistent.indexed.exists_node hHandle
      unfold startAt Network.startAt
      rw [Action.bind_of_done (nodeAt_of_some hNode)]
      exact ((simulates_callNode hHandle Node.placed_of_startSnapshot).bind fun effects =>
        (simulates_applyEffects hHandle effects).bind fun _ => ih) ⟨hRepresents, rfl⟩

/-- A collector that is opened awaits the same nodes. -/
theorem simulates_openCollector (snapshot : SnapshotId) :
    Action.Simulates (RepresentsOn index) (openCollector snapshot)
      (Network.openCollector snapshot) := by
  rintro arena net ⟨hRepresents, hIndex⟩
  have hNames : SortedSet.ofKeys arena.index = SortedSet.ofKeys net.nodes :=
    SortedSet.ofKeys_eq_of_keys_eq hRepresents.keys_eq.symm
  refine ⟨rfl, ?_, hIndex⟩
  have hAfter := hRepresents.withBooks { arena.books with
    collectors := arena.books.collectors.insert snapshot
      (Collector.create snapshot (SortedSet.ofKeys arena.index)) }
  rw [hNames, hRepresents.books_eq] at hAfter
  show Arena.Represents { arena with books := { arena.books with
    collectors := arena.books.collectors.insert snapshot
      (Collector.create snapshot (SortedSet.ofKeys arena.index)) } } _
  rw [hNames, hRepresents.books_eq]
  exact hAfter

theorem simulates_startSnapshot (name : String) :
    Action.Simulates (RepresentsOn index) (startSnapshot name) (Network.startSnapshot name) := by
  refine simulates_freeze.bind fun _ => ?_
  rintro arena net ⟨hRepresents, rfl⟩
  cases hHandle : arena.index.get? name with
  | none =>
      have hUnknown : ¬ net.nodes.contains name = true := by
        rw [SortedMap.contains_iff, ← SortedMap.get?_eq_none_iff]
        exact hRepresents.get?_of_none hHandle
      have hRefused : Network.requireNode name net = _ := if_neg hUnknown
      rw [Action.bind_of_refused (requireHandle_of_none hHandle), Action.bind_of_refused hRefused]
      exact ⟨rfl, hRepresents, rfl⟩
  | some initiator =>
      have hKnown : net.nodes.contains name = true := by
        rw [hRepresents.contains_eq, SortedMap.contains_iff]
        exact SortedMap.mem_keys_of_get? hHandle
      have hDone : Network.requireNode name net = _ := if_pos hKnown
      rw [Action.bind_of_done (requireHandle_of_some hHandle), Action.bind_of_done hDone]
      refine ((simulates_onIndex Network.keepsToBooks_allocate).bind fun snapshot => ?_)
        ⟨hRepresents, rfl⟩
      refine (simulates_openCollector snapshot).bind fun _ => ?_
      refine (simulates_onIndex (Network.keepsToBooks_record _)).bind fun _ => ?_
      rintro before last ⟨hBefore, hIndex⟩
      rw [← hIndex] at hHandle
      obtain ⟨others, hOthers, hNames⟩ := hBefore.unreachableFrom_eq hHandle
      rw [Action.bind_of_done hOthers, Action.bind_of_done (show Action.read _ last = _ from rfl)]
      rw [hIndex] at hHandle hNames
      exact ((simulates_startAt snapshot (List.Forall₂.cons hHandle hNames)).bind fun _ =>
        Action.simulates_pure snapshot) ⟨hBefore, hIndex⟩

theorem simulates_control (event : ControlEvent) :
    Action.Simulates (RepresentsOn index) (control event) (Network.control event) := by
  cases event with
  | passToken source target tokens =>
      exact (simulates_sendTokens source target tokens).bind fun _ => Action.simulates_pure none
  | snapshot name =>
      exact (simulates_startSnapshot name).bind fun snapshot => Action.simulates_pure _

end Start

end Arena

end TokenNet
