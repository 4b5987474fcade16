import TokenNet.Proofs.ArenaTraffic
import TokenNet.Proofs.TwinCalls

namespace TokenNet

/-!
# Calls on an arena and on its network

Ticks go through handles and numbers where the network goes through names, in the same order.  So
every call is answered alike by an arena and by the network that it represents
(`Arena.simulates_answer`), and so is every history of calls (`Arena.Represents.alike_history`).
-/

namespace Arena

variable {arena : Arena} {net : Network} {α : Type}

/-! ### Delivering -/

section Deliver

variable {index : SortedMap String Nat}

theorem simulates_handTo {handle : Nat} {parcel : Parcel}
    (hHandle : index.get? parcel.target = some handle) :
    Action.Simulates (RepresentsOn index) (handTo handle parcel) (Network.handOver parcel) := by
  have hCall : Action.Simulates (RepresentsOn index)
      (callNode handle parcel.target (Node.receive parcel.source parcel.message))
      (Network.callNode parcel.target (Node.receive parcel.source parcel.message)) :=
    simulates_callNode hHandle Node.placed_of_receive
  intro arena net hRelated
  have hCalled := hCall hRelated
  unfold handTo Network.handOver
  cases hFirst : callNode handle parcel.target (Node.receive parcel.source parcel.message) arena <;>
    cases hSecond : Network.callNode parcel.target (Node.receive parcel.source parcel.message) net <;>
    rw [hFirst, hSecond] at hCalled <;> first | exact hCalled.elim | skip
  · obtain ⟨rfl, hAfter⟩ := hCalled
    exact simulates_applyEffects hHandle _ hAfter
  · obtain ⟨rfl, hAfter⟩ := hCalled
    rename_i error _ _
    cases error with
    | node name cause =>
        cases cause with
        | duplicateMarker node source snapshot =>
            exact ((simulates_onIndex (Network.keepsToBooks_reject source node snapshot)).bind
              fun _ => Action.simulates_pure []) hAfter
        | _ => exact ⟨rfl, hAfter⟩
    | _ => exact ⟨rfl, hAfter⟩
  · exact hCalled

/-- A message is handed over alike by the handle and by the name of its receiver. -/
theorem simulates_handOver (parcel : Parcel) :
    Action.Simulates (RepresentsOn index) (handOver parcel) (Network.handOver parcel) := by
  rintro arena net ⟨hRepresents, rfl⟩
  unfold handOver
  cases hHandle : arena.index.get? parcel.target with
  | none =>
      rw [Action.bind_of_refused (requireHandle_of_none hHandle)]
      unfold Network.handOver
      rw [Network.callNode_of_none (hRepresents.get?_of_none hHandle)]
      exact ⟨rfl, hRepresents, rfl⟩
  | some handle =>
      rw [Action.bind_of_done (requireHandle_of_some hHandle)]
      exact simulates_handTo hHandle ⟨hRepresents, rfl⟩

theorem simulates_deliver (parcel : Parcel) :
    Action.Simulates (RepresentsOn index) (deliver parcel) (Network.deliver parcel) := by
  obtain ⟨source, target, message, due⟩ := parcel
  refine (simulates_onIndex (Network.keepsToBooks_record _)).bind fun _ => ?_
  cases message with
  | token amount => exact simulates_handOver _
  | marker snapshot =>
      refine Action.Simulates.read_bind (fun arena net hRelated => ?_) fun stale => ?_
      · rw [hRelated.1.books_eq]
        rfl
      · cases stale with
        | false => exact simulates_handOver _
        | true =>
            exact (simulates_onIndex (Network.keepsToBooks_reject source target snapshot)).bind
              fun _ => Action.simulates_pure []

/-- What a node has to send off, with the numbers of the channels. -/
theorem Represents.leaving_eq (hRepresents : arena.Represents net) {handle : Nat} {node : Node}
    (hNode : arena.nodes[handle]? = some node) :
    List.Forall₂ (fun number entry => arena.channels[number]? = some entry.2 ∧
        entry.2.link = ⟨node.name, entry.1⟩)
      node.outbound.values (net.channels.leaving node.name) := by
  have hConsistent := hRepresents.consistent
  have hRow : ∀ target, (net.channels.row node.name).get? target =
      (node.outbound.get? target).bind fun number => arena.channels[number]? := by
    intro target
    rw [← outboundNumber?_eq_of_getElem? hConsistent.indexed hNode]
    exact hRepresents.channel?_eq ⟨node.name, target⟩
  have hKeys : node.outbound.keys = (net.channels.row node.name).keys := by
    apply SortedMap.keys_eq_of_mem_iff
    intro target
    rw [← not_iff_not, ← SortedMap.get?_eq_none_iff, ← SortedMap.get?_eq_none_iff, hRow,
      ← outboundNumber?_eq_of_getElem? hConsistent.indexed hNode]
    exact hConsistent.channel?_eq_none_iff.symm
  have hValues : ∀ target number channel, node.outbound.get? target = some number →
      (net.channels.row node.name).get? target = some channel →
      arena.channels[number]? = some channel ∧ channel.link = ⟨node.name, target⟩ := by
    intro target number channel hNumber hChannel
    rw [hRow, hNumber, Option.bind_some] at hChannel
    refine ⟨hChannel, hConsistent.link_eq ?_ hChannel⟩
    rw [outboundNumber?_eq_of_getElem? hConsistent.indexed hNode, hNumber]
  unfold SortedMap.values ChannelTable.leaving
  rw [List.forall₂_map_left_iff]
  exact SortedMap.forall₂_toList hKeys hValues

/-- The first parcel that is due comes off the same channel, by number and by link. -/
theorem takeFirst_cases {source : String} {numbers : List Nat} {entries : List (String × Channel)}
    (hEntries : List.Forall₂ (fun number entry => arena.channels[number]? = some entry.2 ∧
      entry.2.link = ⟨source, entry.1⟩) numbers entries) :
    (∃ link parcel rest number channel, arena.channels[number]? = some channel ∧
        channel.link = link ∧ rest.link = link ∧
        (entries.findSome? fun entry => (entry.2.popDue? arena.books.clock).map fun popped =>
          ((⟨source, entry.1⟩ : Link), popped)) = some (link, parcel, rest) ∧
        takeFirst numbers arena = .done (some parcel) (arena.setChannel number rest)) ∨
      (entries.findSome? fun entry => (entry.2.popDue? arena.books.clock).map fun popped =>
        ((⟨source, entry.1⟩ : Link), popped)) = none ∧ takeFirst numbers arena = .done none arena := by
  induction hEntries with
  | nil => exact Or.inr ⟨rfl, rfl⟩
  | @cons number entry numbers entries hEntry hRest ih =>
      obtain ⟨hChannel, hLink⟩ := hEntry
      cases hDue : entry.2.popDue? arena.books.clock with
      | none =>
          have hPop : popDue number arena = .done none arena := by
            unfold popDue
            rw [hChannel]
            dsimp only
            rw [hDue]
          have hTake : takeFirst (number :: numbers) arena = takeFirst numbers arena :=
            Action.bind_of_done hPop
          rw [hTake, List.findSome?_cons_of_isNone (by rw [hDue]; rfl)]
          exact ih
      | some popped =>
          obtain ⟨parcel, rest⟩ := popped
          have hPop : popDue number arena = .done (some parcel) (arena.setChannel number rest) := by
            unfold popDue
            rw [hChannel]
            dsimp only
            rw [hDue]
          have hTake : takeFirst (number :: numbers) arena = _ := Action.bind_of_done hPop
          refine Or.inl ⟨_, parcel, rest, number, entry.2, hChannel, hLink,
            (Channel.link_of_popDue? hDue).trans hLink, ?_, hTake⟩
          rw [List.findSome?_cons, hDue]
          rfl

theorem agrees_takeDue (hRepresents : arena.Represents net) {handle : Nat} {node : Node}
    (hNode : arena.nodes[handle]? = some node) :
    (takeFirst node.outbound.values arena).Agrees (Network.takeDue node.name net)
      (fun _ => RepresentsOn arena.index) fun _ => RepresentsOn arena.index := by
  have hClock : arena.books.clock = net.clock := by rw [hRepresents.books_eq]; rfl
  have hCases := takeFirst_cases (hRepresents.leaving_eq hNode)
  rw [hClock] at hCases
  unfold Network.takeDue Network.firstDue?
  rcases hCases with ⟨link, parcel, rest, number, channel, hChannel, hLink, hRest, hFound, hTaken⟩ |
    ⟨hNone, hTaken⟩
  · rw [hFound, hTaken]
    have hAfter := hRepresents.setChannel hChannel (hRest.trans hLink.symm)
    rw [hLink] at hAfter
    exact ⟨rfl, hAfter, rfl⟩
  · rw [hNone, hTaken]
    exact ⟨rfl, hRepresents, rfl⟩

/-- The scan goes the same way by handles and by names. -/
theorem simulates_scan {handles : List Nat} {names : List String}
    (hNames : HandlesOf index handles names) :
    Action.Simulates (RepresentsOn index) (scan handles) (Network.scan names) := by
  induction hNames with
  | nil => exact Action.simulates_pure _
  | @cons handle name handles names hHandle hRest ih =>
      rintro arena net ⟨hRepresents, rfl⟩
      obtain ⟨node, hNode, rfl⟩ := hRepresents.consistent.indexed.exists_node hHandle
      unfold scan Network.scan
      rw [Action.bind_of_done (nodeAt_of_some hNode)]
      refine Action.agrees_bind (agrees_takeDue hRepresents hNode) fun due between last hBetween => ?_
      cases due with
      | none => exact ih hBetween
      | some parcel =>
          exact ((simulates_deliver parcel).bind fun completed => ih.bind fun later =>
            Action.simulates_pure _) hBetween

theorem simulates_tick : Action.Simulates (RepresentsOn index) tick Network.tick := by
  refine simulates_freeze.bind fun _ => ?_
  refine (simulates_onIndex Network.keepsToBooks_advance).bind fun _ => ?_
  rintro arena net ⟨hRepresents, rfl⟩
  have hNames := SortedMap.forall₂_values_keys arena.index
  rw [← hRepresents.keys_eq] at hNames
  rw [Action.bind_of_done (show Action.read _ arena = _ from rfl),
    Action.bind_of_done (show Action.read _ net = _ from rfl)]
  refine ((simulates_scan hNames).bind fun found => ?_) ⟨hRepresents, rfl⟩
  refine Action.Simulates.read_bind (fun before last hRelated => ?_) fun now =>
    Action.simulates_pure _
  unfold tickNow
  rw [hRelated.1.books_eq]
  rfl

end Deliver

/-! ### Calls -/

/-- An action that does not change the index needs no index to be named. -/
theorem simulates_of_onIndex {action : ArenaAction α} {counterpart : NetworkAction α}
    (hAction : ∀ index, Action.Simulates (RepresentsOn index) action counterpart) :
    Action.Simulates Represents action counterpart := fun arena _ hRepresents =>
  (hAction arena.index ⟨hRepresents, rfl⟩).mono (fun _ _ _ hAfter => hAfter.1)
    fun _ _ _ hAfter => hAfter.1

/-- What is added alike is a call that is answered alike. -/
theorem agrees_attempt {action : ArenaAction Unit} {change : Network → Except NetworkError Network}
    (hRepresents : arena.Represents net) (hFollows : Follows action arena (change net)) :
    (action arena).Agrees (Network.attempt change net) (fun _ => Represents)
      fun _ => Represents := by
  unfold Network.attempt
  cases hChange : change net with
  | ok after =>
      rw [hChange] at hFollows
      obtain ⟨last, hDone, hLast⟩ := hFollows
      rw [hDone]
      exact ⟨rfl, hLast⟩
  | error error =>
      rw [hChange] at hFollows
      rw [show action arena = .refused error arena from hFollows]
      exact ⟨rfl, hRepresents⟩

/-- Every call is answered alike by an arena and by the network that it represents, and leaves the
one representing the other. -/
theorem simulates_answer (call : Call) :
    Action.Simulates Represents (answer call) (Network.answer call) := by
  cases call with
  | addNode name tokens =>
      exact Action.Simulates.map _ fun _ _ hRepresents =>
        agrees_attempt hRepresents (hRepresents.addNode ⟨name, tokens⟩)
  | addLink source target =>
      exact Action.Simulates.map _ fun _ _ hRepresents =>
        agrees_attempt hRepresents (hRepresents.addLink ⟨source, target⟩)
  | send source target tokens =>
      exact (simulates_of_onIndex fun _ => simulates_sendTokens source target tokens).map _
  | control event => exact (simulates_of_onIndex fun _ => simulates_control event).map _
  | startSnapshot name => exact (simulates_of_onIndex fun _ => simulates_startSnapshot name).map _
  | tick => exact (simulates_of_onIndex fun _ => simulates_tick).map _
  | receiveTime =>
      exact (simulates_of_onIndex fun _ =>
        simulates_onIndex Network.keepsToBooks_receiveTime).map _
  | notify report =>
      exact (simulates_of_onIndex fun _ =>
        simulates_onIndex (Network.keepsToBooks_notify report)).map _
  | handle snapshot =>
      exact (simulates_of_onIndex fun _ =>
        simulates_onIndex (Network.keepsToBooks_handle snapshot)).map _
  | tryCollect snapshot =>
      exact (simulates_of_onIndex fun _ =>
        simulates_onIndex (Network.keepsToBooks_tryCollect snapshot)).map _
  | collect snapshot =>
      exact (simulates_of_onIndex fun _ =>
        simulates_onIndex (Network.keepsToBooks_collect snapshot)).map _
  | release snapshot =>
      exact (simulates_of_onIndex fun _ =>
        simulates_onIndex (Network.keepsToBooks_release snapshot)).map _
  | abandon snapshots =>
      exact (simulates_of_onIndex fun _ =>
        simulates_onIndex (Network.keepsToBooks_abandon snapshots)).map _

theorem Represents.alike_reply (hRepresents : arena.Represents net) (call : Call) :
    Network.Alike Represents (arena.reply call) (net.reply call) := by
  have hAgrees := simulates_answer call hRepresents
  unfold reply Network.reply
  cases hFirst : answer call arena <;> cases hSecond : Network.answer call net <;>
    rw [hFirst, hSecond] at hAgrees <;> first | exact hAgrees.elim | skip
  · exact ⟨congrArg _ hAgrees.1, hAgrees.2⟩
  · exact ⟨congrArg _ hAgrees.1, hAgrees.2⟩
  · exact hAgrees

/-- Whatever calls are made of an arena, the network that it represents replies the same and goes on
being represented. -/
theorem Represents.alike_history (hRepresents : arena.Represents net) (calls : List Call) :
    Network.Alike Represents (arena.history calls) (net.history calls) := by
  induction calls generalizing arena net with
  | nil => exact ⟨rfl, hRepresents⟩
  | cons call rest ih =>
      refine (hRepresents.alike_reply call).bind fun first between final hBetween => ?_
      exact (ih hBetween).bind fun later _ _ hLast => ⟨rfl, hLast⟩

end Arena

end TokenNet
