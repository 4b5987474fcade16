import TokenNet.Proofs.Delivery

namespace TokenNet
namespace Network

/-!
# What a step can do

`Network.Change` lists the changes that the steps of a well-formed network can make, each as
an explicit state (`Step.change`).  It leaves out nothing that a step can do, so that every
invariant of runs is proved by going through this list and never by opening an action.
-/

/-- The network after a parcel has left its channel, which the journal tells. -/
def taken (net : Network) (parcel : Parcel) (rest : List Parcel) : Network :=
  (net.popped parcel.link rest).logged
    (.received net.tickNow parcel.source parcel.target parcel.message)

/-- The network after a snapshot has been opened at a node. -/
def announced (net : Network) (name : String) (next : SnapshotId) : Network :=
  { net with
    started := true
    nextSnapshot := next
    collectors := net.collectors.insert net.nextSnapshot
      (Collector.create net.nextSnapshot (SortedSet.ofKeys net.nodes))
    journal := net.journal.write (.snapshotStarted net.tickNow name net.nextSnapshot) }

/-- A change of a network and what happens in it. -/
inductive Change : Network → List Happening → Network → Prop where
  /-- The clock moves, a delay is drawn, or nothing can be added any more. -/
  | idle {net : Network} (clock : Clock) (generator : Generator) {started : Bool}
      (hStarted : net.started = true → started = true)
      (hClock : net.clock.tick ≤ clock.tick) :
      Change net [] { net with clock := clock, generator := generator, started := started }
  /-- A node is added. -/
  | addNode {net : Network} {name : String} (tokens : UInt64) (hOpen : net.started = false)
      (hNew : net.nodes.get? name = none) :
      Change net [.opened name tokens]
        { net with nodes := net.nodes.insert name (Node.create name tokens) }
  /-- A link is added. -/
  | addLink {net : Network} {link : Link} {source target : Node} (hOpen : net.started = false)
      (hSource : net.nodes.get? link.source = some source)
      (hTarget : net.nodes.get? link.target = some target)
      (hDistinct : link.source ≠ link.target) (hNew : link.target ∉ source.outbound.keys) :
      Change net [] (net.connect link source target)
  /-- Tokens leave a node. -/
  | send {net : Network} {source target : String} {amount : UInt64} {node : Node}
      (generator : Generator) (due : UInt64) (hNode : net.nodes.get? source = some node)
      (hLink : net.channels.contains ⟨source, target⟩ = true) (hEnough : amount ≤ node.tokens)
      (hPunctual : net.Punctual due) :
      Change net [.sent ⟨source, target⟩ amount]
        ((({ net with started := true } : Network).withChanged
          { node with tokens := node.tokens - amount }).posted generator
            [⟨source, target, .token amount, due⟩])
  /-- A snapshot is opened. -/
  | announce {net : Network} {name : String} {next : SnapshotId} (hName : name ∈ net.nodes.keys)
      (hNext : checkedAdd net.nextSnapshot 1 = .ok next) :
      Change net [.announced name net.nextSnapshot] (net.announced name next)
  /-- A node takes part of its own accord. -/
  | join {net : Network} {name : String} {snapshot : SnapshotId} {node : Node}
      {collector : Collector} {generator : Generator} {parcels : List Parcel}
      (hNode : net.nodes.get? name = some node)
      (hFresh : node.recordings.get? snapshot = none)
      (hFound : net.collectors.get? snapshot = some collector)
      (hAwaited : name ∈ collector.remaining.keys)
      (hTargets : parcels.map Parcel.target = node.outbound.keys)
      (hParcels : ∀ parcel ∈ parcels, parcel.source = name ∧ parcel.message = .marker snapshot)
      (hPunctual : ∀ parcel ∈ parcels, net.Punctual parcel.due) :
      Change net [.joined name snapshot]
        ((net.posted generator parcels).withRecording node collector
          (node.freshRecording snapshot none))
  /-- Tokens come to their receiver. -/
  | credit {net : Network} {source target : String} {amount due tokens : UInt64}
      {rest : List Parcel} {node : Node}
      (hQueue : net.channels.queue ⟨source, target⟩ = ⟨source, target, .token amount, due⟩ :: rest)
      (hNode : net.nodes.get? target = some node)
      (hTokens : checkedAdd node.tokens amount = .ok tokens)
      (hDue : net.clock.isDue due = true) :
      Change net [.delivered ⟨source, target⟩ amount]
        ((net.taken ⟨source, target, .token amount, due⟩ rest).withChanged
          (node.credited source amount tokens))
  /-- A marker comes to its receiver. -/
  | marker {net after : Network} {source target : String} {snapshot : SnapshotId}
      {due : UInt64} {rest : List Parcel}
      (hQueue : net.channels.queue ⟨source, target⟩ =
        ⟨source, target, .marker snapshot, due⟩ :: rest)
      (hEffect : MarkerEffect (net.taken ⟨source, target, .marker snapshot, due⟩ rest)
        source target snapshot after)
      (hDue : net.clock.isDue due = true) :
      Change net (net.arrival ⟨source, target, .marker snapshot, due⟩) after
  /-- A report is handed in from outside. -/
  | notify {net : Network} {report : Report} {collector : Collector}
      (hFound : net.collectors.get? report.snapshot = some collector)
      (hAwaited : report.node ∈ collector.remaining.keys) :
      Change net [.notified report] (net.admitted collector report)
  /-- A complete snapshot is taken away. -/
  | retire {net : Network} {snapshot : SnapshotId} {collector : Collector}
      (hFound : net.collectors.get? snapshot = some collector)
      (hComplete : collector.isComplete = true) :
      Change net [] (net.retire snapshot collector)
  /-- Snapshots are given up. -/
  | abandon {net : Network} (snapshots : List SnapshotId) :
      Change net [] (Network.abandon snapshots net)

/-! ### Each step is such a change -/

/-- What a sender takes off a channel is the oldest parcel of a link that leads away from it,
and it is due. -/
theorem takeDue_eq_done {net between : Network} {source : String} {parcel : Parcel}
    (hSound : net.channels.Sound) (hTake : takeDue source net = .done (some parcel) between) :
    ∃ rest, parcel.source = source ∧ net.channels.queue parcel.link = parcel :: rest ∧
      net.clock.isDue parcel.due = true ∧ between = net.popped parcel.link rest := by
  unfold takeDue at hTake
  cases hDue : net.firstDue? source with
  | none => simp [hDue] at hTake
  | some found =>
      obtain ⟨link, other, left⟩ := found
      simp only [hDue, Outcome.done.injEq, Option.some.injEq] at hTake
      obtain ⟨rfl, rfl⟩ := hTake
      -- The parcel is the oldest of the first channel of the row that has one that is due.
      obtain ⟨entry, hEntry, hPopped⟩ := List.exists_of_findSome?_eq_some hDue
      obtain ⟨target, channel⟩ := entry
      have hFound := ChannelTable.mem_leaving_iff.mp hEntry
      have hQueue := ChannelTable.queue_of_get? hFound
      unfold Channel.popDue? at hPopped
      cases hParcels : channel.queue with
      | nil => simp [hParcels] at hPopped
      | cons first rest =>
          by_cases hReady : net.clock.isDue first.due = true
          · simp only [hParcels, hReady, if_true, Option.map_some, Option.some.injEq,
              Prod.mk.injEq] at hPopped
            obtain ⟨rfl, rfl, rfl⟩ := hPopped
            rw [hParcels] at hQueue
            have hLink : first.link = ⟨source, target⟩ := by
              apply hSound.parcel_link
              rw [hQueue]
              exact List.mem_cons_self
            refine ⟨rest, congrArg Link.source hLink, hLink ▸ hQueue, hReady, ?_⟩
            unfold popped ChannelTable.setQueue
            rw [hLink, hFound]
          · simp [hParcels, hReady] at hPopped

theorem firstDue?_eq_none {net between : Network} {source : String}
    (hTake : takeDue source net = .done none between) : net.firstDue? source = none := by
  unfold takeDue at hTake
  cases hDue : net.firstDue? source with
  | none => rfl
  | some found =>
      rw [hDue] at hTake
      cases hTake

/-- Whoever finds nothing due has only parcels that become due later. -/
theorem late_of_firstDue?_eq_none {net : Network} {source target : String} {parcel : Parcel}
    {rest : List Parcel} (hNone : net.firstDue? source = none)
    (hQueue : net.channels.queue ⟨source, target⟩ = parcel :: rest) :
    net.tickNow.toNat < parcel.due.toNat := by
  have hLink : net.channels.contains ⟨source, target⟩ = true :=
    ChannelTable.contains_of_mem_queue (hQueue ▸ List.mem_cons_self)
  obtain ⟨channel, hFound⟩ := ChannelTable.contains_iff.mp hLink
  rw [ChannelTable.queue_of_get? hFound] at hQueue
  have hPopped := List.findSome?_eq_none_iff.mp hNone _ (ChannelTable.mem_leaving_iff.mpr hFound)
  unfold Channel.popDue? at hPopped
  simp only [hQueue, Option.map_eq_none_iff, ite_eq_right_iff, reduceCtorEq, imp_false] at hPopped
  exact Nat.lt_of_not_le fun hNow => hPopped (decide_eq_true hNow)

/-- Why tokens are not sent. -/
inductive SendRefusal (net : Network) (source target : String) (amount : UInt64) :
    NetworkError → Prop where
  /-- There is no sender. -/
  | nodeNotFound (hSource : net.nodes.get? source = none) :
      SendRefusal net source target amount (.nodeNotFound source)
  /-- No link leads from the sender to the receiver. -/
  | unknownDestination (hSource : source ∈ net.nodes.keys)
      (hLink : ¬ net.channels.contains ⟨source, target⟩ = true) :
      SendRefusal net source target amount (.node source (.unknownDestination source target))
  /-- The sender holds too little. -/
  | insufficientTokens {node : Node} (hNode : net.nodes.get? source = some node)
      (hShort : node.tokens < amount) :
      SendRefusal net source target amount
        (.node source (.insufficientTokens source amount node.tokens))

/-- A node that knows the receiver and holds enough pays, and a parcel carries the tokens;
any other leaves the network as it was. -/
theorem meets_pay {net : Network} {source target : String} {amount : UInt64}
    (hWired : Wired net.nodes net.channels) :
    ((callNode source (Node.send amount target) >>= enqueue source target) net).Meets
      (fun _ after => ∃ node generator due, net.nodes.get? source = some node ∧
        net.channels.contains ⟨source, target⟩ = true ∧ amount ≤ node.tokens ∧
        net.Punctual due ∧
        after = (net.withChanged { node with tokens := node.tokens - amount }).posted generator
          [⟨source, target, .token amount, due⟩])
      (fun error after => net.SendRefusal source target amount error ∧ after = net) := by
  -- What is refused is refused by the node, before anything has changed.
  cases hNode : net.nodes.get? source with
  | none =>
      have hRefused : callNode source (Node.send amount target) net =
          .refused (.nodeNotFound source) net := by
        unfold callNode
        simp only [hNode]
      exact Action.meets_bind_of_refused hRefused ⟨SendRefusal.nodeNotFound hNode, rfl⟩
  | some node =>
      have hName : node.name = source := hWired.name_eq hNode
      have hKnows : target ∈ node.outbound.keys ↔
          net.channels.contains ⟨source, target⟩ = true := hWired.mem_outbound_iff hNode
      by_cases hTarget : node.outbound.contains target = true
      · have hLink := hKnows.mp (SortedMap.contains_iff.mp hTarget)
        by_cases hEnough : node.tokens < amount
        · have hRefused : Node.send amount target node =
              .refused (.insufficientTokens source amount node.tokens) node := by
            unfold Node.send
            simp [hTarget, hEnough, hName]
          exact Action.meets_bind_of_refused (callNode_eq_refused hNode hRefused)
            ⟨SendRefusal.insufficientTokens hNode hEnough, rfl⟩
        · have hSent : Node.send amount target node =
              .done (.token amount) { node with tokens := node.tokens - amount } := by
            unfold Node.send
            simp [hTarget, hEnough]
          apply Action.meets_bind_of_done (callNode_eq_done hNode hSent)
          refine (meets_enqueue ?_ ?_).imp fun _ after hAfter => ?_
          · exact hWired.sound
          · exact hLink
          · obtain ⟨generator, due, hPunctual, rfl⟩ := hAfter
            refine ⟨node, generator, due, rfl, hLink, UInt64.not_lt.mp hEnough, hPunctual, ?_⟩
            unfold withChanged
            rw [hName]
      · have hRefused : Node.send amount target node =
            .refused (.unknownDestination source target) node := by
          unfold Node.send
          simp [hTarget, hName]
        refine Action.meets_bind_of_refused (callNode_eq_refused hNode hRefused)
          ⟨SendRefusal.unknownDestination (SortedMap.mem_keys_of_get? hNode) fun hLink => ?_, rfl⟩
        exact hTarget (SortedMap.contains_iff.mpr (hKnows.mpr hLink))

/-- Tokens are sent, or nothing changes but that nothing can be added any more. -/
theorem meets_sendTokens {net : Network} {source target : String} {amount : UInt64}
    (hWired : Wired net.nodes net.channels) :
    (sendTokens source target amount net).Meets
      (fun _ after => Change net [.sent ⟨source, target⟩ amount] after)
      (fun error after => net.SendRefusal source target amount error ∧
        after = { net with started := true }) := by
  apply Action.meets_bind_of_done rfl
  refine (meets_pay ?_).mono ?_ ?_
  · exact hWired
  · rintro _ _ ⟨node, generator, due, hNode, hLink, hEnough, hPunctual, rfl⟩
    exact Change.send generator due hNode hLink hEnough hPunctual
  · -- Whether anything can be added is no cause.
    rintro _ _ ⟨hCause, rfl⟩
    refine ⟨?_, rfl⟩
    cases hCause with
    | nodeNotFound hSource => exact SendRefusal.nodeNotFound hSource
    | unknownDestination hSource hLink => exact SendRefusal.unknownDestination hSource hLink
    | insufficientTokens hNode hShort => exact SendRefusal.insufficientTokens hNode hShort

theorem meets_allocate (net : Network) :
    (allocate net).Meets
      (fun snapshot after => snapshot = net.nextSnapshot ∧ ∃ next,
        checkedAdd net.nextSnapshot 1 = .ok next ∧ after = { net with nextSnapshot := next })
      Never := by
  apply Action.meets_bind_of_done rfl
  refine Action.meets_bind (M := fun next between =>
    checkedAdd net.nextSnapshot 1 = .ok next ∧ net = between)
    (Action.meets_ofExcept fun _ hNext => ⟨hNext, rfl⟩) ?_
  rintro next _ ⟨hNext, rfl⟩
  exact ⟨rfl, next, hNext, rfl⟩

/-- A snapshot is opened at a node that exists; otherwise nothing changes but that nothing can
be added any more. -/
theorem meets_announce (net : Network) (name : String) :
    (Network.announce name net).Meets
      (fun snapshot after => snapshot = net.nextSnapshot ∧ name ∈ net.nodes.keys ∧ ∃ next,
        checkedAdd net.nextSnapshot 1 = .ok next ∧ after = net.announced name next)
      (fun error after => error = .nodeNotFound name ∧ name ∉ net.nodes.keys ∧
        after = { net with started := true }) := by
  apply Action.meets_bind_of_done rfl
  by_cases hName : net.nodes.contains name = true
  · refine Action.meets_bind_of_done (if_pos hName) ?_
    apply Action.meets_bind ((meets_allocate _).imp fun _ _ hNext => hNext)
    rintro _ _ ⟨rfl, next, hNext, rfl⟩
    exact ⟨rfl, SortedMap.contains_iff.mp hName, next, hNext, rfl⟩
  · exact Action.meets_bind_of_refused (if_neg hName)
      ⟨rfl, fun hMember => hName (SortedMap.contains_iff.mpr hMember), rfl⟩

/-- A node is added under a new name while nothing has been asked of the network. -/
theorem withNode_eq_ok {net after : Network} {node : InitialNode}
    (hAdd : net.withNode node = .ok after) :
    net.started = false ∧ net.nodes.get? node.name = none ∧ after =
      { net with nodes := net.nodes.insert node.name (Node.create node.name node.tokens) } := by
  unfold withNode at hAdd
  by_cases hStarted : net.started = true
  · simp [hStarted] at hAdd
  · by_cases hName : isNodeName node.name = true
    · by_cases hKnown : net.nodes.contains node.name = true
      · simp [hStarted, hName, hKnown] at hAdd
      · have hNew : net.nodes.get? node.name = none :=
          Option.not_isSome_iff_eq_none.mp hKnown
        rw [if_neg hStarted, hName, Bool.not_true, if_neg Bool.false_ne_true, if_neg hKnown] at hAdd
        cases hAdd
        exact ⟨Bool.eq_false_iff.mpr hStarted, hNew, rfl⟩
    · simp [hStarted, hName] at hAdd

/-- A new link is added between two nodes while nothing has been asked of the network. -/
theorem withLink_eq_ok {net after : Network} {link : Link}
    (hAdd : net.withLink link = .ok after) :
    net.started = false ∧ ∃ source target, net.nodes.get? link.source = some source ∧
      net.nodes.get? link.target = some target ∧ link.source ≠ link.target ∧
      link.target ∉ source.outbound.keys ∧ after = net.connect link source target := by
  unfold withLink at hAdd
  by_cases hStarted : net.started = true
  · simp [hStarted] at hAdd
  · rw [if_neg hStarted] at hAdd
    cases hSource : net.nodes.get? link.source with
    | none => simp [hSource] at hAdd
    | some source =>
        cases hTarget : net.nodes.get? link.target with
        | none => simp [hSource, hTarget] at hAdd
        | some target =>
            simp only [hSource, hTarget] at hAdd
            by_cases hLoop : link.source = link.target
            · simp [hLoop] at hAdd
            · by_cases hOld : source.outbound.contains link.target = true
              · simp [hLoop, hOld] at hAdd
              · rw [if_neg hLoop, if_neg hOld] at hAdd
                cases hAdd
                exact ⟨Bool.eq_false_iff.mpr hStarted, source, target, rfl, rfl, hLoop,
                  fun hMember => hOld (SortedMap.contains_iff.mpr hMember), rfl⟩

theorem advance_eq_done {net after : Network} (hAdvance : Network.advance net = .done () after) :
    ∃ clock, net.clock.advance = .ok clock ∧ after = { net with clock := clock } := by
  have hMeets : (Network.advance net).Meets
      (fun _ after => ∃ clock, net.clock.advance = .ok clock ∧
        after = { net with clock := clock }) fun _ _ => True := by
    apply Action.meets_bind_of_done rfl
    refine Action.meets_bind (M := fun clock between =>
      net.clock.advance = .ok clock ∧ net = between)
      (Action.meets_ofExcept fun _ hClock => ⟨hClock, rfl⟩) ?_
    rintro clock _ ⟨hClock, rfl⟩
    exact ⟨clock, hClock, rfl⟩
  exact hMeets.of_done hAdvance

/-- A node starts a snapshot only if it exists and keeps no recording of it. -/
theorem startAt_singleton_eq_done {net after : Network} {name : String} {snapshot : SnapshotId}
    (hStart : startAt snapshot [name] net = .done () after) :
    ∃ node, net.nodes.get? name = some node ∧ node.recordings.get? snapshot = none := by
  -- A node that keeps a recording refuses to start, and one that does not exist cannot.
  obtain ⟨effects, between, hCalled, -⟩ := Action.bind_eq_done_iff.mp hStart
  unfold callNode at hCalled
  cases hNode : net.nodes.get? name with
  | none => simp [hNode] at hCalled
  | some node =>
      refine ⟨node, rfl, Option.not_isSome_iff_eq_none.mp fun hOld => ?_⟩
      have hContains : node.recordings.contains snapshot = true := hOld
      simp [hNode, Node.startSnapshot, hContains] at hCalled

/-- A step of a well-formed network is one of the changes listed. -/
theorem Step.change {net after : Network} {happenings : List Happening}
    (hWell : net.WellFormed) (hStep : Step net happenings after) :
    Change net happenings after := by
  cases hStep with
  | freeze => exact Change.idle net.clock net.generator (fun _ => rfl) (UInt64.le_refl _)
  | advance hAdvance =>
      obtain ⟨clock, hClock, rfl⟩ := advance_eq_done hAdvance
      refine Change.idle clock net.generator id (UInt64.le_iff_toNat_le.mpr ?_)
      rw [Clock.toNat_of_advance hClock]
      exact Nat.le_succ _
  | draw hDraw =>
      obtain ⟨-, generator, rfl⟩ := (meets_receiveTime net).of_done hDraw
      exact Change.idle net.clock generator id (UInt64.le_refl _)
  | addNode hAdd =>
      obtain ⟨hOpen, hNew, rfl⟩ := withNode_eq_ok hAdd
      exact Change.addNode _ hOpen hNew
  | addLink hAdd =>
      obtain ⟨hOpen, source, target, hSource, hTarget, hDistinct, hNew, rfl⟩ := withLink_eq_ok hAdd
      exact Change.addLink hOpen hSource hTarget hDistinct hNew
  | send hSend => exact (meets_sendTokens hWell.wired).of_done hSend
  | announce hOpen =>
      obtain ⟨rfl, hName, next, hNext, rfl⟩ := (meets_announce net _).of_done hOpen
      exact Change.announce hName hNext
  | join hFound hAwaited hStart =>
      obtain ⟨node, hNode, hFresh⟩ := startAt_singleton_eq_done hStart
      have hSound := hWell.collected.sound hFound
      have hRemaining := hSound.awaited_iff.mpr ⟨SortedMap.mem_keys_of_get? hNode, fun hReported =>
        Bool.false_ne_true (hAwaited.symm.trans (Collector.hasReported_iff.mpr hReported))⟩
      obtain ⟨generator, parcels, hTargets, hParcels, hPunctual, rfl⟩ :=
        (meets_startAt_singleton hWell.wired hNode hFresh hFound hSound.snapshot_eq
          hRemaining).of_done hStart
      exact Change.join hNode hFresh hFound hRemaining hTargets hParcels hPunctual
  | @deliver _ between source parcel completed hTake hDeliver =>
      -- The parcel has left its channel, and what its message is decides what becomes of it.
      obtain ⟨rest, -, hQueue, hDue, rfl⟩ := takeDue_eq_done hWell.wired.sound hTake
      have hLink : net.channels.contains parcel.link = true :=
        ChannelTable.contains_of_mem_queue (hQueue ▸ List.mem_cons_self)
      have hKept : (net.popped parcel.link rest).channels.contains parcel.link = true :=
        (ChannelTable.contains_setQueue ..).trans hLink
      obtain ⟨source, target, message, due⟩ := parcel
      cases message with
      | token amount =>
          obtain ⟨node, tokens, hNode, hTokens, rfl⟩ :=
            (meets_deliver_token (hWell.popped hQueue).wired hKept).of_done hDeliver
          exact Change.credit hQueue hNode hTokens hDue
      | marker snapshot =>
          exact Change.marker hQueue
            ((meets_deliver_marker (hWell.popped hQueue) hKept).of_done hDeliver) hDue
  | notify hNotify =>
      obtain ⟨collector, hFound, -, hAwaited, -, rfl⟩ := notify_eq_done_iff.mp hNotify
      exact Change.notify hFound hAwaited
  | retire hFound hComplete => exact Change.retire hFound hComplete
  | abandon snapshots => exact Change.abandon snapshots

end Network
end TokenNet
