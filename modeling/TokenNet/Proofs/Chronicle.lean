import TokenNet.Proofs.Reachable

namespace TokenNet

/-!
# What a run writes into the journal

`Network.Tells` relates two networks to the events that have been written in between.  It says what
those events tell of every link, of time, and of the markers that were turned down, and nothing of
nodes or snapshots.  Every change tells its events (`Network.Change.tells`), and so does every run,
whether or not reports come from outside (`Network.Run.tells`).

On a link the parcels that were sent follow those that were under way before, and leave from the
front: what has come, in order, is the first part, and what is under way is the rest.
-/

namespace Event

/-- The parcel that an event tells to have been put on a link. -/
def parcelOn? (link : Link) : Event → Option Parcel
  | sent _ parcel => if parcel.link = link then some parcel else none
  | _ => none

/-- The message that an event tells to have come from a link, with the tick. -/
def arrivalOn? (link : Link) : Event → Option (Message × UInt64)
  | received tick source target message =>
      if (⟨source, target⟩ : Link) = link then some (message, tick) else none
  | _ => none

/-- Whether an event tells that a message has come. -/
def isArrival : Event → Bool
  | received _ _ _ _ => true
  | _ => false

/-- Whether an event tells that a marker was turned down. -/
def isRejection : Event → Bool
  | markerRejected _ _ _ _ => true
  | _ => false

/-- Whether a parcel that an event tells to have been sent becomes due in time: not before the
next tick, and no later than the bound on delays allows. -/
def Punctual (maxDelay : UInt64) : Event → Prop
  | sent tick parcel => tick.toNat + 1 ≤ parcel.due.toNat ∧
      parcel.due.toNat ≤ tick.toNat + max 1 maxDelay.toNat
  | _ => True

end Event

/-- The parcels put on a link, in order. -/
def parcelsOn (link : Link) (events : List Event) : List Parcel :=
  events.filterMap (Event.parcelOn? link)

/-- The messages that came from a link, in order, each with its tick. -/
def arrivalsOn (link : Link) (events : List Event) : List (Message × UInt64) :=
  events.filterMap (Event.arrivalOn? link)

/-- Whether a parcel has come as told: its message, and not before it was due. -/
def Parcel.CameAs (parcel : Parcel) (arrival : Message × UInt64) : Prop :=
  arrival.1 = parcel.message ∧ parcel.due ≤ arrival.2

theorem parcelsOn_append (link : Link) (earlier later : List Event) :
    parcelsOn link (earlier ++ later) = parcelsOn link earlier ++ parcelsOn link later :=
  List.filterMap_append

theorem arrivalsOn_append (link : Link) (earlier later : List Event) :
    arrivalsOn link (earlier ++ later) = arrivalsOn link earlier ++ arrivalsOn link later :=
  List.filterMap_append

theorem parcelsOn_sent (link : Link) (tick : UInt64) (parcels : List Parcel) :
    parcelsOn link (parcels.map (Event.sent tick)) =
      parcels.filter fun parcel => parcel.link = link := by
  unfold parcelsOn
  rw [List.filterMap_map, ← List.filterMap_eq_filter]
  refine List.filterMap_congr fun parcel _ => ?_
  by_cases hLink : parcel.link = link <;> simp [Event.parcelOn?, Option.guard, hLink]

theorem arrivalsOn_sent (link : Link) (tick : UInt64) (parcels : List Parcel) :
    arrivalsOn link (parcels.map (Event.sent tick)) = [] := by
  unfold arrivalsOn
  rw [List.filterMap_map]
  exact List.filterMap_eq_nil_iff.mpr fun _ _ => rfl

namespace Network

variable {net between after : Network} {earlier later events : List Event}

/-- The events lead from one network to another, as far as they tell. -/
structure Tells (net : Network) (events : List Event) (after : Network) : Prop where
  /-- The events are what has been written. -/
  toList_journal : after.journal.toList = net.journal.toList ++ events
  /-- The bound on delays stays. -/
  maxDelay_eq : after.maxDelay = net.maxDelay
  /-- The clock does not go back. -/
  tick_le : net.tickNow ≤ after.tickNow
  /-- The events happened in the meantime. -/
  meantime : ∀ event ∈ events, net.tickNow ≤ event.tick ∧ event.tick ≤ after.tickNow
  /-- The events are in the order of their ticks. -/
  ordered : events.Pairwise fun first second => first.tick ≤ second.tick
  /-- What is sent becomes due in time. -/
  punctual : ∀ event ∈ events, event.Punctual net.maxDelay
  /-- Every marker that is turned down is told. -/
  rejected_eq : after.rejected = net.rejected + events.countP Event.isRejection
  /-- What was under way on a link and what has been sent has come, or is under way. -/
  flow : ∀ link, ∃ come, net.channels.queue link ++ parcelsOn link events =
    come ++ after.channels.queue link ∧
      List.Forall₂ Parcel.CameAs come (arrivalsOn link events)

theorem Tells.trans (hEarlier : net.Tells earlier between) (hLater : between.Tells later after) :
    net.Tells (earlier ++ later) after := by
  refine ⟨?_, hLater.maxDelay_eq.trans hEarlier.maxDelay_eq,
    UInt64.le_trans hEarlier.tick_le hLater.tick_le, ?_, ?_, ?_, ?_, fun link => ?_⟩
  · rw [hLater.toList_journal, hEarlier.toList_journal, List.append_assoc]
  · intro event hEvent
    rcases List.mem_append.mp hEvent with hFirst | hSecond
    · obtain ⟨hAfter, hBefore⟩ := hEarlier.meantime event hFirst
      exact ⟨hAfter, UInt64.le_trans hBefore hLater.tick_le⟩
    · obtain ⟨hAfter, hBefore⟩ := hLater.meantime event hSecond
      exact ⟨UInt64.le_trans hEarlier.tick_le hAfter, hBefore⟩
  · refine List.pairwise_append.mpr ⟨hEarlier.ordered, hLater.ordered, ?_⟩
    intro first hFirst second hSecond
    exact UInt64.le_trans (hEarlier.meantime first hFirst).2 (hLater.meantime second hSecond).1
  · intro event hEvent
    rcases List.mem_append.mp hEvent with hFirst | hSecond
    · exact hEarlier.punctual event hFirst
    · rw [← hEarlier.maxDelay_eq]
      exact hLater.punctual event hSecond
  · rw [hLater.rejected_eq, hEarlier.rejected_eq, List.countP_append, Nat.add_assoc]
  · -- What came later was under way in between, or was sent later.
    obtain ⟨first, hFirst, hFirstCame⟩ := hEarlier.flow link
    obtain ⟨second, hSecond, hSecondCame⟩ := hLater.flow link
    refine ⟨first ++ second, ?_, ?_⟩
    · rw [parcelsOn_append, ← List.append_assoc, hFirst, List.append_assoc, hSecond,
        List.append_assoc]
    · rw [arrivalsOn_append]
      exact List.rel_append hFirstCame hSecondCame

/-! ### One event or none -/

/-- Nothing is told of a change that writes nothing and leaves the queues alone. -/
theorem tells_nil (hJournal : after.journal = net.journal) (hDelay : after.maxDelay = net.maxDelay)
    (hRejected : after.rejected = net.rejected) (hTick : net.tickNow ≤ after.tickNow)
    (hQueue : ∀ link, after.channels.queue link = net.channels.queue link) : net.Tells [] after := by
  refine ⟨?_, hDelay, hTick, fun _ hNone => absurd hNone List.not_mem_nil, List.Pairwise.nil,
    fun _ hNone => absurd hNone List.not_mem_nil, hRejected, fun link => ⟨[], ?_, List.Forall₂.nil⟩⟩
  · rw [hJournal, List.append_nil]
  · rw [hQueue]
    exact List.append_nil _

/-- An event of the current tick that tells nothing of a link. -/
theorem tells_singleton {event : Event} (hNow : event.tick = net.tickNow)
    (hParcel : ∀ link, event.parcelOn? link = none)
    (hArrival : ∀ link, event.arrivalOn? link = none) (hPunctual : event.Punctual net.maxDelay)
    (hJournal : after.journal = net.journal.write event) (hClock : after.clock = net.clock)
    (hDelay : after.maxDelay = net.maxDelay)
    (hRejected : after.rejected = net.rejected + [event].countP Event.isRejection)
    (hChannels : after.channels = net.channels) : net.Tells [event] after := by
  have hSame : after.tickNow = net.tickNow := congrArg Clock.tick hClock
  refine ⟨?_, hDelay, UInt64.le_of_eq hSame.symm, ?_, List.pairwise_singleton _ _, ?_, hRejected,
    fun link => ⟨[], ?_, ?_⟩⟩
  · rw [hJournal, Journal.toList_write]
  · intro other hOther
    rw [List.mem_singleton.mp hOther, hNow, hSame]
    exact ⟨UInt64.le_refl _, UInt64.le_refl _⟩
  · intro other hOther
    rw [List.mem_singleton.mp hOther]
    exact hPunctual
  · rw [hChannels, parcelsOn, List.filterMap_cons_none (hParcel link)]
    exact List.append_nil _
  · rw [arrivalsOn, List.filterMap_cons_none (hArrival link)]
    exact List.Forall₂.nil

/-! ### Parcels -/

/-- Parcels that are sent are under way. -/
theorem tells_posted (generator : Generator) {parcels : List Parcel}
    (hLinks : ∀ parcel ∈ parcels, net.channels.contains parcel.link = true)
    (hPunctual : ∀ parcel ∈ parcels, net.Punctual parcel.due) :
    net.Tells (parcels.map (Event.sent net.tickNow)) (net.posted generator parcels) := by
  have hTicks : ∀ event ∈ parcels.map (Event.sent net.tickNow), event.tick = net.tickNow := by
    intro event hEvent
    obtain ⟨parcel, -, rfl⟩ := List.mem_map.mp hEvent
    rfl
  refine ⟨Journal.toList_writeAll .., rfl, UInt64.le_refl _, ?_, ?_, ?_, ?_,
    fun link => ⟨[], ?_, ?_⟩⟩
  · intro event hEvent
    rw [hTicks event hEvent]
    exact ⟨UInt64.le_refl _, UInt64.le_refl _⟩
  · exact List.pairwise_map.mpr (List.pairwise_of_forall fun _ _ => UInt64.le_refl _)
  · intro event hEvent
    obtain ⟨parcel, hParcel, rfl⟩ := List.mem_map.mp hEvent
    exact hPunctual parcel hParcel
  · have hNone : (parcels.map (Event.sent net.tickNow)).countP Event.isRejection = 0 := by
      rw [List.countP_map]
      exact List.countP_eq_zero.mpr fun _ _ => Bool.false_ne_true
    rw [hNone]
    rfl
  · rw [parcelsOn_sent]
    exact (ChannelTable.queue_postAll hLinks link).symm
  · rw [arrivalsOn_sent]
    exact List.Forall₂.nil

/-- The oldest parcel of a link comes once it is due. -/
theorem tells_taken {source target : String} {message : Message} {due : UInt64} {rest : List Parcel}
    (hQueue : net.channels.queue ⟨source, target⟩ = ⟨source, target, message, due⟩ :: rest)
    (hDue : net.clock.isDue due = true) :
    net.Tells [.received net.tickNow source target message]
      (net.taken ⟨source, target, message, due⟩ rest) := by
  have hLink : net.channels.contains ⟨source, target⟩ = true :=
    ChannelTable.contains_of_mem_queue (hQueue ▸ List.mem_cons_self)
  refine ⟨Journal.toList_write .., rfl, UInt64.le_refl _, ?_, List.pairwise_singleton _ _, ?_, rfl,
    fun link => ?_⟩
  · intro event hEvent
    rw [List.mem_singleton.mp hEvent]
    exact ⟨UInt64.le_refl _, UInt64.le_refl _⟩
  · intro event hEvent
    rw [List.mem_singleton.mp hEvent]
    exact True.intro
  · have hAfter : (net.taken ⟨source, target, message, due⟩ rest).channels.queue link =
        if (⟨source, target⟩ : Link) = link then rest else net.channels.queue link :=
      ChannelTable.queue_setQueue hLink rest link
    rw [hAfter]
    by_cases hEqual : (⟨source, target⟩ : Link) = link
    · subst hEqual
      refine ⟨[⟨source, target, message, due⟩], ?_, ?_⟩
      · rw [hQueue, if_pos rfl]
        exact List.append_nil _
      · have hArrived : arrivalsOn ⟨source, target⟩ [.received net.tickNow source target message] =
            [(message, net.tickNow)] := by
          simp [arrivalsOn, Event.arrivalOn?]
        rw [hArrived]
        exact List.Forall₂.cons ⟨rfl, of_decide_eq_true hDue⟩ List.Forall₂.nil
    · refine ⟨[], ?_, ?_⟩
      · rw [if_neg hEqual]
        exact List.append_nil _
      · have hNone : arrivalsOn link [.received net.tickNow source target message] = [] := by
          simp [arrivalsOn, Event.arrivalOn?, hEqual]
        rw [hNone]
        exact List.Forall₂.nil

/-! ### Snapshots -/

theorem tells_withRecording (net : Network) (node : Node) (collector : Collector)
    (recording : Recording) :
    ∃ events, net.Tells events (net.withRecording node collector recording) ∧
      ∀ event ∈ events, event.isArrival = false := by
  unfold withRecording
  split
  · exact ⟨[.snapshotEnded net.tickNow node.name recording.snapshot], tells_singleton rfl
      (fun _ => rfl) (fun _ => rfl) True.intro rfl rfl rfl rfl rfl, by simp [Event.isArrival]⟩
  · exact ⟨[], tells_nil rfl rfl rfl (UInt64.le_refl _) fun _ => rfl, by simp⟩

theorem tells_turnedDown (net : Network) (source target : String) (snapshot : SnapshotId) :
    net.Tells [.markerRejected net.tickNow source target snapshot]
      (net.turnedDown source target snapshot) :=
  tells_singleton rfl (fun _ => rfl) (fun _ => rfl) True.intro rfl rfl rfl rfl rfl

/-- A node that takes part sends markers to its neighbours. -/
theorem tells_takePart {name : String} {node : Node} {snapshot : SnapshotId}
    {collector : Collector} {generator : Generator} {parcels : List Parcel}
    (recording : Recording) (hWired : Wired net.nodes net.channels)
    (hNode : net.nodes.get? name = some node)
    (hTargets : parcels.map Parcel.target = node.outbound.keys)
    (hParcels : ∀ parcel ∈ parcels, parcel.source = name ∧ parcel.message = .marker snapshot)
    (hPunctual : ∀ parcel ∈ parcels, net.Punctual parcel.due) :
    ∃ events, net.Tells events
      ((net.posted generator parcels).withRecording node collector recording) ∧
        ∀ event ∈ events, event.isArrival = false := by
  have hPosted := tells_posted generator (hWired.contains_markers hNode hTargets hParcels) hPunctual
  obtain ⟨later, hLater, hQuiet⟩ :=
    tells_withRecording (net.posted generator parcels) node collector recording
  refine ⟨_, hPosted.trans hLater, fun event hEvent => ?_⟩
  rcases List.mem_append.mp hEvent with hSent | hEnded
  · obtain ⟨parcel, -, rfl⟩ := List.mem_map.mp hSent
    rfl
  · exact hQuiet event hEnded

/-- What a marker does once it has come makes no other message come. -/
theorem MarkerEffect.tells {source target : String} {snapshot : SnapshotId}
    (hEffect : MarkerEffect net source target snapshot after)
    (hWired : Wired net.nodes net.channels) :
    ∃ events, net.Tells events after ∧ ∀ event ∈ events, event.isArrival = false := by
  cases hEffect with
  | late hStale =>
      exact ⟨_, tells_turnedDown net source target snapshot, by simp [Event.isArrival]⟩
  | repeated hCurrent hNode hRecording hSeen =>
      exact ⟨_, tells_turnedDown net source target snapshot, by simp [Event.isArrival]⟩
  | first hNode hFresh hFound hAwaited hTargets hParcels hPunctual =>
      exact tells_takePart _ hWired hNode hTargets hParcels hPunctual
  | next hNode hRecording hUnseen hFound hAwaited => exact tells_withRecording ..

/-! ### Every change and every run -/

/-- Every change tells what it writes. -/
theorem Change.tells {happenings : List Happening} (hChange : Change net happenings after)
    (hWell : net.WellFormed) : ∃ events, net.Tells events after := by
  cases hChange with
  | idle clock generator hStarted hClock => exact ⟨[], tells_nil rfl rfl rfl hClock fun _ => rfl⟩
  | addNode tokens hOpen hNew =>
      exact ⟨[], tells_nil rfl rfl rfl (UInt64.le_refl _) fun _ => rfl⟩
  | addLink hOpen hSource hTarget hDistinct hNew =>
      refine ⟨[], tells_nil rfl rfl rfl (UInt64.le_refl _) fun other => ?_⟩
      exact ChannelTable.queue_insert_ofLink (hWell.wired.not_contains hSource hNew) other
  | @send source target amount node generator due hNode hLink hEnough hPunctual =>
      have hPaid : net.Tells [] (({ net with started := true } : Network).withChanged
          { node with tokens := node.tokens - amount }) :=
        tells_nil rfl rfl rfl (UInt64.le_refl _) fun _ => rfl
      exact ⟨_, hPaid.trans (tells_posted generator (List.forall_mem_singleton.mpr hLink)
        (List.forall_mem_singleton.mpr hPunctual))⟩
  | @announce name next hName hNext =>
      exact ⟨[.snapshotStarted net.tickNow name net.nextSnapshot], tells_singleton rfl
        (fun _ => rfl) (fun _ => rfl) True.intro rfl rfl rfl rfl rfl⟩
  | join hNode hFresh hFound hAwaited hTargets hParcels hPunctual =>
      obtain ⟨events, hTells, -⟩ := tells_takePart _ hWell.wired hNode hTargets hParcels hPunctual
      exact ⟨events, hTells⟩
  | credit hQueue hNode hTokens hDue =>
      refine ⟨_, (tells_taken hQueue hDue).trans (tells_nil rfl rfl rfl ?_ fun _ => rfl)⟩
      exact UInt64.le_refl _
  | marker hQueue hEffect hDue =>
      obtain ⟨later, hLater, -⟩ := hEffect.tells (hWell.popped hQueue).wired
      exact ⟨_, (tells_taken hQueue hDue).trans hLater⟩
  | @notify report collector hFound hAwaited =>
      exact ⟨[.snapshotEnded net.tickNow report.node report.snapshot], tells_singleton rfl
        (fun _ => rfl) (fun _ => rfl) True.intro rfl rfl rfl rfl rfl⟩
  | retire hFound hComplete =>
      exact ⟨[], tells_nil rfl rfl rfl (UInt64.le_refl _) fun _ => rfl⟩
  | abandon snapshots => exact ⟨[], tells_nil rfl rfl rfl (UInt64.le_refl _) fun _ => rfl⟩

/-- Every run tells what it writes. -/
theorem Run.tells {trace : List Happening} (hRun : Run net trace after) (hWell : net.WellFormed) :
    ∃ events, net.Tells events after := by
  induction hRun with
  | start => exact ⟨[], tells_nil rfl rfl rfl (UInt64.le_refl _) fun _ => rfl⟩
  | step hEarlier hStep ih =>
      have hBetween := hEarlier.wellFormed hWell
      obtain ⟨earlier, hTold⟩ := ih
      obtain ⟨later, hTells⟩ := (hStep.change hBetween).tells hBetween
      exact ⟨earlier ++ later, hTold.trans hTells⟩

end Network

end TokenNet
