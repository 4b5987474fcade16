import TokenNet.Proofs.Chronicle
import TokenNet.Proofs.Overflows
import TokenNet.Proofs.Sessions
import TokenNet.Proofs.Settling

namespace TokenNet

/-!
# A tick is decided by its start

In a tick each sender has its turn, in the order of the names, and what is delivered in the turn of
one may put markers on the channels of those that come later.  Such a marker joins its queue behind
everything else and is not due in the same tick.  So what leaves is what would leave if all senders
looked at their channels before the tick (`Network.departures`), and each channel loses no more than
its oldest parcel (`Network.tick_decided`).
-/

/-- The event that tells that a parcel has come. -/
def Parcel.arrivalAt (tick : UInt64) (parcel : Parcel) : Event :=
  .received tick parcel.source parcel.target parcel.message

/-- What comes from a link is told by the events that tell of arrivals. -/
theorem arrivalsOn_filter (link : Link) (events : List Event) :
    arrivalsOn link (events.filter Event.isArrival) = arrivalsOn link events := by
  unfold arrivalsOn
  rw [List.filterMap_filter]
  apply List.filterMap_congr
  intro event _
  cases event <;> rfl

/-- Parcels that have come, by link. -/
theorem length_arrivalsOn_map (link : Link) (tick : UInt64) (parcels : List Parcel) :
    (arrivalsOn link (parcels.map (Parcel.arrivalAt tick))).length =
      parcels.countP fun parcel => parcel.link = link := by
  unfold arrivalsOn
  rw [List.filterMap_map, List.length_filterMap_eq_countP]
  apply List.countP_congr
  intro parcel _
  have hArrival : (parcel.arrivalAt tick).arrivalOn? link =
      if parcel.link = link then some (parcel.message, tick) else none := rfl
  by_cases hLink : parcel.link = link <;> simp [hArrival, hLink]

namespace Network

variable {net between after last : Network} {source : String} {parcel : Parcel}

/-! ### What leaves -/

/-- The parcel that leaves a sender at a tick: the oldest on the first of its channels, in the order
of the receivers, on which the oldest is due. -/
def departure? (net : Network) (tick : Nat) (source : String) : Option Parcel :=
  (net.channels.leaving source).findSome? fun entry =>
    entry.2.head?.filter fun parcel => parcel.due.toNat ≤ tick

/-- What leaves in the next tick, in the order of the senders. -/
def departures (net : Network) : List Parcel :=
  net.nodeNames.filterMap (net.departure? (net.tickNow.toNat + 1))

/-- What a sender takes off its channels is what leaves it. -/
theorem takeDue_eq (net : Network) (source : String) :
    ∃ between, takeDue source net = .done (net.departure? net.tickNow.toNat source) between := by
  have hEntry : ∀ entry : String × Channel,
      ((entry.2.popDue? net.clock).map fun popped =>
        ((⟨source, entry.1⟩, popped) : Link × Parcel × Channel)).map (fun found => found.2.1) =
      entry.2.head?.filter fun parcel => parcel.due.toNat ≤ net.tickNow.toNat := by
    rintro ⟨target, channel⟩
    unfold Channel.head? Channel.popDue?
    cases channel.queue with
    | nil => rfl
    | cons parcel rest =>
        by_cases hDue : net.clock.isDue parcel.due = true
        · have hReached : parcel.due.toNat ≤ net.tickNow.toNat := of_decide_eq_true hDue
          simp [hDue, hReached, Option.filter]
        · have hLate : ¬ parcel.due.toNat ≤ net.tickNow.toNat := fun hReached =>
            hDue (decide_eq_true hReached)
          simp [hDue, hLate, Option.filter]
  have hSame : net.departure? net.tickNow.toNat source =
      (net.firstDue? source).map fun found => found.2.1 := by
    unfold departure? firstDue?
    rw [List.map_findSome?]
    congr 1
    funext entry
    exact (hEntry entry).symm
  unfold takeDue
  rw [hSame]
  cases net.firstDue? source with
  | none => exact ⟨net, rfl⟩
  | some found => exact ⟨_, rfl⟩

/-- What leaves a sender depends on the oldest parcels of its queues that are due. -/
theorem departure?_eq (net : Network) (tick : Nat) (source : String) :
    net.departure? tick source = (net.channels.row source).keys.findSome? fun target =>
      (net.channels.queue ⟨source, target⟩).head?.filter fun parcel => parcel.due.toNat ≤ tick := by
  have hEntries : (net.channels.row source).toList.map (fun entry =>
        entry.2.head?.filter fun parcel => parcel.due.toNat ≤ tick) =
      (net.channels.row source).keys.map (fun target =>
        (net.channels.queue ⟨source, target⟩).head?.filter fun parcel => parcel.due.toNat ≤ tick) := by
    unfold SortedMap.keys
    rw [List.map_map]
    apply List.map_congr_left
    rintro ⟨target, channel⟩ hEntry
    have hFound : net.channels.get? ⟨source, target⟩ = some channel :=
      ChannelTable.mem_leaving_iff.mp hEntry
    simp [ChannelTable.queue_of_get? hFound, Channel.head?]
  have hFirst := congrArg (List.findSome? id) hEntries
  rw [List.findSome?_map, List.findSome?_map] at hFirst
  exact hFirst

/-! ### Turns -/

/-- Some senders have had their turns, in which the given parcels have come, in this order, and what
the events tell besides has been sent. -/
structure Dispatches (net : Network) (parcels : List Parcel) (events : List Event)
    (after : Network) : Prop where
  /-- The events lead from one network to the other. -/
  tells : net.Tells events after
  /-- The events tell that the parcels have come, and nothing else. -/
  arrivals : events.filter Event.isArrival = parcels.map (Parcel.arrivalAt net.tickNow)
  /-- No time passes. -/
  clock_eq : after.clock = net.clock
  /-- No channel is added. -/
  contains_eq : ∀ link, after.channels.contains link = net.channels.contains link

theorem Dispatches.refl (net : Network) : net.Dispatches [] [] net :=
  ⟨tells_nil rfl rfl rfl (UInt64.le_refl _) fun _ => rfl, rfl, rfl, fun _ => rfl⟩

theorem Dispatches.tickNow_eq {parcels : List Parcel} {events : List Event}
    (hDispatches : net.Dispatches parcels events after) : after.tickNow = net.tickNow :=
  congrArg Clock.tick hDispatches.clock_eq

theorem Dispatches.trans {earlier later : List Parcel} {events others : List Event}
    (hEarlier : net.Dispatches earlier events between) (hLater : between.Dispatches later others after) :
    net.Dispatches (earlier ++ later) (events ++ others) after := by
  constructor
  · exact hEarlier.tells.trans hLater.tells
  · rw [List.filter_append, List.map_append, hEarlier.arrivals, hLater.arrivals, hEarlier.tickNow_eq]
  · exact hLater.clock_eq.trans hEarlier.clock_eq
  · exact fun link => (hLater.contains_eq link).trans (hEarlier.contains_eq link)

/-- What is sent is not due in the same tick. -/
theorem Dispatches.lt_due {parcels : List Parcel} {events : List Event} {link : Link}
    (hDispatches : net.Dispatches parcels events after) (hParcel : parcel ∈ parcelsOn link events) :
    net.tickNow < parcel.due := by
  obtain ⟨event, hEvent, hSent⟩ := List.mem_filterMap.mp hParcel
  cases event with
  | sent tick other =>
      obtain ⟨-, rfl⟩ : other.link = link ∧ other = parcel := by
        simpa [Event.parcelOn?] using hSent
      have hPunctual := (hDispatches.tells.punctual _ hEvent).1
      have hNow := UInt64.le_iff_toNat_le.mp (hDispatches.tells.meantime _ hEvent).1
      apply UInt64.lt_iff_toNat_lt.mpr
      have hTick : (Event.sent tick other).tick = tick := rfl
      rw [hTick] at hNow
      omega
  | _ => simp [Event.parcelOn?] at hSent

/-- Each queue loses as many parcels as have come from it, the oldest first, and what is sent joins
it at its end. -/
theorem Dispatches.queue_eq {parcels : List Parcel} {events : List Event}
    (hDispatches : net.Dispatches parcels events after) (link : Link) :
    after.channels.queue link = (net.channels.queue link ++ parcelsOn link events).drop
      (parcels.countP fun parcel => parcel.link = link) := by
  obtain ⟨come, hFlow, hCame⟩ := hDispatches.tells.flow link
  have hLength : come.length = parcels.countP fun parcel => parcel.link = link := by
    rw [hCame.length_eq, ← arrivalsOn_filter, hDispatches.arrivals, length_arrivalsOn_map]
  rw [hFlow, ← hLength, List.drop_left]

/-- What leaves a sender that has not had its turn is what has been waiting to leave it. -/
theorem Dispatches.departure?_eq {parcels : List Parcel} {events : List Event}
    (hDispatches : net.Dispatches parcels events after)
    (hOther : ∀ parcel ∈ parcels, parcel.source ≠ source) :
    after.departure? after.tickNow.toNat source = net.departure? net.tickNow.toNat source := by
  have hKeys : (after.channels.row source).keys = (net.channels.row source).keys := by
    apply SortedMap.keys_eq_of_mem_iff
    intro target
    rw [← SortedMap.contains_iff, ← SortedMap.contains_iff]
    have hLink : (after.channels.row source).contains target =
        (net.channels.row source).contains target := hDispatches.contains_eq ⟨source, target⟩
    rw [hLink]
  rw [Network.departure?_eq, Network.departure?_eq, hKeys, hDispatches.tickNow_eq]
  congr 1
  funext target
  have hNone : (parcels.countP fun parcel => parcel.link = (⟨source, target⟩ : Link)) = 0 := by
    apply List.countP_eq_zero.mpr
    intro parcel hParcel hLink
    exact hOther parcel hParcel (congrArg Link.source (of_decide_eq_true hLink))
  rw [hDispatches.queue_eq, hNone, List.drop_zero]
  cases hQueue : net.channels.queue ⟨source, target⟩ with
  | cons oldest rest => rfl
  | nil =>
      -- What has just been sent is not due yet.
      rw [List.nil_append]
      cases hSent : parcelsOn ⟨source, target⟩ events with
      | nil => rfl
      | cons oldest rest =>
          have hLate := hDispatches.lt_due (hSent ▸ List.mem_cons_self)
          have hLater := UInt64.lt_iff_toNat_lt.mp hLate
          simp [Option.filter]
          omega

theorem MarkerEffect.steady {source target : String} {snapshot : SnapshotId}
    (hEffect : MarkerEffect net source target snapshot after) :
    after.clock = net.clock ∧ ∀ link, after.channels.contains link = net.channels.contains link := by
  cases hEffect with
  | late hStale => exact ⟨rfl, fun _ => rfl⟩
  | repeated hCurrent hNode hRecording hSeen => exact ⟨rfl, fun _ => rfl⟩
  | first hNode hFresh hFound hAwaited hTargets hParcels hPunctual =>
      constructor
      · exact clock_withRecording ..
      · intro link
        rw [channels_withRecording]
        exact ChannelTable.contains_postAll ..
  | next hNode hRecording hUnseen hFound hAwaited =>
      constructor
      · exact clock_withRecording ..
      · exact fun link => by rw [channels_withRecording]

/-- In the turn of a sender that has a parcel that is due, this parcel comes. -/
theorem WellFormed.meets_deliver_dispatches (hWell : net.WellFormed)
    (hTake : takeDue source net = .done (some parcel) between) :
    (deliver parcel between).Meets (fun _ after => ∃ events, net.Dispatches [parcel] events after)
      Never := by
  obtain ⟨rest, -, hQueue, hDue, rfl⟩ := takeDue_eq_done hWell.wired.sound hTake
  have hLink : net.channels.contains parcel.link = true :=
    ChannelTable.contains_of_mem_queue (hQueue ▸ List.mem_cons_self)
  have hKept : (net.popped parcel.link rest).channels.contains parcel.link = true :=
    (ChannelTable.contains_setQueue ..).trans hLink
  have hPopped := hWell.popped hQueue
  have hContains : ∀ link, (net.taken parcel rest).channels.contains link =
      net.channels.contains link := fun link => ChannelTable.contains_setQueue ..
  obtain ⟨source, target, message, due⟩ := parcel
  have hTaken := tells_taken hQueue hDue
  cases message with
  | token amount =>
      apply (meets_deliver_token hPopped.wired hKept).imp
      rintro _ _ ⟨node, tokens, -, -, rfl⟩
      refine ⟨[.received net.tickNow source target (.token amount)] ++ [], ?_, rfl, rfl, hContains⟩
      exact hTaken.trans (tells_nil rfl rfl rfl (UInt64.le_refl _) fun _ => rfl)
  | marker snapshot =>
      apply (meets_deliver_marker hPopped hKept).imp
      intro _ after hEffect
      obtain ⟨events, hTells, hQuiet⟩ := hEffect.tells hPopped.wired
      obtain ⟨hClock, hSame⟩ := hEffect.steady
      refine ⟨_ ++ events, hTaken.trans hTells, ?_, hClock, fun link => ?_⟩
      · have hNone : events.filter Event.isArrival = [] := by simpa using hQuiet
        rw [List.filter_append, hNone]
        rfl
      · exact (hSame link).trans (hContains link)

/-- What leaves a sender leaves one of its channels. -/
theorem source_of_departure? {tick : Nat} (hSound : net.channels.Sound)
    (hDeparture : net.departure? tick source = some parcel) :
    parcel.source = source ∧ ∃ rest, net.channels.queue parcel.link = parcel :: rest := by
  rw [departure?_eq] at hDeparture
  obtain ⟨target, -, hHead⟩ := List.exists_of_findSome?_eq_some hDeparture
  rw [Option.filter_eq_some_iff] at hHead
  obtain ⟨rest, hQueue⟩ := List.head?_eq_some_iff.mp hHead.1
  have hLink : parcel.link = ⟨source, target⟩ :=
    hSound.parcel_link (hQueue ▸ List.mem_cons_self)
  rw [hLink]
  exact ⟨congrArg Link.source hLink, rest, hQueue⟩

/-- What comes in the turns of senders is what has been waiting to leave them. -/
theorem meets_scan_dispatches {names : List String} (hNodup : names.Nodup) (hWell : net.WellFormed) :
    (scan names net).Meets
      (fun result after => result.1 =
          (names.filterMap (net.departure? net.tickNow.toNat)).length ∧
        ∃ events, net.Dispatches (names.filterMap (net.departure? net.tickNow.toNat)) events after)
      Never := by
  induction names generalizing net with
  | nil => exact ⟨rfl, [], Dispatches.refl net⟩
  | cons source rest ih =>
      obtain ⟨hAbsent, hRest⟩ := List.nodup_cons.mp hNodup
      obtain ⟨taken, hTaken⟩ := net.takeDue_eq source
      apply Action.meets_bind (meets_takeDue net source)
      rintro due between ⟨hTake, hSame⟩
      obtain ⟨hDue, -⟩ : due = net.departure? net.tickNow.toNat source ∧ taken = between := by
        simpa [eq_comm] using hTaken.symm.trans hTake
      cases due with
      | none =>
          obtain rfl := hSame rfl
          rw [List.filterMap_cons_none hDue.symm]
          exact ih hRest hWell
      | some parcel =>
          rw [List.filterMap_cons_some hDue.symm]
          have hSource := (source_of_departure? hWell.wired.sound hDue.symm).1
          apply Action.meets_bind ((meets_deliver hWell hTake).and
            (hWell.meets_deliver_dispatches hTake))
          rintro completed delivered ⟨hEvolves, events, hFirst⟩
          -- The turn of this sender makes no difference to what leaves the others.
          have hOthers : rest.filterMap (delivered.departure? delivered.tickNow.toNat) =
              rest.filterMap (net.departure? net.tickNow.toNat) := by
            apply List.filterMap_congr
            intro other hOther
            apply hFirst.departure?_eq
            rintro sent hSent rfl
            cases List.mem_singleton.mp hSent
            exact hAbsent (hSource ▸ hOther)
          apply Action.meets_bind (ih hRest (hEvolves.wellFormed hWell))
          rintro result last ⟨hCount, others, hLater⟩
          rw [hOthers] at hCount hLater
          exact ⟨congrArg Nat.succ hCount, events ++ others, hFirst.trans hLater⟩

/-! ### A tick -/

theorem sources_departures (names : List String) (tick : Nat) (hSound : net.channels.Sound) :
    (names.filterMap (net.departure? tick)).map Parcel.source =
      names.filter fun source => (net.departure? tick source).isSome := by
  induction names with
  | nil => rfl
  | cons source rest ih =>
      cases hDeparture : net.departure? tick source with
      | none => simp [hDeparture, ih]
      | some parcel => simp [hDeparture, ih, (source_of_departure? hSound hDeparture).1]

/-- No more than one parcel leaves in a tick on each link. -/
theorem countP_departures_le (hSound : net.channels.Sound) (link : Link) :
    (net.departures.countP fun parcel => parcel.link = link) ≤ 1 := by
  have hNodup : (net.departures.map Parcel.source).Nodup := by
    unfold departures
    rw [sources_departures _ _ hSound]
    exact net.nodes.nodup_keys.filter _
  calc
    (net.departures.countP fun parcel => parcel.link = link)
      ≤ net.departures.countP fun parcel => parcel.source = link.source := by
        apply List.countP_mono_left
        intro parcel _ hLink
        have hEqual : parcel.link = link := of_decide_eq_true hLink
        exact decide_eq_true (congrArg Link.source hEqual)
    _ = (net.departures.map Parcel.source).count link.source := by
        rw [List.count_eq_countP, List.countP_map]
        rfl
    _ ≤ 1 := List.nodup_iff_count_le_one.mp hNodup link.source

/-- What a tick makes of a network: what has been waiting to leave the senders before the tick comes,
in the order of the senders, and nothing else. -/
structure TurnsTaken (net : Network) (report : TickReport) (events : List Event) (after : Network) :
    Prop where
  /-- One tick has passed. -/
  tick_eq : report.tick.toNat = net.tickNow.toNat + 1
  /-- It is the current tick from now on. -/
  tickNow_eq : after.tickNow = report.tick
  /-- As many parcels are delivered as had been waiting to leave. -/
  deliveries_eq : report.deliveries = net.departures.length
  /-- The events are what has been written. -/
  toList_journal : after.journal.toList = net.journal.toList ++ events
  /-- The journal tells that what had been waiting has come, in this order, and nothing else. -/
  arrivals : events.filter Event.isArrival = net.departures.map (Parcel.arrivalAt report.tick)
  /-- A channel loses its oldest parcel if it has been waiting to leave, and what is sent joins the
  channel at its end. -/
  queue_eq : ∀ link, after.channels.queue link =
    (if link ∈ net.departures.map Parcel.link then (net.channels.queue link).tail
      else net.channels.queue link) ++ parcelsOn link events
  /-- What leaves a channel is its oldest parcel. -/
  oldest : ∀ parcel ∈ net.departures, (net.channels.queue parcel.link).head? = some parcel
  /-- What is sent is not due in the same tick. -/
  lt_due : ∀ link, ∀ parcel ∈ parcelsOn link events, report.tick < parcel.due

/-- A tick is decided by its start. -/
theorem WellFormed.meets_tick_turns (hWell : net.WellFormed) :
    (tick net).Meets (fun report after => ∃ events, net.TurnsTaken report events after) Never := by
  apply Action.meets_bind_of_done rfl
  apply Action.meets_bind (meets_advance _).done_self
  rintro _ _ ⟨hDone, hAdvance⟩
  have hAdvanced := (Step.freeze.run.trans hAdvance.run).wellFormed hWell
  obtain ⟨clock, hClock, rfl⟩ := advance_eq_done hDone
  have hNow : clock.tick.toNat = net.tickNow.toNat + 1 := Clock.toNat_of_advance hClock
  apply Action.meets_bind_of_done rfl
  apply Action.meets_bind (meets_scan_dispatches net.nodes.nodup_keys hAdvanced)
  rintro ⟨deliveries, completed⟩ after ⟨hCount, events, hDispatches⟩
  -- The clock has moved, and nothing else that the turns depend on.
  have hDepartures : net.nodes.keys.filterMap (Network.departure?
      { net with started := true, clock := clock } clock.tick.toNat) = net.departures := by
    unfold departures
    rw [hNow]
    rfl
  have hParcels : Network.Dispatches { net with started := true, clock := clock } net.departures
      events after := hDepartures ▸ hDispatches
  have hOldest : ∀ parcel ∈ net.departures,
      ∃ rest, net.channels.queue parcel.link = parcel :: rest := by
    intro parcel hParcel
    obtain ⟨source, -, hDeparture⟩ := List.mem_filterMap.mp hParcel
    exact (source_of_departure? hWell.wired.sound hDeparture).2
  have hSame : after.tickNow = clock.tick := hParcels.tickNow_eq
  refine ⟨events, ?_, rfl, ?_, hParcels.tells.toList_journal, ?_, fun link => ?_,
    fun parcel hParcel => ?_, fun link parcel hParcel => ?_⟩
  · exact (congrArg UInt64.toNat hSame).trans hNow
  · rw [← hDepartures]
    exact hCount
  · rw [hSame]
    exact hParcels.arrivals
  · have hOnce := countP_departures_le hWell.wired.sound link
    rw [hParcels.queue_eq]
    split
    · rename_i hLink
      obtain ⟨parcel, hParcel, rfl⟩ := List.mem_map.mp hLink
      obtain ⟨rest, hQueue⟩ := hOldest parcel hParcel
      have hSome : 0 < net.departures.countP fun other => other.link = parcel.link :=
        List.countP_pos_iff.mpr ⟨parcel, hParcel, by simp⟩
      have hOne : (net.departures.countP fun other => other.link = parcel.link) = 1 := by omega
      rw [hOne]
      simp [hQueue]
    · rename_i hLink
      have hNone : (net.departures.countP fun other => other.link = link) = 0 := by
        apply List.countP_eq_zero.mpr
        intro parcel hParcel hEqual
        exact hLink (List.mem_map.mpr ⟨parcel, hParcel, of_decide_eq_true hEqual⟩)
      rw [hNone, List.drop_zero]
  · obtain ⟨rest, hQueue⟩ := hOldest parcel hParcel
    rw [hQueue]
    rfl
  · rw [hSame]
    exact hParcels.lt_due hParcel

/-! ### Every tick -/

/-- Whatever has been asked of a network, reports from outside included, a tick is decided by its
start: it delivers what has been waiting to leave the senders, in their order, unless a sum does not
fit. -/
theorem tick_decided {config : Config} {requests : List Request} {responses : List Response}
    (hBuilt : ofConfig config = .ok net)
    (hSession : net.session requests = .ok (responses, last)) :
    (∃ report events after, tick last = .done report after ∧ last.TurnsTaken report events after) ∨
      tick last = .faulted .overflow ∧
        (UInt64.size ≤ last.tickNow.toNat + 1 + max 1 last.maxDelay.toNat ∨
          UInt64.size ≤ last.wealth) := by
  have hAttained := (Attained.of_fresh (fresh_ofConfig hBuilt)).session hSession
  have hMeets := hAttained.wellFormed.meets_tick_turns
  cases hTick : tick last with
  | done report after =>
      obtain ⟨events, hTurns⟩ := hMeets.of_done hTick
      exact Or.inl ⟨report, events, after, rfl, hTurns⟩
  | refused error after => exact (hMeets.of_refused hTick).elim
  | faulted fault =>
      obtain ⟨rfl, hCause⟩ := hAttained.overflows_tick Or.inl Or.inr fault hTick
      exact Or.inr ⟨rfl, hCause⟩

/-- Requests that leave a marker and tokens under way in opposite directions, both due in the next
tick; one report is forged. -/
def crossingRequests : List Request :=
  [.call (.addNode "C" 2), .call (.addLink "B" "C"), .script [.send "B" "A" 1],
    .call (.send "B" "A" 2), .call .tick, .call (.startSnapshot "A"), .call (.notify ⟨0, "C", 2, []⟩),
    .call .tick]

/-- In the next tick the marker makes the second node send two more before its turn, and what leaves
that node in its turn are the tokens all the same. -/
theorem tick_decided_crossing :
    ∃ net responses last report events after, ofConfig pairConfig = .ok net ∧
      net.session crossingRequests = .ok (responses, last) ∧ tick last = .done report after ∧
      last.departures = [⟨"A", "B", .marker 0, 7⟩, ⟨"B", "A", .token 2, 7⟩] ∧
      after.channels.queue ⟨"B", "A"⟩ = [⟨"B", "A", .marker 0, 8⟩] ∧
      last.TurnsTaken report events after := by
  have hPerforms : (performed? pairConfig crossingRequests).any (fun outcome =>
      decide (outcome.2.2.departures = [⟨"A", "B", .marker 0, 7⟩, ⟨"B", "A", .token 2, 7⟩]) &&
      decide ((tick outcome.2.2).done?.map (fun passed =>
        passed.2.channels.queue ⟨"B", "A"⟩) = some [⟨"B", "A", .marker 0, 8⟩])) = true := by
    decide +kernel
  obtain ⟨net, responses, last, hBuilt, hSession, hBoth⟩ := exists_of_performed? hPerforms
  rw [Bool.and_eq_true, decide_eq_true_eq, decide_eq_true_eq] at hBoth
  obtain ⟨hDepartures, hAfter⟩ := hBoth
  rcases tick_decided hBuilt hSession with ⟨report, events, after, hTick, hTurns⟩ | ⟨hFault, -⟩
  · rw [hTick] at hAfter
    exact ⟨net, responses, last, report, events, after, hBuilt, hSession, hTick, hDepartures,
      Option.some.inj hAfter, hTurns⟩
  · rw [hFault] at hAfter
    cases hAfter

end Network
end TokenNet
