import Mathlib.Algebra.BigOperators.Group.Finset.Piecewise
import TokenNet.Proofs.Courses
import TokenNet.Proofs.Frames
import TokenNet.Proofs.Progress
import TokenNet.Scenario.Run

namespace TokenNet

/-!
# Coming to rest

The burden of a network counts the parcels under way and the markers that are still to be sent for
outstanding snapshots.  Each delivery makes it smaller (`Network.WellFormed.burden_of_deliver`), because
a node that takes part sends markers that had been counted before.  What is under way becomes due within
the longest delay (`Network.Orderly`), so there is a delivery within as many ticks.  Hence the number of
ticks that a script waits at most, `Network.settleBound`, is never reached while a snapshot is
outstanding (`Scenario.meets_settle_within`).
-/

namespace Network

variable {net after : Network}

/-! ### Links and due ticks -/

/-- The links are listed once each, and what is under way becomes due within the longest delay. -/
structure Orderly (net : Network) : Prop where
  /-- No link is listed twice. -/
  nodup_links : net.links.toList.Nodup
  /-- The links are those that have a channel. -/
  mem_links_iff : ∀ {link}, link ∈ net.links.toList ↔ net.channels.contains link = true
  /-- What is under way becomes due in time. -/
  prompt : ∀ {link parcel}, parcel ∈ net.channels.queue link →
    parcel.due.toNat ≤ net.tickNow.toNat + max 1 net.maxDelay.toNat

/-- Whether a network is orderly depends on its links, channels, clock and bound on delays. -/
theorem Orderly.congr (hOrderly : net.Orderly) (hLinks : after.links = net.links)
    (hChannels : after.channels = net.channels) (hClock : net.clock.tick ≤ after.clock.tick)
    (hMaxDelay : after.maxDelay = net.maxDelay) : after.Orderly := by
  refine ⟨hLinks ▸ hOrderly.nodup_links, ?_, fun {link parcel} hParcel => ?_⟩
  · rw [hLinks, hChannels]
    exact hOrderly.mem_links_iff
  · rw [hChannels] at hParcel
    rw [hMaxDelay]
    exact Nat.le_trans (hOrderly.prompt hParcel) (Nat.add_le_add_right hClock _)

theorem Orderly.withRecording (hOrderly : net.Orderly) (node : Node) (collector : Collector)
    (recording : Recording) : (net.withRecording node collector recording).Orderly := by
  refine hOrderly.congr ?_ (channels_withRecording ..) ?_ ?_
  · unfold Network.withRecording
    split <;> rfl
  · unfold Network.withRecording
    split <;> exact UInt64.le_refl _
  · unfold Network.withRecording
    split <;> rfl

theorem Orderly.posted {parcels : List Parcel} (hOrderly : net.Orderly) (generator : Generator)
    (hLinks : ∀ parcel ∈ parcels, net.channels.contains parcel.link = true)
    (hPunctual : ∀ parcel ∈ parcels, net.Punctual parcel.due) :
    (net.posted generator parcels).Orderly := by
  refine ⟨hOrderly.nodup_links, fun {link} => ?_, fun {link parcel} hParcel => ?_⟩
  · exact hOrderly.mem_links_iff.trans (by rw [show (net.posted generator parcels).channels =
      net.channels.postAll parcels from rfl, ChannelTable.contains_postAll])
  · replace hParcel : parcel ∈ (net.channels.postAll parcels).queue link := hParcel
    rw [ChannelTable.queue_postAll hLinks, List.mem_append] at hParcel
    rcases hParcel with hOld | hNew
    · exact hOrderly.prompt hOld
    · exact (hPunctual parcel (List.mem_of_mem_filter hNew)).2

theorem Orderly.taken (hOrderly : net.Orderly) (parcel : Parcel) {rest : List Parcel}
    (hQueue : net.channels.queue parcel.link = parcel :: rest) : (net.taken parcel rest).Orderly := by
  have hLink : net.channels.contains parcel.link = true :=
    ChannelTable.contains_of_mem_queue (hQueue ▸ List.mem_cons_self)
  refine ⟨hOrderly.nodup_links, fun {link} => ?_, fun {link other} hOther => ?_⟩
  · exact hOrderly.mem_links_iff.trans (by rw [show (net.taken parcel rest).channels =
      net.channels.setQueue parcel.link rest from rfl, ChannelTable.contains_setQueue])
  · replace hOther : other ∈ (net.channels.setQueue parcel.link rest).queue link := hOther
    rw [ChannelTable.queue_setQueue hLink] at hOther
    split at hOther
    · exact hOrderly.prompt (hQueue ▸ List.mem_cons_of_mem _ hOther)
    · exact hOrderly.prompt hOther

theorem Orderly.connect {link : Link} {source target : Node} (hOrderly : net.Orderly)
    (hNew : ¬ net.channels.contains link = true) : (net.connect link source target).Orderly := by
  have hLinks : (net.connect link source target).links.toList = net.links.toList ++ [link] :=
    Array.toList_push
  refine ⟨?_, fun {other} => ?_, fun {other parcel} hParcel => ?_⟩
  · rw [hLinks]
    refine List.nodup_append.mpr ⟨hOrderly.nodup_links, List.nodup_singleton link, ?_⟩
    rintro other hOther _ hLink rfl
    rw [List.mem_singleton.mp hLink] at hOther
    exact hNew (hOrderly.mem_links_iff.mp hOther)
  · rw [hLinks, List.mem_append, List.mem_singleton, hOrderly.mem_links_iff]
    show _ ↔ (net.channels.insert link (Channel.ofLink link)).contains other = true
    rw [ChannelTable.contains_insert, or_comm, @eq_comm _ other link]
  · replace hParcel : parcel ∈ (net.channels.insert link (Channel.ofLink link)).queue other := hParcel
    rw [ChannelTable.queue_insert_ofLink hNew] at hParcel
    exact hOrderly.prompt hParcel

theorem MarkerEffect.orderly {source target : String} {snapshot : SnapshotId}
    (hEffect : MarkerEffect net source target snapshot after) (hWired : Wired net.nodes net.channels)
    (hOrderly : net.Orderly) : after.Orderly := by
  cases hEffect with
  | late hStale => exact hOrderly.congr rfl rfl (UInt64.le_refl _) rfl
  | repeated hCurrent hNode hRecording hSeen => exact hOrderly.congr rfl rfl (UInt64.le_refl _) rfl
  | first hNode hFresh hFound hAwaited hTargets hParcels hPunctual =>
      exact (hOrderly.posted _ (hWired.contains_markers hNode hTargets hParcels)
        hPunctual).withRecording ..
  | next hNode hRecording hUnseen hFound hAwaited => exact hOrderly.withRecording ..

theorem Change.orderly {happenings : List Happening} (hChange : Change net happenings after)
    (hWell : net.WellFormed) (hOrderly : net.Orderly) : after.Orderly := by
  cases hChange with
  | idle clock generator hStarted hClock => exact hOrderly.congr rfl rfl hClock rfl
  | addNode tokens hOpen hNew => exact hOrderly.congr rfl rfl (UInt64.le_refl _) rfl
  | addLink hOpen hSource hTarget hDistinct hNew =>
      exact hOrderly.connect (hWell.wired.not_contains hSource hNew)
  | send generator due hNode hLink hEnough hPunctual =>
      refine Orderly.posted ?_ generator ?_ ?_
      · exact hOrderly.congr rfl rfl (UInt64.le_refl _) rfl
      · rintro parcel hParcel
        rw [List.mem_singleton.mp hParcel]
        exact hLink
      · rintro parcel hParcel
        rw [List.mem_singleton.mp hParcel]
        exact hPunctual
  | announce hName hNext => exact hOrderly.congr rfl rfl (UInt64.le_refl _) rfl
  | join hNode hFresh hFound hAwaited hTargets hParcels hPunctual =>
      exact (hOrderly.posted _ (hWell.wired.contains_markers hNode hTargets hParcels)
        hPunctual).withRecording ..
  | credit hQueue hNode hTokens hDue =>
      exact (hOrderly.taken ⟨_, _, _, _⟩ hQueue).congr rfl rfl (UInt64.le_refl _) rfl
  | marker hQueue hEffect hDue =>
      exact hEffect.orderly ((hWell.popped hQueue).logged _).wired
        (hOrderly.taken ⟨_, _, _, _⟩ hQueue)
  | notify hFound hAwaited => exact hOrderly.congr rfl rfl (UInt64.le_refl _) rfl
  | retire hFound hComplete => exact hOrderly.congr rfl rfl (UInt64.le_refl _) rfl
  | abandon snapshots => exact hOrderly.congr rfl rfl (UInt64.le_refl _) rfl

theorem Run.orderly {trace : List Happening} (hRun : Run net trace after) (hWell : net.WellFormed)
    (hOrderly : net.Orderly) : after.Orderly := by
  induction hRun with
  | start => exact hOrderly
  | step hEarlier hStep ih =>
      have hBetween := hEarlier.wellFormed hWell
      exact (hStep.change hBetween).orderly hBetween ih

theorem orderly_empty (seed maxDelay : UInt64) : (Network.empty seed maxDelay).Orderly := by
  have hFresh := fresh_empty seed maxDelay
  refine ⟨List.nodup_nil, fun {link} => ⟨fun hNone => absurd hNone List.not_mem_nil, fun hLink => ?_⟩,
    fun {link parcel} hParcel => ?_⟩
  · obtain ⟨channel, hFound⟩ := ChannelTable.contains_iff.mp hLink
    exact nomatch (ChannelTable.get?_empty link).symm.trans hFound
  · rw [hFresh.queue_eq_nil] at hParcel
    exact absurd hParcel List.not_mem_nil

theorem orderly_ofConfig {config : Config} (hBuilt : ofConfig config = .ok net) : net.Orderly := by
  obtain ⟨trace, hRun, -⟩ := course_ofConfig hBuilt
  exact hRun.orderly (fresh_empty _ _).wellFormed (orderly_empty _ _)

/-! ### What is under way -/

/-- Every parcel is on one of different links. -/
theorem sum_length_filter {links : List Link} (hNodup : links.Nodup) {parcels : List Parcel}
    (hLinks : ∀ parcel ∈ parcels, parcel.link ∈ links) :
    (links.map fun link => (parcels.filter fun parcel => parcel.link = link).length).sum =
      parcels.length := by
  induction parcels with
  | nil => simp
  | cons parcel rest ih =>
      have hRest := ih fun other hOther => hLinks other (List.mem_cons_of_mem _ hOther)
      have hSplit : ∀ link, ((parcel :: rest).filter fun other => other.link = link).length =
          (if link = parcel.link then 1 else 0) +
            (rest.filter fun other => other.link = link).length := by
        intro link
        rw [List.filter_cons]
        by_cases hEqual : parcel.link = link
        · simp [hEqual, Nat.add_comm]
        · simp [hEqual, Ne.symm hEqual]
      have hOne : (links.map fun link => if link = parcel.link then 1 else 0).sum = 1 := by
        rw [← List.sum_toFinset _ hNodup, Finset.sum_ite_eq',
          if_pos (List.mem_toFinset.mpr (hLinks parcel List.mem_cons_self))]
      rw [List.map_congr_left fun link _ => hSplit link, List.sum_map_add, hOne, hRest,
        List.length_cons, Nat.add_comm]

/-- What is under way, summed up over the links. -/
theorem Orderly.pending_eq (hOrderly : net.Orderly) :
    net.pending = (net.links.toList.map fun link => (net.channels.queue link).length).sum := by
  rw [Network.pending_eq, List.length_flatMap]
  refine sum_map_eq_of_support net.channels.nodup_links hOrderly.nodup_links fun link _ => ?_
  rw [ChannelTable.mem_links_iff, hOrderly.mem_links_iff]

/-- If every queue of one network is one of another with some of the parcels behind it, there are so
many parcels more. -/
theorem Orderly.pending_add (hOrderly : net.Orderly) (hAfter : after.Orderly) (parcels : List Parcel)
    (hLinks : after.links = net.links) (hParcels : ∀ parcel ∈ parcels, parcel.link ∈ net.links.toList)
    (hQueues : ∀ link, (after.channels.queue link).length = (net.channels.queue link).length +
      (parcels.filter fun parcel => parcel.link = link).length) :
    after.pending = net.pending + parcels.length := by
  rw [hAfter.pending_eq, hOrderly.pending_eq, hLinks,
    ← sum_length_filter hOrderly.nodup_links hParcels, ← List.sum_map_add]
  exact congrArg List.sum (List.map_congr_left fun link _ => hQueues link)

/-- A parcel that has left its channel is not under way any more. -/
theorem Orderly.pending_taken (hOrderly : net.Orderly) (parcel : Parcel) {rest : List Parcel}
    (hQueue : net.channels.queue parcel.link = parcel :: rest) :
    (net.taken parcel rest).pending + 1 = net.pending := by
  have hLink : net.channels.contains parcel.link = true :=
    ChannelTable.contains_of_mem_queue (hQueue ▸ List.mem_cons_self)
  refine ((hOrderly.taken parcel hQueue).pending_add hOrderly [parcel] rfl ?_ fun link => ?_).symm
  · intro other hOther
    rw [List.mem_singleton.mp hOther]
    exact hOrderly.mem_links_iff.mpr hLink
  · show _ = ((net.channels.setQueue parcel.link rest).queue link).length + _
    rw [ChannelTable.queue_setQueue hLink, List.filter_singleton]
    by_cases hEqual : parcel.link = link
    · simp [← hEqual, hQueue]
    · simp [hEqual]

theorem Orderly.pending_posted {parcels : List Parcel} (hOrderly : net.Orderly)
    (generator : Generator)
    (hLinks : ∀ parcel ∈ parcels, net.channels.contains parcel.link = true)
    (hPunctual : ∀ parcel ∈ parcels, net.Punctual parcel.due) :
    (net.posted generator parcels).pending = net.pending + parcels.length := by
  refine hOrderly.pending_add (hOrderly.posted generator hLinks hPunctual) parcels rfl
    (fun parcel hParcel => hOrderly.mem_links_iff.mpr (hLinks parcel hParcel)) fun link => ?_
  show ((net.channels.postAll parcels).queue link).length = _
  rw [ChannelTable.queue_postAll hLinks, List.length_append]

/-! ### Markers still to be sent -/

/-- The markers that may still be sent: those of outstanding snapshots on the links of nodes that do
not take part yet. -/
def unsent (net : Network) : List (SnapshotId × Link) :=
  (net.collectors.filter fun _ collector => !collector.isComplete).toList.flatMap fun entry =>
    (net.links.toList.filter fun link => !net.hasBegun entry.2 link.source).map fun link =>
      (entry.1, link)

theorem unsentMarkers_eq (net : Network) : net.unsentMarkers = net.unsent.length := by
  unfold unsentMarkers unsent SortedMap.values
  rw [List.map_map, List.length_flatMap, List.sum_eq_foldr]
  simp only [List.length_map]
  rfl

/-- A node has begun once it takes part. -/
theorem WellFormed.hasBegun_eq {id : SnapshotId} {collector : Collector} (hWell : net.WellFormed)
    (hFound : net.collectors.get? id = some collector) (name : String) :
    net.hasBegun collector name = (net.part? id name).isSome := by
  have hReport := report?_of_get? hFound name
  unfold hasBegun Collector.hasReported SortedMap.contains
  rw [(hWell.collected.sound hFound).snapshot_eq]
  cases hReported : collector.reported.get? name with
  | some report =>
      rw [part?_of_report? (hReport.trans hReported)]
      rfl
  | none =>
      rw [part?_of_recording? (hReport.trans hReported), Option.isSome_map]
      unfold recording?
      cases net.nodes.get? name <;> rfl

theorem WellFormed.mem_unsent_iff {id : SnapshotId} {link : Link} (hWell : net.WellFormed) :
    (id, link) ∈ net.unsent ↔
      id ∈ net.outstanding ∧ link ∈ net.links.toList ∧ net.part? id link.source = none := by
  have hEntry : ∀ {entry : SnapshotId × Collector},
      entry ∈ (net.collectors.filter fun _ collector => !collector.isComplete).toList ↔
        net.collectors.get? entry.1 = some entry.2 ∧ entry.2.isComplete = false := by
    intro entry
    rw [← SortedMap.get?_eq_some_iff, SortedMap.get?_filter, Option.filter_eq_some_iff,
      Bool.not_eq_true']
  unfold unsent
  rw [List.mem_flatMap, mem_outstanding_iff]
  constructor
  · rintro ⟨⟨other, collector⟩, hMember, hLink⟩
    obtain ⟨hFound, hOpen⟩ := hEntry.mp hMember
    obtain ⟨found, hKept, hSame⟩ := List.mem_map.mp hLink
    cases hSame
    obtain ⟨hListed, hIdle⟩ := List.mem_filter.mp hKept
    rw [hWell.hasBegun_eq hFound, Bool.not_eq_true', Option.isSome_eq_false_iff,
      Option.isNone_iff_eq_none] at hIdle
    exact ⟨⟨collector, hFound, hOpen⟩, hListed, hIdle⟩
  · rintro ⟨⟨collector, hFound, hOpen⟩, hListed, hIdle⟩
    refine ⟨(id, collector), hEntry.mpr ⟨hFound, hOpen⟩, List.mem_map.mpr ⟨link, ?_, rfl⟩⟩
    refine List.mem_filter.mpr ⟨hListed, ?_⟩
    rw [hWell.hasBegun_eq hFound, hIdle]
    rfl

theorem Orderly.nodup_unsent (hOrderly : net.Orderly) : net.unsent.Nodup := by
  refine List.nodup_flatMap.mpr ⟨fun entry _ => ?_, ?_⟩
  · exact (hOrderly.nodup_links.filter _).map fun left right hEqual => congrArg Prod.snd hEqual
  · refine (List.pairwise_map.mp (SortedMap.nodup_keys _)).imp fun {entry other} hDifferent => ?_
    rintro pair hFirst hSecond
    obtain ⟨link, -, rfl⟩ := List.mem_map.mp hFirst
    obtain ⟨final, -, hEqual⟩ := List.mem_map.mp hSecond
    exact hDifferent (congrArg Prod.fst hEqual).symm

/-- What needs no call of its own makes no snapshot outstanding. -/
theorem Step.outstanding_subset {happenings : List Happening} (hStep : Step net happenings after)
    (hWell : net.WellFormed) (hInner : Inner happenings) {id : SnapshotId}
    (hOutstanding : id ∈ after.outstanding) : id ∈ net.outstanding := by
  have hChange := hStep.change hWell
  obtain ⟨collector, hFound, hOpen⟩ := mem_outstanding_iff.mp hOutstanding
  have hStarted : id < net.nextSnapshot := by
    rw [← hChange.nextSnapshot_eq hInner]
    exact (hChange.wellFormed hWell).collected.started_iff.mpr
      (Or.inl (SortedMap.mem_keys_of_get? hFound))
  -- What is complete stays as it is.
  have hOnce : ∀ {earlier}, net.collectorOf? ⟨id⟩ = some earlier → earlier.isComplete = false := by
    intro earlier hEarlier
    refine Bool.eq_false_iff.mpr fun hComplete => ?_
    have hKept := hChange.collectorOf?_of_complete hWell hComplete hEarlier
    cases hKept.symm.trans (collectorOf?_of_get? hFound)
    exact Bool.false_ne_true (hOpen.symm.trans hComplete)
  cases hUsed : net.collectors.get? id with
  | some earlier =>
      exact mem_outstanding_iff.mpr ⟨earlier, hUsed, hOnce (collectorOf?_of_get? hUsed)⟩
  | none =>
      obtain ⟨earlier, hRetired⟩ := hWell.collected.exists_retired hStarted hUsed
      have hComplete := (hWell.collected.retired_sound hRetired).2.1
      exact absurd hComplete
        (Bool.eq_false_iff.mp (hOnce (collectorOf?_of_retired hUsed hRetired)))

theorem Evolves.outstanding_subset (hEvolves : net.Evolves after) (hWell : net.WellFormed)
    {id : SnapshotId} (hOutstanding : id ∈ after.outstanding) : id ∈ net.outstanding := by
  obtain ⟨trace, hRun, hInner⟩ := hEvolves
  induction hRun with
  | start => exact hOutstanding
  | step hEarlier hStep ih =>
      obtain ⟨hBefore, hNow⟩ := inner_append.mp hInner
      exact ih (hStep.outstanding_subset (hEarlier.wellFormed hWell) hNow hOutstanding) hBefore

/-- What needs no call of its own leaves no more markers to be sent. -/
theorem Step.unsent_subset {happenings : List Happening} (hStep : Step net happenings after)
    (hWell : net.WellFormed) (hInner : Inner happenings) (hLinks : after.links = net.links) :
    ∀ entry ∈ after.unsent, entry ∈ net.unsent := by
  rintro ⟨id, link⟩ hEntry
  have hChange := hStep.change hWell
  obtain ⟨hOutstanding, hListed, hIdle⟩ := (hChange.wellFormed hWell).mem_unsent_iff.mp hEntry
  refine hWell.mem_unsent_iff.mpr ⟨hStep.outstanding_subset hWell hInner hOutstanding,
    hLinks ▸ hListed, Option.not_isSome_iff_eq_none.mp fun hJoined => ?_⟩
  have hCut : Cut.Step id (net.cut id) happenings (after.cut id) :=
    hChange.cut hWell hInner.honest
  have hKept := hCut.isSome_part hJoined
  exact Option.not_isSome_iff_eq_none.mpr hIdle hKept

/-! ### The burden -/

/-- The parcels under way and the markers that may still be sent. -/
def burden (net : Network) : Nat := net.pending + net.unsent.length

theorem settleBound_eq (net : Network) :
    net.settleBound = net.burden * max 1 net.maxDelay.toNat := by
  unfold settleBound burden
  rw [unsentMarkers_eq]

/-- A parcel that leaves lightens the burden, if the markers that it makes a node send had been
counted. -/
theorem burden_lt (entries : List (SnapshotId × Link)) (hAfter : after.Orderly)
    (hSubset : ∀ entry ∈ after.unsent, entry ∈ net.unsent)
    (hPending : after.pending + 1 = net.pending + entries.length) (hNodup : entries.Nodup)
    (hEntries : ∀ entry ∈ entries, entry ∈ net.unsent ∧ entry ∉ after.unsent) :
    after.burden < net.burden := by
  have hApart : (after.unsent ++ entries).Nodup := by
    refine List.nodup_append.mpr ⟨hAfter.nodup_unsent, hNodup, ?_⟩
    rintro entry hStill _ hSent rfl
    exact (hEntries entry hSent).2 hStill
  have hCount : (after.unsent ++ entries).length ≤ net.unsent.length :=
    (List.subperm_of_subset hApart fun entry hEntry => (List.mem_append.mp hEntry).elim
      (hSubset entry) fun hSent => (hEntries entry hSent).1).length_le
  rw [List.length_append] at hCount
  unfold burden
  omega

theorem pending_withRecording (node : Node) (collector : Collector) (recording : Recording) :
    (net.withRecording node collector recording).pending = net.pending := by
  unfold pending
  rw [channels_withRecording]

theorem clock_withRecording (node : Node) (collector : Collector) (recording : Recording) :
    (net.withRecording node collector recording).clock = net.clock := by
  unfold withRecording
  split <;> rfl

/-- A node that a marker makes take part sends the markers that had been counted for it. -/
theorem WellFormed.burden_of_first {source target : String} {id : SnapshotId} {due : UInt64}
    {rest : List Parcel} {node : Node} {collector : Collector} {generator : Generator}
    {parcels : List Parcel} (hWell : net.WellFormed) (hOrderly : net.Orderly)
    (hQueue : net.channels.queue ⟨source, target⟩ = ⟨source, target, .marker id, due⟩ :: rest)
    (hNode : net.nodes.get? target = some node) (hFresh : node.recordings.get? id = none)
    (hFound : net.collectors.get? id = some collector)
    (hAwaited : target ∈ collector.remaining.keys)
    (hTargets : parcels.map Parcel.target = node.outbound.keys)
    (hParcels : ∀ parcel ∈ parcels, parcel.source = target ∧ parcel.message = .marker id)
    (hPunctual : ∀ parcel ∈ parcels, net.Punctual parcel.due)
    (hAfter : after = (((net.taken ⟨source, target, .marker id, due⟩ rest).posted generator
      parcels).withRecording node collector (node.freshRecording id (some source))))
    (hAfterWell : after.WellFormed) (hAfterOrderly : after.Orderly)
    (hSubset : ∀ entry ∈ after.unsent, entry ∈ net.unsent) : after.burden < net.burden := by
  have hTaken := hOrderly.taken ⟨source, target, .marker id, due⟩ hQueue
  have hLinks : ∀ parcel ∈ parcels, net.channels.contains parcel.link = true :=
    hWell.wired.contains_markers hNode hTargets hParcels
  have hOpen : collector.isComplete = false := Bool.eq_false_iff.mpr fun hComplete => by
    rw [Collector.isComplete_iff.mp hComplete] at hAwaited
    exact List.not_mem_nil hAwaited
  have hUnreported := hWell.not_mem_reported hFound hAwaited
  have hIdle := part?_eq_none_of_fresh hNode hFresh hFound hUnreported
  have hJoined : (after.part? id target).isSome = true := by
    rw [hAfter]
    exact (hWell.cut_first hQueue hNode hFresh hFound hAwaited hTargets hParcels).joined.2.1
  refine burden_lt (parcels.map fun parcel => (id, parcel.link)) hAfterOrderly hSubset ?_ ?_ ?_
  · rw [hAfter, pending_withRecording, hTaken.pending_posted generator ?_ hPunctual,
      List.length_map, ← hOrderly.pending_taken ⟨source, target, .marker id, due⟩ hQueue]
    · omega
    · intro parcel hParcel
      exact (ChannelTable.contains_setQueue ..).trans (hLinks parcel hParcel)
  · refine List.Nodup.of_map (fun entry : SnapshotId × Link => entry.2.target) ?_
    rw [List.map_map]
    show (parcels.map Parcel.target).Nodup
    rw [hTargets]
    exact node.outbound.nodup_keys
  · intro entry hEntry
    obtain ⟨parcel, hParcel, rfl⟩ := List.mem_map.mp hEntry
    have hSource : parcel.link.source = target := (hParcels parcel hParcel).1
    refine ⟨hWell.mem_unsent_iff.mpr ⟨mem_outstanding_iff.mpr ⟨collector, hFound, hOpen⟩,
      hOrderly.mem_links_iff.mpr (hLinks parcel hParcel), hSource ▸ hIdle⟩, fun hStill => ?_⟩
    have hNone := (hAfterWell.mem_unsent_iff.mp hStill).2.2
    rw [hSource] at hNone
    exact Option.not_isSome_iff_eq_none.mpr hNone hJoined

/-- Every delivery lightens the burden. -/
theorem WellFormed.burden_of_deliver {between : Network} {source : String} {parcel : Parcel}
    {completed : List SnapshotId} (hWell : net.WellFormed) (hOrderly : net.Orderly)
    (hTake : takeDue source net = .done (some parcel) between)
    (hDeliver : deliver parcel between = .done completed after) :
    after.clock = net.clock ∧ after.burden < net.burden := by
  have hStep := Step.deliver hTake hDeliver
  have hRetains := (keeps_deliver parcel between).of_done hDeliver
  obtain ⟨rest, -, hQueue, -, rfl⟩ := takeDue_eq_done hWell.wired.sound hTake
  have hLink : net.channels.contains parcel.link = true :=
    ChannelTable.contains_of_mem_queue (hQueue ▸ List.mem_cons_self)
  have hKept : (net.popped parcel.link rest).channels.contains parcel.link = true :=
    (ChannelTable.contains_setQueue ..).trans hLink
  have hAfterWell := (hStep.change hWell).wellFormed hWell
  have hAfter := (hStep.change hWell).orderly hWell hOrderly
  have hSubset := hStep.unsent_subset hWell (inner_arrival _ parcel) hRetains.links_eq
  have hPlain : after.pending = (net.taken parcel rest).pending → after.burden < net.burden := by
    intro hSame
    refine burden_lt [] hAfter hSubset ?_ List.nodup_nil
      fun _ hNone => absurd hNone List.not_mem_nil
    rw [hSame]
    exact hOrderly.pending_taken parcel hQueue
  obtain ⟨source, target, message, due⟩ := parcel
  cases message with
  | token amount =>
      obtain ⟨node, tokens, -, -, rfl⟩ :=
        (meets_deliver_token (hWell.popped hQueue).wired hKept).of_done hDeliver
      exact ⟨rfl, hPlain rfl⟩
  | marker id =>
      have hEffect : MarkerEffect (net.taken ⟨source, target, .marker id, due⟩ rest) source target
          id after := (meets_deliver_marker (hWell.popped hQueue) hKept).of_done hDeliver
      have hClock : after.clock = net.clock := by
        cases hEffect <;> first | rfl | exact clock_withRecording ..
      refine ⟨hClock, ?_⟩
      cases hEffect with
      | late hStale => exact hPlain rfl
      | repeated hCurrent hNode hRecording hSeen => exact hPlain rfl
      | first hNode hFresh hFound hAwaited hTargets hParcels hPunctual =>
          exact hWell.burden_of_first hOrderly hQueue hNode hFresh hFound hAwaited hTargets hParcels
            hPunctual rfl hAfterWell hAfter hSubset
      | next hNode hRecording hUnseen hFound hAwaited => exact hPlain (pending_withRecording ..)

/-! ### Ticks -/

theorem Evolves.orderly (hEvolves : net.Evolves after) (hWell : net.WellFormed)
    (hOrderly : net.Orderly) : after.Orderly := by
  obtain ⟨trace, hRun, -⟩ := hEvolves
  exact hRun.orderly hWell hOrderly

theorem Leads.orderly {tokens : Nat} (hLeads : net.Leads tokens after) (hWell : net.WellFormed)
    (hOrderly : net.Orderly) : after.Orderly := by
  obtain ⟨trace, hRun, -⟩ := hLeads
  exact hRun.orderly hWell hOrderly

/-- A scan lightens the burden by what it delivers at least, and if it delivers nothing, nothing was
due. -/
theorem meets_scan_burden {names : List String} (hWell : net.WellFormed) (hOrderly : net.Orderly) :
    (scan names net).Meets
      (fun result after => after.clock = net.clock ∧ after.burden + result.1 ≤ net.burden ∧
        (result.1 = 0 → after = net ∧ ∀ source ∈ names, net.firstDue? source = none)) Never := by
  induction names generalizing net with
  | nil => exact ⟨rfl, Nat.le_refl _, fun _ => ⟨rfl, fun _ hNone => absurd hNone List.not_mem_nil⟩⟩
  | cons source rest ih =>
      apply Action.meets_bind (meets_takeDue net source)
      rintro due between ⟨hTake, hSame⟩
      cases due with
      | none =>
          obtain rfl := hSame rfl
          refine (ih hWell hOrderly).imp ?_
          rintro result after ⟨hClock, hBurden, hNothing⟩
          refine ⟨hClock, hBurden, fun hZero => ?_⟩
          obtain ⟨hStill, hRest⟩ := hNothing hZero
          exact ⟨hStill, List.forall_mem_cons.mpr ⟨firstDue?_eq_none hTake, hRest⟩⟩
      | some parcel =>
          apply Action.meets_bind (meets_deliver hWell hTake).done_self
          rintro _ delivered ⟨hDeliver, hEvolves⟩
          obtain ⟨hFirstClock, hFirst⟩ := hWell.burden_of_deliver hOrderly hTake hDeliver
          apply Action.meets_bind (ih (hEvolves.wellFormed hWell) (hEvolves.orderly hWell hOrderly))
          rintro result last ⟨hClock, hBurden, -⟩
          exact ⟨hClock.trans hFirstClock, by show _ + (result.1 + 1) ≤ _; omega, fun hZero =>
            nomatch hZero⟩

/-- A tick lightens the burden, or nothing was due. -/
theorem meets_tick_burden (hWell : net.WellFormed) (hOrderly : net.Orderly) :
    (tick net).Meets
      (fun _ after => after.tickNow.toNat = net.tickNow.toNat + 1 ∧
        (after.burden < net.burden ∨ after.burden = net.burden ∧ after.channels = net.channels ∧
          ∀ link parcel rest, net.channels.queue link = parcel :: rest →
            net.tickNow.toNat + 1 < parcel.due.toNat)) Never := by
  apply Action.meets_bind_of_done rfl
  apply Action.meets_bind (meets_advance _).done_self
  rintro _ _ ⟨hDone, hAdvance⟩
  have hEvolves := (evolves_started net).trans (hAdvance.evolves inner_nil)
  have hAdvanced := hEvolves.wellFormed hWell
  have hAdvancedOrderly := hEvolves.orderly hWell hOrderly
  obtain ⟨clock, hClock, rfl⟩ := advance_eq_done hDone
  have hNow : clock.tick.toNat = net.tickNow.toNat + 1 := Clock.toNat_of_advance hClock
  apply Action.meets_bind_of_done rfl
  apply Action.meets_bind (meets_scan_burden hAdvanced hAdvancedOrderly)
  rintro ⟨deliveries, completed⟩ scanned ⟨hScannedClock, hBurden, hNothing⟩
  refine ⟨(congrArg (fun clock : Clock => clock.tick.toNat) hScannedClock).trans hNow, ?_⟩
  by_cases hZero : deliveries = 0
  · obtain ⟨rfl, hNone⟩ := hNothing hZero
    refine Or.inr ⟨rfl, rfl, fun link parcel rest hQueue => ?_⟩
    have hLink : net.channels.contains link = true :=
      ChannelTable.contains_of_mem_queue (hQueue ▸ List.mem_cons_self)
    rw [← hNow]
    exact late_of_firstDue?_eq_none (hNone link.source (hWell.wired.source_known hLink)) hQueue
  · refine Or.inl ?_
    have hSame : burden { ({ net with started := true } : Network) with clock := clock } =
        net.burden := rfl
    rw [hSame] at hBurden
    omega

/-- Whether nothing is under way after so many ticks: if anything is, some parcel becomes due soon
enough for the rest of the burden to become due in turn. -/
def RestsWithin (net : Network) (ticks : Nat) : Prop :=
  0 < net.pending → ∃ link parcel rest wait, net.channels.queue link = parcel :: rest ∧
    parcel.due.toNat ≤ net.tickNow.toNat + wait ∧ 0 < wait ∧
    (net.burden - 1) * max 1 net.maxDelay.toNat + wait ≤ ticks

theorem RestsWithin.pos {ticks : Nat} (hRests : net.RestsWithin ticks) (hSome : 0 < net.pending) :
    0 < ticks := by
  obtain ⟨_, _, _, wait, -, -, hWait, hTicks⟩ := hRests hSome
  omega

theorem Orderly.restsWithin_settleBound (hOrderly : net.Orderly) :
    net.RestsWithin net.settleBound := by
  intro hSome
  obtain ⟨link, hLink⟩ : ∃ link, net.channels.queue link ≠ [] := by
    by_contra hNone
    rw [not_exists] at hNone
    exact Nat.ne_of_gt hSome
      (pending_eq_zero_iff.mpr fun link => Classical.not_not.mp (hNone link))
  obtain ⟨parcel, rest, hQueue⟩ := List.exists_cons_of_ne_nil hLink
  refine ⟨link, parcel, rest, max 1 net.maxDelay.toNat, hQueue,
    hOrderly.prompt (hQueue ▸ List.mem_cons_self), Nat.lt_of_lt_of_le Nat.one_pos
      (Nat.le_max_left ..), Nat.le_of_eq ?_⟩
  have hBurden : net.burden - 1 + 1 = net.burden := Nat.sub_add_cancel (Nat.le_add_right_of_le hSome)
  rw [settleBound_eq, ← Nat.succ_mul, Nat.succ_eq_add_one, hBurden]

/-- While anything is under way, a tick leaves one tick less to wait. -/
theorem RestsWithin.tick {ticks : Nat} (hRests : net.RestsWithin (ticks + 1)) (hSome : 0 < net.pending)
    (hWell : net.WellFormed) (hOrderly : net.Orderly) :
    (Network.tick net).Meets (fun _ after => after.RestsWithin ticks) Never := by
  obtain ⟨link, parcel, rest, wait, hQueue, hDue, hWait, hTicks⟩ := hRests hSome
  refine (((meets_tick hWell).and (meets_tick_burden hWell hOrderly)).done_self).imp ?_
  rintro _ after ⟨hDone, hEvolves, hNow, hLighter | ⟨hSame, hChannels, hLate⟩⟩ hStill
  · -- Something has been delivered, and what is left becomes due within the longest delay.
    obtain ⟨other, first, later, wait', hOther, hFirst, hWait', hBound⟩ :=
      (hEvolves.orderly hWell hOrderly).restsWithin_settleBound hStill
    refine ⟨other, first, later, wait', hOther, hFirst, hWait', Nat.le_trans hBound ?_⟩
    rw [settleBound_eq, (keeps_tick net).of_done hDone |>.maxDelay_eq]
    have hProduct := Nat.mul_le_mul_right (max 1 net.maxDelay.toNat) (Nat.le_sub_one_of_lt hLighter)
    omega
  · -- Nothing was due, and the parcel is nearer to being so.
    have hNext := hLate link parcel rest hQueue
    refine ⟨link, parcel, rest, wait - 1, hChannels ▸ hQueue, by omega, by omega, ?_⟩
    rw [hSame, (keeps_tick net).of_done hDone |>.maxDelay_eq]
    omega

end Network

namespace Scenario

open Network

variable {net after : Network}

/-- What letting ticks pass comes to, one tick at a time. -/
theorem settle_eq (bound : Nat) (net : Network) :
    settle bound net =
      if net.outstanding = [] then .done () net
      else if net.pending = 0 then .refused (.stalled net.outstanding) net
      else match bound with
        | 0 => .refused (.unsettled net.outstanding) net
        | bound + 1 => (Action.mapError ScenarioError.network tick >>= fun _ => settle bound) net := by
  conv => lhs; unfold settle
  show Action.bind (Action.read Network.outstanding) _ net = _
  simp only [Action.bind, Action.read, List.isEmpty_iff]
  by_cases hNone : net.outstanding = []
  · rw [if_pos hNone, if_pos hNone]
    rfl
  · rw [if_neg hNone, if_neg hNone]
    show Action.bind (Action.read Network.pending) _ net = _
    simp only [Action.bind, Action.read]
    split
    · rfl
    · cases bound <;> rfl

/-- As long as a snapshot is outstanding, something is under way, and a tick passes. -/
theorem settle_of_outstanding (hReachable : net.Reachable) (hSome : net.outstanding ≠ [])
    (bound : Nat) :
    settle bound net =
      match bound with
      | 0 => .refused (.unsettled net.outstanding) net
      | bound + 1 => (Action.mapError ScenarioError.network tick >>= fun _ => settle bound) net := by
  rw [settle_eq, if_neg hSome, if_neg (Nat.ne_of_gt (hReachable.pending_pos hSome))]

theorem settle_of_rested (bound : Nat) (hNone : net.outstanding = []) :
    settle bound net = .done () net := by
  rw [settle_eq, if_pos hNone]

/-- Within the bound every snapshot becomes complete: to let ticks pass is never refused. -/
theorem meets_settle_within {ticks : Nat} (hReachable : net.Reachable) (hOrderly : net.Orderly)
    (hRests : net.RestsWithin ticks) :
    (settle ticks net).Meets (fun _ after => net.Evolves after ∧ after.outstanding = []) Never := by
  induction ticks generalizing net with
  | zero =>
      by_cases hNone : net.outstanding = []
      · rw [settle_of_rested 0 hNone]
        exact ⟨Evolves.refl net, hNone⟩
      · exact absurd (hRests.pos (hReachable.pending_pos hNone)) (Nat.lt_irrefl 0)
  | succ ticks ih =>
      by_cases hNone : net.outstanding = []
      · rw [settle_of_rested _ hNone]
        exact ⟨Evolves.refl net, hNone⟩
      · rw [settle_of_outstanding hReachable hNone]
        have hWell := hReachable.wellFormed
        have hTicks := hRests.tick (hReachable.pending_pos hNone) hWell hOrderly
        refine Action.meets_bind (Action.meets_mapError (((meets_tick hWell).and hTicks).imp
          fun _ _ hBoth => hBoth)) ?_
        rintro _ between ⟨hTick, hBetween⟩
        refine (ih (hReachable.leads hTick.leads) (hTick.orderly hWell hOrderly) hBetween).imp ?_
        exact fun _ _ hRest => ⟨hTick.trans hRest.1, hRest.2⟩

/-- To come to rest is never refused. -/
theorem meets_settle_bound (hReachable : net.Reachable) (hOrderly : net.Orderly) :
    (settle net.settleBound net).Meets
      (fun _ after => net.Evolves after ∧ after.outstanding = []) Never :=
  meets_settle_within hReachable hOrderly hOrderly.restsWithin_settleBound

/-- The bound is never what ends it: snapshots are not left incomplete for want of ticks. -/
theorem settle_ne_unsettled (hReachable : net.Reachable) (hOrderly : net.Orderly)
    (outstanding : List SnapshotId) (after : Network) :
    settle net.settleBound net ≠ .refused (.unsettled outstanding) after :=
  fun hRefused => (meets_settle_bound hReachable hOrderly).of_refused hRefused

end Scenario

end TokenNet
