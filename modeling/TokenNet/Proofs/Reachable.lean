import TokenNet.Proofs.Changes

namespace TokenNet

/-!
# Runs keep networks well-formed

A well-formed network stays so through each change (`Network.Change.wellFormed`), and so
through each run (`Network.Run.wellFormed`).  Nodes and links are only added while no snapshot
has been started, so that nothing needs to be known of the recordings and collectors then.
-/

theorem lt_next_iff {snapshot next other : SnapshotId} (hNext : checkedAdd snapshot 1 = .ok next) :
    other < next ↔ other < snapshot ∨ other = snapshot := by
  have hSum : snapshot.toNat + 1 = next.toNat := checkedAdd_eq_ok_iff.mp hNext
  rw [UInt64.lt_iff_toNat_lt, UInt64.lt_iff_toNat_lt, ← UInt64.toNat_inj]
  omega

/-! ### Collectors -/

theorem Collector.sound_create (snapshot : SnapshotId) (nodes : SortedMap String Node) :
    (Collector.create snapshot (SortedSet.ofKeys nodes)).Sound snapshot nodes.keys := by
  refine ⟨rfl, fun {name} => ?_, fun hReported => absurd hReported List.not_mem_nil,
    fun hFound => nomatch hFound⟩
  show name ∈ (SortedSet.ofKeys nodes).keys ↔ name ∈ nodes.keys ∧ name ∉ []
  simp

theorem Collector.Sound.abandon {snapshot : SnapshotId} {names : List String}
    {collector : Collector} (hSound : collector.Sound snapshot names) :
    collector.abandon.Sound snapshot names := by
  unfold Collector.abandon
  split
  · exact hSound
  · exact ⟨hSound.snapshot_eq, hSound.awaited_iff, hSound.reported_known, hSound.report_node⟩

namespace Collected

variable {names : List String} {collectors retired : SortedMap SnapshotId Collector}
  {next snapshot : SnapshotId} {collector : Collector}

theorem get?_eq_none (hCollected : Collected names collectors retired next)
    (hFresh : ¬ snapshot < next) :
    collectors.get? snapshot = none ∧ retired.get? snapshot = none := by
  rw [hCollected.started_iff, not_or] at hFresh
  exact ⟨SortedMap.get?_eq_none_iff.mpr hFresh.1, SortedMap.get?_eq_none_iff.mpr hFresh.2⟩

/-- A snapshot that has been started and is not in use has been taken away. -/
theorem exists_retired (hCollected : Collected names collectors retired next)
    (hStarted : snapshot < next) (hUnused : collectors.get? snapshot = none) :
    ∃ collector, retired.get? snapshot = some collector :=
  SortedMap.mem_keys_iff.mp ((hCollected.started_iff.mp hStarted).resolve_left
    (SortedMap.get?_eq_none_iff.mp hUnused))

theorem announce {nodes : SortedMap String Node} {later : SnapshotId}
    (hCollected : Collected nodes.keys collectors retired next)
    (hNext : checkedAdd next 1 = .ok later) :
    Collected nodes.keys
      (collectors.insert next (Collector.create next (SortedSet.ofKeys nodes))) retired later := by
  refine ⟨fun {other found} hFound => ?_, fun {other found} hFound => ?_, fun {other} => ?_⟩
  · rcases SortedMap.get?_insert_eq_some_iff.mp hFound with ⟨rfl, rfl⟩ | ⟨-, hOld⟩
    · exact Collector.sound_create next nodes
    · exact hCollected.sound hOld
  · obtain ⟨hSound, hComplete, hUnused⟩ := hCollected.retired_sound hFound
    have hDifferent : next ≠ other := fun hEqual =>
      UInt64.lt_irrefl _ (hEqual ▸ hCollected.started_iff.mpr
        (Or.inr (SortedMap.mem_keys_of_get? hFound)))
    refine ⟨hSound, hComplete, ?_⟩
    rw [SortedMap.get?_insert_of_ne _ _ hDifferent]
    exact hUnused
  · rw [lt_next_iff hNext, hCollected.started_iff, SortedMap.mem_keys_insert]
    constructor
    · rintro ((hUsed | hRetired) | hEqual)
      · exact Or.inl (Or.inr hUsed)
      · exact Or.inr hRetired
      · exact Or.inl (Or.inl hEqual)
    · rintro ((hEqual | hUsed) | hRetired)
      · exact Or.inr hEqual
      · exact Or.inl (Or.inl hUsed)
      · exact Or.inl (Or.inr hRetired)

theorem retire (hCollected : Collected names collectors retired next)
    (hFound : collectors.get? snapshot = some collector) (hComplete : collector.isComplete = true) :
    Collected names (collectors.erase snapshot) (retired.insert snapshot collector) next := by
  refine ⟨fun {other found} hOther => ?_, fun {other found} hOther => ?_, fun {other} => ?_⟩
  · exact hCollected.sound (SortedMap.get?_erase_eq_some_iff.mp hOther).2
  · rw [SortedMap.get?_erase]
    rcases SortedMap.get?_insert_eq_some_iff.mp hOther with ⟨rfl, rfl⟩ | ⟨hDifferent, hOld⟩
    · exact ⟨hCollected.sound hFound, hComplete, if_pos rfl⟩
    · rw [if_neg hDifferent]
      exact hCollected.retired_sound hOld
  · rw [hCollected.started_iff, SortedMap.mem_keys_erase, SortedMap.mem_keys_insert]
    by_cases hEqual : other = snapshot
    · subst hEqual
      simp [SortedMap.mem_keys_of_get? hFound]
    · simp [hEqual]

theorem abandon (hCollected : Collected names collectors retired next)
    (snapshots : List SnapshotId) :
    Collected names (collectors.mapValues fun id collector =>
      if id ∈ snapshots then collector.abandon else collector) retired next := by
  refine ⟨fun {other found} hOther => ?_, fun {other found} hOther => ?_, fun {other} => ?_⟩
  · rw [SortedMap.get?_mapValues, Option.map_eq_some_iff] at hOther
    obtain ⟨old, hOld, rfl⟩ := hOther
    split
    · exact (hCollected.sound hOld).abandon
    · exact hCollected.sound hOld
  · obtain ⟨hSound, hComplete, hUnused⟩ := hCollected.retired_sound hOther
    refine ⟨hSound, hComplete, ?_⟩
    rw [SortedMap.get?_mapValues, hUnused, Option.map_none]
  · rw [SortedMap.keys_mapValues]
    exact hCollected.started_iff

end Collected

/-! ### Before the first snapshot -/

theorem Recorded.recordings_eq_none {nodes : SortedMap String Node} (hRecorded : Recorded nodes 0)
    {name : String} {node : Node} (hNode : nodes.get? name = some node) (snapshot : SnapshotId) :
    node.recordings.get? snapshot = none := by
  cases hFound : node.recordings.get? snapshot with
  | none => rfl
  | some recording => exact absurd (hRecorded hNode hFound).2.2 UInt64.not_lt_zero

theorem Collected.of_zero {names others : List String}
    {collectors retired : SortedMap SnapshotId Collector}
    (hCollected : Collected names collectors retired 0) :
    Collected others collectors retired 0 := by
  have hNone : ∀ {snapshot}, ¬ (snapshot ∈ collectors.keys ∨ snapshot ∈ retired.keys) :=
    fun hSome => UInt64.not_lt_zero (hCollected.started_iff.mpr hSome)
  exact ⟨fun hFound => absurd (Or.inl (SortedMap.mem_keys_of_get? hFound)) hNone,
    fun hFound => absurd (Or.inr (SortedMap.mem_keys_of_get? hFound)) hNone,
    hCollected.started_iff⟩

theorem Wired.addNode {nodes : SortedMap String Node} {channels : ChannelTable} {name : String}
    (hWired : Wired nodes channels) (hNew : nodes.get? name = none) (tokens : UInt64) :
    Wired (nodes.insert name (Node.create name tokens)) channels := by
  -- No link can lead to a node that is not there yet.
  have hAbsent : name ∉ nodes.keys := SortedMap.get?_eq_none_iff.mp hNew
  refine ⟨hWired.sound, fun {other found} hFound => ?_, fun {source target found} hFound => ?_,
    fun {source target found} hFound => ?_, fun hLink => ?_, fun hLink => ?_⟩
  · rcases SortedMap.get?_insert_eq_some_iff.mp hFound with ⟨hName, rfl⟩ | ⟨-, hOld⟩
    · exact hName
    · exact hWired.name_eq hOld
  · rcases SortedMap.get?_insert_eq_some_iff.mp hFound with ⟨rfl, rfl⟩ | ⟨-, hOld⟩
    · exact ⟨fun hMember => absurd hMember List.not_mem_nil,
        fun hLink => absurd (hWired.source_known hLink) hAbsent⟩
    · exact hWired.mem_outbound_iff hOld
  · rcases SortedMap.get?_insert_eq_some_iff.mp hFound with ⟨rfl, rfl⟩ | ⟨-, hOld⟩
    · exact ⟨fun hMember => absurd hMember List.not_mem_nil,
        fun hLink => absurd (hWired.target_known hLink) hAbsent⟩
    · exact hWired.mem_inbound_iff hOld
  · exact SortedMap.mem_keys_insert.mpr (Or.inr (hWired.source_known hLink))
  · exact SortedMap.mem_keys_insert.mpr (Or.inr (hWired.target_known hLink))

namespace Network

theorem get?_nodes_connect (net : Network) (link : Link) (source target : Node)
    (hDistinct : link.source ≠ link.target) (name : String) :
    (net.connect link source target).nodes.get? name =
      if link.source = name then some (source.addOutbound link.target net.links.size)
      else if link.target = name then some (target.addInbound link.source net.links.size)
      else net.nodes.get? name := by
  show ((net.nodes.insert link.source _).insert link.target _).get? name = _
  rw [SortedMap.get?_insert, SortedMap.get?_insert]
  by_cases hSource : link.source = name
  · rw [if_pos hSource, if_pos hSource, if_neg fun hTarget => hDistinct (hSource.trans hTarget.symm)]
  · rw [if_neg hSource, if_neg hSource]

/-- What a node is after a link has been added: as before, but for its neighbours. -/
theorem node_connect {net : Network} {link : Link} {source target node : Node} {name : String}
    (hSource : net.nodes.get? link.source = some source)
    (hTarget : net.nodes.get? link.target = some target) (hDistinct : link.source ≠ link.target)
    (hNode : (net.connect link source target).nodes.get? name = some node) :
    ∃ old, net.nodes.get? name = some old ∧ node.name = old.name ∧ node.tokens = old.tokens ∧
      node.recordings = old.recordings ∧
      (∀ other, other ∈ node.outbound.keys ↔
        link = ⟨name, other⟩ ∨ other ∈ old.outbound.keys) ∧
      ∀ other, other ∈ node.inbound.keys ↔ link = ⟨other, name⟩ ∨ other ∈ old.inbound.keys := by
  obtain ⟨start, finish⟩ := link
  rw [net.get?_nodes_connect _ _ _ hDistinct] at hNode
  simp only [Link.mk.injEq]
  by_cases hStart : start = name
  · subst hStart
    rw [if_pos rfl, Option.some.injEq] at hNode
    subst hNode
    refine ⟨source, hSource, rfl, rfl, rfl, fun other => ?_, fun other => ?_⟩
    · rw [Node.addOutbound, SortedMap.mem_keys_insert]
      simp [eq_comm]
    · simp [Node.addOutbound, Ne.symm hDistinct]
  · by_cases hFinish : finish = name
    · subst hFinish
      rw [if_neg hStart, if_pos rfl, Option.some.injEq] at hNode
      subst hNode
      refine ⟨target, hTarget, rfl, rfl, rfl, fun other => ?_, fun other => ?_⟩
      · simp [Node.addInbound, hStart]
      · rw [Node.addInbound, SortedMap.mem_keys_insert]
        simp [eq_comm]
    · rw [if_neg hStart, if_neg hFinish] at hNode
      exact ⟨node, hNode, rfl, rfl, rfl, by simp [hStart], by simp [hFinish]⟩

theorem wired_connect {net : Network} {link : Link} {source target : Node}
    (hWired : Wired net.nodes net.channels) (hSource : net.nodes.get? link.source = some source)
    (hTarget : net.nodes.get? link.target = some target) (hDistinct : link.source ≠ link.target)
    (hNew : link.target ∉ source.outbound.keys) :
    Wired (net.connect link source target).nodes (net.connect link source target).channels := by
  have hMissing := hWired.not_contains hSource hNew
  have hKeys : ∀ {name}, name ∈ net.nodes.keys →
      name ∈ (net.connect link source target).nodes.keys := fun hName =>
    SortedMap.mem_keys_insert.mpr (Or.inr (SortedMap.mem_keys_insert.mpr (Or.inr hName)))
  refine ⟨hWired.sound.insert_ofLink hMissing, fun hNode => ?_, fun hNode => ?_, fun hNode => ?_,
    fun hLink => ?_, fun hLink => ?_⟩
  · obtain ⟨old, hOld, hName, -⟩ := node_connect hSource hTarget hDistinct hNode
    exact hName.trans (hWired.name_eq hOld)
  · obtain ⟨old, hOld, -, -, -, hOutbound, -⟩ := node_connect hSource hTarget hDistinct hNode
    rw [hOutbound, hWired.mem_outbound_iff hOld]
    exact ChannelTable.contains_insert.symm
  · obtain ⟨old, hOld, -, -, -, -, hInbound⟩ := node_connect hSource hTarget hDistinct hNode
    rw [hInbound, hWired.mem_inbound_iff hOld]
    exact ChannelTable.contains_insert.symm
  · rcases ChannelTable.contains_insert.mp hLink with rfl | hOld
    · exact hKeys (SortedMap.mem_keys_of_get? hSource)
    · exact hKeys (hWired.source_known hOld)
  · rcases ChannelTable.contains_insert.mp hLink with rfl | hOld
    · exact hKeys (SortedMap.mem_keys_of_get? hTarget)
    · exact hKeys (hWired.target_known hOld)

theorem WellFormed.nextSnapshot_eq_zero {net : Network} (hWell : net.WellFormed)
    (hOpen : net.started = false) : net.nextSnapshot = 0 :=
  Classical.byContradiction fun hSome =>
    Bool.false_ne_true (hOpen.symm.trans (hWell.frozen hSome))

theorem WellFormed.connect {net : Network} {link : Link} {source target : Node}
    (hWell : net.WellFormed) (hOpen : net.started = false)
    (hSource : net.nodes.get? link.source = some source)
    (hTarget : net.nodes.get? link.target = some target) (hDistinct : link.source ≠ link.target)
    (hNew : link.target ∉ source.outbound.keys) : (net.connect link source target).WellFormed := by
  have hZero := hWell.nextSnapshot_eq_zero hOpen
  -- Links are added before the first snapshot only, so no node keeps a recording.
  have hRecorded : Recorded net.nodes 0 := hZero ▸ hWell.recorded
  refine ⟨wired_connect hWell.wired hSource hTarget hDistinct hNew, ?_, ?_, ?_, hWell.frozen⟩
  · intro name node snapshot recording hNode hRecording
    obtain ⟨old, hOld, -, -, hSame, -⟩ := node_connect hSource hTarget hDistinct hNode
    rw [hSame, hRecorded.recordings_eq_none hOld] at hRecording
    cases hRecording
  · intro other parcel snapshot hMember hMarker
    have hMissing := hWell.wired.not_contains hSource hNew
    replace hMember : parcel ∈ (net.channels.insert link (Channel.ofLink link)).queue other :=
      hMember
    rw [ChannelTable.queue_insert_ofLink hMissing] at hMember
    exact hWell.marked hMember hMarker
  · show Collected _ net.collectors net.retired net.nextSnapshot
    exact hZero ▸ (hZero ▸ hWell.collected).of_zero

theorem WellFormed.addNode {net : Network} {name : String} (hWell : net.WellFormed)
    (hOpen : net.started = false) (hNew : net.nodes.get? name = none) (tokens : UInt64) :
    ({ net with nodes := net.nodes.insert name (Node.create name tokens) } : Network).WellFormed := by
  have hZero := hWell.nextSnapshot_eq_zero hOpen
  refine ⟨hWell.wired.addNode hNew tokens, hWell.recorded.setNode ?_, hWell.marked, ?_,
    hWell.frozen⟩
  · intro snapshot recording hFound
    cases hFound
  · show Collected _ net.collectors net.retired net.nextSnapshot
    exact hZero ▸ (hZero ▸ hWell.collected).of_zero

/-! ### Snapshots that are opened, taken away or given up -/

theorem WellFormed.announced {net : Network} {next : SnapshotId} (hWell : net.WellFormed)
    (name : String) (hNext : checkedAdd net.nextSnapshot 1 = .ok next) :
    (net.announced name next).WellFormed := by
  have hLater : ∀ {snapshot}, snapshot < net.nextSnapshot → snapshot < next := fun hEarlier =>
    (lt_next_iff hNext).mpr (Or.inl hEarlier)
  refine ⟨hWell.wired, ?_, ?_, hWell.collected.announce hNext, fun _ => rfl⟩
  · intro other node snapshot recording hNode hRecording
    obtain ⟨hSound, hAwaiting, hStarted⟩ := hWell.recorded hNode hRecording
    exact ⟨hSound, hAwaiting, hLater hStarted⟩
  · intro link parcel snapshot hMember hMarker
    exact hLater (hWell.marked hMember hMarker)

theorem WellFormed.retire {net : Network} {snapshot : SnapshotId} {collector : Collector}
    (hWell : net.WellFormed) (hFound : net.collectors.get? snapshot = some collector)
    (hComplete : collector.isComplete = true) : (net.retire snapshot collector).WellFormed :=
  ⟨hWell.wired, hWell.recorded, hWell.marked, hWell.collected.retire hFound hComplete,
    hWell.frozen⟩

theorem WellFormed.abandon {net : Network} (hWell : net.WellFormed)
    (snapshots : List SnapshotId) : (Network.abandon snapshots net).WellFormed :=
  ⟨hWell.wired, hWell.recorded, hWell.marked, hWell.collected.abandon snapshots, hWell.frozen⟩

/-! ### Every change and every run -/

/-- The markers of a node that takes part are on its links. -/
theorem WellFormed.posted_markers {net : Network} {name : String} {node : Node}
    {snapshot : SnapshotId} {collector : Collector} {generator : Generator}
    {parcels : List Parcel} (hWell : net.WellFormed) (hNode : net.nodes.get? name = some node)
    (hFound : net.collectors.get? snapshot = some collector)
    (hTargets : parcels.map Parcel.target = node.outbound.keys)
    (hParcels : ∀ parcel ∈ parcels, parcel.source = name ∧ parcel.message = .marker snapshot) :
    (net.posted generator parcels).WellFormed := by
  apply hWell.posted generator (hWell.wired.contains_markers hNode hTargets hParcels)
  intro parcel hParcel other hMarker
  have hSame : Message.marker snapshot = .marker other :=
    (hParcels parcel hParcel).2.symm.trans hMarker
  cases hSame
  exact hWell.collected.started_iff.mpr (Or.inl (SortedMap.mem_keys_of_get? hFound))

theorem WellFormed.credited {net : Network} {name : String} {node : Node} (hWell : net.WellFormed)
    (hNode : net.nodes.get? name = some node) (source : String) (amount tokens : UInt64) :
    (net.withChanged (node.credited source amount tokens)).WellFormed := by
  refine hWell.withChanged hNode rfl rfl rfl fun {snapshot recording} hKept => ?_
  unfold Node.credited at hKept
  by_cases hAmount : 0 < amount
  · simp only [hAmount, if_true, SortedMap.get?_mapValues, Option.map_eq_some_iff] at hKept
    obtain ⟨old, hOld, rfl⟩ := hKept
    obtain ⟨hSound, hAwaiting, hStarted⟩ := hWell.recorded hNode hOld
    refine ⟨hSound.note _, ?_, hStarted⟩
    rw [Recording.awaiting_note]
    exact hAwaiting
  · simp only [hAmount, if_false] at hKept
    exact hWell.recorded hNode hKept

theorem MarkerEffect.wellFormed {net after : Network} {source target : String}
    {snapshot : SnapshotId} (hEffect : MarkerEffect net source target snapshot after)
    (hWell : net.WellFormed) (hLink : net.channels.contains ⟨source, target⟩ = true) :
    after.WellFormed := by
  cases hEffect with
  | late hStale =>
      exact ⟨hWell.wired, hWell.recorded, hWell.marked, hWell.collected, hWell.frozen⟩
  | repeated hCurrent hNode hRecording hSeen =>
      exact ⟨hWell.wired, hWell.recorded, hWell.marked, hWell.collected, hWell.frozen⟩
  | first hNode hFresh hFound hAwaited hTargets hParcels =>
      refine (hWell.posted_markers hNode hFound hTargets hParcels).withRecording hNode hFound hAwaited
        (Node.sound_freshRecording fun other hOther => ?_)
      cases hOther
      exact (hWell.wired.mem_inbound_iff hNode).mpr hLink
  | next hNode hRecording hUnseen hFound hAwaited =>
      exact hWell.withRecording hNode hFound hAwaited ((hWell.recorded hNode hRecording).1.see
        ((hWell.wired.mem_inbound_iff hNode).mpr hLink))

theorem Change.wellFormed {net after : Network} {happenings : List Happening}
    (hChange : Change net happenings after) (hWell : net.WellFormed) : after.WellFormed := by
  cases hChange with
  | idle clock generator hStarted =>
      exact ⟨hWell.wired, hWell.recorded, hWell.marked, hWell.collected,
        fun hSome => hStarted (hWell.frozen hSome)⟩
  | addNode tokens hOpen hNew => exact hWell.addNode hOpen hNew tokens
  | addLink hOpen hSource hTarget hDistinct hNew =>
      exact hWell.connect hOpen hSource hTarget hDistinct hNew
  | @send source target amount node generator due hNode hLink hEnough =>
      have hFrozen : ({ net with started := true } : Network).WellFormed :=
        ⟨hWell.wired, hWell.recorded, hWell.marked, hWell.collected, fun _ => rfl⟩
      refine WellFormed.posted ?_ generator ?_ ?_
      · exact hFrozen.withChanged hNode rfl rfl rfl fun hKept => hWell.recorded hNode hKept
      · intro parcel hParcel
        rw [List.mem_singleton.mp hParcel]
        exact hLink
      · intro parcel hParcel snapshot hMarker
        rw [List.mem_singleton.mp hParcel] at hMarker
        cases hMarker
  | announce hName hNext => exact hWell.announced _ hNext
  | join hNode hFresh hFound hAwaited hTargets hParcels =>
      exact (hWell.posted_markers hNode hFound hTargets hParcels).withRecording hNode hFound hAwaited
        (Node.sound_freshRecording fun _ hNone => nomatch hNone)
  | credit hQueue hNode hTokens =>
      exact ((hWell.popped hQueue).logged _).credited hNode _ _ _
  | marker hQueue hEffect =>
      apply hEffect.wellFormed ((hWell.popped hQueue).logged _)
      apply (ChannelTable.contains_setQueue ..).trans
      exact ChannelTable.contains_of_mem_queue (hQueue ▸ List.mem_cons_self)
  | notify hFound hAwaited => exact hWell.admitted hFound hAwaited
  | retire hFound hComplete => exact hWell.retire hFound hComplete
  | abandon snapshots => exact hWell.abandon snapshots

theorem Run.wellFormed {net after : Network} {trace : List Happening} (hRun : Run net trace after)
    (hWell : net.WellFormed) : after.WellFormed := by
  induction hRun with
  | start => exact hWell
  | step _ hStep ih => exact (hStep.change ih).wellFormed ih

end Network

end TokenNet
