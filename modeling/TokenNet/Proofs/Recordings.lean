import TokenNet.Proofs.Markers

namespace TokenNet

/-!
# What recordings nodes keep

Two invariants of runs about the recordings that nodes keep.  What they have seen are markers that
the journal tells to have come (`Network.Run.mem_receivedOn_of_hasSeen`); since a node sends one
marker on each link, no node has seen the marker of a source that still has one under way to it
(`Network.Run.not_hasSeen_of_mem_queue`), whatever is reported from outside.  And unless a report
comes from outside, a node keeps a recording of a snapshot only until it has reported
(`Network.Run.current`).
-/

namespace Network

variable {net after : Network} {happenings trace : List Happening} {link : Link}
  {snapshot : SnapshotId} {name : String} {Q : Recording → Prop}

/-- Whether a node keeps a recording of a snapshot with a property. -/
def Keeps (net : Network) (snapshot : SnapshotId) (name : String) (Q : Recording → Prop) : Prop :=
  ∃ recording, net.recording? snapshot name = some recording ∧ Q recording

theorem keeps_of_get? {node : Node} {recording : Recording} (hNode : net.nodes.get? name = some node)
    (hRecording : node.recordings.get? snapshot = some recording) (hHolds : Q recording) :
    net.Keeps snapshot name Q := by
  refine ⟨recording, ?_, hHolds⟩
  unfold recording?
  rw [hNode]
  exact hRecording

/-- After a node has changed it keeps its own recordings, and all others keep theirs. -/
theorem keeps_withChanged {changed : Node} (hKeeps : (net.withChanged changed).Keeps snapshot name Q) :
    (changed.name = name ∧ ∃ recording, changed.recordings.get? snapshot = some recording ∧
      Q recording) ∨ changed.name ≠ name ∧ net.Keeps snapshot name Q := by
  obtain ⟨recording, hRecording, hHolds⟩ := hKeeps
  rw [recording?_withChanged] at hRecording
  split at hRecording
  · next hHere => exact Or.inl ⟨hHere, recording, hRecording, hHolds⟩
  · next hElsewhere => exact Or.inr ⟨hElsewhere, recording, hRecording, hHolds⟩

/-- A node that is given a recording keeps that one, and no other that it did not keep before. -/
theorem keeps_withRecording {node : Node} {collector : Collector} {recording : Recording}
    (hNode : net.nodes.get? node.name = some node)
    (hKeeps : (net.withRecording node collector recording).Keeps snapshot name Q) :
    (recording.snapshot = snapshot ∧ node.name = name ∧ Q recording) ∨
      net.Keeps snapshot name Q := by
  unfold withRecording at hKeeps
  split at hKeeps
  · rcases keeps_withChanged hKeeps with ⟨rfl, kept, hKept, hHolds⟩ | ⟨-, hEarlier⟩
    · exact Or.inr (keeps_of_get? hNode (SortedMap.get?_erase_eq_some_iff.mp hKept).2 hHolds)
    · exact Or.inr hEarlier
  · rcases keeps_withChanged hKeeps with ⟨rfl, kept, hKept, hHolds⟩ | ⟨-, hEarlier⟩
    · rcases SortedMap.get?_insert_eq_some_iff.mp hKept with ⟨rfl, rfl⟩ | ⟨-, hOld⟩
      · exact Or.inl ⟨rfl, rfl, hHolds⟩
      · exact Or.inr (keeps_of_get? hNode hOld hHolds)
    · exact Or.inr hEarlier

/-! ### Changes that give no node a recording -/

theorem keeps_addNode {added : String} {tokens : UInt64}
    (hKeeps : (net.withChanged (Node.create added tokens)).Keeps snapshot name Q) :
    net.Keeps snapshot name Q := by
  rcases keeps_withChanged hKeeps with ⟨-, recording, hNone, -⟩ | ⟨-, hEarlier⟩
  · cases hNone
  · exact hEarlier

theorem keeps_connect {source target : Node} (hSource : net.nodes.get? link.source = some source)
    (hTarget : net.nodes.get? link.target = some target) (hDistinct : link.source ≠ link.target)
    (hKeeps : (net.connect link source target).Keeps snapshot name Q) :
    net.Keeps snapshot name Q := by
  obtain ⟨recording, hRecording, hHolds⟩ := hKeeps
  obtain ⟨node, hNode, hKept⟩ := Option.bind_eq_some_iff.mp hRecording
  obtain ⟨old, hOld, -, -, hSame, -⟩ := node_connect hSource hTarget hDistinct hNode
  exact keeps_of_get? hOld (hSame ▸ hKept) hHolds

theorem keeps_withTokens {node : Node} {tokens : UInt64}
    (hNode : net.nodes.get? node.name = some node)
    (hKeeps : (net.withChanged { node with tokens := tokens }).Keeps snapshot name Q) :
    net.Keeps snapshot name Q := by
  rcases keeps_withChanged hKeeps with ⟨rfl, recording, hRecording, hHolds⟩ | ⟨-, hEarlier⟩
  · exact keeps_of_get? hNode hRecording hHolds
  · exact hEarlier

/-- Tokens that come are noted in recordings, and change nothing else about them. -/
theorem keeps_credited {node : Node} {source : String} {amount tokens : UInt64}
    (hNote : ∀ recording transfer, Q (recording.note transfer) → Q recording)
    (hNode : net.nodes.get? node.name = some node)
    (hKeeps : (net.withChanged (node.credited source amount tokens)).Keeps snapshot name Q) :
    net.Keeps snapshot name Q := by
  rcases keeps_withChanged hKeeps with ⟨rfl, recording, hRecording, hHolds⟩ | ⟨-, hEarlier⟩
  · unfold Node.credited at hRecording
    simp only at hRecording
    split at hRecording
    · rw [SortedMap.get?_mapValues] at hRecording
      obtain ⟨old, hOld, rfl⟩ := Option.map_eq_some_iff.mp hRecording
      exact keeps_of_get? hNode hOld (hNote old _ hHolds)
    · exact keeps_of_get? hNode hRecording hHolds
  · exact hEarlier

/-! ### Whose marker has come -/

/-- Whether a node keeps a recording that has seen the marker of a source. -/
def HasSeen (net : Network) (snapshot : SnapshotId) (name source : String) : Prop :=
  net.Keeps snapshot name fun recording => source ∈ recording.seen.keys

/-- A marker adds itself to what its receiver has seen, and nothing else. -/
theorem MarkerEffect.hasSeen {source target other : String} {delivered : SnapshotId}
    (hEffect : MarkerEffect net source target delivered after) (hWell : net.WellFormed)
    (hSeen : after.HasSeen snapshot name other) :
    (delivered = snapshot ∧ target = name ∧ source = other) ∨ net.HasSeen snapshot name other := by
  cases hEffect with
  | late hStale => exact Or.inr hSeen
  | repeated hCurrent hNode hRecording hRepeated => exact Or.inr hSeen
  | @first node collector generator parcels hNode hFresh hFound hAwaited hTargets hParcels hDues =>
      have hName : node.name = target := hWell.wired.name_eq hNode
      subst hName
      have hPosted : (net.posted generator parcels).nodes.get? node.name = some node := hNode
      rcases keeps_withRecording hPosted hSeen with ⟨hSame, rfl, hMember⟩ | hEarlier
      · exact Or.inl ⟨hSame, rfl, Option.some.inj (Node.mem_seen_freshRecording.mp hMember)⟩
      · exact Or.inr hEarlier
  | @next node collector recording hNode hRecording hUnseen hFound hAwaited =>
      have hName : node.name = target := hWell.wired.name_eq hNode
      subst hName
      have hSnapshot : recording.snapshot = delivered :=
        (hWell.recorded hNode hRecording).1.snapshot_eq
      rcases keeps_withRecording hNode hSeen with ⟨hSame, rfl, hMember⟩ | hEarlier
      · have hHere : delivered = snapshot := hSnapshot.symm.trans hSame
        subst hHere
        rcases Recording.mem_seen_see.mp hMember with hNow | hOld
        · exact Or.inl ⟨rfl, rfl, hNow.symm⟩
        · exact Or.inr (keeps_of_get? hNode hRecording hOld)
      · exact Or.inr hEarlier

/-- What has been received stays in the journal. -/
theorem Tells.mem_receivedOn {events : List Event} {message : Message}
    (hTells : net.Tells events after) (hReceived : message ∈ net.journal.receivedOn link) :
    message ∈ after.journal.receivedOn link := by
  unfold Journal.receivedOn at hReceived ⊢
  rw [hTells.toList_journal, List.filterMap_append]
  exact List.mem_append_left _ hReceived

theorem mem_receivedOn_taken (net : Network) (parcel : Parcel) (rest : List Parcel) :
    parcel.message ∈ (net.taken parcel rest).journal.receivedOn parcel.link := by
  have hWritten : (net.taken parcel rest).journal.toList = net.journal.toList ++
      [.received net.tickNow parcel.source parcel.target parcel.message] :=
    Journal.toList_write ..
  unfold Journal.receivedOn
  rw [hWritten, List.filterMap_append]
  exact List.mem_append_right _ (by simp [Event.receivedOn?, Parcel.link])

/-- What a node sees in a change is a marker that comes in it. -/
theorem Change.hasSeen {source : String} (hChange : Change net happenings after)
    (hWell : net.WellFormed) (hSeen : after.HasSeen snapshot name source) :
    .marker snapshot ∈ after.journal.receivedOn ⟨source, name⟩ ∨
      net.HasSeen snapshot name source := by
  cases hChange with
  | @addNode added tokens hOpen hNew =>
      have hAdded : (net.withChanged (Node.create added tokens)).HasSeen snapshot name source := hSeen
      exact Or.inr (keeps_addNode hAdded)
  | addLink hOpen hSource hTarget hDistinct hNew =>
      exact Or.inr (keeps_connect hSource hTarget hDistinct hSeen)
  | @send sender target amount node generator due hNode hLink hEnough hPunctual =>
      have hName : node.name = sender := hWell.wired.name_eq hNode
      subst hName
      have hPaid : (net.withChanged { node with tokens := node.tokens - amount }).HasSeen snapshot
          name source := hSeen
      exact Or.inr (keeps_withTokens hNode hPaid)
  | @join joining joined node collector generator parcels hNode hFresh hFound hAwaited hTargets
      hParcels hPunctual =>
      have hName : node.name = joining := hWell.wired.name_eq hNode
      subst hName
      have hPosted : (net.posted generator parcels).nodes.get? node.name = some node := hNode
      rcases keeps_withRecording hPosted hSeen with ⟨-, -, hMember⟩ | hEarlier
      · cases Node.mem_seen_freshRecording.mp hMember
      · exact Or.inr hEarlier
  | @credit sender target amount due tokens rest node hQueue hNode hTokens hDue =>
      have hName : node.name = target := hWell.wired.name_eq hNode
      subst hName
      have hCredited : (net.withChanged (node.credited sender amount tokens)).HasSeen snapshot name
          source := hSeen
      refine Or.inr (keeps_credited (fun recording transfer hMember => ?_) hNode hCredited)
      rwa [Recording.seen_note] at hMember
  | @marker after sender target delivered due rest hQueue hEffect hDue =>
      have hTaken := (hWell.popped hQueue).logged
        (.received net.tickNow sender target (.marker delivered))
      rcases hEffect.hasSeen hTaken hSeen with ⟨rfl, rfl, rfl⟩ | hEarlier
      · obtain ⟨events, hTells, -⟩ := hEffect.tells hTaken.wired
        have hCame := mem_receivedOn_taken net ⟨sender, target, .marker delivered, due⟩ rest
        exact Or.inl (hTells.mem_receivedOn hCame)
      · exact Or.inr hEarlier
  | _ => exact Or.inr hSeen

/-- There are no recordings before the first snapshot. -/
theorem Fresh.recording?_eq_none (hFresh : net.Fresh) : net.recording? snapshot name = none := by
  unfold recording?
  cases hNode : net.nodes.get? name with
  | none => rfl
  | some node =>
      have hRecorded := hFresh.wellFormed.recorded
      rw [hFresh.nextSnapshot_eq] at hRecorded
      exact hRecorded.recordings_eq_none hNode snapshot

/-- What a node has seen has come. -/
theorem Run.mem_receivedOn_of_hasSeen {source : String} (hRun : Run net trace after)
    (hFresh : net.Fresh) (hSeen : after.HasSeen snapshot name source) :
    .marker snapshot ∈ after.journal.receivedOn ⟨source, name⟩ := by
  induction hRun with
  | start =>
      obtain ⟨recording, hRecording, -⟩ := hSeen
      cases hFresh.recording?_eq_none.symm.trans hRecording
  | step hEarlier hStep ih =>
      have hWell := hEarlier.wellFormed hFresh.wellFormed
      have hChange := hStep.change hWell
      rcases hChange.hasSeen hWell hSeen with hNow | hBefore
      · exact hNow
      · obtain ⟨events, hTells⟩ := hChange.tells hWell
        exact hTells.mem_receivedOn (ih hBefore)

/-- No node has seen the marker of a source that has one under way to it. -/
theorem Run.not_hasSeen_of_mem_queue {parcel : Parcel} (hRun : Run net trace after)
    (hFresh : net.Fresh) (hQueue : parcel ∈ after.channels.queue link)
    (hMarker : parcel.message = .marker snapshot) :
    ¬ after.HasSeen snapshot link.target link.source := by
  intro hSeen
  -- Otherwise there were two markers, and the source has joined only once.
  have hCame : 0 < (after.journal.receivedOn link).count (.marker snapshot) :=
    List.count_pos_iff.mpr (hRun.mem_receivedOn_of_hasSeen hFresh hSeen)
  have hComing : 0 < ((after.channels.queue link).map Parcel.message).count (.marker snapshot) :=
    List.count_pos_iff.mpr (hMarker ▸ List.mem_map_of_mem hQueue)
  have hLink : after.channels.contains link = true := ChannelTable.contains_of_mem_queue hQueue
  have hMarked := hRun.marked_eq hFresh snapshot link
  have hOnce := hRun.count_joined_le hFresh snapshot link.source
  have hBit := Bool.toNat_le (after.part? snapshot link.source).isSome
  unfold Journal.marked at hMarked
  rw [if_pos hLink, hRun.accounts hFresh, List.count_append] at hMarked
  omega

/-! ### Who has still to report -/

/-- Whether nodes keep recordings only of snapshots that they have still to report. -/
def Current (net : Network) : Prop :=
  ∀ ⦃snapshot name⦄, net.Keeps snapshot name (fun _ => True) → net.isStale snapshot name = false

/-- Nothing changes if no node is given a recording and no collector changes. -/
theorem Current.of_keeps (hCurrent : net.Current)
    (hKeeps : ∀ {snapshot name}, after.Keeps snapshot name (fun _ => True) →
      net.Keeps snapshot name fun _ => True)
    (hCollectors : after.collectors = net.collectors) : after.Current := by
  intro snapshot name hKept
  unfold isStale
  rw [hCollectors]
  exact hCurrent (hKeeps hKept)

/-- A node that is given a recording of a snapshot that it has still to report keeps it so, or
reports. -/
theorem Current.withRecording {node : Node} {collector : Collector} {recording : Recording}
    (hCurrent : net.Current) (hNode : net.nodes.get? node.name = some node)
    (hFound : net.collectors.get? recording.snapshot = some collector)
    (hOpen : node.name ∉ collector.reported.keys) :
    (net.withRecording node collector recording).Current := by
  intro snapshot name hKeeps
  unfold Network.withRecording at hKeeps ⊢
  split at hKeeps
  · -- The recording is handed in; whoever else keeps one of the snapshot has not reported by that.
    next hEmpty =>
    rw [if_pos hEmpty]
    have hKept : recording.snapshot ≠ snapshot ∨ node.name ≠ name := by
      by_contra hBoth
      simp only [ne_eq, not_or, not_not] at hBoth
      obtain ⟨rfl, rfl⟩ := hBoth
      rcases keeps_withChanged hKeeps with ⟨-, kept, hErased, -⟩ | ⟨hElsewhere, -⟩
      · exact (SortedMap.get?_erase_eq_some_iff.mp hErased).1 rfl
      · exact hElsewhere rfl
    have hEarlier : net.Keeps snapshot name fun _ => True := by
      rcases keeps_withChanged hKeeps with ⟨rfl, kept, hErased, -⟩ | ⟨-, hEarlier⟩
      · exact keeps_of_get? hNode (SortedMap.get?_erase_eq_some_iff.mp hErased).2 True.intro
      · exact hEarlier
    obtain ⟨other, hOther, hUnreported⟩ := isStale_eq_false_iff.mp (hCurrent hEarlier)
    refine isStale_eq_false_iff.mpr ?_
    by_cases hSame : recording.snapshot = snapshot
    · subst hSame
      rw [hFound] at hOther
      cases hOther
      refine ⟨_, SortedMap.get?_insert_self .., fun hReported => ?_⟩
      rcases SortedMap.mem_keys_insert.mp hReported with hHere | hOld
      · exact hKept.elim (fun hNever => hNever rfl) fun hElsewhere => hElsewhere hHere.symm
      · exact hUnreported hOld
    · exact ⟨other, (SortedMap.get?_insert_of_ne _ _ hSame).trans hOther, hUnreported⟩
  · next hSome =>
    rw [if_neg hSome]
    have hGiven : (net.withRecording node collector recording).Keeps snapshot name
        fun _ => True := by
      unfold Network.withRecording
      rw [if_neg hSome]
      exact hKeeps
    rcases keeps_withRecording hNode hGiven with ⟨rfl, rfl, -⟩ | hEarlier
    · exact isStale_eq_false_iff.mpr ⟨collector, hFound, hOpen⟩
    · exact hCurrent hEarlier

theorem MarkerEffect.current {source target : String} {delivered : SnapshotId}
    (hEffect : MarkerEffect net source target delivered after) (hWell : net.WellFormed)
    (hCurrent : net.Current) : after.Current := by
  cases hEffect with
  | late hStale => exact hCurrent.of_keeps id rfl
  | repeated hFresh hNode hRecording hSeen => exact hCurrent.of_keeps id rfl
  | @first node collector generator parcels hNode hFresh hFound hAwaited hTargets hParcels hDues =>
      have hName : node.name = target := hWell.wired.name_eq hNode
      subst hName
      have hPosted : (net.posted generator parcels).Current := hCurrent.of_keeps id rfl
      exact hPosted.withRecording hNode hFound
        (hWell.not_mem_reported hFound hAwaited)
  | @next node collector recording hNode hRecording hUnseen hFound hAwaited =>
      have hName : node.name = target := hWell.wired.name_eq hNode
      subst hName
      have hSnapshot : recording.snapshot = delivered :=
        (hWell.recorded hNode hRecording).1.snapshot_eq
      subst hSnapshot
      exact hCurrent.withRecording hNode hFound
        (hWell.not_mem_reported hFound hAwaited)

/-- Unless a report comes from outside, whoever keeps a recording has still to report. -/
theorem Change.current (hChange : Change net happenings after) (hWell : net.WellFormed)
    (hHonest : Honest happenings) (hCurrent : net.Current) : after.Current := by
  cases hChange with
  | idle clock generator hStarted hClock => exact hCurrent.of_keeps id rfl
  | @addNode added tokens hOpen hNew =>
      have hAdded : (net.withChanged (Node.create added tokens)).Current :=
        hCurrent.of_keeps keeps_addNode rfl
      exact hAdded
  | addLink hOpen hSource hTarget hDistinct hNew =>
      exact hCurrent.of_keeps (keeps_connect hSource hTarget hDistinct) rfl
  | @send sender target amount node generator due hNode hLink hEnough hPunctual =>
      have hName : node.name = sender := hWell.wired.name_eq hNode
      subst hName
      have hPaid : (net.withChanged { node with tokens := node.tokens - amount }).Current :=
        hCurrent.of_keeps (keeps_withTokens hNode) rfl
      exact hPaid.of_keeps id rfl
  | @announce name next hName hNext =>
      intro snapshot other hKeeps
      obtain ⟨collector, hFound, hUnreported⟩ := isStale_eq_false_iff.mp (hCurrent hKeeps)
      refine isStale_eq_false_iff.mpr ⟨collector, ?_, hUnreported⟩
      -- The snapshot that is opened has no collector yet.
      have hOther : net.nextSnapshot ≠ snapshot := by
        rintro rfl
        rw [(hWell.collected.get?_eq_none (UInt64.lt_irrefl _)).1] at hFound
        cases hFound
      exact (SortedMap.get?_insert_of_ne _ _ hOther).trans hFound
  | @join joining joined node collector generator parcels hNode hFresh hFound hAwaited hTargets
      hParcels hPunctual =>
      have hName : node.name = joining := hWell.wired.name_eq hNode
      subst hName
      have hPosted : (net.posted generator parcels).Current := hCurrent.of_keeps id rfl
      exact hPosted.withRecording hNode hFound
        (hWell.not_mem_reported hFound hAwaited)
  | @credit sender target amount due tokens rest node hQueue hNode hTokens hDue =>
      have hName : node.name = target := hWell.wired.name_eq hNode
      subst hName
      have hTaken : (net.taken ⟨sender, node.name, .token amount, due⟩ rest).Current :=
        hCurrent.of_keeps id rfl
      exact hTaken.of_keeps (keeps_credited (fun _ _ hNone => hNone) hNode) rfl
  | @marker after sender target delivered due rest hQueue hEffect hDue =>
      have hTaken : (net.taken ⟨sender, target, .marker delivered, due⟩ rest).Current :=
        hCurrent.of_keeps id rfl
      exact hEffect.current ((hWell.popped hQueue).logged _) hTaken
  | notify hFound hAwaited => exact absurd List.mem_cons_self (hHonest _)
  | @retire retired collector hFound hComplete =>
      intro snapshot name hKeeps
      obtain ⟨other, hOther, hUnreported⟩ := isStale_eq_false_iff.mp (hCurrent hKeeps)
      refine isStale_eq_false_iff.mpr ⟨other, ?_, hUnreported⟩
      -- All nodes have reported to a collector that is complete.
      have hDifferent : retired ≠ snapshot := by
        rintro rfl
        rw [hFound] at hOther
        cases hOther
        obtain ⟨recording, hRecording, -⟩ := hKeeps
        obtain ⟨node, hNode, -⟩ := Option.bind_eq_some_iff.mp hRecording
        exact hUnreported ((hWell.collected.sound hFound).isComplete_iff.mp hComplete name
          (SortedMap.mem_keys_of_get? hNode))
      exact SortedMap.get?_erase_eq_some_iff.mpr ⟨hDifferent, hOther⟩
  | abandon snapshots =>
      intro snapshot name hKeeps
      obtain ⟨collector, hFound, hUnreported⟩ := isStale_eq_false_iff.mp (hCurrent hKeeps)
      have hLater : (Network.abandon snapshots net).collectors.get? snapshot =
          some (if snapshot ∈ snapshots then collector.abandon else collector) := by
        unfold Network.abandon
        simp only
        rw [SortedMap.get?_mapValues, hFound]
        rfl
      refine isStale_eq_false_iff.mpr ⟨_, hLater, ?_⟩
      split
      · rwa [reported_abandon]
      · exact hUnreported

/-- Unless reports come from outside, whoever keeps a recording has still to report. -/
theorem Run.current (hRun : Run net trace after) (hFresh : net.Fresh) (hHonest : Honest trace) :
    after.Current := by
  induction hRun with
  | start =>
      rintro snapshot name ⟨recording, hRecording, -⟩
      cases hFresh.recording?_eq_none.symm.trans hRecording
  | step hEarlier hStep ih =>
      obtain ⟨hBefore, hNow⟩ := honest_append.mp hHonest
      have hWell := hEarlier.wellFormed hFresh.wellFormed
      exact (hStep.change hWell).current hWell hNow (ih hBefore)

end Network

end TokenNet
