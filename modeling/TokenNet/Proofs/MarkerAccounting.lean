import TokenNet.Proofs.ConsistentCut
import TokenNet.Proofs.Courses
import TokenNet.Proofs.Recordings
import Mathlib.Data.List.Perm.Subperm

namespace TokenNet

/-!
# Markers are accounted for exactly

While no report comes from outside, a node that takes part in a snapshot sends one marker on each of
its links and nobody else sends any; each of them is under way until its receiver has had it; none
is turned down; and what nodes keep about a snapshot is gone once it is complete
(`Network.markers_accounted`).
-/

namespace Network

variable {net after last : Network} {happenings trace : List Happening} {snapshot : SnapshotId}

/-! ### No marker is turned down -/

/-- A marker comes on a link that is not closed, so it is of use when it comes. -/
theorem MarkerEffect.rejected_eq {source target : String} {due : UInt64} {rest : List Parcel}
    (hEffect : MarkerEffect (net.taken ⟨source, target, .marker snapshot, due⟩ rest) source target
      snapshot after)
    (hWell : net.WellFormed) (hAccounted : (net.cut snapshot).Accounted)
    (hQueue : net.channels.queue ⟨source, target⟩ =
      ⟨source, target, .marker snapshot, due⟩ :: rest) :
    after.rejected = net.rejected := by
  obtain ⟨hLink, -, hOpen, -⟩ := hAccounted.of_flow_eq_mark (flow_of_marker hQueue)
  cases hEffect with
  | late hStale =>
      have hStarted : snapshot < net.nextSnapshot :=
        hWell.marked (hQueue ▸ List.mem_cons_self) rfl
      have hClosed : (net.cut snapshot).isClosed ⟨source, target⟩ = true :=
        hWell.isClosed_of_stale hStale hStarted hLink
      cases hOpen.symm.trans hClosed
  | repeated hCurrent hNode hRecording hSeen =>
      have hClosed : (net.cut snapshot).isClosed ⟨source, target⟩ = true :=
        hWell.isClosed_of_seen hCurrent hNode hRecording hSeen
      cases hOpen.symm.trans hClosed
  | first hNode hFresh hFound hAwaited hTargets hParcels hPunctual => exact rejected_withRecording ..
  | next hNode hRecording hUnseen hFound hAwaited => exact rejected_withRecording ..

theorem Change.rejected_eq (hChange : Change net happenings after) (hWell : net.WellFormed)
    (hAccounted : ∀ snapshot, (net.cut snapshot).Accounted) : after.rejected = net.rejected := by
  cases hChange with
  | join hNode hFresh hFound hAwaited hTargets hParcels hPunctual => exact rejected_withRecording ..
  | marker hQueue hEffect hDue => exact hEffect.rejected_eq hWell (hAccounted _) hQueue
  | _ => rfl

/-- While no report comes from outside, no marker is turned down. -/
theorem Run.rejected_eq (hRun : Run net trace after) (hFresh : net.Fresh) (hHonest : Honest trace) :
    after.rejected = net.rejected := by
  induction hRun with
  | start => rfl
  | step hEarlier hStep ih =>
      obtain ⟨hBefore, -⟩ := honest_append.mp hHonest
      have hWell := hEarlier.wellFormed hFresh.wellFormed
      have hAccounted := fun snapshot => (hEarlier.reached hFresh hBefore snapshot).accounted
      rw [(hStep.change hWell).rejected_eq hWell hAccounted, ih hBefore]

/-! ### What is known of one snapshot -/

/-- Where the markers of a snapshot are and who keeps a recording of it, after what has happened. -/
structure Accounting (net : Network) (trace : List Happening) (snapshot : SnapshotId) : Prop where
  /-- A node has joined once if it has reported or keeps a recording, and has not joined otherwise. -/
  count_joined : ∀ name, trace.count (.joined name snapshot) =
    if (net.report? snapshot name).isSome ∨ (net.recording? snapshot name).isSome then 1 else 0
  /-- One marker has been sent on each link whose source has joined, and none on any other. -/
  count_sent : ∀ link, net.channels.contains link = true →
    (net.journal.sentOn link).count (.marker snapshot) =
      if .joined link.source snapshot ∈ trace then 1 else 0
  /-- It is under way until the target of the link has received it. -/
  count_queue : ∀ link, net.channels.contains link = true →
    ((net.channels.queue link).map Parcel.message).count (.marker snapshot) =
      if .joined link.source snapshot ∈ trace ∧ .marker snapshot ∉ net.journal.receivedOn link then 1
      else 0
  /-- Whoever keeps a recording has not reported, and the snapshot is outstanding. -/
  recording : ∀ name, (net.recording? snapshot name).isSome = true →
    net.report? snapshot name = none ∧ snapshot ∈ net.outstanding
  /-- Once the snapshot is complete, no marker is under way and nobody keeps a recording. -/
  complete : ∀ collector, net.collectorOf? ⟨snapshot⟩ = some collector →
    collector.isComplete = true →
      (∀ link, ∀ parcel ∈ net.channels.queue link, parcel.message ≠ .marker snapshot) ∧
        ∀ name, net.recording? snapshot name = none

/-- A node takes part if it has reported or keeps a recording. -/
theorem isSome_part?_eq (name : String) : (net.part? snapshot name).isSome =
    ((net.report? snapshot name).isSome || (net.recording? snapshot name).isSome) := by
  unfold part?
  cases net.report? snapshot name with
  | none => exact Option.isSome_map
  | some report => rfl

/-- Whoever joins a snapshot joins it once. -/
theorem Run.count_joined_eq (hRun : Run net trace after) (hFresh : net.Fresh) (name : String) :
    trace.count (.joined name snapshot) = if .joined name snapshot ∈ trace then 1 else 0 := by
  have hOnce := hRun.count_joined_le hFresh snapshot name
  have hBit := Bool.toNat_le (after.part? snapshot name).isSome
  split
  · next hJoined =>
    have hSome := List.count_pos_iff.mpr hJoined
    omega
  · next hIdle => exact List.count_eq_zero.mpr hIdle

/-- A node that keeps a recording has not reported, so the snapshot is outstanding. -/
theorem Current.of_recording {name : String} (hCurrent : net.Current) (hWell : net.WellFormed)
    (hRecording : (net.recording? snapshot name).isSome = true) :
    net.report? snapshot name = none ∧ snapshot ∈ net.outstanding := by
  obtain ⟨recording, hKept⟩ := Option.isSome_iff_exists.mp hRecording
  obtain ⟨node, hNode, -⟩ := Option.bind_eq_some_iff.mp hKept
  obtain ⟨collector, hFound, hOpen⟩ :=
    isStale_eq_false_iff.mp (hCurrent ⟨recording, hKept, True.intro⟩)
  have hIncomplete : ¬ collector.isComplete = true := fun hComplete =>
    hOpen ((hWell.collected.sound hFound).isComplete_iff.mp hComplete name
      (SortedMap.mem_keys_of_get? hNode))
  constructor
  · rw [report?_of_get? hFound]
    exact SortedMap.get?_eq_none_iff.mpr hOpen
  · exact mem_outstanding_iff.mpr ⟨collector, hFound, Bool.eq_false_iff.mpr hIncomplete⟩

/-- Nobody keeps a recording of a complete snapshot. -/
theorem Current.recording?_of_complete {collector : Collector} (hCurrent : net.Current)
    (hWell : net.WellFormed) (hFound : net.collectorOf? ⟨snapshot⟩ = some collector)
    (hComplete : collector.isComplete = true) (name : String) :
    net.recording? snapshot name = none := by
  cases hRecording : net.recording? snapshot name with
  | none => rfl
  | some recording =>
      obtain ⟨node, hNode, -⟩ := Option.bind_eq_some_iff.mp hRecording
      have hNone := (hCurrent.of_recording hWell (Option.isSome_of_eq_some hRecording)).1
      rw [report?_of_collectorOf? hFound, SortedMap.get?_eq_none_iff] at hNone
      exact absurd ((hWell.sound_of_collectorOf? hFound).isComplete_iff.mp hComplete name
        (SortedMap.mem_keys_of_get? hNode)) hNone

/-- The markers of every snapshot are accounted for after every run in which no report comes from
outside. -/
theorem Run.accounting (hRun : Run net trace after) (hFresh : net.Fresh) (hHonest : Honest trace)
    (snapshot : SnapshotId) : after.Accounting trace snapshot := by
  have hWell := hRun.wellFormed hFresh.wellFormed
  have hCurrent := hRun.current hFresh hHonest
  have hSent : ∀ link, after.channels.contains link = true →
      (after.journal.sentOn link).count (.marker snapshot) =
        if .joined link.source snapshot ∈ trace then 1 else 0 := by
    intro link hLink
    have hMarked := hRun.marked_eq hFresh snapshot link
    rw [if_pos hLink, hRun.count_joined_eq hFresh] at hMarked
    exact hMarked
  refine ⟨fun name => ?_, hSent, fun link hLink => ?_, fun name hRecording => ?_,
    fun collector hFound hComplete => ⟨fun link parcel hParcel => ?_, ?_⟩⟩
  · rw [hRun.count_joined hFresh hHonest, isSome_part?_eq]
    cases (after.report? snapshot name).isSome <;>
      cases (after.recording? snapshot name).isSome <;> rfl
  · -- What has been sent has been received or is under way.
    have hSplit := hSent link hLink
    rw [hRun.accounts hFresh, List.count_append] at hSplit
    by_cases hReceived : .marker snapshot ∈ after.journal.receivedOn link
    · have hCame := List.count_pos_iff.mpr hReceived
      rw [if_neg fun hBoth => hBoth.2 hReceived]
      split at hSplit <;> omega
    · rw [List.count_eq_zero.mpr hReceived, Nat.zero_add] at hSplit
      simp only [hReceived, not_false_eq_true, and_true]
      exact hSplit
  · exact hCurrent.of_recording hWell hRecording
  · exact hWell.marker_ne_of_complete (hRun.reached hFresh hHonest snapshot).accounted hFound
      hComplete hParcel
  · exact hCurrent.recording?_of_complete hWell hFound hComplete

/-- A node takes part in no more snapshots than are outstanding. -/
theorem Current.activeRecordings_le {name : String} {node : Node} (hCurrent : net.Current)
    (hWell : net.WellFormed) (hNode : net.nodes.get? name = some node) :
    node.activeRecordings ≤ net.outstanding.length := by
  have hSubset : node.recordings.keys ⊆ net.outstanding := by
    intro snapshot hMember
    obtain ⟨recording, hRecording⟩ := SortedMap.mem_keys_iff.mp hMember
    have hKept : net.recording? snapshot name = some recording := by
      unfold recording?
      rw [hNode, Option.bind_some, hRecording]
    exact (hCurrent.of_recording hWell (Option.isSome_of_eq_some hKept)).2
  have hLength : node.recordings.keys.length = node.activeRecordings := List.length_map ..
  rw [← hLength]
  exact (List.subperm_of_subset node.recordings.nodup_keys hSubset).length_le

/-! ### Every history -/

/-- Nothing has been turned down before anything has been asked of a network. -/
theorem rejected_ofConfig {config : Config} (hBuilt : ofConfig config = .ok net) :
    net.rejected = 0 := by
  obtain ⟨trace, hRun, -⟩ := course_ofConfig hBuilt
  obtain ⟨events, hTells⟩ := hRun.tells (fresh_empty config.seed config.maxDelay).wellFormed
  have hEvents : events = [] := by
    have hWritten := hTells.toList_journal
    rw [(fresh_ofConfig hBuilt).journal_eq_nil] at hWritten
    exact (List.append_eq_nil_iff.mp hWritten.symm).2
  rw [hTells.rejected_eq, hEvents]
  rfl

/-- Whatever the calls are, as long as none hands in a report from outside, the markers of every
snapshot are accounted for, no marker has been turned down, and no node takes part in more snapshots
than are outstanding. -/
theorem markers_accounted {config : Config} {calls : List Call} {replies : List Reply}
    (hBuilt : ofConfig config = .ok net) (hOwn : ∀ call ∈ calls, call.isNotify = false)
    (hHistory : net.history calls = .ok (replies, last)) :
    (∃ trace, Run net trace last ∧ Honest trace) ∧
      (∀ trace, Run net trace last → Honest trace → ∀ snapshot, last.Accounting trace snapshot) ∧
        last.rejected = 0 ∧
          ∀ name node, last.nodes.get? name = some node →
            node.activeRecordings ≤ last.outstanding.length := by
  have hFresh := fresh_ofConfig hBuilt
  obtain ⟨trace, hRun, hHonest, -⟩ := history_leads hFresh.wellFormed hOwn hHistory
  refine ⟨⟨trace, hRun, hHonest⟩, fun other hOther => hOther.accounting hFresh, ?_, ?_⟩
  · rw [hRun.rejected_eq hFresh hHonest, rejected_ofConfig hBuilt]
  · intro name node hNode
    exact (hRun.current hFresh hHonest).activeRecordings_le (hRun.wellFormed hFresh.wellFormed) hNode

/-- In the middle of the sample history, where a node keeps a recording of the first snapshot, both
snapshots are accounted for. -/
theorem markers_accounted_pair :
    ∃ net replies last trace, ofConfig pairConfig = .ok net ∧
      net.history (pairCalls.take 8) = .ok (replies, last) ∧ last.outstanding = [0, 1] ∧
      (last.recording? 0 "A").isSome = true ∧ Run net trace last ∧ Honest trace ∧
      last.Accounting trace 0 ∧ last.Accounting trace 1 ∧ last.rejected = 0 := by
  have hPlays : (played? pairConfig (pairCalls.take 8)).any (fun outcome =>
      decide (outcome.2.2.outstanding = [0, 1]) && (outcome.2.2.recording? 0 "A").isSome) = true := by
    decide +kernel
  obtain ⟨net, replies, last, hBuilt, hHistory, hBoth⟩ := exists_of_played? hPlays
  rw [Bool.and_eq_true, decide_eq_true_eq] at hBoth
  obtain ⟨hOutstanding, hKept⟩ := hBoth
  obtain ⟨⟨trace, hRun, hHonest⟩, hAll, hNone, -⟩ := markers_accounted hBuilt (by decide) hHistory
  exact ⟨net, replies, last, trace, hBuilt, hHistory, hOutstanding, hKept, hRun, hHonest,
    hAll trace hRun hHonest 0, hAll trace hRun hHonest 1, hNone⟩

end Network

end TokenNet
