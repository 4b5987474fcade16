import TokenNet.Proofs.View

namespace TokenNet
namespace Network

/-!
# Completed snapshots

A snapshot is completed once its collector has the reports of all nodes.  What is handed out
for it is put together from these reports (`Network.WellFormed.completed?_eq_some_iff`), and
nothing that happens later changes it (`Network.Run.completed?_eq`), whether or not the snapshot
has been taken away in the meantime.
-/

variable {net after : Network} {snapshot : SnapshotId} {collector : Collector}

/-- What is handed out for a snapshot, once it is complete. -/
def completed? (net : Network) (snapshot : SnapshotId) : Option Snapshot :=
  (net.collectorOf? ⟨snapshot⟩).bind Collector.assemble?

theorem WellFormed.sound_of_collectorOf? (hWell : net.WellFormed)
    (hFound : net.collectorOf? ⟨snapshot⟩ = some collector) :
    collector.Sound snapshot net.nodes.keys := by
  unfold collectorOf? at hFound
  cases hUsed : net.collectors.get? snapshot with
  | none =>
      simp only [hUsed] at hFound
      exact (hWell.collected.retired_sound hFound).1
  | some other =>
      simp only [hUsed] at hFound
      cases hFound
      exact hWell.collected.sound hUsed

theorem WellFormed.started_of_collectorOf? (hWell : net.WellFormed)
    (hFound : net.collectorOf? ⟨snapshot⟩ = some collector) : snapshot < net.nextSnapshot := by
  by_contra hNew
  obtain ⟨hUnused, hUnretired⟩ := hWell.collected.get?_eq_none hNew
  unfold collectorOf? at hFound
  simp only [hUnused, hUnretired] at hFound
  cases hFound

/-- A snapshot that has been started has a collector, in use or taken away. -/
theorem WellFormed.exists_collectorOf? (hWell : net.WellFormed)
    (hStarted : snapshot < net.nextSnapshot) :
    ∃ collector, net.collectorOf? ⟨snapshot⟩ = some collector := by
  cases hUsed : net.collectors.get? snapshot with
  | some collector => exact ⟨collector, collectorOf?_of_get? hUsed⟩
  | none =>
      obtain ⟨collector, hRetired⟩ := hWell.collected.exists_retired hStarted hUsed
      exact ⟨collector, collectorOf?_of_retired hUsed hRetired⟩

/-- A completed snapshot is put together from the reports of all nodes. -/
theorem WellFormed.completed?_eq_some_iff (hWell : net.WellFormed) {assembled : Snapshot} :
    net.completed? snapshot = some assembled ↔
      ∃ collector, net.collectorOf? ⟨snapshot⟩ = some collector ∧ collector.isComplete = true ∧
        Snapshot.ofReports snapshot collector.reported = assembled := by
  unfold completed?
  rw [Option.bind_eq_some_iff]
  constructor
  · rintro ⟨collector, hFound, hAssembled⟩
    obtain ⟨hComplete, rfl⟩ := Collector.assemble?_eq_some_iff.mp hAssembled
    exact ⟨collector, hFound, hComplete, (hWell.sound_of_collectorOf? hFound).assemble_eq.symm⟩
  · rintro ⟨collector, hFound, hComplete, rfl⟩
    exact ⟨collector, hFound, Collector.assemble?_eq_some_iff.mpr
      ⟨hComplete, (hWell.sound_of_collectorOf? hFound).assemble_eq⟩⟩

/-- A node that has reported takes part with its report. -/
theorem part?_of_reported {collector : Collector} {name : String} {report : Report}
    (hFound : net.collectorOf? ⟨snapshot⟩ = some collector)
    (hReport : collector.reported.get? name = some report) :
    net.part? snapshot name = some (Part.ofReport report) :=
  part?_of_report? ((report?_of_collectorOf? hFound name).trans hReport)

/-- In a complete snapshot only those take part that have reported, and they are the nodes. -/
theorem WellFormed.part?_of_unreported {collector : Collector} {name : String}
    (hWell : net.WellFormed) (hFound : net.collectorOf? ⟨snapshot⟩ = some collector)
    (hComplete : collector.isComplete = true) (hReport : collector.reported.get? name = none) :
    net.part? snapshot name = none := by
  rw [part?_of_recording? ((report?_of_collectorOf? hFound name).trans hReport)]
  unfold recording?
  cases hNode : net.nodes.get? name with
  | none => rfl
  | some node =>
      have hAll := (hWell.sound_of_collectorOf? hFound).isComplete_iff.mp hComplete
      have hMember := hAll name (SortedMap.mem_keys_of_get? hNode)
      exact absurd hMember (SortedMap.get?_eq_none_iff.mp hReport)

/-- No marker of a complete snapshot is under way. -/
theorem WellFormed.marker_ne_of_complete {collector : Collector} (hWell : net.WellFormed)
    (hAccounted : (net.cut snapshot).Accounted)
    (hFound : net.collectorOf? ⟨snapshot⟩ = some collector) (hComplete : collector.isComplete = true)
    {link : Link} {parcel : Parcel} (hParcel : parcel ∈ net.channels.queue link) :
    parcel.message ≠ .marker snapshot := by
  intro hMessage
  have hLink : net.channels.contains link = true := ChannelTable.contains_of_mem_queue hParcel
  -- The receiver has reported, so it has had its markers.
  have hSound := hWell.sound_of_collectorOf? hFound
  obtain ⟨report, hReport⟩ := SortedMap.mem_keys_iff.mp
    (hSound.isComplete_iff.mp hComplete _ (hWell.wired.target_known hLink))
  have hClosed : (net.cut snapshot).isClosed link = true := Cut.isClosed_eq_true_iff.mpr
    ⟨Part.ofReport report, part?_of_reported hFound hReport, List.not_mem_nil⟩
  have hCount : ((net.cut snapshot).flow link).count .mark = 0 :=
    (hAccounted.count_mark hLink).trans (Cut.expected_eq_zero (Or.inr hClosed))
  refine absurd ?_ (List.count_eq_zero.mp hCount)
  rw [flow_cut]
  exact List.mem_filterMap.mpr ⟨parcel, hParcel, by simp [Parcel.item?, hMessage]⟩

theorem mem_outstanding_iff :
    snapshot ∈ net.outstanding ↔
      ∃ collector, net.collectors.get? snapshot = some collector ∧
        collector.isComplete = false := by
  unfold outstanding
  rw [SortedMap.mem_keys_iff]
  simp only [SortedMap.get?_filter, Option.filter_eq_some_iff, Bool.not_eq_true']

/-- If no snapshot is outstanding, every snapshot that has been started is complete. -/
theorem WellFormed.exists_complete (hWell : net.WellFormed) (hRested : net.outstanding = [])
    (hStarted : snapshot < net.nextSnapshot) :
    ∃ collector, net.collectorOf? ⟨snapshot⟩ = some collector ∧ collector.isComplete = true := by
  cases hUsed : net.collectors.get? snapshot with
  | some collector =>
      refine ⟨collector, collectorOf?_of_get? hUsed, Bool.of_not_eq_false fun hIncomplete => ?_⟩
      have hMember := mem_outstanding_iff.mpr ⟨collector, hUsed, hIncomplete⟩
      rw [hRested] at hMember
      exact List.not_mem_nil hMember
  | none =>
      obtain ⟨collector, hRetired⟩ := hWell.collected.exists_retired hStarted hUsed
      exact ⟨collector, collectorOf?_of_retired hUsed hRetired,
        (hWell.collected.retired_sound hRetired).2.1⟩

/-! ### Nothing changes a completed snapshot -/

/-- A report is taken from a node that is awaited, hence never for a complete snapshot. -/
theorem collectorOf?_admitted_of_complete {admitting : Collector} {report : Report}
    (hAdmitting : net.collectors.get? report.snapshot = some admitting)
    (hAwaited : report.node ∈ admitting.remaining.keys) (hComplete : collector.isComplete = true)
    (hFound : net.collectorOf? ⟨snapshot⟩ = some collector) :
    (net.admitted admitting report).collectorOf? ⟨snapshot⟩ = some collector := by
  rw [collectorOf?_admitted]
  by_cases hSnapshot : report.snapshot = snapshot
  · subst hSnapshot
    rw [collectorOf?_of_get? hAdmitting] at hFound
    cases hFound
    rw [Collector.isComplete_iff.mp hComplete] at hAwaited
    exact absurd hAwaited List.not_mem_nil
  · rw [if_neg hSnapshot]
    exact hFound

theorem collectorOf?_withRecording_of_complete {node : Node} {admitting : Collector}
    {recording : Recording} (hAdmitting : net.collectors.get? recording.snapshot = some admitting)
    (hAwaited : node.name ∈ admitting.remaining.keys) (hComplete : collector.isComplete = true)
    (hFound : net.collectorOf? ⟨snapshot⟩ = some collector) :
    (net.withRecording node admitting recording).collectorOf? ⟨snapshot⟩ = some collector := by
  unfold withRecording
  split
  · exact collectorOf?_admitted_of_complete hAdmitting hAwaited hComplete hFound
  · exact hFound

theorem collectorOf?_abandon_of_complete (snapshots : List SnapshotId)
    (hComplete : collector.isComplete = true)
    (hFound : net.collectorOf? ⟨snapshot⟩ = some collector) :
    (Network.abandon snapshots net).collectorOf? ⟨snapshot⟩ = some collector := by
  have hSame : collector.abandon = collector := if_pos hComplete
  unfold collectorOf? abandon at *
  simp only [SortedMap.get?_mapValues] at *
  cases hUsed : net.collectors.get? snapshot with
  | none =>
      simp only [hUsed] at hFound
      exact hFound
  | some other =>
      simp only [hUsed] at hFound
      cases hFound
      simp only [Option.map_some, hSame, ite_self]

theorem WellFormed.collectorOf?_announced_of_some (hWell : net.WellFormed) (name : String)
    (next : SnapshotId) (hFound : net.collectorOf? ⟨snapshot⟩ = some collector) :
    (net.announced name next).collectorOf? ⟨snapshot⟩ = some collector := by
  have hOld : net.nextSnapshot ≠ snapshot := by
    rintro rfl
    obtain ⟨hUnused, hUnretired⟩ := hWell.collected.get?_eq_none (UInt64.lt_irrefl _)
    unfold collectorOf? at hFound
    simp only [hUnused, hUnretired] at hFound
    cases hFound
  have hSame : (net.announced name next).collectors.get? snapshot =
      net.collectors.get? snapshot := SortedMap.get?_insert_of_ne _ _ hOld
  unfold collectorOf? at hFound ⊢
  simp only [hSame]
  exact hFound

theorem MarkerEffect.collectorOf?_of_complete {source target : String} {sent : SnapshotId}
    (hWell : net.WellFormed) (hEffect : MarkerEffect net source target sent after)
    (hComplete : collector.isComplete = true)
    (hFound : net.collectorOf? ⟨snapshot⟩ = some collector) :
    after.collectorOf? ⟨snapshot⟩ = some collector := by
  cases hEffect with
  | late hStale => exact hFound
  | repeated hCurrent hNode hRecording hSeen => exact hFound
  | first hNode hFresh hAdmitting hAwaited hTargets hParcels =>
      refine collectorOf?_withRecording_of_complete hAdmitting ?_ hComplete hFound
      rw [hWell.wired.name_eq hNode]
      exact hAwaited
  | next hNode hRecording hUnseen hAdmitting hAwaited =>
      have hSnapshot := (hWell.recorded hNode hRecording).1.snapshot_eq
      refine collectorOf?_withRecording_of_complete ?_ ?_ hComplete hFound
      · rw [← hSnapshot] at hAdmitting
        exact hAdmitting
      · rw [hWell.wired.name_eq hNode]
        exact hAwaited

/-- No change touches a complete collector. -/
theorem Change.collectorOf?_of_complete {happenings : List Happening} (hWell : net.WellFormed)
    (hChange : Change net happenings after) (hComplete : collector.isComplete = true)
    (hFound : net.collectorOf? ⟨snapshot⟩ = some collector) :
    after.collectorOf? ⟨snapshot⟩ = some collector := by
  cases hChange with
  | idle clock generator hStarted => exact hFound
  | addNode tokens hOpen hNew => exact hFound
  | addLink hOpen hSource hTarget hDistinct hNew => exact hFound
  | send generator due hNode hLink hEnough => exact hFound
  | announce hName hNext => exact hWell.collectorOf?_announced_of_some _ _ hFound
  | join hNode hFresh hAdmitting hAwaited hTargets hParcels =>
      refine collectorOf?_withRecording_of_complete hAdmitting ?_ hComplete hFound
      rw [hWell.wired.name_eq hNode]
      exact hAwaited
  | credit hQueue hNode hTokens => exact hFound
  | marker hQueue hEffect =>
      exact hEffect.collectorOf?_of_complete ((hWell.popped hQueue).logged _) hComplete hFound
  | notify hAdmitting hAwaited =>
      exact collectorOf?_admitted_of_complete hAdmitting hAwaited hComplete hFound
  | retire hRetired _ => exact (collectorOf?_retire hRetired snapshot).trans hFound
  | abandon snapshots => exact collectorOf?_abandon_of_complete snapshots hComplete hFound

/-- Nothing that happens later changes a completed snapshot. -/
theorem Run.completed?_eq {trace : List Happening} {assembled : Snapshot}
    (hRun : Run net trace after) (hWell : net.WellFormed)
    (hCompleted : net.completed? snapshot = some assembled) :
    after.completed? snapshot = some assembled := by
  induction hRun with
  | start => exact hCompleted
  | step hEarlier hStep ih =>
      have hBetween := hEarlier.wellFormed hWell
      obtain ⟨collector, hFound, hAssembled⟩ := Option.bind_eq_some_iff.mp ih
      have hComplete := (Collector.assemble?_eq_some_iff.mp hAssembled).1
      have hKept := (hStep.change hBetween).collectorOf?_of_complete hBetween hComplete hFound
      exact Option.bind_eq_some_iff.mpr ⟨collector, hKept, hAssembled⟩

end Network
end TokenNet
