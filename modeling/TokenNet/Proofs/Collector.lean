import TokenNet.Collector
import TokenNet.Proofs.Maps
import TokenNet.Proofs.Outcome

namespace TokenNet

/-!
# Sound collectors

A collector of a network awaits exactly the nodes that have not reported, and keeps every
report under the node that it comes from (`Collector.Sound`).  Reports that it accepts
keep it so (`Collector.Sound.accepted`), and it is complete once every node has reported
(`Collector.Sound.isComplete_iff`).  A complete collector accepts nothing.
-/

namespace Collector

/-- The collector after it has accepted a report. -/
def accepted (collector : Collector) (report : Report) : Collector :=
  { collector with
    remaining := collector.remaining.erase report.node
    reported := collector.reported.insert report.node report }

/-- A report is accepted exactly if it is of the snapshot and its node is awaited. -/
theorem accept_eq_done_iff {collector after : Collector} {report : Report} {complete : Bool} :
    accept report collector = .done complete after ↔
      report.snapshot = collector.snapshot ∧ report.node ∈ collector.remaining.keys ∧
        after = collector.accepted report ∧ complete = after.isComplete := by
  unfold accept
  by_cases hSnapshot : report.snapshot = collector.snapshot
  · by_cases hAwaited : collector.remaining.contains report.node = true
    · have hMember : report.node ∈ collector.remaining.keys :=
        SortedMap.contains_iff.mp hAwaited
      simp only [ne_eq, hSnapshot, not_true_eq_false, if_false, hAwaited, Bool.not_true,
        Bool.false_eq_true, Outcome.done.injEq, hMember, true_and]
      constructor
      · rintro ⟨rfl, rfl⟩
        exact ⟨rfl, rfl⟩
      · rintro ⟨rfl, rfl⟩
        exact ⟨rfl, rfl⟩
    · have hMember : report.node ∉ collector.remaining.keys := fun hMember =>
        hAwaited (SortedMap.contains_iff.mpr hMember)
      simp [hSnapshot, hAwaited, hMember]
  · simp [hSnapshot]

/-- What holds of the collectors of a network with the given nodes. -/
structure Sound (snapshot : SnapshotId) (names : List String) (collector : Collector) :
    Prop where
  /-- The collector is stored under its snapshot. -/
  snapshot_eq : collector.snapshot = snapshot
  /-- Awaited are the nodes that have not reported. -/
  awaited_iff : ∀ {name}, name ∈ collector.remaining.keys ↔
    name ∈ names ∧ name ∉ collector.reported.keys
  /-- Only nodes have reported. -/
  reported_known : ∀ {name}, name ∈ collector.reported.keys → name ∈ names
  /-- A report is kept under its node. -/
  report_node : ∀ {name report}, collector.reported.get? name = some report →
    report.node = name

theorem Sound.accepted {snapshot : SnapshotId} {names : List String} {collector : Collector}
    {report : Report} (hSound : collector.Sound snapshot names)
    (hAwaited : report.node ∈ collector.remaining.keys) :
    (collector.accepted report).Sound snapshot names := by
  refine ⟨hSound.snapshot_eq, fun {name} => ?_, fun {name} hReported => ?_,
    fun {name other} hFound => ?_⟩
  · show name ∈ (collector.remaining.erase report.node).keys ↔
      name ∈ names ∧ name ∉ (collector.reported.insert report.node report).keys
    rw [SortedMap.mem_keys_erase, SortedMap.mem_keys_insert, hSound.awaited_iff, not_or]
    constructor
    · rintro ⟨hOther, hName, hOpen⟩
      exact ⟨hName, hOther, hOpen⟩
    · rintro ⟨hName, hOther, hOpen⟩
      exact ⟨hOther, hName, hOpen⟩
  · rcases SortedMap.mem_keys_insert.mp hReported with rfl | hOld
    · exact (hSound.awaited_iff.mp hAwaited).1
    · exact hSound.reported_known hOld
  · replace hFound : (collector.reported.insert report.node report).get? name = some other :=
      hFound
    rcases SortedMap.get?_insert_eq_some_iff.mp hFound with ⟨hName, rfl⟩ | ⟨-, hOld⟩
    · exact hName
    · exact hSound.report_node hOld

theorem hasReported_iff {collector : Collector} {name : String} :
    collector.hasReported name = true ↔ name ∈ collector.reported.keys :=
  SortedMap.contains_iff

theorem isComplete_iff {collector : Collector} :
    collector.isComplete = true ↔ collector.remaining.keys = [] := by
  unfold isComplete outstanding
  rw [decide_eq_true_iff, SortedMap.size_eq_zero_iff]

/-- A sound collector is complete once every node has reported. -/
theorem Sound.isComplete_iff {snapshot : SnapshotId} {names : List String}
    {collector : Collector} (hSound : collector.Sound snapshot names) :
    collector.isComplete = true ↔ ∀ name ∈ names, name ∈ collector.reported.keys := by
  rw [Collector.isComplete_iff, List.eq_nil_iff_forall_not_mem]
  constructor
  · intro hNone name hName
    by_cases hReported : name ∈ collector.reported.keys
    · exact hReported
    · exact absurd (hSound.awaited_iff.mpr ⟨hName, hReported⟩) (hNone name)
  · intro hAll name hAwaited
    exact (hSound.awaited_iff.mp hAwaited).2 (hAll name (hSound.awaited_iff.mp hAwaited).1)

/-- The reports of a sound collector are put together as they are kept. -/
theorem Sound.assemble_eq {snapshot : SnapshotId} {names : List String}
    {collector : Collector} (hSound : collector.Sound snapshot names) :
    Snapshot.assemble collector.snapshot collector.reported.values =
      Snapshot.ofReports snapshot collector.reported := by
  have hEntries : (collector.reported.values.map fun report => (report.node, report)) =
      collector.reported.toList := by
    unfold SortedMap.values
    rw [List.map_map]
    refine (List.map_congr_left fun entry hEntry => ?_).trans (List.map_id _)
    exact Prod.ext (hSound.report_node (SortedMap.get?_eq_some_iff.mpr hEntry)) rfl
  unfold Snapshot.assemble Snapshot.byNode
  rw [hEntries, SortedMap.ofList_toList, hSound.snapshot_eq]

theorem assemble?_eq_some_iff {collector : Collector} {snapshot : Snapshot} :
    collector.assemble? = some snapshot ↔ collector.isComplete = true ∧
      Snapshot.assemble collector.snapshot collector.reported.values = snapshot := by
  unfold assemble?
  by_cases hComplete : collector.isComplete = true <;> simp [hComplete]

theorem wait_eq_ready_iff {collector : Collector} {snapshot : Snapshot} :
    collector.wait = .ready snapshot ↔ collector.assemble? = some snapshot := by
  unfold wait
  cases hAssembled : collector.assemble? with
  | none => cases collector.abandoned <;> simp
  | some assembled => simp

end Collector

end TokenNet
