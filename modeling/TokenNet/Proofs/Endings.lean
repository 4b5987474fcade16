import TokenNet.Proofs.Completed
import TokenNet.Proofs.Fresh

namespace TokenNet

/-!
# What the journal tells of snapshots

The journal tells the start of each snapshot once, and of each node that has handed in its part of a
snapshot it tells so once, and of nobody else (`Network.Registered`).  Only two changes write of
snapshots: one that opens a snapshot, with a number that has not been used, and one by which a
collector takes a report, from a node that it still awaits.  So every change keeps the journal in
order (`Network.Change.registered`), and so does every run, reports from outside included
(`Network.Run.registered`).
-/

namespace Event

/-- The snapshot that is told to have been started. -/
def started? : Event → Option SnapshotId
  | snapshotStarted _ _ snapshot => some snapshot
  | _ => none

/-- The node whose part of a snapshot is told to have been handed in, and the snapshot. -/
def ended? : Event → Option (String × SnapshotId)
  | snapshotEnded _ name snapshot => some (name, snapshot)
  | _ => none

end Event

/-- The snapshots that are told to have been started, in order. -/
def startings (events : List Event) : List SnapshotId := events.filterMap Event.started?

/-- The nodes whose parts are told to have been handed in, each with the snapshot, in order. -/
def endings (events : List Event) : List (String × SnapshotId) := events.filterMap Event.ended?

@[simp] theorem startings_append (earlier later : List Event) :
    startings (earlier ++ later) = startings earlier ++ startings later :=
  List.filterMap_append

@[simp] theorem endings_append (earlier later : List Event) :
    endings (earlier ++ later) = endings earlier ++ endings later :=
  List.filterMap_append

@[simp] theorem startings_sent (tick : UInt64) (parcels : List Parcel) :
    startings (parcels.map (Event.sent tick)) = [] := by
  simp [startings, Event.started?]

@[simp] theorem endings_sent (tick : UInt64) (parcels : List Parcel) :
    endings (parcels.map (Event.sent tick)) = [] := by
  simp [endings, Event.ended?]

namespace Network

variable {net after : Network}

@[simp] theorem startings_admitted (net : Network) (collector : Collector) (report : Report) :
    startings (net.admitted collector report).journal.toList = startings net.journal.toList :=
  (congrArg startings (Journal.toList_write ..)).trans
    ((startings_append _ _).trans (List.append_nil _))

@[simp] theorem endings_admitted (net : Network) (collector : Collector) (report : Report) :
    endings (net.admitted collector report).journal.toList =
      endings net.journal.toList ++ [(report.node, report.snapshot)] :=
  (congrArg endings (Journal.toList_write ..)).trans (endings_append _ _)

@[simp] theorem startings_announced (net : Network) (name : String) (next : SnapshotId) :
    startings (net.announced name next).journal.toList =
      startings net.journal.toList ++ [net.nextSnapshot] :=
  (congrArg startings (Journal.toList_write ..)).trans (startings_append _ _)

@[simp] theorem endings_announced (net : Network) (name : String) (next : SnapshotId) :
    endings (net.announced name next).journal.toList = endings net.journal.toList :=
  (congrArg endings (Journal.toList_write ..)).trans
    ((endings_append _ _).trans (List.append_nil _))

/-- The journal tells each start of a snapshot and each report that has been taken, once. -/
structure Registered (net : Network) : Prop where
  /-- A snapshot is told to have been started once if it has been. -/
  count_startings : ∀ snapshot, (startings net.journal.toList).count snapshot =
    if snapshot < net.nextSnapshot then 1 else 0
  /-- A part is told to have been handed in once if it has been. -/
  count_endings : ∀ name snapshot, (endings net.journal.toList).count (name, snapshot) =
    if (net.report? snapshot name).isSome then 1 else 0

theorem Fresh.registered (hFresh : net.Fresh) : net.Registered := by
  refine ⟨fun snapshot => ?_, fun name snapshot => ?_⟩
  · rw [hFresh.journal_eq_nil, hFresh.nextSnapshot_eq, if_neg UInt64.not_lt_zero]
    rfl
  · have hNone : net.report? snapshot name = none := by
      refine Option.eq_none_iff_forall_ne_some.mpr fun report hReport => ?_
      have hPart := hFresh.part?_eq_none snapshot name
      rw [part?_of_report? hReport] at hPart
      cases hPart
    rw [hFresh.journal_eq_nil, hNone]
    rfl

namespace Registered

variable {snapshot : SnapshotId} {name : String}

theorem mem_endings_iff (hRegistered : net.Registered) :
    (name, snapshot) ∈ endings net.journal.toList ↔ (net.report? snapshot name).isSome = true := by
  rw [← List.count_pos_iff, hRegistered.count_endings]
  split <;> simp_all

/-- Nobody is told twice. -/
theorem nodup_endings (hRegistered : net.Registered) :
    (endings net.journal.toList).Nodup := by
  refine List.nodup_iff_count_le_one.mpr fun ending => ?_
  rw [hRegistered.count_endings ending.1 ending.2]
  split <;> omega

/-- What writes nothing of snapshots, and takes no report, keeps the journal in order. -/
theorem told (hRegistered : net.Registered) {events : List Event}
    (hJournal : after.journal.toList = net.journal.toList ++ events)
    (hStartings : startings events = []) (hEndings : endings events = [])
    (hNext : after.nextSnapshot = net.nextSnapshot)
    (hReports : ∀ snapshot name, after.report? snapshot name = net.report? snapshot name) :
    after.Registered := by
  refine ⟨fun snapshot => ?_, fun name snapshot => ?_⟩
  · rw [hJournal, startings_append, hStartings, List.append_nil, hNext,
      hRegistered.count_startings]
  · rw [hJournal, endings_append, hEndings, List.append_nil, hReports, hRegistered.count_endings]

/-- A collector takes a report from a node that it awaits, which has not been told before. -/
theorem admitted (hRegistered : net.Registered) {collector : Collector} {report : Report}
    (hFound : net.collectors.get? report.snapshot = some collector)
    (hOpen : report.node ∉ collector.reported.keys) :
    (net.admitted collector report).Registered := by
  refine ⟨fun snapshot => ?_, fun name snapshot => ?_⟩
  · rw [startings_admitted]
    exact hRegistered.count_startings snapshot
  · rw [endings_admitted, List.count_append, List.count_singleton, report?_admitted hFound,
      hRegistered.count_endings]
    simp only [beq_iff_eq]
    by_cases hHere : report.snapshot = snapshot ∧ report.node = name
    · obtain ⟨rfl, rfl⟩ := hHere
      have hNone : net.report? report.snapshot report.node = none :=
        (report?_of_get? hFound _).trans (SortedMap.get?_eq_none_iff.mpr hOpen)
      simp [hNone]
    · have hOther : (report.node, report.snapshot) ≠ (name, snapshot) := fun hEqual =>
        hHere ⟨congrArg Prod.snd hEqual, congrArg Prod.fst hEqual⟩
      rw [if_neg hOther, if_neg hHere, Nat.add_zero]

/-- A recording is kept, or its node hands in its part. -/
theorem withRecording (hRegistered : net.Registered) {node : Node} {collector : Collector}
    {recording : Recording} (hName : node.name = name)
    (hFound : net.collectors.get? recording.snapshot = some collector)
    (hOpen : name ∉ collector.reported.keys) :
    (net.withRecording node collector recording).Registered := by
  subst hName
  have hChanged : ∀ changed, (net.withChanged changed).Registered := fun changed =>
    hRegistered.told (List.append_nil _).symm rfl rfl rfl fun _ _ => rfl
  unfold Network.withRecording
  split
  · exact (hChanged _).admitted hFound hOpen
  · exact hChanged _

theorem posted (hRegistered : net.Registered) (generator : Generator) (parcels : List Parcel) :
    (net.posted generator parcels).Registered :=
  hRegistered.told (Journal.toList_writeAll ..) (startings_sent ..) (endings_sent ..) rfl
    fun _ _ => rfl

/-- A snapshot is opened under a number that has not been told before. -/
theorem announced (hRegistered : net.Registered) (hWell : net.WellFormed) (name : String)
    {next : SnapshotId} (hNext : checkedAdd net.nextSnapshot 1 = .ok next) :
    (net.announced name next).Registered := by
  have hNow : (net.announced name next).nextSnapshot = next := rfl
  refine ⟨fun snapshot => ?_, fun other snapshot => ?_⟩
  · rw [startings_announced, List.count_append, List.count_singleton, hRegistered.count_startings,
      hNow]
    simp only [beq_iff_eq, lt_next_iff hNext]
    by_cases hEqual : net.nextSnapshot = snapshot
    · subst hEqual
      simp [UInt64.lt_irrefl]
    · simp [hEqual, Ne.symm hEqual]
  · rw [endings_announced, hWell.report?_announced]
    exact hRegistered.count_endings other snapshot

end Registered

theorem MarkerEffect.registered {source target : String} {snapshot : SnapshotId}
    (hEffect : MarkerEffect net source target snapshot after) (hWell : net.WellFormed)
    (hRegistered : net.Registered) : after.Registered := by
  cases hEffect with
  | late hStale => exact hRegistered.told (Journal.toList_write ..) rfl rfl rfl fun _ _ => rfl
  | repeated hCurrent hNode hRecording hSeen =>
      exact hRegistered.told (Journal.toList_write ..) rfl rfl rfl fun _ _ => rfl
  | first hNode hFresh hFound hAwaited hTargets hParcels =>
      exact (hRegistered.posted _ _).withRecording (hWell.wired.name_eq hNode) hFound
        (hWell.not_mem_reported hFound hAwaited)
  | next hNode hRecording hUnseen hFound hAwaited =>
      have hSnapshot := (hWell.recorded hNode hRecording).1.snapshot_eq
      refine hRegistered.withRecording (hWell.wired.name_eq hNode) ?_
        (hWell.not_mem_reported hFound hAwaited)
      rw [← hSnapshot] at hFound
      exact hFound

/-- Every change keeps the journal in order. -/
theorem Change.registered {happenings : List Happening} (hChange : Change net happenings after)
    (hWell : net.WellFormed) (hRegistered : net.Registered) : after.Registered := by
  cases hChange with
  | idle clock generator hStarted =>
      exact hRegistered.told (List.append_nil _).symm rfl rfl rfl fun _ _ => rfl
  | addNode tokens hOpen hNew =>
      exact hRegistered.told (List.append_nil _).symm rfl rfl rfl fun _ _ => rfl
  | addLink hOpen hSource hTarget hDistinct hNew =>
      exact hRegistered.told (List.append_nil _).symm rfl rfl rfl fun _ _ => rfl
  | send generator due hNode hLink hEnough =>
      exact hRegistered.told (Journal.toList_writeAll ..) rfl rfl rfl fun _ _ => rfl
  | announce hName hNext => exact hRegistered.announced hWell _ hNext
  | join hNode hFresh hFound hAwaited hTargets hParcels =>
      exact (hRegistered.posted _ _).withRecording (hWell.wired.name_eq hNode) hFound
        (hWell.not_mem_reported hFound hAwaited)
  | credit hQueue hNode hTokens =>
      exact hRegistered.told (Journal.toList_write ..) rfl rfl rfl fun _ _ => rfl
  | marker hQueue hEffect =>
      refine hEffect.registered ((hWell.popped hQueue).logged _) ?_
      exact hRegistered.told (Journal.toList_write ..) rfl rfl rfl fun _ _ => rfl
  | notify hFound hAwaited =>
      exact hRegistered.admitted hFound (hWell.not_mem_reported hFound hAwaited)
  | retire hFound hComplete =>
      exact hRegistered.told (List.append_nil _).symm rfl rfl rfl (report?_retire hFound)
  | abandon snapshots =>
      exact hRegistered.told (List.append_nil _).symm rfl rfl rfl (report?_abandon snapshots)

theorem Run.registered {trace : List Happening} (hRun : Run net trace after)
    (hWell : net.WellFormed) (hRegistered : net.Registered) : after.Registered := by
  induction hRun with
  | start => exact hRegistered
  | step hEarlier hStep ih =>
      have hBetween := hEarlier.wellFormed hWell
      exact (hStep.change hBetween).registered hBetween ih

end Network
end TokenNet
