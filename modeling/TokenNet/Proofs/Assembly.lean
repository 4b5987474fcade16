import TokenNet.Proofs.Comparison
import TokenNet.Proofs.Folds
import TokenNet.Proofs.Sums
import TokenNet.Snapshot.Digest

namespace TokenNet

/-!
# Assembled snapshots

Reports of different nodes come to one snapshot, in whatever order they are put together
(`Snapshot.assemble_perm`).  Nothing is lost and nothing is added: the balances are those reported,
and the transfers are those reported, without the ones that carry nothing
(`Snapshot.messages_assemble_perm`).

If every node reports nothing but transfers to itself, then an assembled snapshot lists its transfers
node by node, in the order of the names (`Snapshot.ByTarget`).  What each node is owed then
determines the list, so that such snapshots agree only if they are the same
(`Snapshot.Agrees.eq_of_byTarget`).
-/

/-- The report tells of nothing but transfers to the node that reports. -/
def Report.Own (report : Report) : Prop :=
  ∀ transfer ∈ report.inFlight, transfer.target = report.node

namespace Snapshot

variable {id : SnapshotId} {reports others : List Report}

/-! ### Reports by node -/

/-- Of reports by different nodes, each is found under its node. -/
theorem get?_byNode_eq_some_iff (hNodup : (reports.map Report.node).Nodup) {name : String}
    {report : Report} :
    (byNode reports).get? name = some report ↔ report ∈ reports ∧ report.node = name := by
  have hKeys : ((reports.map fun report => (report.node, report)).map Prod.fst).Nodup := by
    rwa [List.map_map]
  unfold byNode SortedMap.ofList
  rw [SortedMap.get?_foldl_insert hKeys, SortedMap.get?_empty, List.mem_map]
  constructor
  · rintro (⟨found, hFound, hSame⟩ | ⟨-, hNone⟩)
    · cases hSame
      exact ⟨hFound, rfl⟩
    · cases hNone
  · rintro ⟨hReport, rfl⟩
    exact Or.inl ⟨report, hReport, rfl⟩

theorem byNode_perm (hNodup : (reports.map Report.node).Nodup) (hPerm : others.Perm reports) :
    byNode others = byNode reports := by
  have hOthers : (others.map Report.node).Nodup := (hPerm.map Report.node).nodup_iff.mpr hNodup
  refine SortedMap.ext_get? fun name => Option.ext fun report => ?_
  rw [get?_byNode_eq_some_iff hOthers, get?_byNode_eq_some_iff hNodup, hPerm.mem_iff]

/-- The reports by node are the reports in another order. -/
theorem values_byNode_perm (hNodup : (reports.map Report.node).Nodup) :
    (byNode reports).values.Perm reports := by
  have hEntries : (byNode reports).toList.Perm
      (reports.map fun report => (report.node, report)) := by
    have hPairs : (reports.map fun report => (report.node, report)).Nodup := by
      apply List.Nodup.of_map Prod.fst
      rwa [List.map_map]
    refine (List.perm_ext_iff_of_nodup (byNode reports).nodup_toList hPairs).mpr fun entry => ?_
    have hFound : entry ∈ (byNode reports).toList ↔
        (byNode reports).get? entry.1 = some entry.2 := SortedMap.get?_eq_some_iff.symm
    rw [hFound, get?_byNode_eq_some_iff hNodup, List.mem_map]
    constructor
    · rintro ⟨hReport, hNode⟩
      exact ⟨entry.2, hReport, Prod.ext hNode rfl⟩
    · rintro ⟨report, hReport, rfl⟩
      exact ⟨hReport, rfl⟩
  have hValues := hEntries.map Prod.snd
  rwa [List.map_map, List.map_id''] at hValues
  exact fun _ => rfl

/-! ### What is put together -/

theorem assemble_perm (hNodup : (reports.map Report.node).Nodup) (hPerm : others.Perm reports) :
    assemble id others = assemble id reports := by
  unfold assemble
  rw [byNode_perm hNodup hPerm]

/-- The balances are those that the nodes report. -/
theorem get?_balances_assemble (hNodup : (reports.map Report.node).Nodup) {name : String}
    {tokens : UInt64} :
    (assemble id reports).balances.get? name = some tokens ↔
      ∃ report ∈ reports, report.node = name ∧ report.balance = tokens := by
  show ((byNode reports).mapValues fun _ report => report.balance).get? name = some tokens ↔ _
  rw [SortedMap.get?_mapValues, Option.map_eq_some_iff]
  constructor
  · rintro ⟨report, hFound, hBalance⟩
    obtain ⟨hReport, hNode⟩ := (get?_byNode_eq_some_iff hNodup).mp hFound
    exact ⟨report, hReport, hNode, hBalance⟩
  · rintro ⟨report, hReport, hNode, hBalance⟩
    exact ⟨report, (get?_byNode_eq_some_iff hNodup).mpr ⟨hReport, hNode⟩, hBalance⟩

/-- The transfers are those that the nodes report, as often as they are reported, without the ones
that carry nothing. -/
theorem messages_assemble_perm (hNodup : (reports.map Report.node).Nodup) :
    (assemble id reports).messages.Perm (positive (reports.flatMap Report.inFlight)) := by
  unfold positive
  rw [List.filter_flatMap]
  exact (values_byNode_perm hNodup).flatMap_right _

/-! ### Totals -/

theorem total_eq_ok_iff {snapshot : Snapshot} {total : UInt64} :
    snapshot.total = .ok total ↔
      naturalSum snapshot.balances.values + naturalSum (snapshot.messages.map Transfer.amount) =
        total.toNat := by
  constructor
  · intro hTotal
    obtain ⟨held, hHeld, hMore⟩ := bind_eq_ok_iff.mp hTotal
    obtain ⟨moving, hMoving, hBoth⟩ := bind_eq_ok_iff.mp hMore
    rw [checkedSum_eq_ok_iff.mp hHeld, checkedSum_eq_ok_iff.mp hMoving]
    exact checkedAdd_eq_ok_iff.mp hBoth
  · exact total_eq_ok

/-- Transfers that carry nothing do not count. -/
theorem naturalSum_positive (transfers : List Transfer) :
    naturalSum ((positive transfers).map Transfer.amount) =
      naturalSum (transfers.map Transfer.amount) := by
  have hPaying : (positive transfers).map Transfer.amount = paying (transfers.map Transfer.amount) := by
    unfold positive paying
    rw [List.filter_map]
    rfl
  rw [hPaying, naturalSum_paying]

/-- The total of an assembled snapshot is that of the reports, if it fits. -/
theorem total_assemble_eq_ok_iff (hNodup : (reports.map Report.node).Nodup) {total : UInt64} :
    (assemble id reports).total = .ok total ↔
      naturalSum (reports.map Report.balance) +
        naturalSum ((reports.flatMap Report.inFlight).map Transfer.amount) = total.toNat := by
  have hBalances : (assemble id reports).balances.values.Perm (reports.map Report.balance) := by
    show ((byNode reports).mapValues fun _ report => report.balance).values.Perm _
    rw [SortedMap.values_mapValues]
    exact (values_byNode_perm hNodup).map Report.balance
  rw [total_eq_ok_iff, naturalSum_perm hBalances,
    naturalSum_perm ((messages_assemble_perm hNodup).map Transfer.amount), naturalSum_positive]

/-! ### The canonical form -/

/-- The transfers are listed node by node, in the order of the names of their targets, and every
target has a balance. -/
def ByTarget (snapshot : Snapshot) : Prop :=
  snapshot.messages = snapshot.balances.keys.flatMap snapshot.messagesTo

/-- In this form, snapshots that agree are the same. -/
theorem Agrees.eq_of_byTarget {actual expected : Snapshot} (hAgrees : actual.Agrees expected)
    (hActual : actual.ByTarget) (hExpected : expected.ByTarget) : actual = expected := by
  have hMessages : actual.messages = expected.messages := by
    rw [hActual, hExpected, hAgrees.balances_eq]
    exact List.flatMap_congr fun target _ => hAgrees.messagesTo_eq target
  cases actual
  cases expected
  cases hAgrees.id_eq
  cases hAgrees.balances_eq
  cases hMessages
  rfl

/-- If nodes report transfers to themselves only, a node is owed what it has reported. -/
theorem messagesTo_assemble (hNodup : (reports.map Report.node).Nodup)
    (hOwn : ∀ report ∈ reports, report.Own) {report : Report} (hReport : report ∈ reports) :
    (assemble id reports).messagesTo report.node = positive report.inFlight := by
  have hTargets : ∀ other ∈ reports, ∀ transfer ∈ positive other.inFlight,
      transfer.target = other.node := fun other hOther transfer hTransfer =>
    hOwn other hOther transfer (List.mem_of_mem_filter hTransfer)
  have hFound : (byNode reports).get? report.node = some report :=
    (get?_byNode_eq_some_iff hNodup).mpr ⟨hReport, rfl⟩
  show ((byNode reports).values.flatMap fun report => positive report.inFlight).filter
    (fun transfer => transfer.target = report.node) = positive report.inFlight
  rw [List.filter_flatMap, SortedMap.flatMap_values_of_get? hFound]
  · apply List.filter_eq_self.mpr
    intro transfer hTransfer
    exact decide_eq_true (hTargets report hReport transfer hTransfer)
  · -- Nothing that another node has reported is to this one.
    intro name other hOther hDifferent
    obtain ⟨hMember, rfl⟩ := (get?_byNode_eq_some_iff hNodup).mp hOther
    refine List.filter_eq_nil_iff.mpr fun transfer hTransfer hTarget => hDifferent ?_
    rw [← hTargets other hMember transfer hTransfer]
    exact of_decide_eq_true hTarget

/-- If nodes report transfers to themselves only, the assembled snapshot lists them node by node. -/
theorem byTarget_assemble (hNodup : (reports.map Report.node).Nodup)
    (hOwn : ∀ report ∈ reports, report.Own) : (assemble id reports).ByTarget := by
  have hEntries : ∀ entry ∈ (byNode reports).toList,
      positive entry.2.inFlight = (assemble id reports).messagesTo entry.1 := by
    intro entry hEntry
    obtain ⟨hReport, hNode⟩ :=
      (get?_byNode_eq_some_iff hNodup).mp (SortedMap.get?_eq_some_iff.mpr hEntry)
    rw [← hNode, messagesTo_assemble hNodup hOwn hReport]
  have hKeys : (assemble id reports).balances.keys = (byNode reports).keys :=
    SortedMap.keys_mapValues _ _
  unfold ByTarget
  rw [hKeys]
  show (byNode reports).values.flatMap (fun report => positive report.inFlight) = _
  unfold SortedMap.values SortedMap.keys
  rw [List.flatMap_map, List.flatMap_map]
  exact List.flatMap_congr hEntries

/-- Reports of different nodes come to one snapshot, in whatever order they are put together.  It has
the balances that they tell of, each transfer as often as they tell of it, but none that carries
nothing, and hence their total.  If nodes report transfers to themselves only, snapshots that are put
together compare equal exactly if they are the same; they then have the same JSON text and the same
digest. -/
theorem assemble_canonical (id : SnapshotId) (reports : List Report)
    (hNodup : (reports.map Report.node).Nodup) :
    (∀ others, others.Perm reports → assemble id others = assemble id reports) ∧
    (assemble id reports).id = id ∧
    (∀ name tokens, (assemble id reports).balances.get? name = some tokens ↔
      ∃ report ∈ reports, report.node = name ∧ report.balance = tokens) ∧
    (assemble id reports).messages.Perm
      ((reports.flatMap Report.inFlight).filter fun transfer => 0 < transfer.amount) ∧
    (∀ total : UInt64, (assemble id reports).total = .ok total ↔
      naturalSum (reports.map Report.balance) +
        naturalSum ((reports.flatMap Report.inFlight).map Transfer.amount) = total.toNat) ∧
    ∀ (other : SnapshotId) (others : List Report), (others.map Report.node).Nodup →
      (∀ report ∈ reports, report.Own) → (∀ report ∈ others, report.Own) →
      ((assemble id reports).mismatch? (assemble other others) = none ↔
        assemble id reports = assemble other others) ∧
      ((assemble id reports).mismatch? (assemble other others) = none →
        (assemble id reports).digestText = (assemble other others).digestText ∧
          (assemble id reports).digest = (assemble other others).digest) := by
  refine ⟨fun others => assemble_perm hNodup, rfl, fun name tokens => get?_balances_assemble hNodup,
    messages_assemble_perm hNodup, fun total => total_assemble_eq_ok_iff hNodup, ?_⟩
  intro other others hOthers hOwn hOthersOwn
  have hSame : (assemble id reports).mismatch? (assemble other others) = none ↔
      assemble id reports = assemble other others := by
    rw [mismatch?_eq_none_iff]
    constructor
    · intro hAgrees
      exact hAgrees.eq_of_byTarget (byTarget_assemble hNodup hOwn)
        (byTarget_assemble hOthers hOthersOwn)
    · intro hEqual
      rw [hEqual]
      exact Agrees.refl _
  refine ⟨hSame, fun hNone => ?_⟩
  rw [hSame.mp hNone]
  exact ⟨rfl, rfl⟩

/-- Two reports with transfers, of which one carries nothing; the report of the later node comes
first. -/
def pairReports : List Report :=
  [⟨3, "B", 4, [⟨"A", "B", 5⟩, ⟨"A", "B", 0⟩]⟩, ⟨3, "A", 1, [⟨"B", "A", 2⟩]⟩]

/-- The reports come to the same in either order, and the transfer that carries nothing is gone. -/
theorem assemble_canonical_pair :
    assemble 3 pairReports.reverse = assemble 3 pairReports ∧
    (assemble 3 pairReports).balances.get? "B" = some 4 ∧
    (assemble 3 pairReports).messages = [⟨"B", "A", 2⟩, ⟨"A", "B", 5⟩] ∧
    (assemble 3 pairReports).total = .ok 12 ∧
    (assemble 3 pairReports).mismatch? (assemble 3 pairReports.reverse) = none ∧
    (assemble 3 pairReports).digest = (assemble 3 pairReports.reverse).digest := by
  have hOwn : ∀ report ∈ pairReports, report.Own := by
    unfold Report.Own
    decide
  have hReversed : ∀ report ∈ pairReports.reverse, report.Own := fun report hReport =>
    hOwn report (List.mem_reverse.mp hReport)
  obtain ⟨hPerm, -, hBalances, -, hTotal, hCompare⟩ :=
    assemble_canonical 3 pairReports (by decide)
  obtain ⟨hSame, hTexts⟩ := hCompare 3 pairReports.reverse (by decide) hOwn hReversed
  have hOrder := hPerm pairReports.reverse (List.reverse_perm _)
  have hNone := hSame.mpr hOrder.symm
  exact ⟨hOrder, (hBalances "B" 4).mpr ⟨_, List.mem_cons_self, rfl, rfl⟩, by decide +kernel,
    (hTotal 12).mpr (by decide), hNone, (hTexts hNone).2⟩

end Snapshot
end TokenNet
