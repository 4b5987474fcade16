import TokenNet.Proofs.Annals
import TokenNet.Proofs.MarkerAccounting

namespace TokenNet

/-!
# What annals tell of recordings

While no report comes from outside, what a node has recorded in a snapshot is what the annals tell:
it has joined at the point that is marked there, and the transfers that it has written down are those
that have come to it behind that point, before the marker of their sender (`Network.Recounts`).  Every
step keeps this (`Network.Recounts.step`), since a node awaits the marker of a source exactly as long
as the journal does not tell that it has come (`Network.Run.isClosed_iff`).
-/

/-- Writes down tokens that come to a node. -/
def Part.hear (name : String) (part : Part) : Happening → Part
  | .delivered link amount =>
      if link.target = name then part.note ⟨link.source, link.target, amount⟩ else part
  | _ => part

namespace Cut

variable {snapshot : SnapshotId} {cut after : Cut} {happenings : List Happening} {name : String}

/-- Whoever takes part writes down what comes to it, and nothing else. -/
theorem Step.inFlight_eq {old part : Part} (hStep : Step snapshot cut happenings after)
    (hOld : cut.part name = some old) (hPart : after.part name = some part) :
    part.inFlight = (happenings.foldl (Part.hear name) old).inFlight := by
  have hSame : ∀ {kept}, cut.part name = some kept → kept = old := fun hKept =>
    Option.some.inj (hKept.symm.trans hOld)
  cases hStep with
  | deliver hFlow hBalance hSum =>
      obtain ⟨kept, hKept, rfl⟩ := Tallied.part_noteAt hPart
      cases hSame hKept
      rfl
  | @join joined fresh hIdle hBalance hEmpty hAwaits =>
      rw [hSame ((if_neg (ne_of_part hIdle hOld)).symm.trans hPart)]
      rfl
  | @first link rest fresh hFlow hIdle hBalance hEmpty hAwaits =>
      rw [hSame ((if_neg (ne_of_part hIdle hOld)).symm.trans hPart)]
      rfl
  | @next link rest kept hFlow hKept =>
      replace hPart : (if link.target = name then some (kept.see link.source)
        else cut.part name) = some part := hPart
      split at hPart
      · next hHere =>
        cases hPart
        cases hSame (hHere ▸ hKept)
        rfl
      · rw [hSame hPart]
        rfl
  | _ =>
      rw [hSame hPart]
      rfl

/-- If one node's part changes, only that node can take part that did not before. -/
theorem of_part_ite {changed : String} {fresh part : Part} (hIdle : cut.part name = none)
    (hPart : (if changed = name then some fresh else cut.part name) = some part) :
    changed = name ∧ fresh = part := by
  split at hPart
  · next hHere => exact ⟨hHere, Option.some.inj hPart⟩
  · cases hIdle.symm.trans hPart

/-- Whoever joins has written down nothing. -/
theorem Step.inFlight_of_idle {part : Part} (hStep : Step snapshot cut happenings after)
    (hIdle : cut.part name = none) (hPart : after.part name = some part) :
    part.inFlight = [] ∧ happenings = [.joined name snapshot] := by
  cases hStep with
  | deliver hFlow hBalance hSum =>
      obtain ⟨kept, hKept, -⟩ := Tallied.part_noteAt hPart
      cases hIdle.symm.trans hKept
  | join hFree hBalance hEmpty hAwaits =>
      obtain ⟨rfl, rfl⟩ := of_part_ite hIdle hPart
      exact ⟨hEmpty, rfl⟩
  | first hFlow hFree hBalance hEmpty hAwaits =>
      obtain ⟨rfl, rfl⟩ := of_part_ite hIdle hPart
      exact ⟨hEmpty, rfl⟩
  | next hFlow hKept =>
      obtain ⟨rfl, -⟩ := of_part_ite hIdle hPart
      cases hIdle.symm.trans hKept
  | _ => cases hIdle.symm.trans hPart

end Cut

namespace Network

variable {net between after : Network} {trace happenings : List Happening} {entries : List Entry}
  {snapshot : SnapshotId} {name : String}

/-! ### Whose marker has come -/

/-- The target of a link has had its marker exactly if the journal tells that it has come. -/
theorem Run.isClosed_iff {link : Link} (hRun : Run net trace after) (hFresh : net.Fresh)
    (hHonest : Honest trace) (snapshot : SnapshotId)
    (hLink : after.channels.contains link = true) :
    (after.cut snapshot).isClosed link = true ↔
      .marker snapshot ∈ after.journal.receivedOn link := by
  have hAccounted := (hRun.reached hFresh hHonest snapshot).accounted
  have hMarked := hRun.marked_eq hFresh snapshot link
  have hQueue := hAccounted.count_mark hLink
  rw [flow_cut, ← count_marker] at hQueue
  -- What has been sent is one marker if the source has joined, and has come or is under way.
  unfold Journal.marked at hMarked
  rw [if_pos hLink, hRun.count_joined hFresh hHonest, hRun.accounts hFresh, List.count_append,
    hQueue] at hMarked
  rw [← List.count_pos_iff]
  have hSource : (after.part? snapshot link.source).isSome = true ∨
      (after.cut snapshot).isClosed link = false := by
    cases hClosed : (after.cut snapshot).isClosed link with
    | true => exact Or.inl (hAccounted.source_joined hLink hClosed)
    | false => exact Or.inr rfl
  have hPart : (after.cut snapshot).part link.source = after.part? snapshot link.source := rfl
  unfold Cut.expected at hMarked
  rw [hPart] at hMarked
  cases hJoined : (after.part? snapshot link.source).isSome <;>
    cases hClosed : (after.cut snapshot).isClosed link <;> simp_all

/-- On no link a marker comes twice. -/
theorem Run.count_receivedOn_le (hRun : Run net trace after) (hFresh : net.Fresh)
    (snapshot : SnapshotId) (link : Link) :
    (after.journal.receivedOn link).count (.marker snapshot) ≤ 1 := by
  have hMarked := hRun.marked_eq hFresh snapshot link
  have hOnce := hRun.count_joined_le hFresh snapshot link.source
  have hBit := Bool.toNat_le (after.part? snapshot link.source).isSome
  unfold Journal.marked at hMarked
  rw [hRun.accounts hFresh, List.count_append] at hMarked
  split at hMarked <;> omega

/-! ### What comes in a change -/

/-- If no tokens come, the annals tell of none. -/
theorem Change.transferTo?_eq_none (hChange : Change net happenings after) (hWell : net.WellFormed)
    (hNone : ∀ link amount, .delivered link amount ∉ happenings) (name : String) :
    ∀ entry ∈ chapter (after.journal.since net.journal.size) happenings,
      entry.transferTo? name = none := by
  intro entry hEntry
  refine Option.eq_none_iff_forall_ne_some.mpr fun transfer hTransfer => ?_
  obtain ⟨-, -, tick, rfl⟩ := Entry.of_transferTo? hTransfer
  have hTold := hChange.transfers
  unfold Journal.transfers at hTold
  rw [hChange.journal_eq hWell, List.filterMap_append] at hTold
  have hDelivered : .delivered ⟨transfer.source, transfer.target⟩ transfer.amount ∈
      (after.journal.since net.journal.size).filterMap Event.transfer? :=
    List.mem_filterMap.mpr ⟨_, mem_chapter_event hEntry, rfl⟩
  rw [List.append_cancel_left hTold] at hDelivered
  exact hNone _ _ (List.mem_filter.mp hDelivered).1

/-- Either tokens come from a link, of which the annals tell, or no tokens come. -/
theorem Change.chapter_cases (hChange : Change net happenings after) (hWell : net.WellFormed) :
    (∃ tick source target amount, net.channels.contains ⟨source, target⟩ = true ∧
      happenings = [.delivered ⟨source, target⟩ amount] ∧
      chapter (after.journal.since net.journal.size) happenings =
        [.event (.received tick source target (.token amount))]) ∨
    (∀ link amount, .delivered link amount ∉ happenings) ∧
      ∀ name, ∀ entry ∈ chapter (after.journal.since net.journal.size) happenings,
        entry.transferTo? name = none := by
  have hQuiet := hChange.transferTo?_eq_none hWell
  cases hChange with
  | @credit source target amount due tokens rest node hQueue hNode hTokens hDue =>
      refine Or.inl ⟨net.tickNow, source, target, amount,
        ChannelTable.contains_of_mem_queue (hQueue ▸ List.mem_cons_self), rfl, ?_⟩
      exact congrArg (chapter · [.delivered ⟨source, target⟩ amount])
        (Journal.since_eq (Journal.toList_write ..))
  | @marker after source target delivered due rest hQueue hEffect hDue =>
      have hNone : ∀ link amount, .delivered link amount ∉
          net.arrival ⟨source, target, .marker delivered, due⟩ := by
        intro link amount hMember
        have hTransfer : .delivered link amount ∈
            (net.arrival ⟨source, target, .marker delivered, due⟩).filter Happening.isTransfer :=
          List.mem_filter.mpr ⟨hMember, rfl⟩
        rw [arrival_marker] at hTransfer
        cases hTransfer
      exact Or.inr ⟨hNone, hQuiet hNone⟩
  | _ => exact Or.inr ⟨by simp, hQuiet (by simp)⟩

/-! ### What is told of a node -/

/-- What annals tell of a node in a snapshot. -/
inductive Recounts (net : Network) (entries : List Entry) (snapshot : SnapshotId) (name : String) :
    Prop where
  /-- It does not take part, and has not joined. -/
  | idle (hIdle : net.part? snapshot name = none) (hNone : .began name snapshot ∉ entries)
  /-- It has joined, and what it has written down are the transfers that count since. -/
  | joined (before behind : List Entry) {part : Part}
      (hPart : net.part? snapshot name = some part)
      (hSplit : entries = before ++ .began name snapshot :: behind)
      (hNone : .began name snapshot ∉ before)
      (hInFlight : part.inFlight =
        countedFrom snapshot name (before ++ [.began name snapshot]) behind)
      (hLinked : ∀ entry ∈ behind, ∀ transfer, entry.transferTo? name = some transfer →
        net.channels.contains transfer.link = true)

/-- A node that has not joined so far joins, or goes on not taking part. -/
theorem Recounts.of_idle (hChange : Change net happenings after) (hWell : net.WellFormed)
    (hStep : Cut.Step snapshot (net.cut snapshot) happenings (after.cut snapshot))
    (hIdle : net.part? snapshot name = none) (hNone : .began name snapshot ∉ entries) :
    after.Recounts (entries ++ chapter (after.journal.since net.journal.size) happenings) snapshot
      name := by
  cases hAfter : after.part? snapshot name with
  | none =>
      refine Recounts.idle hAfter ?_
      have hCount := hStep.count_joined name
      replace hCount : happenings.count (.joined name snapshot) +
          (net.part? snapshot name).isSome.toNat = (after.part? snapshot name).isSome.toNat := hCount
      rw [hIdle, hAfter, ← count_began_chapter (after.journal.since net.journal.size)] at hCount
      exact fun hMember => (List.mem_append.mp hMember).elim hNone (List.count_eq_zero.mp hCount)
  | some part =>
      obtain ⟨hEmpty, rfl⟩ := hStep.inFlight_of_idle hIdle hAfter
      have hQuiet := hChange.transferTo?_eq_none hWell (by simp) name
      have hBehind : ∀ entry ∈ ((after.journal.since net.journal.size).dropWhile
          Event.isArrival).map Entry.event, entry.transferTo? name = none := fun entry hEntry =>
        hQuiet entry (List.mem_append_right _ hEntry)
      -- It joins behind what has come, and what it does then is no transfer to it.
      refine Recounts.joined (entries ++
          ((after.journal.since net.journal.size).takeWhile Event.isArrival).map .event)
        (((after.journal.since net.journal.size).dropWhile Event.isArrival).map .event)
        hAfter ?_ ?_ ?_ fun entry hEntry transfer hTransfer => ?_
      · unfold chapter
        simp only [List.filterMap_cons, List.filterMap_nil, Happening.beginning?, List.append_assoc,
          List.singleton_append]
      · intro hMember
        refine (List.mem_append.mp hMember).elim hNone fun hArrived => ?_
        obtain ⟨_, -, hSame⟩ := List.mem_map.mp hArrived
        cases hSame
      · rw [hEmpty, countedFrom_eq_nil hBehind]
      · cases (hBehind entry hEntry).symm.trans hTransfer

/-- Tokens that come are written down if their source is awaited. -/
theorem inFlight_hear (part : Part) (tick : UInt64) (source target : String) (amount : UInt64) :
    (part.hear name (.delivered ⟨source, target⟩ amount)).inFlight = part.inFlight ++
      ((Entry.event (.received tick source target (.token amount))).transferTo? name).toList.filter
        fun transfer => transfer.source ∈ part.awaits := by
  unfold Part.hear Entry.transferTo? Part.note
  by_cases hTarget : target = name <;> by_cases hAmount : 0 < amount <;>
    by_cases hAwaits : source ∈ part.awaits <;> simp [hTarget, hAmount, hAwaits]

/-- Without deliveries nothing is written down. -/
theorem foldl_hear_of_none (hNone : ∀ link amount, .delivered link amount ∉ happenings)
    (part : Part) : happenings.foldl (Part.hear name) part = part := by
  induction happenings with
  | nil => rfl
  | cons happening rest ih =>
      have hFirst : part.hear name happening = part := by
        cases happening with
        | delivered link amount => exact absurd List.mem_cons_self (hNone link amount)
        | _ => rfl
      rw [List.foldl_cons, hFirst]
      exact ih fun link amount hMember => hNone link amount (List.mem_cons_of_mem _ hMember)

/-- A node that has joined goes on writing down what comes. -/
theorem Recounts.of_joined {before behind : List Entry} {part : Part}
    (hChange : Change net happenings after) (hWell : net.WellFormed)
    (hStep : Cut.Step snapshot (net.cut snapshot) happenings (after.cut snapshot))
    (hTold : ∀ link, net.channels.contains link = true →
      ((net.cut snapshot).isClosed link = true ↔
        entries.any (Entry.isMarker snapshot link) = true))
    (hPart : net.part? snapshot name = some part)
    (hSplit : entries = before ++ .began name snapshot :: behind)
    (hNone : .began name snapshot ∉ before)
    (hInFlight : part.inFlight = countedFrom snapshot name (before ++ [.began name snapshot]) behind)
    (hLinked : ∀ entry ∈ behind, ∀ transfer, entry.transferTo? name = some transfer →
      net.channels.contains transfer.link = true) :
    after.Recounts (entries ++ chapter (after.journal.since net.journal.size) happenings) snapshot
      name := by
  have hEntries : before ++ [.began name snapshot] ++ behind = entries := by
    rw [hSplit, List.append_assoc, List.singleton_append]
  obtain ⟨later, hLater⟩ : ∃ later, after.part? snapshot name = some later :=
    Option.isSome_iff_exists.mp (hStep.isSome_part (Option.isSome_of_eq_some hPart))
  have hLinks : ∀ link, after.channels.contains link = net.channels.contains link := by
    rcases hStep.linked_eq_or with hSame | ⟨-, hNobody⟩
    · exact congrFun hSame
    · cases hPart.symm.trans (hNobody name)
  refine Recounts.joined before
    (behind ++ chapter (after.journal.since net.journal.size) happenings) hLater ?_ hNone ?_ ?_
  · rw [hSplit, List.append_assoc, List.cons_append]
  · rw [hStep.inFlight_eq hPart hLater, countedFrom_append, hEntries, ← hInFlight]
    rcases hChange.chapter_cases hWell with
      ⟨tick, source, target, amount, hLink, hHappened, hChapter⟩ | ⟨hNever, hQuiet⟩
    · rw [hChapter, hHappened, List.foldl_cons, List.foldl_nil, inFlight_hear part tick]
      refine congrArg (part.inFlight ++ ·) ((List.append_nil _).symm.trans ?_)
      refine congrArg (· ++ []) (List.filter_congr fun transfer hTransfer => ?_)
      -- The source is awaited as long as nothing tells that its marker has come.
      obtain ⟨hTarget, -, _, hSame⟩ := Entry.of_transferTo? (Option.mem_toList.mp hTransfer)
      cases hSame
      have hTo : net.part? snapshot transfer.target = some part := hTarget ▸ hPart
      have hClosed : (net.cut snapshot).isClosed transfer.link =
          decide (transfer.source ∉ part.awaits) := Cut.isClosed_of_part hTo
      have hCame := hTold transfer.link hLink
      rw [hClosed, decide_eq_true_iff] at hCame
      rw [Bool.eq_iff_iff, decide_eq_true_iff, Bool.not_eq_true', ← Bool.not_eq_true, ← hCame,
        not_not]
    · rw [foldl_hear_of_none hNever, countedFrom_eq_nil (hQuiet name), List.append_nil]
  · intro entry hEntry transfer hTransfer
    rw [hLinks]
    rcases List.mem_append.mp hEntry with hOld | hNew
    · exact hLinked entry hOld transfer hTransfer
    · rcases hChange.chapter_cases hWell with
        ⟨tick, source, target, amount, hLink, -, hChapter⟩ | ⟨-, hQuiet⟩
      · rw [hChapter, List.mem_singleton] at hNew
        obtain ⟨-, -, _, hSame⟩ := Entry.of_transferTo? hTransfer
        cases hNew.symm.trans hSame
        exact hLink
      · cases (hQuiet name entry hNew).symm.trans hTransfer

/-- Every step adds to the annals what a node writes down. -/
theorem Recounts.step (hRecounts : net.Recounts entries snapshot name)
    (hChange : Change net happenings after) (hWell : net.WellFormed) (hHonest : Honest happenings)
    (hTold : ∀ link, net.channels.contains link = true →
      ((net.cut snapshot).isClosed link = true ↔
        entries.any (Entry.isMarker snapshot link) = true)) :
    after.Recounts (entries ++ chapter (after.journal.since net.journal.size) happenings) snapshot
      name := by
  have hStep : Cut.Step snapshot (net.cut snapshot) happenings (after.cut snapshot) :=
    hChange.cut hWell hHonest
  cases hRecounts with
  | idle hIdle hNone => exact Recounts.of_idle hChange hWell hStep hIdle hNone
  | joined before behind hPart hSplit hNone hInFlight hLinked =>
      exact Recounts.of_joined hChange hWell hStep hTold hPart hSplit hNone hInFlight hLinked

/-! ### Runs -/

theorem Annals.any_isMarker_iff (hAnnals : Annals net trace entries after) (hFresh : net.Fresh)
    (snapshot : SnapshotId) (link : Link) : entries.any (Entry.isMarker snapshot link) = true ↔
      .marker snapshot ∈ after.journal.receivedOn link := by
  rw [List.any_eq_true, ← List.countP_pos_iff, hAnnals.countP_isMarker hFresh, List.count_pos_iff]

/-- While no report comes from outside, the annals tell what nodes have written down. -/
theorem Annals.recounts (hAnnals : Annals net trace entries after) (hFresh : net.Fresh)
    (hHonest : Honest trace) (snapshot : SnapshotId) (name : String) :
    after.Recounts entries snapshot name := by
  induction hAnnals with
  | start => exact Recounts.idle (hFresh.part?_eq_none snapshot name) List.not_mem_nil
  | step hEarlier hStep ih =>
      obtain ⟨hBefore, hNow⟩ := honest_append.mp hHonest
      have hWell := hEarlier.run.wellFormed hFresh.wellFormed
      refine (ih hBefore).step (hStep.change hWell) hWell hNow fun link hLink => ?_
      rw [hEarlier.any_isMarker_iff hFresh]
      exact hEarlier.run.isClosed_iff hFresh hBefore snapshot hLink

/-- A link whose target has had its marker has brought it once. -/
theorem Annals.countP_of_isClosed {link : Link} (hAnnals : Annals net trace entries after)
    (hFresh : net.Fresh) (hHonest : Honest trace) (hLink : after.channels.contains link = true)
    (hClosed : (after.cut snapshot).isClosed link = true) :
    entries.countP (Entry.isMarker snapshot link) = 1 := by
  have hOnce := hAnnals.run.count_receivedOn_le hFresh snapshot link
  have hCame := List.count_pos_iff.mpr
    ((hAnnals.run.isClosed_iff hFresh hHonest snapshot hLink).mp hClosed)
  rw [hAnnals.countP_isMarker hFresh]
  omega

/-- A node that has reported has recorded what the annals tell. -/
theorem Annals.inFlight_eq {report : Report} (hAnnals : Annals net trace entries after)
    (hFresh : net.Fresh) (hHonest : Honest trace)
    (hReport : after.report? snapshot name = some report) :
    report.inFlight = recordedBy snapshot name entries := by
  have hReported := part?_of_report? hReport
  cases hAnnals.recounts hFresh hHonest snapshot name with
  | idle hIdle hNone => cases hReported.symm.trans hIdle
  | @joined before behind part hPart hSplit hNone hInFlight hLinked =>
      cases hReported.symm.trans hPart
      rw [hSplit, recordedBy_of_began hNone]
      refine hInFlight.trans (beforeMarkers_eq_countedFrom ?_).symm
      -- Nothing is awaited any more, so each marker has come.
      intro entry hEntry transfer hTransfer
      obtain ⟨hTarget, -⟩ := Entry.of_transferTo? hTransfer
      have hTo : after.part? snapshot transfer.target = some (Part.ofReport report) :=
        hTarget ▸ hReported
      have hClosed : (after.cut snapshot).isClosed transfer.link = true :=
        Cut.isClosed_eq_true_iff.mpr ⟨_, hTo, List.not_mem_nil⟩
      rw [List.append_assoc, List.singleton_append, ← hSplit]
      exact hAnnals.countP_of_isClosed hFresh hHonest (hLinked entry hEntry transfer hTransfer) hClosed

end Network

end TokenNet
