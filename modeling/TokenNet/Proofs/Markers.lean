import TokenNet.Proofs.Calls
import TokenNet.Proofs.Deliveries

namespace TokenNet

/-!
# Markers in the journal

How many markers of a snapshot the journal tells to have been sent on a link (`Journal.marked`): as
many as its source has joined the snapshot (`Network.Run.marked_eq`), and nobody joins a snapshot
twice (`Network.Run.count_joined_le`).  This holds whether or not reports come from outside.
-/

/-- The number of markers of a snapshot sent on a link. -/
def Journal.marked (journal : Journal) (link : Link) (snapshot : SnapshotId) : Nat :=
  (journal.sentOn link).count (.marker snapshot)

/-- The markers among messages are the marks among what a snapshot sees of them. -/
theorem count_marker (parcels : List Parcel) (snapshot : SnapshotId) :
    (parcels.map Parcel.message).count (.marker snapshot) =
      (parcels.filterMap (Parcel.item? snapshot)).count .mark := by
  induction parcels with
  | nil => rfl
  | cons parcel rest ih =>
      obtain ⟨source, target, message, due⟩ := parcel
      cases message with
      | token amount =>
          have hItem : Parcel.item? snapshot ⟨source, target, .token amount, due⟩ =
              some (.tokens amount) := rfl
          rw [List.filterMap_cons_some hItem, List.map_cons, List.count_cons_of_ne (by simp), ih,
            List.count_cons_of_ne (by simp)]
      | marker other =>
          by_cases hSame : other = snapshot
          · have hItem : Parcel.item? snapshot ⟨source, target, .marker other, due⟩ = some .mark :=
              if_pos hSame
            rw [List.filterMap_cons_some hItem, List.map_cons, List.count_cons_self, ← ih, hSame,
              List.count_cons_self]
          · have hItem : Parcel.item? snapshot ⟨source, target, .marker other, due⟩ = none :=
              if_neg hSame
            rw [List.filterMap_cons_none hItem, List.map_cons, ← ih,
              List.count_cons_of_ne (by simp [hSame])]

namespace Journal

variable {journal : Journal} {link : Link} {snapshot : SnapshotId}

theorem marked_write {event : Event} (hNone : event.sentOn? link = none) :
    (journal.write event).marked link snapshot = journal.marked link snapshot := by
  unfold marked sentOn
  rw [toList_write, List.filterMap_append, List.filterMap_cons_none hNone]
  exact congrArg (List.count _) (List.append_nil _)

theorem marked_writeAll (parcels : List Parcel) (tick : UInt64) :
    (journal.writeAll (parcels.map (Event.sent tick))).marked link snapshot =
      journal.marked link snapshot +
        ((parcels.filter fun parcel => parcel.link = link).filterMap
          (Parcel.item? snapshot)).count .mark := by
  unfold marked
  rw [sentOn_eq, sentOn_eq, toList_writeAll, parcelsOn_append, parcelsOn_sent, List.map_append,
    List.count_append, count_marker (parcels.filter _)]

end Journal

namespace Network

variable {net after : Network} {happenings trace : List Happening} {link : Link}
  {snapshot : SnapshotId}

/-! ### Markers that are sent -/

theorem marked_withRecording (net : Network) (node : Node) (collector : Collector)
    (recording : Recording) :
    (net.withRecording node collector recording).journal.marked link snapshot =
      net.journal.marked link snapshot := by
  unfold withRecording
  split
  · exact Journal.marked_write rfl
  · rfl

/-- A node that takes part sends one marker on each link that leads away from it. -/
theorem marked_takePart {name : String} {joined : SnapshotId} {node : Node} {collector : Collector}
    {generator : Generator} {parcels : List Parcel} (recording : Recording)
    (hWired : Wired net.nodes net.channels) (hNode : net.nodes.get? name = some node)
    (hTargets : parcels.map Parcel.target = node.outbound.keys)
    (hParcels : ∀ parcel ∈ parcels, parcel.source = name ∧ parcel.message = .marker joined) :
    ((net.posted generator parcels).withRecording node collector recording).journal.marked link
        snapshot =
      net.journal.marked link snapshot + if net.channels.contains link = true then
        [Happening.joined name joined].count (.joined link.source snapshot) else 0 := by
  have hMarked : (net.posted generator parcels).journal.marked link snapshot = _ :=
    Journal.marked_writeAll parcels net.tickNow
  rw [marked_withRecording, hMarked, filterMap_markers_of_node hWired hNode hTargets hParcels]
  by_cases hLink : net.channels.contains link = true
  · by_cases hJoined : joined = snapshot ∧ link.source = name
    · obtain ⟨rfl, rfl⟩ := hJoined
      simp [hLink]
    · have hOther : Happening.joined name joined ≠ .joined link.source snapshot := by
        rintro hSame
        cases hSame
        exact hJoined ⟨rfl, rfl⟩
      rw [if_neg fun hAll => hJoined ⟨hAll.1, hAll.2.1⟩, if_pos hLink,
        List.count_singleton, beq_eq_false_iff_ne.mpr hOther]
      rfl
  · simp [hLink]

theorem MarkerEffect.marked {source target : String} {delivered : SnapshotId} (due : UInt64)
    (hEffect : MarkerEffect net source target delivered after) (hWell : net.WellFormed) :
    after.journal.marked link snapshot = net.journal.marked link snapshot +
      if net.channels.contains link = true then
        (net.arrival ⟨source, target, .marker delivered, due⟩).count (.joined link.source snapshot)
      else 0 := by
  cases hEffect with
  | late hStale =>
      rw [arrival_of_stale hStale, List.count_nil, ite_self]
      exact Journal.marked_write rfl
  | repeated hCurrent hNode hRecording hSeen =>
      rw [arrival_of_recording hNode hRecording, List.count_nil, ite_self]
      exact Journal.marked_write rfl
  | first hNode hFresh hFound hAwaited hTargets hParcels hPunctual =>
      have hCurrent := isStale_eq_false_iff.mpr
        ⟨_, hFound, hWell.not_mem_reported hFound hAwaited⟩
      rw [arrival_of_fresh hCurrent hNode hFresh]
      exact marked_takePart _ hWell.wired hNode hTargets hParcels
  | next hNode hRecording hUnseen hFound hAwaited =>
      rw [arrival_of_recording hNode hRecording, List.count_nil, ite_self]
      exact marked_withRecording ..

/-- A change sends a marker on a link exactly if the source of the link joins. -/
theorem Change.marked (hChange : Change net happenings after) (hWell : net.WellFormed) :
    after.journal.marked link snapshot = net.journal.marked link snapshot +
      if net.channels.contains link = true then happenings.count (.joined link.source snapshot)
      else 0 := by
  -- Only those who join send markers; nothing else is counted on either side.
  have hSame : ∀ {happening : Happening}, happening ≠ Happening.joined link.source snapshot →
      (if net.channels.contains link = true then
        [happening].count (Happening.joined link.source snapshot) else 0) = 0 := by
    intro happening hOther
    rw [List.count_singleton, beq_eq_false_iff_ne.mpr hOther]
    exact ite_self 0
  cases hChange with
  | idle clock generator hStarted hClock => rw [List.count_nil, ite_self]; rfl
  | addNode tokens hOpen hNew => rw [hSame (by simp)]; rfl
  | addLink hOpen hSource hTarget hDistinct hNew => rw [List.count_nil, ite_self]; rfl
  | @send source target amount node generator due hNode hLink hEnough hPunctual =>
      rw [hSame (by simp)]
      refine (Journal.marked_writeAll [⟨source, target, .token amount, due⟩] net.tickNow).trans
        (congrArg (net.journal.marked link snapshot + ·) ?_)
      by_cases hHere : (⟨source, target⟩ : Link) = link <;>
        simp [Parcel.link, Parcel.item?, hHere]
  | announce hName hNext =>
      rw [hSame (by simp)]
      exact Journal.marked_write rfl
  | join hNode hFresh hFound hAwaited hTargets hParcels hPunctual =>
      exact marked_takePart _ hWell.wired hNode hTargets hParcels
  | credit hQueue hNode hTokens hDue =>
      rw [hSame (by simp)]
      exact Journal.marked_write rfl
  | @marker after source target delivered due rest hQueue hEffect hDue =>
      have hTaken := (hWell.popped hQueue).logged
        (.received net.tickNow source target (.marker delivered))
      have hLinks : (net.taken ⟨source, target, .marker delivered, due⟩ rest).channels.contains
          link = net.channels.contains link := ChannelTable.contains_setQueue ..
      have hWritten : (net.taken ⟨source, target, .marker delivered, due⟩ rest).journal.marked link
          snapshot = net.journal.marked link snapshot := Journal.marked_write rfl
      have hMarked : after.journal.marked link snapshot = _ := hEffect.marked due hTaken
      rw [hMarked, hLinks, hWritten]
      rfl
  | notify hFound hAwaited =>
      rw [hSame (by simp)]
      exact Journal.marked_write rfl
  | retire hFound hComplete => rw [List.count_nil, ite_self]; rfl
  | abandon snapshots => rw [List.count_nil, ite_self]; rfl

/-! ### Who joins -/

theorem isSome_part?_admitted {collector : Collector} {report : Report} {name : String}
    (hFound : net.collectors.get? report.snapshot = some collector)
    (hJoined : (net.part? snapshot name).isSome = true) :
    ((net.admitted collector report).part? snapshot name).isSome = true := by
  have hReport : (net.admitted collector report).report? snapshot name = _ :=
    report?_admitted hFound snapshot name
  by_cases hHere : report.snapshot = snapshot ∧ report.node = name
  · rw [part?_of_report? (hReport.trans (if_pos hHere))]
    rfl
  · rw [part?_congr (hReport.trans (if_neg hHere)) rfl]
    exact hJoined

/-- Only who does not take part joins, and whoever takes part goes on doing so. -/
theorem Change.count_joined_le (hChange : Change net happenings after) (hWell : net.WellFormed)
    (snapshot : SnapshotId) (name : String) :
    happenings.count (.joined name snapshot) + (net.part? snapshot name).isSome.toNat ≤
      (after.part? snapshot name).isSome.toNat := by
  by_cases hHonest : Honest happenings
  · have hCut : Cut.Step snapshot _ _ _ := hChange.cut hWell hHonest
    exact Nat.le_of_eq (hCut.count_joined name)
  · -- A report from outside makes nobody join, but may take the place of a recording.
    cases hChange with
    | notify hFound hAwaited =>
        rw [List.count_singleton, beq_eq_false_iff_ne.mpr (by simp)]
        cases hPart : (net.part? snapshot name).isSome with
        | false => exact Nat.zero_le _
        | true =>
            rw [isSome_part?_admitted hFound hPart]
            exact Nat.le_refl _
    | marker hQueue hEffect hDue => exact absurd (inner_arrival net _).honest hHonest
    | _ => exact absurd (by simp [Honest]) hHonest

/-- Nobody joins a snapshot twice, and only those who take part have joined. -/
theorem Run.count_joined_le (hRun : Run net trace after) (hFresh : net.Fresh)
    (snapshot : SnapshotId) (name : String) :
    trace.count (.joined name snapshot) ≤ (after.part? snapshot name).isSome.toNat := by
  induction hRun with
  | start => exact Nat.zero_le _
  | step hEarlier hStep ih =>
      have hWell := hEarlier.wellFormed hFresh.wellFormed
      have hLater := (hStep.change hWell).count_joined_le hWell snapshot name
      rw [List.count_append]
      omega

/-! ### As many as have joined -/

/-- A link that is new comes at a time at which nobody takes part, and no link goes. -/
theorem Change.contains_eq_or (hChange : Change net happenings after) (hWell : net.WellFormed)
    (snapshot : SnapshotId) (link : Link) :
    after.channels.contains link = net.channels.contains link ∨
      happenings = [] ∧ ∀ name, net.part? snapshot name = none := by
  by_cases hHonest : Honest happenings
  · have hCut : Cut.Step snapshot _ _ _ := hChange.cut hWell hHonest
    exact hCut.linked_eq_or.imp_left fun hLinked => congrFun hLinked link
  · cases hChange with
    | notify hFound hAwaited => exact Or.inl rfl
    | marker hQueue hEffect hDue => exact absurd (inner_arrival net _).honest hHonest
    | _ => exact absurd (by simp [Honest]) hHonest

/-- The journal tells of one marker for each time that the source of a link has joined. -/
theorem Run.marked_eq (hRun : Run net trace after) (hFresh : net.Fresh) (snapshot : SnapshotId)
    (link : Link) :
    after.journal.marked link snapshot =
      if after.channels.contains link = true then trace.count (.joined link.source snapshot)
      else 0 := by
  induction hRun with
  | start =>
      unfold Journal.marked Journal.sentOn
      rw [hFresh.journal_eq_nil, List.count_nil, ite_self]
      rfl
  | @step trace happenings between after hEarlier hStep ih =>
      have hWell := hEarlier.wellFormed hFresh.wellFormed
      have hChange := hStep.change hWell
      rw [hChange.marked hWell, ih, List.count_append]
      rcases hChange.contains_eq_or hWell snapshot link with hSame | ⟨rfl, hIdle⟩
      · rw [hSame]
        split <;> rfl
      · -- Nobody has joined so far, so it does not matter whether the link is new.
        have hNone : trace.count (.joined link.source snapshot) = 0 := by
          have hJoined := hEarlier.count_joined_le hFresh snapshot link.source
          rw [hIdle] at hJoined
          exact Nat.le_zero.mp hJoined
        rw [hNone, List.count_nil, Nat.zero_add, ite_self, ite_self]

end Network

end TokenNet
