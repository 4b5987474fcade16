import TokenNet.Proofs.Reach
import TokenNet.Proofs.Refinement

namespace TokenNet
namespace Network

/-!
# Calls are runs

Every call on a well-formed network, whether it is carried out or refused, comes to a run of
steps.  Along the way it is shown that no call is refused for a cause from within: a call that
can be refused at all is refused before it has changed anything but that nothing can be added
any more.
-/

variable {net after : Network}

/-- Some run, in which only what needs no call of its own happens, leads from one network to
another. -/
def Evolves (net after : Network) : Prop := ∃ trace, Run net trace after ∧ Inner trace

theorem Evolves.refl (net : Network) : net.Evolves net :=
  ⟨[], Run.start, inner_nil⟩

theorem Evolves.trans {between : Network} (hEarlier : net.Evolves between)
    (hLater : between.Evolves after) : net.Evolves after := by
  obtain ⟨earlier, hRun, hInner⟩ := hEarlier
  obtain ⟨later, hRest, hRestInner⟩ := hLater
  exact ⟨earlier ++ later, hRun.trans hRest, inner_append.mpr ⟨hInner, hRestInner⟩⟩

theorem Step.evolves {happenings : List Happening} (hStep : Step net happenings after)
    (hInner : Inner happenings) : net.Evolves after :=
  ⟨happenings, hStep.run, hInner⟩

theorem evolves_started (net : Network) : net.Evolves { net with started := true } :=
  Step.freeze.evolves inner_nil

theorem Evolves.wellFormed (hEvolves : net.Evolves after) (hWell : net.WellFormed) :
    after.WellFormed := by
  obtain ⟨trace, hRun, -⟩ := hEvolves
  exact hRun.wellFormed hWell

/-! ### Delivering -/

/-- What is taken off a channel is delivered. -/
theorem meets_deliver {between : Network} {source : String} {parcel : Parcel}
    (hWell : net.WellFormed) (hTake : takeDue source net = .done (some parcel) between) :
    (deliver parcel between).Meets (fun _ after => net.Evolves after) Never := by
  obtain ⟨rest, -, hQueue, -, hBetween⟩ := takeDue_eq_done hWell.wired.sound hTake
  have hLink : net.channels.contains parcel.link = true :=
    ChannelTable.contains_of_mem_queue (hQueue ▸ List.mem_cons_self)
  have hKept : (net.popped parcel.link rest).channels.contains parcel.link = true :=
    (ChannelTable.contains_setQueue ..).trans hLink
  have hPopped := hWell.popped hQueue
  have hNever : (deliver parcel between).Meets (fun _ _ => True) Never := by
    rw [hBetween]
    obtain ⟨source, target, message, due⟩ := parcel
    cases message with
    | token amount => exact (meets_deliver_token hPopped.wired hKept).imp fun _ _ _ => True.intro
    | marker snapshot => exact (meets_deliver_marker hPopped hKept).imp fun _ _ _ => True.intro
  exact hNever.done_self.imp fun _ _ hDone =>
    (Step.deliver hTake hDone.1).evolves (inner_arrival between parcel)

/-- A sender takes a parcel off a channel, or nothing changes. -/
theorem meets_takeDue (net : Network) (source : String) :
    (takeDue source net).Meets
      (fun due between => takeDue source net = .done due between ∧ (due = none → net = between))
      Never := by
  unfold takeDue
  cases net.firstDue? source with
  | none => exact ⟨rfl, fun _ => rfl⟩
  | some found => exact ⟨rfl, fun hNone => nomatch hNone⟩

/-- A scan delivers parcels one after another. -/
theorem meets_scan {names : List String} (hWell : net.WellFormed) :
    (scan names net).Meets (fun _ after => net.Evolves after) Never := by
  induction names generalizing net with
  | nil => exact Evolves.refl net
  | cons source rest ih =>
      apply Action.meets_bind (meets_takeDue net source)
      rintro due between ⟨hTake, hSame⟩
      cases due with
      | none =>
          obtain rfl := hSame rfl
          exact ih hWell
      | some parcel =>
          apply Action.meets_bind (meets_deliver hWell hTake)
          intro _ delivered hDelivered
          apply Action.meets_bind (ih (hDelivered.wellFormed hWell))
          rintro _ last hLast
          exact hDelivered.trans hLast

theorem meets_advance (net : Network) :
    (advance net).Meets (fun _ after => Step net [] after) Never := by
  have hNever : (advance net).Meets (fun _ _ => True) Never := by
    apply Action.meets_bind_of_done rfl
    exact Action.meets_bind (M := fun _ _ => True) (Action.meets_ofExcept fun _ _ => True.intro)
      fun _ _ _ => True.intro
  exact hNever.done_self.imp fun _ _ hDone => Step.advance hDone.1

/-- A tick passes, unless the clock cannot move. -/
theorem meets_tick (hWell : net.WellFormed) :
    (tick net).Meets (fun _ after => net.Evolves after) Never := by
  have hFrozen := evolves_started net
  apply Action.meets_bind_of_done rfl
  apply Action.meets_bind (meets_advance _)
  intro _ advanced hAdvance
  have hAdvanced : net.Evolves advanced := hFrozen.trans (hAdvance.evolves inner_nil)
  apply Action.meets_bind_of_done rfl
  apply Action.meets_bind (meets_scan (hAdvanced.wellFormed hWell))
  intro _ scanned hScanned
  exact hAdvanced.trans hScanned

/-! ### Starting snapshots -/

/-- Through a run the nodes that take part in a snapshot go on doing so. -/
theorem Run.isSome_part? {trace : List Happening} (hRun : Run net trace after)
    (hWell : net.WellFormed) (hHonest : Honest trace) {snapshot : SnapshotId} {name : String}
    (hJoined : (net.part? snapshot name).isSome = true) :
    (after.part? snapshot name).isSome = true := by
  induction hRun with
  | start => exact hJoined
  | step hEarlier hStep ih =>
      obtain ⟨hBefore, hNow⟩ := honest_append.mp hHonest
      have hBetween := hEarlier.wellFormed hWell
      exact ((hStep.change hBetween).cut hBetween hNow).isSome_part (ih hBefore)

theorem get?_collectors_withRecording {node : Node} {collector : Collector}
    {recording : Recording} {snapshot : SnapshotId}
    (hFound : net.collectors.get? snapshot = some collector) :
    ∃ later, (net.withRecording node collector recording).collectors.get? snapshot = some later := by
  unfold withRecording
  split
  · show ∃ later, (net.collectors.insert recording.snapshot
      (collector.accepted (recording.report node.name))).get? snapshot = some later
    rw [SortedMap.get?_insert]
    split
    · exact ⟨_, rfl⟩
    · exact ⟨collector, hFound⟩
  · exact ⟨collector, hFound⟩

theorem startAt_cons (snapshot : SnapshotId) (name : String) (rest : List String) :
    startAt snapshot (name :: rest) =
      startAt snapshot [name] >>= fun _ => startAt snapshot rest := by
  simp only [startAt, bind_assoc, pure_bind]

/-- A node that does not take part in a snapshot keeps no recording of it and is awaited. -/
theorem WellFormed.exists_idle {snapshot : SnapshotId} {name : String} (hWell : net.WellFormed)
    (hName : name ∈ net.nodes.keys) (hIdle : net.part? snapshot name = none)
    (hFound : ∃ collector, net.collectors.get? snapshot = some collector) :
    ∃ node collector, net.nodes.get? name = some node ∧ node.recordings.get? snapshot = none ∧
      net.collectors.get? snapshot = some collector ∧ collector.snapshot = snapshot ∧
      name ∈ collector.remaining.keys := by
  obtain ⟨node, hNode⟩ := SortedMap.mem_keys_iff.mp hName
  obtain ⟨collector, hCollector⟩ := hFound
  obtain ⟨hFresh, hOpen⟩ := fresh_of_part?_eq_none hNode hCollector hIdle
  have hSound := hWell.collected.sound hCollector
  exact ⟨node, collector, hNode, hFresh, hCollector, hSound.snapshot_eq,
    hSound.awaited_iff.mpr ⟨hName, hOpen⟩⟩

/-- A node that does not take part starts a snapshot. -/
theorem meets_startAt_one {snapshot : SnapshotId} {name : String} (hWell : net.WellFormed)
    (hName : name ∈ net.nodes.keys) (hIdle : net.part? snapshot name = none)
    (hFound : ∃ collector, net.collectors.get? snapshot = some collector) :
    (startAt snapshot [name] net).Meets
      (fun _ after => Step net [.joined name snapshot] after ∧
        ∃ collector, after.collectors.get? snapshot = some collector) Never := by
  obtain ⟨node, collector, hNode, hFresh, hCollector, hSnapshot, hAwaited⟩ :=
    hWell.exists_idle hName hIdle hFound
  have hOpen := hWell.not_mem_reported hCollector hAwaited
  have hUnreported : collector.hasReported name = false :=
    Bool.eq_false_iff.mpr fun hReported => hOpen (Collector.hasReported_iff.mp hReported)
  refine (meets_startAt_singleton hWell.wired hNode hFresh hCollector hSnapshot
    hAwaited).done_self.imp ?_
  rintro _ _ ⟨hDone, generator, parcels, -, -, -, rfl⟩
  exact ⟨Step.join hCollector hUnreported hDone, get?_collectors_withRecording hCollector⟩

/-- Whether nodes can start a snapshot one after another: they are there, none of them takes part
yet, and the snapshot is open. -/
structure Ready (net : Network) (snapshot : SnapshotId) (names : List String) : Prop where
  /-- No node is to start twice. -/
  nodup : names.Nodup
  /-- The nodes are there and do not take part yet. -/
  idle : ∀ name ∈ names, name ∈ net.nodes.keys ∧ net.part? snapshot name = none
  /-- The snapshot has not been taken away. -/
  found : ∃ collector, net.collectors.get? snapshot = some collector

/-- The first of nodes that can start a snapshot starts it, and the others still can. -/
theorem Ready.meets_startAt_one {snapshot : SnapshotId} {name : String} {rest : List String}
    (hReady : net.Ready snapshot (name :: rest)) (hWell : net.WellFormed) :
    (startAt snapshot [name] net).Meets
      (fun _ after => Step net [.joined name snapshot] after ∧
        (after.part? snapshot name).isSome = true ∧ after.Ready snapshot rest) Never := by
  obtain ⟨hAbsent, hRest⟩ := List.nodup_cons.mp hReady.nodup
  obtain ⟨hName, hIdle⟩ := hReady.idle name List.mem_cons_self
  apply (Network.meets_startAt_one hWell hName hIdle hReady.found).imp
  rintro _ between ⟨hStep, hLater⟩
  have hHonest : Honest [.joined name snapshot] := (inner_singleton rfl).honest
  obtain ⟨hBalance, hJoined, hOthers⟩ := ((hStep.change hWell).cut hWell hHonest).joined
  refine ⟨hStep, hJoined, hRest, fun other hOther => ?_, hLater⟩
  -- The nodes that come later are still there, and the first one has not made them take part.
  obtain ⟨hKnown, hNone⟩ := hReady.idle other (List.mem_cons_of_mem _ hOther)
  have hDifferent : other ≠ name := fun hEqual => hAbsent (hEqual ▸ hOther)
  refine ⟨(mem_nodes_iff snapshot).mpr ?_, (hOthers other hDifferent).trans hNone⟩
  rw [hBalance]
  exact (mem_nodes_iff snapshot).mp hKnown

/-- Nodes that can start a snapshot do so one after another. -/
theorem Ready.meets_startAt {snapshot : SnapshotId} {names : List String}
    (hReady : net.Ready snapshot names) (hWell : net.WellFormed) :
    (startAt snapshot names net).Meets
      (fun _ after => net.Evolves after ∧
        ∀ name ∈ names, (after.part? snapshot name).isSome = true) Never := by
  induction names generalizing net with
  | nil => exact ⟨Evolves.refl net, fun _ hNone => absurd hNone List.not_mem_nil⟩
  | cons name rest ih =>
      rw [startAt_cons]
      apply Action.meets_bind (hReady.meets_startAt_one hWell)
      rintro _ between ⟨hStep, hJoined, hRest⟩
      have hBetween : between.WellFormed := (hStep.change hWell).wellFormed hWell
      apply (ih hRest hBetween).imp
      rintro _ last ⟨⟨trace, hRun, hInner⟩, hAll⟩
      refine ⟨(hStep.evolves (inner_singleton rfl)).trans ⟨trace, hRun, hInner⟩, ?_⟩
      intro other hOther
      rcases List.mem_cons.mp hOther with rfl | hLaterName
      · exact hRun.isSome_part? hBetween hInner.honest hJoined
      · exact hAll other hLaterName

/-- A snapshot that has just been opened at a node can be started by it and by all that it cannot
reach. -/
theorem WellFormed.ready_announced {name : String} {next : SnapshotId} (hWell : net.WellFormed)
    (hName : name ∈ net.nodes.keys) :
    (net.announced name next).Ready net.nextSnapshot
      (name :: (net.announced name next).unreachableFrom name) := by
  refine ⟨nodup_starters name, fun other hOther => ⟨?_, ?_⟩, ⟨_, SortedMap.get?_insert_self ..⟩⟩
  · rcases List.mem_cons.mp hOther with rfl | hUnreached
    · exact hName
    · exact (mem_unreachableFrom_iff.mp hUnreached).1
  · -- To open a snapshot changes nothing in its cut, where nobody takes part yet.
    have hSame : (net.announced name next).cut net.nextSnapshot = net.cut net.nextSnapshot :=
      hWell.cut_announced name
    exact (congrArg (Cut.part · other) hSame).trans
      (hWell.part?_eq_none (UInt64.lt_irrefl _) other)

/-- A snapshot is opened at a node, which takes part in it, and so do all that it cannot
reach. -/
def Starts (net : Network) (name : String) (after : Network) : Prop :=
  ∃ next, checkedAdd net.nextSnapshot 1 = .ok next ∧
    Step net [.announced name net.nextSnapshot] (net.announced name next) ∧
    (net.announced name next).Evolves after ∧
    ∀ other ∈ name :: (net.announced name next).unreachableFrom name,
      (after.part? net.nextSnapshot other).isSome = true

/-- To start a snapshot is to open it and then to make nodes take part. -/
theorem startSnapshot_eq (name : String) :
    startSnapshot name = announce name >>= fun snapshot => do
      let others ← Action.read fun net => net.unreachableFrom name
      startAt snapshot (name :: others)
      return snapshot := by
  unfold startSnapshot announce
  simp only [bind_assoc, pure_bind]

/-- A snapshot starts at a node that exists, and at once at all that it cannot reach. -/
theorem meets_startSnapshot {name : String} (hWell : net.WellFormed) :
    (startSnapshot name net).Meets
      (fun snapshot after => snapshot = net.nextSnapshot ∧ net.Starts name after)
      (fun error after => error = .nodeNotFound name ∧ name ∉ net.nodes.keys ∧
        after = { net with started := true }) := by
  rw [startSnapshot_eq]
  apply Action.meets_bind (meets_announce net name).done_self
  rintro _ _ ⟨hDone, rfl, hName, next, hNext, rfl⟩
  have hStep : Step net [.announced name net.nextSnapshot] (net.announced name next) :=
    Step.announce hDone
  have hOpened : (net.announced name next).WellFormed := hWell.announced name hNext
  apply Action.meets_bind_of_done rfl
  apply Action.meets_bind (((hWell.ready_announced hName).meets_startAt hOpened).imp
    fun _ _ hStarted => hStarted)
  rintro _ started ⟨hEvolves, hAll⟩
  exact ⟨rfl, next, hNext, hStep, hEvolves, hAll⟩

end Network
end TokenNet
