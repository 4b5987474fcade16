import Mathlib.Data.List.Sort
import TokenNet.Proofs.Custody
import TokenNet.Proofs.Settling

namespace TokenNet

/-!
# How scripts end

A script that succeeds has carried out its commands, has let ticks pass until no snapshot was
outstanding and then one more than the longest delay has, and has taken away the snapshots that it
started, whose numbers follow one another (`Scenario.HandsOut`).  A script fails only where one of its
commands does: to come to rest is never refused.  What is left then is what that command left, except
that the snapshots of the script are given up (`Scenario.GivesUp`).
-/

/-- Whether a command starts a snapshot. -/
def Command.isSnapshot : Command → Bool
  | .snapshot _ => true
  | _ => false

namespace Network

variable {net between after settled : Network}

/-- So many ticks pass until no snapshot is outstanding, and no fewer would do. -/
def RestsAfter (net : Network) (ticks : Nat) (settled : Network) : Prop :=
  pass ticks net = .done () settled ∧ settled.outstanding = [] ∧
    ∀ fewer < ticks, ∃ between, pass fewer net = .done () between ∧ between.outstanding ≠ []

theorem pass_succ_of_tick {report : TickReport} (ticks : Nat)
    (hTick : tick net = .done report between) : pass (ticks + 1) net = pass ticks between := by
  show Action.bind tick _ net = _
  unfold Action.bind
  rw [hTick]

theorem RestsAfter.tick {report : TickReport} {ticks : Nat} (hRests : between.RestsAfter ticks settled)
    (hTick : Network.tick net = .done report between) (hSome : net.outstanding ≠ []) :
    net.RestsAfter (ticks + 1) settled := by
  obtain ⟨hPass, hNone, hFewer⟩ := hRests
  refine ⟨(pass_succ_of_tick ticks hTick).trans hPass, hNone, fun fewer hLess => ?_⟩
  cases fewer with
  | zero => exact ⟨net, rfl, hSome⟩
  | succ fewer =>
      obtain ⟨last, hLast, hStill⟩ := hFewer fewer (Nat.lt_of_succ_lt_succ hLess)
      exact ⟨last, (pass_succ_of_tick fewer hTick).trans hLast, hStill⟩

theorem pass_add (earlier later : Nat) :
    pass (earlier + later) = pass earlier >>= fun _ => pass later := by
  induction earlier with
  | zero => rw [Nat.zero_add]; rfl
  | succ earlier ih =>
      rw [Nat.succ_add]
      show (tick >>= fun _ => pass (earlier + later)) = _
      rw [ih]
      exact (bind_assoc tick (fun _ => pass earlier) fun _ => pass later).symm

/-- What is retained has been started and not been taken away. -/
theorem WellFormed.mem_collectors_iff {id : SnapshotId} (hWell : net.WellFormed) :
    id ∈ net.collectors.keys ↔ id < net.nextSnapshot ∧ id ∉ net.retired.keys := by
  rw [hWell.collected.started_iff]
  refine ⟨fun hUsed => ⟨Or.inl hUsed, fun hRetired => ?_⟩, fun ⟨hStarted, hKept⟩ =>
    hStarted.resolve_right hKept⟩
  obtain ⟨collector, hFound⟩ := SortedMap.mem_keys_iff.mp hRetired
  exact SortedMap.get?_eq_none_iff.mp (hWell.collected.retired_sound hFound).2.2 hUsed

/-- As long as nothing is taken away, the snapshots retained from a number on that has not been in use
are those that have been started since. -/
theorem Retains.mem_retainedFrom_iff {id : SnapshotId} (hRetains : net.Retains after)
    (hWell : net.WellFormed) (hAfter : after.WellFormed) :
    id ∈ after.retainedFrom net.nextSnapshot ↔
      net.nextSnapshot ≤ id ∧ id < after.nextSnapshot := by
  rw [mem_retainedFrom, hAfter.mem_collectors_iff, hRetains.retired_eq]
  refine ⟨fun ⟨hKept, hNew⟩ => ⟨hNew, hKept.1⟩, fun ⟨hNew, hStarted⟩ => ⟨⟨hStarted, fun hOld => ?_⟩, hNew⟩⟩
  exact UInt64.not_lt.mpr hNew (hWell.collected.started_iff.mpr (Or.inr hOld))

/-- Their numbers follow one another. -/
theorem Retains.map_toNat_retainedFrom (hRetains : net.Retains after) (hWell : net.WellFormed)
    (hAfter : after.WellFormed) :
    (after.retainedFrom net.nextSnapshot).map UInt64.toNat =
      List.range' net.nextSnapshot.toNat
        (after.nextSnapshot.toNat - net.nextSnapshot.toNat) := by
  have hIncreasing : (after.retainedFrom net.nextSnapshot).Pairwise (· < ·) :=
    (SortedMap.pairwise_keys _).filter _
  refine List.Pairwise.eq_of_mem_iff (List.pairwise_map.mpr hIncreasing)
    List.pairwise_lt_range' fun number => ?_
  have hBelow : net.nextSnapshot.toNat ≤ after.nextSnapshot.toNat := hRetains.nextSnapshot_le
  rw [List.mem_map, List.mem_range'_1, Nat.add_sub_cancel' hBelow]
  constructor
  · rintro ⟨id, hId, rfl⟩
    exact (hRetains.mem_retainedFrom_iff hWell hAfter).mp hId
  · rintro ⟨hNew, hStarted⟩
    have hNumber : (UInt64.ofNat number).toNat = number :=
      UInt64.toNat_ofNat_of_lt' (Nat.lt_trans hStarted after.nextSnapshot.toNat_lt)
    refine ⟨UInt64.ofNat number, (hRetains.mem_retainedFrom_iff hWell hAfter).mpr ⟨?_, ?_⟩, hNumber⟩
    · exact UInt64.le_iff_toNat_le.mpr (hNumber.symm ▸ hNew)
    · exact UInt64.lt_iff_toNat_lt.mpr (hNumber.symm ▸ hStarted)

theorem evolves_foldl_relinquish (ids : List SnapshotId) (net : Network) :
    net.Evolves (ids.foldl relinquish net) := by
  induction ids generalizing net with
  | nil => exact Evolves.refl net
  | cons id rest ih => exact (evolves_relinquish net id).trans (ih _)

/-! ### Giving snapshots up -/

theorem get?_abandon (ids : List SnapshotId) (net : Network) (id : SnapshotId) :
    (Network.abandon ids net).collectors.get? id =
      (net.collectors.get? id).map fun collector =>
        if id ∈ ids then collector.abandon else collector :=
  SortedMap.get?_mapValues ..

/-- Who waits for a snapshot that is given up gets it if it is complete, and is told otherwise. -/
theorem waitOn_abandon {ids : List SnapshotId} {id : SnapshotId} (hId : id ∈ ids)
    (hUsed : id ∈ net.collectors.keys) :
    (Network.abandon ids net).waitOn ⟨id⟩ =
      some (match net.completed? id with
        | some assembled => .ready assembled
        | none => .abandoned) := by
  obtain ⟨collector, hFound⟩ := SortedMap.mem_keys_iff.mp hUsed
  have hGiven : (Network.abandon ids net).collectors.get? id = some collector.abandon := by
    rw [get?_abandon, hFound, Option.map_some, if_pos hId]
  have hWait := Collector.wait_abandon collector
  unfold waitOn
  rw [collectorOf?_of_get? hGiven, completed?_of_get? hFound]
  cases hAssembled : collector.assemble? <;> rw [hAssembled] at hWait <;> exact congrArg some hWait

/-- Snapshots that are not given up are left alone. -/
theorem collectorOf?_abandon_of_notMem {ids : List SnapshotId} {id : SnapshotId} (hId : id ∉ ids) :
    (Network.abandon ids net).collectorOf? ⟨id⟩ = net.collectorOf? ⟨id⟩ := by
  have hSame : (Network.abandon ids net).collectors.get? id = net.collectors.get? id := by
    rw [get?_abandon]
    simp only [if_neg hId, Option.map_id']
  have hRetired : (Network.abandon ids net).retired = net.retired := rfl
  unfold collectorOf?
  rw [hSame, hRetired]

end Network

namespace Scenario

open Network

variable {net after : Network} {commands : List Command}

/-! ### Commands -/

/-- A command that starts a snapshot uses up a number, and no other command does. -/
theorem meets_perform_next (hWell : net.WellFormed) (command : Command) :
    (perform command net).Meets
      (fun _ after => after.nextSnapshot.toNat =
        net.nextSnapshot.toNat + [command].countP Command.isSnapshot)
      (fun _ after => after.nextSnapshot = net.nextSnapshot) := by
  cases command with
  | send source target tokens =>
      refine Action.meets_bind (Action.meets_bind ((meets_sendTokens_evolves hWell).mono
        (fun _ _ hSent => ?_) fun _ _ hRefused => ?_) fun _ _ hSame => hSame)
          fun _ _ hSame => congrArg UInt64.toNat hSame
      · exact (hSent.extends hWell).nextSnapshot_eq
      · exact (hRefused.extends hWell).nextSnapshot_eq
  | snapshot name =>
      refine Action.meets_bind (Action.meets_bind ((meets_startSnapshot hWell).mono
        (fun _ after hStarted => ?_) fun _ after hRefused => ?_) fun _ _ hNext => hNext)
          fun _ _ hNext => hNext
      · show after.nextSnapshot.toNat = net.nextSnapshot.toNat + 1
        exact hStarted.2.nextSnapshot_eq hWell
      · rw [hRefused.2.2]
  | tick count =>
      exact (meets_pass hWell).imp fun _ _ hEvolves =>
        congrArg UInt64.toNat (hEvolves.extends hWell).nextSnapshot_eq

theorem nextSnapshot_of_performAll (hWell : net.WellFormed)
    (hDone : performAll commands net = .done () after) :
    after.nextSnapshot.toNat =
      net.nextSnapshot.toNat + commands.countP Command.isSnapshot := by
  induction commands generalizing net with
  | nil =>
      cases hDone
      rfl
  | cons command rest ih =>
      obtain ⟨_, between, hFirst, hRest⟩ := Action.bind_eq_done_iff.mp hDone
      have hBetween := ((meets_perform hWell).of_done hFirst).wellFormed hWell
      have hNext : between.nextSnapshot.toNat =
          net.nextSnapshot.toNat + [command].countP Command.isSnapshot :=
        (meets_perform_next hWell command).of_done hFirst
      rw [ih hBetween hRest, hNext, Nat.add_assoc, ← List.countP_append]
      rfl

/-- Commands fail where one of them does, after those before it have been carried out. -/
theorem performAll_eq_refused {cause : NetworkError}
    (hRefused : performAll commands net = .refused cause after) :
    ∃ earlier command rest before, commands = earlier ++ command :: rest ∧
      performAll earlier net = .done () before ∧ perform command before = .refused cause after := by
  induction commands generalizing net with
  | nil => cases hRefused
  | cons command rest ih =>
      rcases Action.bind_eq_refused_iff.mp hRefused with hFirst | ⟨_, between, hFirst, hRest⟩
      · exact ⟨[], command, rest, net, rfl, rfl, hFirst⟩
      · obtain ⟨earlier, failing, later, before, rfl, hEarlier, hFailing⟩ := ih hRest
        exact ⟨command :: earlier, failing, later, before, rfl,
          Action.bind_eq_done_iff.mpr ⟨_, between, hFirst, hEarlier⟩, hFailing⟩

/-! ### Coming to rest -/

/-- Letting ticks pass until no snapshot is outstanding takes as many ticks as are needed. -/
theorem restsAfter_of_settle {bound : Nat} {settled : Network} (hReachable : net.Reachable)
    (hDone : settle bound net = .done () settled) : ∃ ticks, net.RestsAfter ticks settled := by
  induction bound generalizing net with
  | zero =>
      by_cases hNone : net.outstanding = []
      · cases (settle_of_rested 0 hNone).symm.trans hDone
        exact ⟨0, rfl, hNone, fun _ hLess => absurd hLess (Nat.not_lt_zero _)⟩
      · exact nomatch (settle_of_outstanding hReachable hNone 0).symm.trans hDone
  | succ bound ih =>
      by_cases hNone : net.outstanding = []
      · cases (settle_of_rested _ hNone).symm.trans hDone
        exact ⟨0, rfl, hNone, fun _ hLess => absurd hLess (Nat.not_lt_zero _)⟩
      · rw [settle_of_outstanding hReachable hNone] at hDone
        obtain ⟨report, between, hTick, hRest⟩ := Action.bind_eq_done_iff.mp hDone
        rw [Action.mapError_eq_done_iff] at hTick
        have hLeads := ((meets_tick hReachable.wellFormed).of_done hTick).leads
        obtain ⟨ticks, hRests⟩ := ih (hReachable.leads hLeads) hRest
        exact ⟨ticks + 1, hRests.tick hTick hNone⟩

/-- It is cut short only by a tick that is. -/
theorem pass_of_settle_faulted {bound : Nat} {fault : Fault} (hReachable : net.Reachable)
    (hFaulted : settle bound net = .faulted fault) : ∃ ticks, pass ticks net = .faulted fault := by
  induction bound generalizing net with
  | zero =>
      by_cases hNone : net.outstanding = []
      · exact nomatch (settle_of_rested 0 hNone).symm.trans hFaulted
      · exact nomatch (settle_of_outstanding hReachable hNone 0).symm.trans hFaulted
  | succ bound ih =>
      by_cases hNone : net.outstanding = []
      · exact nomatch (settle_of_rested _ hNone).symm.trans hFaulted
      · rw [settle_of_outstanding hReachable hNone] at hFaulted
        rcases Action.bind_eq_faulted_iff.mp hFaulted with hFirst | ⟨report, between, hTick, hRest⟩
        · exact ⟨1, Action.bind_eq_faulted_iff.mpr (Or.inl (Action.mapError_eq_faulted_iff.mp hFirst))⟩
        · rw [Action.mapError_eq_done_iff] at hTick
          have hLeads := ((meets_tick hReachable.wellFormed).of_done hTick).leads
          obtain ⟨ticks, hPass⟩ := ih (hReachable.leads hLeads) hRest
          exact ⟨ticks + 1, (pass_succ_of_tick ticks hTick).trans hPass⟩

/-- Any bound within which the network comes to rest is as good as any other. -/
theorem settle_eq_of_restsWithin {bound other : Nat} (hReachable : net.Reachable)
    (hOrderly : net.Orderly) (hBound : net.RestsWithin bound) (hOther : net.RestsWithin other) :
    settle bound net = settle other net := by
  induction bound generalizing net other with
  | zero =>
      by_cases hNone : net.outstanding = []
      · rw [settle_of_rested _ hNone, settle_of_rested _ hNone]
      · exact absurd (hBound.pos (hReachable.pending_pos hNone)) (Nat.lt_irrefl 0)
  | succ bound ih =>
      by_cases hNone : net.outstanding = []
      · rw [settle_of_rested _ hNone, settle_of_rested _ hNone]
      · have hPending := hReachable.pending_pos hNone
        obtain ⟨other, rfl⟩ := Nat.exists_eq_add_one.mpr (hOther.pos hPending)
        rw [settle_of_outstanding hReachable hNone, settle_of_outstanding hReachable hNone]
        refine Action.bind_congr_of_done fun report between hTick => ?_
        rw [Action.mapError_eq_done_iff] at hTick
        have hWell := hReachable.wellFormed
        have hEvolves := (meets_tick hWell).of_done hTick
        exact ih (hReachable.leads hEvolves.leads) (hEvolves.orderly hWell hOrderly)
          ((hBound.tick hPending hWell hOrderly).of_done hTick)
          ((hOther.tick hPending hWell hOrderly).of_done hTick)

/-! ### Scripts -/

/-- How a script ends that succeeds: its commands are carried out, ticks pass until no snapshot is
outstanding and then one more than the longest delay has, and its snapshots are taken away. -/
structure HandsOut (commands : List Command) (net : Network) (snapshots : List Snapshot)
    (after : Network) : Prop where
  /-- The script is carried out step by step. -/
  course : ∃ performed ticks settled passed, performAll commands net = .done () performed ∧
    performed.RestsAfter ticks settled ∧
    pass (settled.maxDelay.toNat + 1) settled = .done () passed ∧
    collectAll (snapshots.map Snapshot.id) passed = .done snapshots after ∧
    ∀ assembled ∈ snapshots, ∃ left,
      tryCollect assembled.id passed = .done (some assembled) left
  /-- There is one snapshot for each command that starts one, and their numbers follow one another. -/
  numbers : (snapshots.map Snapshot.id).map UInt64.toNat =
    List.range' net.nextSnapshot.toNat (commands.countP Command.isSnapshot)
  /-- They cannot be asked for any more. -/
  unknown : ∀ assembled ∈ snapshots, ∀ call, call.subject? = some assembled.id →
    answer call after = .refused (.unknownSnapshot assembled.id) after
  /-- What was retained before still is, and nothing else. -/
  keys_eq : after.collectors.keys = net.collectors.keys
  /-- As many snapshots are retained as before. -/
  retained_eq : after.retained = net.retained

/-- How a script ends that fails: one of its commands has failed and left the network `failed`, and the
snapshots of the script are given up. -/
structure GivesUp (commands : List Command) (net : Network) (error : ScenarioError)
    (failed after : Network) : Prop where
  /-- The commands before the one that fails have been carried out, and none after it. -/
  course : ∃ earlier command rest before cause, commands = earlier ++ command :: rest ∧
    performAll earlier net = .done () before ∧ perform command before = .refused cause failed ∧
    error = .network cause ∧ failed.nextSnapshot.toNat =
      net.nextSnapshot.toNat + earlier.countP Command.isSnapshot
  /-- What the command has left stays, but that snapshots are given up. -/
  after_eq : after = Network.abandon (failed.retainedFrom net.nextSnapshot) failed
  /-- No snapshot is taken away. -/
  keys_eq : after.collectors.keys = failed.collectors.keys
  /-- The snapshots of the script are retained, and whoever waits for them is told how they are. -/
  own : ∀ id, net.nextSnapshot ≤ id → id < failed.nextSnapshot →
    id ∈ after.collectors.keys ∧ after.waitOn ⟨id⟩ =
      some (match failed.completed? id with
        | some assembled => .ready assembled
        | none => .abandoned)
  /-- Snapshots that had been started before are not given up. -/
  others : ∀ id < net.nextSnapshot, after.collectorOf? ⟨id⟩ = failed.collectorOf? ⟨id⟩ ∧
    after.abandoned? id = net.abandoned? id

/-- How a script ends that is cut short: one of its commands or of the ticks after them has been. -/
def CutShort (commands : List Command) (net : Network) (fault : Fault) : Prop :=
  performAll commands net = .faulted fault ∨
    ∃ performed ticks, performAll commands net = .done () performed ∧
      pass ticks performed = .faulted fault

/-- How a script may end. -/
def Ends (commands : List Command) (net : Network) :
    Outcome Network ScenarioError (List Snapshot) → Prop
  | .done snapshots after => HandsOut commands net snapshots after
  | .refused error after => ∃ failed, GivesUp commands net error failed after
  | .faulted fault => CutShort commands net fault

/-- What carrying out the commands and coming to rest comes to. -/
theorem meets_drive_course (hReachable : net.Reachable) (hOrderly : net.Orderly)
    (commands : List Command) :
    (drive commands net).Meets
      (fun _ passed => passed.outstanding = [] ∧ passed.nextSnapshot.toNat =
          net.nextSnapshot.toNat + commands.countP Command.isSnapshot ∧
        ∃ performed ticks settled, performAll commands net = .done () performed ∧
          performed.RestsAfter ticks settled ∧
          pass (settled.maxDelay.toNat + 1) settled = .done () passed)
      (fun error failed => ∃ cause, error = .network cause ∧
        performAll commands net = .refused cause failed) := by
  have hWell := hReachable.wellFormed
  refine Action.meets_bind (M := fun _ performed => performAll commands net = .done () performed)
    (Action.meets_mapError (Outcome.meets_self.mono (fun _ _ hDone => hDone)
      fun cause _ hRefused => ⟨cause, rfl, hRefused⟩)) ?_
  rintro _ performed hPerformed
  have hLeads : net.Leads 0 performed := (meets_performAll hWell).of_done hPerformed
  have hPerformedReachable := hReachable.leads hLeads
  apply Action.meets_bind_of_done rfl
  refine Action.meets_bind ((meets_settle_bound hPerformedReachable
    (hLeads.orderly hWell hOrderly)).done_self.imp fun _ _ hSettled => hSettled) ?_
  rintro _ settled ⟨hDone, hSettles, hNone⟩
  obtain ⟨ticks, hRests⟩ := restsAfter_of_settle hPerformedReachable hDone
  have hPerformedWell := hPerformedReachable.wellFormed
  have hSettledWell := hSettles.wellFormed hPerformedWell
  apply Action.meets_bind_of_done rfl
  refine Action.meets_mapError ((meets_pass hSettledWell).done_self.imp ?_)
  rintro _ passed ⟨hPass, hPasses⟩
  refine ⟨?_, ?_, performed, ticks, settled, hPerformed, hRests, hPass⟩
  · -- Ticks make no snapshot outstanding.
    exact List.eq_nil_iff_forall_not_mem.mpr fun id hId =>
      List.not_mem_nil (hNone ▸ hPasses.outstanding_subset hSettledWell hId)
  · rw [(hPasses.extends hSettledWell).nextSnapshot_eq,
      (hSettles.extends hPerformedWell).nextSnapshot_eq]
    exact nextSnapshot_of_performAll hWell hPerformed

/-- To come to rest is cut short only by a tick that is. -/
theorem cutShort_of_drive {fault : Fault} (hReachable : net.Reachable)
    (hFaulted : drive commands net = .faulted fault) : CutShort commands net fault := by
  rcases Action.bind_eq_faulted_iff.mp hFaulted with hFirst | ⟨_, performed, hPerformed, hRest⟩
  · exact Or.inl (Action.mapError_eq_faulted_iff.mp hFirst)
  rw [Action.mapError_eq_done_iff] at hPerformed
  have hLeads : net.Leads 0 performed :=
    (meets_performAll hReachable.wellFormed).of_done hPerformed
  have hPerformedReachable := hReachable.leads hLeads
  refine Or.inr ⟨performed, ?_⟩
  obtain ⟨_, _, hBound, hRest⟩ := (Action.bind_eq_faulted_iff.mp hRest).resolve_left nofun
  cases hBound
  rcases Action.bind_eq_faulted_iff.mp hRest with hSettle | ⟨_, settled, hSettle, hRest⟩
  · obtain ⟨ticks, hPass⟩ := pass_of_settle_faulted hPerformedReachable hSettle
    exact ⟨ticks, hPerformed, hPass⟩
  · obtain ⟨ticks, hPass, -⟩ := restsAfter_of_settle hPerformedReachable hSettle
    obtain ⟨_, _, hDelay, hRest⟩ := (Action.bind_eq_faulted_iff.mp hRest).resolve_left nofun
    cases hDelay
    refine ⟨ticks + (settled.maxDelay.toNat + 1), hPerformed, ?_⟩
    rw [pass_add]
    exact Action.bind_eq_faulted_iff.mpr
      (Or.inr ⟨(), settled, hPass, Action.mapError_eq_faulted_iff.mp hRest⟩)

/-- If no snapshot is outstanding, whatever is retained can be handed out. -/
theorem map_id_completed? {passed : Network} {ids : List SnapshotId} (hWell : passed.WellFormed)
    (hNone : passed.outstanding = []) (hUsed : ∀ id ∈ ids, id ∈ passed.collectors.keys) :
    (ids.filterMap passed.completed?).map Snapshot.id = ids := by
  induction ids with
  | nil => rfl
  | cons id rest ih =>
      obtain ⟨collector, hFound, hComplete⟩ := hWell.exists_complete hNone
        (hWell.mem_collectors_iff.mp (hUsed id List.mem_cons_self)).1
      have hCompleted := hWell.completed?_eq_some_iff.mpr ⟨collector, hFound, hComplete, rfl⟩
      rw [List.filterMap_cons_some hCompleted, List.map_cons, hWell.id_of_completed? hCompleted,
        ih fun other hOther => hUsed other (List.mem_cons_of_mem _ hOther)]

/-- After the snapshots of a script have been taken away, those are retained that were before it. -/
theorem keys_of_takes {passed : Network} (hRetains : net.Retains passed) (hWell : net.WellFormed)
    (hPassed : passed.WellFormed) (hAfter : after.WellFormed)
    (hTakes : passed.Takes (passed.retainedFrom net.nextSnapshot) after)
    (hNext : after.nextSnapshot = passed.nextSnapshot) :
    after.collectors.keys = net.collectors.keys := by
  refine List.Pairwise.eq_of_mem_iff (SortedMap.pairwise_keys _) (SortedMap.pairwise_keys _)
    fun id => ?_
  rw [hAfter.mem_collectors_iff, hWell.mem_collectors_iff, hNext, hTakes.mem_retired_iff,
    hRetains.mem_retainedFrom_iff hWell hPassed, hRetains.retired_eq, not_or, not_and]
  constructor
  · rintro ⟨hStarted, hKept, hOld⟩
    exact ⟨UInt64.not_le.mp fun hNew => hOld hNew hStarted, hKept⟩
  · rintro ⟨hOld, hKept⟩
    exact ⟨UInt64.lt_of_lt_of_le hOld hRetains.nextSnapshot_le, hKept, fun hNew =>
      absurd hOld (UInt64.not_lt.mpr hNew)⟩

theorem handsOut_of_drive {passed : Network} (hReachable : net.Reachable) (hOrderly : net.Orderly)
    (hDriven : drive commands net = .done () passed) :
    HandsOut commands net ((passed.retainedFrom net.nextSnapshot).filterMap passed.completed?)
      ((passed.retainedFrom net.nextSnapshot).foldl relinquish passed) := by
  have hWell := hReachable.wellFormed
  have hRetains := (keeps_drive commands net).of_done hDriven
  have hLeads : (drive commands net).Meets (fun _ after => net.Leads 0 after)
      (fun _ after => net.Leads 0 after) := meets_drive_leads hWell
  have hPassed := (hLeads.of_done hDriven).wellFormed hWell
  obtain ⟨hNone, hNext, performed, ticks, settled, hPerformed, hRests, hPass⟩ :=
    (meets_drive_course hReachable hOrderly commands).of_done hDriven
  have hUsed : ∀ id ∈ passed.retainedFrom net.nextSnapshot, id ∈ passed.collectors.keys :=
    fun id hId => (mem_retainedFrom.mp hId).1
  have hNodup := nodup_retainedFrom passed net.nextSnapshot
  have hIds := map_id_completed? hPassed hNone hUsed
  have hEvolves := evolves_foldl_relinquish (passed.retainedFrom net.nextSnapshot) passed
  have hTakes := takes_foldl_relinquish hPassed hNodup hUsed
  rw [hIds] at hTakes
  have hKeys := keys_of_takes hRetains hWell hPassed (hEvolves.wellFormed hPassed) hTakes
    (hEvolves.extends hPassed).nextSnapshot_eq
  refine ⟨⟨performed, ticks, settled, passed, hPerformed, hRests, hPass, ?_, ?_⟩, ?_, ?_, hKeys, ?_⟩
  · rw [hIds]
    exact collectAll_eq_done hNodup hUsed
  · intro assembled hHanded
    obtain ⟨id, hId, hCompleted⟩ := List.mem_filterMap.mp hHanded
    refine ⟨passed.relinquish id, ?_⟩
    rw [hPassed.id_of_completed? hCompleted, tryCollect_eq_done (hUsed id hId), hCompleted]
  · rw [hIds, hRetains.map_toNat_retainedFrom hWell hPassed, hNext, Nat.add_sub_cancel_left]
  · intro assembled hHanded call hSubject
    have hTaken : assembled.id ∈ passed.retainedFrom net.nextSnapshot :=
      hIds ▸ List.mem_map_of_mem hHanded
    refine answer_unknown hSubject (SortedMap.get?_eq_none_iff.mpr fun hStill => ?_)
    exact ((hEvolves.wellFormed hPassed).mem_collectors_iff.mp hStill).2
      (hTakes.mem_retired_iff.mpr (Or.inr hTaken))
  · have hLengths := congrArg List.length hKeys
    unfold SortedMap.keys at hLengths
    rwa [List.length_map, List.length_map] at hLengths

theorem givesUp_of_drive {error : ScenarioError} {failed : Network} (hReachable : net.Reachable)
    (hOrderly : net.Orderly) (hDriven : drive commands net = .refused error failed) :
    GivesUp commands net error failed
      (Network.abandon (failed.retainedFrom net.nextSnapshot) failed) := by
  have hWell := hReachable.wellFormed
  have hRetains := (keeps_drive commands net).of_refused hDriven
  have hLeads : (drive commands net).Meets (fun _ after => net.Leads 0 after)
      (fun _ after => net.Leads 0 after) := meets_drive_leads hWell
  have hFailed := (hLeads.of_refused hDriven).wellFormed hWell
  obtain ⟨cause, rfl, hRefused⟩ := (meets_drive_course hReachable hOrderly commands).of_refused hDriven
  obtain ⟨earlier, command, rest, before, rfl, hEarlier, hFailing⟩ := performAll_eq_refused hRefused
  have hKeys : (Network.abandon (failed.retainedFrom net.nextSnapshot) failed).collectors.keys =
      failed.collectors.keys := SortedMap.keys_mapValues ..
  refine ⟨⟨earlier, command, rest, before, cause, rfl, hEarlier, hFailing, rfl, ?_⟩, rfl,
    hKeys, fun id hNew hStarted => ?_, fun id hOld => ?_⟩
  · have hBetween : net.Leads 0 before := (meets_performAll hWell).of_done hEarlier
    have hBefore := hBetween.wellFormed hWell
    rw [(meets_perform_next hBefore command).of_refused hFailing]
    exact nextSnapshot_of_performAll hWell hEarlier
  · have hOwn := (hRetains.mem_retainedFrom_iff hWell hFailed).mpr ⟨hNew, hStarted⟩
    have hUsed := (mem_retainedFrom.mp hOwn).1
    exact ⟨hKeys ▸ hUsed, waitOn_abandon hOwn hUsed⟩
  · have hForeign : id ∉ failed.retainedFrom net.nextSnapshot := fun hOwn =>
      UInt64.not_lt.mpr (mem_retainedFrom.mp hOwn).2 hOld
    refine ⟨collectorOf?_abandon_of_notMem hForeign, ?_⟩
    rw [← hRetains.abandoned?_eq hOld]
    unfold abandoned?
    rw [get?_abandon]
    simp only [if_neg hForeign, Option.map_id']

/-- Every script ends in one of these ways. -/
theorem ends_runScript (hReachable : net.Reachable) (hOrderly : net.Orderly)
    (commands : List Command) : Ends commands net (runScript commands net) := by
  rcases runScript_cases commands net with ⟨passed, hDriven, hRun⟩ |
    ⟨error, failed, hDriven, hRun⟩ | ⟨fault, hDriven, hRun⟩
  · exact hRun ▸ handsOut_of_drive hReachable hOrderly hDriven
  · exact hRun ▸ ⟨failed, givesUp_of_drive hReachable hOrderly hDriven⟩
  · exact hRun ▸ cutShort_of_drive hReachable hDriven

/-- A script fails only if the network refuses one of its commands: no snapshot is left incomplete,
neither for want of messages nor for want of ticks. -/
theorem eq_network_of_runScript {error : ScenarioError} (hReachable : net.Reachable)
    (hOrderly : net.Orderly) (hRefused : runScript commands net = .refused error after) :
    ∃ cause, error = .network cause := by
  have hEnds := ends_runScript hReachable hOrderly commands
  rw [hRefused] at hEnds
  obtain ⟨failed, hGivesUp⟩ := hEnds
  obtain ⟨_, _, _, _, cause, -, -, -, rfl, -⟩ := hGivesUp.course
  exact ⟨cause, rfl⟩

/-- No script fails because ticks ran out. -/
theorem runScript_ne_unsettled (hReachable : net.Reachable) (hOrderly : net.Orderly)
    (outstanding : List SnapshotId) :
    runScript commands net ≠ .refused (.unsettled outstanding) after := by
  intro hRefused
  obtain ⟨_, hNetwork⟩ := eq_network_of_runScript hReachable hOrderly hRefused
  cases hNetwork

end Scenario

end TokenNet
