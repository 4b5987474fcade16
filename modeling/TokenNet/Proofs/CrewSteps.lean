import Mathlib.Data.List.Perm.Basic
import TokenNet.Proofs.Crews

namespace TokenNet

/-!
# What the threads of a crew do

Every step of a thread keeps what the script will have ended in and leaves less to do
(`Crew.Sound.follows`), and some thread can take a step until the driver has come to its end
(`Crew.Sound.exists_step`).  The driver's steps are gone through stage by stage.  A waiter changes
nothing but its own stage and the mailbox, from which the driver takes the results in any order: at the
end they are sorted by their numbers, of which no two are the same (`Crew.sorted_eq`).
-/

namespace Crew

open Network Scenario

variable {start : Network} {crew after : Crew} {received : List Snapshot}

/-! ### One stage after another -/

section Stages

variable {net : Network} {waiters : List Waiter} {mailbox : List Finding}

theorem follows_ticks {ticks : Nat} {commands : List Command} (hStart : start.WellFormed)
    (hSound : Sound start ⟨net, .performing (ticks + 1) commands, waiters, mailbox⟩)
    (hDrive : drive? ⟨net, .performing (ticks + 1) commands, waiters, mailbox⟩ = some after) :
    Follows start ⟨net, .performing (ticks + 1) commands, waiters, mailbox⟩ after := by
  have hDriving : Driving start [] _ := hSound
  cases hDrive
  refine hDriving.follows_tick (Action.mapError ScenarioError.network (pass ticks) >>= fun _ =>
    Scenario.drive commands) hStart rfl (by decide) ?_ fun report between hTick hEvolves hRetains => ?_
  · show concluded _ ((Action.mapError _ (pass (ticks + 1)) >>= fun _ => _) net) = _
    rw [mapError_pass_succ, bind_assoc, concluded_bind]
  · exact ⟨hDriving.evolve hStart hEvolves hRetains rfl rfl, rfl,
      stageWeight_lt_of_second (Nat.lt_succ_self ticks) rfl rfl⟩

theorem follows_performing {commands : List Command} (hStart : start.WellFormed)
    (hSound : Sound start ⟨net, .performing 0 commands, waiters, mailbox⟩)
    (hDrive : drive? ⟨net, .performing 0 commands, waiters, mailbox⟩ = some after) :
    Follows start ⟨net, .performing 0 commands, waiters, mailbox⟩ after := by
  have hDriving : Driving start [] _ := hSound
  have hWell := hDriving.reachable.wellFormed
  cases commands with
  | nil =>
      cases hDrive
      exact ⟨hDriving.goOn _, rfl, weight_lt_of_stageWeight (stageWeight_lt (by decide) rfl rfl)⟩
  | cons command rest =>
      have hOutcome : outcome start.nextSnapshot
          ⟨net, .performing 0 (command :: rest), waiters, mailbox⟩ =
            resumed start.nextSnapshot (Scenario.drive rest) (perform command net) :=
        concluded_drive_cons _ command rest net
      have hFewer : ∀ {crew : Crew} {ticks : Nat}, crew.stage = .performing ticks rest →
          crew.stageWeight <
            stageWeight ⟨net, .performing 0 (command :: rest), waiters, mailbox⟩ := by
        intro crew ticks hStage
        have hWeight : crew.stageWeight = toLex (6, toLex (rest.length, ticks)) := by
          unfold stageWeight
          rw [hStage]
        exact stageWeight_lt_of_first (Nat.lt_succ_self rest.length) hWeight rfl
      cases command with
      | tick count =>
          cases hDrive
          refine ⟨hDriving.goOn _, ?_, weight_lt_of_stageWeight (hFewer rfl)⟩
          rw [hOutcome]
          exact concluded_bind _ _ _ net
      | send source target tokens =>
          cases hDrive
          refine hDriving.follows_carryOut (Scenario.drive rest) hStart rfl (by decide)
            (hOutcome.trans (resumed_map _ _ _ (fun _ => ()) net)) ?_
          refine ((meets_passToken hWell source target tokens).both (keeps_control _ net)).mono ?_ ?_
          · rintro _ between ⟨hEvolves, hRetains⟩
            exact ⟨hDriving.evolve hStart hEvolves hRetains rfl rfl, rfl, hFewer rfl⟩
          · exact fun _ _ hRefused => hRefused
      | snapshot name =>
          cases hDrive
          refine hDriving.follows_carryOut (Scenario.drive rest) hStart rfl (by decide) ?_ ?_
          · rw [hOutcome, perform_snapshot, resumed_map]
            show _ = resumed _ _ (begin name net)
            rw [begin_eq hWell, resumed_map]
          · refine (meets_begin hWell name).mono ?_ fun _ _ hRefused => hRefused
            rintro _ between ⟨rfl, hStarts, hRetains⟩
            refine ⟨hDriving.advance [⟨net.nextSnapshot⟩] hStarts.leads hRetains rfl rfl ?_, rfl, hFewer rfl⟩
            exact hDriving.retains.retainedFrom_concat hRetains hStart hWell
              (hStarts.leads.wellFormed hWell) (hStarts.nextSnapshot_eq hWell)

/-- While a snapshot is outstanding, every tick brings the network nearer to rest. -/
theorem sInf_restsWithin_lt {between : Network} {report : TickReport} (hReachable : net.Reachable)
    (hOrderly : net.Orderly) (hSome : net.outstanding ≠ [])
    (hTick : Network.tick net = .done report between) :
    sInf {ticks | between.RestsWithin ticks} < sInf {ticks | net.RestsWithin ticks} := by
  have hSettles : {ticks | net.RestsWithin ticks}.Nonempty := ⟨_, hOrderly.restsWithin_settleBound⟩
  have hRests : net.RestsWithin (sInf {ticks | net.RestsWithin ticks}) := Nat.sInf_mem hSettles
  have hPending := hReachable.pending_pos hSome
  obtain ⟨ticks, hTicks⟩ := Nat.exists_eq_add_one.mpr (hRests.pos hPending)
  rw [hTicks] at hRests ⊢
  exact Nat.lt_succ_of_le
    (Nat.sInf_le ((hRests.tick hPending hReachable.wellFormed hOrderly).of_done hTick))

theorem follows_settling (hStart : start.WellFormed)
    (hSound : Sound start ⟨net, .settling, waiters, mailbox⟩)
    (hDrive : drive? ⟨net, .settling, waiters, mailbox⟩ = some after) :
    Follows start ⟨net, .settling, waiters, mailbox⟩ after := by
  have hDriving : Driving start [] _ := hSound
  have hReachable : net.Reachable := hDriving.reachable
  unfold drive? at hDrive
  dsimp only at hDrive
  by_cases hNone : net.outstanding = []
  · rw [if_pos (List.isEmpty_iff.mpr hNone)] at hDrive
    cases hDrive
    refine ⟨⟨hDriving.goOn _, hNone⟩, ?_, weight_lt_of_stageWeight (stageWeight_lt (by decide) rfl rfl)⟩
    exact congrArg (concluded start.nextSnapshot) (finish_of_rested hNone).symm
  · -- Something is under way, so the script does not fail here.
    rw [if_neg fun hEmpty => hNone (List.isEmpty_iff.mp hEmpty),
      if_neg (Nat.ne_of_gt (hReachable.pending_pos hNone))] at hDrive
    cases hDrive
    refine hDriving.follows_tick finish hStart rfl (by decide) ?_
      fun report between hTick hEvolves hRetains => ?_
    · show concluded _ (finish net) = _
      rw [finish_of_outstanding hReachable hDriving.orderly hNone, concluded_bind]
    · exact ⟨hDriving.evolve hStart hEvolves hRetains rfl rfl, rfl, stageWeight_lt_of_first
        (sInf_restsWithin_lt hReachable hDriving.orderly hNone hTick) rfl rfl⟩

theorem follows_passing {ticks : Nat} (hStart : start.WellFormed)
    (hSound : Sound start ⟨net, .passing ticks, waiters, mailbox⟩)
    (hDrive : drive? ⟨net, .passing ticks, waiters, mailbox⟩ = some after) :
    Follows start ⟨net, .passing ticks, waiters, mailbox⟩ after := by
  obtain ⟨hDriving, hNone⟩ := hSound
  cases ticks with
  | zero =>
      cases hDrive
      refine ⟨⟨hDriving.goOn _, hNone, rfl⟩, rfl,
        weight_lt_of_stageWeight (stageWeight_lt (by decide) rfl rfl)⟩
  | succ ticks =>
      cases hDrive
      refine hDriving.follows_tick (Action.mapError ScenarioError.network (pass ticks)) hStart rfl
        (by decide) ?_ fun report between hTick hEvolves hRetains => ?_
      · show concluded _ (Action.mapError _ (pass (ticks + 1)) net) = _
        rw [mapError_pass_succ, concluded_bind]
      · refine ⟨⟨hDriving.evolve hStart hEvolves hRetains rfl rfl, ?_⟩, rfl,
          stageWeight_lt_of_first (Nat.lt_succ_self ticks) rfl rfl⟩
        exact List.eq_nil_iff_forall_not_mem.mpr fun id hId => List.not_mem_nil
          (hNone ▸ hEvolves.outstanding_subset hDriving.reachable.wellFormed hId)

/-- Once all waiters have ended, what they have sent is what the network has for their snapshots. -/
theorem filterMap_sent? {waiters : List Waiter} (hEnded : ∀ waiter ∈ waiters, waiter.hasEnded = true)
    (hTruthful : ∀ waiter ∈ waiters, ∀ finding, waiter.finding? = some finding →
      ∃ assembled, finding = .ok assembled ∧
        net.completed? waiter.handle.snapshot = some assembled) :
    waiters.filterMap Waiter.sent? =
      ((waiters.map fun waiter => waiter.handle.snapshot).filterMap net.completed?).map Except.ok := by
  induction waiters with
  | nil => rfl
  | cons waiter rest ih =>
      have hFirst := hEnded waiter List.mem_cons_self
      rw [Waiter.hasEnded_eq, Option.isSome_iff_exists] at hFirst
      obtain ⟨finding, hSent⟩ := hFirst
      obtain ⟨assembled, rfl, hCompleted⟩ :=
        hTruthful waiter List.mem_cons_self finding (Waiter.finding?_of_sent? hSent)
      rw [List.filterMap_cons_some hSent, List.map_cons, List.filterMap_cons_some hCompleted,
        List.map_cons, ih (fun other hOther => hEnded other (List.mem_cons_of_mem _ hOther))
          fun other hOther => hTruthful other (List.mem_cons_of_mem _ hOther)]

/-- Snapshots are put in order by their numbers, in whatever order they have been received. -/
theorem sorted_eq {ids : List SnapshotId} (hWell : net.WellFormed) (hNone : net.outstanding = [])
    (hUsed : ∀ id ∈ ids, id ∈ net.collectors.keys) (hIncreasing : ids.Pairwise (· < ·))
    (hPerm : received.Perm (ids.filterMap net.completed?)) :
    sorted received = ids.filterMap net.completed? := by
  have hSorted : (sorted received).Perm (ids.filterMap net.completed?) :=
    (List.mergeSort_perm received _).trans hPerm
  have hCompleted : ∀ assembled ∈ ids.filterMap net.completed?,
      net.completed? assembled.id = some assembled := by
    intro assembled hMember
    obtain ⟨id, -, hFound⟩ := List.mem_filterMap.mp hMember
    rwa [hWell.id_of_completed? hFound]
  have hNumbers : (ids.filterMap net.completed?).Pairwise fun earlier later =>
      earlier.id < later.id := by
    rw [← map_id_completed? hWell hNone hUsed] at hIncreasing
    exact List.pairwise_map.mp hIncreasing
  refine List.Perm.eq_of_pairwise (fun left right hLeft hRight hLess hMore => ?_)
    (List.pairwise_mergeSort (fun _ _ _ hFirst hSecond => ?_) (fun _ _ => ?_) received)
    (hNumbers.imp fun hLess => ?_) hSorted
  · -- Different snapshots have different numbers.
    have hSame : left.id = right.id :=
      UInt64.le_antisymm (of_decide_eq_true hLess) (of_decide_eq_true hMore)
    have hBoth := hCompleted left (hSorted.mem_iff.mp hLeft)
    rw [hSame, hCompleted right hRight] at hBoth
    exact (Option.some.inj hBoth).symm
  · exact decide_eq_true (UInt64.le_trans (of_decide_eq_true hFirst) (of_decide_eq_true hSecond))
  · rw [Bool.or_eq_true, decide_eq_true_iff, decide_eq_true_iff]
    exact UInt64.le_total _ _
  · exact decide_eq_true (UInt64.le_of_lt hLess)

theorem Driving.length_eq (hDriving : crew.Driving start received) :
    received.length + crew.mailbox.length = crew.sent.length := by
  rw [← hDriving.sent_perm.length_eq, List.length_append, List.length_map]

theorem length_sent_eq_iff :
    crew.sent.length = crew.waiters.length ↔ ∀ waiter ∈ crew.waiters, waiter.hasEnded = true := by
  simp only [Waiter.hasEnded_eq]
  exact List.filterMap_length_eq_length

/-- Once all results have been received, the snapshots of the script have been received. -/
theorem Driving.perm_completed (hDriving : crew.Driving start received) (hEmpty : crew.mailbox = [])
    (hEnded : ∀ waiter ∈ crew.waiters, waiter.hasEnded = true) :
    received.Perm
      ((crew.net.retainedFrom start.nextSnapshot).filterMap crew.net.completed?) := by
  have hSent := hDriving.sent_perm
  rw [hEmpty, List.append_nil] at hSent
  refine (List.map_perm_map_iff fun _ _ hEqual => Except.ok.inj hEqual).mp (hSent.trans ?_)
  rw [← hDriving.ids_eq, ids_eq_map]
  exact List.Perm.of_eq (filterMap_sent? hEnded hDriving.truthful)

theorem follows_received (hSound : Sound start ⟨net, .receiving 0 received, waiters, mailbox⟩)
    (hDrive : drive? ⟨net, .receiving 0 received, waiters, mailbox⟩ = some after) :
    Follows start ⟨net, .receiving 0 received, waiters, mailbox⟩ after := by
  obtain ⟨hDriving, hNone, hLength⟩ := hSound
  cases hDrive
  have hLengths := hDriving.length_eq
  have hAtMost : (sent ⟨net, .receiving 0 received, waiters, mailbox⟩).length ≤ waiters.length :=
    List.length_filterMap_le _ _
  dsimp only at hLength hLengths
  have hEmpty : mailbox = [] := List.eq_nil_of_length_eq_zero (by omega)
  have hEnded : ∀ waiter ∈ waiters, waiter.hasEnded = true := length_sent_eq_iff.mp
    (show (sent ⟨net, .receiving 0 received, waiters, mailbox⟩).length = waiters.length by omega)
  have hIds := hDriving.ids_eq
  refine ⟨⟨hEnded, ?_, hDriving.ids_used⟩, ?_,
    weight_lt_of_stageWeight (stageWeight_lt (by decide) rfl rfl)⟩
  · exact (congrArg List.Nodup hIds).mpr (nodup_retainedFrom _ _)
  · have hSorted := sorted_eq hDriving.reachable.wellFormed hNone
      (fun id hId => (mem_retainedFrom.mp hId).1) ((SortedMap.pairwise_keys _).filter _)
      (hDriving.perm_completed hEmpty hEnded)
    show Outcome.done (sorted received) ((ids _).foldl relinquish net) = _
    rw [hSorted]
    exact congrArg (fun ids => Outcome.done _ (ids.foldl relinquish net)) hIds

theorem follows_receiving {left : Nat}
    (hSound : Sound start ⟨net, .receiving (left + 1) received, waiters, mailbox⟩)
    (hDrive : drive? ⟨net, .receiving (left + 1) received, waiters, mailbox⟩ = some after) :
    Follows start ⟨net, .receiving (left + 1) received, waiters, mailbox⟩ after := by
  obtain ⟨hDriving, hNone, hLength⟩ := hSound
  cases mailbox with
  | nil =>
      -- Some waiter has not sent anything yet, so the driver has to wait.
      have hWaits : ¬ waiters.all Waiter.hasEnded = true := fun hEnded => by
        have hAll : (sent ⟨net, .receiving (left + 1) received, waiters, []⟩).length = waiters.length :=
          length_sent_eq_iff.mpr (List.all_eq_true.mp hEnded)
        have hLengths := hDriving.length_eq
        simp only [List.length_nil] at hLengths hLength
        omega
      have hNothing : drive? ⟨net, .receiving (left + 1) received, waiters, []⟩ = none := if_neg hWaits
      exact nomatch hNothing.symm.trans hDrive
  | cons finding rest =>
      have hSent := hDriving.sent_perm.mem_iff.mp (List.mem_append_right _ List.mem_cons_self)
      obtain ⟨waiter, hWaiter, hFinding⟩ := List.mem_filterMap.mp hSent
      obtain ⟨assembled, rfl, -⟩ :=
        hDriving.truthful waiter hWaiter finding (Waiter.finding?_of_sent? hFinding)
      cases hDrive
      refine ⟨⟨⟨hDriving.reachable, hDriving.orderly, hDriving.retains, hDriving.ids_eq,
        hDriving.truthful, ?_⟩, hNone, ?_⟩, rfl,
        weight_lt_of_stageWeight (stageWeight_lt_of_first (Nat.lt_succ_self left) rfl rfl)⟩
      · rw [List.map_append, List.append_assoc]
        exact hDriving.sent_perm
      · dsimp only at hLength ⊢
        rw [List.length_append, List.length_singleton]
        omega

/-- The waiter at a place is for the snapshot at that place. -/
theorem drop_ids {place : Nat} {waiter : Waiter} (hWaiter : crew.waiters[place]? = some waiter) :
    crew.ids.drop place = waiter.handle.snapshot :: crew.ids.drop (place + 1) := by
  obtain ⟨hPlace, rfl⟩ := List.getElem?_eq_some_iff.mp hWaiter
  rw [ids_eq_map, ← List.map_drop, ← List.map_drop, List.drop_eq_getElem_cons hPlace, List.map_cons]

/-- Behind the last waiter there is no snapshot. -/
theorem drop_ids_eq_nil {place : Nat} (hWaiter : crew.waiters[place]? = none) :
    crew.ids.drop place = [] := by
  rw [ids_eq_map, ← List.map_drop, List.drop_eq_nil_of_le (List.getElem?_eq_none_iff.mp hWaiter),
    List.map_nil]

theorem follows_joining {place : Nat}
    (hSound : Sound start ⟨net, .joining place received, waiters, mailbox⟩)
    (hDrive : drive? ⟨net, .joining place received, waiters, mailbox⟩ = some after) :
    Follows start ⟨net, .joining place received, waiters, mailbox⟩ after := by
  obtain ⟨hEnded, hNodup, hUsed⟩ := hSound
  unfold drive? at hDrive
  dsimp only at hDrive hEnded
  cases hWaiter : waiters[place]? with
  | none =>
      rw [hWaiter] at hDrive
      cases hDrive
      have hNil : (ids ⟨net, .joining place received, waiters, mailbox⟩).drop place = [] :=
        drop_ids_eq_nil hWaiter
      refine ⟨hEnded, ?_, weight_lt_of_stageWeight (stageWeight_lt (by decide) rfl rfl)⟩
      unfold outcome
      dsimp only
      rw [hNil]
      rfl
  | some waiter =>
      have hCons : (ids ⟨net, .joining place received, waiters, mailbox⟩).drop place = _ :=
        drop_ids hWaiter
      rw [hCons] at hNodup hUsed
      have hFirst := hUsed _ List.mem_cons_self
      rw [hWaiter] at hDrive
      dsimp only at hDrive
      unfold join at hDrive
      rw [if_pos (hEnded waiter (List.mem_of_getElem? hWaiter))] at hDrive
      dsimp only at hDrive hFirst
      rw [release_eq_done hFirst] at hDrive
      cases hDrive
      obtain ⟨hNew, hRest⟩ := List.nodup_cons.mp hNodup
      refine ⟨⟨hEnded, hRest, fun id hId => ?_⟩, ?_, ?_⟩
      · exact mem_keys_relinquish (fun hSame => hNew (hSame ▸ hId))
          (hUsed id (List.mem_cons_of_mem _ hId))
      · unfold outcome
        dsimp only
        rw [hCons]
        rfl
      · have hInside := (List.getElem?_eq_some_iff.mp hWaiter).1
        exact weight_lt_of_stageWeight
          (stageWeight_lt_of_first (Nat.sub_succ_lt_self _ _ hInside) rfl rfl)

theorem follows_abandoning {place : Nat} {error : CrewError}
    (hSound : Sound start ⟨net, .abandoning place error, waiters, mailbox⟩)
    (hDrive : drive? ⟨net, .abandoning place error, waiters, mailbox⟩ = some after) :
    Follows start ⟨net, .abandoning place error, waiters, mailbox⟩ after := by
  have hClosing : Closing place _ := hSound
  unfold drive? at hDrive
  dsimp only at hDrive
  cases hWaiter : waiters[place]? with
  | none =>
      rw [hWaiter] at hDrive
      cases hDrive
      have hNil : (ids ⟨net, .abandoning place error, waiters, mailbox⟩).drop place = [] :=
        drop_ids_eq_nil hWaiter
      refine ⟨?_, ?_, weight_lt_of_stageWeight (stageWeight_lt (by decide) rfl rfl)⟩
      · have hEnded := hClosing.ended
        rwa [List.take_of_length_le (List.getElem?_eq_none_iff.mp hWaiter)] at hEnded
      · unfold outcome
        dsimp only
        rw [hNil, abandon_nil]
        rfl
  | some waiter =>
      rw [hWaiter] at hDrive
      cases hDrive
      have hCons : (ids ⟨net, .abandoning place error, waiters, mailbox⟩).drop place = _ :=
        drop_ids hWaiter
      have hKeys : (Network.abandon [waiter.handle.snapshot] net).collectors.keys =
          net.collectors.keys := SortedMap.keys_mapValues ..
      have hUsed : waiter.handle.snapshot ∈ net.collectors.keys :=
        hClosing.used _ (List.mem_of_mem_drop (hCons ▸ List.mem_cons_self))
      refine ⟨⟨⟨fun id hId => hKeys ▸ hClosing.used id hId, hClosing.ended⟩, waiter.handle, ?_, ?_⟩,
        ?_, ?_⟩
      · show (waiters.map Waiter.handle)[place]? = _
        rw [List.getElem?_map, hWaiter, Option.map_some]
      · -- The wait for a snapshot that has been given up comes to an end.
        have hWaits : (Network.abandon [waiter.handle.snapshot] net).waitOn waiter.handle = some _ :=
          waitOn_abandon List.mem_cons_self hUsed
        unfold finding?
        dsimp only
        rw [hWaits]
        cases net.completed? waiter.handle.snapshot <;> rfl
      · unfold outcome
        dsimp only
        rw [hCons]
        exact congrArg (Outcome.refused error) (abandon_cons _ _ net).symm
      · exact weight_lt_of_stageWeight (stageWeight_lt_of_second Nat.zero_lt_one rfl rfl)

theorem follows_awaiting {place : Nat} {error : CrewError}
    (hSound : Sound start ⟨net, .awaiting place error, waiters, mailbox⟩)
    (hDrive : drive? ⟨net, .awaiting place error, waiters, mailbox⟩ = some after) :
    Follows start ⟨net, .awaiting place error, waiters, mailbox⟩ after := by
  obtain ⟨hClosing, -⟩ := hSound
  unfold drive? at hDrive
  dsimp only at hDrive
  cases hWaiter : waiters[place]? with
  | none =>
      rw [hWaiter] at hDrive
      cases hDrive
  | some waiter =>
      rw [hWaiter] at hDrive
      dsimp only at hDrive
      by_cases hEnded : waiter.hasEnded = true
      · rw [if_pos hEnded] at hDrive
        cases hDrive
        have hInside := (List.getElem?_eq_some_iff.mp hWaiter).1
        refine ⟨⟨hClosing.used, fun other hOther => ?_⟩, rfl, weight_lt_of_stageWeight
          (stageWeight_lt_of_first (Nat.sub_succ_lt_self _ _ hInside) rfl rfl)⟩
        replace hOther : other ∈ waiters.take (place + 1) := hOther
        rw [List.take_add_one, hWaiter, List.mem_append] at hOther
        rcases hOther with hEarlier | hLast
        · exact hClosing.ended other hEarlier
        · rw [List.mem_singleton.mp hLast]
          exact hEnded
      · rw [if_neg hEnded] at hDrive
        cases hDrive

/-- Every step of the driver follows. -/
theorem Sound.follows_drive {crew : Crew} (hStart : start.WellFormed) (hSound : crew.Sound start)
    (hDrive : crew.drive? = some after) : Follows start crew after := by
  obtain ⟨net, stage, waiters, mailbox⟩ := crew
  cases stage with
  | performing ticks commands =>
      cases ticks with
      | zero => exact follows_performing hStart hSound hDrive
      | succ ticks => exact follows_ticks hStart hSound hDrive
  | settling => exact follows_settling hStart hSound hDrive
  | passing ticks => exact follows_passing hStart hSound hDrive
  | receiving left received =>
      cases left with
      | zero => exact follows_received hSound hDrive
      | succ left => exact follows_receiving hSound hDrive
  | joining place received => exact follows_joining hSound hDrive
  | abandoning place error => exact follows_abandoning hSound hDrive
  | awaiting place error => exact follows_awaiting hSound hDrive
  | finished result => exact nomatch hDrive
  | crashed fault => exact nomatch hDrive

/-! ### Waiters -/

/-- The outcome depends on the network, the stage and the snapshots of the script. -/
theorem outcome_congr (first : SnapshotId) (hNet : after.net = crew.net) (hStage : after.stage = crew.stage)
    (hIds : after.ids = crew.ids) : after.outcome first = crew.outcome first := by
  unfold outcome
  rw [hNet, hStage, hIds]

section Waiters

variable {stage : DriverStage} {earlier later : List Waiter} {waiter changed : Waiter}
  {sentAfter : List Finding}

theorem handles_replace (hHandle : changed.handle = waiter.handle) :
    handles ⟨net, stage, earlier ++ changed :: later, sentAfter⟩ =
      handles ⟨net, stage, earlier ++ waiter :: later, mailbox⟩ := by
  unfold handles
  simp only [List.map_append, List.map_cons, hHandle]

theorem Driving.replace
    (hDriving : Driving start received ⟨net, stage, earlier ++ waiter :: later, mailbox⟩)
    (hHandle : changed.handle = waiter.handle) (hOpen : waiter.sent? = none)
    (hMailbox : sentAfter = mailbox ++ changed.sent?.toList)
    (hTruthful : ∀ finding, changed.finding? = some finding → ∃ assembled, finding = .ok assembled ∧
      net.completed? changed.handle.snapshot = some assembled) :
    Driving start received ⟨net, stage, earlier ++ changed :: later, sentAfter⟩ := by
  refine ⟨hDriving.reachable, hDriving.orderly, hDriving.retains, ?_, fun other hOther => ?_, ?_⟩
  · rw [← hDriving.ids_eq]
    exact congrArg (List.map Handle.snapshot) (handles_replace hHandle)
  · rcases List.mem_append.mp hOther with hEarlier | hRest
    · exact hDriving.truthful other (List.mem_append_left _ hEarlier)
    · rcases List.mem_cons.mp hRest with rfl | hLater
      · exact hTruthful
      · exact hDriving.truthful other (List.mem_append_right _ (List.mem_cons_of_mem _ hLater))
  · have hBefore := hDriving.sent_perm
    unfold sent at hBefore ⊢
    dsimp only at hBefore ⊢
    rw [List.filterMap_append, List.filterMap_cons_none hOpen] at hBefore
    have hAfter : (earlier ++ changed :: later).filterMap Waiter.sent? =
        earlier.filterMap Waiter.sent? ++ (changed.sent?.toList ++ later.filterMap Waiter.sent?) := by
      rw [List.filterMap_append, List.filterMap_cons]
      cases changed.sent? <;> rfl
    rw [hAfter, hMailbox, ← List.append_assoc]
    refine (hBefore.append_right _).trans ?_
    rw [List.append_assoc]
    exact List.perm_append_comm.append_left _

theorem Closing.replace {place : Nat}
    (hClosing : Closing place ⟨net, stage, earlier ++ waiter :: later, mailbox⟩)
    (hHandle : changed.handle = waiter.handle) (hOpen : waiter.sent? = none) :
    Closing place ⟨net, stage, earlier ++ changed :: later, sentAfter⟩ := by
  have hIds : ids ⟨net, stage, earlier ++ changed :: later, sentAfter⟩ =
      ids ⟨net, stage, earlier ++ waiter :: later, mailbox⟩ :=
    congrArg (List.map Handle.snapshot) (handles_replace hHandle)
  have hBefore := hClosing.ended
  dsimp only at hBefore
  -- The waiter has not ended, so it is not among those before the place.
  have hPlace : place ≤ earlier.length := by
    by_contra hBeyond
    have hMember : waiter ∈ (earlier ++ waiter :: later).take place := by
      rw [List.take_append, List.mem_append]
      refine Or.inr ?_
      obtain ⟨more, hMore⟩ := Nat.exists_eq_add_one.mpr (Nat.sub_pos_of_lt (Nat.lt_of_not_le hBeyond))
      rw [hMore, List.take_succ_cons]
      exact List.mem_cons_self
    have hEnded := hBefore waiter hMember
    rw [Waiter.hasEnded_eq, hOpen] at hEnded
    exact Bool.false_ne_true hEnded
  refine ⟨fun id hId => hClosing.used id (hIds ▸ hId), ?_⟩
  dsimp only
  rw [List.take_append_of_le_length hPlace] at hBefore ⊢
  exact hBefore

/-- What a waiter does that has not ended keeps what holds of the crew, and leaves less to do. -/
theorem Sound.follows_replace
    (hSound : Sound start ⟨net, stage, earlier ++ waiter :: later, mailbox⟩)
    (hHandle : changed.handle = waiter.handle) (hOpen : waiter.sent? = none)
    (hWork : changed.work < waiter.work) (hMailbox : sentAfter = mailbox ++ changed.sent?.toList)
    (hTruthful : ∀ received, Driving start received ⟨net, stage, earlier ++ waiter :: later, mailbox⟩ →
      ∀ finding, changed.finding? = some finding → ∃ assembled, finding = .ok assembled ∧
        net.completed? changed.handle.snapshot = some assembled) :
    Follows start ⟨net, stage, earlier ++ waiter :: later, mailbox⟩
      ⟨net, stage, earlier ++ changed :: later, sentAfter⟩ := by
  have hHandles : handles ⟨net, stage, earlier ++ changed :: later, sentAfter⟩ =
      handles ⟨net, stage, earlier ++ waiter :: later, mailbox⟩ := handles_replace hHandle
  have hMember : waiter ∈ earlier ++ waiter :: later := List.mem_append_right _ List.mem_cons_self
  have hLength : (earlier ++ changed :: later).length = (earlier ++ waiter :: later).length := by
    simp only [List.length_append, List.length_cons]
  have hNotAll : ¬ ∀ other ∈ earlier ++ waiter :: later, other.hasEnded = true := fun hAll => by
    have hEnded := hAll waiter hMember
    rw [Waiter.hasEnded_eq, hOpen] at hEnded
    exact Bool.false_ne_true hEnded
  refine ⟨?_, outcome_congr _ rfl rfl (congrArg (List.map Handle.snapshot) hHandles),
    Prod.Lex.toLex_lt_toLex.mpr (Or.inr ⟨?_, ?_⟩)⟩
  · cases stage with
    | performing ticks commands =>
        exact Driving.replace hSound hHandle hOpen hMailbox (hTruthful [] hSound)
    | settling => exact Driving.replace hSound hHandle hOpen hMailbox (hTruthful [] hSound)
    | passing ticks =>
        exact ⟨hSound.1.replace hHandle hOpen hMailbox (hTruthful [] hSound.1), hSound.2⟩
    | receiving left received =>
        exact ⟨hSound.1.replace hHandle hOpen hMailbox (hTruthful received hSound.1), hSound.2.1,
          hSound.2.2.trans hLength.symm⟩
    | joining place received => exact absurd hSound.1 hNotAll
    | abandoning place error => exact Closing.replace hSound hHandle hOpen
    | awaiting place error => exact ⟨hSound.1.replace hHandle hOpen, hHandles ▸ hSound.2⟩
    | finished result => exact absurd hSound hNotAll
    | crashed fault => exact True.intro
  · unfold stageWeight
    dsimp only
    rw [hLength]
  · unfold work
    simp only [List.map_append, List.map_cons, List.sum_append, List.sum_cons]
    omega

end Waiters

/-- A waiter that wakes up while the driver is at work has got its snapshot. -/
theorem Driving.completed_of_finding? {handle : Handle} {finding : Finding}
    (hDriving : crew.Driving start received) (hStart : start.WellFormed)
    (hHandle : handle ∈ crew.handles) (hFinding : crew.net.finding? handle = some finding) :
    ∃ assembled, finding = .ok assembled ∧
      crew.net.completed? handle.snapshot = some assembled := by
  have hOwn : handle.snapshot ∈ crew.ids := List.mem_map_of_mem hHandle
  cases finding with
  | ok assembled => exact ⟨assembled, rfl, finding?_eq_ok_iff.mp hFinding⟩
  | error error =>
      -- No snapshot of the script has been given up.
      have hGiven := hDriving.retains.of_abandoned
        (abandoned?_of_finding? hFinding (hDriving.ids_used _ hOwn))
      obtain ⟨collector, hFound, -⟩ := Option.map_eq_some_iff.mp hGiven
      have hOld : handle.snapshot < start.nextSnapshot :=
        hStart.collected.started_iff.mpr (Or.inl (SortedMap.mem_keys_of_get? hFound))
      rw [hDriving.ids_eq] at hOwn
      exact absurd hOld (UInt64.not_lt.mpr (mem_retainedFrom.mp hOwn).2)

/-- Every step follows. -/
theorem Sound.follows {crew : Crew} (hStart : start.WellFormed) (hSound : crew.Sound start)
    (hStep : crew.Step after) : Follows start crew after := by
  cases hStep with
  | drive hDrive => exact hSound.follows_drive hStart hDrive
  | @wake net stage earlier later mailbox handle finding hWake =>
      refine hSound.follows_replace rfl rfl (Nat.lt_succ_self 1) (List.append_nil _).symm
        fun received hDriving other hOther => ?_
      cases hOther
      have hMember : (⟨handle, .waiting⟩ : Waiter) ∈ earlier ++ ⟨handle, .waiting⟩ :: later :=
        List.mem_append_right _ List.mem_cons_self
      have hHandle := List.mem_map_of_mem (f := Waiter.handle) hMember
      exact hDriving.completed_of_finding? hStart hHandle hWake
  | send =>
      refine hSound.follows_replace rfl rfl Nat.zero_lt_one rfl fun received hDriving other hOther => ?_
      exact hDriving.truthful _ (List.mem_append_right _ List.mem_cons_self) other hOther

/-! ### No crew is stuck -/

theorem exists_step_of_drive (hSome : crew.drive?.isSome = true) : ∃ after, crew.Step after := by
  obtain ⟨after, hDrive⟩ := Option.isSome_iff_exists.mp hSome
  exact ⟨after, .drive hDrive⟩

/-- A waiter whose wait can end takes a step. -/
theorem exists_step_of_waiter {waiter : Waiter} (hWaiter : waiter ∈ crew.waiters)
    (hOpen : waiter.hasEnded = false) (hFinding : (crew.net.finding? waiter.handle).isSome = true) :
    ∃ after, crew.Step after := by
  obtain ⟨net, stage, waiters, mailbox⟩ := crew
  obtain ⟨earlier, later, rfl⟩ := List.append_of_mem hWaiter
  obtain ⟨handle, waits⟩ := waiter
  cases waits with
  | waiting =>
      obtain ⟨finding, hWake⟩ := Option.isSome_iff_exists.mp hFinding
      exact ⟨_, .wake hWake⟩
  | holding finding => exact ⟨_, .send⟩
  | ended finding => exact absurd hOpen.symm Bool.false_ne_true

theorem Driving.isSome_finding? (hDriving : crew.Driving start received)
    (hNone : crew.net.outstanding = []) {waiter : Waiter} (hWaiter : waiter ∈ crew.waiters) :
    (crew.net.finding? waiter.handle).isSome = true := by
  have hWell := hDriving.reachable.wellFormed
  have hOwn : waiter.handle.snapshot ∈ crew.ids :=
    List.mem_map_of_mem (List.mem_map_of_mem hWaiter)
  obtain ⟨collector, hFound, hComplete⟩ := hWell.exists_complete hNone
    (hWell.mem_collectors_iff.mp (hDriving.ids_used _ hOwn)).1
  have hCompleted := hWell.completed?_eq_some_iff.mpr ⟨collector, hFound, hComplete, rfl⟩
  rw [finding?_eq_ok_iff.mpr hCompleted]
  rfl

theorem isSome_drive?_performing (ticks : Nat) (commands : List Command) :
    (drive? ⟨net, .performing ticks commands, waiters, mailbox⟩).isSome = true := by
  cases ticks with
  | succ ticks => rfl
  | zero =>
      cases commands with
      | nil => rfl
      | cons command rest => cases command <;> rfl

theorem isSome_drive?_settling : (drive? ⟨net, .settling, waiters, mailbox⟩).isSome = true := by
  unfold drive?
  dsimp only
  split
  · rfl
  · split <;> rfl

/-- Whoever waits for a result gets one at last. -/
theorem exists_step_receiving {left : Nat}
    (hSound : Sound start ⟨net, .receiving left received, waiters, mailbox⟩) :
    ∃ after, Step ⟨net, .receiving left received, waiters, mailbox⟩ after := by
  obtain ⟨hDriving, hNone, -⟩ := hSound
  cases left with
  | zero => exact ⟨_, .drive rfl⟩
  | succ left =>
      cases mailbox with
      | cons finding rest => cases finding <;> exact ⟨_, .drive rfl⟩
      | nil =>
          by_cases hAll : waiters.all Waiter.hasEnded = true
          · exact ⟨_, .drive (if_pos hAll)⟩
          · obtain ⟨waiter, hWaiter, hWaits⟩ : ∃ waiter ∈ waiters, waiter.hasEnded = false := by
              simpa using hAll
            exact exists_step_of_waiter hWaiter hWaits (hDriving.isSome_finding? hNone hWaiter)

theorem isSome_drive?_joining {place : Nat}
    (hSound : Sound start ⟨net, .joining place received, waiters, mailbox⟩) :
    (drive? ⟨net, .joining place received, waiters, mailbox⟩).isSome = true := by
  unfold drive?
  dsimp only
  cases hWaiter : waiters[place]? with
  | none => rfl
  | some waiter =>
      dsimp only
      unfold join
      rw [if_pos (hSound.1 waiter (List.mem_of_getElem? hWaiter))]
      cases release waiter.handle.snapshot net <;> rfl

theorem isSome_drive?_abandoning (place : Nat) (error : CrewError) :
    (drive? ⟨net, .abandoning place error, waiters, mailbox⟩).isSome = true := by
  unfold drive?
  dsimp only
  cases waiters[place]? <;> rfl

/-- A waiter whose snapshot has been given up ends at last. -/
theorem exists_step_awaiting {place : Nat} {error : CrewError}
    (hSound : Sound start ⟨net, .awaiting place error, waiters, mailbox⟩) :
    ∃ after, Step ⟨net, .awaiting place error, waiters, mailbox⟩ after := by
  obtain ⟨-, handle, hHandle, hFinding⟩ := hSound
  obtain ⟨waiter, hWaiter, rfl⟩ := Option.map_eq_some_iff.mp
    ((List.getElem?_map (f := Waiter.handle) (l := waiters) (i := place)).symm.trans hHandle)
  by_cases hEnded : waiter.hasEnded = true
  · refine exists_step_of_drive ?_
    unfold drive?
    dsimp only
    rw [hWaiter]
    dsimp only
    rw [if_pos hEnded]
    rfl
  · exact exists_step_of_waiter (List.mem_of_getElem? hWaiter) (Bool.eq_false_iff.mpr hEnded) hFinding

/-- As long as the driver has not come to its end, some thread can take a step. -/
theorem Sound.exists_step {crew : Crew} (hSound : crew.Sound start) (hOpen : crew.ending? = none) :
    ∃ after, crew.Step after := by
  obtain ⟨net, stage, waiters, mailbox⟩ := crew
  cases stage with
  | performing ticks commands => exact exists_step_of_drive (isSome_drive?_performing ticks commands)
  | settling => exact exists_step_of_drive isSome_drive?_settling
  | passing ticks => cases ticks <;> exact ⟨_, .drive rfl⟩
  | receiving left received => exact exists_step_receiving hSound
  | joining place received => exact exists_step_of_drive (isSome_drive?_joining hSound)
  | abandoning place error => exact exists_step_of_drive (isSome_drive?_abandoning place error)
  | awaiting place error => exact exists_step_awaiting hSound
  | finished result => cases result <;> exact nomatch hOpen
  | crashed fault => exact nomatch hOpen

end Stages

end Crew

end TokenNet
