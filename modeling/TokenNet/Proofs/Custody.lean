import TokenNet.Proofs.Frames
import TokenNet.Proofs.Sessions

namespace TokenNet

/-!
# Custody of snapshots

A network keeps the collector of a snapshot until the snapshot is taken away, which is once at the
most.  `Network.Takes` says which snapshots are taken away between two states.  What the responses to
requests tell of snapshots (`receipts`) is true of the states that they lead to
(`Network.confirms_of_session`), so custody is settled by the receipts alone: what they say has been taken
is unknown from then on, and everything else that has been started is retained
(`Network.custody_by_receipts`).  Whoever holds a handle may ask at any time (`Network.waitOn`): nothing
that happens later, not even that the network is given up (`Network.close`), changes the answer once
the snapshot is there.
-/

/-- What responses tell of snapshots. -/
structure Receipts where
  /-- The snapshots that have been taken away. -/
  taken : List SnapshotId := []
  /-- The snapshots that have been handed out. -/
  handed : List Snapshot := []
  /-- The numbers of the snapshots that have been started. -/
  started : List SnapshotId := []
  /-- The handles that have been given out. -/
  given : List Handle := []

/-- The receipts of earlier and later responses. -/
def Receipts.append (earlier later : Receipts) : Receipts :=
  ⟨earlier.taken ++ later.taken, earlier.handed ++ later.handed, earlier.started ++ later.started,
    earlier.given ++ later.given⟩

/-- What the reply to a call tells of snapshots. -/
def Call.receipts : Call → Reply → Receipts
  | .startSnapshot _, .ok (.started id) => { started := [id] }
  | .control _, .ok (.controlled id) => { started := id.toList }
  | .handle _, .ok (.handle given) => { given := [given] }
  | .tryCollect id, .ok (.taken (some snapshot)) => { taken := [id], handed := [snapshot] }
  | .collect id, .ok (.awaited (some snapshot)) => { taken := [id], handed := [snapshot] }
  | .release id, .ok (.released true) => { taken := [id] }
  | _, _ => {}

/-- What the response to a request tells of snapshots. -/
def Request.receipts : Request → Response → Receipts
  | call asked, .replied reply => asked.receipts reply
  | script _, .ran (.ok snapshots) => { taken := snapshots.map Snapshot.id, handed := snapshots }
  | _, _ => {}

/-- What the responses to requests tell of snapshots. -/
def receipts : List Request → List Response → Receipts
  | request :: requests, response :: responses =>
      (request.receipts response).append (receipts requests responses)
  | _, _ => {}

/-- The snapshot that a call asks for. -/
def Call.subject? : Call → Option SnapshotId
  | .notify report => some report.snapshot
  | .handle id => some id
  | .tryCollect id => some id
  | .collect id => some id
  | .release id => some id
  | _ => none

/-- Nobody waits for a snapshot that has been given up unless it is complete. -/
theorem Collector.wait_abandon (collector : Collector) :
    collector.abandon.wait =
      match collector.assemble? with
      | some assembled => .ready assembled
      | none => .abandoned := by
  unfold Collector.abandon
  split
  · rename_i hComplete
    unfold Collector.wait Collector.assemble?
    rw [if_pos hComplete]
  · rename_i hIncomplete
    have hNone : collector.assemble? = none := if_neg hIncomplete
    have hSame : ({ collector with abandoned := true } : Collector).assemble? = none := hNone
    unfold Collector.wait
    rw [hSame, hNone]
    rfl

namespace Network

variable {net after last : Network}

/-- Between one network and another the snapshots `ids` are taken away, each of them once, and no
others. -/
structure Takes (net : Network) (ids : List SnapshotId) (after : Network) : Prop where
  /-- No snapshot is taken away twice. -/
  nodup : ids.Nodup
  /-- None of them had been taken away before. -/
  untaken : ∀ id ∈ ids, id ∉ net.retired.keys
  /-- Afterwards they have been taken away, and no others. -/
  mem_retired_iff : ∀ {id}, id ∈ after.retired.keys ↔ id ∈ net.retired.keys ∨ id ∈ ids
  /-- Numbers are not used again. -/
  nextSnapshot_le : net.nextSnapshot ≤ after.nextSnapshot

theorem takes_nil (hRetired : after.retired = net.retired)
    (hNext : net.nextSnapshot ≤ after.nextSnapshot) : net.Takes [] after := by
  refine ⟨List.nodup_nil, fun _ hNone => absurd hNone List.not_mem_nil, fun {id} => ?_, hNext⟩
  rw [hRetired]
  simp

theorem takes_abandon (ids : List SnapshotId) (net : Network) :
    net.Takes [] (Network.abandon ids net) :=
  takes_nil rfl (UInt64.le_refl _)

theorem Retains.takes (hRetains : net.Retains after) : net.Takes [] after :=
  takes_nil hRetains.retired_eq hRetains.nextSnapshot_le

theorem Takes.trans {between : Network} {earlier later : List SnapshotId}
    (hEarlier : net.Takes earlier between) (hLater : between.Takes later after) :
    net.Takes (earlier ++ later) after := by
  have hApart : ∀ id ∈ later, id ∉ net.retired.keys ∧ id ∉ earlier := fun id hId =>
    not_or.mp fun hOld => hLater.untaken id hId (hEarlier.mem_retired_iff.mpr hOld)
  refine ⟨?_, fun id hId => ?_, fun {id} => ?_,
    UInt64.le_trans hEarlier.nextSnapshot_le hLater.nextSnapshot_le⟩
  · refine List.nodup_append.mpr ⟨hEarlier.nodup, hLater.nodup, ?_⟩
    rintro id hFirst _ hSecond rfl
    exact (hApart id hSecond).2 hFirst
  · rcases List.mem_append.mp hId with hFirst | hSecond
    · exact hEarlier.untaken id hFirst
    · exact (hApart id hSecond).1
  · rw [hLater.mem_retired_iff, hEarlier.mem_retired_iff, List.mem_append, or_assoc]

theorem WellFormed.takes_retire {id : SnapshotId} {collector : Collector} (hWell : net.WellFormed)
    (hFound : net.collectors.get? id = some collector) : net.Takes [id] (net.retire id collector) := by
  refine ⟨List.nodup_singleton id, fun other hOther hOld => ?_, fun {other} => ?_, UInt64.le_refl _⟩
  · -- What has been taken away is not in use.
    obtain ⟨earlier, hRetired⟩ := SortedMap.mem_keys_iff.mp hOld
    cases List.mem_singleton.mp hOther
    exact nomatch hFound.symm.trans (hWell.collected.retired_sound hRetired).2.2
  · show other ∈ (net.retired.insert id collector).keys ↔ _
    rw [SortedMap.mem_keys_insert, List.mem_singleton, or_comm]

/-! ### Taking snapshots away one after another -/

/-- The network after a snapshot has been taken away, provided that it is there and complete. -/
def relinquish (net : Network) (id : SnapshotId) : Network :=
  match net.collectors.get? id with
  | some collector => if collector.isComplete then net.retire id collector else net
  | none => net

theorem completed?_of_get? {id : SnapshotId} {collector : Collector}
    (hFound : net.collectors.get? id = some collector) :
    net.completed? id = collector.assemble? := by
  unfold completed?
  rw [collectorOf?_of_get? hFound]
  rfl

theorem tryCollect_eq_done {id : SnapshotId} (hUsed : id ∈ net.collectors.keys) :
    tryCollect id net = .done (net.completed? id) (net.relinquish id) := by
  obtain ⟨collector, hFound⟩ := SortedMap.mem_keys_iff.mp hUsed
  unfold tryCollect relinquish
  rw [completed?_of_get? hFound]
  simp only [hFound]
  unfold Collector.assemble?
  cases collector.isComplete <;> rfl

theorem release_eq_done {id : SnapshotId} (hUsed : id ∈ net.collectors.keys) :
    release id net = .done (net.completed? id).isSome (net.relinquish id) := by
  obtain ⟨collector, hFound⟩ := SortedMap.mem_keys_iff.mp hUsed
  unfold release relinquish
  rw [completed?_of_get? hFound]
  simp only [hFound]
  unfold Collector.assemble?
  cases collector.isComplete <;> rfl

/-- Nothing is lost by taking a snapshot away. -/
theorem completed?_relinquish (net : Network) (id asked : SnapshotId) :
    (net.relinquish id).completed? asked = net.completed? asked := by
  unfold relinquish
  split
  · rename_i collector hFound
    split
    · unfold completed?
      rw [collectorOf?_retire hFound]
    · rfl
  · rfl

/-- Other snapshots than the one taken away are retained. -/
theorem mem_keys_relinquish {id other : SnapshotId} (hOther : other ≠ id)
    (hUsed : other ∈ net.collectors.keys) : other ∈ (net.relinquish id).collectors.keys := by
  unfold relinquish
  split
  · split
    · exact SortedMap.mem_keys_erase.mpr ⟨hOther, hUsed⟩
    · exact hUsed
  · exact hUsed

theorem evolves_relinquish (net : Network) (id : SnapshotId) : net.Evolves (net.relinquish id) := by
  unfold relinquish
  split
  · rename_i collector hFound
    split
    · rename_i hComplete
      exact (Step.retire hFound hComplete).evolves inner_nil
    · exact Evolves.refl net
  · exact Evolves.refl net

/-- A snapshot that is handed out bears the number under which it was asked for. -/
theorem WellFormed.id_of_completed? {id : SnapshotId} {assembled : Snapshot}
    (hWell : net.WellFormed) (hCompleted : net.completed? id = some assembled) :
    assembled.id = id := by
  obtain ⟨collector, -, -, rfl⟩ := hWell.completed?_eq_some_iff.mp hCompleted
  rfl

theorem WellFormed.takes_relinquish {id : SnapshotId} (hWell : net.WellFormed)
    (hUsed : id ∈ net.collectors.keys) :
    net.Takes ((net.completed? id).toList.map Snapshot.id) (net.relinquish id) := by
  obtain ⟨collector, hFound⟩ := SortedMap.mem_keys_iff.mp hUsed
  cases hCompleted : net.completed? id with
  | none =>
      have hIncomplete : collector.isComplete ≠ true := by
        intro hComplete
        have hSome : net.completed? id = some _ := hWell.completed?_eq_some_iff.mpr
          ⟨collector, collectorOf?_of_get? hFound, hComplete, rfl⟩
        exact nomatch hCompleted.symm.trans hSome
      unfold relinquish
      simp only [hFound, if_neg hIncomplete]
      exact takes_nil rfl (UInt64.le_refl _)
  | some assembled =>
      obtain ⟨found, hSame, hComplete, -⟩ := hWell.completed?_eq_some_iff.mp hCompleted
      rw [collectorOf?_of_get? hFound] at hSame
      cases hSame
      unfold relinquish
      simp only [hFound, if_pos hComplete, Option.toList_some, List.map_cons, List.map_nil,
        hWell.id_of_completed? hCompleted]
      exact hWell.takes_retire hFound

theorem takes_foldl_relinquish {ids : List SnapshotId} (hWell : net.WellFormed)
    (hNodup : ids.Nodup) (hUsed : ∀ id ∈ ids, id ∈ net.collectors.keys) :
    net.Takes ((ids.filterMap net.completed?).map Snapshot.id) (ids.foldl relinquish net) := by
  induction ids generalizing net with
  | nil => exact takes_nil rfl (UInt64.le_refl _)
  | cons id rest ih =>
      obtain ⟨hNew, hRest⟩ := List.nodup_cons.mp hNodup
      have hApart : ∀ other ∈ rest, other ≠ id := fun _ hOther hSame => hNew (hSame ▸ hOther)
      have hFirst := hWell.takes_relinquish (hUsed id List.mem_cons_self)
      have hLater := ih ((evolves_relinquish net id).wellFormed hWell) hRest fun other hOther =>
        mem_keys_relinquish (hApart other hOther) (hUsed other (List.mem_cons_of_mem _ hOther))
      rw [funext (completed?_relinquish net id)] at hLater
      have hBoth := hFirst.trans hLater
      rw [List.filterMap_cons]
      cases hCompleted : net.completed? id <;> rw [hCompleted] at hBoth <;> exact hBoth

theorem completed?_foldl_relinquish (ids : List SnapshotId) (net : Network) (asked : SnapshotId) :
    (ids.foldl relinquish net).completed? asked = net.completed? asked := by
  induction ids generalizing net with
  | nil => rfl
  | cons id rest ih => exact (ih _).trans (completed?_relinquish net id asked)

theorem nodup_retainedFrom (net : Network) (first : SnapshotId) : (net.retainedFrom first).Nodup :=
  (SortedMap.nodup_keys net.collectors).filter _

theorem mem_retainedFrom {first id : SnapshotId} :
    id ∈ net.retainedFrom first ↔ id ∈ net.collectors.keys ∧ first ≤ id := by
  unfold retainedFrom
  rw [List.mem_filter, decide_eq_true_iff]

end Network

namespace Scenario

open Network

variable {net : Network}

/-- Of different snapshots that have not been taken away, the complete ones are handed out. -/
theorem collectAll_eq_done {ids : List SnapshotId} (hNodup : ids.Nodup)
    (hUsed : ∀ id ∈ ids, id ∈ net.collectors.keys) :
    collectAll ids net = .done (ids.filterMap net.completed?) (ids.foldl relinquish net) := by
  induction ids generalizing net with
  | nil => rfl
  | cons id rest ih =>
      obtain ⟨hNew, hRest⟩ := List.nodup_cons.mp hNodup
      have hApart : ∀ other ∈ rest, other ≠ id := fun _ hOther hSame => hNew (hSame ▸ hOther)
      have hLater := ih hRest fun other hOther =>
        mem_keys_relinquish (hApart other hOther) (hUsed other (List.mem_cons_of_mem _ hOther))
      rw [funext (completed?_relinquish net id)] at hLater
      refine Action.bind_eq_done_iff.mpr
        ⟨_, _, tryCollect_eq_done (hUsed id List.mem_cons_self), ?_⟩
      refine Action.bind_eq_done_iff.mpr ⟨_, _, hLater, ?_⟩
      rw [List.filterMap_cons]
      cases net.completed? id <;> rfl

/-- How a script ends: it hands out those of its snapshots that are complete, or gives up those that
are not. -/
theorem runScript_cases (commands : List Command) (net : Network) :
    (∃ driven, drive commands net = .done () driven ∧
        runScript commands net =
          .done ((driven.retainedFrom net.nextSnapshot).filterMap driven.completed?)
            ((driven.retainedFrom net.nextSnapshot).foldl relinquish driven)) ∨
      (∃ error driven, drive commands net = .refused error driven ∧
        runScript commands net =
          .refused error (abandon (driven.retainedFrom net.nextSnapshot) driven)) ∨
      ∃ fault, drive commands net = .faulted fault ∧ runScript commands net = .faulted fault := by
  unfold runScript
  cases hDriven : drive commands net with
  | done value driven =>
      refine Or.inl ⟨driven, rfl, Action.mapError_eq_done_iff.mpr ?_⟩
      exact collectAll_eq_done (nodup_retainedFrom driven _) fun id hId =>
        (mem_retainedFrom.mp hId).1
  | refused error driven => exact Or.inr (Or.inl ⟨error, driven, rfl, rfl⟩)
  | faulted fault => exact Or.inr (Or.inr ⟨fault, rfl, rfl⟩)

end Scenario

namespace Network

variable {net after last : Network}

/-! ### Calls -/

/-- What receipts tell of snapshots is true: those have been taken away of which they tell, what has
been handed out is the snapshot of its number, the numbers of snapshots that have been started are new,
and handles are for snapshots that have been started. -/
structure Confirms (net : Network) (told : Receipts) (after : Network) : Prop where
  /-- The snapshots have been taken away, and no others. -/
  takes : net.Takes told.taken after
  /-- What has been handed out is complete and has been taken away. -/
  handed : ∀ assembled ∈ told.handed,
    assembled.id ∈ told.taken ∧ after.completed? assembled.id = some assembled
  /-- The number of a new snapshot has not been in use. -/
  started : ∀ id ∈ told.started, net.nextSnapshot ≤ id ∧ id < after.nextSnapshot
  /-- Handles are for snapshots that have been started. -/
  given : ∀ handle ∈ told.given, handle.snapshot < after.nextSnapshot

theorem Takes.confirms {taken : List SnapshotId} (hTakes : net.Takes taken after) :
    net.Confirms { taken := taken } after :=
  ⟨hTakes, fun _ hNone => absurd hNone List.not_mem_nil, fun _ hNone => absurd hNone List.not_mem_nil,
    fun _ hNone => absurd hNone List.not_mem_nil⟩

theorem confirms_nothing (net : Network) : net.Confirms {} net :=
  (takes_nil rfl (UInt64.le_refl _)).confirms

/-- Nothing is told of an action that retains all snapshots. -/
theorem meets_map_confirms {α : Type} {call : Call} {action : NetworkAction α} {answer : α → Answer}
    (hKeeps : Action.Keeps Retains action) (hNothing : ∀ value, call.receipts (.ok (answer value)) = {})
    (hRefused : ∀ error, call.receipts (.error error) = {}) :
    ((answer <$> action) net).Meets
      (fun value after => net.Confirms (call.receipts (.ok value)) after)
      (fun error after => net.Confirms (call.receipts (.error error)) after) := by
  refine Action.meets_map ((hKeeps net).mono (fun value _ hRetains => ?_) fun error _ hRetains => ?_)
  · rw [hNothing]
    exact hRetains.takes.confirms
  · rw [hRefused]
    exact hRetains.takes.confirms

/-- What is handed out is taken away. -/
theorem WellFormed.confirms_of_collects {id : SnapshotId} {taken : Option Snapshot}
    (hWell : net.WellFormed) (hCollects : net.Collects id taken after) :
    net.Confirms { taken := (taken.map fun _ => id).toList, handed := taken.toList } after := by
  cases taken with
  | none =>
      obtain rfl : after = net := hCollects
      exact confirms_nothing after
  | some assembled =>
      have hCompleted := hCollects.completed?_eq
      have hAfter := hCollects.evolves.wellFormed hWell
      obtain ⟨collector, hFound, -, rfl⟩ := hCollects
      refine { (hWell.takes_retire hFound).confirms with handed := fun other hOther => ?_ }
      cases List.mem_singleton.mp hOther
      rw [hAfter.id_of_completed? hCompleted]
      exact ⟨List.mem_singleton_self id, hCompleted⟩

/-- To start a snapshot uses up a number. -/
theorem Starts.nextSnapshot_eq {name : String} (hStarts : net.Starts name after)
    (hWell : net.WellFormed) : after.nextSnapshot.toNat = net.nextSnapshot.toNat + 1 := by
  obtain ⟨next, hNext, hOpen, hEvolves, -⟩ := hStarts
  rw [(hEvolves.extends (hOpen.run.wellFormed hWell)).nextSnapshot_eq]
  exact (checkedAdd_eq_ok_iff.mp hNext).symm

theorem Starts.nextSnapshot_lt {name : String} (hStarts : net.Starts name after)
    (hWell : net.WellFormed) : net.nextSnapshot < after.nextSnapshot := by
  rw [UInt64.lt_iff_toNat_lt, hStarts.nextSnapshot_eq hWell]
  exact Nat.lt_succ_self _

/-- The number of a snapshot that is started is the next one. -/
theorem WellFormed.meets_startSnapshot_confirms (hWell : net.WellFormed) (name : String) :
    (startSnapshot name net).Meets (fun id after => net.Confirms { started := [id] } after)
      (fun _ after => net.Confirms {} after) := by
  refine ((meets_startSnapshot hWell).both (keeps_startSnapshot name net)).mono ?_ ?_
  · rintro id after ⟨⟨rfl, hStarts⟩, hRetains⟩
    refine { hRetains.takes.confirms with started := fun other hOther => ?_ }
    cases List.mem_singleton.mp hOther
    exact ⟨UInt64.le_refl _, hStarts.nextSnapshot_lt hWell⟩
  · rintro _ after ⟨-, hRetains⟩
    exact hRetains.takes.confirms

theorem meets_attempt_confirms {change : Network → Except NetworkError Network}
    (hChange : ∀ after, change net = .ok after →
      after.retired = net.retired ∧ after.nextSnapshot = net.nextSnapshot) :
    (attempt change net).Meets (fun _ after => net.Confirms {} after)
      (fun _ after => net.Confirms {} after) := by
  refine meets_attempt.mono (fun _ after hAfter => ?_) fun _ _ hSame => ?_
  · obtain ⟨hRetired, hNext⟩ := hChange after hAfter
    exact (takes_nil hRetired (UInt64.le_of_eq hNext.symm)).confirms
  · exact hSame ▸ confirms_nothing net

/-- What the answer to a call tells of snapshots is true. -/
theorem WellFormed.meets_answer_confirms (hWell : net.WellFormed) (call : Call) :
    (answer call net).Meets (fun value after => net.Confirms (call.receipts (.ok value)) after)
      (fun error after => net.Confirms (call.receipts (.error error)) after) := by
  cases call with
  | addNode name tokens =>
      refine Action.meets_map (meets_attempt_confirms fun after hAdd => ?_)
      obtain ⟨-, -, rfl⟩ := withNode_eq_ok hAdd
      exact ⟨rfl, rfl⟩
  | addLink source target =>
      refine Action.meets_map (meets_attempt_confirms fun after hAdd => ?_)
      obtain ⟨-, _, _, -, -, -, -, rfl⟩ := withLink_eq_ok hAdd
      exact ⟨rfl, rfl⟩
  | send source target tokens =>
      exact meets_map_confirms (keeps_sendTokens _ _ _) (fun _ => rfl) fun _ => rfl
  | control event =>
      cases event with
      | passToken source target tokens =>
          refine Action.meets_map (Action.meets_bind (M := fun _ after => net.Retains after) ?_ ?_)
          · exact (keeps_sendTokens source target tokens net).mono (fun _ _ hRetains => hRetains)
              fun _ _ hRetains => hRetains.takes.confirms
          · exact fun _ _ hRetains => hRetains.takes.confirms
      | snapshot name =>
          exact Action.meets_map (Action.meets_bind (hWell.meets_startSnapshot_confirms name)
            fun _ _ hConfirms => hConfirms)
  | startSnapshot name => exact Action.meets_map (hWell.meets_startSnapshot_confirms name)
  | tick => exact meets_map_confirms keeps_tick (fun _ => rfl) fun _ => rfl
  | receiveTime => exact meets_map_confirms keeps_receiveTime (fun _ => rfl) fun _ => rfl
  | notify report => exact meets_map_confirms (keeps_notify report) (fun _ => rfl) fun _ => rfl
  | handle id =>
      refine Action.meets_map ?_
      unfold handle
      cases hFound : net.collectors.get? id with
      | none => exact confirms_nothing net
      | some collector =>
          refine { confirms_nothing net with given := fun other hOther => ?_ }
          cases List.mem_singleton.mp hOther
          exact hWell.collected.started_iff.mpr (Or.inl (SortedMap.mem_keys_of_get? hFound))
  | tryCollect id =>
      refine Action.meets_map ((meets_tryCollect net id).mono (fun taken _ hCollects => ?_)
        fun _ _ hSame => hSame ▸ confirms_nothing net)
      have hConfirms := hWell.confirms_of_collects hCollects
      cases taken <;> exact hConfirms
  | collect id =>
      refine Action.meets_map ((meets_collect net id).mono (fun taken _ hCollects => ?_)
        fun _ _ hSame => hSame ▸ confirms_nothing net)
      have hConfirms := hWell.confirms_of_collects hCollects
      cases taken <;> exact hConfirms
  | release id =>
      refine Action.meets_map ?_
      unfold release
      cases hFound : net.collectors.get? id with
      | none => exact confirms_nothing net
      | some collector =>
          dsimp only
          split
          · exact (hWell.takes_retire hFound).confirms
          · exact confirms_nothing net
  | abandon ids => exact Action.meets_map (Action.meets_update (takes_abandon ids net).confirms)

/-- A call takes a snapshot away only if the snapshot is complete. -/
theorem meets_answer_complete (net : Network) (call : Call) :
    (answer call net).Meets
      (fun value _ => ∀ id ∈ (call.receipts (.ok value)).taken, net.completed? id ≠ none)
      (fun error _ => ∀ id ∈ (call.receipts (.error error)).taken, net.completed? id ≠ none) := by
  have hNothing : ∀ id ∈ ([] : List SnapshotId), net.completed? id ≠ none :=
    fun _ hNone => absurd hNone List.not_mem_nil
  have hCollected : ∀ {id taken after}, net.Collects id taken after →
      ∀ other ∈ (taken.map fun _ => id).toList, net.completed? other ≠ none := by
    rintro id (_ | assembled) after hCollects other hOther
    · exact absurd hOther List.not_mem_nil
    · obtain ⟨collector, hFound, hAssembled, -⟩ := hCollects
      cases List.mem_singleton.mp hOther
      rw [completed?_of_get? hFound, hAssembled]
      exact Option.some_ne_none assembled
  cases call with
  | tryCollect id =>
      refine Action.meets_map ((meets_tryCollect net id).mono (fun taken _ hCollects => ?_)
        fun _ _ _ => hNothing)
      have hComplete := hCollected hCollects
      cases taken <;> exact hComplete
  | collect id =>
      refine Action.meets_map ((meets_collect net id).mono (fun taken _ hCollects => ?_)
        fun _ _ _ => hNothing)
      have hComplete := hCollected hCollects
      cases taken <;> exact hComplete
  | release id =>
      refine Action.meets_map (Outcome.meets_self.mono (fun taken _ hDone => ?_)
        fun _ _ _ => hNothing)
      cases taken with
      | false => exact hNothing
      | true =>
          intro other hOther
          cases List.mem_singleton.mp hOther
          by_cases hUsed : id ∈ net.collectors.keys
          · cases hCompleted : net.completed? id with
            | none => simp [release_eq_done hUsed, hCompleted] at hDone
            | some assembled => exact Option.some_ne_none assembled
          · unfold release at hDone
            simp [SortedMap.get?_eq_none_iff.mpr hUsed] at hDone
  | _ =>
      refine Outcome.meets_self.mono (fun value _ _ => ?_) fun _ _ _ => hNothing
      cases value <;> exact hNothing

theorem WellFormed.confirms_of_reply {call : Call} {reply : Reply} (hWell : net.WellFormed)
    (hReply : net.reply call = .ok (reply, after)) : net.Confirms (call.receipts reply) after :=
  of_reply (P := fun reply after => net.Confirms (call.receipts reply) after)
    (hWell.meets_answer_confirms call) hReply

/-! ### Scripts, requests and sessions -/

/-- What a script hands out is taken away, and a script that fails takes nothing away. -/
theorem WellFormed.confirms_of_script {commands : List Command} (hWell : net.WellFormed) :
    (Scenario.runScript commands net).Meets
      (fun snapshots after =>
        net.Confirms { taken := snapshots.map Snapshot.id, handed := snapshots } after)
      (fun _ after => net.Confirms {} after) := by
  have hKeeps := Scenario.keeps_drive commands net
  have hLeads : (Scenario.drive commands net).Meets (fun _ after => net.Leads 0 after)
      (fun _ after => net.Leads 0 after) := Scenario.meets_drive_leads hWell
  rcases Scenario.runScript_cases commands net with ⟨driven, hDriven, hRun⟩ |
    ⟨error, driven, hDriven, hRun⟩ | ⟨fault, -, hRun⟩
  · have hDrivenWell := (hLeads.of_done hDriven).wellFormed hWell
    have hTakes := (hKeeps.of_done hDriven).takes.trans
      (takes_foldl_relinquish hDrivenWell (nodup_retainedFrom driven net.nextSnapshot)
        fun id hId => (mem_retainedFrom.mp hId).1)
    refine Outcome.meets_of_done hRun { hTakes.confirms with handed := fun assembled hHanded => ?_ }
    refine ⟨List.mem_map_of_mem hHanded, ?_⟩
    obtain ⟨id, -, hCompleted⟩ := List.mem_filterMap.mp hHanded
    rw [completed?_foldl_relinquish, hDrivenWell.id_of_completed? hCompleted]
    exact hCompleted
  · rw [hRun]
    exact ((hKeeps.of_refused hDriven).takes.trans (takes_abandon _ driven)).confirms
  · rw [hRun]
    exact True.intro

/-- What the response to a request tells of snapshots is true. -/
theorem WellFormed.confirms_of_respond {request : Request} {response : Response}
    (hWell : net.WellFormed) (hRespond : net.respond request = .ok (response, after)) :
    net.Confirms (request.receipts response) after := by
  rcases respond_eq_ok hRespond with ⟨call, reply, rfl, rfl, hReply⟩ |
    ⟨commands, rfl, ⟨snapshots, rfl, hDone⟩ | ⟨error, rfl, hRefused⟩⟩
  · exact hWell.confirms_of_reply hReply
  · exact hWell.confirms_of_script.of_done hDone
  · exact hWell.confirms_of_script.of_refused hRefused

/-- Receipts add up, since nothing changes a snapshot that has been handed out. -/
theorem Confirms.append {between : Network} {earlier later : Receipts} {trace : List Happening}
    (hEarlier : net.Confirms earlier between) (hLater : between.Confirms later after)
    (hWell : between.WellFormed) (hRun : Run between trace after) :
    net.Confirms (earlier.append later) after := by
  refine ⟨hEarlier.takes.trans hLater.takes, fun assembled hHanded => ?_, fun id hId => ?_,
    fun handle hGiven => ?_⟩
  · rcases List.mem_append.mp hHanded with hFirst | hSecond
    · obtain ⟨hTaken, hCompleted⟩ := hEarlier.handed assembled hFirst
      exact ⟨List.mem_append_left _ hTaken, hRun.completed?_eq hWell hCompleted⟩
    · obtain ⟨hTaken, hCompleted⟩ := hLater.handed assembled hSecond
      exact ⟨List.mem_append_right _ hTaken, hCompleted⟩
  · rcases List.mem_append.mp hId with hFirst | hSecond
    · obtain ⟨hNew, hBelow⟩ := hEarlier.started id hFirst
      exact ⟨hNew, UInt64.lt_of_lt_of_le hBelow hLater.takes.nextSnapshot_le⟩
    · obtain ⟨hNew, hBelow⟩ := hLater.started id hSecond
      exact ⟨UInt64.le_trans hEarlier.takes.nextSnapshot_le hNew, hBelow⟩
  · rcases List.mem_append.mp hGiven with hFirst | hSecond
    · exact UInt64.lt_of_lt_of_le (hEarlier.given handle hFirst) hLater.takes.nextSnapshot_le
    · exact hLater.given handle hSecond

/-- A session is a run, and what its responses tell of snapshots is true. -/
theorem WellFormed.confirms_of_session {requests : List Request} {responses : List Response}
    (hWell : net.WellFormed) (hSession : net.session requests = .ok (responses, after)) :
    net.Confirms (receipts requests responses) after ∧ ∃ trace, Run net trace after := by
  induction requests generalizing net responses with
  | nil =>
      cases hSession
      exact ⟨confirms_nothing after, [], Run.start⟩
  | cons request rest ih =>
      obtain ⟨first, later, between, hRespond, hRest, rfl⟩ := session_cons_eq_ok hSession
      obtain ⟨nodes, trace, hRun, -⟩ := course_of_respond hWell hRespond
      have hBetween := hRun.wellFormed hWell
      obtain ⟨hLater, later, hLaterRun⟩ := ih hBetween hRest
      exact ⟨(hWell.confirms_of_respond hRespond).append hLater hBetween hLaterRun, _,
        hRun.trans hLaterRun⟩

/-! ### Custody -/

/-- What the network knows of its snapshots, if those taken away so far are the given ones. -/
structure Custody (net : Network) (taken : List SnapshotId) : Prop where
  /-- No snapshot has been taken away twice. -/
  nodup : taken.Nodup
  /-- Every snapshot that has been started is retained or has been taken away. -/
  started_iff : ∀ {id}, id < net.nextSnapshot ↔ id ∈ net.collectors.keys ∨ id ∈ taken
  /-- What is retained has not been taken away. -/
  untaken : ∀ {id}, id ∈ net.collectors.keys → id ∉ taken
  /-- What has been taken away is complete. -/
  complete : ∀ {id}, id ∈ taken → ∃ assembled, net.completed? id = some assembled
  /-- No call takes away what is not complete. -/
  leaves : ∀ {call reply after}, net.reply call = .ok (reply, after) →
    ∀ id ∈ (call.receipts reply).taken, net.completed? id ≠ none
  /-- What has been taken away cannot be asked for any more. -/
  unknown : ∀ {id call}, id ∈ taken → call.subject? = some id →
    answer call net = .refused (.unknownSnapshot id) net
  /-- Whoever waits gets the snapshot as soon as it is complete. -/
  ready_iff : ∀ {handle assembled}, net.waitOn handle = some (.ready assembled) ↔
    net.completed? handle.snapshot = some assembled
  /-- Once the network has been given up, nobody waits for ever. -/
  closed : ∀ {handle}, handle.snapshot < net.nextSnapshot → net.close.waitOn handle =
    some (match net.completed? handle.snapshot with
      | some assembled => .ready assembled
      | none => .abandoned)

/-- A call that asks for a snapshot is refused if no collector of the snapshot is in use. -/
theorem answer_unknown {id : SnapshotId} {call : Call} (hSubject : call.subject? = some id)
    (hUnused : net.collectors.get? id = none) :
    answer call net = .refused (.unknownSnapshot id) net := by
  cases call <;> cases hSubject
  · refine Action.map_eq_refused_iff.mpr (Action.bind_eq_refused_iff.mpr (Or.inl ?_))
    unfold callCollector
    rw [hUnused]
  · refine Action.map_eq_refused_iff.mpr ?_
    unfold handle
    rw [hUnused]
  · refine Action.map_eq_refused_iff.mpr ?_
    unfold tryCollect
    rw [hUnused]
  · refine Action.map_eq_refused_iff.mpr ?_
    unfold collect
    rw [hUnused]
  · refine Action.map_eq_refused_iff.mpr ?_
    unfold release
    rw [hUnused]

theorem waitOn_eq_ready_iff {handle : Handle} {assembled : Snapshot} :
    net.waitOn handle = some (.ready assembled) ↔
      net.completed? handle.snapshot = some assembled := by
  unfold waitOn completed?
  rw [Option.map_eq_some_iff, Option.bind_eq_some_iff]
  exact exists_congr fun collector => and_congr_right fun _ => Collector.wait_eq_ready_iff

theorem WellFormed.waitOn_close {handle : Handle} (hWell : net.WellFormed)
    (hStarted : handle.snapshot < net.nextSnapshot) :
    net.close.waitOn handle =
      some (match net.completed? handle.snapshot with
        | some assembled => .ready assembled
        | none => .abandoned) := by
  have hKept : net.close.collectors.get? handle.snapshot =
      (net.collectors.get? handle.snapshot).map Collector.abandon := SortedMap.get?_mapValues ..
  cases hUsed : net.collectors.get? handle.snapshot with
  | some collector =>
      rw [hUsed] at hKept
      unfold waitOn
      rw [completed?_of_get? hUsed, collectorOf?_of_get? hKept, Option.map_some,
        Collector.wait_abandon]
  | none =>
      -- The snapshot has been taken away, so it is complete.
      obtain ⟨collector, hRetired⟩ := hWell.collected.exists_retired hStarted hUsed
      have hComplete := (hWell.collected.retired_sound hRetired).2.1
      rw [hUsed] at hKept
      unfold waitOn completed?
      rw [collectorOf?_of_retired hKept hRetired, collectorOf?_of_retired hUsed hRetired]
      unfold Collector.wait Collector.assemble?
      simp only [Option.map_some, Option.bind_some, if_pos hComplete]

/-- Receipts that reach back to a network without snapshots settle custody. -/
theorem Confirms.custody {start : Network} {told : Receipts} (hConfirms : start.Confirms told net)
    (hStart : start.WellFormed) (hNone : start.nextSnapshot = 0) (hWell : net.WellFormed) :
    net.Custody told.taken := by
  have hRetired : ∀ {id}, id ∈ net.retired.keys ↔ id ∈ told.taken := by
    intro id
    rw [hConfirms.takes.mem_retired_iff]
    refine or_iff_right fun hOld => ?_
    have hEarlier : id < start.nextSnapshot := hStart.collected.started_iff.mpr (Or.inr hOld)
    rw [hNone] at hEarlier
    exact UInt64.not_lt_zero hEarlier
  have hTaken : ∀ {id}, id ∈ told.taken → ∃ collector, net.retired.get? id = some collector ∧
      collector.isComplete = true ∧ net.collectors.get? id = none := by
    intro id hId
    obtain ⟨collector, hFound⟩ := SortedMap.mem_keys_iff.mp (hRetired.mpr hId)
    exact ⟨collector, hFound, (hWell.collected.retired_sound hFound).2⟩
  refine ⟨hConfirms.takes.nodup, fun {id} => ?_, fun {id} hUsed hId => ?_, fun {id} hId => ?_,
    fun {call reply after} hReply => ?_, fun {id call} hId hSubject => ?_, waitOn_eq_ready_iff,
    hWell.waitOn_close⟩
  · rw [hWell.collected.started_iff, hRetired]
  · obtain ⟨_, -, -, hUnused⟩ := hTaken hId
    exact SortedMap.get?_eq_none_iff.mp hUnused hUsed
  · obtain ⟨collector, hFound, hComplete, hUnused⟩ := hTaken hId
    exact ⟨_, hWell.completed?_eq_some_iff.mpr
      ⟨collector, collectorOf?_of_retired hUnused hFound, hComplete, rfl⟩⟩
  · exact of_reply (P := fun reply _ => ∀ id ∈ (call.receipts reply).taken, net.completed? id ≠ none)
      (meets_answer_complete net call) hReply
  · obtain ⟨_, -, -, hUnused⟩ := hTaken hId
    exact answer_unknown hSubject hUnused

/-- At any two moments of a session custody is settled by the receipts, and what is complete at the
first moment is what everyone gets at the second. -/
theorem custody_by_receipts {config : Config} {middle : Network} {earlier later : List Request}
    {responses laterResponses : List Response} (hBuilt : ofConfig config = .ok net)
    (hEarlier : net.session earlier = .ok (responses, middle))
    (hLater : middle.session later = .ok (laterResponses, last)) :
    last.Custody ((receipts earlier responses).append (receipts later laterResponses)).taken ∧
      net.Confirms ((receipts earlier responses).append (receipts later laterResponses)) last ∧
      middle.Confirms (receipts later laterResponses) last ∧
      (∀ id ∈ middle.collectors.keys,
        id ∈ last.collectors.keys ↔ id ∉ (receipts later laterResponses).taken) ∧
      ∀ handle assembled, middle.completed? handle.snapshot = some assembled →
        last.completed? handle.snapshot = some assembled ∧
          last.waitOn handle = some (.ready assembled) ∧
          last.close.waitOn handle = some (.ready assembled) := by
  have hFresh := fresh_ofConfig hBuilt
  obtain ⟨hFirst, earlierTrace, hFirstRun⟩ := hFresh.wellFormed.confirms_of_session hEarlier
  have hMiddle := hFirstRun.wellFormed hFresh.wellFormed
  obtain ⟨hSecond, laterTrace, hRun⟩ := hMiddle.confirms_of_session hLater
  have hLast := hRun.wellFormed hMiddle
  have hConfirms := hFirst.append hSecond hMiddle hRun
  have hCustody := hConfirms.custody hFresh.wellFormed hFresh.nextSnapshot_eq hLast
  refine ⟨hCustody, hConfirms, hSecond, fun id hUsed => ⟨fun hKept hTaken => ?_, fun hUntaken => ?_⟩,
    fun handle assembled hCompleted => ?_⟩
  · exact hCustody.untaken hKept (List.mem_append_right _ hTaken)
  · have hMiddleCustody := hFirst.custody hFresh.wellFormed hFresh.nextSnapshot_eq hMiddle
    have hStarted : id < last.nextSnapshot := UInt64.lt_of_lt_of_le
      (hMiddleCustody.started_iff.mpr (Or.inl hUsed)) hSecond.takes.nextSnapshot_le
    rcases hCustody.started_iff.mp hStarted with hKept | hTaken
    · exact hKept
    · rcases List.mem_append.mp hTaken with hOld | hNew
      · exact absurd hOld (hMiddleCustody.untaken hUsed)
      · exact absurd hNew hUntaken
  · have hKept := hRun.completed?_eq hMiddle hCompleted
    have hStarted : handle.snapshot < last.nextSnapshot := by
      obtain ⟨collector, hFound, -⟩ := hLast.completed?_eq_some_iff.mp hKept
      exact hLast.started_of_collectorOf? hFound
    refine ⟨hKept, waitOn_eq_ready_iff.mpr hKept, ?_⟩
    rw [hLast.waitOn_close hStarted, hKept]

/-- Requests that start two snapshots, the second in a script that fails and gives it up, and take
the first one away once it is complete. -/
def custodyRequests : List Request :=
  [.call (.startSnapshot "A"), .call (.handle 0), .call (.tryCollect 0), .call (.release 0),
    .script [.snapshot "B", .send "A" "C" 1], .call .tick, .call .tick, .call .tick, .call .tick,
    .call (.tryCollect 0), .call (.handle 1)]

/-- Later requests: the second snapshot, which has become complete after all, is taken away, a script
takes a third one, and a fourth one is given up. -/
def laterRequests : List Request :=
  [.call (.collect 1), .call (.release 1), .script [.send "A" "B" 2, .snapshot "A"],
    .call (.startSnapshot "B"), .call (.handle 3), .call (.abandon [3])]

/-- In the sample session three snapshots are taken away, each of them once, and the fourth is
retained. -/
theorem custody_by_receipts_pair :
    ∃ net middle last responses laterResponses, ofConfig pairConfig = .ok net ∧
      net.session custodyRequests = .ok (responses, middle) ∧
      middle.session laterRequests = .ok (laterResponses, last) ∧
      (receipts custodyRequests responses).taken = [0] ∧
      (receipts laterRequests laterResponses).taken = [1, 2] ∧ last.nextSnapshot = 4 ∧
      last.Custody [0, 1, 2] ∧ 3 ∈ last.collectors.keys ∧
      answer (.handle 1) last = .refused (.unknownSnapshot 1) last ∧
      last.close.waitOn ⟨3⟩ = some .abandoned ∧
      ∃ assembled, middle.completed? 1 = some assembled ∧
        last.close.waitOn ⟨1⟩ = some (.ready assembled) := by
  obtain ⟨net, responses, middle, hBuilt, hEarlier, hCheck⟩ := exists_of_performed?
    (show (performed? pairConfig custodyRequests).any (fun outcome =>
      decide ((receipts custodyRequests outcome.2.1).taken = [0] ∧
          (outcome.2.2.completed? 1).isSome = true) &&
        (outcome.2.2.session laterRequests).toOption.any fun later =>
          decide ((receipts laterRequests later.1).taken = [1, 2] ∧
            later.2.nextSnapshot = 4 ∧ later.2.completed? 3 = none)) = true by decide +kernel)
  rw [Bool.and_eq_true, decide_eq_true_iff] at hCheck
  obtain ⟨⟨hTaken, hComplete⟩, hCheck⟩ := hCheck
  cases hLater : middle.session laterRequests with
  | error fault =>
      rw [hLater] at hCheck
      cases hCheck
  | ok outcome =>
      rw [hLater] at hCheck
      obtain ⟨laterResponses, last⟩ := outcome
      obtain ⟨hLaterTaken, hNext, hOpen⟩ := of_decide_eq_true hCheck
      obtain ⟨hCustody, -, -, -, hLasting⟩ := custody_by_receipts hBuilt hEarlier hLater
      replace hCustody : last.Custody [0, 1, 2] := by
        unfold Receipts.append at hCustody
        rw [hTaken, hLaterTaken] at hCustody
        exact hCustody
      obtain ⟨assembled, hCompleted⟩ := Option.isSome_iff_exists.mp hComplete
      have hStarted : (3 : SnapshotId) < last.nextSnapshot := hNext ▸ by decide
      refine ⟨net, middle, last, responses, laterResponses, hBuilt, hEarlier, hLater, hTaken,
        hLaterTaken, hNext, hCustody, ?_, hCustody.unknown (by decide) rfl, ?_, assembled,
        hCompleted, (hLasting ⟨1⟩ assembled hCompleted).2.2⟩
      · exact (hCustody.started_iff.mp hStarted).resolve_right (by decide)
      · refine (hCustody.closed hStarted).trans ?_
        rw [hOpen]

end Network
end TokenNet
