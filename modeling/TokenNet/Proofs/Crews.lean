import Mathlib.Data.Prod.Lex
import Mathlib.Order.Lattice.Nat
import TokenNet.Proofs.ScriptEnds
import TokenNet.Scenario.Threads

namespace TokenNet

/-!
# Crews

What a crew will have done in the end is known at every moment, whatever its threads do next
(`Crew.outcome`): each step keeps it.  As long as the driver carries out commands and lets ticks pass,
this is what one thread would do that goes on alone, since waiters only look at what does not change any
more: a snapshot that is complete (`Crew.Driving`).
-/

theorem Collector.abandon_abandon (collector : Collector) :
    collector.abandon.abandon = collector.abandon := by
  unfold Collector.abandon
  split
  · rfl
  · split <;> rfl

namespace Network

variable {start net after : Network}

/-! ### Snapshots of a script -/

/-- The snapshots of a script stay the same while none is started. -/
theorem Retains.retainedFrom_eq (hRetains : start.Retains net) (hLater : net.Retains after)
    (hStart : start.WellFormed) (hWell : net.WellFormed) (hAfter : after.WellFormed)
    (hNext : after.nextSnapshot = net.nextSnapshot) :
    after.retainedFrom start.nextSnapshot = net.retainedFrom start.nextSnapshot := by
  have hBoth : start.Retains after := IsTrans.trans _ _ _ hRetains hLater
  refine List.map_injective_iff.mpr (fun _ _ => UInt64.toNat_inj.mp) ?_
  rw [hBoth.map_toNat_retainedFrom hStart hAfter, hRetains.map_toNat_retainedFrom hStart hWell, hNext]

/-- The number of a snapshot that is started comes last. -/
theorem Retains.retainedFrom_concat (hRetains : start.Retains net) (hLater : net.Retains after)
    (hStart : start.WellFormed) (hWell : net.WellFormed) (hAfter : after.WellFormed)
    (hNext : after.nextSnapshot.toNat = net.nextSnapshot.toNat + 1) :
    after.retainedFrom start.nextSnapshot =
      net.retainedFrom start.nextSnapshot ++ [net.nextSnapshot] := by
  have hBoth : start.Retains after := IsTrans.trans _ _ _ hRetains hLater
  have hBelow : start.nextSnapshot.toNat ≤ net.nextSnapshot.toNat := hRetains.nextSnapshot_le
  refine List.map_injective_iff.mpr (fun _ _ => UInt64.toNat_inj.mp) ?_
  rw [List.map_append, hBoth.map_toNat_retainedFrom hStart hAfter,
    hRetains.map_toNat_retainedFrom hStart hWell, hNext, Nat.succ_sub hBelow, List.range'_1_concat,
    Nat.add_sub_cancel' hBelow]
  rfl

theorem abandon_nil (net : Network) : Network.abandon [] net = net := by
  have hSame : (Network.abandon [] net).collectors = net.collectors :=
    SortedMap.ext_get? fun id => (get?_abandon [] net id).trans (by simp)
  exact congrArg (fun collectors => { net with collectors := collectors }) hSame

/-- Snapshots may be given up one after another. -/
theorem abandon_cons (id : SnapshotId) (rest : List SnapshotId) (net : Network) :
    Network.abandon (id :: rest) net = Network.abandon rest (Network.abandon [id] net) := by
  have hSame : (Network.abandon (id :: rest) net).collectors =
      (Network.abandon rest (Network.abandon [id] net)).collectors := by
    refine SortedMap.ext_get? fun asked => ?_
    rw [get?_abandon, get?_abandon, get?_abandon, Option.map_map]
    refine congrArg (Option.map · _) (funext fun collector => ?_)
    simp only [Function.comp_apply, List.mem_cons, List.not_mem_nil, or_false]
    by_cases hFirst : asked = id
    · rw [if_pos (Or.inl hFirst), if_pos hFirst, Collector.abandon_abandon, ite_self]
    · rw [if_neg hFirst]
      simp only [hFirst, false_or]
  exact congrArg (fun collectors => { net with collectors := collectors }) hSame

/-! ### Calls of the driver -/

theorem meets_passToken (hWell : net.WellFormed) (source target : String) (tokens : UInt64) :
    (control (.passToken source target tokens) net).Meets (fun _ after => net.Evolves after)
      (fun _ after => net.Evolves after) :=
  Action.meets_bind (meets_sendTokens_evolves hWell) fun _ _ hEvolves => hEvolves

/-- A snapshot that has been started can be asked for. -/
theorem begin_eq (hWell : net.WellFormed) (name : String) :
    begin name net = ((fun id => some ⟨id⟩) <$> startSnapshot name : NetworkAction (Option Handle)) net := by
  have hBegin : begin name = startSnapshot name >>= fun id =>
      handle id >>= fun given => pure (some given) := by
    unfold begin control
    simp only [bind_assoc, pure_bind]
  rw [hBegin, map_eq_pure_bind]
  refine Action.bind_congr_of_done fun id after hDone => ?_
  obtain ⟨rfl, hStarts⟩ := (meets_startSnapshot hWell).of_done hDone
  have hRetains := (keeps_startSnapshot name net).of_done hDone
  have hOwn : net.nextSnapshot ∈ after.retainedFrom net.nextSnapshot :=
    (hRetains.mem_retainedFrom_iff hWell (hStarts.leads.wellFormed hWell)).mpr
      ⟨UInt64.le_refl _, hStarts.nextSnapshot_lt hWell⟩
  obtain ⟨collector, hFound⟩ := SortedMap.mem_keys_iff.mp (mem_retainedFrom.mp hOwn).1
  have hHandle : handle net.nextSnapshot after = .done ⟨net.nextSnapshot⟩ after := by
    unfold handle
    rw [hFound]
  exact Action.bind_eq_done_iff.mpr ⟨_, after, hHandle, rfl⟩

/-- The driver gets a handle on the snapshot that it starts. -/
theorem meets_begin (hWell : net.WellFormed) (name : String) :
    (begin name net).Meets
      (fun given after => given = some ⟨net.nextSnapshot⟩ ∧ net.Starts name after ∧
        net.Retains after)
      (fun _ after => net.Evolves after ∧ net.Retains after) := by
  rw [begin_eq hWell]
  refine Action.meets_map (((meets_startSnapshot hWell).both (keeps_startSnapshot name net)).mono
    (fun id after hStarted => ⟨?_, hStarted.1.2, hStarted.2⟩) fun _ after hRefused => ⟨?_, hRefused.2⟩)
  · rw [hStarted.1.1]
  · rw [hRefused.1.2.2]
    exact evolves_started net

/-! ### Findings -/

theorem finding?_eq_ok_iff {handle : Handle} {assembled : Snapshot} :
    net.finding? handle = some (.ok assembled) ↔
      net.completed? handle.snapshot = some assembled := by
  rw [← waitOn_eq_ready_iff]
  unfold finding?
  cases net.waitOn handle with
  | none => simp
  | some waiting => cases waiting <;> simp

/-- A wait ends without a snapshot only if the snapshot has been given up. -/
theorem abandoned?_of_finding? {handle : Handle} {error : NetworkError}
    (hFinding : net.finding? handle = some (.error error))
    (hUsed : handle.snapshot ∈ net.collectors.keys) :
    net.abandoned? handle.snapshot = some true := by
  obtain ⟨collector, hFound⟩ := SortedMap.mem_keys_iff.mp hUsed
  unfold finding? waitOn at hFinding
  rw [collectorOf?_of_get? hFound, Option.map_some] at hFinding
  unfold abandoned?
  rw [hFound, Option.map_some]
  unfold Collector.wait at hFinding
  cases hAssembled : collector.assemble? with
  | some assembled =>
      rw [hAssembled] at hFinding
      cases hFinding
  | none =>
      rw [hAssembled] at hFinding
      cases hAbandoned : collector.abandoned with
      | true => rfl
      | false =>
          rw [hAbandoned] at hFinding
          cases hFinding

end Network

namespace Scenario

open Network

variable {net : Network}

/-! ### Scripts in one thread -/

/-- What is to be done once the commands have been carried out. -/
def finish : ScenarioAction Unit := do
  let bound ← Action.read Network.settleBound
  settle bound
  let maxDelay ← Action.read Network.maxDelay
  Action.mapError .network (Network.pass (maxDelay.toNat + 1))

theorem drive_cons (command : Command) (rest : List Command) :
    drive (command :: rest) =
      Action.mapError ScenarioError.network (perform command) >>= fun _ => drive rest := by
  show Action.mapError ScenarioError.network (perform command >>= fun _ => performAll rest) >>=
    (fun _ => finish) = _
  rw [Action.mapError_bind, bind_assoc]
  rfl

/-- The ticks that pass once no snapshot is outstanding. -/
def passOn : ScenarioAction Unit := do
  let maxDelay ← Action.read Network.maxDelay
  Action.mapError .network (Network.pass (maxDelay.toNat + 1))

theorem finish_eq (net : Network) :
    finish net = (settle net.settleBound >>= fun _ => passOn) net := rfl

theorem perform_snapshot (name : String) :
    perform (.snapshot name) = (fun _ => ()) <$> startSnapshot name := by
  unfold perform Network.control
  simp only [bind_assoc, pure_bind, map_eq_pure_bind]

theorem finish_of_rested (hNone : net.outstanding = []) :
    finish net = Action.mapError ScenarioError.network (pass (net.maxDelay.toNat + 1)) net := by
  have hSettled : settle net.settleBound net = (pure () : ScenarioAction Unit) net :=
    settle_of_rested _ hNone
  rw [finish_eq, Action.bind_congr_left hSettled, pure_bind]
  rfl

/-- As long as a snapshot is outstanding, one more tick changes nothing in what is to be done. -/
theorem finish_of_outstanding (hReachable : net.Reachable) (hOrderly : net.Orderly)
    (hSome : net.outstanding ≠ []) :
    finish net = (Action.mapError ScenarioError.network tick >>= fun _ => finish) net := by
  have hWell := hReachable.wellFormed
  have hPending := hReachable.pending_pos hSome
  have hRests := hOrderly.restsWithin_settleBound
  obtain ⟨bound, hBound⟩ := Nat.exists_eq_add_one.mpr (hRests.pos hPending)
  have hSettled : settle (bound + 1) net =
      (Action.mapError ScenarioError.network tick >>= fun _ => settle bound) net :=
    settle_of_outstanding hReachable hSome (bound + 1)
  rw [finish_eq, hBound, Action.bind_congr_left hSettled, bind_assoc]
  refine Action.bind_congr_of_done fun report between hTick => ?_
  rw [Action.mapError_eq_done_iff] at hTick
  have hEvolves := (meets_tick hWell).of_done hTick
  have hBetween := hEvolves.orderly hWell hOrderly
  rw [hBound] at hRests
  exact Action.bind_congr_left (settle_eq_of_restsWithin (hReachable.leads hEvolves.leads) hBetween
    ((hRests.tick hPending hWell hOrderly).of_done hTick) hBetween.restsWithin_settleBound)

/-- How a script ends, if `first` was the next number when it began and its commands and ticks have
come to an outcome. -/
def concluded (first : SnapshotId) :
    Outcome Network ScenarioError Unit → Outcome Network CrewError (List Snapshot)
  | .done _ after => .done ((after.retainedFrom first).filterMap after.completed?)
      ((after.retainedFrom first).foldl relinquish after)
  | .refused error after =>
      .refused (.scenario error) (Network.abandon (after.retainedFrom first) after)
  | .faulted fault => .faulted fault

/-- A script is concluded when it has been driven. -/
theorem mapError_runScript (commands : List Command) (net : Network) :
    Action.mapError CrewError.scenario (runScript commands) net =
      concluded net.nextSnapshot (drive commands net) := by
  unfold Action.mapError
  rcases runScript_cases commands net with ⟨driven, hDriven, hRun⟩ | ⟨error, driven, hDriven, hRun⟩ |
    ⟨fault, hDriven, hRun⟩ <;> rw [hDriven, hRun] <;> rfl

theorem mapError_pass_succ (ticks : Nat) :
    Action.mapError ScenarioError.network (pass (ticks + 1)) =
      Action.mapError ScenarioError.network tick >>= fun _ =>
        Action.mapError ScenarioError.network (pass ticks) :=
  Action.mapError_bind _ tick fun _ => pass ticks

/-- How a script ends after a call, if the rest of it is known. -/
def resumed {α : Type} (first : SnapshotId) (rest : ScenarioAction Unit) :
    Outcome Network NetworkError α → Outcome Network CrewError (List Snapshot)
  | .done _ after => concluded first (rest after)
  | .refused error after => concluded first (.refused (.network error) after)
  | .faulted fault => .faulted fault

theorem concluded_bind {α : Type} (first : SnapshotId) (call : NetworkAction α)
    (rest : ScenarioAction Unit) (net : Network) :
    concluded first ((Action.mapError ScenarioError.network call >>= fun _ => rest) net) =
      resumed first rest (call net) := by
  show concluded first (Action.bind _ _ net) = _
  unfold Action.bind Action.mapError
  cases call net <;> rfl

/-- The value that a call yields does not matter. -/
theorem resumed_map {α β : Type} (first : SnapshotId) (rest : ScenarioAction Unit)
    (call : NetworkAction α) (f : α → β) (net : Network) :
    resumed first rest ((f <$> call) net) = resumed first rest (call net) := by
  show resumed first rest (Action.bind call _ net) = _
  unfold Action.bind
  cases call net <;> rfl

/-- A script that goes on with a command. -/
theorem concluded_drive_cons (first : SnapshotId) (command : Command) (rest : List Command)
    (net : Network) :
    concluded first (drive (command :: rest) net) =
      resumed first (drive rest) (perform command net) := by
  rw [drive_cons, concluded_bind]

end Scenario

/-- What a waiter that has ended has sent. -/
def Waiter.sent? (waiter : Waiter) : Option Finding :=
  match waiter.stage with
  | .ended finding => some finding
  | _ => none

/-- What a waiter has got, whether or not it has sent it. -/
def Waiter.finding? (waiter : Waiter) : Option Finding :=
  match waiter.stage with
  | .waiting => none
  | .holding finding => some finding
  | .ended finding => some finding

/-- The steps that a waiter has still to take. -/
def Waiter.work (waiter : Waiter) : Nat :=
  match waiter.stage with
  | .waiting => 2
  | .holding _ => 1
  | .ended _ => 0

theorem Waiter.hasEnded_eq (waiter : Waiter) : waiter.hasEnded = waiter.sent?.isSome := by
  unfold hasEnded sent?
  cases waiter.stage <;> rfl

theorem Waiter.finding?_of_sent? {waiter : Waiter} {finding : Finding}
    (hSent : waiter.sent? = some finding) : waiter.finding? = some finding := by
  unfold sent? at hSent
  unfold finding?
  cases hStage : waiter.stage <;> rw [hStage] at hSent <;> first | exact hSent | exact nomatch hSent

namespace Crew

open Network Scenario

variable {start : Network} {crew after : Crew} {received : List Snapshot}

/-- The snapshots of the script, in the order in which they have been started. -/
def handles (crew : Crew) : List Handle := crew.waiters.map Waiter.handle

/-- Their numbers. -/
def ids (crew : Crew) : List SnapshotId := crew.handles.map Handle.snapshot

theorem ids_eq_map (crew : Crew) :
    crew.ids = crew.waiters.map fun waiter => waiter.handle.snapshot :=
  List.map_map

/-- What the waiters that have ended have sent. -/
def sent (crew : Crew) : List Finding := crew.waiters.filterMap Waiter.sent?

/-- How the script will have ended, if `first` was the next number when it began. -/
def outcome (first : SnapshotId) (crew : Crew) : Outcome Network CrewError (List Snapshot) :=
  match crew.stage with
  | .performing ticks commands => concluded first
      ((Action.mapError ScenarioError.network (pass ticks) >>= fun _ => drive commands) crew.net)
  | .settling => concluded first (finish crew.net)
  | .passing ticks => concluded first (Action.mapError ScenarioError.network (pass ticks) crew.net)
  | .receiving _ _ => concluded first (.done () crew.net)
  | .joining place received =>
      .done (sorted received) ((crew.ids.drop place).foldl relinquish crew.net)
  | .abandoning place error => .refused error (Network.abandon (crew.ids.drop place) crew.net)
  | .awaiting place error => .refused error (Network.abandon (crew.ids.drop (place + 1)) crew.net)
  | .finished (.ok snapshots) => .done snapshots crew.net
  | .finished (.error error) => .refused error crew.net
  | .crashed fault => .faulted fault

/-- What holds of a crew as long as no snapshot has been taken away or given up.  The driver has taken
`received` from the mailbox. -/
structure Driving (start : Network) (received : List Snapshot) (crew : Crew) : Prop where
  /-- No report has been handed in from outside. -/
  reachable : crew.net.Reachable
  /-- What is under way becomes due in time. -/
  orderly : crew.net.Orderly
  /-- Nothing has been taken away or given up since the script began. -/
  retains : start.Retains crew.net
  /-- There is one waiter for each snapshot of the script. -/
  ids_eq : crew.ids = crew.net.retainedFrom start.nextSnapshot
  /-- What a waiter has got is its snapshot. -/
  truthful : ∀ waiter ∈ crew.waiters, ∀ finding, waiter.finding? = some finding →
    ∃ assembled, finding = .ok assembled ∧
      crew.net.completed? waiter.handle.snapshot = some assembled
  /-- What waiters have sent has been received or is in the mailbox, in some order. -/
  sent_perm : (received.map Except.ok ++ crew.mailbox).Perm crew.sent

/-- What holds of a crew that gives its snapshots up. -/
structure Closing (place : Nat) (crew : Crew) : Prop where
  /-- No snapshot has been taken away. -/
  used : ∀ id ∈ crew.ids, id ∈ crew.net.collectors.keys
  /-- The waiters before a place have ended. -/
  ended : ∀ waiter ∈ crew.waiters.take place, waiter.hasEnded = true

/-- What holds of a crew at each stage. -/
def Sound (start : Network) (crew : Crew) : Prop :=
  match crew.stage with
  | .performing _ _ => crew.Driving start []
  | .settling => crew.Driving start []
  | .passing _ => crew.Driving start [] ∧ crew.net.outstanding = []
  | .receiving left received => crew.Driving start received ∧ crew.net.outstanding = [] ∧
      left + received.length = crew.waiters.length
  | .joining place _ => (∀ waiter ∈ crew.waiters, waiter.hasEnded = true) ∧
      (crew.ids.drop place).Nodup ∧ ∀ id ∈ crew.ids.drop place, id ∈ crew.net.collectors.keys
  | .abandoning place _ => crew.Closing place
  | .awaiting place _ => crew.Closing place ∧
      ∃ handle, crew.handles[place]? = some handle ∧ (crew.net.finding? handle).isSome = true
  | .finished _ => ∀ waiter ∈ crew.waiters, waiter.hasEnded = true
  | .crashed _ => True

/-! ### How much is left to do -/

/-- The steps that the waiters have still to take. -/
def work (crew : Crew) : Nat := (crew.waiters.map Waiter.work).sum

/-- How much the driver has still to do.  What it does at one stage may take long, but it never comes
back to an earlier stage. -/
noncomputable def stageWeight (crew : Crew) : ℕ ×ₗ ℕ ×ₗ ℕ :=
  match crew.stage with
  | .performing ticks commands => toLex (6, toLex (commands.length, ticks))
  | .settling => toLex (5, toLex (sInf {ticks | crew.net.RestsWithin ticks}, 0))
  | .passing ticks => toLex (4, toLex (ticks, 0))
  | .receiving left _ => toLex (3, toLex (left, 0))
  | .joining place _ => toLex (2, toLex (crew.waiters.length - place, 0))
  | .abandoning place _ => toLex (1, toLex (crew.waiters.length - place, 1))
  | .awaiting place _ => toLex (1, toLex (crew.waiters.length - place, 0))
  | .finished _ => toLex (0, toLex (0, 0))
  | .crashed _ => toLex (0, toLex (0, 0))

/-- How much the threads have still to do. -/
noncomputable def weight (crew : Crew) : (ℕ ×ₗ ℕ ×ₗ ℕ) ×ₗ ℕ := toLex (crew.stageWeight, crew.work)

/-- What a step comes to: it keeps what the script will have ended in, and leaves less to do. -/
structure Follows (start : Network) (crew after : Crew) : Prop where
  /-- What holds at the stage of the crew still does. -/
  sound : after.Sound start
  /-- The script will have ended as before. -/
  outcome_eq : after.outcome start.nextSnapshot = crew.outcome start.nextSnapshot
  /-- Less is left to do. -/
  lighter : after.weight < crew.weight

theorem weight_lt_of_stageWeight (hLess : after.stageWeight < crew.stageWeight) :
    after.weight < crew.weight :=
  Prod.Lex.toLex_lt_toLex.mpr (Or.inl hLess)

/-- To come to a later stage leaves less to do. -/
theorem stageWeight_lt {later earlier : ℕ} {one other : ℕ ×ₗ ℕ} (hLess : later < earlier)
    (hAfter : after.stageWeight = toLex (later, one)) (hCrew : crew.stageWeight = toLex (earlier, other)) :
    after.stageWeight < crew.stageWeight := by
  rw [hAfter, hCrew]
  exact Prod.Lex.toLex_lt_toLex.mpr (Or.inl hLess)

/-- At the same stage, what comes first counts most. -/
theorem stageWeight_lt_of_first {rank later earlier one other : ℕ} (hLess : later < earlier)
    (hAfter : after.stageWeight = toLex (rank, toLex (later, one)))
    (hCrew : crew.stageWeight = toLex (rank, toLex (earlier, other))) :
    after.stageWeight < crew.stageWeight := by
  rw [hAfter, hCrew]
  exact Prod.Lex.toLex_lt_toLex.mpr (Or.inr ⟨rfl, Prod.Lex.toLex_lt_toLex.mpr (Or.inl hLess)⟩)

theorem stageWeight_lt_of_second {rank first later earlier : ℕ} (hLess : later < earlier)
    (hAfter : after.stageWeight = toLex (rank, toLex (first, later)))
    (hCrew : crew.stageWeight = toLex (rank, toLex (first, earlier))) :
    after.stageWeight < crew.stageWeight := by
  rw [hAfter, hCrew]
  exact Prod.Lex.toLex_lt_toLex.mpr
    (Or.inr ⟨rfl, Prod.Lex.toLex_lt_toLex.mpr (Or.inr ⟨rfl, hLess⟩)⟩)

/-! ### Driving -/

theorem Driving.ids_used (hDriving : crew.Driving start received) :
    ∀ id ∈ crew.ids, id ∈ crew.net.collectors.keys :=
  fun _ hId => (mem_retainedFrom.mp (hDriving.ids_eq ▸ hId)).1

/-- Along a run of the network without new snapshots, or with one for each waiter that is hired,
everything stays in place. -/
theorem Driving.advance (hDriving : crew.Driving start received) (hired : List Handle)
    (hLeads : crew.net.Leads 0 after.net) (hRetains : crew.net.Retains after.net)
    (hMailbox : after.mailbox = crew.mailbox)
    (hWaiters : after.waiters = crew.waiters ++ hired.map fun handle => ⟨handle, .waiting⟩)
    (hIds : after.net.retainedFrom start.nextSnapshot =
      crew.net.retainedFrom start.nextSnapshot ++ hired.map Handle.snapshot) :
    after.Driving start received := by
  have hWell := hDriving.reachable.wellFormed
  have hNew : ∀ waiter ∈ hired.map fun handle => (⟨handle, .waiting⟩ : Waiter),
      waiter.finding? = none := by
    intro waiter hWaiter
    obtain ⟨handle, -, rfl⟩ := List.mem_map.mp hWaiter
    rfl
  refine ⟨hDriving.reachable.leads hLeads, hLeads.orderly hWell hDriving.orderly,
    IsTrans.trans _ _ _ hDriving.retains hRetains, ?_, fun waiter hWaiter finding hFinding => ?_, ?_⟩
  · rw [hIds, ← hDriving.ids_eq]
    rw [ids_eq_map, ids_eq_map, hWaiters, List.map_append, List.map_map]
    rfl
  · rw [hWaiters] at hWaiter
    rcases List.mem_append.mp hWaiter with hOld | hFresh
    · obtain ⟨assembled, hOk, hCompleted⟩ := hDriving.truthful waiter hOld finding hFinding
      obtain ⟨trace, hRun, -⟩ := hLeads
      exact ⟨assembled, hOk, hRun.completed?_eq hWell hCompleted⟩
    · exact nomatch (hNew waiter hFresh).symm.trans hFinding
  · have hNone : (hired.map fun handle => (⟨handle, .waiting⟩ : Waiter)).filterMap Waiter.sent? = [] :=
      List.filterMap_eq_nil_iff.mpr fun waiter hWaiter => by
        obtain ⟨handle, -, rfl⟩ := List.mem_map.mp hWaiter
        rfl
    unfold sent
    rw [hWaiters, List.filterMap_append, hNone, List.append_nil, hMailbox]
    exact hDriving.sent_perm

theorem Driving.evolve (hDriving : crew.Driving start received) (hStart : start.WellFormed)
    (hEvolves : crew.net.Evolves after.net) (hRetains : crew.net.Retains after.net)
    (hMailbox : after.mailbox = crew.mailbox) (hWaiters : after.waiters = crew.waiters) :
    after.Driving start received := by
  have hWell := hDriving.reachable.wellFormed
  refine hDriving.advance [] hEvolves.leads hRetains hMailbox
    (hWaiters.trans (List.append_nil _).symm) ?_
  exact (hDriving.retains.retainedFrom_eq hRetains hStart hWell (hEvolves.wellFormed hWell)
    (hEvolves.extends hWell).nextSnapshot_eq).trans (List.append_nil _).symm

theorem Driving.goOn (hDriving : crew.Driving start received) (stage : DriverStage) :
    (crew.goOn stage).Driving start received :=
  ⟨hDriving.reachable, hDriving.orderly, hDriving.retains, hDriving.ids_eq, hDriving.truthful,
    hDriving.sent_perm⟩

/-- A call of the driver that goes on, is refused, or is cut short. -/
theorem Driving.follows_carryOut {α : Type} {call : NetworkAction α} {next : α → Crew → Crew}
    {rank : ℕ} {inner : ℕ ×ₗ ℕ} (hDriving : crew.Driving start []) (rest : ScenarioAction Unit)
    (hStart : start.WellFormed) (hWeight : crew.stageWeight = toLex (rank, inner)) (hRank : 1 < rank)
    (hOutcome : crew.outcome start.nextSnapshot =
      resumed start.nextSnapshot rest (call crew.net))
    (hCall : (call crew.net).Meets
      (fun value after => (next value { crew with net := after }).Sound start ∧
        (next value { crew with net := after }).outcome start.nextSnapshot =
          concluded start.nextSnapshot (rest after) ∧
        (next value { crew with net := after }).stageWeight < crew.stageWeight)
      (fun _ after => crew.net.Evolves after ∧ crew.net.Retains after)) :
    Follows start crew (crew.carryOut call next) := by
  unfold carryOut
  cases hCalled : call crew.net with
  | done value after =>
      obtain ⟨hSound, hSame, hLess⟩ := hCall.of_done hCalled
      refine ⟨hSound, ?_, weight_lt_of_stageWeight hLess⟩
      rw [hOutcome, hCalled]
      exact hSame
  | refused error after =>
      obtain ⟨hEvolves, hRetains⟩ := hCall.of_refused hCalled
      have hFailed : Driving start []
          { crew with net := after, stage := .abandoning 0 (.network error) } :=
        hDriving.evolve hStart hEvolves hRetains rfl rfl
      refine ⟨⟨hFailed.ids_used, fun _ hNone => absurd hNone List.not_mem_nil⟩, ?_,
        weight_lt_of_stageWeight (stageWeight_lt hRank rfl hWeight)⟩
      rw [hOutcome, hCalled]
      exact congrArg (fun ids => Outcome.refused (CrewError.network error) (Network.abandon ids after))
        hFailed.ids_eq
  | faulted fault =>
      refine ⟨True.intro, ?_, weight_lt_of_stageWeight
        (stageWeight_lt (Nat.lt_trans Nat.zero_lt_one hRank) rfl hWeight)⟩
      rw [hOutcome, hCalled]
      rfl

/-- A tick of the driver. -/
theorem Driving.follows_tick {next : Crew → Crew} {rank : ℕ} {inner : ℕ ×ₗ ℕ}
    (hDriving : crew.Driving start []) (rest : ScenarioAction Unit) (hStart : start.WellFormed)
    (hWeight : crew.stageWeight = toLex (rank, inner)) (hRank : 1 < rank)
    (hOutcome : crew.outcome start.nextSnapshot =
      resumed start.nextSnapshot rest (Network.tick crew.net))
    (hNext : ∀ report after, Network.tick crew.net = .done report after →
      crew.net.Evolves after → crew.net.Retains after →
        (next { crew with net := after }).Sound start ∧
        (next { crew with net := after }).outcome start.nextSnapshot =
          concluded start.nextSnapshot (rest after) ∧
        (next { crew with net := after }).stageWeight < crew.stageWeight) :
    Follows start crew (crew.carryOut Network.tick fun _ after => next after) := by
  refine hDriving.follows_carryOut rest hStart hWeight hRank hOutcome ?_
  refine ((meets_tick hDriving.reachable.wellFormed).done_self).imp ?_
  rintro report after ⟨hTick, hEvolves⟩
  exact hNext report after hTick hEvolves ((keeps_tick _).of_done hTick)

end Crew

end TokenNet
