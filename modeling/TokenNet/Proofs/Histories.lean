import TokenNet.Proofs.Completed
import TokenNet.Proofs.Fresh
import TokenNet.Proofs.Grounded

namespace TokenNet

/-!
# Histories are runs

What a call on a well-formed network comes to, whether it is carried out or refused: one of a few
kinds of runs (`Network.Yields`).  So every history of calls, none of which hands in a report from
outside, leads along a run (`Network.history_leads`).  Tokens come into the network only with the
nodes that calls add.
-/

/-- The tokens that a call has brought in. -/
def Call.deposit : Call → Reply → Nat
  | .addNode _ tokens, .ok _ => tokens.toNat
  | _, _ => 0

/-- The tokens that calls have brought in. -/
def deposits : List Call → List Reply → Nat
  | call :: calls, reply :: replies => call.deposit reply + deposits calls replies
  | _, _ => 0

/-- The node that a call has added. -/
def Call.opening? : Call → Reply → Option InitialNode
  | .addNode name tokens, .ok _ => some ⟨name, tokens⟩
  | _, _ => none

theorem Call.deposit_eq (call : Call) (reply : Reply) :
    call.deposit reply = ((call.opening? reply).map fun node => node.tokens.toNat).getD 0 := by
  cases call <;> cases reply <;> rfl

/-- The snapshot that a reply hands out. -/
def Reply.snapshot? : Reply → Option Snapshot
  | .ok (.taken snapshot) => snapshot
  | .ok (.awaited snapshot) => snapshot
  | _ => none

/-- Whether a call hands in a report from outside. -/
def Call.isNotify : Call → Bool
  | .notify _ => true
  | _ => false

theorem Inner.openings_eq_zero {trace : List Happening} (hInner : Inner trace) :
    Ledger.openings trace = 0 := by
  induction trace with
  | nil => rfl
  | cons happening rest ih =>
      have hFirst := hInner happening List.mem_cons_self
      have hNone : Ledger.openings [happening] = 0 := by
        cases happening <;> first | rfl | exact absurd hFirst Bool.false_ne_true
      rw [Ledger.openings_cons, hNone, ih fun other hOther => hInner other (List.mem_cons_of_mem _ hOther)]

namespace Network

variable {net after : Network}

/-- A run without reports from outside, in which nodes are added with so many tokens in all,
leads from one network to another, and no snapshot loses its ground. -/
def Leads (net : Network) (tokens : Nat) (after : Network) : Prop :=
  ∃ trace, Run net trace after ∧ Honest trace ∧ Ledger.openings trace = tokens ∧
    (net.WellFormed → net.Grounded → after.Grounded)

theorem Leads.refl (net : Network) : net.Leads 0 net :=
  ⟨[], Run.start, inner_nil.honest, rfl, fun _ hGrounded => hGrounded⟩

theorem Leads.trans {between : Network} {earlier later : Nat} (hEarlier : net.Leads earlier between)
    (hLater : between.Leads later after) : net.Leads (earlier + later) after := by
  obtain ⟨first, hFirst, hFirstHonest, rfl, hFirstKeeps⟩ := hEarlier
  obtain ⟨rest, hRest, hRestHonest, rfl, hRestKeeps⟩ := hLater
  refine ⟨first ++ rest, hFirst.trans hRest, honest_append.mpr ⟨hFirstHonest, hRestHonest⟩,
    Ledger.openings_append first rest, fun hWell hGrounded => ?_⟩
  exact hRestKeeps (hFirst.wellFormed hWell) (hFirstKeeps hWell hGrounded)

theorem Leads.wellFormed {tokens : Nat} (hLeads : net.Leads tokens after)
    (hWell : net.WellFormed) : after.WellFormed := by
  obtain ⟨trace, hRun, -⟩ := hLeads
  exact hRun.wellFormed hWell

theorem Evolves.leads (hEvolves : net.Evolves after) : net.Leads 0 after := by
  have hKeeps : net.WellFormed → net.Grounded → after.Grounded := fun hWell =>
    (hEvolves.extends hWell).grounded
  obtain ⟨trace, hRun, hInner⟩ := hEvolves
  exact ⟨trace, hRun, hInner.honest, hInner.openings_eq_zero, hKeeps⟩

theorem Starts.leads {name : String} (hStarts : net.Starts name after) : net.Leads 0 after := by
  have hKeeps : net.WellFormed → net.Grounded → after.Grounded := hStarts.grounded
  obtain ⟨next, -, hOpen, ⟨trace, hRun, hInner⟩, -⟩ := hStarts
  refine ⟨_, hOpen.run.trans hRun, ?_, ?_, hKeeps⟩
  · exact honest_append.mpr ⟨by simp [Honest], hInner.honest⟩
  · rw [Ledger.openings_append, hInner.openings_eq_zero]
    rfl

/-! ### Calls one by one -/

theorem meets_attempt {change : Network → Except NetworkError Network} :
    (attempt change net).Meets (fun _ after => change net = .ok after)
      (fun _ after => after = net) := by
  unfold attempt
  cases hChange : change net with
  | ok between => exact rfl
  | error error => exact rfl

theorem meets_sendTokens_evolves (hWell : net.WellFormed) {source target : String}
    {tokens : UInt64} :
    (sendTokens source target tokens net).Meets (fun _ after => net.Evolves after)
      (fun _ after => net.Evolves after) := by
  refine (meets_sendTokens hWell.wired).done_self.mono (fun _ _ hSent => ?_) fun _ _ hRefused => ?_
  · exact (Step.send hSent.1).evolves (inner_singleton rfl)
  · exact hRefused.2 ▸ evolves_started net

theorem meets_startSnapshot_starts (hWell : net.WellFormed) {name : String} :
    (startSnapshot name net).Meets (fun _ after => net.Starts name after)
      (fun _ after => net.Evolves after) := by
  apply (meets_startSnapshot hWell).mono fun _ _ hStarted => hStarted.2
  intro _ _ hRefused
  exact hRefused.2.2 ▸ evolves_started net

theorem meets_receiveTime_evolves (net : Network) :
    (receiveTime net).Meets (fun _ after => net.Evolves after) Never :=
  (meets_receiveTime net).done_self.imp fun _ _ hDrawn => (Step.draw hDrawn.1).evolves inner_nil

theorem meets_handle (net : Network) (snapshot : SnapshotId) :
    (handle snapshot net).Meets (fun _ after => net.Evolves after)
      (fun _ after => net.Evolves after) := by
  unfold handle
  cases net.collectors.get? snapshot with
  | none => exact Evolves.refl net
  | some collector => exact Evolves.refl net

/-- What taking a snapshot away comes to: it was complete, or nothing has changed. -/
def Collects (net : Network) (snapshot : SnapshotId) (taken : Option Snapshot)
    (after : Network) : Prop :=
  match taken with
  | some assembled => ∃ collector, net.collectors.get? snapshot = some collector ∧
      collector.assemble? = some assembled ∧ after = net.retire snapshot collector
  | none => after = net

theorem meets_tryCollect (net : Network) (snapshot : SnapshotId) :
    (tryCollect snapshot net).Meets (net.Collects snapshot) (fun _ after => after = net) := by
  unfold tryCollect
  cases hFound : net.collectors.get? snapshot with
  | none => exact rfl
  | some collector =>
      cases hAssembled : collector.assemble? with
      | none =>
          simp only [hAssembled]
          exact rfl
      | some assembled =>
          simp only [hAssembled]
          exact ⟨collector, hFound, hAssembled, rfl⟩

theorem meets_collect (net : Network) (snapshot : SnapshotId) :
    (collect snapshot net).Meets (net.Collects snapshot) (fun _ after => after = net) := by
  unfold collect
  cases hFound : net.collectors.get? snapshot with
  | none => exact rfl
  | some collector =>
      cases hWaiting : collector.wait with
      | ready assembled =>
          simp only [hWaiting]
          exact ⟨collector, hFound, Collector.wait_eq_ready_iff.mp hWaiting, rfl⟩
      | abandoned =>
          simp only [hWaiting]
          exact rfl
      | blocked =>
          simp only [hWaiting]
          exact rfl

theorem Collects.evolves {snapshot : SnapshotId} {taken : Option Snapshot}
    (hCollects : net.Collects snapshot taken after) : net.Evolves after := by
  cases taken with
  | none =>
      obtain rfl : after = net := hCollects
      exact Evolves.refl after
  | some assembled =>
      obtain ⟨collector, hFound, hAssembled, rfl⟩ := hCollects
      exact (Step.retire hFound (Collector.assemble?_eq_some_iff.mp hAssembled).1).evolves inner_nil

/-- What is taken away is what is handed out for the snapshot from then on. -/
theorem Collects.completed?_eq {snapshot : SnapshotId} {assembled : Snapshot}
    (hCollects : net.Collects snapshot (some assembled) after) :
    after.completed? snapshot = some assembled := by
  obtain ⟨collector, hFound, hAssembled, rfl⟩ := hCollects
  unfold completed?
  rw [collectorOf?_retire hFound, collectorOf?_of_get? hFound]
  exact hAssembled

theorem meets_release (net : Network) (snapshot : SnapshotId) :
    (release snapshot net).Meets (fun _ after => net.Evolves after)
      (fun _ after => net.Evolves after) := by
  unfold release
  cases hFound : net.collectors.get? snapshot with
  | none => exact Evolves.refl net
  | some collector =>
      by_cases hComplete : collector.isComplete = true
      · simp only [hComplete, if_true]
        exact (Step.retire hFound hComplete).evolves inner_nil
      · simp only [hComplete]
        exact Evolves.refl net

theorem notify_refused {report : Report} {error : NetworkError}
    (hRefused : notify report net = .refused error after) : after = net := by
  have hMeets : (notify report net).Meets (fun _ _ => True) fun _ after => after = net := by
    refine Action.meets_bind (M := fun _ _ => True) ?_ fun _ _ _ => True.intro
    unfold callCollector
    cases net.collectors.get? report.snapshot with
    | none => exact rfl
    | some collector =>
        cases hAccepted : Collector.accept report collector with
        | done complete changed =>
            simp only [hAccepted]
            exact True.intro
        | refused error changed =>
            simp only [hAccepted]
            exact rfl
        | faulted fault =>
            simp only [hAccepted]
            exact True.intro
  exact hMeets.of_refused hRefused

/-! ### All calls -/

/-- What a call comes to. -/
inductive Yields (net : Network) : Call → Reply → Network → Prop where
  /-- A node has been added. -/
  | added {name : String} {tokens : UInt64} {answer : Answer} {after : Network}
      (hAdd : net.withNode ⟨name, tokens⟩ = .ok after) (hNone : Reply.snapshot? (.ok answer) = none) :
      Yields net (.addNode name tokens) (.ok answer) after
  /-- A report has been handed in from outside. -/
  | notified {report : Report} {complete : Bool} {after : Network}
      (hNotify : notify report net = .done complete after) :
      Yields net (.notify report) (.ok (.reported complete)) after
  /-- A snapshot has been started. -/
  | started {call : Call} {reply : Reply} {name : String} {after : Network}
      (hStarts : net.Starts name after) (hOpening : call.opening? reply = none)
      (hNone : reply.snapshot? = none) : Yields net call reply after
  /-- A snapshot has been taken away. -/
  | collected {call : Call} {reply : Reply} {snapshot : SnapshotId} {assembled : Snapshot}
      {after : Network} (hCollects : net.Collects snapshot (some assembled) after)
      (hOpening : call.opening? reply = none) (hSome : reply.snapshot? = some assembled) :
      Yields net call reply after
  /-- Nothing has happened but what needs no call of its own. -/
  | evolved {call : Call} {reply : Reply} {after : Network} (hEvolves : net.Evolves after)
      (hOpening : call.opening? reply = none) (hNone : reply.snapshot? = none) :
      Yields net call reply after

/-- An action from which everything happens from within. -/
theorem meets_yields {α : Type} {call : Call} {action : NetworkAction α} {answer : α → Answer}
    (hAction : (action net).Meets (fun _ after => net.Evolves after)
      (fun _ after => net.Evolves after))
    (hOpening : ∀ reply, call.opening? reply = none)
    (hNone : ∀ value, Reply.snapshot? (.ok (answer value)) = none) :
    ((answer <$> action) net).Meets (fun value after => net.Yields call (.ok value) after)
      (fun error after => net.Yields call (.error error) after) :=
  Action.meets_map (hAction.mono
    (fun value _ hEvolves => Yields.evolved hEvolves (hOpening _) (hNone value))
    fun _ _ hEvolves => Yields.evolved hEvolves (hOpening _) rfl)

/-- An action that takes a snapshot away. -/
theorem meets_yields_collects {call : Call} {snapshot : SnapshotId}
    {action : NetworkAction (Option Snapshot)} {answer : Option Snapshot → Answer}
    (hAction : (action net).Meets (net.Collects snapshot) (fun _ after => after = net))
    (hOpening : ∀ reply, call.opening? reply = none)
    (hTaken : ∀ taken, Reply.snapshot? (.ok (answer taken)) = taken) :
    ((answer <$> action) net).Meets (fun value after => net.Yields call (.ok value) after)
      (fun error after => net.Yields call (.error error) after) := by
  refine Action.meets_map (hAction.mono (fun taken after hCollects => ?_) fun _ _ hSame => ?_)
  · cases taken with
    | none => exact Yields.evolved hCollects.evolves (hOpening _) (hTaken none)
    | some assembled => exact Yields.collected hCollects (hOpening _) (hTaken (some assembled))
  · subst hSame
    exact Yields.evolved (Evolves.refl _) (hOpening _) rfl

/-- An action that starts a snapshot. -/
theorem meets_yields_starts {α : Type} {call : Call} {name : String} {action : NetworkAction α}
    {answer : α → Answer}
    (hAction : (action net).Meets (fun _ after => net.Starts name after)
      (fun _ after => net.Evolves after))
    (hOpening : ∀ reply, call.opening? reply = none)
    (hNone : ∀ value, Reply.snapshot? (.ok (answer value)) = none) :
    ((answer <$> action) net).Meets (fun value after => net.Yields call (.ok value) after)
      (fun error after => net.Yields call (.error error) after) :=
  Action.meets_map (hAction.mono
    (fun value _ hStarts => Yields.started hStarts (hOpening _) (hNone value))
    fun _ _ hEvolves => Yields.evolved hEvolves (hOpening _) rfl)

/-- Whatever a call is and whether or not it is refused, it comes to a run. -/
theorem meets_answer (hWell : net.WellFormed) (call : Call) :
    (answer call net).Meets (fun value after => net.Yields call (.ok value) after)
      (fun error after => net.Yields call (.error error) after) := by
  cases call with
  | addNode name tokens =>
      refine Action.meets_map (meets_attempt.mono (fun _ _ hAdd => ?_) fun _ _ hSame => ?_)
      · exact Yields.added hAdd rfl
      · subst hSame
        exact Yields.evolved (Evolves.refl _) rfl rfl
  | addLink source target =>
      refine meets_yields (meets_attempt.mono (fun _ _ hAdd => ?_) fun _ _ hSame => ?_)
        (fun _ => rfl) fun _ => rfl
      · exact (Step.addLink hAdd).evolves inner_nil
      · exact hSame ▸ Evolves.refl net
  | send source target tokens =>
      exact meets_yields (meets_sendTokens_evolves hWell) (fun _ => rfl) fun _ => rfl
  | control event =>
      cases event with
      | passToken source target tokens =>
          refine meets_yields ?_ (fun _ => rfl) fun _ => rfl
          exact Action.meets_bind (meets_sendTokens_evolves hWell) fun _ _ hEvolves => hEvolves
      | snapshot name =>
          have hControl : (control (.snapshot name) net).Meets (fun _ after => net.Starts name after)
              (fun _ after => net.Evolves after) :=
            Action.meets_bind (meets_startSnapshot_starts hWell) fun _ _ hStarts => hStarts
          exact meets_yields_starts hControl (fun _ => rfl) fun _ => rfl
  | startSnapshot name =>
      exact meets_yields_starts (meets_startSnapshot_starts hWell) (fun _ => rfl) fun _ => rfl
  | tick =>
      exact meets_yields ((meets_tick hWell).imp fun _ _ hEvolves => hEvolves) (fun _ => rfl)
        fun _ => rfl
  | receiveTime =>
      exact meets_yields ((meets_receiveTime_evolves net).imp fun _ _ hEvolves => hEvolves)
        (fun _ => rfl) fun _ => rfl
  | notify report =>
      refine Action.meets_map (Outcome.meets_self.mono (fun complete _ hDone => ?_)
        fun _ _ hRefused => ?_)
      · exact Yields.notified hDone
      · obtain rfl := notify_refused hRefused
        exact Yields.evolved (Evolves.refl _) rfl rfl
  | handle snapshot => exact meets_yields (meets_handle net snapshot) (fun _ => rfl) fun _ => rfl
  | tryCollect snapshot =>
      exact meets_yields_collects (meets_tryCollect net snapshot) (fun _ => rfl) fun _ => rfl
  | collect snapshot =>
      exact meets_yields_collects (meets_collect net snapshot) (fun _ => rfl) fun _ => rfl
  | release snapshot => exact meets_yields (meets_release net snapshot) (fun _ => rfl) fun _ => rfl
  | abandon snapshots =>
      refine meets_yields (Action.meets_update ?_) (fun _ => rfl) fun _ => rfl
      exact (Step.abandon snapshots).evolves inner_nil

/-- What the answer to a call meets is true of the reply. -/
theorem of_reply {P : Reply → Network → Prop} {call : Call} {reply : Reply}
    (hMeets : (answer call net).Meets (fun value after => P (.ok value) after)
      fun error after => P (.error error) after)
    (hReply : net.reply call = .ok (reply, after)) : P reply after := by
  unfold Network.reply at hReply
  cases hAnswer : answer call net with
  | done value between =>
      rw [hAnswer] at hReply
      cases hReply
      exact hMeets.of_done hAnswer
  | refused error between =>
      rw [hAnswer] at hReply
      cases hReply
      exact hMeets.of_refused hAnswer
  | faulted fault =>
      rw [hAnswer] at hReply
      cases hReply

theorem yields_of_reply {call : Call} {first : Reply} (hWell : net.WellFormed)
    (hReply : net.reply call = .ok (first, after)) : net.Yields call first after :=
  of_reply (P := net.Yields call) (meets_answer hWell call) hReply

/-- A call that hands in no report from outside leads along a run. -/
theorem Yields.leads {call : Call} {reply : Reply} (hYields : net.Yields call reply after)
    (hOwn : call.isNotify = false) : net.Leads (call.deposit reply) after := by
  cases hYields with
  | @added name tokens answer _ hAdd hNone =>
      refine ⟨_, (Step.addNode hAdd).run, by simp [Honest], Nat.add_zero _, fun hWell _ => ?_⟩
      -- Nodes are only added before the first snapshot.
      obtain ⟨hOpen, -, rfl⟩ := withNode_eq_ok hAdd
      exact grounded_of_nextSnapshot_eq_zero (hWell.nextSnapshot_eq_zero hOpen)
  | notified hNotify => exact nomatch hOwn
  | started hStarts hOpening hNone =>
      rw [Call.deposit_eq, hOpening]
      exact hStarts.leads
  | collected hCollects hOpening hSome =>
      rw [Call.deposit_eq, hOpening]
      exact hCollects.evolves.leads
  | evolved hEvolves hOpening hNone =>
      rw [Call.deposit_eq, hOpening]
      exact hEvolves.leads

/-- A snapshot that a call hands out has been completed. -/
theorem Yields.completed {call : Call} {reply : Reply} {assembled : Snapshot}
    (hYields : net.Yields call reply after) (hHanded : reply.snapshot? = some assembled) :
    ∃ snapshot, after.completed? snapshot = some assembled := by
  have hOther : reply.snapshot? ≠ none := fun hNone => nomatch hHanded.symm.trans hNone
  cases hYields with
  | added hAdd hNone => exact absurd hNone hOther
  | notified hNotify => exact absurd rfl hOther
  | started hStarts hOpening hNone => exact absurd hNone hOther
  | evolved hEvolves hOpening hNone => exact absurd hNone hOther
  | @collected _ _ snapshot _ _ hCollects hOpening hSome =>
      obtain rfl := Option.some.inj (hHanded.symm.trans hSome)
      exact ⟨snapshot, hCollects.completed?_eq⟩

/-- A history is a first call and the history of the rest. -/
theorem history_cons_eq_ok {call : Call} {rest : List Call} {replies : List Reply} {last : Network}
    (hHistory : net.history (call :: rest) = .ok (replies, last)) :
    ∃ first later between, net.reply call = .ok (first, between) ∧
      between.history rest = .ok (later, last) ∧ replies = first :: later := by
  unfold history at hHistory
  obtain ⟨⟨first, between⟩, hReply, hMore⟩ := bind_eq_ok_iff.mp hHistory
  obtain ⟨⟨later, final⟩, hRest, hBoth⟩ := bind_eq_ok_iff.mp hMore
  cases hBoth
  exact ⟨first, later, between, hReply, hRest, rfl⟩

/-- Calls made one after another, none of which hands in a report from outside, lead along a
run. -/
theorem history_leads {calls : List Call} {replies : List Reply} {last : Network}
    (hWell : net.WellFormed) (hOwn : ∀ call ∈ calls, call.isNotify = false)
    (hHistory : net.history calls = .ok (replies, last)) :
    net.Leads (deposits calls replies) last := by
  induction calls generalizing net replies with
  | nil =>
      cases hHistory
      exact Leads.refl _
  | cons call rest ih =>
      obtain ⟨first, later, between, hReply, hRest, rfl⟩ := history_cons_eq_ok hHistory
      have hFirst := (yields_of_reply hWell hReply).leads (hOwn call List.mem_cons_self)
      exact hFirst.trans (ih (hFirst.wellFormed hWell)
        (fun other hOther => hOwn other (List.mem_cons_of_mem _ hOther)) hRest)

/-- What calls have handed out is what is handed out at their end. -/
theorem completed?_of_history {calls : List Call} {replies : List Reply} {last : Network}
    {assembled : Snapshot} (hWell : net.WellFormed)
    (hOwn : ∀ call ∈ calls, call.isNotify = false)
    (hHistory : net.history calls = .ok (replies, last))
    (hHanded : assembled ∈ replies.filterMap Reply.snapshot?) :
    ∃ snapshot, last.completed? snapshot = some assembled := by
  induction calls generalizing net replies with
  | nil =>
      cases hHistory
      exact absurd hHanded List.not_mem_nil
  | cons call rest ih =>
      obtain ⟨first, later, between, hReply, hRest, rfl⟩ := history_cons_eq_ok hHistory
      have hYields := yields_of_reply hWell hReply
      have hBetween := (hYields.leads (hOwn call List.mem_cons_self)).wellFormed hWell
      have hOwnRest : ∀ other ∈ rest, other.isNotify = false :=
        fun other hOther => hOwn other (List.mem_cons_of_mem _ hOther)
      obtain ⟨handing, hMember, hSome⟩ := List.mem_filterMap.mp hHanded
      rcases List.mem_cons.mp hMember with rfl | hLater
      · obtain ⟨snapshot, hCompleted⟩ := hYields.completed hSome
        -- What the first call hands out stays as it is through all later calls.
        obtain ⟨trace, hRun, -⟩ := history_leads hBetween hOwnRest hRest
        exact ⟨snapshot, hRun.completed?_eq hBetween hCompleted⟩
      · exact ih hBetween hOwnRest hRest (List.mem_filterMap.mpr ⟨handing, hLater, hSome⟩)

/-- Whatever calls can lead to, reports from outside apart. -/
def Reachable (net : Network) : Prop :=
  ∃ (start : Network) (tokens : Nat), start.Fresh ∧ start.Leads tokens net

theorem Reachable.leads {tokens : Nat} (hReachable : net.Reachable)
    (hLeads : net.Leads tokens after) : after.Reachable := by
  obtain ⟨start, earlier, hFresh, hEarlier⟩ := hReachable
  exact ⟨start, earlier + tokens, hFresh, hEarlier.trans hLeads⟩

theorem Reachable.wellFormed (hReachable : net.Reachable) : net.WellFormed := by
  obtain ⟨start, tokens, hFresh, hLeads⟩ := hReachable
  exact hLeads.wellFormed hFresh.wellFormed

theorem Reachable.grounded (hReachable : net.Reachable) : net.Grounded := by
  obtain ⟨start, tokens, hFresh, trace, -, -, -, hKeeps⟩ := hReachable
  exact hKeeps hFresh.wellFormed (grounded_of_nextSnapshot_eq_zero hFresh.nextSnapshot_eq)

theorem Reachable.accounted (hReachable : net.Reachable) (snapshot : SnapshotId) :
    (net.cut snapshot).Accounted := by
  obtain ⟨start, tokens, hFresh, trace, hRun, hHonest, -⟩ := hReachable
  exact (hRun.reached hFresh hHonest snapshot).accounted

theorem reachable_of_history {config : Config} {calls : List Call} {replies : List Reply}
    {last : Network} (hBuilt : ofConfig config = .ok net)
    (hOwn : ∀ call ∈ calls, call.isNotify = false)
    (hHistory : net.history calls = .ok (replies, last)) : last.Reachable :=
  have hFresh := fresh_ofConfig hBuilt
  ⟨net, _, hFresh, history_leads hFresh.wellFormed hOwn hHistory⟩

/-! ### A history to look at -/

/-- The network of a configuration, and what calls make of it. -/
def played? (config : Config) (calls : List Call) : Option (Network × List Reply × Network) :=
  match ofConfig config with
  | .error _ => none
  | .ok net =>
      match net.history calls with
      | .error _ => none
      | .ok (replies, last) => some (net, replies, last)

theorem of_played? {config : Config} {calls : List Call} {replies : List Reply} {last : Network}
    (hPlayed : played? config calls = some (net, replies, last)) :
    ofConfig config = .ok net ∧ net.history calls = .ok (replies, last) := by
  unfold played? at hPlayed
  cases hBuilt : ofConfig config with
  | error error =>
      rw [hBuilt] at hPlayed
      cases hPlayed
  | ok built =>
      simp only [hBuilt] at hPlayed
      cases hHistory : built.history calls with
      | error fault =>
          rw [hHistory] at hPlayed
          cases hPlayed
      | ok outcome =>
          rw [hHistory] at hPlayed
          cases hPlayed
          exact ⟨rfl, hHistory⟩

/-- A check of what a computation comes to, put together with what it comes to. -/
theorem exists_of_toOption_any {ε α : Type} {result : Except ε α} {check : α → Bool}
    (hChecks : result.toOption.any check = true) :
    ∃ value, result = .ok value ∧ check value = true := by
  cases result with
  | error error => cases hChecks
  | ok value => exact ⟨value, rfl, hChecks⟩

/-- A check of what calls make of the network of a configuration, put together with what they
make. -/
theorem exists_of_played? {config : Config} {calls : List Call}
    {check : Network × List Reply × Network → Bool} (hPlays : (played? config calls).any check = true) :
    ∃ net replies last, ofConfig config = .ok net ∧ net.history calls = .ok (replies, last) ∧
      check (net, replies, last) = true := by
  obtain ⟨⟨net, replies, last⟩, hPlayed, hCheck⟩ := (Option.any_eq_true _ _).mp hPlays
  obtain ⟨hBuilt, hHistory⟩ := of_played? hPlayed
  exact ⟨net, replies, last, hBuilt, hHistory, hCheck⟩

end Network

/-- Two nodes that send to each other. -/
def pairConfig : Config where
  seed := 1
  maxDelay := 3
  nodes := [⟨"A", 5⟩, ⟨"B", 3⟩]
  links := [⟨"A", "B"⟩, ⟨"B", "A"⟩]

/-- Calls that add a third node, which only receives, and start two snapshots that overlap, with
tokens under way; the second one starts at all nodes at once. -/
def pairCalls : List Call :=
  [.addNode "C" 2, .addLink "B" "C", .send "A" "B" 1, .startSnapshot "A", .send "B" "C" 3,
    .send "B" "A" 1, .startSnapshot "C", .tick, .tick, .tick, .tick, .tick, .tick, .tick, .tick,
    .tryCollect 0, .collect 1, .release 7]

end TokenNet
