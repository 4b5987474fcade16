import TokenNet.Proofs.Sessions

namespace TokenNet

/-!
# Calls that come to nothing

A call that is refused, or that asks for a snapshot that is not complete yet, leaves everything as
it was, except that nothing can be added any more after tokens were to be sent or a snapshot was to
be started (`Network.failures_change_nothing`).  Nodes and collectors look at everything before they
change anything (`Action.Atomic`), and whatever a network does after it has changed is never
refused: a sender that has paid has a channel to send on, and those that start a snapshot can start
it (`Network.meets_sendTokens`, `Network.meets_startSnapshot`).
-/

/-- An action that leaves the state alone whenever it is refused. -/
def Action.Atomic {σ ε α : Type} (action : Action σ ε α) : Prop :=
  ∀ state, (action state).Meets (fun _ _ => True) (fun _ after => after = state)

namespace Node

theorem atomic_send (amount : UInt64) (target : String) : (send amount target).Atomic := by
  intro node
  unfold send
  split
  · exact rfl
  · split
    · exact rfl
    · exact True.intro

theorem atomic_startSnapshot (snapshot : SnapshotId) : (startSnapshot snapshot).Atomic := by
  intro node
  unfold startSnapshot
  split
  · exact rfl
  · exact True.intro

theorem atomic_receiveTokens (source : String) (amount : UInt64) :
    (receiveTokens source amount).Atomic := by
  intro node
  unfold receiveTokens
  split
  · exact True.intro
  · split <;> exact True.intro

theorem atomic_receiveMarker (source : String) (snapshot : SnapshotId) :
    (receiveMarker source snapshot).Atomic := by
  intro node
  unfold receiveMarker
  split
  · exact True.intro
  · split
    · exact rfl
    · dsimp only
      split <;> exact True.intro

theorem atomic_receive (source : String) (message : Message) : (receive source message).Atomic := by
  intro node
  unfold receive
  split
  · exact rfl
  · cases message with
    | token amount => exact atomic_receiveTokens source amount node
    | marker snapshot => exact atomic_receiveMarker source snapshot node

end Node

theorem Collector.atomic_accept (report : Report) : (accept report).Atomic := by
  intro collector
  unfold accept
  split
  · exact rfl
  · split
    · exact rfl
    · exact True.intro

/-- Whether a call has come to nothing: it was refused, or the snapshot was not complete yet. -/
def Reply.isFailure : Reply → Bool
  | .error _ => true
  | .ok (.taken none) => true
  | .ok (.awaited none) => true
  | .ok (.released false) => true
  | .ok _ => false

/-- Whether a call is to send tokens or to start a snapshot, so that nothing can be added any more
even if it is refused. -/
def Call.freezes : Call → Bool
  | .send _ _ _ => true
  | .control _ => true
  | .startSnapshot _ => true
  | _ => false

namespace Network

variable {net after last : Network}

/-- What a network is after a call that has come to nothing. -/
def afterFailed (net : Network) (call : Call) : Network :=
  if call.freezes then { net with started := true } else net

/-- A call that leaves the network alone if it is refused, and otherwise comes to something. -/
theorem meets_unless_failed {α : Type} {call : Call} {action : NetworkAction α}
    {answer : α → Answer} (hAnswer : ∀ value, Reply.isFailure (.ok (answer value)) = false)
    (hAction : (action net).Meets (fun _ _ => True) (fun _ after => after = net.afterFailed call)) :
    ((answer <$> action) net).Meets
      (fun value after => Reply.isFailure (.ok value) = true → after = net.afterFailed call)
      (fun _ after => after = net.afterFailed call) :=
  Action.meets_map (hAction.mono
    (fun value _ _ hFailed => absurd hFailed (by simp [hAnswer value])) fun _ _ hSame => hSame)

/-- A call that takes a snapshot away, or changes nothing. -/
theorem meets_collects_failed {call : Call} {snapshot : SnapshotId}
    {action : NetworkAction (Option Snapshot)} {answer : Option Snapshot → Answer}
    (hCall : call.freezes = false)
    (hAnswer : ∀ assembled, Reply.isFailure (.ok (answer (some assembled))) = false)
    (hAction : (action net).Meets (net.Collects snapshot) (fun _ after => after = net)) :
    ((answer <$> action) net).Meets
      (fun value after => Reply.isFailure (.ok value) = true → after = net.afterFailed call)
      (fun _ after => after = net.afterFailed call) := by
  have hSame : net.afterFailed call = net := by simp [afterFailed, hCall]
  rw [hSame]
  refine Action.meets_map (hAction.mono (fun taken after hCollects hFailed => ?_)
    fun _ _ hNet => hNet)
  cases taken with
  | none => exact hCollects
  | some assembled => exact absurd hFailed (by simp [hAnswer assembled])

/-- A call that comes to nothing changes nothing, but that nothing can be added any more. -/
theorem WellFormed.meets_answer_failed (hWell : net.WellFormed) (call : Call) :
    (answer call net).Meets
      (fun value after => Reply.isFailure (.ok value) = true → after = net.afterFailed call)
      (fun _ after => after = net.afterFailed call) := by
  have hSend : ∀ source target tokens, (sendTokens source target tokens net).Meets
      (fun _ _ => True) (fun _ after => after = { net with started := true }) :=
    fun _ _ _ => (meets_sendTokens hWell.wired).mono (fun _ _ _ => True.intro)
      fun _ _ hRefused => hRefused.2
  have hStart : ∀ name, (startSnapshot name net).Meets
      (fun _ _ => True) (fun _ after => after = { net with started := true }) :=
    fun _ => (meets_startSnapshot hWell).mono (fun _ _ _ => True.intro)
      fun _ _ hRefused => hRefused.2.2
  cases call with
  | addNode name tokens =>
      exact meets_unless_failed (fun _ => rfl) (meets_attempt.mono (fun _ _ _ => True.intro)
        fun _ _ hSame => hSame)
  | addLink source target =>
      exact meets_unless_failed (fun _ => rfl) (meets_attempt.mono (fun _ _ _ => True.intro)
        fun _ _ hSame => hSame)
  | send source target tokens => exact meets_unless_failed (fun _ => rfl) (hSend ..)
  | control event =>
      refine meets_unless_failed (fun _ => rfl) ?_
      cases event with
      | passToken source target tokens =>
          exact Action.meets_bind (hSend source target tokens) fun _ _ _ => True.intro
      | snapshot name => exact Action.meets_bind (hStart name) fun _ _ _ => True.intro
  | startSnapshot name => exact meets_unless_failed (fun _ => rfl) (hStart name)
  | tick =>
      exact meets_unless_failed (fun _ => rfl) ((meets_tick hWell).imp fun _ _ _ => True.intro)
  | receiveTime =>
      exact meets_unless_failed (fun _ => rfl) ((meets_receiveTime net).imp fun _ _ _ => True.intro)
  | notify report =>
      exact meets_unless_failed (fun _ => rfl) (Outcome.meets_self.mono (fun _ _ _ => True.intro)
        fun _ _ hRefused => notify_refused hRefused)
  | handle snapshot =>
      refine meets_unless_failed (fun _ => rfl) ?_
      unfold handle
      cases net.collectors.get? snapshot with
      | none => exact rfl
      | some collector => exact True.intro
  | tryCollect snapshot =>
      exact meets_collects_failed rfl (fun _ => rfl) (meets_tryCollect net snapshot)
  | collect snapshot =>
      exact meets_collects_failed rfl (fun _ => rfl) (meets_collect net snapshot)
  | release snapshot =>
      refine Action.meets_map ?_
      unfold release
      cases net.collectors.get? snapshot with
      | none => exact rfl
      | some collector =>
          dsimp only
          split
          · exact fun hNever => nomatch hNever
          · exact fun _ => rfl
  | abandon snapshots => exact Action.meets_map (Action.meets_update fun hNever => nomatch hNever)

/-- Whatever has been asked of a network before, reports from outside included: a call that comes to
nothing leaves it as it was, all of it, but that nothing can be added any more after tokens were to
be sent or a snapshot was to be started.  Nor has a node or a collector that refuses changed. -/
theorem failures_change_nothing {config : Config} {requests : List Request}
    {responses : List Response} {call : Call} {reply : Reply}
    (hBuilt : ofConfig config = .ok net) (hSession : net.session requests = .ok (responses, last))
    (hReply : last.reply call = .ok (reply, after)) (hFailed : reply.isFailure = true) :
    after = (if call.freezes then { last with started := true } else last) ∧
      (∀ amount target, (Node.send amount target).Atomic) ∧
      (∀ snapshot, (Node.startSnapshot snapshot).Atomic) ∧
      (∀ source message, (Node.receive source message).Atomic) ∧
      ∀ report, (Collector.accept report).Atomic := by
  have hAttained := (Attained.of_fresh (fresh_ofConfig hBuilt)).session hSession
  have hAfter : reply.isFailure = true → after = last.afterFailed call :=
    of_reply (P := fun reply after => reply.isFailure = true → after = last.afterFailed call)
      ((hAttained.wellFormed.meets_answer_failed call).mono (fun _ _ hSame => hSame)
        fun _ _ hSame _ => hSame) hReply
  exact ⟨hAfter hFailed, Node.atomic_send, Node.atomic_startSnapshot, Node.atomic_receive,
    Collector.atomic_accept⟩

/-- A node that is to send more than it holds refuses, and nothing can be added from then on.  A
second report of a node that has reported changes nothing at all. -/
theorem failures_change_nothing_pair :
    ∃ net responses last refusal repetition, ofConfig pairConfig = .ok net ∧
      net.started = false ∧
      net.reply (.send "A" "B" 9) = .ok (refusal, { net with started := true }) ∧
      net.session [.call (.startSnapshot "A"), .call (.notify ⟨0, "B", 7, []⟩)] =
        .ok (responses, last) ∧
      last.reply (.notify ⟨0, "B", 9, []⟩) = .ok (repetition, last) := by
  obtain ⟨net, responses, last, hBuilt, hSession, hCheck⟩ := exists_of_performed?
    (show (performed? pairConfig
        [.call (.startSnapshot "A"), .call (.notify ⟨0, "B", 7, []⟩)]).any (fun outcome =>
      decide (outcome.1.started = false) &&
      (outcome.1.reply (.send "A" "B" 9)).toOption.any (fun answered => answered.1.isFailure) &&
      (outcome.2.2.reply (.notify ⟨0, "B", 9, []⟩)).toOption.any fun answered =>
        answered.1.isFailure) = true by decide +kernel)
  simp only [Bool.and_eq_true, decide_eq_true_eq] at hCheck
  obtain ⟨⟨hOpen, hSend⟩, hNotify⟩ := hCheck
  obtain ⟨⟨first, sent⟩, hFirst, hShort⟩ := exists_of_toOption_any hSend
  obtain ⟨⟨second, noted⟩, hSecond, hRepeated⟩ := exists_of_toOption_any hNotify
  have hNothing : net.session [] = .ok ([], net) := rfl
  obtain ⟨rfl, -⟩ := failures_change_nothing hBuilt hNothing hFirst hShort
  obtain ⟨rfl, -⟩ := failures_change_nothing hBuilt hSession hSecond hRepeated
  exact ⟨net, responses, _, first, second, hBuilt, hOpen, hFirst, hSession, hSecond⟩

end Network
end TokenNet
