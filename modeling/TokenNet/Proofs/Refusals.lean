import TokenNet.Proofs.Objections

namespace TokenNet

/-!
# What comes of objections

A call is refused on behalf of a node only for what the node objects to, and that is then the last
objection of the call; of a call that is carried out, all objections are to markers that have been
seen before, and each of them has been counted (`Network.accountsFor_answer`).  None of this depends
on how the network has come about.
-/

/-- Whether a node has been sent a marker that it has seen before. -/
def NodeError.isRepetition : NodeError → Bool
  | .duplicateMarker _ _ _ => true
  | _ => false

/-- The cause of a refusal that is one of a node. -/
def NetworkError.cause? : NetworkError → Option NodeError
  | .node _ cause => some cause
  | _ => none

namespace Network

variable {α β : Type} {net : Network} {objections : List NodeError}

/-- What an outcome makes of objections.  If it is done, they are all to repetitions, and each has
been counted.  If it is refused on behalf of a node, the cause is the last of them, unless it is a
link that there is not, which the network finds out by itself. -/
def AccountsFor (net : Network) (objections : List NodeError)
    (outcome : Outcome Network NetworkError α) : Prop :=
  outcome.Meets
    (fun _ after => (∀ error ∈ objections, error.isRepetition = true) ∧
      net.rejected + objections.length ≤ after.rejected)
    (fun error _ => ∀ cause, error.cause? = some cause →
      (∃ source target, cause = .unknownDestination source target) ∨
        ∃ earlier, objections = earlier ++ [cause] ∧ ∀ other ∈ earlier, other.isRepetition = true)

/-- An action in the course of which no node objects. -/
def Unopposed (action : NetworkAction α) : Prop := ∀ net : Network, net.AccountsFor [] (action net)

/-- Nothing has been objected to if an action is done and no fewer markers are counted. -/
theorem accountsFor_done {value : α} {after : Network} (hCounted : net.rejected ≤ after.rejected) :
    net.AccountsFor [] (.done value after) :=
  ⟨List.forall_mem_nil _, hCounted⟩

/-- A refusal on behalf of no node accounts for everything. -/
theorem accountsFor_refused {error : NetworkError} {after : Network}
    (hOther : error.cause? = none) :
    net.AccountsFor objections (.refused error after : Outcome Network NetworkError α) :=
  fun _ hCause => absurd (hOther.symm.trans hCause) (Option.some_ne_none _).symm

/-! ### Combinators -/

/-- Objections of two actions one after another. -/
theorem AccountsFor.bind {first : NetworkAction α} {next : α → NetworkAction β}
    {later : α → Network → List NodeError} (hFirst : net.AccountsFor objections (first net))
    (hNext : ∀ value between, first net = .done value between →
      between.AccountsFor (later value between) (next value between)) :
    net.AccountsFor (objections ++ (first net).observed later) ((first >>= next) net) := by
  cases hOutcome : first net with
  | done value between =>
      rw [Action.bind_of_done hOutcome]
      obtain ⟨hRepetitions, hCounted⟩ := hFirst.of_done hOutcome
      refine (hNext value between hOutcome).mono ?_ ?_
      · rintro _ after ⟨hLater, hMore⟩
        refine ⟨List.forall_mem_append.mpr ⟨hRepetitions, hLater⟩, ?_⟩
        rw [Outcome.observed, List.length_append]
        omega
      · intro error _ hRefusal cause hCause
        refine (hRefusal cause hCause).imp_right ?_
        rintro ⟨earlier, hSplit, hEarlier⟩
        refine ⟨objections ++ earlier, ?_, List.forall_mem_append.mpr ⟨hRepetitions, hEarlier⟩⟩
        rw [Outcome.observed, hSplit, List.append_assoc]
  | refused error between =>
      rw [Action.bind_of_refused hOutcome]
      intro cause hCause
      rw [show (Outcome.refused error between).observed later = [] from rfl, List.append_nil]
      exact hFirst.of_refused hOutcome cause hCause
  | faulted fault =>
      show (Action.bind first next net).Meets _ _
      unfold Action.bind
      rw [hOutcome]
      exact True.intro

theorem Unopposed.accountsFor_bind {first : NetworkAction α} {next : α → NetworkAction β}
    {later : α → Network → List NodeError} (hFirst : Unopposed first)
    (hNext : ∀ value between, first net = .done value between →
      between.AccountsFor (later value between) (next value between)) :
    net.AccountsFor ((first net).observed later) ((first >>= next) net) :=
  (hFirst net).bind hNext

theorem AccountsFor.bind_unopposed {first : NetworkAction α} {next : α → NetworkAction β}
    (hFirst : net.AccountsFor objections (first net)) (hNext : ∀ value, Unopposed (next value)) :
    net.AccountsFor objections ((first >>= next) net) := by
  have hBoth := @AccountsFor.bind _ _ _ _ _ _ (fun _ _ => []) hFirst fun value between _ =>
    hNext value between
  have hNone : (first net).observed (fun _ _ => ([] : List NodeError)) = [] := by
    cases first net <;> rfl
  rwa [hNone, List.append_nil] at hBoth

theorem Unopposed.bind {first : NetworkAction α} {next : α → NetworkAction β}
    (hFirst : Unopposed first) (hNext : ∀ value, Unopposed (next value)) :
    Unopposed (first >>= next) :=
  fun net => (hFirst net).bind_unopposed hNext

theorem AccountsFor.map {action : NetworkAction α} (f : α → β)
    (hAction : net.AccountsFor objections (action net)) :
    net.AccountsFor objections ((f <$> action) net) :=
  Action.meets_map hAction

theorem unopposed_pure (value : α) : Unopposed (Pure.pure value) :=
  fun net => accountsFor_done (Nat.le_refl net.rejected)

theorem unopposed_read (view : Network → α) : Unopposed (Action.read view) :=
  fun net => accountsFor_done (Nat.le_refl net.rejected)

theorem unopposed_update {change : Network → Network}
    (hCounted : ∀ net, net.rejected ≤ (change net).rejected) : Unopposed (Action.update change) :=
  fun net => accountsFor_done (hCounted net)

theorem unopposed_ofExcept (result : Except Fault α) : Unopposed (Action.ofExcept result) := by
  intro net
  cases result with
  | ok value => exact accountsFor_done (Nat.le_refl net.rejected)
  | error fault => exact True.intro

/-! ### Where no node objects -/

theorem unopposed_freeze : Unopposed freeze := unopposed_update fun net => Nat.le_refl net.rejected

theorem unopposed_record (event : UInt64 → Event) : Unopposed (record event) :=
  unopposed_update fun net => Nat.le_refl net.rejected

theorem unopposed_reject (source target : String) (snapshot : SnapshotId) :
    Unopposed (reject source target snapshot) :=
  (unopposed_update fun net => Nat.le_succ net.rejected).bind fun _ => unopposed_record _

theorem unopposed_receiveTime : Unopposed receiveTime := by
  have hDraw : Unopposed drawDelay := fun net => accountsFor_done (Nat.le_refl net.rejected)
  refine (unopposed_read _).bind fun _ => (unopposed_ofExcept _).bind fun _ => ?_
  exact hDraw.bind fun _ => unopposed_ofExcept _

theorem unopposed_requireLink (link : Link) : Unopposed (requireLink link) := by
  intro net
  unfold requireLink
  split
  · exact accountsFor_done (Nat.le_refl net.rejected)
  · rintro _ ⟨⟩
    exact Or.inl ⟨_, _, rfl⟩

theorem unopposed_push (link : Link) (parcel : Parcel) : Unopposed (push link parcel) := by
  intro net
  unfold push
  cases net.channels.get? link with
  | none =>
      rintro _ ⟨⟩
      exact Or.inl ⟨_, _, rfl⟩
  | some channel =>
      cases hPushed : channel.push parcel with
      | error fault => simp only [hPushed]; exact True.intro
      | ok after => simp only [hPushed]; exact accountsFor_done (Nat.le_refl net.rejected)

theorem unopposed_enqueue (source target : String) (message : Message) :
    Unopposed (enqueue source target message) := by
  refine (unopposed_requireLink _).bind fun _ => unopposed_receiveTime.bind fun _ => ?_
  exact (unopposed_record _).bind fun _ => unopposed_push _ _

theorem unopposed_notify (report : Report) : Unopposed (notify report) := by
  have hAccept : Unopposed (callCollector report.snapshot (Collector.accept report)) := by
    intro net
    unfold callCollector
    cases net.collectors.get? report.snapshot with
    | none => exact accountsFor_refused rfl
    | some collector =>
        unfold Collector.accept
        simp only
        split_ifs
        · exact accountsFor_refused rfl
        · exact accountsFor_refused rfl
        · exact accountsFor_done (Nat.le_refl net.rejected)
  exact hAccept.bind fun _ => (unopposed_record _).bind fun _ => unopposed_pure _

theorem unopposed_applyEffects (name : String) (effects : List Effect) :
    Unopposed (applyEffects name effects) := by
  induction effects with
  | nil => exact unopposed_pure _
  | cons effect rest ih =>
      cases effect with
      | send target message => exact (unopposed_enqueue name target message).bind fun _ => ih
      | completed report =>
          exact (unopposed_notify report).bind fun _ => ih.bind fun _ => unopposed_pure _

theorem unopposed_announce (name : String) : Unopposed (announce name) := by
  have hRequire : Unopposed (requireNode name) := by
    intro net
    unfold requireNode
    split
    · exact accountsFor_done (Nat.le_refl net.rejected)
    · exact accountsFor_refused rfl
  have hAllocate : Unopposed allocate := by
    refine (unopposed_read _).bind fun _ => (unopposed_ofExcept _).bind fun _ => ?_
    refine Unopposed.bind (unopposed_update fun net => Nat.le_refl net.rejected) fun _ => ?_
    exact unopposed_pure _
  refine unopposed_freeze.bind fun _ => hRequire.bind fun _ => hAllocate.bind fun snapshot => ?_
  refine Unopposed.bind (unopposed_update fun net => Nat.le_refl net.rejected) fun _ => ?_
  exact (unopposed_record _).bind fun _ => unopposed_pure _

theorem unopposed_attempt {change : Network → Except NetworkError Network}
    (hSame : ∀ {net after}, change net = .ok after → after.rejected = net.rejected)
    (hOther : ∀ {net error}, change net = .error error → error.cause? = none) :
    Unopposed (attempt change) := by
  intro net
  unfold attempt
  cases hChange : change net with
  | ok after => exact accountsFor_done (Nat.le_of_eq (hSame hChange).symm)
  | error error => exact accountsFor_refused (hOther hChange)

/-- Nobody is asked whether a node may be added. -/
theorem unopposed_addNode (name : String) (tokens : UInt64) : Unopposed (addNode name tokens) := by
  refine unopposed_attempt (fun hAdd => ?_) fun {net error} hAdd => ?_
  · obtain ⟨-, -, rfl⟩ := withNode_eq_ok hAdd
    rfl
  · unfold withNode at hAdd
    split_ifs at hAdd <;> cases hAdd <;> rfl

/-- Nor whether a link may be. -/
theorem unopposed_addLink (source target : String) : Unopposed (addLink source target) := by
  refine unopposed_attempt (fun hAdd => ?_) fun {net error} hAdd => ?_
  · obtain ⟨-, _, _, -, -, -, -, rfl⟩ := withLink_eq_ok hAdd
    rfl
  · unfold withLink at hAdd
    cases hSource : net.nodes.get? source <;> cases hTarget : net.nodes.get? target <;>
      simp only [hSource, hTarget] at hAdd <;> split_ifs at hAdd <;> cases hAdd <;> rfl

theorem unopposed_handle (snapshot : SnapshotId) : Unopposed (handle snapshot) := by
  intro net
  unfold handle
  cases net.collectors.get? snapshot with
  | none => exact accountsFor_refused rfl
  | some collector => exact accountsFor_done (Nat.le_refl net.rejected)

theorem unopposed_tryCollect (snapshot : SnapshotId) : Unopposed (tryCollect snapshot) := by
  intro net
  unfold tryCollect
  cases net.collectors.get? snapshot with
  | none => exact accountsFor_refused rfl
  | some collector =>
      cases hAssembled : collector.assemble? <;> simp only [hAssembled] <;>
        exact accountsFor_done (Nat.le_refl net.rejected)

theorem unopposed_collect (snapshot : SnapshotId) : Unopposed (collect snapshot) := by
  intro net
  unfold collect
  cases net.collectors.get? snapshot with
  | none => exact accountsFor_refused rfl
  | some collector =>
      cases hWait : collector.wait <;> simp only [hWait]
      case abandoned => exact accountsFor_refused rfl
      all_goals exact accountsFor_done (Nat.le_refl net.rejected)

theorem unopposed_release (snapshot : SnapshotId) : Unopposed (release snapshot) := by
  intro net
  unfold release
  cases net.collectors.get? snapshot with
  | none => exact accountsFor_refused rfl
  | some collector =>
      by_cases hComplete : collector.isComplete = true <;> simp only [hComplete] <;>
        exact accountsFor_done (Nat.le_refl net.rejected)

theorem unopposed_takeDue (source : String) : Unopposed (takeDue source) := by
  intro net
  unfold takeDue
  cases net.firstDue? source <;> exact accountsFor_done (Nat.le_refl net.rejected)

theorem unopposed_advance : Unopposed advance := by
  refine (unopposed_read _).bind fun _ => (unopposed_ofExcept _).bind fun _ => ?_
  exact unopposed_update fun net => Nat.le_refl net.rejected

/-! ### Where a node is called -/

/-- Whether a node is there to be called, and what it objects to, only depends on the nodes. -/
theorem objection?_congr {other : Network} (hNodes : net.nodes = other.nodes) (name : String)
    (call : Action Node NodeError α) : net.objection? name call = other.objection? name call := by
  rw [objection?_eq, objection?_eq, hNodes]

/-- A call of a node accounts for what the node objects to. -/
theorem accountsFor_callNode (net : Network) (name : String) (call : Action Node NodeError α) :
    net.AccountsFor (net.objection? name call).toList (callNode name call net) := by
  rw [objection?_eq]
  unfold callNode
  cases net.nodes.get? name with
  | none => exact accountsFor_refused rfl
  | some node =>
      rw [Option.bind_some]
      cases hOutcome : call node <;> simp only [hOutcome]
      case done value after => exact accountsFor_done (Nat.le_refl net.rejected)
      case refused error after =>
          rintro _ ⟨⟩
          exact Or.inr ⟨[], rfl, List.forall_mem_nil _⟩
      case faulted fault => exact True.intro

/-- A message is handed over as its receiver objects to it: a marker that it has seen before is
counted, any other objection refuses, and without one the receiver is obeyed. -/
theorem handOver_eq (parcel : Parcel) (net : Network) :
    handOver parcel net =
      match net.objection? parcel.target (Node.receive parcel.source parcel.message) with
      | some (.duplicateMarker node source snapshot) =>
          (do reject source node snapshot; return []) net
      | some error => .refused (.node parcel.target error) net
      | none =>
          (callNode parcel.target (Node.receive parcel.source parcel.message) >>= fun effects =>
            applyEffects parcel.target effects) net := by
  have hObeyed : (callNode parcel.target (Node.receive parcel.source parcel.message) >>=
      fun effects => applyEffects parcel.target effects) net =
      match callNode parcel.target (Node.receive parcel.source parcel.message) net with
      | .done effects after => applyEffects parcel.target effects after
      | .refused error after => .refused error after
      | .faulted fault => .faulted fault := by
    show Action.bind _ _ net = _
    unfold Action.bind
    cases callNode parcel.target (Node.receive parcel.source parcel.message) net <;> rfl
  rw [objection?_eq, hObeyed]
  unfold handOver callNode
  cases net.nodes.get? parcel.target with
  | none => rfl
  | some node =>
      rw [Option.bind_some]
      cases hOutcome : Node.receive parcel.source parcel.message node <;> simp only [hOutcome]
      case done effects after => rfl
      case refused error after => cases error <;> rfl
      case faulted fault => rfl

theorem accountsFor_handOver (parcel : Parcel) (net : Network) :
    net.AccountsFor
      (net.objection? parcel.target (Node.receive parcel.source parcel.message)).toList
      (handOver parcel net) := by
  have hCalled := accountsFor_callNode net parcel.target (Node.receive parcel.source parcel.message)
  rw [handOver_eq]
  generalize net.objection? parcel.target (Node.receive parcel.source parcel.message) = objection?
    at hCalled
  split
  · exact ⟨by simp [NodeError.isRepetition], Nat.le_refl (net.rejected + 1)⟩
  · rintro _ ⟨⟩
    exact Or.inr ⟨[], rfl, List.forall_mem_nil _⟩
  · exact hCalled.bind_unopposed fun effects => unopposed_applyEffects _ effects

/-- A delivery accounts for what the receiver objects to, if the parcel reaches it. -/
theorem accountsFor_deliver (parcel : Parcel) (net : Network) :
    net.AccountsFor (net.objectionsAtDelivery parcel) (deliver parcel net) := by
  -- What is written down first makes no difference to the receiver.
  let noted := net.logged (.received net.tickNow parcel.source parcel.target parcel.message)
  have hNoted : net.objectionsAtDelivery parcel = noted.objectionsAtDelivery parcel := by
    unfold objectionsAtDelivery
    rw [objection?_congr (show net.nodes = noted.nodes from rfl)]
    rfl
  rw [hNoted]
  apply Action.meets_bind_of_done rfl
  obtain ⟨source, target, message, due⟩ := parcel
  cases message with
  | token amount => exact accountsFor_handOver ⟨source, target, .token amount, due⟩ noted
  | marker snapshot =>
      show noted.AccountsFor
        (if noted.isStale snapshot target then []
          else (noted.objection? target (Node.receive source (.marker snapshot))).toList)
        ((if noted.isStale snapshot target then (do reject source target snapshot; return [])
          else handOver ⟨source, target, .marker snapshot, due⟩ :
            NetworkAction (List SnapshotId)) noted)
      split
      · exact (unopposed_reject source target snapshot).bind (fun _ => unopposed_pure _) noted
      · exact accountsFor_handOver ⟨source, target, .marker snapshot, due⟩ noted

/-- A scan accounts for what the receivers object to. -/
theorem accountsFor_scan (names : List String) (net : Network) :
    net.AccountsFor (net.objectionsInScan names) (scan names net) := by
  induction names generalizing net with
  | nil => exact unopposed_pure _ net
  | cons source rest ih =>
      apply (unopposed_takeDue source).accountsFor_bind
      rintro due between -
      cases due with
      | none => exact ih between
      | some parcel =>
          refine (accountsFor_deliver parcel between).bind fun _ delivered _ => ?_
          exact (ih delivered).bind_unopposed fun _ => unopposed_pure _

theorem accountsFor_tick (net : Network) : net.AccountsFor net.objectionsToTick (tick net) := by
  unfold tick
  rw [← bind_assoc]
  apply (unopposed_freeze.bind fun _ => unopposed_advance).accountsFor_bind
  rintro _ advanced -
  apply Action.meets_bind_of_done rfl
  refine (accountsFor_scan advanced.nodeNames advanced).bind_unopposed fun _ => ?_
  exact (unopposed_read _).bind fun _ => unopposed_pure _

/-- To start a snapshot at several nodes accounts for what they object to. -/
theorem accountsFor_startAt (snapshot : SnapshotId) (names : List String) (net : Network) :
    net.AccountsFor (net.objectionsAtStart snapshot names) (startAt snapshot names net) := by
  induction names generalizing net with
  | nil => exact unopposed_pure _ net
  | cons name rest ih =>
      rw [startAt_cons]
      refine AccountsFor.bind ?_ fun _ between _ => ih between
      refine (accountsFor_callNode net name _).bind_unopposed fun effects => ?_
      exact (unopposed_applyEffects name effects).bind fun _ => unopposed_pure _

theorem accountsFor_startSnapshot (name : String) (net : Network) :
    net.AccountsFor (net.objectionsToSnapshot name) (startSnapshot name net) := by
  rw [startSnapshot_eq]
  apply (unopposed_announce name).accountsFor_bind
  rintro snapshot opened -
  apply Action.meets_bind_of_done rfl
  exact (accountsFor_startAt snapshot _ opened).bind_unopposed fun _ => unopposed_pure _

theorem accountsFor_sendTokens (source target : String) (tokens : UInt64) (net : Network) :
    net.AccountsFor (net.objectionsToSend source target tokens)
      (sendTokens source target tokens net) := by
  let frozen : Network := { net with started := true }
  have hFrozen : net.objectionsToSend source target tokens =
      frozen.objectionsToSend source target tokens :=
    congrArg Option.toList (objection?_congr (show net.nodes = frozen.nodes from rfl) source _)
  rw [hFrozen]
  apply Action.meets_bind_of_done rfl
  exact (accountsFor_callNode frozen source (Node.send tokens target)).bind_unopposed fun message =>
    unopposed_enqueue source target message

/-! ### Every call -/

/-- Every call accounts for what nodes object to in the course of it, in whatever network. -/
theorem accountsFor_answer (call : Call) (net : Network) :
    net.AccountsFor (net.objections call) (answer call net) := by
  cases call with
  | send source target tokens => exact (accountsFor_sendTokens source target tokens net).map _
  | control event =>
      cases event with
      | passToken source target tokens =>
          exact ((accountsFor_sendTokens source target tokens net).bind_unopposed
            fun _ => unopposed_pure _).map _
      | snapshot name =>
          exact ((accountsFor_startSnapshot name net).bind_unopposed fun _ => unopposed_pure _).map _
  | startSnapshot name => exact (accountsFor_startSnapshot name net).map _
  | tick => exact (accountsFor_tick net).map _
  | receiveTime => exact (unopposed_receiveTime net).map _
  | notify report => exact (unopposed_notify report net).map _
  | addNode name tokens => exact (unopposed_addNode name tokens net).map _
  | addLink source target => exact (unopposed_addLink source target net).map _
  | handle snapshot => exact (unopposed_handle snapshot net).map _
  | tryCollect snapshot => exact (unopposed_tryCollect snapshot net).map _
  | collect snapshot => exact (unopposed_collect snapshot net).map _
  | release snapshot => exact (unopposed_release snapshot net).map _
  | abandon snapshots =>
      have hGiven : Unopposed (Action.update (abandon snapshots)) :=
        unopposed_update fun net => Nat.le_refl net.rejected
      exact (hGiven net).map _

/-- A call that is refused on behalf of a node is so for the last thing that nodes object to, unless
there is no such link. -/
theorem mem_objections_of_refused {call : Call} {name : String} {error : NodeError} {after : Network}
    (hRefused : answer call net = .refused (.node name error) after) :
    (∃ source target, error = .unknownDestination source target) ∨ error ∈ net.objections call := by
  refine ((accountsFor_answer call net).of_refused hRefused error rfl).imp_right ?_
  rintro ⟨earlier, hSplit, -⟩
  rw [hSplit]
  exact List.mem_append_right _ List.mem_cons_self

/-- Of a call that is carried out, every objection has been counted. -/
theorem length_objections_le {call : Call} {value : Answer} {after : Network}
    (hDone : answer call net = .done value after) :
    net.rejected + (net.objections call).length ≤ after.rejected :=
  ((accountsFor_answer call net).of_done hDone).2

end Network

end TokenNet
