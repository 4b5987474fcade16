import TokenNet.Proofs.Twins
import TokenNet.Scenario.Session

namespace TokenNet

/-!
# Calls on twins

Nodes and links are added to twins alike if these then still are twins (`Network.Growing`).  Twins
with the same collectors (`Network.Congruence.Full`) take all reports alike, so that no call can
tell them apart (`Network.Congruence.Full.respects_answer`), and if they wait equally long for a
script to settle, no script can (`Network.Congruence.Full.respects_runScript`).  What no request can
tell apart, no session can (`Network.alike_session`).
-/

namespace Network

variable {σ τ υ α β : Type}

/-- What two computations have in common that cannot be told apart: they are cut short by the same
fault, or yield the same and leave related states. -/
def Alike (R : σ → τ → Prop) : Except Fault (α × σ) → Except Fault (α × τ) → Prop
  | .ok (value, state), .ok (same, other) => value = same ∧ R state other
  | .error fault, .error same => fault = same
  | _, _ => False

section Alike

variable {R R' : σ → τ → Prop} {first : Except Fault (α × σ)} {second : Except Fault (α × τ)}

/-- What is said of the states that are left may go by what was yielded. -/
theorem Alike.of_ok (hAlike : Alike R first second)
    (hWeak : ∀ value state other, first = .ok (value, state) → second = .ok (value, other) →
      R state other → R' state other) : Alike R' first second := by
  cases first <;> cases second <;> first | exact hAlike | exact hAlike.elim | skip
  rename_i yields other
  obtain ⟨value, state⟩ := yields
  obtain ⟨same, last⟩ := other
  obtain ⟨rfl, hRelated⟩ := hAlike
  exact ⟨rfl, hWeak value state last rfl rfl hRelated⟩

theorem Alike.mono (hAlike : Alike R first second)
    (hWeak : ∀ state other, R state other → R' state other) : Alike R' first second :=
  hAlike.of_ok fun _ state other _ _ => hWeak state other

theorem Alike.bind {next : α × σ → Except Fault (β × σ)} {next' : α × τ → Except Fault (β × τ)}
    (hFirst : Alike R first second)
    (hNext : ∀ value between final, R between final →
      Alike R (next (value, between)) (next' (value, final))) :
    Alike R (first >>= next) (second >>= next') := by
  cases first <;> cases second <;> first | exact hFirst | exact hFirst.elim | skip
  rename_i yields other
  obtain ⟨value, between⟩ := yields
  obtain ⟨same, final⟩ := other
  obtain ⟨rfl, hBetween⟩ := hFirst
  exact hNext value between final hBetween

theorem Alike.map (f : α → β) (hAlike : Alike R first second) :
    Alike R (first.map fun outcome => (f outcome.1, outcome.2))
      (second.map fun outcome => (f outcome.1, outcome.2)) := by
  cases first <;> cases second <;> first | exact hAlike | exact hAlike.elim | skip
  exact ⟨congrArg f hAlike.1, hAlike.2⟩

theorem Alike.symm (hAlike : Alike R first second) :
    Alike (fun other state => R state other) second first := by
  cases first <;> cases second <;> first | exact hAlike.elim | skip
  · exact Eq.symm hAlike
  · exact ⟨hAlike.1.symm, hAlike.2⟩

theorem Alike.trans {S : τ → υ → Prop} {T : σ → υ → Prop} {third : Except Fault (α × υ)}
    (hFirst : Alike R first second) (hSecond : Alike S second third)
    (hTrans : ∀ state twin last, R state twin → S twin last → T state last) :
    Alike T first third := by
  cases first <;> cases second <;> cases third <;>
    first | exact hFirst.elim | exact hSecond.elim | skip
  · exact Eq.trans hFirst hSecond
  · exact ⟨hFirst.1.trans hSecond.1, hTrans _ _ _ hFirst.2 hSecond.2⟩

/-- Two computations that have something in common with a third one have it in common with each
other. -/
theorem Alike.join {S : υ → τ → Prop} {T : σ → υ → Prop} {other : Except Fault (α × υ)}
    (hFirst : Alike R first second) (hSecond : Alike S other second)
    (hJoin : ∀ state twin last, R state last → S twin last → T state twin) :
    Alike T first other :=
  hFirst.trans hSecond.symm fun state last twin hState hTwin => hJoin state twin last hState hTwin

end Alike

variable {R : Network → Network → Prop} {net other : Network}

/-- What an action comes to that agrees with itself. -/
theorem alike_reply {call : Call} (hCall : Action.Respects R (answer call))
    (hRelated : R net other) : Alike R (net.reply call) (other.reply call) := by
  have hAgrees := hCall hRelated
  unfold reply
  cases hFirst : answer call net <;> cases hSecond : answer call other <;>
    rw [hFirst, hSecond] at hAgrees <;> first | exact hAgrees.elim | skip
  · exact ⟨congrArg _ hAgrees.1, hAgrees.2⟩
  · exact ⟨congrArg _ hAgrees.1, hAgrees.2⟩
  · exact hAgrees

/-- What no call can tell apart, no history can. -/
theorem alike_history (calls : List Call) (hCalls : ∀ call, Action.Respects R (answer call))
    (hRelated : R net other) : Alike R (net.history calls) (other.history calls) := by
  induction calls generalizing net other with
  | nil => exact ⟨rfl, hRelated⟩
  | cons call rest ih =>
      refine (alike_reply (hCalls call) hRelated).bind fun first between final hBetween => ?_
      exact (ih hBetween).bind fun later _ _ hLast => ⟨rfl, hLast⟩

theorem alike_respond {request : Request} (hCalls : ∀ call, Action.Respects R (answer call))
    (hScripts : ∀ commands, Action.Respects R (Scenario.runScript commands))
    (hRelated : R net other) : Alike R (net.respond request) (other.respond request) := by
  cases request with
  | call call =>
      exact (alike_reply (hCalls call) hRelated).bind fun reply _ _ hAfter => ⟨rfl, hAfter⟩
  | script commands =>
      have hAgrees := hScripts commands hRelated
      unfold respond
      cases hFirst : Scenario.runScript commands net <;>
        cases hSecond : Scenario.runScript commands other <;>
        rw [hFirst, hSecond] at hAgrees <;> simp only [hFirst, hSecond] <;>
        first | exact hAgrees.elim | skip
      · exact ⟨congrArg (Response.ran ∘ Except.ok) hAgrees.1, hAgrees.2⟩
      · exact ⟨congrArg (Response.ran ∘ Except.error) hAgrees.1, hAgrees.2⟩
      · exact hAgrees

/-- What no request can tell apart, no session can. -/
theorem alike_session {requests : List Request} (hCalls : ∀ call, Action.Respects R (answer call))
    (hScripts : ∀ commands, Action.Respects R (Scenario.runScript commands))
    (hRelated : R net other) : Alike R (net.session requests) (other.session requests) := by
  induction requests generalizing net other with
  | nil => exact ⟨rfl, hRelated⟩
  | cons request rest ih =>
      refine (alike_respond hCalls hScripts hRelated).bind fun first between final hBetween => ?_
      exact (ih hBetween).bind fun later _ _ hLast => ⟨rfl, hLast⟩

/-! ### Adding nodes and links -/

section Adding

variable {N : Node → Node → Prop} {K : Parts → Parts → Prop}

/-- Related nodes and parts stay so when nodes and links are added. -/
structure Growing (N : Node → Node → Prop) (K : Parts → Parts → Prop) : Prop where
  /-- A new node is related to itself. -/
  create : ∀ name tokens, N (Node.create name tokens) (Node.create name tokens)
  /-- Related nodes have links to the same receivers. -/
  outbound_eq : ∀ {node other}, N node other → node.outbound.keys = other.outbound.keys
  /-- Related nodes may be connected to the same receiver. -/
  addOutbound : ∀ {parts other node changed}, K parts other → N node changed → ∀ target,
    N (node.addOutbound target parts.links.size) (changed.addOutbound target other.links.size)
  /-- Related nodes may be connected to the same sender. -/
  addInbound : ∀ {parts other node changed}, K parts other → N node changed → ∀ source,
    N (node.addInbound source parts.links.size) (changed.addInbound source other.links.size)
  /-- The same link may be added to related parts. -/
  pushed : ∀ {parts other}, K parts other → ∀ link,
    K { parts with links := parts.links.push link } { other with links := other.links.push link }

/-- What two changes have in common that may be refused: both are, for the same cause, or they
lead to related networks. -/
def Agreeing (R : Network → Network → Prop) :
    Except NetworkError Network → Except NetworkError Network → Prop
  | .ok after, .ok final => R after final
  | .error error, .error same => error = same
  | _, _ => False

theorem respects_attempt {change : Network → Except NetworkError Network}
    (hChange : ∀ net other, R net other → Agreeing R (change net) (change other)) :
    Action.Respects R (attempt change) := by
  intro net other hRelated
  have hAgreeing := hChange net other hRelated
  unfold attempt
  cases hFirst : change net <;> cases hSecond : change other <;>
    rw [hFirst, hSecond] at hAgreeing <;> first | exact hAgreeing.elim | skip
  · exact ⟨hAgreeing, hRelated⟩
  · exact ⟨rfl, hAgreeing⟩

theorem agreeing_ite {condition : Prop} [Decidable condition] {same : NetworkError}
    {next final : Except NetworkError Network} (hNext : Agreeing R next final) :
    Agreeing R (if condition then .error same else next)
      (if condition then .error same else final) := by
  split
  · exact rfl
  · exact hNext

variable (hGrowing : Growing N K)
include hGrowing

theorem Growing.withNode (hTwins : Twins N K net other) (node : InitialNode) :
    Agreeing (Twins N K) (net.withNode node) (other.withNode node) := by
  unfold Network.withNode
  simp only [hTwins.started_eq, hTwins.contains_eq node.name]
  refine agreeing_ite (agreeing_ite (agreeing_ite ?_))
  exact { hTwins.insert (hGrowing.create node.name node.tokens) node.name with started_eq := rfl }

theorem Growing.connect {link : Link} {source target source' target' : Node}
    (hTwins : Twins N K net other) (hSource : N source source') (hTarget : N target target') :
    Twins N K (net.connect link source target) (other.connect link source' target') := by
  have hNodes := (hTwins.insert (hGrowing.addOutbound hTwins.parts hSource link.target)
    link.source).insert (hGrowing.addInbound hTwins.parts hTarget link.source) link.target
  refine { hNodes with channels_eq := ?_, parts := hGrowing.pushed hTwins.parts link }
  show net.channels.insert _ _ = other.channels.insert _ _
  rw [hTwins.channels_eq]

theorem Growing.withLink (hTwins : Twins N K net other) (link : Link) :
    Agreeing (Twins N K) (net.withLink link) (other.withLink link) := by
  unfold Network.withLink
  rw [hTwins.started_eq]
  apply agreeing_ite
  obtain ⟨hNone, hMissing⟩ | ⟨source, source', hFound, hOther, hSource⟩ :=
    hTwins.node_cases link.source
  · rw [hNone, hMissing]
    exact rfl
  rw [hFound, hOther]
  obtain ⟨hNone, hMissing⟩ | ⟨target, target', hFound, hOther, hTarget⟩ :=
    hTwins.node_cases link.target
  · rw [hNone, hMissing]
    exact rfl
  rw [hFound, hOther]
  have hKnown : source.outbound.contains link.target = source'.outbound.contains link.target := by
    rw [Bool.eq_iff_iff, SortedMap.contains_iff, SortedMap.contains_iff,
      hGrowing.outbound_eq hSource]
  simp only [hKnown]
  exact agreeing_ite (agreeing_ite (hGrowing.connect hTwins hSource hTarget))

theorem Growing.respects_addNode (name : String) (tokens : UInt64) :
    Action.Respects (Twins N K) (addNode name tokens) :=
  respects_attempt fun _ _ hTwins => hGrowing.withNode hTwins _

theorem Growing.respects_addLink (source target : String) :
    Action.Respects (Twins N K) (addLink source target) :=
  respects_attempt fun _ _ hTwins => hGrowing.withLink hTwins _

end Adding

/-! ### Twins with the same collectors -/

/-- Related parts have the same collectors, and whatever these become, they stay related. -/
structure Congruence.Full (N : Node → Node → Prop) (K : Parts → Parts → Prop) : Prop extends
    Congruence N K where
  /-- The same collectors are in use. -/
  collectors_eq : ∀ {parts other}, K parts other → parts.collectors = other.collectors
  /-- The same collectors have been taken away. -/
  retired_eq : ∀ {parts other}, K parts other → parts.retired = other.retired
  /-- The collectors may become anything. -/
  collected : ∀ {parts other} collectors retired, K parts other →
    K { parts with collectors := collectors, retired := retired }
      { other with collectors := collectors, retired := retired }

namespace Congruence.Full

variable {N : Node → Node → Prop} {K : Parts → Parts → Prop} (hFull : Full N K)
include hFull

theorem used_eq (hTwins : Twins N K net other) : net.collectors = other.collectors :=
  hFull.collectors_eq hTwins.parts

theorem taken_eq (hTwins : Twins N K net other) : net.retired = other.retired :=
  hFull.retired_eq hTwins.parts

/-- The collectors of twins change alike. -/
theorem changed {collectors collectors' retired retired' : SortedMap SnapshotId Collector}
    (hTwins : Twins N K net other) (hUsed : collectors = collectors') (hTaken : retired = retired') :
    Twins N K { net with collectors := collectors, retired := retired }
      { other with collectors := collectors', retired := retired' } := by
  subst hUsed hTaken
  exact { hTwins with parts := hFull.collected collectors retired hTwins.parts }

theorem outstanding_eq (hTwins : Twins N K net other) : net.outstanding = other.outstanding := by
  unfold outstanding
  rw [hFull.used_eq hTwins]

theorem collectorOf?_eq (hTwins : Twins N K net other) : net.collectorOf? = other.collectorOf? := by
  unfold collectorOf?
  rw [hFull.used_eq hTwins, hFull.taken_eq hTwins]

theorem twins_retire (hTwins : Twins N K net other) (snapshot : SnapshotId)
    (collector : Collector) :
    Twins N K (net.retire snapshot collector) (other.retire snapshot collector) :=
  hFull.changed hTwins (congrArg (SortedMap.erase · snapshot) (hFull.used_eq hTwins))
    (congrArg (SortedMap.insert · snapshot collector) (hFull.taken_eq hTwins))

theorem twins_abandon (hTwins : Twins N K net other) (snapshots : List SnapshotId) :
    Twins N K (abandon snapshots net) (abandon snapshots other) :=
  hFull.changed hTwins (congrArg (SortedMap.mapValues _) (hFull.used_eq hTwins))
    (hFull.taken_eq hTwins)

/-! ### Reports and snapshots -/

theorem respects_callCollector {α : Type} (snapshot : SnapshotId)
    (call : Action Collector NetworkError α) :
    Action.Respects (Twins N K) (callCollector snapshot call) := by
  intro net other hTwins
  have hUsed := hFull.used_eq hTwins
  unfold callCollector
  rw [hUsed]
  cases other.collectors.get? snapshot with
  | none => exact ⟨rfl, hTwins⟩
  | some collector =>
      cases hOutcome : call collector <;> simp only [hOutcome]
      · exact ⟨rfl, hFull.changed hTwins rfl (hFull.taken_eq hTwins)⟩
      · exact ⟨rfl, hTwins⟩
      · exact rfl

theorem respects_notify (report : Report) : Action.Respects (Twins N K) (notify report) := by
  refine (hFull.respects_callCollector _ _).bind fun complete => ?_
  exact (respects_record _).bind fun _ => Action.respects_pure complete

theorem respects_startSnapshot (name : String) :
    Action.Respects (Twins N K) (startSnapshot name) :=
  Network.respects_startSnapshot name (fun _ => hFull.toCongruence)
    (fun _ _ _ _ hTwins => hFull.changed hTwins (by rw [hFull.used_eq hTwins])
      (hFull.taken_eq hTwins))
    (fun _ report _ => hFull.respects_notify report) fun _ _ _ hParts => hParts

theorem respects_control (event : ControlEvent) :
    Action.Respects (Twins N K) (control event) := by
  cases event with
  | passToken source target tokens =>
      exact (hFull.respects_sendTokens source target tokens).bind fun _ => Action.respects_pure none
  | snapshot name =>
      exact (hFull.respects_startSnapshot name).bind fun _ => Action.respects_pure _

/-! ### Delivering -/

theorem respects_handOver (parcel : Parcel) : Action.Respects (Twins N K) (handOver parcel) :=
  fun _ _ hTwins => hFull.agrees_handOver hTwins fun _ _ _ _ _ report _ =>
    hFull.respects_notify report

theorem respects_deliver (parcel : Parcel) : Action.Respects (Twins N K) (deliver parcel) := by
  obtain ⟨source, target, message, due⟩ := parcel
  refine (respects_record _).bind fun _ => ?_
  cases message with
  | token amount => exact hFull.respects_handOver _
  | marker snapshot =>
      refine Action.Respects.read_bind (fun net other hTwins => ?_) fun stale => ?_
      · unfold isStale
        rw [hFull.used_eq hTwins]
      · refine Action.Respects.ite ?_ (hFull.respects_handOver _)
        exact (respects_reject source target snapshot).bind fun _ => Action.respects_pure []

theorem respects_tick : Action.Respects (Twins N K) tick := by
  refine Network.respects_tick (fun _ _ hTwins => hTwins) respects_freeze respects_advance
    (Network.respects_scan fun source net other hTwins => ?_)
  refine (respects_takeDue source hTwins).mono (fun due between final hBetween => ?_)
    fun _ _ _ hBetween => hBetween
  cases due with
  | none => exact hBetween
  | some parcel => exact hFull.respects_deliver parcel hBetween

theorem respects_pass (ticks : Nat) : Action.Respects (Twins N K) (pass ticks) := by
  induction ticks with
  | zero => exact Action.respects_pure ()
  | succ ticks ih => exact hFull.respects_tick.bind fun _ => ih

/-! ### Collecting -/

theorem respects_handle (snapshot : SnapshotId) :
    Action.Respects (Twins N K) (handle snapshot) := by
  intro net other hTwins
  unfold handle
  rw [hFull.used_eq hTwins]
  cases other.collectors.get? snapshot <;> exact ⟨rfl, hTwins⟩

theorem respects_tryCollect (snapshot : SnapshotId) :
    Action.Respects (Twins N K) (tryCollect snapshot) := by
  intro net other hTwins
  unfold tryCollect
  rw [hFull.used_eq hTwins]
  cases other.collectors.get? snapshot with
  | none => exact ⟨rfl, hTwins⟩
  | some collector =>
      cases hAssembled : collector.assemble? <;> simp only [hAssembled]
      · exact ⟨rfl, hTwins⟩
      · exact ⟨rfl, hFull.twins_retire hTwins snapshot collector⟩

theorem respects_collect (snapshot : SnapshotId) :
    Action.Respects (Twins N K) (collect snapshot) := by
  intro net other hTwins
  unfold collect
  rw [hFull.used_eq hTwins]
  cases other.collectors.get? snapshot with
  | none => exact ⟨rfl, hTwins⟩
  | some collector =>
      cases hWaiting : collector.wait <;> simp only [hWaiting]
      · exact ⟨rfl, hFull.twins_retire hTwins snapshot collector⟩
      · exact ⟨rfl, hTwins⟩
      · exact ⟨rfl, hTwins⟩

theorem respects_release (snapshot : SnapshotId) :
    Action.Respects (Twins N K) (release snapshot) := by
  intro net other hTwins
  unfold release
  rw [hFull.used_eq hTwins]
  cases other.collectors.get? snapshot with
  | none => exact ⟨rfl, hTwins⟩
  | some collector =>
      by_cases hComplete : collector.isComplete = true
      · simp only [hComplete, if_true]
        exact ⟨rfl, hFull.twins_retire hTwins snapshot collector⟩
      · simp only [hComplete]
        exact ⟨rfl, hTwins⟩

/-- No call can tell twins apart that have the same collectors. -/
theorem respects_answer (hGrowing : Growing N K) (call : Call) :
    Action.Respects (Twins N K) (answer call) := by
  cases call with
  | addNode name tokens => exact (hGrowing.respects_addNode name tokens).map _
  | addLink source target => exact (hGrowing.respects_addLink source target).map _
  | send source target tokens => exact (hFull.respects_sendTokens source target tokens).map _
  | control event => exact (hFull.respects_control event).map _
  | startSnapshot name => exact (hFull.respects_startSnapshot name).map _
  | tick => exact hFull.respects_tick.map _
  | receiveTime => exact hFull.respects_receiveTime.map _
  | notify report => exact (hFull.respects_notify report).map _
  | handle snapshot => exact (hFull.respects_handle snapshot).map _
  | tryCollect snapshot => exact (hFull.respects_tryCollect snapshot).map _
  | collect snapshot => exact (hFull.respects_collect snapshot).map _
  | release snapshot => exact (hFull.respects_release snapshot).map _
  | abandon snapshots =>
      exact (Action.respects_update fun _ _ hTwins => hFull.twins_abandon hTwins snapshots).map _

/-! ### Scripts -/

open Scenario

theorem respects_perform (command : Command) : Action.Respects (Twins N K) (perform command) := by
  cases command with
  | send source target tokens =>
      exact (hFull.respects_control _).bind fun _ => Action.respects_pure ()
  | snapshot name => exact (hFull.respects_control _).bind fun _ => Action.respects_pure ()
  | tick count => exact hFull.respects_pass _

theorem respects_performAll (commands : List Command) :
    Action.Respects (Twins N K) (performAll commands) := by
  induction commands with
  | nil => exact Action.respects_pure ()
  | cons command rest ih => exact (hFull.respects_perform command).bind fun _ => ih

theorem respects_settle (ticks : Nat) : Action.Respects (Twins N K) (settle ticks) := by
  induction ticks with
  | zero =>
      refine Action.Respects.read_bind (fun _ _ hTwins => hFull.outstanding_eq hTwins)
        fun outstanding => Action.Respects.ite (Action.respects_pure ()) ?_
      refine Action.Respects.read_bind (fun _ _ hTwins => hTwins.pending_eq) fun pending => ?_
      exact Action.Respects.ite (Action.respects_refuse _) (Action.respects_refuse _)
  | succ ticks ih =>
      refine Action.Respects.read_bind (fun _ _ hTwins => hFull.outstanding_eq hTwins)
        fun outstanding => Action.Respects.ite (Action.respects_pure ()) ?_
      refine Action.Respects.read_bind (fun _ _ hTwins => hTwins.pending_eq) fun pending => ?_
      refine Action.Respects.ite (Action.respects_refuse _) ?_
      exact (hFull.respects_tick.mapError _).bind fun _ => ih

theorem respects_collectAll (snapshots : List SnapshotId) :
    Action.Respects (Twins N K) (collectAll snapshots) := by
  induction snapshots with
  | nil => exact Action.respects_pure []
  | cons snapshot rest ih =>
      refine (hFull.respects_tryCollect snapshot).bind fun taken => ?_
      exact ih.bind fun later => Action.respects_pure _

/-- No script can tell twins apart that have the same collectors and wait equally long. -/
theorem respects_runScript
    (hBound : ∀ net other, Twins N K net other → net.settleBound = other.settleBound)
    (hMaxDelay : ∀ net other, Twins N K net other → net.maxDelay = other.maxDelay)
    (commands : List Command) : Action.Respects (Twins N K) (runScript commands) := by
  have hDrive : Action.Respects (Twins N K) (drive commands) := by
    refine ((hFull.respects_performAll commands).mapError _).bind fun _ => ?_
    refine Action.Respects.read_bind hBound fun bound => (hFull.respects_settle bound).bind fun _ => ?_
    exact Action.Respects.read_bind hMaxDelay fun maxDelay => (hFull.respects_pass _).mapError _
  intro net other hTwins
  have hOwn : ∀ between final, Twins N K between final →
      between.retainedFrom net.nextSnapshot = final.retainedFrom other.nextSnapshot := by
    intro between final hBetween
    unfold retainedFrom
    rw [hFull.used_eq hBetween, hTwins.nextSnapshot_eq]
  have hAgrees := hDrive hTwins
  unfold runScript
  cases hFirst : drive commands net <;> cases hSecond : drive commands other <;>
    rw [hFirst, hSecond] at hAgrees <;> first | exact hAgrees.elim | skip
  · dsimp only
    rw [hOwn _ _ hAgrees.2]
    exact (hFull.respects_collectAll _).mapError _ hAgrees.2
  · dsimp only
    rw [hOwn _ _ hAgrees.2]
    exact ⟨hAgrees.1, hFull.twins_abandon hAgrees.2 _⟩
  · exact hAgrees

end Congruence.Full

end Network

end TokenNet
