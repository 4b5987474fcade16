import TokenNet.Proofs.Overflows
import TokenNet.Proofs.Recordings

namespace TokenNet

/-!
# What nodes object to

A node may refuse what it is asked for.  Not every such refusal can be seen from outside: a marker
that its receiver refuses as a repetition is only counted.  `Network.objections` lists, in order, all
that nodes object to in the course of a call, seen or not.  Whatever the calls before were, reports
from outside included, a network that goes on from there is never refused by its own nodes: they
object to nothing but to being asked to send what they cannot
(`Network.never_fails_within`).
-/

section Observing

variable {σ ε α β : Type}

/-- Why an outcome is refused. -/
def Outcome.refusal? : Outcome σ ε α → Option ε
  | .refused error _ => some error
  | _ => none

/-- What is observed after an outcome, if it is done. -/
def Outcome.observed (observe : α → σ → List β) : Outcome σ ε α → List β
  | .done value state => observe value state
  | _ => []

theorem Outcome.Meets.refusal?_eq_none {outcome : Outcome σ ε α} {post : α → σ → Prop}
    (hMeets : outcome.Meets post Never) : outcome.refusal? = none := by
  cases outcome with
  | refused error state => exact hMeets.elim
  | _ => rfl

theorem Outcome.Meets.observed_eq_nil {outcome : Outcome σ ε α} {post : α → σ → Prop}
    {refusal : ε → σ → Prop} {observe : α → σ → List β} (hMeets : outcome.Meets post refusal)
    (hNothing : ∀ value state, post value state → observe value state = []) :
    outcome.observed observe = [] := by
  cases outcome with
  | done value state => exact hNothing value state hMeets
  | _ => rfl

end Observing

/-- Whether a node is short of a link or of tokens.  That is how it refuses to send; all other causes
are about messages that come or snapshots that it is to start. -/
def NodeError.isShortage : NodeError → Bool
  | .unknownDestination _ _ => true
  | .insufficientTokens _ _ _ => true
  | _ => false

/-- A node refuses to send only if it is short of a link or of tokens. -/
theorem Node.isShortage_of_send {node : Node} {target : String} {amount : UInt64} {error : NodeError}
    (hRefusal : (Node.send amount target node).refusal? = some error) : error.isShortage = true := by
  unfold Node.send at hRefusal
  split at hRefusal
  · cases hRefusal
    rfl
  · split at hRefusal
    · cases hRefusal
      rfl
    · cases hRefusal

namespace Network

variable {net between last : Network} {snapshot : SnapshotId} {name : String}

/-- Why the network is refused on behalf of a node when it calls it, if it is. -/
def objection? {α : Type} (net : Network) (name : String) (call : Action Node NodeError α) :
    Option NodeError :=
  match callNode name call net with
  | .refused (.node _ error) _ => some error
  | _ => none

/-- What nodes object to while they start a snapshot one after another. -/
def objectionsAtStart (snapshot : SnapshotId) : List String → Network → List NodeError
  | [], _ => []
  | name :: rest, net =>
      (net.objection? name (Node.startSnapshot snapshot)).toList ++
        (startAt snapshot [name] net).observed fun _ after => objectionsAtStart snapshot rest after

/-- What the receiver of a parcel objects to.  A marker that comes too late does not reach it. -/
def objectionsAtDelivery (parcel : Parcel) (net : Network) : List NodeError :=
  let received := net.objection? parcel.target (Node.receive parcel.source parcel.message)
  match parcel.message with
  | .token _ => received.toList
  | .marker snapshot => if net.isStale snapshot parcel.target then [] else received.toList

/-- What nodes object to while one due parcel of each sender is delivered in turn. -/
def objectionsInScan : List String → Network → List NodeError
  | [], _ => []
  | source :: rest, net =>
      (takeDue source net).observed fun due between =>
        match due with
        | none => objectionsInScan rest between
        | some parcel =>
            objectionsAtDelivery parcel between ++
              (deliver parcel between).observed fun _ delivered => objectionsInScan rest delivered

/-- What nodes object to while tokens are sent.  That nothing can be added any more is none of their
concern. -/
def objectionsToSend (source target : String) (tokens : UInt64) (net : Network) : List NodeError :=
  (net.objection? source (Node.send tokens target)).toList

/-- What nodes object to while a snapshot is started at a node. -/
def objectionsToSnapshot (name : String) (net : Network) : List NodeError :=
  (announce name net).observed fun snapshot opened =>
    objectionsAtStart snapshot (name :: opened.unreachableFrom name) opened

/-- What nodes object to while a tick passes. -/
def objectionsToTick (net : Network) : List NodeError :=
  ((do freeze; advance) net : Outcome Network NetworkError Unit).observed fun _ advanced =>
    objectionsInScan advanced.nodeNames advanced

/-- What nodes object to in the course of a call, in order.  All other calls ask no node. -/
def objections : Call → Network → List NodeError
  | .send source target tokens, net => objectionsToSend source target tokens net
  | .control (.passToken source target tokens), net => objectionsToSend source target tokens net
  | .control (.snapshot name), net => objectionsToSnapshot name net
  | .startSnapshot name, net => objectionsToSnapshot name net
  | .tick, net => objectionsToTick net
  | _, _ => []

/-- A node that exists objects exactly if it refuses the call. -/
theorem objection?_eq {α : Type} (net : Network) (name : String) (call : Action Node NodeError α) :
    net.objection? name call = (net.nodes.get? name).bind fun node => (call node).refusal? := by
  unfold objection? callNode Outcome.refusal?
  cases net.nodes.get? name with
  | none => rfl
  | some node => cases hAnswer : call node <;> simp [hAnswer]

theorem objection?_eq_none {α : Type} {node : Node} {call : Action Node NodeError α}
    {post : α → Node → Prop} (hNode : net.nodes.get? name = some node)
    (hMeets : (call node).Meets post Never) : net.objection? name call = none := by
  rw [objection?_eq, hNode, Option.bind_some, hMeets.refusal?_eq_none]

/-! ### Starting snapshots -/

/-- Nodes that can start a snapshot do not object to it. -/
theorem Ready.objectionsAtStart_eq_nil {names : List String} (hReady : net.Ready snapshot names)
    (hWell : net.WellFormed) : net.objectionsAtStart snapshot names = [] := by
  induction names generalizing net with
  | nil => rfl
  | cons name rest ih =>
      obtain ⟨hName, hIdle⟩ := hReady.idle name List.mem_cons_self
      obtain ⟨node, hNode⟩ := SortedMap.mem_keys_iff.mp hName
      obtain ⟨collector, hFound⟩ := hReady.found
      obtain ⟨hFresh, -⟩ := fresh_of_part?_eq_none hNode hFound hIdle
      have hStart : (Node.startSnapshot snapshot node).Meets (fun _ _ => True) Never :=
        Outcome.meets_of_done (Node.startSnapshot_eq_done hFresh) True.intro
      have hRest := (hReady.meets_startAt_one hWell).observed_eq_nil fun _ after hAfter =>
        ih hAfter.2.2 ((hAfter.1.change hWell).wellFormed hWell)
      unfold objectionsAtStart
      rw [objection?_eq_none hNode hStart, hRest]
      rfl

theorem WellFormed.objectionsToSnapshot_eq_nil (hWell : net.WellFormed) (name : String) :
    net.objectionsToSnapshot name = [] := by
  apply (meets_announce net name).observed_eq_nil
  rintro _ _ ⟨rfl, hName, next, hNext, rfl⟩
  exact (hWell.ready_announced hName).objectionsAtStart_eq_nil (hWell.announced name hNext)

/-! ### Delivering -/

/-- The receiver of what is taken off a channel does not object. -/
theorem Attained.objectionsAtDelivery_eq_nil {source : String} {parcel : Parcel}
    (hAttained : net.Attained) (hTake : takeDue source net = .done (some parcel) between) :
    between.objectionsAtDelivery parcel = [] := by
  have hWell := hAttained.wellFormed
  obtain ⟨rest, -, hQueue, -, rfl⟩ := takeDue_eq_done hWell.wired.sound hTake
  have hMember : parcel ∈ net.channels.queue parcel.link := hQueue ▸ List.mem_cons_self
  have hLink := ChannelTable.contains_of_mem_queue hMember
  obtain ⟨node, hNode⟩ := SortedMap.mem_keys_iff.mp (hWell.wired.target_known hLink)
  have hSource : parcel.source ∈ node.inbound.keys := (hWell.wired.mem_inbound_iff hNode).mpr hLink
  have hPopped : (net.popped parcel.link rest).nodes.get? parcel.target = some node := hNode
  obtain ⟨source, target, message, due⟩ := parcel
  unfold objectionsAtDelivery
  cases message with
  | token amount =>
      simp only
      rw [objection?_eq_none hPopped (Node.meets_receive_token hSource)]
      rfl
  | marker snapshot =>
      -- A marker under way is the only one that the receiver is to see from this source.
      have hUnseen : ¬ net.HasSeen snapshot target source := by
        obtain ⟨start, trace, hFresh, hRun⟩ := hAttained
        exact hRun.not_hasSeen_of_mem_queue hFresh hMember rfl
      have hReceive : (Node.receive source (.marker snapshot) node).Meets (fun _ _ => True) Never := by
        apply (Node.meets_receive_marker hSource).mono fun _ _ _ => True.intro
        rintro _ _ ⟨-, recording, hRecording, hSeen⟩
        exact hUnseen (keeps_of_get? hNode hRecording hSeen)
      simp only
      rw [objection?_eq_none hPopped hReceive]
      simp

/-- No receiver objects in a scan. -/
theorem Attained.objectionsInScan_eq_nil (hAttained : net.Attained) (names : List String) :
    net.objectionsInScan names = [] := by
  induction names generalizing net with
  | nil => rfl
  | cons source rest ih =>
      have hWell := hAttained.wellFormed
      apply (meets_takeDue net source).observed_eq_nil
      rintro due between ⟨hTake, hSame⟩
      cases due with
      | none =>
          obtain rfl := hSame rfl
          exact ih hAttained
      | some parcel =>
          have hRest := (meets_deliver hWell hTake).observed_eq_nil fun _ delivered hDelivered =>
            ih (hAttained.course hDelivered.course)
          simp only
          rw [hAttained.objectionsAtDelivery_eq_nil hTake, hRest]
          rfl

theorem Attained.objectionsToTick_eq_nil (hAttained : net.Attained) : net.objectionsToTick = [] := by
  have hFrozen := evolves_started net
  have hMoved : ((do freeze; advance) net : Outcome Network NetworkError Unit).Meets
      (fun _ advanced => Step { net with started := true } [] advanced) Never :=
    Action.meets_bind_of_done rfl (meets_advance _)
  apply hMoved.observed_eq_nil
  intro _ advanced hStep
  have hEvolves := hFrozen.trans (hStep.evolves inner_nil)
  exact (hAttained.course hEvolves.course).objectionsInScan_eq_nil advanced.nodeNames

/-! ### Every call -/

/-- Nodes object to nothing unless they are short of a link or of tokens. -/
theorem Attained.isShortage_of_mem (hAttained : net.Attained) {call : Call} {error : NodeError}
    (hError : error ∈ net.objections call) : error.isShortage = true := by
  have hSend : ∀ source target tokens, error ∈ net.objectionsToSend source target tokens →
      error.isShortage = true := by
    intro source target tokens hMember
    have hObjection := Option.mem_toList.mp hMember
    rw [objection?_eq] at hObjection
    obtain ⟨node, -, hRefusal⟩ := Option.bind_eq_some_iff.mp hObjection
    exact Node.isShortage_of_send hRefusal
  have hStart : ∀ name, error ∉ net.objectionsToSnapshot name := by
    simp [hAttained.wellFormed.objectionsToSnapshot_eq_nil]
  have hTick : error ∉ net.objectionsToTick := by simp [hAttained.objectionsToTick_eq_nil]
  cases call with
  | send source target tokens => exact hSend source target tokens hError
  | control event =>
      cases event with
      | passToken source target tokens => exact hSend source target tokens hError
      | snapshot name => exact absurd hError (hStart name)
  | startSnapshot name => exact absurd hError (hStart name)
  | tick => exact absurd hError hTick
  | _ => exact absurd hError List.not_mem_nil

theorem answer_of_reply_eq_error {call : Call} {fault : Fault}
    (hFault : net.reply call = .error fault) : answer call net = .faulted fault := by
  unfold reply at hFault
  cases hAnswer : answer call net <;> simp_all

/-- Calls that are cut short are so at the first or at a later one. -/
theorem history_cons_eq_error {call : Call} {rest : List Call} {fault : Fault}
    (hFault : net.history (call :: rest) = .error fault) :
    net.reply call = .error fault ∨
      ∃ first middle, net.reply call = .ok (first, middle) ∧ middle.history rest = .error fault := by
  unfold history at hFault
  rcases bind_eq_error_iff.mp hFault with hReply | ⟨⟨first, middle⟩, hReply, hMore⟩
  · exact Or.inl hReply
  · rcases bind_eq_error_iff.mp hMore with hRest | ⟨outcome, -, hBoth⟩
    · exact Or.inr ⟨first, middle, hReply, hRest⟩
    · cases hBoth

/-- Calls are cut short only if a sum does not fit. -/
theorem Attained.history_overflows {calls : List Call} {fault : Fault} (hAttained : net.Attained)
    (hFault : net.history calls = .error fault) : fault = .overflow := by
  induction calls generalizing net with
  | nil => cases hFault
  | cons call rest ih =>
      rcases history_cons_eq_error hFault with hFirst | ⟨first, middle, hReply, hRest⟩
      · exact (hAttained.overflows call fault (answer_of_reply_eq_error hFirst)).1
      · have hYields := yields_of_reply hAttained.wellFormed hReply
        exact ih (hAttained.course hYields.course) hRest

/-- What cannot go wrong from within, whatever is asked of a network next. -/
structure Unfailing (net : Network) : Prop where
  /-- A tick passes, unless a sum does not fit. -/
  tick : (∃ report after, tick net = .done report after) ∨
    tick net = .faulted .overflow ∧ (net.Exhausted ∨ UInt64.size ≤ net.wealth)
  /-- To start a snapshot is refused only at a node that does not exist. -/
  startSnapshot : ∀ name error after, startSnapshot name net = .refused error after →
    error = .nodeNotFound name ∧ name ∉ net.nodeNames
  /-- To send is refused only for want of the sender, of a link or of tokens. -/
  sendTokens : ∀ source target tokens error after,
    sendTokens source target tokens net = .refused error after →
      net.SendRefusal source target tokens error
  /-- Nodes object to nothing but to being asked to send what they cannot. -/
  objections : ∀ call, ∀ error ∈ net.objections call, error.isShortage = true
  /-- A call is cut short only if a sum does not fit. -/
  overflows : ∀ call, (answer call net).OverflowsOnlyIf (net.Exhausted ∨ UInt64.size ≤ net.wealth)

theorem Attained.unfailing (hAttained : net.Attained) : net.Unfailing := by
  have hWell := hAttained.wellFormed
  refine ⟨?_, fun name error after hRefused => ?_, fun source target tokens error after hRefused => ?_,
    fun call error => hAttained.isShortage_of_mem, hAttained.overflows⟩
  · cases hTick : tick net with
    | done report after => exact Or.inl ⟨report, after, rfl⟩
    | refused error after => exact ((meets_tick hWell).of_refused hTick).elim
    | faulted fault =>
        obtain ⟨rfl, hCause⟩ := hAttained.overflows .tick fault (Action.map_eq_faulted_iff.mpr hTick)
        exact Or.inr ⟨rfl, hCause⟩
  · obtain ⟨hError, hUnknown, -⟩ := (meets_startSnapshot hWell).of_refused hRefused
    exact ⟨hError, hUnknown⟩
  · exact ((meets_sendTokens hWell.wired).of_refused hRefused).1

/-- Nothing fails from within, whatever the calls are and in whatever order they come: they are cut
short only if a sum does not fit, and whatever they lead to goes on without fail. -/
theorem never_fails_within {config : Config} (hBuilt : ofConfig config = .ok net)
    (calls : List Call) :
    (∀ fault, net.history calls = .error fault → fault = .overflow) ∧
      ∀ replies last, net.history calls = .ok (replies, last) → last.Unfailing := by
  constructor
  · intro fault hFault
    exact (Attained.of_fresh (fresh_ofConfig hBuilt)).history_overflows hFault
  · intro replies last hHistory
    exact (attained_of_history hBuilt hHistory).unfailing

/-- Calls that start a snapshot and at once forge the reports of all nodes, of which only the first
takes part, and take the snapshot away, while its marker is on its way. -/
def hastyCalls : List Call :=
  [.addNode "C" 2, .addLink "B" "C", .send "A" "B" 1, .startSnapshot "A", .notify ⟨0, "A", 9, []⟩,
    .notify ⟨0, "B", 9, [⟨"A", "B", 4⟩]⟩, .notify ⟨0, "C", 0, []⟩, .tryCollect 0, .tick, .tick, .tick,
    .tick, .startSnapshot "B", .send "B" "C" 9, .tick]

/-- The marker is turned down when it comes, and the network cannot fail. -/
theorem never_fails_within_hasty :
    ∃ net replies last, ofConfig pairConfig = .ok net ∧
      net.history hastyCalls = .ok (replies, last) ∧
      (replies.filterMap Reply.snapshot?).length = 1 ∧ last.rejected = 1 ∧ last.Unfailing := by
  have hPlays : (played? pairConfig hastyCalls).any (fun outcome =>
      decide ((outcome.2.1.filterMap Reply.snapshot?).length = 1) &&
      decide (outcome.2.2.rejected = 1)) = true := by
    decide +kernel
  obtain ⟨net, replies, last, hBuilt, hHistory, hBoth⟩ := exists_of_played? hPlays
  rw [Bool.and_eq_true, decide_eq_true_eq, decide_eq_true_eq] at hBoth
  exact ⟨net, replies, last, hBuilt, hHistory, hBoth.1, hBoth.2,
    (never_fails_within hBuilt hastyCalls).2 replies last hHistory⟩

/-- Nodes do object to what no call makes of them: to tokens from no neighbour, and to a second
start. -/
example : (played? pairConfig (pairCalls.take 8)).map (fun outcome =>
    (outcome.2.2.objectionsAtDelivery ⟨"C", "A", .token 1, 0⟩,
      outcome.2.2.objectionsAtStart 0 ["A"])) =
    some ([.unknownSource "A" "C"], [.alreadyStarted "A" 0]) := by
  decide +kernel

end Network

end TokenNet
