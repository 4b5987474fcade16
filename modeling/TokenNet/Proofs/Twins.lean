import TokenNet.Network.Call
import TokenNet.Proofs.Agreement
import TokenNet.Proofs.Maps

namespace TokenNet

/-!
# Twin networks

Two networks are twins if they have the same clock, channels and journal, their nodes are related
one by one by `N`, and the rest, namely the generator, the links and the collectors, by `K`
(`Network.Twins N K`).  If nodes answer alike whenever `N` relates them, and the same delays are
drawn whenever `K` relates the generators (`Network.Congruence N K`), no traffic can tell twins
apart, as long as the reports that nodes hand in are taken alike.  Which reports these are is said
by `Congruence.agrees_handOver` and `Congruence.respects_startAt`.
-/

/-- Maps whose answers are related one by one have the same keys. -/
theorem SortedMap.keys_eq_of_rel {κ α β : Type} [LT κ] [DecidableLT κ] [DecidableEq κ] [KeyOrder κ]
    {r : α → β → Prop} {left : SortedMap κ α} {right : SortedMap κ β}
    (hRelated : ∀ key, Option.Rel r (left.get? key) (right.get? key)) : left.keys = right.keys := by
  apply keys_eq_of_mem_iff
  intro key
  have hKey := hRelated key
  rw [mem_keys_iff, mem_keys_iff]
  revert hKey
  generalize left.get? key = found
  generalize right.get? key = counterpart
  intro hKey
  cases hKey <;> simp

/-- Maps with the same keys have answers that are related one by one if their values are. -/
theorem SortedMap.rel_of_keys_eq {κ α β : Type} [LT κ] [DecidableLT κ] [DecidableEq κ] [KeyOrder κ]
    {r : α → β → Prop} {left : SortedMap κ α} {right : SortedMap κ β}
    (hKeys : left.keys = right.keys)
    (hValues : ∀ key value other, left.get? key = some value → right.get? key = some other →
      r value other) (key : κ) : Option.Rel r (left.get? key) (right.get? key) := by
  cases hLeft : left.get? key with
  | none =>
      rw [get?_eq_none_iff, hKeys, ← get?_eq_none_iff] at hLeft
      rw [hLeft]
      exact Option.Rel.none
  | some value =>
      obtain ⟨other, hRight⟩ := mem_keys_iff.mp (hKeys ▸ mem_keys_iff.mpr ⟨value, hLeft⟩)
      rw [hRight]
      exact Option.Rel.some (hValues key value other hLeft hRight)

namespace Node

variable {node after : Node} {snapshot : SnapshotId} {report : Report} {effects : List Effect}

/-- A node that takes part in a snapshot reports on no other one. -/
theorem snapshot_of_takePart {trigger : Option String}
    (hReport : .completed report ∈ (node.takePart snapshot trigger).1) :
    report.snapshot = snapshot := by
  have hNever : .completed report ∉
      node.outbound.keys.map fun target => Effect.send target (.marker snapshot) := by
    simp
  unfold takePart at hReport
  by_cases hEmpty : (node.freshRecording snapshot trigger).awaiting.isEmpty = true
  · rw [if_pos hEmpty] at hReport
    cases List.mem_singleton.mp ((List.mem_append.mp hReport).resolve_left hNever)
    rfl
  · rw [if_neg hEmpty] at hReport
    exact absurd hReport hNever

theorem meets_startSnapshot_reports :
    (startSnapshot snapshot node).Meets
      (fun effects _ => ∀ report, .completed report ∈ effects → report.snapshot = snapshot)
      (fun _ _ => True) := by
  unfold startSnapshot
  split
  · exact True.intro
  · exact fun report hReport => snapshot_of_takePart hReport

/-- Nobody reports when tokens come. -/
theorem effects_of_receive_token {source : String} {amount : UInt64}
    (hDone : receive source (.token amount) node = .done effects after) : effects = [] := by
  unfold receive receiveTokens at hDone
  split at hDone
  · cases hDone
  · simp only at hDone
    split at hDone
    · cases hDone
    · split at hDone <;> exact (Outcome.done.inj hDone).1.symm

end Node

namespace Network

/-- The parts of a network that twins need not share, the nodes apart. -/
structure Parts where
  /-- The generator of delays. -/
  generator : Generator
  /-- The bound on delays. -/
  maxDelay : UInt64
  /-- The links in the order in which they were added. -/
  links : Array Link
  /-- The collectors in use. -/
  collectors : SortedMap SnapshotId Collector
  /-- The collectors that have been taken away. -/
  retired : SortedMap SnapshotId Collector

/-- The parts of a network that its twins need not share. -/
def parts (net : Network) : Parts :=
  ⟨net.generator, net.maxDelay, net.links, net.collectors, net.retired⟩

/-- Two networks that are the same but for nodes that `N` relates and parts that `K` relates. -/
structure Twins (N : Node → Node → Prop) (K : Parts → Parts → Prop) (net other : Network) :
    Prop where
  /-- The time is the same. -/
  clock_eq : net.clock = other.clock
  /-- The same is under way. -/
  channels_eq : net.channels = other.channels
  /-- The same snapshots have been started. -/
  nextSnapshot_eq : net.nextSnapshot = other.nextSnapshot
  /-- The same has happened. -/
  journal_eq : net.journal = other.journal
  /-- The same number of markers has been turned down. -/
  rejected_eq : net.rejected = other.rejected
  /-- Something can be added to both or to none. -/
  started_eq : net.started = other.started
  /-- The nodes are related one by one. -/
  node : ∀ name, Option.Rel N (net.nodes.get? name) (other.nodes.get? name)
  /-- The other parts are related. -/
  parts : K net.parts other.parts

/-- What makes twins behave alike: related nodes answer alike and stay related, and related parts
draw the same delays and stay related. -/
structure Congruence (N : Node → Node → Prop) (K : Parts → Parts → Prop) : Prop where
  /-- Related nodes have links to the same receivers. -/
  outbound_eq : ∀ {node other}, N node other → node.outbound.keys = other.outbound.keys
  /-- Related nodes send alike. -/
  send : ∀ amount target, Action.Respects N (Node.send amount target)
  /-- Related nodes start snapshots alike. -/
  start : ∀ snapshot, Action.Respects N (Node.startSnapshot snapshot)
  /-- Related nodes receive alike. -/
  receive : ∀ source message, Action.Respects N (Node.receive source message)
  /-- The same delay is drawn. -/
  delay_eq : ∀ {parts other}, K parts other →
    (parts.generator.below parts.maxDelay).1 = (other.generator.below other.maxDelay).1
  /-- After a delay has been drawn, the parts are still related. -/
  drawn : ∀ {parts other}, K parts other →
    K { parts with generator := (parts.generator.below parts.maxDelay).2 }
      { other with generator := (other.generator.below other.maxDelay).2 }

variable {N : Node → Node → Prop} {K L : Parts → Parts → Prop} {net other : Network}

/-! ### What twins have in common -/

theorem Twins.mono (hTwins : Twins N K net other)
    (hWeak : K net.parts other.parts → L net.parts other.parts) : Twins N L net other :=
  { hTwins with parts := hWeak hTwins.parts }

theorem Twins.tickNow_eq (hTwins : Twins N K net other) : net.tickNow = other.tickNow :=
  congrArg Clock.tick hTwins.clock_eq

/-- A name stands for related nodes in twins, or for none in both. -/
theorem Twins.node_cases (hTwins : Twins N K net other) (name : String) :
    net.nodes.get? name = none ∧ other.nodes.get? name = none ∨
      ∃ node changed, net.nodes.get? name = some node ∧ other.nodes.get? name = some changed ∧
        N node changed := by
  have hNode := hTwins.node name
  revert hNode
  generalize net.nodes.get? name = found
  generalize other.nodes.get? name = counterpart
  intro hNode
  cases hNode with
  | none => exact Or.inl ⟨rfl, rfl⟩
  | some hRelated => exact Or.inr ⟨_, _, rfl, rfl, hRelated⟩

/-- Twins whose nodes are equal one by one have the same nodes. -/
theorem Twins.nodes_eq (hTwins : Twins Eq K net other) : net.nodes = other.nodes := by
  refine SortedMap.ext_get? fun name => ?_
  obtain ⟨hNone, hMissing⟩ | ⟨node, changed, hFound, hOther, hEqual⟩ := hTwins.node_cases name
  · rw [hNone, hMissing]
  · rw [hFound, hOther, hEqual]

/-- Networks with the same nodes have nodes that are equal one by one. -/
theorem node_of_nodes_eq (hNodes : net.nodes = other.nodes) (name : String) :
    Option.Rel Eq (net.nodes.get? name) (other.nodes.get? name) := by
  rw [hNodes]
  cases other.nodes.get? name with
  | none => exact Option.Rel.none
  | some node => exact Option.Rel.some rfl

theorem Twins.keys_eq (hTwins : Twins N K net other) : net.nodes.keys = other.nodes.keys :=
  SortedMap.keys_eq_of_rel hTwins.node

theorem Twins.contains_eq (hTwins : Twins N K net other) (name : String) :
    net.nodes.contains name = other.nodes.contains name := by
  rw [Bool.eq_iff_iff, SortedMap.contains_iff, SortedMap.contains_iff, hTwins.keys_eq]

theorem Twins.size_eq (hTwins : Twins N K net other) : net.nodes.size = other.nodes.size := by
  have hLength := congrArg List.length hTwins.keys_eq
  unfold SortedMap.keys at hLength
  rwa [List.length_map, List.length_map] at hLength

theorem Twins.pending_eq (hTwins : Twins N K net other) : net.pending = other.pending := by
  unfold pending
  rw [hTwins.channels_eq]

/-- Nodes of twins change alike. -/
theorem Twins.insert {node changed : Node} (hTwins : Twins N K net other)
    (hRelated : N node changed) (name : String) :
    Twins N K { net with nodes := net.nodes.insert name node }
      { other with nodes := other.nodes.insert name changed } := by
  refine { hTwins with node := fun asked => ?_ }
  show Option.Rel N ((net.nodes.insert name node).get? asked)
    ((other.nodes.insert name changed).get? asked)
  rw [SortedMap.get?_insert, SortedMap.get?_insert]
  split
  · exact Option.Rel.some hRelated
  · exact hTwins.node asked

/-! ### Actions that concern neither nodes nor parts -/

theorem respects_freeze : Action.Respects (Twins N K) freeze :=
  Action.respects_update fun _ _ hTwins => { hTwins with started_eq := rfl }

theorem respects_record (event : UInt64 → Event) : Action.Respects (Twins N K) (record event) := by
  refine Action.respects_update fun net other hTwins => { hTwins with journal_eq := ?_ }
  show net.journal.write (event net.tickNow) = other.journal.write (event other.tickNow)
  rw [hTwins.journal_eq, hTwins.tickNow_eq]

theorem respects_requireLink (link : Link) : Action.Respects (Twins N K) (requireLink link) := by
  intro net other hTwins
  unfold requireLink
  rw [hTwins.channels_eq]
  split <;> exact ⟨rfl, hTwins⟩

theorem respects_requireNode (name : String) : Action.Respects (Twins N K) (requireNode name) := by
  intro net other hTwins
  unfold requireNode
  rw [hTwins.contains_eq]
  split <;> exact ⟨rfl, hTwins⟩

theorem respects_push (link : Link) (parcel : Parcel) :
    Action.Respects (Twins N K) (push link parcel) := by
  intro net other hTwins
  unfold push
  rw [hTwins.channels_eq]
  cases other.channels.get? link with
  | none => exact ⟨rfl, hTwins⟩
  | some channel =>
      cases hPushed : channel.push parcel with
      | ok after =>
          simp only [hPushed]
          exact ⟨rfl, { hTwins with channels_eq := rfl }⟩
      | error fault =>
          simp only [hPushed]
          exact rfl

theorem respects_allocate : Action.Respects (Twins N K) allocate := by
  refine Action.Respects.read_bind (fun _ _ hTwins => hTwins.nextSnapshot_eq) fun snapshot => ?_
  refine (Action.respects_ofExcept _).bind fun next => ?_
  exact (Action.respects_update fun _ _ hTwins => { hTwins with nextSnapshot_eq := rfl }).bind
    fun _ => Action.respects_pure snapshot

theorem respects_reject (source target : String) (snapshot : SnapshotId) :
    Action.Respects (Twins N K) (reject source target snapshot) := by
  refine (Action.respects_update fun net other hTwins => ?_).bind fun _ => respects_record _
  exact { hTwins with rejected_eq := congrArg (· + 1) hTwins.rejected_eq }

theorem respects_takeDue (source : String) : Action.Respects (Twins N K) (takeDue source) := by
  intro net other hTwins
  have hSame : net.firstDue? source = other.firstDue? source := by
    unfold firstDue?
    rw [hTwins.channels_eq, hTwins.clock_eq]
  unfold takeDue
  rw [hSame]
  cases other.firstDue? source with
  | none => exact ⟨rfl, hTwins⟩
  | some found =>
      refine ⟨rfl, { hTwins with channels_eq := ?_ }⟩
      show net.channels.insert _ _ = other.channels.insert _ _
      rw [hTwins.channels_eq]

theorem respects_advance : Action.Respects (Twins N K) advance := by
  refine Action.Respects.read_bind (fun _ _ hTwins => hTwins.clock_eq) fun clock => ?_
  refine (Action.respects_ofExcept _).bind fun after => ?_
  exact Action.respects_update fun _ _ hTwins => { hTwins with clock_eq := rfl }

/-- A node is called alike in twins. -/
theorem respects_callNode {α : Type} {call : Action Node NodeError α} (name : String)
    (hCall : Action.Respects N call) : Action.Respects (Twins N K) (callNode name call) := by
  intro net other hTwins
  unfold callNode
  obtain ⟨hNone, hMissing⟩ | ⟨node, changed, hFound, hOther, hRelated⟩ := hTwins.node_cases name
  · rw [hNone, hMissing]
    exact ⟨rfl, hTwins⟩
  · rw [hFound, hOther]
    have hAgrees := hCall hRelated
    cases hFirst : call node <;> cases hSecond : call changed <;>
      rw [hFirst, hSecond] at hAgrees <;> simp only [hFirst, hSecond] <;>
      first | exact hAgrees.elim | skip
    · exact ⟨hAgrees.1, hTwins.insert hAgrees.2 name⟩
    · exact ⟨congrArg _ hAgrees.1, hTwins⟩
    · exact hAgrees

theorem meets_callNode {α : Type} {name : String} {call : Action Node NodeError α} {P : α → Prop}
    (hCall : ∀ node, net.nodes.get? name = some node →
      (call node).Meets (fun value _ => P value) fun _ _ => True) :
    (callNode name call net).Meets (fun value _ => P value) fun _ _ => True := by
  unfold callNode
  cases hFound : net.nodes.get? name with
  | none => exact True.intro
  | some node =>
      have hMeets := hCall node hFound
      cases hOutcome : call node <;> simp only [hOutcome]
      · exact hMeets.of_done hOutcome
      · exact True.intro
      · exact True.intro

namespace Congruence

variable (hCongruence : Congruence N K)
include hCongruence

/-! ### Sending -/

theorem respects_drawDelay : Action.Respects (Twins N K) drawDelay := fun _ _ hTwins =>
  ⟨hCongruence.delay_eq hTwins.parts, { hTwins with parts := hCongruence.drawn hTwins.parts }⟩

theorem respects_receiveTime : Action.Respects (Twins N K) receiveTime := by
  refine Action.Respects.read_bind (fun _ _ hTwins => hTwins.tickNow_eq) fun tick => ?_
  refine (Action.respects_ofExcept _).bind fun earliest => ?_
  exact hCongruence.respects_drawDelay.bind fun delay => Action.respects_ofExcept _

theorem respects_enqueue (source target : String) (message : Message) :
    Action.Respects (Twins N K) (enqueue source target message) := by
  refine (respects_requireLink _).bind fun _ => ?_
  refine hCongruence.respects_receiveTime.bind fun due => ?_
  exact (respects_record _).bind fun _ => respects_push _ _

theorem respects_sendTokens (source target : String) (tokens : UInt64) :
    Action.Respects (Twins N K) (sendTokens source target tokens) := by
  refine respects_freeze.bind fun _ => ?_
  exact (respects_callNode source (hCongruence.send tokens target)).bind fun message =>
    hCongruence.respects_enqueue source target message

/-- Effects are carried out alike if their reports are taken alike. -/
theorem respects_applyEffects {name : String} {effects : List Effect}
    (hNotify : ∀ report, .completed report ∈ effects →
      Action.Respects (Twins N K) (notify report)) :
    Action.Respects (Twins N K) (applyEffects name effects) := by
  induction effects with
  | nil => exact Action.respects_pure []
  | cons effect rest ih =>
      have hRest := ih fun report hReport => hNotify report (List.mem_cons_of_mem _ hReport)
      cases effect with
      | send target message =>
          exact (hCongruence.respects_enqueue name target message).bind fun _ => hRest
      | completed report =>
          refine (hNotify report List.mem_cons_self).bind fun complete => ?_
          exact hRest.bind fun later => Action.respects_pure _

/-! ### Starting snapshots -/

theorem successors_eq (hTwins : Twins N K net other) (name : String) :
    net.successors name = other.successors name := by
  unfold successors
  obtain ⟨hNone, hMissing⟩ | ⟨node, changed, hFound, hOther, hRelated⟩ := hTwins.node_cases name
  · rw [hNone, hMissing]
  · rw [hFound, hOther]
    exact hCongruence.outbound_eq hRelated

theorem explore_eq (hTwins : Twins N K net other) (steps : Nat) (seen : SortedSet String)
    (waiting : List String) : net.explore steps seen waiting = other.explore steps seen waiting := by
  induction steps generalizing seen waiting with
  | zero => rfl
  | succ steps ih =>
      cases waiting with
      | nil => rfl
      | cons name rest =>
          unfold explore
          rw [hCongruence.successors_eq hTwins]
          exact ih _ _

theorem unreachableFrom_eq (hTwins : Twins N K net other) (start : String) :
    net.unreachableFrom start = other.unreachableFrom start := by
  have hNames : net.nodeNames = other.nodeNames := hTwins.keys_eq
  unfold unreachableFrom reachableFrom
  rw [hNames, hTwins.size_eq, hCongruence.explore_eq hTwins]

/-- Nodes start a snapshot alike if its reports are taken alike. -/
theorem respects_startAt {snapshot : SnapshotId}
    (hNotify : ∀ report, report.snapshot = snapshot → Action.Respects (Twins N K) (notify report))
    (names : List String) : Action.Respects (Twins N K) (startAt snapshot names) := by
  induction names with
  | nil => exact Action.respects_pure ()
  | cons name rest ih =>
      intro net other hTwins
      have hReports : ∀ net : Network, (callNode name (Node.startSnapshot snapshot) net).Meets
          (fun effects _ => ∀ report, .completed report ∈ effects → report.snapshot = snapshot)
          (fun _ _ => True) := fun net =>
        meets_callNode fun _ _ => Node.meets_startSnapshot_reports
      refine Action.agrees_bind
        (((respects_callNode name (hCongruence.start snapshot) hTwins).and_meets (hReports net)
          (hReports other)).mono (fun _ _ _ hBoth => hBoth) fun _ _ _ hBoth => hBoth.1) ?_
      rintro effects between final ⟨hBetween, hEffects, -⟩
      have hApply : Action.Respects (Twins N K) (applyEffects name effects) :=
        hCongruence.respects_applyEffects fun report hReport =>
          hNotify report (hEffects report hReport)
      exact (hApply.bind fun _ => ih) hBetween

/-! ### Delivering -/

/-- A message is handed over alike if the reports that it leads to are taken alike. -/
theorem agrees_handOver {parcel : Parcel} (hTwins : Twins N K net other)
    (hNotify : ∀ node effects after, net.nodes.get? parcel.target = some node →
      Node.receive parcel.source parcel.message node = .done effects after →
      ∀ report, .completed report ∈ effects → Action.Respects (Twins N K) (notify report)) :
    (handOver parcel net).Agrees (handOver parcel other) (fun _ => Twins N K)
      (fun _ => Twins N K) := by
  have hReports : (callNode parcel.target (Node.receive parcel.source parcel.message) net).Meets
      (fun effects _ => ∀ report, .completed report ∈ effects →
        Action.Respects (Twins N K) (notify report)) (fun _ _ => True) :=
    meets_callNode fun node hNode => Outcome.meets_self.mono
      (fun effects after hDone => hNotify node effects after hNode hDone) fun _ _ _ => True.intro
  have hCalled := respects_callNode parcel.target
    (hCongruence.receive parcel.source parcel.message) hTwins
  unfold handOver
  cases hFirst : callNode parcel.target (Node.receive parcel.source parcel.message) net <;>
    cases hSecond : callNode parcel.target (Node.receive parcel.source parcel.message) other <;>
    rw [hFirst, hSecond] at hCalled <;> first | exact hCalled.elim | skip
  · obtain ⟨rfl, hBetween⟩ := hCalled
    exact hCongruence.respects_applyEffects (hReports.of_done hFirst) hBetween
  · obtain ⟨rfl, hBetween⟩ := hCalled
    rename_i error between final
    cases error with
    | node name cause =>
        cases cause with
        | duplicateMarker node source snapshot =>
            exact ((respects_reject source node snapshot).bind fun _ => Action.respects_pure [])
              hBetween
        | _ => exact ⟨rfl, hBetween⟩
    | _ => exact ⟨rfl, hBetween⟩
  · exact hCalled

/-- Tokens are delivered alike, since nobody reports when they come. -/
theorem agrees_deliver_token {source target : String} {amount due : UInt64}
    (hTwins : Twins N K net other) :
    (deliver ⟨source, target, .token amount, due⟩ net).Agrees
      (deliver ⟨source, target, .token amount, due⟩ other) (fun _ => Twins N K)
      (fun _ => Twins N K) := by
  refine Action.agrees_bind (respects_record _ hTwins) fun _ between final hBetween => ?_
  refine hCongruence.agrees_handOver hBetween fun node effects after hNode hDone report hReport => ?_
  rw [Node.effects_of_receive_token hDone] at hReport
  exact absurd hReport List.not_mem_nil

end Congruence

/-- A snapshot is started alike if opening it leads to parts related by `L` and reports on it are
taken alike from then on. -/
theorem respects_startSnapshot {L : SnapshotId → Parts → Parts → Prop} (name : String)
    (hOpen : ∀ snapshot, Congruence N (L snapshot))
    (hOpened : ∀ snapshot collector net other, Twins N K net other → Twins N (L snapshot)
      { net with collectors := net.collectors.insert snapshot collector }
      { other with collectors := other.collectors.insert snapshot collector })
    (hNotify : ∀ snapshot report, report.snapshot = snapshot →
      Action.Respects (Twins N (L snapshot)) (notify report))
    (hClosed : ∀ snapshot parts other, L snapshot parts other → K parts other) :
    Action.Respects (Twins N K) (startSnapshot name) := by
  refine respects_freeze.bind fun _ => (respects_requireNode name).bind fun _ => ?_
  refine respects_allocate.bind fun snapshot => ?_
  intro net other hTwins
  have hOpening : (openCollector snapshot net).Agrees (openCollector snapshot other)
      (fun _ => Twins N (L snapshot)) (fun _ => Twins N K) := by
    have hNames : SortedSet.ofKeys net.nodes = SortedSet.ofKeys other.nodes :=
      SortedSet.ofKeys_eq_of_keys_eq hTwins.keys_eq
    refine ⟨rfl, ?_⟩
    show Twins N (L snapshot) _
      { other with
        collectors := other.collectors.insert snapshot
          (Collector.create snapshot (SortedSet.ofKeys other.nodes)) }
    rw [← hNames]
    exact hOpened snapshot _ net other hTwins
  refine Action.agrees_bind hOpening fun _ opened twin hTwins => ?_
  have hRest : Action.Respects (Twins N (L snapshot)) (do
      record fun tick => .snapshotStarted tick name snapshot
      let others ← Action.read fun net => net.unreachableFrom name
      startAt snapshot (name :: others)
      return snapshot) := by
    refine (respects_record _).bind fun _ => ?_
    refine Action.Respects.read_bind
      (fun _ _ hTwins => (hOpen snapshot).unreachableFrom_eq hTwins name) fun others => ?_
    exact ((hOpen snapshot).respects_startAt (hNotify snapshot) _).bind
      fun _ => Action.respects_pure snapshot
  exact (hRest hTwins).mono (fun _ _ _ hLast => hLast.mono (hClosed snapshot _ _))
    fun _ _ _ hLast => hLast.mono (hClosed snapshot _ _)

/-- Twins scan alike if what comes off their channels is delivered alike. -/
theorem respects_scan {R : Network → Network → Prop}
    (hTake : ∀ source net other, R net other →
      (takeDue source net).Agrees (takeDue source other)
        (fun due between final => match due with
          | none => R between final
          | some parcel => (deliver parcel between).Agrees (deliver parcel final) (fun _ => R)
              fun _ => R)
        fun _ => R)
    (names : List String) : Action.Respects R (scan names) := by
  induction names with
  | nil => exact Action.respects_pure _
  | cons source rest ih =>
      intro net other hRelated
      refine Action.agrees_bind (hTake source net other hRelated) fun due between final hDue => ?_
      cases due with
      | none => exact ih hDue
      | some parcel =>
          refine Action.agrees_bind hDue fun completed delivered last hDelivered => ?_
          exact (ih.bind fun later => Action.respects_pure _) hDelivered

/-- A tick passes alike if its parts do. -/
theorem respects_tick {R : Network → Network → Prop}
    (hTwins : ∀ net other, R net other → Twins N K net other) (hFreeze : Action.Respects R freeze)
    (hAdvance : Action.Respects R advance) (hScan : ∀ names, Action.Respects R (scan names)) :
    Action.Respects R tick := by
  refine hFreeze.bind fun _ => hAdvance.bind fun _ => ?_
  refine Action.Respects.read_bind (fun _ _ hRelated => (hTwins _ _ hRelated).keys_eq) fun names => ?_
  refine (hScan names).bind fun _ => ?_
  exact Action.Respects.read_bind (fun _ _ hRelated => (hTwins _ _ hRelated).tickNow_eq)
    fun now => Action.respects_pure _

end Network

end TokenNet
