import TokenNet.Proofs.Outcome
import TokenNet.Proofs.Recording

namespace TokenNet

/-!
# A node takes part in each snapshot as if there were no other

A node keeps any number of recordings at a time, and one transfer may be written down in all of them.
What it does for one snapshot can be told without the others: `Solo` knows the balance and, while the
node takes part, the packets that have come since (`Solo.Window`), of which it is told after the fact
what has been collected and whose marker has arrived.  All that it is asked are the calls that move
tokens and those of the one snapshot (`Node.Call.about?`).  Whatever is asked of a node, its replies
and its recording are those of `Solo` (`Node.takes_part_alone`).
-/

/-! ### What is asked of a node -/

/-- A channel that is connected to a node. -/
inductive Attachment where
  /-- A channel that leads to a receiver. -/
  | outbound (target : String) (channel : Nat)
  /-- A channel that comes from a sender. -/
  | inbound (source : String) (channel : Nat)
deriving DecidableEq, Repr

namespace Attachment

/-- The receiver of a channel that leads away. -/
def target? : Attachment → Option String
  | outbound target _ => some target
  | inbound _ _ => none

/-- The sender of a channel that leads here. -/
def source? : Attachment → Option String
  | outbound _ _ => none
  | inbound source _ => some source

end Attachment

/-- Whether an effect has to do with a snapshot. -/
def Effect.Concerns (snapshot : SnapshotId) : Effect → Prop
  | send _ message => message.snapshot? = some snapshot
  | completed report => report.snapshot = snapshot

namespace Node

/-- Connects a channel to a node. -/
def attach (node : Node) : Attachment → Node
  | .outbound target channel => node.addOutbound target channel
  | .inbound source channel => node.addInbound source channel

/-- A node with the channels that are connected to it one after another. -/
def built (name : String) (tokens : UInt64) (attachments : List Attachment) : Node :=
  attachments.foldl attach (create name tokens)

/-- What can be asked of a node that may change it. -/
inductive Call where
  /-- Send tokens. -/
  | send (amount : UInt64) (target : String)
  /-- Start a snapshot. -/
  | start (snapshot : SnapshotId)
  /-- Receive a message. -/
  | receive (source : String) (message : Message)
deriving DecidableEq, Repr

/-- What a node answers: the message that it sends off, or what it asks of its network. -/
inductive Answer where
  /-- A message to be put on a channel. -/
  | message (message : Message)
  /-- What its network is to carry out. -/
  | effects (effects : List Effect)
deriving DecidableEq, Repr

/-- What becomes of a call: an answer, or why it is refused. -/
abbrev Reply : Type := Except NodeError Answer

/-- Makes a call. -/
def answer : Call → Action Node NodeError Answer
  | .send amount target => .message <$> send amount target
  | .start snapshot => .effects <$> startSnapshot snapshot
  | .receive source message => .effects <$> receive source message

/-- Makes calls one after another.  Yields what became of each, and the last state. -/
def history (calls : List Call) (node : Node) : Except Fault (List Reply × Node) :=
  Action.history answer calls node

end Node

/-! ### One snapshot -/

namespace Solo

/-- Something that comes to a node and bears on a snapshot. -/
inductive Packet where
  /-- Tokens. -/
  | token (source : String) (amount : UInt64)
  /-- The marker of the snapshot. -/
  | marker (source : String)
deriving DecidableEq, Repr

/-- The sender of a packet. -/
def Packet.source : Packet → String
  | token source _ => source
  | marker source => source

/-- The sender of a marker. -/
def Packet.marked? : Packet → Option String
  | token _ _ => none
  | marker source => some source

/-- A call that bears on a snapshot. -/
inductive Call where
  /-- Send tokens. -/
  | send (amount : UInt64) (target : String)
  /-- Start the snapshot. -/
  | start
  /-- Receive a packet. -/
  | receive (packet : Packet)
deriving DecidableEq, Repr

/-- What stays of a node: its name and its neighbours. -/
structure Site where
  /-- The name of the node. -/
  name : String
  /-- The receivers of the channels that lead away. -/
  targets : SortedSet String
  /-- The senders of the channels that lead here. -/
  sources : SortedSet String

/-- A node of the given name to which channels are connected. -/
def Site.of (name : String) (attachments : List Attachment) : Site where
  name := name
  targets := SortedSet.ofList (attachments.filterMap Attachment.target?)
  sources := SortedSet.ofList (attachments.filterMap Attachment.source?)

/-- What is known of a snapshot that the node takes part in. -/
structure Window where
  /-- The balance at the moment of entry. -/
  balance : UInt64
  /-- The sender of the marker that made the node enter, if one did. -/
  trigger : Option String
  /-- The packets that have come since, in order. -/
  packets : List Packet
deriving DecidableEq, Repr

/-- The transfer that a packet amounts to: tokens count, unless there are none or the marker of their
sender has arrived before. -/
def Packet.counts (receiver : String) (arrived : List String) : Packet → List Transfer
  | token source amount =>
      if source ∉ arrived ∧ 0 < amount then [⟨source, receiver, amount⟩] else []
  | marker _ => []

/-- The transfers that packets amount to, in order, if the markers of some senders have arrived
before. -/
def collect (receiver : String) : List String → List Packet → List Transfer
  | _, [] => []
  | arrived, packet :: rest => packet.counts receiver arrived ++
      collect receiver (arrived ++ packet.marked?.toList) rest

namespace Window

variable (site : Site) (snapshot : SnapshotId) (window : Window)

/-- Whose marker has arrived. -/
def arrived : List String := window.trigger.toList ++ window.packets.filterMap Packet.marked?

/-- The transfers that count. -/
def collected : List Transfer := collect site.name window.trigger.toList window.packets

/-- Whose marker has not arrived. -/
def awaits : List String := site.sources.members.filter fun source => source ∉ window.arrived

/-- What is known after one more packet. -/
def after (packet : Packet) : Window := { window with packets := window.packets ++ [packet] }

/-- What the node keeps of it. -/
def recording : Recording where
  snapshot := snapshot
  balance := window.balance
  seen := SortedSet.ofList window.arrived
  awaiting := site.sources.filter fun source _ => source ∉ window.arrived
  inFlight := window.collected site

/-- What the node reports of it. -/
def report : Report := ⟨snapshot, site.name, window.balance, window.collected site⟩

end Window

end Solo

/-- What is to be known of a node for one snapshot. -/
structure Solo where
  /-- The tokens that it holds. -/
  tokens : UInt64
  /-- What is known of the snapshot while the node takes part. -/
  window : Option Solo.Window
deriving DecidableEq, Repr

namespace Solo

variable (site : Site) (snapshot : SnapshotId)

/-- Goes on with what is known of the snapshot, or reports it once nobody is awaited. -/
def settle (window : Window) (solo : Solo) : List Effect × Solo :=
  if window.awaits site = [] then
    ([.completed (window.report site snapshot)], { solo with window := none })
  else ([], { solo with window := some window })

/-- Enters: one marker goes to each receiver, in the order of their names, and the report follows at
once if nobody is awaited. -/
def enter (trigger : Option String) (solo : Solo) : List Effect × Solo :=
  ((site.targets.members.map fun target => .send target (.marker snapshot)) ++
      (solo.settle site snapshot ⟨solo.tokens, trigger, []⟩).1,
    (solo.settle site snapshot ⟨solo.tokens, trigger, []⟩).2)

/-- Sends tokens. -/
def send (amount : UInt64) (target : String) : Action Solo NodeError Message := fun solo =>
  if target ∉ site.targets.members then .refused (.unknownDestination site.name target) solo
  else if solo.tokens < amount then
    .refused (.insufficientTokens site.name amount solo.tokens) solo
  else .done (.token amount) { solo with tokens := solo.tokens - amount }

/-- Starts the snapshot. -/
def start : Action Solo NodeError (List Effect) := fun solo =>
  match solo.window with
  | some _ => .refused (.alreadyStarted site.name snapshot) solo
  | none => .done (solo.enter site snapshot none).1 (solo.enter site snapshot none).2

/-- Receives tokens. -/
def receiveTokens (source : String) (amount : UInt64) : Action Solo NodeError (List Effect) :=
  fun solo =>
    match checkedAdd solo.tokens amount with
    | .error fault => .faulted fault
    | .ok tokens => .done [] ⟨tokens, solo.window.map (Window.after · (.token source amount))⟩

/-- Receives the marker of the snapshot. -/
def receiveMarker (source : String) : Action Solo NodeError (List Effect) := fun solo =>
  match solo.window with
  | none => .done (solo.enter site snapshot (some source)).1 (solo.enter site snapshot (some source)).2
  | some window =>
      if source ∈ window.arrived then .refused (.duplicateMarker site.name source snapshot) solo
      else
        .done (solo.settle site snapshot (window.after (.marker source))).1
          (solo.settle site snapshot (window.after (.marker source))).2

/-- Receives a packet.  The sender has to be a neighbour. -/
def receive (packet : Packet) : Action Solo NodeError (List Effect) := fun solo =>
  if packet.source ∉ site.sources.members then
    .refused (.unknownSource site.name packet.source) solo
  else
    match packet with
    | .token source amount => receiveTokens source amount solo
    | .marker source => receiveMarker site snapshot source solo

/-- What a node does about one snapshot. -/
def answer : Call → Action Solo NodeError Node.Answer
  | .send amount target => .message <$> send site amount target
  | .start => .effects <$> start site snapshot
  | .receive packet => .effects <$> receive site snapshot packet

end Solo

/-- What a call on a node has to do with a snapshot: it moves tokens, or it is the start of the
snapshot, or its marker. -/
def Node.Call.about? (snapshot : SnapshotId) : Node.Call → Option Solo.Call
  | .send amount target => some (.send amount target)
  | .start other => if other = snapshot then some .start else none
  | .receive source (.token amount) => some (.receive (.token source amount))
  | .receive source (.marker other) =>
      if other = snapshot then some (.receive (.marker source)) else none

/-- Whether a reply has nothing to do with a snapshot. -/
def Node.Reply.Apart (snapshot : SnapshotId) : Node.Reply → Prop
  | .ok (.message message) => message.snapshot? ≠ some snapshot
  | .ok (.effects effects) => ∀ effect ∈ effects, ¬ effect.Concerns snapshot
  | .error _ => True

/-- The replies to calls agree with those that are expected to the calls that have to do with a
snapshot; all others have nothing to do with it. -/
inductive Node.Agree (snapshot : SnapshotId) :
    List Node.Call → List Node.Reply → List Node.Reply → Prop where
  /-- Nothing has been asked. -/
  | nil : Agree snapshot [] [] []
  /-- A call that has to do with the snapshot is replied to as expected. -/
  | about {call : Node.Call} {reply : Node.Reply} {calls : List Node.Call}
      {replies expected : List Node.Reply} (hAbout : (call.about? snapshot).isSome = true)
      (hRest : Agree snapshot calls replies expected) :
      Agree snapshot (call :: calls) (reply :: replies) (reply :: expected)
  /-- The reply to any other call has nothing to do with the snapshot. -/
  | apart {call : Node.Call} {reply : Node.Reply} {calls : List Node.Call}
      {replies expected : List Node.Reply} (hAbout : call.about? snapshot = none)
      (hApart : Node.Reply.Apart snapshot reply) (hRest : Agree snapshot calls replies expected) :
      Agree snapshot (call :: calls) (reply :: replies) expected

/-! ### What is known of a snapshot and what is kept of it -/

namespace Solo

variable {site : Site} {snapshot : SnapshotId} {window : Window} {source : String}

/-- A packet that comes later counts if the marker of its sender has not arrived by then. -/
theorem collect_concat (receiver : String) (arrived : List String) (packets : List Packet)
    (packet : Packet) : collect receiver arrived (packets ++ [packet]) =
      collect receiver arrived packets ++
        packet.counts receiver (arrived ++ packets.filterMap Packet.marked?) := by
  induction packets generalizing arrived with
  | nil =>
      rw [List.filterMap_nil, List.append_nil]
      exact List.append_nil _
  | cons first rest ih =>
      have hArrived : arrived ++ (first :: rest).filterMap Packet.marked? =
          arrived ++ first.marked?.toList ++ rest.filterMap Packet.marked? := by
        cases first <;> simp [Packet.marked?, List.filterMap_cons]
      rw [hArrived, List.cons_append]
      unfold collect
      rw [ih, List.append_assoc (first.counts receiver arrived)]

namespace Window

/-- At the moment of entry no other marker has arrived than the one that made the node enter. -/
theorem arrived_entry (balance : UInt64) (trigger : Option String) :
    (Window.mk balance trigger []).arrived = trigger.toList :=
  List.append_nil _

theorem arrived_after_marker (window : Window) (source : String) :
    (window.after (.marker source)).arrived = window.arrived ++ [source] := by
  unfold arrived after
  rw [List.filterMap_append, ← List.append_assoc]
  rfl

theorem arrived_after_token (window : Window) (source : String) (amount : UInt64) :
    (window.after (.token source amount)).arrived = window.arrived := by
  unfold arrived after
  rw [List.filterMap_append]
  exact congrArg (window.trigger.toList ++ ·) (List.append_nil _)

theorem collected_after (site : Site) (window : Window) (packet : Packet) :
    (window.after packet).collected site =
      window.collected site ++ packet.counts site.name window.arrived :=
  collect_concat ..

theorem keys_awaiting (site : Site) (snapshot : SnapshotId) (window : Window) :
    (window.recording site snapshot).awaiting.keys = window.awaits site :=
  site.sources.keys_filter _

theorem mem_awaits_iff : source ∈ window.awaits site ↔
    source ∈ site.sources.members ∧ source ∉ window.arrived := by
  unfold awaits
  rw [List.mem_filter, decide_eq_true_iff]

/-- A recording sorts the senders into those whose marker has arrived and the others. -/
theorem sound_recording (hArrived : window.arrived ⊆ site.sources.members) :
    (window.recording site snapshot).Sound snapshot site.sources.members := by
  have hSeen : ∀ {name}, name ∈ (window.recording site snapshot).seen.keys ↔ name ∈ window.arrived :=
    SortedSet.mem_members_ofList
  refine ⟨rfl, fun {name} => ?_, fun {name} hName hAwaited => ?_⟩
  · rw [hSeen, keys_awaiting, mem_awaits_iff]
    by_cases hName : name ∈ window.arrived
    · exact ⟨fun _ => Or.inl hName, fun _ => hArrived hName⟩
    · exact ⟨fun hSource => Or.inr ⟨hSource, hName⟩, fun hEither => (hEither.resolve_left hName).1⟩
  · rw [keys_awaiting, mem_awaits_iff] at hAwaited
    exact hAwaited.2 (hSeen.mp hName)

/-- Tokens are written down if the marker of their sender has not arrived. -/
theorem recording_after_token (hSource : source ∈ site.sources.members) (amount : UInt64) :
    (window.after (.token source amount)).recording site snapshot =
      if 0 < amount then (window.recording site snapshot).note ⟨source, site.name, amount⟩
      else window.recording site snapshot := by
  have hAwaits : (window.recording site snapshot).awaiting.contains source = true ↔
      source ∉ window.arrived := by
    rw [SortedMap.contains_iff, keys_awaiting, mem_awaits_iff, and_iff_right hSource]
  have hAfter : (window.after (.token source amount)).recording site snapshot =
      Recording.mk snapshot window.balance (SortedSet.ofList window.arrived)
        (window.recording site snapshot).awaiting (window.collected site ++
          (Packet.token source amount).counts site.name window.arrived) := by
    unfold recording
    rw [collected_after, arrived_after_token]
    rfl
  by_cases hBoth : source ∉ window.arrived ∧ 0 < amount
  · have hCounts : (Packet.token source amount).counts site.name window.arrived =
        [⟨source, site.name, amount⟩] := if_pos hBoth
    unfold Recording.note
    rw [hAfter, hCounts, if_pos hBoth.2, if_pos (hAwaits.mpr hBoth.1)]
    rfl
  · have hCounts : (Packet.token source amount).counts site.name window.arrived = [] := if_neg hBoth
    have hSame : (window.after (.token source amount)).recording site snapshot =
        window.recording site snapshot := by
      rw [hAfter, hCounts, List.append_nil]
      rfl
    rw [hSame]
    split
    · next hAmount =>
      unfold Recording.note
      rw [if_neg fun hOpen => hBoth ⟨hAwaits.mp hOpen, hAmount⟩]
    · rfl

/-- A marker that arrives is not awaited any more. -/
theorem recording_after_marker (site : Site) (snapshot : SnapshotId) (window : Window)
    (source : String) : (window.after (.marker source)).recording site snapshot =
      (window.recording site snapshot).see source := by
  have hCollected : (window.after (.marker source)).collected site = window.collected site :=
    (collected_after site window (.marker source)).trans (List.append_nil _)
  have hSeen : SortedSet.ofList (window.after (.marker source)).arrived =
      (SortedSet.ofList window.arrived).add source := by
    rw [arrived_after_marker]
    exact List.foldl_concat ..
  have hAwaiting : (site.sources.filter fun other _ => other ∉ (window.after (.marker source)).arrived) =
      (site.sources.filter fun other _ => other ∉ window.arrived).erase source := by
    apply SortedMap.toList_inj.mp
    unfold SortedMap.erase
    rw [SortedMap.toList_filter, SortedMap.toList_filter, SortedMap.toList_filter, List.filter_filter,
      arrived_after_marker]
    exact List.filter_congr fun entry _ => by simp [and_comm]
  unfold recording Recording.see
  rw [hCollected, hSeen, hAwaiting]
  rfl

end Window

end Solo

/-! ### A node, and what is known of it for one snapshot -/

namespace Node

open Solo (Site Window Packet)

/-- For one snapshot a node is what is known of it without the others. -/
structure Mirrors (site : Site) (snapshot : SnapshotId) (solo : Solo) (node : Node) : Prop where
  /-- The name is the same. -/
  name_eq : node.name = site.name
  /-- Channels lead to the same receivers. -/
  targets_eq : node.outbound.keys = site.targets.members
  /-- Channels come from the same senders. -/
  sources_eq : node.inbound.keys = site.sources.members
  /-- The balance is the same. -/
  tokens_eq : node.tokens = solo.tokens
  /-- The node keeps a recording as long as it takes part. -/
  recording_eq : node.recordings.get? snapshot = solo.window.map (Window.recording site snapshot)
  /-- Markers arrive from neighbours only. -/
  arrived_known : ∀ window, solo.window = some window → window.arrived ⊆ site.sources.members
  /-- The node takes part as long as somebody is awaited. -/
  awaits_some : ∀ window, solo.window = some window → window.awaits site ≠ []

/-- A node and what is known of it do the same, and it stays what is known of it. -/
inductive Alike (site : Site) (snapshot : SnapshotId) {α : Type} :
    Outcome Node NodeError α → Outcome Solo NodeError α → Prop where
  /-- They give the same answer. -/
  | done {value : α} {node : Node} {solo : Solo} (hMirrors : node.Mirrors site snapshot solo) :
      Alike site snapshot (.done value node) (.done value solo)
  /-- They refuse for the same cause. -/
  | refused {error : NodeError} {node : Node} {solo : Solo}
      (hMirrors : node.Mirrors site snapshot solo) :
      Alike site snapshot (.refused error node) (.refused error solo)
  /-- Their balances overflow together. -/
  | overflow : Alike site snapshot (.faulted .overflow) (.faulted .overflow)

variable {site : Site} {snapshot : SnapshotId} {solo : Solo} {node : Node} {source : String}

theorem Mirrors.contains_outbound_iff (hMirrors : node.Mirrors site snapshot solo) (target : String) :
    node.outbound.contains target = true ↔ target ∈ site.targets.members := by
  rw [SortedMap.contains_iff, hMirrors.targets_eq]

theorem Mirrors.contains_inbound_iff (hMirrors : node.Mirrors site snapshot solo) (source : String) :
    node.inbound.contains source = true ↔ source ∈ site.sources.members := by
  rw [SortedMap.contains_iff, hMirrors.sources_eq]

/-- The balance may change. -/
theorem Mirrors.withTokens (hMirrors : node.Mirrors site snapshot solo) (tokens : UInt64) :
    { node with tokens := tokens }.Mirrors site snapshot { solo with tokens := tokens } :=
  ⟨hMirrors.name_eq, hMirrors.targets_eq, hMirrors.sources_eq, rfl, hMirrors.recording_eq,
    hMirrors.arrived_known, hMirrors.awaits_some⟩

/-- The recordings of other snapshots may change. -/
theorem Mirrors.withOthers (hMirrors : node.Mirrors site snapshot solo)
    {recordings : SortedMap SnapshotId Recording}
    (hSame : recordings.get? snapshot = node.recordings.get? snapshot) :
    { node with recordings := recordings }.Mirrors site snapshot solo :=
  ⟨hMirrors.name_eq, hMirrors.targets_eq, hMirrors.sources_eq, hMirrors.tokens_eq,
    hSame.trans hMirrors.recording_eq, hMirrors.arrived_known, hMirrors.awaits_some⟩

/-- A node that takes part no more keeps no recording. -/
theorem Mirrors.closed (hMirrors : node.Mirrors site snapshot solo)
    {recordings : SortedMap SnapshotId Recording} (hNone : recordings.get? snapshot = none) :
    { node with recordings := recordings }.Mirrors site snapshot { solo with window := none } := by
  refine ⟨hMirrors.name_eq, hMirrors.targets_eq, hMirrors.sources_eq, hMirrors.tokens_eq, hNone, ?_, ?_⟩
  · rintro _ ⟨⟩
  · rintro _ ⟨⟩

/-- A node that goes on taking part keeps what is known. -/
theorem Mirrors.opened (hMirrors : node.Mirrors site snapshot solo)
    {recordings : SortedMap SnapshotId Recording} {window : Window}
    (hKept : recordings.get? snapshot = some (window.recording site snapshot))
    (hArrived : window.arrived ⊆ site.sources.members) (hAwaits : window.awaits site ≠ []) :
    { node with recordings := recordings }.Mirrors site snapshot { solo with window := some window } := by
  refine ⟨hMirrors.name_eq, hMirrors.targets_eq, hMirrors.sources_eq, hMirrors.tokens_eq, hKept, ?_, ?_⟩
  · rintro _ ⟨⟩
    exact hArrived
  · rintro _ ⟨⟩
    exact hAwaits

/-! ### Calls that have to do with the snapshot -/

theorem Alike.map {α β : Type} {action : Action Node NodeError α} {own : Action Solo NodeError α}
    (f : α → β) (hAlike : Alike site snapshot (action node) (own solo)) :
    Alike site snapshot ((f <$> action) node) ((f <$> own) solo) := by
  show Alike site snapshot (Action.bind action _ node) (Action.bind own _ solo)
  unfold Action.bind
  cases hNode : action node <;> cases hSolo : own solo <;> rw [hNode, hSolo] at hAlike <;> cases hAlike
  · exact Alike.done ‹_›
  · exact Alike.refused ‹_›
  · exact Alike.overflow

theorem Mirrors.alike_send (hMirrors : node.Mirrors site snapshot solo) (amount : UInt64)
    (target : String) :
    Alike site snapshot (Node.send amount target node) (Solo.send site amount target solo) := by
  have hKnown := hMirrors.contains_outbound_iff target
  unfold Node.send Solo.send
  rw [← hMirrors.name_eq, ← hMirrors.tokens_eq]
  by_cases hTarget : target ∈ site.targets.members
  · rw [hKnown.mpr hTarget, if_neg (not_not_intro hTarget), Bool.not_true, if_neg Bool.false_ne_true]
    by_cases hShort : node.tokens < amount
    · rw [if_pos hShort, if_pos hShort]
      exact Alike.refused hMirrors
    · rw [if_neg hShort, if_neg hShort]
      exact Alike.done (hMirrors.withTokens _)
  · rw [Bool.eq_false_iff.mpr fun hContains => hTarget (hKnown.mp hContains), if_pos hTarget]
    exact Alike.refused hMirrors

/-- What a node keeps when it enters is what is known at that moment. -/
theorem Mirrors.freshRecording_eq (hMirrors : node.Mirrors site snapshot solo)
    (trigger : Option String) : node.freshRecording snapshot trigger =
      (Window.mk solo.tokens trigger []).recording site snapshot := by
  have hSources : SortedSet.ofKeys node.inbound = site.sources :=
    (SortedSet.ofKeys_eq_of_keys_eq hMirrors.sources_eq).trans (SortedSet.ofKeys_self _)
  have hAwaiting : (site.sources.filter fun other _ => some other ≠ trigger) =
      site.sources.filter fun other _ => other ∉ trigger.toList := by
    refine congrArg (SortedMap.filter · site.sources) ?_
    funext other _
    simp [eq_comm]
  unfold freshRecording Window.recording
  rw [hMirrors.tokens_eq, hSources, Window.arrived_entry, hAwaiting]
  rfl

/-- A node that enters does what is known: it goes on taking part, or it reports at once. -/
theorem Mirrors.takePart (hMirrors : node.Mirrors site snapshot solo) (hIdle : solo.window = none)
    {trigger : Option String} (hTrigger : trigger.toList ⊆ site.sources.members) :
    Alike site snapshot (.done (node.takePart snapshot trigger).1 (node.takePart snapshot trigger).2)
      (.done (solo.enter site snapshot trigger).1 (solo.enter site snapshot trigger).2) := by
  have hFresh := hMirrors.recording_eq
  rw [hIdle, Option.map_none] at hFresh
  have hArrived : (Window.mk solo.tokens trigger []).arrived ⊆ site.sources.members := by
    rw [Window.arrived_entry]
    exact hTrigger
  have hEmpty : (node.freshRecording snapshot trigger).awaiting.isEmpty = true ↔
      (Window.mk solo.tokens trigger []).awaits site = [] := by
    rw [SortedMap.isEmpty_iff, hMirrors.freshRecording_eq, Window.keys_awaiting]
  unfold Node.takePart Solo.enter Solo.settle
  rw [hMirrors.targets_eq]
  by_cases hNobody : (Window.mk solo.tokens trigger []).awaits site = []
  · rw [if_pos (hEmpty.mpr hNobody), if_pos hNobody, hMirrors.freshRecording_eq, hMirrors.name_eq]
    exact Alike.done (hMirrors.closed hFresh)
  · rw [if_neg (hEmpty.not.mpr hNobody), if_neg hNobody, List.append_nil, hMirrors.freshRecording_eq]
    exact Alike.done (hMirrors.opened (SortedMap.get?_insert_self ..) hArrived hNobody)

theorem Mirrors.alike_start (hMirrors : node.Mirrors site snapshot solo) :
    Alike site snapshot (Node.startSnapshot snapshot node) (Solo.start site snapshot solo) := by
  have hKept := hMirrors.recording_eq
  unfold Node.startSnapshot Solo.start SortedMap.contains
  cases hWindow : solo.window with
  | none =>
      rw [hWindow] at hKept
      rw [hKept]
      exact hMirrors.takePart hWindow (List.nil_subset _)
  | some window =>
      rw [hWindow] at hKept
      rw [hKept, hMirrors.name_eq]
      exact Alike.refused hMirrors

/-- Tokens come to a node that may take part. -/
theorem Mirrors.credited (hMirrors : node.Mirrors site snapshot solo)
    (hSource : source ∈ site.sources.members) (amount tokens : UInt64)
    {recordings : SortedMap SnapshotId Recording}
    (hNoted : recordings.get? snapshot = (node.recordings.get? snapshot).map fun recording =>
      if 0 < amount then recording.note ⟨source, site.name, amount⟩ else recording) :
    { node with tokens := tokens, recordings := recordings }.Mirrors site snapshot
      ⟨tokens, solo.window.map (Window.after · (.token source amount))⟩ := by
  refine ⟨hMirrors.name_eq, hMirrors.targets_eq, hMirrors.sources_eq, rfl, ?_, ?_, ?_⟩
  · rw [hNoted, hMirrors.recording_eq, Option.map_map, Option.map_map]
    refine congrArg (Option.map · solo.window) ?_
    funext window
    exact (Window.recording_after_token hSource amount).symm
  · intro later hLater
    obtain ⟨window, hWindow, rfl⟩ := Option.map_eq_some_iff.mp hLater
    rw [Window.arrived_after_token]
    exact hMirrors.arrived_known window hWindow
  · intro later hLater
    obtain ⟨window, hWindow, rfl⟩ := Option.map_eq_some_iff.mp hLater
    unfold Window.awaits
    rw [Window.arrived_after_token]
    exact hMirrors.awaits_some window hWindow

theorem Mirrors.alike_receiveTokens (hMirrors : node.Mirrors site snapshot solo)
    (hSource : source ∈ site.sources.members) (amount : UInt64) :
    Alike site snapshot (Node.receiveTokens source amount node)
      (Solo.receiveTokens source amount solo) := by
  unfold Node.receiveTokens Solo.receiveTokens
  rw [hMirrors.tokens_eq]
  cases hSum : checkedAdd solo.tokens amount with
  | error fault =>
      obtain ⟨rfl, -⟩ := checkedAdd_eq_error_iff.mp hSum
      exact Alike.overflow
  | ok tokens =>
      -- The two cases only differ in whether the recordings are gone through.
      show Alike site snapshot (if 0 < amount then _ else _) _
      by_cases hAmount : 0 < amount
      · rw [if_pos hAmount]
        refine Alike.done (hMirrors.credited hSource amount tokens ?_)
        rw [SortedMap.get?_mapValues, hMirrors.name_eq]
        simp only [if_pos hAmount]
      · rw [if_neg hAmount]
        refine Alike.done (hMirrors.credited hSource amount tokens ?_)
        simp only [if_neg hAmount, Option.map_id']

theorem Mirrors.alike_receiveMarker (hMirrors : node.Mirrors site snapshot solo)
    (hSource : source ∈ site.sources.members) :
    Alike site snapshot (Node.receiveMarker source snapshot node)
      (Solo.receiveMarker site snapshot source solo) := by
  have hKept := hMirrors.recording_eq
  unfold Node.receiveMarker Solo.receiveMarker
  cases hWindow : solo.window with
  | none =>
      rw [hWindow, Option.map_none] at hKept
      rw [hKept]
      exact hMirrors.takePart hWindow (List.cons_subset.mpr ⟨hSource, List.nil_subset _⟩)
  | some window =>
      rw [hWindow, Option.map_some] at hKept
      rw [hKept]
      have hSeen : (window.recording site snapshot).seen.contains source = true ↔
          source ∈ window.arrived := by
        rw [SortedMap.contains_iff]
        exact SortedSet.mem_members_ofList
      have hEmpty : ((window.after (.marker source)).recording site snapshot).awaiting.isEmpty = true ↔
          (window.after (.marker source)).awaits site = [] := by
        rw [SortedMap.isEmpty_iff, Window.keys_awaiting]
      have hArrived : (window.after (.marker source)).arrived ⊆ site.sources.members := by
        rw [Window.arrived_after_marker]
        exact List.append_subset.mpr ⟨hMirrors.arrived_known window hWindow,
          List.cons_subset.mpr ⟨hSource, List.nil_subset _⟩⟩
      by_cases hAgain : source ∈ window.arrived
      · simp only [hSeen.mpr hAgain, if_pos hAgain, hMirrors.name_eq]
        exact Alike.refused hMirrors
      · have hUnseen := Bool.eq_false_iff.mpr fun hContains => hAgain (hSeen.mp hContains)
        simp only [hUnseen, if_neg hAgain, ← Window.recording_after_marker]
        unfold Solo.settle
        by_cases hNobody : (window.after (.marker source)).awaits site = []
        · have hReport : ((window.after (.marker source)).recording site snapshot).report node.name =
              (window.after (.marker source)).report site snapshot := by
            rw [hMirrors.name_eq]
            rfl
          have hGone : (node.recordings.erase snapshot).get? snapshot = none := by
            rw [SortedMap.get?_erase, if_pos rfl]
          simp only [hEmpty.mpr hNobody, if_pos hNobody, hReport]
          exact Alike.done (hMirrors.closed hGone)
        · simp only [hEmpty.not.mpr hNobody, if_neg hNobody]
          exact Alike.done (hMirrors.opened (SortedMap.get?_insert_self ..) hArrived hNobody)

/-- A packet is received by what is known of a node as its message is by the node. -/
theorem Mirrors.alike_receive (hMirrors : node.Mirrors site snapshot solo) {message : Message}
    {packet : Packet}
    (hBrings : (Call.receive source message).about? snapshot = some (.receive packet)) :
    Alike site snapshot (Node.receive source message node) (Solo.receive site snapshot packet solo) := by
  have hKnown := hMirrors.contains_inbound_iff source
  have hPacket : packet.source = source := by
    cases message with
    | token amount =>
        cases hBrings
        rfl
    | marker other =>
        cases (Option.ite_none_right_eq_some.mp hBrings).2
        rfl
  unfold Node.receive Solo.receive
  rw [hPacket]
  by_cases hSource : source ∈ site.sources.members
  · rw [hKnown.mpr hSource, Bool.not_true, if_neg Bool.false_ne_true, if_neg (not_not_intro hSource)]
    cases message with
    | token amount =>
        cases hBrings
        exact hMirrors.alike_receiveTokens hSource amount
    | marker other =>
        obtain ⟨rfl, hMarker⟩ := Option.ite_none_right_eq_some.mp hBrings
        cases hMarker
        exact hMirrors.alike_receiveMarker hSource
  · rw [if_pos hSource, Bool.eq_false_iff.mpr fun hContains => hSource (hKnown.mp hContains),
      ← hMirrors.name_eq]
    exact Alike.refused hMirrors

/-- What is asked about a snapshot is answered by what is known of it as by the node. -/
theorem Mirrors.alike_answer (hMirrors : node.Mirrors site snapshot solo) {call : Call}
    {own : Solo.Call} (hAbout : call.about? snapshot = some own) :
    Alike site snapshot (answer call node) (Solo.answer site snapshot own solo) := by
  cases call with
  | send amount target =>
      cases hAbout
      exact (hMirrors.alike_send amount target).map _
  | start other =>
      obtain ⟨rfl, hOwn⟩ := Option.ite_none_right_eq_some.mp hAbout
      cases hOwn
      exact hMirrors.alike_start.map _
  | receive source message =>
      have hPacket : ∃ packet, own = .receive packet := by
        cases message with
        | token amount => exact ⟨_, (Option.some.inj hAbout).symm⟩
        | marker other =>
            exact ⟨_, (Option.some.inj (Option.ite_none_right_eq_some.mp hAbout).2).symm⟩
      obtain ⟨packet, rfl⟩ := hPacket
      exact (hMirrors.alike_receive hAbout).map _

/-! ### Calls that have to do with another snapshot -/

/-- A node does nothing that concerns a snapshot, and what is known of it stays the same. -/
inductive Aside (site : Site) (snapshot : SnapshotId) (solo : Solo) :
    Outcome Node NodeError (List Effect) → Prop where
  /-- What it asks of its network does not concern the snapshot. -/
  | done {effects : List Effect} {node : Node}
      (hApart : ∀ effect ∈ effects, ¬ effect.Concerns snapshot)
      (hMirrors : node.Mirrors site snapshot solo) : Aside site snapshot solo (.done effects node)
  /-- It refuses. -/
  | refused {error : NodeError} {node : Node} (hMirrors : node.Mirrors site snapshot solo) :
      Aside site snapshot solo (.refused error node)

variable {other : SnapshotId}

/-- A node that takes part in another snapshot does nothing about this one. -/
theorem Mirrors.aside_takePart (hMirrors : node.Mirrors site snapshot solo) (hOther : other ≠ snapshot)
    (trigger : Option String) : Aside site snapshot solo
      (.done (node.takePart other trigger).1 (node.takePart other trigger).2) := by
  have hMarkers : ∀ effect ∈ node.outbound.keys.map fun target => Effect.send target (.marker other),
      ¬ effect.Concerns snapshot := by
    intro effect hEffect hConcerns
    obtain ⟨target, -, rfl⟩ := List.mem_map.mp hEffect
    exact hOther (Option.some.inj hConcerns)
  unfold Node.takePart
  by_cases hNobody : (node.freshRecording other trigger).awaiting.isEmpty = true
  · rw [if_pos hNobody]
    refine Aside.done (fun effect hEffect => ?_) hMirrors
    rcases List.mem_append.mp hEffect with hMarker | hReport
    · exact hMarkers effect hMarker
    · cases List.mem_singleton.mp hReport
      exact hOther
  · rw [if_neg hNobody]
    exact Aside.done hMarkers (hMirrors.withOthers (SortedMap.get?_insert_of_ne _ _ hOther))

theorem Mirrors.aside_start (hMirrors : node.Mirrors site snapshot solo) (hOther : other ≠ snapshot) :
    Aside site snapshot solo (Node.startSnapshot other node) := by
  unfold Node.startSnapshot
  by_cases hKept : node.recordings.contains other = true
  · rw [if_pos hKept]
    exact Aside.refused hMirrors
  · rw [if_neg hKept]
    exact hMirrors.aside_takePart hOther none

/-- The marker of another snapshot changes nothing about this one. -/
theorem Mirrors.aside_receiveMarker (hMirrors : node.Mirrors site snapshot solo)
    (hOther : other ≠ snapshot) (hSound : ∀ recording, node.recordings.get? other = some recording →
      recording.snapshot = other) :
    Aside site snapshot solo (Node.receiveMarker source other node) := by
  unfold Node.receiveMarker
  cases hKept : node.recordings.get? other with
  | none => exact hMirrors.aside_takePart hOther (some source)
  | some recording =>
      show Aside site snapshot solo (if _ then _ else if _ then _ else _)
      by_cases hSeen : recording.seen.contains source = true
      · rw [if_pos hSeen]
        exact Aside.refused hMirrors
      · rw [if_neg hSeen]
        by_cases hNobody : (recording.see source).awaiting.isEmpty = true
        · rw [if_pos hNobody]
          refine Aside.done (fun effect hEffect => ?_) (hMirrors.withOthers ?_)
          · cases List.mem_singleton.mp hEffect
            exact fun hSame => hOther ((hSound recording hKept).symm.trans hSame)
          · rw [SortedMap.get?_erase, if_neg hOther]
        · rw [if_neg hNobody]
          exact Aside.done (fun _ hNone => nomatch hNone)
            (hMirrors.withOthers (SortedMap.get?_insert_of_ne _ _ hOther))

/-- What is known of a node for each snapshot. -/
def Portrayed (site : Site) (node : Node) : Prop :=
  ∀ snapshot, ∃ solo, node.Mirrors site snapshot solo

/-- A recording is kept under its own snapshot. -/
theorem Portrayed.snapshot_eq (hPortrayed : node.Portrayed site) {recording : Recording}
    (hKept : node.recordings.get? other = some recording) : recording.snapshot = other := by
  obtain ⟨solo, hMirrors⟩ := hPortrayed other
  obtain ⟨window, -, rfl⟩ := Option.map_eq_some_iff.mp (hMirrors.recording_eq.symm.trans hKept)
  rfl

/-! ### Whatever is asked -/

theorem Alike.reply {α : Type} {action : Action Node NodeError α} {own : Action Solo NodeError α}
    (hAlike : Alike site snapshot (action node) (own solo)) :
    (∃ reply after later, action.reply node = .ok (reply, after) ∧ own.reply solo = .ok (reply, later) ∧
      after.Mirrors site snapshot later) ∨
    (action.reply node = .error .overflow ∧ own.reply solo = .error .overflow) := by
  unfold Action.reply
  cases hNode : action node <;> cases hSolo : own solo <;> rw [hNode, hSolo] at hAlike <;> cases hAlike
  · exact Or.inl ⟨_, _, _, rfl, rfl, ‹_›⟩
  · exact Or.inl ⟨_, _, _, rfl, rfl, ‹_›⟩
  · exact Or.inr ⟨rfl, rfl⟩

theorem Aside.reply {action : Action Node NodeError (List Effect)}
    (hAside : Aside site snapshot solo (action node)) :
    ∃ reply after, (Answer.effects <$> action).reply node = .ok (reply, after) ∧
      Reply.Apart snapshot reply ∧ after.Mirrors site snapshot solo := by
  show ∃ reply after, Action.reply (Action.bind action _) node = _ ∧ _
  unfold Action.reply Action.bind
  cases hNode : action node <;> rw [hNode] at hAside <;> cases hAside
  · exact ⟨_, _, rfl, ‹_›, ‹_›⟩
  · exact ⟨_, _, rfl, True.intro, ‹_›⟩

/-- What is asked about another snapshot has nothing to do with this one. -/
theorem Mirrors.apart_reply (hMirrors : node.Mirrors site snapshot solo)
    (hPortrayed : node.Portrayed site) {call : Call} (hAbout : call.about? snapshot = none) :
    ∃ reply after, (answer call).reply node = .ok (reply, after) ∧ Reply.Apart snapshot reply ∧
      after.Mirrors site snapshot solo := by
  cases call with
  | send amount target => cases hAbout
  | start other =>
      refine Aside.reply (hMirrors.aside_start fun hSame => ?_)
      cases (if_pos hSame).symm.trans hAbout
  | receive source message =>
      cases message with
      | token amount => cases hAbout
      | marker other =>
          have hOther : other ≠ snapshot := by
            intro hSame
            cases (if_pos hSame).symm.trans hAbout
          refine Aside.reply ?_
          unfold Node.receive
          by_cases hSource : (!node.inbound.contains source) = true
          · rw [if_pos hSource]
            exact Aside.refused hMirrors
          · rw [if_neg hSource]
            exact hMirrors.aside_receiveMarker hOther fun recording hKept => hPortrayed.snapshot_eq hKept

/-- After a call, something is still known of the node for each snapshot. -/
theorem Portrayed.reply (hPortrayed : node.Portrayed site) {call : Call} {reply : Reply} {after : Node}
    (hReply : (answer call).reply node = .ok (reply, after)) : after.Portrayed site := by
  intro snapshot
  obtain ⟨solo, hMirrors⟩ := hPortrayed snapshot
  cases hAbout : call.about? snapshot with
  | none =>
      obtain ⟨_, reached, hReached, -, hAfter⟩ := hMirrors.apart_reply hPortrayed hAbout
      cases hReply.symm.trans hReached
      exact ⟨solo, hAfter⟩
  | some own =>
      rcases (hMirrors.alike_answer hAbout).reply with ⟨_, reached, later, hReached, -, hAfter⟩ | ⟨hOver, -⟩
      · cases hReply.symm.trans hReached
        exact ⟨later, hAfter⟩
      · cases hReply.symm.trans hOver

/-- Whatever is asked of a node, it does about a snapshot what is known of it, and nothing else. -/
theorem Mirrors.history (calls : List Call) (hMirrors : node.Mirrors site snapshot solo)
    (hPortrayed : node.Portrayed site) :
    (∃ replies after expected later, node.history calls = .ok (replies, after) ∧
      Action.history (Solo.answer site snapshot) (calls.filterMap (Call.about? snapshot)) solo =
        .ok (expected, later) ∧
      Agree snapshot calls replies expected ∧ after.Mirrors site snapshot later) ∨
    (node.history calls = .error .overflow ∧
      Action.history (Solo.answer site snapshot) (calls.filterMap (Call.about? snapshot)) solo =
        .error .overflow) := by
  unfold Node.history
  induction calls generalizing node solo with
  | nil => exact Or.inl ⟨[], node, [], solo, rfl, rfl, .nil, hMirrors⟩
  | cons call rest ih =>
      cases hAbout : call.about? snapshot with
      | none =>
          obtain ⟨reply, middle, hReply, hApart, hMiddle⟩ := hMirrors.apart_reply hPortrayed hAbout
          rw [List.filterMap_cons_none hAbout, Action.history_cons rest hReply]
          rcases ih hMiddle (hPortrayed.reply hReply) with
            ⟨replies, after, expected, later, hRest, hOwn, hAgree, hAfter⟩ | ⟨hRest, hOwn⟩
          · exact Or.inl ⟨reply :: replies, after, expected, later, by rw [hRest]; rfl, hOwn,
              .apart hAbout hApart hAgree, hAfter⟩
          · exact Or.inr ⟨by rw [hRest]; rfl, hOwn⟩
      | some own =>
          rw [List.filterMap_cons_some hAbout]
          rcases (hMirrors.alike_answer hAbout).reply with
            ⟨reply, middle, between, hReply, hBetween, hMiddle⟩ | ⟨hReply, hBetween⟩
          · rw [Action.history_cons rest hReply, Action.history_cons _ hBetween]
            rcases ih hMiddle (hPortrayed.reply hReply) with
              ⟨replies, after, expected, later, hRest, hOwn, hAgree, hAfter⟩ | ⟨hRest, hOwn⟩
            · refine Or.inl ⟨reply :: replies, after, reply :: expected, later, by rw [hRest]; rfl,
                by rw [hOwn]; rfl, .about ?_ hAgree, hAfter⟩
              rw [hAbout]
              rfl
            · exact Or.inr ⟨by rw [hRest]; rfl, by rw [hOwn]; rfl⟩
          · rw [Action.history, Action.history, hReply, hBetween]
            exact Or.inr ⟨rfl, rfl⟩

/-! ### From the first call on -/

/-- Channels that are connected make neighbours, and nothing else changes. -/
theorem foldl_attach (attachments : List Attachment) (node : Node) :
    (attachments.foldl attach node).name = node.name ∧
      (attachments.foldl attach node).tokens = node.tokens ∧
      (attachments.foldl attach node).recordings = node.recordings ∧
      (∀ target, target ∈ (attachments.foldl attach node).outbound.keys ↔
        target ∈ attachments.filterMap Attachment.target? ∨ target ∈ node.outbound.keys) ∧
      ∀ source, source ∈ (attachments.foldl attach node).inbound.keys ↔
        source ∈ attachments.filterMap Attachment.source? ∨ source ∈ node.inbound.keys := by
  induction attachments generalizing node with
  | nil => simp
  | cons attachment rest ih =>
      obtain ⟨hName, hTokens, hRecordings, hTargets, hSources⟩ := ih (node.attach attachment)
      rw [List.foldl_cons]
      cases attachment with
      | outbound target channel =>
          refine ⟨hName, hTokens, hRecordings, fun other => ?_, hSources⟩
          rw [hTargets]
          show _ ∨ other ∈ (node.outbound.insert target channel).keys ↔
            other ∈ target :: rest.filterMap Attachment.target? ∨ _
          rw [SortedMap.mem_keys_insert, List.mem_cons, or_left_comm, or_assoc]
      | inbound source channel =>
          refine ⟨hName, hTokens, hRecordings, hTargets, fun other => ?_⟩
          rw [hSources]
          show _ ∨ other ∈ (node.inbound.insert source channel).keys ↔
            other ∈ source :: rest.filterMap Attachment.source? ∨ _
          rw [SortedMap.mem_keys_insert, List.mem_cons, or_left_comm, or_assoc]

/-- A new node takes part in no snapshot. -/
theorem mirrors_built (name : String) (tokens : UInt64) (attachments : List Attachment)
    (snapshot : SnapshotId) :
    (built name tokens attachments).Mirrors (Site.of name attachments) snapshot ⟨tokens, none⟩ := by
  obtain ⟨hName, hTokens, hRecordings, hTargets, hSources⟩ :=
    foldl_attach attachments (create name tokens)
  refine ⟨hName, SortedMap.keys_eq_of_mem_iff fun target => ?_,
    SortedMap.keys_eq_of_mem_iff fun source => ?_, hTokens, ?_, ?_, ?_⟩
  · refine (hTargets target).trans ((or_iff_left List.not_mem_nil).trans ?_)
    exact SortedSet.mem_members_ofList.symm
  · refine (hSources source).trans ((or_iff_left List.not_mem_nil).trans ?_)
    exact SortedSet.mem_members_ofList.symm
  · show (attachments.foldl attach (create name tokens)).recordings.get? snapshot = none
    rw [hRecordings]
    rfl
  · rintro _ ⟨⟩
  · rintro _ ⟨⟩

/-- A call that is refused changes nothing. -/
theorem answer_refused {call : Call} {error : NodeError} {after : Node}
    (hRefused : answer call node = .refused error after) : after = node := by
  cases call with
  | send amount target =>
      have hSend := Action.map_eq_refused_iff.mp hRefused
      unfold Node.send at hSend
      split at hSend
      · cases hSend
        rfl
      · split at hSend <;> cases hSend
        rfl
  | start snapshot =>
      have hStart := Action.map_eq_refused_iff.mp hRefused
      unfold Node.startSnapshot at hStart
      split at hStart <;> cases hStart
      rfl
  | receive source message =>
      have hReceive := Action.map_eq_refused_iff.mp hRefused
      unfold Node.receive at hReceive
      split at hReceive
      · cases hReceive
        rfl
      · cases message with
        | token amount =>
            simp only [Node.receiveTokens] at hReceive
            split at hReceive
            · cases hReceive
            · split at hReceive <;> cases hReceive
        | marker snapshot =>
            simp only [Node.receiveMarker] at hReceive
            split at hReceive
            · cases hReceive
            · split at hReceive
              · cases hReceive
                rfl
              · split at hReceive <;> cases hReceive

/-- A node takes part in each snapshot as if there were no other: whatever is asked of it, its replies
to what moves tokens and to what is asked about the snapshot are those of `Solo`, which is asked
nothing else; the other replies have nothing to do with the snapshot.  The recording that it keeps is
what `Solo` knows, it sorts the senders into those whose marker has arrived and those that are awaited,
and somebody is awaited.  What is refused changes nothing.  If the balance overflows, it does in both. -/
theorem takes_part_alone (name : String) (tokens : UInt64) (attachments : List Attachment)
    (snapshot : SnapshotId) (calls : List Call) :
    (∃ replies node expected solo,
      (built name tokens attachments).history calls = .ok (replies, node) ∧
      Action.history (Solo.answer (Site.of name attachments) snapshot)
        (calls.filterMap (Call.about? snapshot)) ⟨tokens, none⟩ = .ok (expected, solo) ∧
      Agree snapshot calls replies expected ∧
      node.tokens = solo.tokens ∧
      node.recordings.get? snapshot =
        solo.window.map (Window.recording (Site.of name attachments) snapshot) ∧
      (∀ recording, node.recordings.get? snapshot = some recording →
        recording.Sound snapshot (Site.of name attachments).sources.members ∧
          recording.awaiting.keys ≠ []) ∧
      ∀ call error after, answer call node = .refused error after → after = node) ∨
    ((built name tokens attachments).history calls = .error .overflow ∧
      Action.history (Solo.answer (Site.of name attachments) snapshot)
        (calls.filterMap (Call.about? snapshot)) ⟨tokens, none⟩ = .error .overflow) := by
  have hPortrayed : (built name tokens attachments).Portrayed (Site.of name attachments) :=
    fun other => ⟨_, mirrors_built name tokens attachments other⟩
  rcases (mirrors_built name tokens attachments snapshot).history calls hPortrayed with
    ⟨replies, node, expected, solo, hNode, hSolo, hAgree, hMirrors⟩ | hOver
  · refine Or.inl ⟨replies, node, expected, solo, hNode, hSolo, hAgree, hMirrors.tokens_eq,
      hMirrors.recording_eq, fun recording hKept => ?_, fun call error after => answer_refused⟩
    obtain ⟨window, hWindow, rfl⟩ := Option.map_eq_some_iff.mp (hMirrors.recording_eq.symm.trans hKept)
    refine ⟨Window.sound_recording (hMirrors.arrived_known window hWindow), ?_⟩
    rw [Window.keys_awaiting]
    exact hMirrors.awaits_some window hWindow
  · exact Or.inr hOver

example : ((built "B" 5 [.inbound "A" 0, .inbound "C" 1]).history [.receive "A" (.marker 0),
      .receive "C" (.token 3), .start 1, .receive "A" (.token 2), .receive "C" (.marker 0)]).map Prod.fst =
    .ok [.ok (.effects []), .ok (.effects []), .ok (.effects []), .ok (.effects []),
      .ok (.effects [.completed ⟨0, "B", 5, [⟨"C", "B", 3⟩]⟩])] := by
  decide +kernel

end Node

end TokenNet
