import TokenNet.Proofs.Run
import TokenNet.Proofs.WellFormed

namespace TokenNet

/-!
# What the small actions do

For each action that steps are made of, the state that it leaves as an explicit change of
the state before.  An action that is refused in no well-formed network is said to meet
`Never`, so that the statements also say that nothing fails from within.
-/

/-- The clock moves by one tick. -/
theorem Clock.toNat_of_advance {clock later : Clock} (hAdvance : clock.advance = .ok later) :
    later.tick.toNat = clock.tick.toNat + 1 := by
  unfold Clock.advance at hAdvance
  cases hSum : checkedAdd clock.tick 1 with
  | error fault =>
      rw [hSum] at hAdvance
      cases hAdvance
  | ok tick =>
      rw [hSum] at hAdvance
      cases hAdvance
      exact (checkedAdd_eq_ok_iff.mp hSum).symm

/-- A delay that is drawn is below the bound; if the bound is zero, so is the delay. -/
theorem Generator.toNat_below (generator : Generator) (bound : UInt64) :
    (generator.below bound).1.toNat + 1 ≤ max 1 bound.toNat := by
  unfold Generator.below
  by_cases hBound : bound = 0
  · rw [if_pos hBound]
    exact Nat.le_max_left 1 _
  · have hPositive : 0 < bound.toNat := Nat.pos_of_ne_zero fun hZero =>
      hBound (UInt64.toNat_inj.mp hZero)
    have hBelow := Nat.mod_lt generator.next.1.toNat hPositive
    rw [if_neg hBound, UInt64.toNat_mod]
    omega

/-- A node that keeps no recording of a snapshot takes part when it is to start it. -/
theorem Node.startSnapshot_eq_done {node : Node} {snapshot : SnapshotId}
    (hFresh : node.recordings.get? snapshot = none) :
    Node.startSnapshot snapshot node =
      .done (node.takePart snapshot none).1 (node.takePart snapshot none).2 := by
  unfold Node.startSnapshot SortedMap.contains
  simp [hFresh]

namespace Network

/-- The network after parcels have been sent one after another. -/
def posted (net : Network) (generator : Generator) (parcels : List Parcel) : Network :=
  { net with
    generator := generator
    channels := net.channels.postAll parcels
    journal := net.journal.writeAll (parcels.map (Event.sent net.tickNow)) }

/-- The network after a report of a node has been accepted. -/
def admitted (net : Network) (collector : Collector) (report : Report) : Network :=
  { net with
    collectors := net.collectors.insert report.snapshot (collector.accepted report)
    journal := net.journal.write (.snapshotEnded net.tickNow report.node report.snapshot) }

/-- The network after a node has changed. -/
def withChanged (net : Network) (node : Node) : Network :=
  { net with nodes := net.nodes.insert node.name node }

/-- The network after the recording of a node has become the given one: a recording that
still awaits a marker is kept, any other is handed in as a report. -/
def withRecording (net : Network) (node : Node) (collector : Collector) (recording : Recording) :
    Network :=
  if recording.awaiting.isEmpty then
    (net.withChanged { node with recordings := node.recordings.erase recording.snapshot }).admitted
      collector (recording.report node.name)
  else
    net.withChanged
      { node with recordings := node.recordings.insert recording.snapshot recording }

/-! What becomes of a recording is of no concern to the rest of the network. -/

section Recordings

variable (net : Network) (node : Node) (collector : Collector) (recording : Recording)

@[simp] theorem channels_withRecording :
    (net.withRecording node collector recording).channels = net.channels := by
  unfold withRecording
  split <;> rfl

@[simp] theorem nextSnapshot_withRecording :
    (net.withRecording node collector recording).nextSnapshot = net.nextSnapshot := by
  unfold withRecording
  split <;> rfl

@[simp] theorem started_withRecording :
    (net.withRecording node collector recording).started = net.started := by
  unfold withRecording
  split <;> rfl

@[simp] theorem rejected_withRecording :
    (net.withRecording node collector recording).rejected = net.rejected := by
  unfold withRecording
  split <;> rfl

end Recordings

/-- The network after a parcel has left its channel. -/
def popped (net : Network) (link : Link) (rest : List Parcel) : Network :=
  { net with channels := net.channels.setQueue link rest }

/-- The network after an event has been written. -/
def logged (net : Network) (event : Event) : Network :=
  { net with journal := net.journal.write event }

/-! ### Sending -/

/-- Whether a tick is one at which a message sent now may become due: not before the next tick,
and no later than the bound on delays allows. -/
def Punctual (net : Network) (due : UInt64) : Prop :=
  net.tickNow.toNat + 1 ≤ due.toNat ∧ due.toNat ≤ net.tickNow.toNat + max 1 net.maxDelay.toNat

/-- A message sent now becomes due in time, and to draw its tick changes the generator only. -/
theorem meets_receiveTime (net : Network) :
    (receiveTime net).Meets
      (fun due after => net.Punctual due ∧ ∃ generator, after = { net with generator := generator })
      Never := by
  apply Action.meets_bind_of_done rfl
  refine Action.meets_bind (M := fun earliest after =>
    checkedAdd net.tickNow 1 = .ok earliest ∧ net = after)
    (Action.meets_ofExcept fun _ hEarliest => ⟨hEarliest, rfl⟩) ?_
  rintro earliest _ ⟨hEarliest, rfl⟩
  apply Action.meets_bind_of_done rfl
  refine Action.meets_ofExcept fun due hDue => ⟨?_, _, rfl⟩
  have hNext : net.tickNow.toNat + 1 = earliest.toNat := checkedAdd_eq_ok_iff.mp hEarliest
  have hSum : earliest.toNat + (net.generator.below net.maxDelay).1.toNat = due.toNat :=
    checkedAdd_eq_ok_iff.mp hDue
  have hDelay := net.generator.toNat_below net.maxDelay
  unfold Punctual
  omega

/-- A parcel whose link exists joins its channel. -/
theorem push_eq_done {net : Network} (parcel : Parcel) (hSound : net.channels.Sound)
    (hLink : net.channels.contains parcel.link = true) :
    push parcel.link parcel net =
      .done () { net with channels := net.channels.post parcel } := by
  obtain ⟨channel, hFound⟩ := ChannelTable.contains_iff.mp hLink
  have hSame : channel.link = parcel.link := hSound.link_eq hFound
  have hSource : parcel.source = channel.source := (congrArg Link.source hSame).symm
  have hTarget : parcel.target = channel.target := (congrArg Link.target hSame).symm
  have hPush : channel.push parcel =
      .ok { channel with queue := channel.queue ++ [parcel] } := by
    unfold Channel.push
    rw [if_neg (not_not_intro hSource), if_neg (not_not_intro hTarget)]
  unfold push ChannelTable.post ChannelTable.setQueue
  simp only [hFound, hPush, ChannelTable.queue_of_get? hFound]

/-- A message for a link that exists is sent, with some tick at which it is due. -/
theorem meets_enqueue {net : Network} {source target : String} {message : Message}
    (hSound : net.channels.Sound) (hLink : net.channels.contains ⟨source, target⟩ = true) :
    (enqueue source target message net).Meets
      (fun _ after => ∃ generator due, net.Punctual due ∧
        after = net.posted generator [⟨source, target, message, due⟩]) Never := by
  have hRequired : requireLink ⟨source, target⟩ net = .done () net := by
    unfold requireLink
    rw [if_pos hLink]
  refine Action.meets_bind_of_done hRequired (Action.meets_bind (meets_receiveTime net) ?_)
  rintro due _ ⟨hPunctual, generator, rfl⟩
  apply Action.meets_bind_of_done rfl
  exact Outcome.meets_of_done
    (push_eq_done ⟨source, target, message, due⟩ hSound hLink) ⟨generator, due, hPunctual, rfl⟩

/-- Markers, or any one message, sent to receivers one after another, with whatever comes
next. -/
theorem meets_applyEffects_send {name : String} {targets : List String} {message : Message}
    {rest : List Effect} {net : Network} {post : List SnapshotId → Network → Prop}
    {refusal : NetworkError → Network → Prop} (hSound : net.channels.Sound)
    (hLinks : ∀ target ∈ targets, net.channels.contains ⟨name, target⟩ = true)
    (hRest : ∀ generator parcels, parcels.map Parcel.target = targets →
      (∀ parcel ∈ parcels, parcel.source = name ∧ parcel.message = message) →
      (∀ parcel ∈ parcels, net.Punctual parcel.due) →
      (applyEffects name rest (net.posted generator parcels)).Meets post refusal) :
    (applyEffects name (targets.map (Effect.send · message) ++ rest) net).Meets post refusal := by
  -- What comes next sees all parcels, so the one posted first goes before the later ones.
  induction targets generalizing net with
  | nil =>
      exact hRest net.generator [] rfl (fun _ hNone => absurd hNone List.not_mem_nil)
        fun _ hNone => absurd hNone List.not_mem_nil
  | cons target later ih =>
      refine Action.meets_bind
        ((meets_enqueue hSound (hLinks target List.mem_cons_self)).imp fun _ _ hPosted => hPosted) ?_
      rintro _ _ ⟨generator, due, hPunctual, rfl⟩
      refine ih (hSound.postAll _) (fun other hOther => ?_)
        fun generator' parcels hTargets hAll hDues => ?_
      · show (net.channels.postAll _).contains _ = true
        rw [ChannelTable.contains_postAll]
        exact hLinks other (List.mem_cons_of_mem _ hOther)
      · refine hRest generator' (⟨name, target, message, due⟩ :: parcels) ?_
          (List.forall_mem_cons.mpr ⟨⟨rfl, rfl⟩, hAll⟩)
          (List.forall_mem_cons.mpr ⟨hPunctual, hDues⟩)
        rw [List.map_cons, hTargets]

/-! ### Reports -/

/-- A report that is awaited is accepted. -/
theorem notify_eq_done {net : Network} {collector : Collector} {report : Report}
    (hFound : net.collectors.get? report.snapshot = some collector)
    (hSnapshot : report.snapshot = collector.snapshot)
    (hAwaited : report.node ∈ collector.remaining.keys) :
    notify report net =
      .done (collector.accepted report).isComplete (net.admitted collector report) := by
  have hAccepted : Collector.accept report collector =
      .done (collector.accepted report).isComplete (collector.accepted report) :=
    Collector.accept_eq_done_iff.mpr ⟨hSnapshot, hAwaited, rfl, rfl⟩
  refine Action.bind_eq_done_iff.mpr ⟨(collector.accepted report).isComplete,
    { net with collectors := net.collectors.insert report.snapshot (collector.accepted report) },
    ?_, rfl⟩
  unfold callCollector
  simp only [hFound, hAccepted]

/-- A report is accepted only if it is awaited. -/
theorem notify_eq_done_iff {net after : Network} {report : Report} {complete : Bool} :
    notify report net = .done complete after ↔
      ∃ collector, net.collectors.get? report.snapshot = some collector ∧
        report.snapshot = collector.snapshot ∧ report.node ∈ collector.remaining.keys ∧
        complete = (collector.accepted report).isComplete ∧
        after = net.admitted collector report := by
  constructor
  · intro hDone
    obtain ⟨value, between, hCalled, hLogged⟩ := Action.bind_eq_done_iff.mp hDone
    unfold callCollector at hCalled
    cases hFound : net.collectors.get? report.snapshot with
    | none => simp [hFound] at hCalled
    | some collector =>
        cases hAccepted : Collector.accept report collector with
        | done accepted changed =>
            obtain ⟨hSnapshot, hAwaited, rfl, rfl⟩ := Collector.accept_eq_done_iff.mp hAccepted
            simp only [hFound, hAccepted, Outcome.done.injEq] at hCalled
            obtain ⟨rfl, rfl⟩ := hCalled
            cases hLogged
            exact ⟨collector, rfl, hSnapshot, hAwaited, rfl, rfl⟩
        | refused error changed => simp [hFound, hAccepted] at hCalled
        | faulted fault => simp [hFound, hAccepted] at hCalled
  · rintro ⟨collector, hFound, hSnapshot, hAwaited, rfl, rfl⟩
    exact notify_eq_done hFound hSnapshot hAwaited

/-! ### Calls of nodes -/

theorem callNode_eq_done {α : Type} {net : Network} {name : String} {node after : Node}
    {call : Action Node NodeError α} {value : α} (hNode : net.nodes.get? name = some node)
    (hCall : call node = .done value after) :
    callNode name call net = .done value { net with nodes := net.nodes.insert name after } := by
  unfold callNode
  simp only [hNode, hCall]

theorem callNode_eq_refused {α : Type} {net : Network} {name : String} {node after : Node}
    {call : Action Node NodeError α} {error : NodeError} (hNode : net.nodes.get? name = some node)
    (hCall : call node = .refused error after) :
    callNode name call net = .refused (.node name error) net := by
  unfold callNode
  simp only [hNode, hCall]

/-- A node that has no recording of a snapshot takes part in it, and its effects are carried
out: markers go to all its receivers, and its recording is kept or handed in. -/
theorem meets_takePart {net : Network} {name : String} {node : Node} {snapshot : SnapshotId}
    {collector : Collector} (trigger : Option String) (hWired : Wired net.nodes net.channels)
    (hNode : net.nodes.get? name = some node)
    (hFresh : node.recordings.get? snapshot = none)
    (hFound : net.collectors.get? snapshot = some collector)
    (hSnapshot : collector.snapshot = snapshot) (hAwaited : name ∈ collector.remaining.keys) :
    (applyEffects name (node.takePart snapshot trigger).1
        { net with nodes := net.nodes.insert name (node.takePart snapshot trigger).2 }).Meets
      (fun _ after => ∃ generator parcels, parcels.map Parcel.target = node.outbound.keys ∧
        (∀ parcel ∈ parcels, parcel.source = name ∧ parcel.message = .marker snapshot) ∧
        (∀ parcel ∈ parcels, net.Punctual parcel.due) ∧
        after = (net.posted generator parcels).withRecording node collector
          (node.freshRecording snapshot trigger)) Never := by
  have hName : node.name = name := hWired.name_eq hNode
  have hLinks : ∀ target ∈ node.outbound.keys,
      net.channels.contains ⟨name, target⟩ = true := fun target hTarget =>
    (hWired.mem_outbound_iff hNode).mp hTarget
  unfold Node.takePart
  by_cases hEmpty : (node.freshRecording snapshot trigger).awaiting.isEmpty = true
  · -- Nothing is awaited: the report follows the markers.
    rw [if_pos hEmpty]
    refine meets_applyEffects_send hWired.sound hLinks
      fun generator parcels hTargets hAll hDues => ?_
    have hNotified : notify ((node.freshRecording snapshot trigger).report node.name)
        (posted { net with nodes := net.nodes.insert name node } generator parcels) = _ :=
      notify_eq_done hFound hSnapshot.symm (hName.symm ▸ hAwaited)
    refine Action.meets_bind_of_done hNotified ⟨generator, parcels, hTargets, hAll, hDues, ?_⟩
    have hSame : { node with recordings := node.recordings.erase snapshot } = node := by
      rw [SortedMap.erase_of_get?_eq_none hFresh]
    unfold withRecording
    rw [if_pos hEmpty, show (node.freshRecording snapshot trigger).snapshot = snapshot from rfl,
      hSame]
    unfold withChanged
    rw [hName]
    rfl
  · -- A marker is awaited: the recording is kept.
    rw [if_neg hEmpty]
    rw [← List.append_nil
      (node.outbound.keys.map fun target => Effect.send target (.marker snapshot))]
    refine meets_applyEffects_send hWired.sound hLinks
      fun generator parcels hTargets hAll hDues => ?_
    refine ⟨generator, parcels, hTargets, hAll, hDues, ?_⟩
    unfold withRecording withChanged
    rw [if_neg hEmpty, hName]
    rfl

/-- A node that has neither reported nor a recording starts a snapshot. -/
theorem meets_startAt_singleton {net : Network} {name : String} {node : Node}
    {snapshot : SnapshotId} {collector : Collector} (hWired : Wired net.nodes net.channels)
    (hNode : net.nodes.get? name = some node)
    (hFresh : node.recordings.get? snapshot = none)
    (hFound : net.collectors.get? snapshot = some collector)
    (hSnapshot : collector.snapshot = snapshot) (hAwaited : name ∈ collector.remaining.keys) :
    (startAt snapshot [name] net).Meets
      (fun _ after => ∃ generator parcels, parcels.map Parcel.target = node.outbound.keys ∧
        (∀ parcel ∈ parcels, parcel.source = name ∧ parcel.message = .marker snapshot) ∧
        (∀ parcel ∈ parcels, net.Punctual parcel.due) ∧
        after = (net.posted generator parcels).withRecording node collector
          (node.freshRecording snapshot none)) Never := by
  apply Action.meets_bind_of_done (callNode_eq_done hNode (Node.startSnapshot_eq_done hFresh))
  exact Action.meets_bind
    (meets_takePart none hWired hNode hFresh hFound hSnapshot hAwaited) fun _ _ hJoined => hJoined

end Network
end TokenNet
