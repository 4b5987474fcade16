import TokenNet.Proofs.Preservation

namespace TokenNet

/-!
# What a delivery does

Tokens are credited at once and noted in the recordings that await their sender
(`Network.meets_deliver_token`).  A marker is turned down, makes its receiver take part,
or closes the link that it came on (`Network.MarkerEffect`); nothing else can happen to it
in a well-formed network (`Network.meets_deliver_marker`).
-/

/-- A node after tokens have come from a source. -/
def Node.credited (node : Node) (source : String) (amount tokens : UInt64) : Node :=
  { node with
    tokens := tokens
    recordings :=
      if 0 < amount then
        node.recordings.mapValues fun _ recording => recording.note ⟨source, node.name, amount⟩
      else node.recordings }

theorem Node.meets_receive_token {node : Node} {source : String} {amount : UInt64}
    (hSource : source ∈ node.inbound.keys) :
    (Node.receive source (.token amount) node).Meets
      (fun effects after => effects = [] ∧ ∃ tokens,
        checkedAdd node.tokens amount = .ok tokens ∧
        after = node.credited source amount tokens) Never := by
  have hKnown : node.inbound.contains source = true := SortedMap.contains_iff.mpr hSource
  unfold Node.receive Node.receiveTokens
  simp only [hKnown, Bool.not_true, Bool.false_eq_true, if_false]
  cases hSum : checkedAdd node.tokens amount with
  | error fault => exact True.intro
  | ok tokens =>
      by_cases hAmount : 0 < amount
      · simp only [hAmount, if_true]
        refine ⟨rfl, tokens, rfl, ?_⟩
        unfold Node.credited
        rw [if_pos hAmount]
      · simp only [hAmount, if_false]
        refine ⟨rfl, tokens, rfl, ?_⟩
        unfold Node.credited
        rw [if_neg hAmount]

/-- What a node does with a marker. -/
theorem Node.meets_receive_marker {node : Node} {source : String} {snapshot : SnapshotId}
    (hSource : source ∈ node.inbound.keys) :
    (Node.receive source (.marker snapshot) node).Meets
      (fun effects after =>
        (node.recordings.get? snapshot = none ∧
          effects = (node.takePart snapshot (some source)).1 ∧
          after = (node.takePart snapshot (some source)).2) ∨
        ∃ recording, node.recordings.get? snapshot = some recording ∧
          source ∉ recording.seen.keys ∧
          if (recording.see source).awaiting.isEmpty = true then
            effects = [.completed ((recording.see source).report node.name)] ∧
              after = { node with recordings := node.recordings.erase snapshot }
          else
            effects = [] ∧ after =
              { node with
                recordings := node.recordings.insert snapshot (recording.see source) })
      (fun error _ => error = .duplicateMarker node.name source snapshot ∧
        ∃ recording, node.recordings.get? snapshot = some recording ∧
          source ∈ recording.seen.keys) := by
  have hKnown : node.inbound.contains source = true := SortedMap.contains_iff.mpr hSource
  unfold Node.receive Node.receiveMarker
  simp only [hKnown, Bool.not_true, Bool.false_eq_true, if_false]
  cases hRecording : node.recordings.get? snapshot with
  | none => exact Or.inl ⟨rfl, rfl, rfl⟩
  | some recording =>
      by_cases hSeen : recording.seen.contains source = true
      · simp only [hSeen, if_true]
        exact ⟨rfl, recording, rfl, SortedMap.contains_iff.mp hSeen⟩
      · have hUnseen : source ∉ recording.seen.keys := fun hMember =>
          hSeen (SortedMap.contains_iff.mpr hMember)
        simp only [hSeen]
        by_cases hEmpty : (recording.see source).awaiting.isEmpty = true
        · simp only [hEmpty, if_true]
          exact Or.inr ⟨recording, rfl, hUnseen, by rw [if_pos hEmpty]; exact ⟨rfl, rfl⟩⟩
        · simp only [hEmpty]
          exact Or.inr ⟨recording, rfl, hUnseen, by rw [if_neg hEmpty]; exact ⟨rfl, rfl⟩⟩

namespace Network

/-- The network after a marker has been turned down. -/
def turnedDown (net : Network) (source target : String) (snapshot : SnapshotId) : Network :=
  { net with
    rejected := net.rejected + 1
    journal := net.journal.write (.markerRejected net.tickNow source target snapshot) }

/-- What a marker that is delivered can do. -/
inductive MarkerEffect (net : Network) (source target : String) (snapshot : SnapshotId) :
    Network → Prop where
  /-- The snapshot has been taken away, or the receiver has reported. -/
  | late (hStale : net.isStale snapshot target = true) :
      MarkerEffect net source target snapshot (net.turnedDown source target snapshot)
  /-- The marker of this sender has come before. -/
  | repeated {node : Node} {recording : Recording}
      (hCurrent : net.isStale snapshot target = false)
      (hNode : net.nodes.get? target = some node)
      (hRecording : node.recordings.get? snapshot = some recording)
      (hSeen : source ∈ recording.seen.keys) :
      MarkerEffect net source target snapshot (net.turnedDown source target snapshot)
  /-- The receiver takes part. -/
  | first {node : Node} {collector : Collector} {generator : Generator} {parcels : List Parcel}
      (hNode : net.nodes.get? target = some node)
      (hFresh : node.recordings.get? snapshot = none)
      (hFound : net.collectors.get? snapshot = some collector)
      (hAwaited : target ∈ collector.remaining.keys)
      (hTargets : parcels.map Parcel.target = node.outbound.keys)
      (hParcels : ∀ parcel ∈ parcels, parcel.source = target ∧ parcel.message = .marker snapshot)
      (hPunctual : ∀ parcel ∈ parcels, net.Punctual parcel.due) :
      MarkerEffect net source target snapshot
        ((net.posted generator parcels).withRecording node collector
          (node.freshRecording snapshot (some source)))
  /-- The receiver, which takes part, awaits one marker less. -/
  | next {node : Node} {collector : Collector} {recording : Recording}
      (hNode : net.nodes.get? target = some node)
      (hRecording : node.recordings.get? snapshot = some recording)
      (hUnseen : source ∉ recording.seen.keys)
      (hFound : net.collectors.get? snapshot = some collector)
      (hAwaited : target ∈ collector.remaining.keys) :
      MarkerEffect net source target snapshot
        (net.withRecording node collector (recording.see source))

theorem isStale_eq_false_iff {net : Network} {snapshot : SnapshotId} {name : String} :
    net.isStale snapshot name = false ↔
      ∃ collector, net.collectors.get? snapshot = some collector ∧
        name ∉ collector.reported.keys := by
  unfold isStale
  cases hFound : net.collectors.get? snapshot with
  | none => simp
  | some collector =>
      rw [Bool.eq_false_iff, ne_eq, Collector.hasReported_iff]
      simp

/-- A parcel is handed to a node that exists.  Whatever the node asks for is carried out;
a marker that it refuses as a repetition is turned down. -/
theorem meets_handOver {net : Network} {parcel : Parcel} {node : Node}
    {P : List Effect → Node → Prop} {R : NodeError → Node → Prop}
    {post : List SnapshotId → Network → Prop} {refusal : NetworkError → Network → Prop}
    (hNode : net.nodes.get? parcel.target = some node)
    (hReceive : (Node.receive parcel.source parcel.message node).Meets P R)
    (hDone : ∀ effects after, P effects after →
      (applyEffects parcel.target effects
        { net with nodes := net.nodes.insert parcel.target after }).Meets post refusal)
    (hRefused : ∀ error after, R error after → ∃ source snapshot,
      error = .duplicateMarker parcel.target source snapshot ∧
        post [] (net.turnedDown source parcel.target snapshot)) :
    (handOver parcel net).Meets post refusal := by
  unfold handOver callNode
  rw [hNode]
  cases hOutcome : Node.receive parcel.source parcel.message node with
  | done effects after =>
      simp only [hOutcome]
      exact hDone effects after (hReceive.of_done hOutcome)
  | refused error after =>
      obtain ⟨source, snapshot, rfl, hPost⟩ := hRefused error after (hReceive.of_refused hOutcome)
      simp only [hOutcome]
      exact hPost
  | faulted fault =>
      simp only [hOutcome]
      exact True.intro

/-- Tokens that come to their receiver are credited. -/
theorem meets_deliver_token {net : Network} {source target : String} {amount due : UInt64}
    (hWired : Wired net.nodes net.channels)
    (hLink : net.channels.contains ⟨source, target⟩ = true) :
    (deliver ⟨source, target, .token amount, due⟩ net).Meets
      (fun _ after => ∃ node tokens, net.nodes.get? target = some node ∧
        checkedAdd node.tokens amount = .ok tokens ∧
        after = (net.logged (.received net.tickNow source target (.token amount))).withChanged
          (node.credited source amount tokens)) Never := by
  obtain ⟨node, hNode⟩ := SortedMap.mem_keys_iff.mp (hWired.target_known hLink)
  have hName : node.name = target := hWired.name_eq hNode
  have hSource : source ∈ node.inbound.keys := (hWired.mem_inbound_iff hNode).mpr hLink
  apply Action.meets_bind_of_done rfl
  refine meets_handOver hNode (Node.meets_receive_token hSource) ?_ ?_
  · rintro _ _ ⟨rfl, tokens, hTokens, rfl⟩
    refine ⟨node, tokens, hNode, hTokens, ?_⟩
    unfold withChanged
    rw [show (node.credited source amount tokens).name = target from hName]
    rfl
  · exact fun _ _ hNever => hNever.elim

/-- A recording of a well-formed network sees one marker more: it is kept, or handed in. -/
theorem meets_see {net : Network} {target source : String} {snapshot : SnapshotId}
    {node changed : Node} {collector : Collector} {recording : Recording}
    {effects : List Effect} (hWell : net.WellFormed)
    (hNode : net.nodes.get? target = some node)
    (hRecording : node.recordings.get? snapshot = some recording)
    (hFound : net.collectors.get? snapshot = some collector)
    (hAwaited : target ∈ collector.remaining.keys)
    (hEffects : if (recording.see source).awaiting.isEmpty = true then
        effects = [.completed ((recording.see source).report node.name)] ∧
          changed = { node with recordings := node.recordings.erase snapshot }
      else
        effects = [] ∧ changed =
          { node with recordings := node.recordings.insert snapshot (recording.see source) }) :
    (applyEffects target effects { net with nodes := net.nodes.insert target changed }).Meets
      (fun _ after => after = net.withRecording node collector (recording.see source)) Never := by
  have hName : node.name = target := hWell.wired.name_eq hNode
  have hSame : (recording.see source).snapshot = snapshot :=
    (hWell.recorded hNode hRecording).1.snapshot_eq
  have hSnapshot : collector.snapshot = snapshot := (hWell.collected.sound hFound).snapshot_eq
  unfold withRecording
  by_cases hEmpty : (recording.see source).awaiting.isEmpty = true
  · rw [if_pos hEmpty] at hEffects ⊢
    -- The marker was the last one, so the collector gets a report.
    obtain ⟨rfl, rfl⟩ := hEffects
    have hNotified : notify ((recording.see source).report node.name)
        (net.withChanged { node with recordings := node.recordings.erase snapshot }) = _ :=
      notify_eq_done (hSame.symm ▸ hFound) (hSame.trans hSnapshot.symm) (hName.symm ▸ hAwaited)
    rw [hSame, ← hName]
    exact Action.meets_bind_of_done hNotified rfl
  · rw [if_neg hEmpty] at hEffects ⊢
    obtain ⟨rfl, rfl⟩ := hEffects
    rw [hSame, ← hName]
    exact rfl

/-- A marker that is handed to a node that has not reported makes it take part, closes the
link, or is turned down. -/
theorem meets_handOver_marker {net : Network} {source target : String} {due : UInt64}
    {snapshot : SnapshotId} (hWell : net.WellFormed)
    (hLink : net.channels.contains ⟨source, target⟩ = true)
    (hCurrent : net.isStale snapshot target = false) :
    (handOver ⟨source, target, .marker snapshot, due⟩ net).Meets
      (fun _ after => MarkerEffect net source target snapshot after) Never := by
  obtain ⟨node, hNode⟩ := SortedMap.mem_keys_iff.mp (hWell.wired.target_known hLink)
  have hName : node.name = target := hWell.wired.name_eq hNode
  have hSource : source ∈ node.inbound.keys := (hWell.wired.mem_inbound_iff hNode).mpr hLink
  -- The collector is in use and still awaits the node.
  obtain ⟨collector, hFound, hOpen⟩ := isStale_eq_false_iff.mp hCurrent
  have hSound := hWell.collected.sound hFound
  have hAwaited : target ∈ collector.remaining.keys :=
    hSound.awaited_iff.mpr ⟨SortedMap.mem_keys_of_get? hNode, hOpen⟩
  refine meets_handOver hNode (Node.meets_receive_marker hSource) ?_ ?_
  · rintro effects changed (⟨hFresh, rfl, rfl⟩ | ⟨recording, hRecording, hUnseen, hEffects⟩)
    · refine (meets_takePart (some source) hWell.wired hNode hFresh hFound hSound.snapshot_eq
        hAwaited).imp fun _ after hAfter => ?_
      obtain ⟨generator, parcels, hTargets, hParcels, hPunctual, rfl⟩ := hAfter
      exact MarkerEffect.first hNode hFresh hFound hAwaited hTargets hParcels hPunctual
    · apply (meets_see hWell hNode hRecording hFound hAwaited hEffects).imp
      intro _ after hAfter
      rw [hAfter]
      exact MarkerEffect.next hNode hRecording hUnseen hFound hAwaited
  · rintro _ _ ⟨rfl, recording, hRecording, hSeen⟩
    exact ⟨source, snapshot, by rw [hName],
      MarkerEffect.repeated hCurrent hNode hRecording hSeen⟩

/-- A marker that is delivered has one of the effects listed. -/
theorem meets_deliver_marker {net : Network} {source target : String} {due : UInt64}
    {snapshot : SnapshotId} (hWell : net.WellFormed)
    (hLink : net.channels.contains ⟨source, target⟩ = true) :
    (deliver ⟨source, target, .marker snapshot, due⟩ net).Meets
      (fun _ after => MarkerEffect
        (net.logged (.received net.tickNow source target (.marker snapshot)))
        source target snapshot after) Never := by
  refine Action.meets_bind_of_done rfl (Action.meets_bind_of_done rfl ?_)
  refine Action.meets_ite (fun hStale => MarkerEffect.late hStale) fun hCurrent => ?_
  exact meets_handOver_marker (hWell.logged _) hLink (Bool.eq_false_iff.mpr hCurrent)

/-! ### Whom a marker makes take part -/

section Arrival

variable {net : Network} {source target name : String} {snapshot : SnapshotId} {due : UInt64}
  {node : Node}

theorem isRecording_of_get? (hNode : net.nodes.get? name = some node) :
    net.isRecording snapshot name = node.recordings.contains snapshot := by
  unfold isRecording
  rw [hNode]

/-- A marker that comes too late makes nobody take part. -/
theorem arrival_of_stale (hStale : net.isStale snapshot target = true) :
    net.arrival ⟨source, target, .marker snapshot, due⟩ = [] := by
  unfold arrival
  simp only [hStale, Bool.true_or, if_true]

/-- Nor does one that comes to a node with a recording. -/
theorem arrival_of_recording {recording : Recording} (hNode : net.nodes.get? target = some node)
    (hRecording : node.recordings.get? snapshot = some recording) :
    net.arrival ⟨source, target, .marker snapshot, due⟩ = [] := by
  have hKept : node.recordings.contains snapshot = true :=
    SortedMap.contains_iff.mpr (SortedMap.mem_keys_of_get? hRecording)
  unfold arrival
  simp only [isRecording_of_get? hNode, hKept, Bool.or_true, if_true]

/-- Any other makes its receiver take part. -/
theorem arrival_of_fresh (hCurrent : net.isStale snapshot target = false)
    (hNode : net.nodes.get? target = some node)
    (hFresh : node.recordings.get? snapshot = none) :
    net.arrival ⟨source, target, .marker snapshot, due⟩ = [.joined target snapshot] := by
  have hNone : node.recordings.contains snapshot = false := by
    unfold SortedMap.contains
    rw [hFresh, Option.isSome_none]
  unfold arrival
  simp only [isRecording_of_get? hNode, hCurrent, hNone, Bool.or_false]
  exact if_neg Bool.false_ne_true

end Arrival

end Network

end TokenNet
