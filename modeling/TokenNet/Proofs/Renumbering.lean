import TokenNet.Proofs.TwinCalls

namespace TokenNet

/-!
# Numbers do not matter

A node knows its channels by number, and the numbers go by the order in which the links were added.
Networks that differ in nothing but these numbers and that order (`Network.SameButNumbers`) cannot be
told apart by any session (`Network.SameButNumbers.alike_session`), since a network looks nothing up
by number.  How the numbers correspond is told of arenas, which do (`Arena.Renaming`).
-/

/-- Maps with the same keys have values for the same keys. -/
theorem SortedMap.contains_eq_of_keys_eq {κ α β : Type} [LT κ] [DecidableLT κ] [DecidableEq κ]
    [KeyOrder κ] {left : SortedMap κ α} {right : SortedMap κ β} (hKeys : left.keys = right.keys)
    (key : κ) : left.contains key = right.contains key := by
  rw [Bool.eq_iff_iff, contains_iff, contains_iff, hKeys]

/-- What is stored in both of two maps with the same keys leaves them with the same keys. -/
theorem SortedMap.keys_insert_eq {κ α β : Type} [LT κ] [DecidableLT κ] [DecidableEq κ] [KeyOrder κ]
    {left : SortedMap κ α} {right : SortedMap κ β} (hKeys : left.keys = right.keys) (key : κ)
    (value : α) (other : β) : (left.insert key value).keys = (right.insert key other).keys := by
  apply keys_eq_of_mem_iff
  intro asked
  rw [mem_keys_insert, mem_keys_insert, hKeys]

/-- Two nodes that differ at most in the numbers of their channels. -/
structure Node.SameButNumbers (node other : Node) : Prop where
  /-- The name is the same. -/
  name_eq : node.name = other.name
  /-- The balance is the same. -/
  tokens_eq : node.tokens = other.tokens
  /-- Channels lead to the same nodes. -/
  outbound_eq : node.outbound.keys = other.outbound.keys
  /-- Channels come from the same nodes. -/
  inbound_eq : node.inbound.keys = other.inbound.keys
  /-- The recordings are the same. -/
  recordings_eq : node.recordings = other.recordings

/-- Parts that differ at most in the order of the links. -/
structure Network.Parts.Reordered (parts other : Parts) : Prop where
  /-- The state of the generator is the same. -/
  generator_eq : parts.generator = other.generator
  /-- The bound on delays is the same. -/
  maxDelay_eq : parts.maxDelay = other.maxDelay
  /-- The links are the same but for their order. -/
  links : parts.links.toList.Perm other.links.toList
  /-- The same collectors are in use. -/
  collectors_eq : parts.collectors = other.collectors
  /-- The same collectors have been taken away. -/
  retired_eq : parts.retired = other.retired

/-- Two networks that differ at most in the numbers of their channels and the order of their
links. -/
abbrev Network.SameButNumbers : Network → Network → Prop :=
  Network.Twins Node.SameButNumbers Network.Parts.Reordered

namespace Node.SameButNumbers

variable {node other : Node}

theorem refl (node : Node) : Node.SameButNumbers node node := ⟨rfl, rfl, rfl, rfl, rfl⟩

theorem freshRecording_eq (hSame : Node.SameButNumbers node other) (snapshot : SnapshotId)
    (trigger : Option String) :
    node.freshRecording snapshot trigger = other.freshRecording snapshot trigger := by
  unfold freshRecording
  rw [hSame.tokens_eq, SortedSet.ofKeys_eq_of_keys_eq hSame.inbound_eq]

/-- A node takes part alike, whatever the numbers of its channels. -/
theorem takePart (hSame : Node.SameButNumbers node other) (snapshot : SnapshotId)
    (trigger : Option String) :
    (node.takePart snapshot trigger).1 = (other.takePart snapshot trigger).1 ∧
      Node.SameButNumbers (node.takePart snapshot trigger).2 (other.takePart snapshot trigger).2 := by
  unfold Node.takePart
  rw [hSame.freshRecording_eq, hSame.outbound_eq, hSame.name_eq]
  by_cases hEmpty : (other.freshRecording snapshot trigger).awaiting.isEmpty = true
  · rw [if_pos hEmpty, if_pos hEmpty]
    exact ⟨rfl, hSame⟩
  · rw [if_neg hEmpty, if_neg hEmpty]
    refine ⟨rfl, rfl, hSame.tokens_eq, hSame.outbound_eq, hSame.inbound_eq, ?_⟩
    show node.recordings.insert _ _ = other.recordings.insert _ _
    rw [hSame.recordings_eq]

theorem respects_send (amount : UInt64) (target : String) :
    Action.Respects Node.SameButNumbers (Node.send amount target) := by
  intro node other hSame
  unfold Node.send
  rw [SortedMap.contains_eq_of_keys_eq hSame.outbound_eq, hSame.name_eq, hSame.tokens_eq]
  split
  · exact ⟨rfl, hSame⟩
  · split
    · exact ⟨rfl, hSame⟩
    · exact ⟨rfl, { hSame with name_eq := rfl, tokens_eq := rfl }⟩

theorem respects_startSnapshot (snapshot : SnapshotId) :
    Action.Respects Node.SameButNumbers (Node.startSnapshot snapshot) := by
  intro node other hSame
  unfold Node.startSnapshot
  rw [hSame.recordings_eq, hSame.name_eq]
  split
  · exact ⟨rfl, hSame⟩
  · exact hSame.takePart snapshot none

theorem respects_receiveTokens (source : String) (amount : UInt64) :
    Action.Respects Node.SameButNumbers (Node.receiveTokens source amount) := by
  intro node other hSame
  unfold Node.receiveTokens
  rw [hSame.tokens_eq, hSame.name_eq, hSame.recordings_eq]
  cases checkedAdd other.tokens amount with
  | error fault => exact rfl
  | ok tokens =>
      by_cases hAmount : 0 < amount
      · simp only [hAmount, if_true]
        exact ⟨rfl, { hSame with name_eq := rfl, tokens_eq := rfl, recordings_eq := rfl }⟩
      · simp only [hAmount, if_false]
        exact ⟨rfl, { hSame with name_eq := rfl, tokens_eq := rfl, recordings_eq := rfl }⟩

theorem respects_receiveMarker (source : String) (snapshot : SnapshotId) :
    Action.Respects Node.SameButNumbers (Node.receiveMarker source snapshot) := by
  intro node other hSame
  unfold Node.receiveMarker
  rw [hSame.recordings_eq, hSame.name_eq]
  cases other.recordings.get? snapshot with
  | none => exact hSame.takePart snapshot (some source)
  | some recording =>
      by_cases hSeen : recording.seen.contains source = true
      · simp only [hSeen, if_true]
        exact ⟨rfl, hSame⟩
      · simp only [hSeen]
        by_cases hEmpty : (recording.see source).awaiting.isEmpty = true
        · simp only [hEmpty, if_true]
          exact ⟨rfl, { hSame with name_eq := rfl, recordings_eq := rfl }⟩
        · simp only [hEmpty]
          exact ⟨rfl, { hSame with name_eq := rfl, recordings_eq := rfl }⟩

theorem respects_receive (source : String) (message : Message) :
    Action.Respects Node.SameButNumbers (Node.receive source message) := by
  intro node other hSame
  unfold Node.receive
  rw [SortedMap.contains_eq_of_keys_eq hSame.inbound_eq, hSame.name_eq]
  split
  · exact ⟨rfl, hSame⟩
  · cases message with
    | token amount => exact respects_receiveTokens source amount hSame
    | marker snapshot => exact respects_receiveMarker source snapshot hSame

end Node.SameButNumbers

namespace Network

/-- Numbers do not matter for what nodes and collectors do. -/
theorem full_sameButNumbers : Congruence.Full Node.SameButNumbers Parts.Reordered where
  outbound_eq := Node.SameButNumbers.outbound_eq
  send := Node.SameButNumbers.respects_send
  start := Node.SameButNumbers.respects_startSnapshot
  receive := Node.SameButNumbers.respects_receive
  delay_eq hParts := by rw [hParts.generator_eq, hParts.maxDelay_eq]
  drawn hParts := { hParts with
    generator_eq := by rw [hParts.generator_eq, hParts.maxDelay_eq] }
  collectors_eq hParts := hParts.collectors_eq
  retired_eq hParts := hParts.retired_eq
  collected _ _ hParts := { hParts with collectors_eq := rfl, retired_eq := rfl }

/-- A link may get different numbers. -/
theorem growing_sameButNumbers : Growing Node.SameButNumbers Parts.Reordered where
  create _ _ := Node.SameButNumbers.refl _
  outbound_eq := Node.SameButNumbers.outbound_eq
  addOutbound _ hSame _ :=
    { hSame with outbound_eq := SortedMap.keys_insert_eq hSame.outbound_eq _ _ _ }
  addInbound _ hSame _ :=
    { hSame with inbound_eq := SortedMap.keys_insert_eq hSame.inbound_eq _ _ _ }
  pushed hParts link := by
    refine { hParts with links := ?_ }
    rw [Array.toList_push, Array.toList_push]
    exact hParts.links.append_right [link]

namespace SameButNumbers

variable {net other : Network}

theorem hasBegun_eq (hRelated : SameButNumbers net other) : net.hasBegun = other.hasBegun := by
  funext collector name
  unfold hasBegun
  obtain ⟨hNone, hMissing⟩ | ⟨node, changed, hFound, hOther, hSame⟩ := hRelated.node_cases name
  · rw [hNone, hMissing]
  · rw [hFound, hOther]
    simp only [hSame.recordings_eq]

theorem settleBound_eq (hRelated : SameButNumbers net other) :
    net.settleBound = other.settleBound := by
  have hMaxDelay : net.maxDelay = other.maxDelay := hRelated.parts.maxDelay_eq
  have hLinks : ∀ keep : Link → Bool,
      (net.links.toList.filter keep).length = (other.links.toList.filter keep).length :=
    fun keep => (hRelated.parts.links.filter keep).length_eq
  unfold settleBound unsentMarkers
  rw [hRelated.pending_eq, full_sameButNumbers.used_eq hRelated, hRelated.hasBegun_eq, hMaxDelay]
  simp only [hLinks]

theorem respects_answer (call : Call) : Action.Respects SameButNumbers (answer call) :=
  full_sameButNumbers.respects_answer growing_sameButNumbers call

theorem respects_runScript (commands : List Command) :
    Action.Respects SameButNumbers (Scenario.runScript commands) :=
  full_sameButNumbers.respects_runScript (fun _ _ hRelated => settleBound_eq hRelated)
    (fun _ _ hRelated => hRelated.parts.maxDelay_eq) commands

/-- No session can tell networks apart that differ in numbers only. -/
theorem alike_session (hRelated : SameButNumbers net other) (requests : List Request) :
    Alike SameButNumbers (net.session requests) (other.session requests) :=
  Network.alike_session respects_answer respects_runScript hRelated

end SameButNumbers

end Network

end TokenNet
