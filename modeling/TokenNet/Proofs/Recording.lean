import TokenNet.Node
import TokenNet.Proofs.Maps

namespace TokenNet

/-!
# Sound recordings

A recording sorts the sources of its node into those whose marker has come and those whose
marker is awaited (`Recording.Sound`).  It does so from the start
(`Node.sound_freshRecording`), and when a marker or a transfer comes.
-/

/-- The sources of a node are sorted into those whose marker has come and those whose
marker is awaited. -/
structure Recording.Sound (snapshot : SnapshotId) (sources : List String)
    (recording : Recording) : Prop where
  /-- The recording is stored under its snapshot. -/
  snapshot_eq : recording.snapshot = snapshot
  /-- Every source has been seen or is awaited. -/
  source_iff : ∀ {source}, source ∈ sources ↔
    source ∈ recording.seen.keys ∨ source ∈ recording.awaiting.keys
  /-- No source has been seen and is awaited. -/
  not_both : ∀ {source}, source ∈ recording.seen.keys → source ∉ recording.awaiting.keys

namespace Node

variable {node : Node} {snapshot : SnapshotId} {trigger : Option String} {source : String}

/-- A node that takes part awaits a marker from every source but the one that made it take
part. -/
theorem mem_awaiting_freshRecording :
    source ∈ (node.freshRecording snapshot trigger).awaiting.keys ↔
      source ∈ node.inbound.keys ∧ trigger ≠ some source := by
  unfold freshRecording
  rw [SortedMap.keys_filter _ fun other => decide (some other ≠ trigger), List.mem_filter,
    SortedMap.keys_ofKeys, decide_eq_true_iff, ne_comm]

theorem mem_seen_freshRecording :
    source ∈ (node.freshRecording snapshot trigger).seen.keys ↔ trigger = some source := by
  cases trigger with
  | none => exact ⟨fun hMember => absurd hMember List.not_mem_nil, fun hNone => nomatch hNone⟩
  | some only =>
      apply SortedSet.mem_members_add.trans
      rw [Option.some.injEq, eq_comm]
      exact or_iff_left List.not_mem_nil

theorem sound_freshRecording
    (hTrigger : ∀ source, trigger = some source → source ∈ node.inbound.keys) :
    (node.freshRecording snapshot trigger).Sound snapshot node.inbound.keys := by
  refine ⟨rfl, fun {source} => ?_, fun hSeen hAwaited => ?_⟩
  · rw [mem_awaiting_freshRecording, mem_seen_freshRecording]
    by_cases hEqual : trigger = some source
    · exact ⟨fun _ => Or.inl hEqual, fun _ => hTrigger source hEqual⟩
    · exact ⟨fun hSource => Or.inr ⟨hSource, hEqual⟩,
        fun hEither => (hEither.resolve_left hEqual).1⟩
  · exact (mem_awaiting_freshRecording.mp hAwaited).2 (mem_seen_freshRecording.mp hSeen)

end Node

namespace Recording

variable {snapshot : SnapshotId} {sources : List String} {recording : Recording}

theorem mem_awaiting_see {source other : String} :
    other ∈ (recording.see source).awaiting.keys ↔
      other ≠ source ∧ other ∈ recording.awaiting.keys :=
  SortedMap.mem_keys_erase

theorem mem_seen_see {source other : String} :
    other ∈ (recording.see source).seen.keys ↔ other = source ∨ other ∈ recording.seen.keys :=
  SortedSet.mem_members_add

theorem Sound.see {source : String} (hSound : recording.Sound snapshot sources)
    (hSource : source ∈ sources) : (recording.see source).Sound snapshot sources := by
  refine ⟨hSound.snapshot_eq, fun {other} => ?_, fun {other} hSeen hAwaited => ?_⟩
  · rw [mem_seen_see, mem_awaiting_see]
    by_cases hEqual : other = source
    · subst hEqual
      simp [hSource]
    · simp [hEqual, hSound.source_iff]
  · obtain ⟨hDifferent, hOld⟩ := mem_awaiting_see.mp hAwaited
    exact hSound.not_both ((mem_seen_see.mp hSeen).resolve_left hDifferent) hOld

theorem awaiting_note (recording : Recording) (transfer : Transfer) :
    (recording.note transfer).awaiting = recording.awaiting := by
  unfold note
  split <;> rfl

theorem seen_note (recording : Recording) (transfer : Transfer) :
    (recording.note transfer).seen = recording.seen := by
  unfold note
  split <;> rfl

theorem Sound.note (hSound : recording.Sound snapshot sources) (transfer : Transfer) :
    (recording.note transfer).Sound snapshot sources := by
  unfold Recording.note
  split
  · exact ⟨hSound.snapshot_eq, hSound.source_iff, hSound.not_both⟩
  · exact hSound

end Recording

end TokenNet
