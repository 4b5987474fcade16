import TokenNet.Proofs.Calls

namespace TokenNet
namespace Network

/-!
# Every node is within reach of a snapshot

A snapshot is grounded if some node takes part in it from which every node that does not can be
reached along links (`Network.Grounded`).  It is so from its start, since all nodes that cannot
be reached start it at once, and it stays so, since nodes that take part go on doing so and
links stay.
-/

variable {net after : Network}

/-- In the snapshot takes part some node from which each node that does not can be reached. -/
def IsGrounded (net : Network) (snapshot : SnapshotId) : Prop :=
  ∃ origin, (net.part? snapshot origin).isSome = true ∧ ∀ name ∈ net.nodes.keys,
    (net.part? snapshot name).isSome = true ∨ net.Reaches origin name

/-- Every snapshot that has been started is grounded. -/
def Grounded (net : Network) : Prop :=
  ∀ snapshot, snapshot < net.nextSnapshot → net.IsGrounded snapshot

theorem grounded_of_nextSnapshot_eq_zero (hNone : net.nextSnapshot = 0) : net.Grounded := by
  intro snapshot hStarted
  rw [hNone] at hStarted
  exact absurd hStarted UInt64.not_lt_zero

/-! ### What happens from within -/

/-- Nothing has been taken away, and no node and no snapshot is new. -/
structure Extends (net after : Network) : Prop where
  /-- No snapshot is new. -/
  nextSnapshot_eq : after.nextSnapshot = net.nextSnapshot
  /-- The nodes are the same. -/
  mem_nodes_iff : ∀ {name}, name ∈ after.nodes.keys ↔ name ∈ net.nodes.keys
  /-- Links stay. -/
  linkedTo : ∀ {source target}, net.LinkedTo source target → after.LinkedTo source target
  /-- Whoever takes part in a snapshot goes on doing so. -/
  isSome_part? : ∀ {snapshot name}, (net.part? snapshot name).isSome = true →
    (after.part? snapshot name).isSome = true

theorem Extends.refl (net : Network) : net.Extends net :=
  ⟨rfl, Iff.rfl, id, id⟩

theorem Extends.trans {between : Network} (hEarlier : net.Extends between)
    (hLater : between.Extends after) : net.Extends after :=
  ⟨hLater.nextSnapshot_eq.trans hEarlier.nextSnapshot_eq,
    hLater.mem_nodes_iff.trans hEarlier.mem_nodes_iff,
    fun hLinked => hLater.linkedTo (hEarlier.linkedTo hLinked),
    fun hJoined => hLater.isSome_part? (hEarlier.isSome_part? hJoined)⟩

theorem Extends.reaches {origin name : String} (hExtends : net.Extends after)
    (hReaches : net.Reaches origin name) : after.Reaches origin name :=
  Relation.ReflTransGen.mono (fun _ _ hLinked => hExtends.linkedTo hLinked) _ _ hReaches

theorem Extends.isGrounded {snapshot : SnapshotId} (hExtends : net.Extends after)
    (hGrounded : net.IsGrounded snapshot) : after.IsGrounded snapshot := by
  obtain ⟨origin, hOrigin, hAll⟩ := hGrounded
  refine ⟨origin, hExtends.isSome_part? hOrigin, fun name hName => ?_⟩
  rcases hAll name (hExtends.mem_nodes_iff.mp hName) with hJoined | hReaches
  · exact Or.inl (hExtends.isSome_part? hJoined)
  · exact Or.inr (hExtends.reaches hReaches)

theorem Extends.grounded (hExtends : net.Extends after) (hGrounded : net.Grounded) :
    after.Grounded := by
  intro snapshot hStarted
  rw [hExtends.nextSnapshot_eq] at hStarted
  exact hExtends.isGrounded (hGrounded snapshot hStarted)

theorem MarkerEffect.nextSnapshot_eq {source target : String} {snapshot : SnapshotId}
    (hEffect : MarkerEffect net source target snapshot after) :
    after.nextSnapshot = net.nextSnapshot := by
  cases hEffect with
  | late hStale => rfl
  | repeated hCurrent hNode hRecording hSeen => rfl
  | first hNode hFresh hFound hAwaited hTargets hParcels => exact nextSnapshot_withRecording ..
  | next hNode hRecording hUnseen hFound hAwaited => exact nextSnapshot_withRecording ..

/-- No snapshot is opened from within. -/
theorem Change.nextSnapshot_eq {happenings : List Happening}
    (hChange : Change net happenings after) (hInner : Inner happenings) :
    after.nextSnapshot = net.nextSnapshot := by
  cases hChange with
  | announce hName hNext => exact absurd (hInner _ List.mem_cons_self) Bool.false_ne_true
  | join hNode hFresh hFound hAwaited hTargets hParcels => exact nextSnapshot_withRecording ..
  | marker hQueue hEffect => exact hEffect.nextSnapshot_eq
  | _ => rfl

theorem Step.extends {happenings : List Happening} (hStep : Step net happenings after)
    (hWell : net.WellFormed) (hInner : Inner happenings) : net.Extends after := by
  have hChange := hStep.change hWell
  have hCut : ∀ snapshot, Cut.Step snapshot (net.cut snapshot) happenings (after.cut snapshot) :=
    fun _ => hChange.cut hWell hInner.honest
  refine ⟨hChange.nextSnapshot_eq hInner, fun {name} => ?_,
    fun hLinked => (hCut 0).linked_of_linked hLinked, fun hJoined => (hCut _).isSome_part hJoined⟩
  rw [mem_nodes_iff 0, mem_nodes_iff 0, (hCut 0).isSome_balance hInner]

theorem Evolves.extends (hEvolves : net.Evolves after) (hWell : net.WellFormed) :
    net.Extends after := by
  obtain ⟨trace, hRun, hInner⟩ := hEvolves
  induction hRun with
  | start => exact Extends.refl net
  | step hEarlier hStep ih =>
      obtain ⟨hBefore, hNow⟩ := inner_append.mp hInner
      exact (ih hBefore).trans (hStep.extends (hEarlier.wellFormed hWell) hNow)

/-! ### The start of a snapshot -/

/-- A snapshot is opened at a node that exists. -/
theorem Change.mem_of_announced {name : String} {snapshot : SnapshotId}
    (hChange : Change net [.announced name snapshot] after) : name ∈ net.nodes.keys := by
  generalize hTrace : [Happening.announced name snapshot] = happenings at hChange
  cases hChange with
  | announce hName hNext =>
      cases hTrace
      exact hName
  | marker hQueue hEffect hDue =>
      -- What a delivery makes happen is no such thing.
      have hInner : Inner [.announced name snapshot] := hTrace ▸ net.inner_arrival _
      exact absurd (hInner _ List.mem_cons_self) Bool.false_ne_true
  | _ => cases hTrace

/-- The snapshots that have been started stay grounded when another one is opened. -/
theorem WellFormed.isGrounded_announced {snapshot : SnapshotId} (hWell : net.WellFormed)
    (name : String) (next : SnapshotId) (hGrounded : net.IsGrounded snapshot) :
    (net.announced name next).IsGrounded snapshot := by
  have hPart : (net.announced name next).part? snapshot = net.part? snapshot :=
    congrArg Cut.part (hWell.cut_announced name)
  obtain ⟨origin, hOrigin, hAll⟩ := hGrounded
  unfold IsGrounded
  rw [hPart]
  exact ⟨origin, hOrigin, hAll⟩

/-- A snapshot is grounded once all nodes have started it that its initiator cannot reach. -/
theorem isGrounded_of_started {snapshot : SnapshotId} {name : String} (hWell : net.WellFormed)
    (hName : name ∈ net.nodes.keys) (hExtends : net.Extends after)
    (hStarted : ∀ other ∈ name :: net.unreachableFrom name,
      (after.part? snapshot other).isSome = true) : after.IsGrounded snapshot := by
  refine ⟨name, hStarted name List.mem_cons_self, fun other hOther => ?_⟩
  -- What the search finds can be reached, and everything else has started.
  by_cases hReached : other ∈ SortedMap.keys (net.reachableFrom name)
  · exact Or.inr (hExtends.reaches ((mem_reachableFrom_iff hWell.wired hName).mp hReached))
  · refine Or.inl (hStarted other (List.mem_cons_of_mem _ ?_))
    exact mem_unreachableFrom_iff.mpr ⟨hExtends.mem_nodes_iff.mp hOther, hReached⟩

/-- All snapshots are grounded after the start of one. -/
theorem Starts.grounded {name : String} (hStarts : net.Starts name after)
    (hWell : net.WellFormed) (hGrounded : net.Grounded) : after.Grounded := by
  obtain ⟨next, hNext, hOpen, hEvolves, hStarted⟩ := hStarts
  have hOpened := hOpen.run.wellFormed hWell
  have hExtends := hEvolves.extends hOpened
  intro snapshot hBelow
  rw [hExtends.nextSnapshot_eq] at hBelow
  -- Older snapshots stay grounded, and the new one is grounded by the nodes that started it.
  rcases (lt_next_iff hNext).mp hBelow with hOld | rfl
  · exact hExtends.isGrounded (hWell.isGrounded_announced _ _ (hGrounded snapshot hOld))
  · have hName : name ∈ (net.announced name next).nodes.keys :=
      (hOpen.change hWell).mem_of_announced
    exact isGrounded_of_started hOpened hName hExtends hStarted

end Network
end TokenNet
