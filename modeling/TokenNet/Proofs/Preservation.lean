import TokenNet.Proofs.Effects

namespace TokenNet
namespace Network

/-!
# Changes that keep a network well-formed

One lemma for each of the changes that steps are put together from.
-/

namespace WellFormed

variable {net : Network}

theorem logged (hWell : net.WellFormed) (event : Event) : (net.logged event).WellFormed :=
  ⟨hWell.wired, hWell.recorded, hWell.marked, hWell.collected, hWell.frozen⟩

theorem popped (hWell : net.WellFormed) {link : Link} {parcel : Parcel} {rest : List Parcel}
    (hQueue : net.channels.queue link = parcel :: rest) : (net.popped link rest).WellFormed := by
  have hRest : ∀ later ∈ rest, later ∈ net.channels.queue link := by
    intro later hLater
    rw [hQueue]
    exact List.mem_cons_of_mem _ hLater
  exact
    ⟨hWell.wired.setQueue fun later hLater => hWell.wired.sound.parcel_link (hRest later hLater),
      hWell.recorded, hWell.marked.setQueue hRest, hWell.collected, hWell.frozen⟩

theorem posted (hWell : net.WellFormed) (generator : Generator) {parcels : List Parcel}
    (hLinks : ∀ parcel ∈ parcels, net.channels.contains parcel.link = true)
    (hMarkers : ∀ parcel ∈ parcels, ∀ snapshot, parcel.message = .marker snapshot →
      snapshot < net.nextSnapshot) : (net.posted generator parcels).WellFormed :=
  ⟨hWell.wired.postAll, hWell.recorded, hWell.marked.postAll hLinks hMarkers,
    hWell.collected, hWell.frozen⟩

/-- A node may change its balance and its recordings. -/
theorem withChanged (hWell : net.WellFormed) {name : String} {node changed : Node}
    (hNode : net.nodes.get? name = some node) (hName : changed.name = node.name)
    (hOutbound : changed.outbound = node.outbound) (hInbound : changed.inbound = node.inbound)
    (hRecordings : ∀ {snapshot recording}, changed.recordings.get? snapshot = some recording →
      recording.Sound snapshot node.inbound.keys ∧ recording.awaiting.keys ≠ [] ∧
        snapshot < net.nextSnapshot) : (net.withChanged changed).WellFormed := by
  have hSame : changed.name = name := hName.trans (hWell.wired.name_eq hNode)
  have hKeys : (net.nodes.insert name changed).keys = net.nodes.keys :=
    SortedMap.keys_insert_of_mem (SortedMap.mem_keys_of_get? hNode)
  unfold Network.withChanged
  rw [hSame]
  refine ⟨hWell.wired.setNode hNode hName hOutbound hInbound,
    hWell.recorded.setNode (hInbound ▸ hRecordings), hWell.marked, ?_, hWell.frozen⟩
  · show Collected (net.nodes.insert name changed).keys _ _ _
    rw [hKeys]
    exact hWell.collected

theorem admitted (hWell : net.WellFormed) {collector : Collector} {report : Report}
    (hFound : net.collectors.get? report.snapshot = some collector)
    (hAwaited : report.node ∈ collector.remaining.keys) :
    (net.admitted collector report).WellFormed :=
  ⟨hWell.wired, hWell.recorded, hWell.marked,
    hWell.collected.setCollector hFound ((hWell.collected.sound hFound).accepted hAwaited),
    hWell.frozen⟩

/-- A sound recording takes the place of whatever the node has kept for its snapshot. -/
theorem withRecording (hWell : net.WellFormed) {name : String} {node : Node} {snapshot : SnapshotId}
    {collector : Collector} {recording : Recording} (hNode : net.nodes.get? name = some node)
    (hFound : net.collectors.get? snapshot = some collector)
    (hAwaited : name ∈ collector.remaining.keys)
    (hSound : recording.Sound snapshot node.inbound.keys) :
    (net.withRecording node collector recording).WellFormed := by
  have hName : node.name = name := hWell.wired.name_eq hNode
  have hStarted : snapshot < net.nextSnapshot :=
    hWell.collected.started_iff.mpr (Or.inl (SortedMap.mem_keys_of_get? hFound))
  unfold Network.withRecording
  rw [hSound.snapshot_eq]
  by_cases hEmpty : recording.awaiting.isEmpty = true
  · rw [if_pos hEmpty]
    have hErased : (net.withChanged
        { node with recordings := node.recordings.erase snapshot }).WellFormed := by
      refine hWell.withChanged hNode rfl rfl rfl fun {other kept} hKept => ?_
      exact hWell.recorded hNode (SortedMap.get?_erase_eq_some_iff.mp hKept).2
    exact hErased.admitted (hSound.snapshot_eq.symm ▸ hFound) (hName.symm ▸ hAwaited)
  · rw [if_neg hEmpty]
    refine hWell.withChanged hNode rfl rfl rfl fun {other kept} hKept => ?_
    rcases SortedMap.get?_insert_eq_some_iff.mp hKept with ⟨rfl, rfl⟩ | ⟨-, hOld⟩
    · exact ⟨hSound, fun hNone => hEmpty (SortedMap.isEmpty_iff.mpr hNone), hStarted⟩
    · exact hWell.recorded hNode hOld

end WellFormed

end Network
end TokenNet
