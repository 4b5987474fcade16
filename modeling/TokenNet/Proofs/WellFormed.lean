import TokenNet.Network.Traffic
import TokenNet.Proofs.Collector
import TokenNet.Proofs.Queues
import TokenNet.Proofs.Recording

namespace TokenNet

/-!
# Well-formed networks

What holds of every network that calls can lead to, reports from outside included:
nodes and channels tell the same links (`Wired`), the recordings of a node sort its
sources into those seen and those awaited (`Recorded`), no marker is of a snapshot still
to come (`Marked`), and there is a sound collector for each snapshot that has been
started (`Collected`).  Each of the four is stated for the parts of the state that it
speaks of, and comes with what the changes of those parts do to it.
-/

/-- Nodes and channels tell the same links. -/
structure Wired (nodes : SortedMap String Node) (channels : ChannelTable) : Prop where
  /-- Channels and parcels are stored under their links. -/
  sound : channels.Sound
  /-- A node is stored under its name. -/
  name_eq : ∀ {name node}, nodes.get? name = some node → node.name = name
  /-- A node knows the links that lead away from it. -/
  mem_outbound_iff : ∀ {source target node}, nodes.get? source = some node →
    (target ∈ node.outbound.keys ↔ channels.contains ⟨source, target⟩ = true)
  /-- A node knows the links that lead to it. -/
  mem_inbound_iff : ∀ {source target node}, nodes.get? target = some node →
    (source ∈ node.inbound.keys ↔ channels.contains ⟨source, target⟩ = true)
  /-- Links start at nodes. -/
  source_known : ∀ {link}, channels.contains link = true → link.source ∈ nodes.keys
  /-- Links end at nodes. -/
  target_known : ∀ {link}, channels.contains link = true → link.target ∈ nodes.keys

/-- The recordings that nodes keep are sound, unfinished, and of snapshots below `next`. -/
def Recorded (nodes : SortedMap String Node) (next : SnapshotId) : Prop :=
  ∀ ⦃name node snapshot recording⦄, nodes.get? name = some node →
    node.recordings.get? snapshot = some recording →
      recording.Sound snapshot node.inbound.keys ∧ recording.awaiting.keys ≠ [] ∧
        snapshot < next

/-- The markers under way are of snapshots below `next`. -/
def Marked (channels : ChannelTable) (next : SnapshotId) : Prop :=
  ∀ ⦃link parcel snapshot⦄, parcel ∈ channels.queue link →
    parcel.message = .marker snapshot → snapshot < next

/-- Every snapshot below `next` has one collector, which is sound.  Those taken away are
complete. -/
structure Collected (names : List String) (collectors retired : SortedMap SnapshotId Collector)
    (next : SnapshotId) : Prop where
  /-- Collectors in use are sound. -/
  sound : ∀ {snapshot collector}, collectors.get? snapshot = some collector →
    collector.Sound snapshot names
  /-- Collectors taken away are sound and complete, and not in use. -/
  retired_sound : ∀ {snapshot collector}, retired.get? snapshot = some collector →
    collector.Sound snapshot names ∧ collector.isComplete = true ∧
      collectors.get? snapshot = none
  /-- The snapshots started are those with a collector. -/
  started_iff : ∀ {snapshot}, snapshot < next ↔
    snapshot ∈ collectors.keys ∨ snapshot ∈ retired.keys

/-- What holds of every network that calls can lead to. -/
structure Network.WellFormed (net : Network) : Prop where
  /-- Nodes and channels tell the same links. -/
  wired : Wired net.nodes net.channels
  /-- Recordings are sound. -/
  recorded : Recorded net.nodes net.nextSnapshot
  /-- Markers are of snapshots started. -/
  marked : Marked net.channels net.nextSnapshot
  /-- Collectors are sound. -/
  collected : Collected net.nodes.keys net.collectors net.retired net.nextSnapshot
  /-- Nothing can be added once a snapshot has been started. -/
  frozen : net.nextSnapshot ≠ 0 → net.started = true

/-- Whoever is awaited has not reported. -/
theorem Network.WellFormed.not_mem_reported {net : Network} {snapshot : SnapshotId}
    {collector : Collector} {name : String} (hWell : net.WellFormed)
    (hFound : net.collectors.get? snapshot = some collector)
    (hAwaited : name ∈ collector.remaining.keys) : name ∉ collector.reported.keys :=
  ((hWell.collected.sound hFound).awaited_iff.mp hAwaited).2

/-! ### Changes of a node -/

section Node

variable {nodes : SortedMap String Node} {channels : ChannelTable} {next : SnapshotId}
  {name : String} {node changed : Node}

/-- A node that does not know a receiver has no link to it. -/
theorem Wired.not_contains {link : Link} (hWired : Wired nodes channels)
    (hNode : nodes.get? link.source = some node) (hNew : link.target ∉ node.outbound.keys) :
    ¬ channels.contains link = true :=
  fun hLink => hNew ((hWired.mem_outbound_iff hNode).mpr hLink)

/-- The markers of a node go onto links. -/
theorem Wired.contains_markers {snapshot : SnapshotId} {parcels : List Parcel}
    (hWired : Wired nodes channels) (hNode : nodes.get? name = some node)
    (hTargets : parcels.map Parcel.target = node.outbound.keys)
    (hParcels : ∀ parcel ∈ parcels, parcel.source = name ∧ parcel.message = .marker snapshot) :
    ∀ parcel ∈ parcels, channels.contains parcel.link = true := by
  intro parcel hParcel
  have hTarget : parcel.target ∈ node.outbound.keys := hTargets ▸ List.mem_map_of_mem hParcel
  have hLink := (hWired.mem_outbound_iff hNode).mp hTarget
  rw [← (hParcels parcel hParcel).1] at hLink
  exact hLink

theorem Wired.setNode (hWired : Wired nodes channels) (hFound : nodes.get? name = some node)
    (hName : changed.name = node.name) (hOutbound : changed.outbound = node.outbound)
    (hInbound : changed.inbound = node.inbound) :
    Wired (nodes.insert name changed) channels := by
  have hLookup : ∀ {other found}, (nodes.insert name changed).get? other = some found →
      ∃ old, nodes.get? other = some old ∧ found.name = old.name ∧
        found.outbound = old.outbound ∧ found.inbound = old.inbound := by
    intro other found hInserted
    rcases SortedMap.get?_insert_eq_some_iff.mp hInserted with ⟨rfl, rfl⟩ | ⟨-, hOld⟩
    · exact ⟨node, hFound, hName, hOutbound, hInbound⟩
    · exact ⟨found, hOld, rfl, rfl, rfl⟩
  have hKeys : (nodes.insert name changed).keys = nodes.keys :=
    SortedMap.keys_insert_of_mem (SortedMap.mem_keys_of_get? hFound)
  refine ⟨hWired.sound, fun hNode => ?_, fun hNode => ?_, fun hNode => ?_, fun hLink => ?_,
    fun hLink => ?_⟩
  · obtain ⟨old, hOld, hSame, -, -⟩ := hLookup hNode
    exact hSame.trans (hWired.name_eq hOld)
  · obtain ⟨old, hOld, -, hSame, -⟩ := hLookup hNode
    rw [hSame]
    exact hWired.mem_outbound_iff hOld
  · obtain ⟨old, hOld, -, -, hSame⟩ := hLookup hNode
    rw [hSame]
    exact hWired.mem_inbound_iff hOld
  · rw [hKeys]
    exact hWired.source_known hLink
  · rw [hKeys]
    exact hWired.target_known hLink

theorem Recorded.setNode (hRecorded : Recorded nodes next)
    (hRecordings : ∀ {snapshot recording}, changed.recordings.get? snapshot = some recording →
      recording.Sound snapshot changed.inbound.keys ∧ recording.awaiting.keys ≠ [] ∧
        snapshot < next) :
    Recorded (nodes.insert name changed) next := by
  intro other found snapshot recording hNode hRecording
  rcases SortedMap.get?_insert_eq_some_iff.mp hNode with ⟨-, rfl⟩ | ⟨-, hOld⟩
  · exact hRecordings hRecording
  · exact hRecorded hOld hRecording

end Node

/-! ### Changes of a queue -/

section Queue

variable {nodes : SortedMap String Node} {channels : ChannelTable} {next : SnapshotId}

theorem Wired.setQueue {link : Link} {parcels : List Parcel} (hWired : Wired nodes channels)
    (hParcels : ∀ parcel ∈ parcels, parcel.link = link) :
    Wired nodes (channels.setQueue link parcels) := by
  refine ⟨hWired.sound.setQueue hParcels, hWired.name_eq, fun hNode => ?_, fun hNode => ?_,
    fun hLink => ?_, fun hLink => ?_⟩
  · rw [ChannelTable.contains_setQueue]
    exact hWired.mem_outbound_iff hNode
  · rw [ChannelTable.contains_setQueue]
    exact hWired.mem_inbound_iff hNode
  · rw [ChannelTable.contains_setQueue] at hLink
    exact hWired.source_known hLink
  · rw [ChannelTable.contains_setQueue] at hLink
    exact hWired.target_known hLink

theorem Wired.postAll {parcels : List Parcel} (hWired : Wired nodes channels) :
    Wired nodes (channels.postAll parcels) := by
  induction parcels generalizing channels with
  | nil => exact hWired
  | cons parcel rest ih =>
      refine ih (hWired.setQueue fun other hOther => ?_)
      rcases List.mem_append.mp hOther with hOld | hNew
      · exact hWired.sound.parcel_link hOld
      · rw [List.mem_singleton.mp hNew]

theorem Marked.setQueue {link : Link} {parcels : List Parcel} (hMarked : Marked channels next)
    (hParcels : ∀ parcel ∈ parcels, parcel ∈ channels.queue link) :
    Marked (channels.setQueue link parcels) next := by
  intro other parcel snapshot hMember hMarker
  by_cases hLink : channels.contains link = true
  · rw [ChannelTable.queue_setQueue hLink] at hMember
    by_cases hEqual : link = other
    · rw [if_pos hEqual] at hMember
      exact hMarked (hParcels parcel hMember) hMarker
    · rw [if_neg hEqual] at hMember
      exact hMarked hMember hMarker
  · have hNone : (channels.setQueue link parcels).queue other = channels.queue other := by
      unfold ChannelTable.setQueue
      cases hFound : channels.get? link with
      | none => rfl
      | some channel => exact absurd (ChannelTable.contains_iff.mpr ⟨channel, hFound⟩) hLink
    rw [hNone] at hMember
    exact hMarked hMember hMarker

theorem Marked.postAll {parcels : List Parcel} (hMarked : Marked channels next)
    (hLinks : ∀ parcel ∈ parcels, channels.contains parcel.link = true)
    (hParcels : ∀ parcel ∈ parcels, ∀ snapshot, parcel.message = .marker snapshot →
      snapshot < next) :
    Marked (channels.postAll parcels) next := by
  intro link parcel snapshot hMember hMarker
  rw [ChannelTable.queue_postAll hLinks] at hMember
  rcases List.mem_append.mp hMember with hOld | hNew
  · exact hMarked hOld hMarker
  · exact hParcels parcel (List.mem_filter.mp hNew |>.1) snapshot hMarker

end Queue

/-! ### Changes of a collector -/

theorem Collected.setCollector {names : List String}
    {collectors retired : SortedMap SnapshotId Collector} {next snapshot : SnapshotId}
    {collector changed : Collector} (hCollected : Collected names collectors retired next)
    (hFound : collectors.get? snapshot = some collector)
    (hSound : changed.Sound snapshot names) :
    Collected names (collectors.insert snapshot changed) retired next := by
  have hKeys : (collectors.insert snapshot changed).keys = collectors.keys :=
    SortedMap.keys_insert_of_mem (SortedMap.mem_keys_of_get? hFound)
  refine ⟨fun {other found} hOther => ?_, fun {other found} hRetired => ?_, fun {other} => ?_⟩
  · rcases SortedMap.get?_insert_eq_some_iff.mp hOther with ⟨rfl, rfl⟩ | ⟨-, hOld⟩
    · exact hSound
    · exact hCollected.sound hOld
  · obtain ⟨hOld, hComplete, hUnused⟩ := hCollected.retired_sound hRetired
    refine ⟨hOld, hComplete, ?_⟩
    have hDifferent : snapshot ≠ other := fun hEqual => by
      rw [← hEqual, hFound] at hUnused
      cases hUnused
    rw [SortedMap.get?_insert_of_ne _ _ hDifferent]
    exact hUnused
  · rw [hKeys]
    exact hCollected.started_iff

end TokenNet
