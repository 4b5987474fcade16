import TokenNet.Proofs.Marks
import TokenNet.Proofs.Reachable

namespace TokenNet

/-!
# The cut of a snapshot in a network

`Network.cut` is what a snapshot sees of a network.  A node takes part if its report is kept by
the collector, in use or taken away, or if it keeps a recording; for the cut there is no
difference between the two.  Each change of a network is a step of each of its cuts
(`Network.Change.cut`), unless a report is handed in from outside.
-/

/-- What a parcel is for a snapshot: tokens, the marker, or nothing. -/
def Parcel.item? (snapshot : SnapshotId) (parcel : Parcel) : Option Cut.Item :=
  match parcel.message with
  | .token amount => some (.tokens amount)
  | .marker other => if other = snapshot then some .mark else none

namespace Part

/-- What a node that keeps a recording has recorded. -/
def ofRecording (recording : Recording) : Part :=
  ⟨recording.balance, recording.awaiting.keys, recording.inFlight⟩

/-- What a node that has reported has recorded. -/
def ofReport (report : Report) : Part := ⟨report.balance, [], report.inFlight⟩

theorem note_of_not_mem {transfer : Transfer} {part : Part}
    (hSeen : transfer.source ∉ part.awaits) : part.note transfer = part := by
  unfold note
  rw [if_neg fun hBoth => hSeen hBoth.1]

theorem note_of_not_pos {transfer : Transfer} {part : Part} (hNothing : ¬ 0 < transfer.amount) :
    part.note transfer = part := by
  unfold note
  rw [if_neg fun hBoth => hNothing hBoth.2]

theorem see_of_not_mem {source : String} {part : Part} (hSeen : source ∉ part.awaits) :
    part.see source = part := by
  have hSame : part.awaits.filter (fun other => other ≠ source) = part.awaits :=
    List.filter_eq_self.mpr fun other hOther =>
      decide_eq_true fun hEqual => hSeen (hEqual ▸ hOther)
  unfold see
  rw [hSame]

theorem ofRecording_note {recording : Recording} {transfer : Transfer}
    (hAmount : 0 < transfer.amount) :
    ofRecording (recording.note transfer) = (ofRecording recording).note transfer := by
  unfold Recording.note note
  by_cases hAwaits : transfer.source ∈ recording.awaiting.keys
  · have hContains : recording.awaiting.contains transfer.source = true :=
      SortedMap.contains_iff.mpr hAwaits
    rw [if_pos hContains, if_pos ⟨hAwaits, hAmount⟩]
    rfl
  · have hMissing : ¬ recording.awaiting.contains transfer.source = true := fun hContains =>
      hAwaits (SortedMap.contains_iff.mp hContains)
    rw [if_neg hMissing, if_neg fun hBoth => hAwaits hBoth.1]

theorem ofRecording_see (recording : Recording) (source : String) :
    ofRecording (recording.see source) = (ofRecording recording).see source := by
  unfold ofRecording see
  exact congrArg (Part.mk recording.balance · recording.inFlight) (SortedMap.keys_erase ..)

end Part

namespace Network

/-- The report of a node that has been handed in for a snapshot. -/
def report? (net : Network) (snapshot : SnapshotId) (name : String) : Option Report :=
  (net.collectorOf? ⟨snapshot⟩).bind fun collector => collector.reported.get? name

/-- The recording that a node keeps of a snapshot. -/
def recording? (net : Network) (snapshot : SnapshotId) (name : String) : Option Recording :=
  (net.nodes.get? name).bind fun node => node.recordings.get? snapshot

/-- What a node that takes part in a snapshot has recorded. -/
def part? (net : Network) (snapshot : SnapshotId) (name : String) : Option Part :=
  match net.report? snapshot name with
  | some report => some (Part.ofReport report)
  | none => (net.recording? snapshot name).map Part.ofRecording

/-- What a snapshot sees of a network. -/
def cut (snapshot : SnapshotId) (net : Network) : Cut where
  balance name := (net.nodes.get? name).map Node.tokens
  linked link := net.channels.contains link
  flow link := (net.channels.queue link).filterMap (Parcel.item? snapshot)
  part := net.part? snapshot

/-! ### Parts -/

theorem recording?_withChanged (net : Network) (changed : Node) (snapshot : SnapshotId)
    (name : String) :
    (net.withChanged changed).recording? snapshot name =
      if changed.name = name then changed.recordings.get? snapshot
      else net.recording? snapshot name := by
  unfold recording? withChanged
  rw [SortedMap.get?_insert]
  split <;> rfl

theorem collectorOf?_of_get? {net : Network} {snapshot : SnapshotId} {collector : Collector}
    (hFound : net.collectors.get? snapshot = some collector) :
    net.collectorOf? ⟨snapshot⟩ = some collector := by
  unfold collectorOf?
  rw [hFound]

theorem collectorOf?_of_retired {net : Network} {snapshot : SnapshotId} {collector : Collector}
    (hUnused : net.collectors.get? snapshot = none)
    (hRetired : net.retired.get? snapshot = some collector) :
    net.collectorOf? ⟨snapshot⟩ = some collector := by
  unfold collectorOf?
  rw [hUnused]
  exact hRetired

theorem report?_of_collectorOf? {net : Network} {snapshot : SnapshotId} {collector : Collector}
    (hFound : net.collectorOf? ⟨snapshot⟩ = some collector) (name : String) :
    net.report? snapshot name = collector.reported.get? name := by
  unfold report?
  rw [hFound, Option.bind_some]

theorem report?_of_get? {net : Network} {snapshot : SnapshotId} {collector : Collector}
    (hFound : net.collectors.get? snapshot = some collector) (name : String) :
    net.report? snapshot name = collector.reported.get? name :=
  report?_of_collectorOf? (collectorOf?_of_get? hFound) name

theorem collectorOf?_admitted (net : Network) (collector : Collector) (report : Report)
    (snapshot : SnapshotId) :
    (net.admitted collector report).collectorOf? ⟨snapshot⟩ =
      if report.snapshot = snapshot then some (collector.accepted report)
      else net.collectorOf? ⟨snapshot⟩ := by
  unfold collectorOf? admitted
  simp only
  rw [SortedMap.get?_insert]
  by_cases hSnapshot : report.snapshot = snapshot <;> simp [hSnapshot]

/-- Handles go on saying the same when a collector is taken away. -/
theorem collectorOf?_retire {net : Network} {retired : SnapshotId} {collector : Collector}
    (hFound : net.collectors.get? retired = some collector) (snapshot : SnapshotId) :
    (net.retire retired collector).collectorOf? ⟨snapshot⟩ = net.collectorOf? ⟨snapshot⟩ := by
  unfold collectorOf? retire
  simp only
  rw [SortedMap.get?_erase, SortedMap.get?_insert]
  by_cases hEqual : retired = snapshot
  · subst hEqual
    simp only [if_true, hFound]
  · simp only [hEqual, if_false]

theorem report?_admitted {net : Network} {collector : Collector} {report : Report}
    (hFound : net.collectors.get? report.snapshot = some collector) (snapshot : SnapshotId)
    (name : String) :
    (net.admitted collector report).report? snapshot name =
      if report.snapshot = snapshot ∧ report.node = name then some report
      else net.report? snapshot name := by
  unfold report?
  rw [collectorOf?_admitted]
  by_cases hSnapshot : report.snapshot = snapshot
  · subst hSnapshot
    rw [if_pos rfl, collectorOf?_of_get? hFound]
    refine (SortedMap.get?_insert ..).trans ?_
    by_cases hNode : report.node = name <;> simp [hNode]
  · rw [if_neg hSnapshot, if_neg fun hBoth => hSnapshot hBoth.1]

theorem part?_of_report? {net : Network} {snapshot : SnapshotId} {name : String} {report : Report}
    (hReport : net.report? snapshot name = some report) :
    net.part? snapshot name = some (Part.ofReport report) := by
  unfold part?
  rw [hReport]

theorem part?_of_recording? {net : Network} {snapshot : SnapshotId} {name : String}
    (hReport : net.report? snapshot name = none) :
    net.part? snapshot name = (net.recording? snapshot name).map Part.ofRecording := by
  unfold part?
  rw [hReport]

theorem part?_congr {net after : Network} {snapshot : SnapshotId} {name : String}
    (hReport : after.report? snapshot name = net.report? snapshot name)
    (hRecording : after.recording? snapshot name = net.recording? snapshot name) :
    after.part? snapshot name = net.part? snapshot name := by
  unfold part?
  rw [hReport, hRecording]

/-- Parts do not depend on what is under way. -/
theorem part?_of_same {net after : Network} (hNodes : after.nodes = net.nodes)
    (hCollectors : after.collectors = net.collectors) (hRetired : after.retired = net.retired)
    (snapshot : SnapshotId) : after.part? snapshot = net.part? snapshot := by
  funext name
  unfold part? report? recording? collectorOf?
  rw [hNodes, hCollectors, hRetired]

/-- A node that is changed in its recording of one snapshot keeps those of the others. -/
theorem recording?_withChanged_of_other {net : Network} {node changed : Node}
    {recorded snapshot : SnapshotId} {name : String}
    (hNode : net.nodes.get? node.name = some node) (hName : changed.name = node.name)
    (hOthers : recorded ≠ snapshot →
      changed.recordings.get? snapshot = node.recordings.get? snapshot)
    (hOther : ¬ (recorded = snapshot ∧ node.name = name)) :
    (net.withChanged changed).recording? snapshot name = net.recording? snapshot name := by
  rw [recording?_withChanged, hName]
  by_cases hHere : node.name = name
  · rw [if_pos hHere, hOthers fun hEqual => hOther ⟨hEqual, hHere⟩, ← hHere]
    unfold recording?
    rw [hNode, Option.bind_some]
  · exact if_neg hHere

/-- The recording that a node is given is its part of the snapshot, whether it is kept or
handed in. -/
theorem part?_withRecording {net : Network} {node : Node} {collector : Collector}
    {recording : Recording}
    (hFound : net.collectors.get? recording.snapshot = some collector)
    (hNode : net.nodes.get? node.name = some node)
    (hOpen : node.name ∉ collector.reported.keys) (snapshot : SnapshotId) (name : String) :
    (net.withRecording node collector recording).part? snapshot name =
      if recording.snapshot = snapshot ∧ node.name = name then
        some (Part.ofRecording recording)
      else net.part? snapshot name := by
  unfold withRecording
  by_cases hEmpty : recording.awaiting.isEmpty = true
  · -- No marker is to come, so the recording is handed in.
    rw [if_pos hEmpty]
    have hHandedIn : ((net.withChanged
        { node with recordings := node.recordings.erase recording.snapshot }).admitted collector
          (recording.report node.name)).report? snapshot name =
        if recording.snapshot = snapshot ∧ node.name = name then
          some (recording.report node.name)
        else net.report? snapshot name := report?_admitted hFound snapshot name
    by_cases hBoth : recording.snapshot = snapshot ∧ node.name = name
    · rw [if_pos hBoth] at hHandedIn ⊢
      rw [part?_of_report? hHandedIn]
      unfold Part.ofReport Part.ofRecording
      rw [SortedMap.isEmpty_iff.mp hEmpty]
      rfl
    · rw [if_neg hBoth] at hHandedIn ⊢
      -- The other recordings of the node, and all other nodes, are left alone.
      refine part?_congr hHandedIn (recording?_withChanged_of_other hNode rfl ?_ hBoth)
      intro hDifferent
      rw [SortedMap.get?_erase, if_neg hDifferent]
  · rw [if_neg hEmpty]
    by_cases hBoth : recording.snapshot = snapshot ∧ node.name = name
    · obtain ⟨rfl, rfl⟩ := hBoth
      rw [if_pos ⟨rfl, rfl⟩]
      refine (part?_of_recording? ?_).trans ?_
      · exact (report?_of_get? hFound _).trans (SortedMap.get?_eq_none_iff.mpr hOpen)
      · rw [recording?_withChanged, if_pos rfl, SortedMap.get?_insert_self, Option.map_some]
    · rw [if_neg hBoth]
      exact part?_congr rfl
        (recording?_withChanged_of_other hNode rfl (SortedMap.get?_insert_of_ne _ _) hBoth)

/-- Nobody takes part in a snapshot that has not been started. -/
theorem WellFormed.part?_eq_none {net : Network} (hWell : net.WellFormed) {snapshot : SnapshotId}
    (hFresh : ¬ snapshot < net.nextSnapshot) (name : String) : net.part? snapshot name = none := by
  obtain ⟨hUnused, hUnretired⟩ := hWell.collected.get?_eq_none hFresh
  have hReport : net.report? snapshot name = none := by
    unfold report? collectorOf?
    simp only [hUnused, hUnretired]
    rfl
  rw [part?_of_recording? hReport, Option.map_eq_none_iff]
  unfold recording?
  cases hNode : net.nodes.get? name with
  | none => rfl
  | some node =>
      cases hRecording : node.recordings.get? snapshot with
      | none => rw [Option.bind_some, hRecording]
      | some recording => exact absurd (hWell.recorded hNode hRecording).2.2 hFresh

/-! ### Queues -/

variable {net : Network} {snapshot : SnapshotId}

theorem flow_cut (link : Link) :
    (net.cut snapshot).flow link =
      (net.channels.queue link).filterMap (Parcel.item? snapshot) := rfl

theorem linked_cut (link : Link) :
    (net.cut snapshot).linked link = net.channels.contains link := rfl

theorem mem_nodes_iff (snapshot : SnapshotId) {name : String} :
    name ∈ net.nodes.keys ↔ ((net.cut snapshot).balance name).isSome = true := by
  show _ ↔ ((net.nodes.get? name).map Node.tokens).isSome = true
  rw [SortedMap.mem_keys_iff, Option.isSome_map, Option.isSome_iff_exists]

theorem item?_marker (parcel : Parcel) {other : SnapshotId} (hMarker : parcel.message = .marker other) :
    Parcel.item? snapshot parcel = if other = snapshot then some .mark else none := by
  unfold Parcel.item?
  rw [hMarker]

/-- A parcel that has left its channel has left the cut. -/
theorem cut_taken (parcel : Parcel) {rest : List Parcel}
    (hQueue : net.channels.queue parcel.link = parcel :: rest) :
    (net.taken parcel rest).cut snapshot =
      (net.cut snapshot).setFlow parcel.link (rest.filterMap (Parcel.item? snapshot)) := by
  have hLink : net.channels.contains parcel.link = true :=
    ChannelTable.contains_of_mem_queue (hQueue ▸ List.mem_cons_self)
  have hLinked : ∀ other, (net.taken parcel rest).channels.contains other =
      net.channels.contains other := fun other =>
    net.channels.contains_setQueue parcel.link other rest
  have hQueues : ∀ other, (net.taken parcel rest).channels.queue other =
      if parcel.link = other then rest else net.channels.queue other := fun other =>
    ChannelTable.queue_setQueue hLink ..
  refine Cut.ext rfl (funext fun other => ?_) (funext fun other => ?_)
    (part?_of_same rfl rfl rfl snapshot)
  · rw [linked_cut, hLinked, Cut.linked_setFlow, linked_cut]
  · rw [flow_cut, hQueues, Cut.flow_setFlow, flow_cut]
    split <;> rfl

/-- Of the markers that a node sends to all its receivers, each of its links gets one. -/
theorem filterMap_markers {parcels : List Parcel} {name : String} {other : SnapshotId}
    (hNodup : (parcels.map Parcel.target).Nodup)
    (hParcels : ∀ parcel ∈ parcels, parcel.source = name ∧ parcel.message = .marker other)
    (link : Link) :
    (parcels.filter fun parcel => parcel.link = link).filterMap (Parcel.item? snapshot) =
      if other = snapshot ∧ link.source = name ∧ link.target ∈ parcels.map Parcel.target then
        [.mark]
      else [] := by
  induction parcels with
  | nil => simp
  | cons parcel rest ih =>
      obtain ⟨hFresh, hRest⟩ := List.nodup_cons.mp hNodup
      obtain ⟨hSource, hMessage⟩ := hParcels parcel List.mem_cons_self
      have hLater := ih hRest fun later hLater => hParcels later (List.mem_cons_of_mem _ hLater)
      rw [List.filter_cons]
      by_cases hLink : parcel.link = link
      · have hTarget : link.target = parcel.target := (congrArg Link.target hLink).symm
        -- The head is the marker of the link, and none of the later ones has its target.
        have hHere : link.source = name := (congrArg Link.source hLink).symm.trans hSource
        have hNone : link.target ∉ rest.map Parcel.target := hTarget ▸ hFresh
        rw [if_pos (decide_eq_true hLink), List.filterMap_cons, item?_marker parcel hMessage, hLater,
          if_neg (not_and_of_not_right _ (not_and_of_not_right _ hNone)), List.map_cons]
        by_cases hOther : other = snapshot
        · have hHead : link.target ∈ parcel.target :: rest.map Parcel.target :=
            hTarget ▸ List.mem_cons_self
          rw [if_pos hOther, if_pos ⟨hOther, hHere, hHead⟩]
        · rw [if_neg hOther, if_neg fun hAll => hOther hAll.1]
      · -- The head is the marker of another link.
        have hElsewhere : link.source = name → link.target ≠ parcel.target := fun hHere hTarget =>
          hLink (Link.ext (hSource.trans hHere.symm) hTarget.symm)
        rw [if_neg (by simp [hLink]), hLater]
        have hSame : link.source = name ∧ link.target ∈ rest.map Parcel.target ↔
            link.source = name ∧ link.target ∈ (parcel :: rest).map Parcel.target := by
          rw [List.map_cons, List.mem_cons]
          exact and_congr_right fun hHere => (or_iff_right (hElsewhere hHere)).symm
        simp only [hSame]

section Markers

variable {node : Node} {name : String} {other : SnapshotId} {generator : Generator}
  {parcels : List Parcel}

/-- Of the markers that a node sends to all its receivers, each link that leads away from it gets
one. -/
theorem filterMap_markers_of_node (hWired : Wired net.nodes net.channels)
    (hNode : net.nodes.get? name = some node)
    (hTargets : parcels.map Parcel.target = node.outbound.keys)
    (hParcels : ∀ parcel ∈ parcels, parcel.source = name ∧ parcel.message = .marker other)
    (link : Link) :
    (parcels.filter fun parcel => parcel.link = link).filterMap (Parcel.item? snapshot) =
      if other = snapshot ∧ link.source = name ∧ net.channels.contains link = true then [.mark]
      else [] := by
  have hNodup : (parcels.map Parcel.target).Nodup := hTargets ▸ node.outbound.nodup_keys
  have hSame : link.source = name ∧ link.target ∈ parcels.map Parcel.target ↔
      link.source = name ∧ net.channels.contains link = true := by
    rw [hTargets]
    apply and_congr_right
    intro hHere
    subst hHere
    exact hWired.mem_outbound_iff hNode
  rw [filterMap_markers hNodup hParcels]
  simp only [hSame]

/-- The markers that a node posts come behind all that is under way on its links. -/
theorem flow_posted_markers (hWired : Wired net.nodes net.channels)
    (hNode : net.nodes.get? name = some node)
    (hTargets : parcels.map Parcel.target = node.outbound.keys)
    (hParcels : ∀ parcel ∈ parcels, parcel.source = name ∧ parcel.message = .marker other)
    (link : Link) :
    ((net.posted generator parcels).cut snapshot).flow link =
      (net.cut snapshot).flow link ++
        if other = snapshot ∧ link.source = name ∧ net.channels.contains link = true then [.mark]
        else [] := by
  have hLinks := hWired.contains_markers hNode hTargets hParcels
  have hQueue : (net.posted generator parcels).channels.queue link = _ :=
    ChannelTable.queue_postAll hLinks link
  rw [flow_cut, hQueue, List.filterMap_append,
    filterMap_markers_of_node hWired hNode hTargets hParcels, flow_cut]

/-- The markers of a node are marks of one snapshot, and nothing to the others. -/
theorem cut_posted_markers (hWired : Wired net.nodes net.channels)
    (hNode : net.nodes.get? name = some node)
    (hTargets : parcels.map Parcel.target = node.outbound.keys)
    (hParcels : ∀ parcel ∈ parcels, parcel.source = name ∧ parcel.message = .marker other) :
    (net.posted generator parcels).cut snapshot =
      if other = snapshot then (net.cut snapshot).markFrom name else net.cut snapshot := by
  have hFlow : ∀ link, ((net.posted generator parcels).cut snapshot).flow link = _ :=
    flow_posted_markers hWired hNode hTargets hParcels
  have hLinked : ∀ link, (net.posted generator parcels).channels.contains link =
      net.channels.contains link := net.channels.contains_postAll parcels
  have hParts : (net.posted generator parcels).part? snapshot = net.part? snapshot :=
    part?_of_same rfl rfl rfl snapshot
  by_cases hOther : other = snapshot
  · rw [if_pos hOther]
    refine Cut.ext rfl (funext fun link => ?_) (funext fun link => ?_) hParts
    · rw [linked_cut, hLinked, Cut.linked_markFrom, linked_cut]
    · have hMarked : ((net.cut snapshot).markFrom name).flow link =
          if link.source = name ∧ net.channels.contains link = true then
            (net.cut snapshot).flow link ++ [.mark]
          else (net.cut snapshot).flow link := rfl
      rw [hFlow, hMarked]
      by_cases hHere : link.source = name ∧ net.channels.contains link = true
      · rw [if_pos hHere, if_pos ⟨hOther, hHere⟩]
      · rw [if_neg hHere, if_neg fun hAll => hHere hAll.2, List.append_nil]
  · rw [if_neg hOther]
    refine Cut.ext rfl (funext fun link => ?_) (funext fun link => ?_) hParts
    · rw [linked_cut, hLinked, linked_cut]
    · rw [hFlow, if_neg fun hAll => hOther hAll.1, List.append_nil]

end Markers

end Network

end TokenNet
