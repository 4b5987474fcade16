import TokenNet.Proofs.View

namespace TokenNet
namespace Network

/-!
# Networks refine their cuts

Each change of a well-formed network is a step of the cut of any snapshot, unless a report is
handed in from outside (`Change.cut`).  Runs therefore keep the marks of every snapshot
accounted for.
-/

variable {net : Network} {snapshot : SnapshotId}

theorem tokens_withChanged {node changed : Node} (hName : changed.name = node.name) (name : String) :
    ((net.withChanged changed).nodes.get? name).map Node.tokens =
      if node.name = name then some changed.tokens else (net.nodes.get? name).map Node.tokens := by
  unfold withChanged
  rw [SortedMap.get?_insert, hName]
  split <;> rfl

theorem tokens_withRecording {node : Node} (collector : Collector) (recording : Recording)
    (hNode : net.nodes.get? node.name = some node) (name : String) :
    ((net.withRecording node collector recording).nodes.get? name).map Node.tokens =
      (net.nodes.get? name).map Node.tokens := by
  have hSame : ∀ {changed : Node}, changed.name = node.name → changed.tokens = node.tokens →
      ((net.withChanged changed).nodes.get? name).map Node.tokens =
        (net.nodes.get? name).map Node.tokens := by
    intro changed hName hTokens
    rw [tokens_withChanged hName, hTokens]
    split
    · next hEqual => rw [← hEqual, hNode, Option.map_some]
    · rfl
  unfold withRecording
  split
  · exact hSame rfl rfl
  · exact hSame rfl rfl

/-- The cut of a snapshot after a node has been given a recording. -/
theorem cut_withRecording {node : Node} {collector : Collector} {recording : Recording}
    (hFound : net.collectors.get? recording.snapshot = some collector)
    (hNode : net.nodes.get? node.name = some node)
    (hOpen : node.name ∉ collector.reported.keys) :
    (net.withRecording node collector recording).cut snapshot =
      if recording.snapshot = snapshot then
        (net.cut snapshot).setPart node.name (Part.ofRecording recording)
      else net.cut snapshot := by
  have hBalance : ((net.withRecording node collector recording).cut snapshot).balance =
      (net.cut snapshot).balance := funext (tokens_withRecording collector recording hNode)
  have hLinked : ((net.withRecording node collector recording).cut snapshot).linked =
      (net.cut snapshot).linked := by
    funext link
    rw [linked_cut, linked_cut, channels_withRecording]
  have hFlow : ((net.withRecording node collector recording).cut snapshot).flow =
      (net.cut snapshot).flow := by
    funext link
    rw [flow_cut, flow_cut, channels_withRecording]
  have hPart := part?_withRecording hFound hNode hOpen snapshot
  by_cases hSame : recording.snapshot = snapshot
  · rw [if_pos hSame]
    refine Cut.ext hBalance hLinked hFlow (funext fun name => (hPart name).trans ?_)
    simp only [hSame, true_and]
    rfl
  · rw [if_neg hSame]
    refine Cut.ext hBalance hLinked hFlow (funext fun name => (hPart name).trans ?_)
    rw [if_neg fun hBoth => hSame hBoth.1]
    rfl

/-- A node that neither keeps a recording nor has reported does not take part. -/
theorem part?_eq_none_of_fresh {name : String} {node : Node} {collector : Collector}
    (hNode : net.nodes.get? name = some node) (hFresh : node.recordings.get? snapshot = none)
    (hFound : net.collectors.get? snapshot = some collector)
    (hOpen : name ∉ collector.reported.keys) : net.part? snapshot name = none := by
  have hReport : net.report? snapshot name = none :=
    (report?_of_get? hFound name).trans (SortedMap.get?_eq_none_iff.mpr hOpen)
  rw [part?_of_recording? hReport, Option.map_eq_none_iff]
  unfold recording?
  rw [hNode, Option.bind_some, hFresh]

/-- A node that does not take part keeps no recording and has not reported. -/
theorem fresh_of_part?_eq_none {name : String} {node : Node} {collector : Collector}
    (hNode : net.nodes.get? name = some node)
    (hFound : net.collectors.get? snapshot = some collector)
    (hIdle : net.part? snapshot name = none) :
    node.recordings.get? snapshot = none ∧ name ∉ collector.reported.keys := by
  have hReport : net.report? snapshot name = none := by
    cases hReported : net.report? snapshot name with
    | none => rfl
    | some report =>
        rw [part?_of_report? hReported] at hIdle
        cases hIdle
  rw [part?_of_recording? hReport, Option.map_eq_none_iff] at hIdle
  unfold recording? at hIdle
  rw [hNode, Option.bind_some] at hIdle
  rw [report?_of_get? hFound] at hReport
  exact ⟨hIdle, SortedMap.get?_eq_none_iff.mp hReport⟩

/-- A node that keeps a recording and has not reported takes part with it. -/
theorem part?_of_current {name : String} {node : Node} {collector : Collector}
    {recording : Recording} (hNode : net.nodes.get? name = some node)
    (hRecording : node.recordings.get? snapshot = some recording)
    (hFound : net.collectors.get? snapshot = some collector)
    (hOpen : name ∉ collector.reported.keys) :
    net.part? snapshot name = some (Part.ofRecording recording) := by
  have hReport : net.report? snapshot name = none :=
    (report?_of_get? hFound name).trans (SortedMap.get?_eq_none_iff.mpr hOpen)
  rw [part?_of_recording? hReport]
  unfold recording?
  rw [hNode, Option.bind_some, hRecording, Option.map_some]

theorem tokens_of_get? {name : String} {node : Node} (hNode : net.nodes.get? name = some node) :
    (net.cut snapshot).balance name = some node.tokens := by
  show (net.nodes.get? name).map Node.tokens = _
  rw [hNode, Option.map_some]

/-! ### Nodes that take part -/

section TakePart

variable {name : String} {joined : SnapshotId} {node : Node} {collector : Collector}
  {generator : Generator} {parcels : List Parcel} {trigger : Option String}

/-- The cut of a snapshot after a node has taken part in one. -/
theorem WellFormed.cut_takePart (hWell : net.WellFormed) (hNode : net.nodes.get? name = some node)
    (hFound : net.collectors.get? joined = some collector)
    (hAwaited : name ∈ collector.remaining.keys)
    (hTargets : parcels.map Parcel.target = node.outbound.keys)
    (hParcels : ∀ parcel ∈ parcels, parcel.source = name ∧ parcel.message = .marker joined) :
    ((net.posted generator parcels).withRecording node collector
        (node.freshRecording joined trigger)).cut snapshot =
      if joined = snapshot then
        ((net.cut snapshot).markFrom name).setPart name
          (Part.ofRecording (node.freshRecording joined trigger))
      else net.cut snapshot := by
  have hName : node.name = name := hWell.wired.name_eq hNode
  have hOpen := hWell.not_mem_reported hFound hAwaited
  have hAfter : ((net.posted generator parcels).withRecording node collector
      (node.freshRecording joined trigger)).cut snapshot =
      if joined = snapshot then ((net.posted generator parcels).cut snapshot).setPart node.name
        (Part.ofRecording (node.freshRecording joined trigger))
      else (net.posted generator parcels).cut snapshot :=
    cut_withRecording hFound (hName.symm ▸ hNode) (hName.symm ▸ hOpen)
  rw [hAfter, cut_posted_markers hWell.wired hNode hTargets hParcels, hName]
  split <;> rfl

/-- A node that takes part awaits the marks of its links, but for the one that made it do so. -/
theorem WellFormed.mem_awaits_takePart (hWell : net.WellFormed)
    (hNode : net.nodes.get? name = some node) (source : String) :
    source ∈ (Part.ofRecording (node.freshRecording joined trigger)).awaits ↔
      (net.cut snapshot).linked ⟨source, name⟩ = true ∧ trigger ≠ some source := by
  rw [linked_cut, ← hWell.wired.mem_inbound_iff hNode]
  exact Node.mem_awaiting_freshRecording

end TakePart

/-! ### Changes one by one -/

/-- A node takes part of its own accord. -/
theorem WellFormed.cut_join {name : String} {joined : SnapshotId} {node : Node}
    {collector : Collector} {generator : Generator} {parcels : List Parcel}
    (hWell : net.WellFormed) (hNode : net.nodes.get? name = some node)
    (hFresh : node.recordings.get? joined = none)
    (hFound : net.collectors.get? joined = some collector)
    (hAwaited : name ∈ collector.remaining.keys)
    (hTargets : parcels.map Parcel.target = node.outbound.keys)
    (hParcels : ∀ parcel ∈ parcels, parcel.source = name ∧ parcel.message = .marker joined) :
    Cut.Step snapshot (net.cut snapshot) [.joined name joined]
      (((net.posted generator parcels).withRecording node collector
        (node.freshRecording joined none)).cut snapshot) := by
  have hOpen := hWell.not_mem_reported hFound hAwaited
  rw [hWell.cut_takePart hNode hFound hAwaited hTargets hParcels]
  by_cases hSame : joined = snapshot
  · subst hSame
    rw [if_pos rfl]
    refine Cut.Step.join (part?_eq_none_of_fresh hNode hFresh hFound hOpen)
      (tokens_of_get? hNode) rfl fun source => ?_
    exact (hWell.mem_awaits_takePart hNode source).trans (and_iff_left (by simp))
  · rw [if_neg hSame]
    exact Cut.Step.other hSame

/-- A parcel leaves its channel. -/
theorem flow_of_queue (parcel : Parcel) {rest : List Parcel} {item : Cut.Item}
    (hQueue : net.channels.queue parcel.link = parcel :: rest)
    (hItem : parcel.item? snapshot = some item) :
    (net.cut snapshot).flow parcel.link = item :: rest.filterMap (Parcel.item? snapshot) := by
  rw [flow_cut, hQueue, List.filterMap_cons, hItem]

/-- A marker of another snapshot that leaves its channel does not change the cut. -/
theorem cut_taken_of_other (parcel : Parcel) {rest : List Parcel}
    (hQueue : net.channels.queue parcel.link = parcel :: rest)
    (hItem : parcel.item? snapshot = none) :
    (net.taken parcel rest).cut snapshot = net.cut snapshot := by
  rw [cut_taken parcel hQueue]
  refine Cut.ext rfl rfl (funext fun other => ?_) rfl
  rw [Cut.flow_setFlow]
  split
  · next hEqual => rw [← hEqual, flow_cut, hQueue, List.filterMap_cons, hItem]
  · rfl

theorem get?_recordings_credited (node : Node) (source : String) (amount tokens : UInt64) :
    (node.credited source amount tokens).recordings.get? snapshot =
      (node.recordings.get? snapshot).map fun recording =>
        if 0 < amount then recording.note ⟨source, node.name, amount⟩ else recording := by
  unfold Node.credited
  by_cases hAmount : 0 < amount
  · simp only [hAmount, if_true]
    exact SortedMap.get?_mapValues ..
  · simp [hAmount]

/-- The tokens that come to a node are written down in its part of the snapshot. -/
theorem part?_credited {source : String} {amount tokens : UInt64} {node : Node}
    (hNode : net.nodes.get? node.name = some node) (name : String) :
    (net.withChanged (node.credited source amount tokens)).part? snapshot name =
      if node.name = name then
        (net.part? snapshot name).map (Part.note ⟨source, node.name, amount⟩)
      else net.part? snapshot name := by
  have hRecording := net.recording?_withChanged (node.credited source amount tokens) snapshot name
  by_cases hName : node.name = name
  · subst hName
    rw [if_pos rfl]
    have hKept : net.recording? snapshot node.name = node.recordings.get? snapshot := by
      unfold recording?
      rw [hNode, Option.bind_some]
    have hSame : (node.credited source amount tokens).name = node.name := rfl
    rw [if_pos hSame, get?_recordings_credited] at hRecording
    cases hReport : net.report? snapshot node.name with
    | some report =>
        -- A report awaits nothing, so nothing is written down in it.
        have hAfter : (net.withChanged (node.credited source amount tokens)).report? snapshot
            node.name = some report := hReport
        rw [part?_of_report? hReport, part?_of_report? hAfter, Option.map_some,
          Part.note_of_not_mem List.not_mem_nil]
    | none =>
        have hAfter : (net.withChanged (node.credited source amount tokens)).report? snapshot
            node.name = none := hReport
        rw [part?_of_recording? hReport, part?_of_recording? hAfter, hKept, hRecording,
          Option.map_map, Option.map_map]
        refine congrArg (fun change => Option.map change (node.recordings.get? snapshot))
          (funext fun recording => ?_)
        -- Amounts of zero are written down neither in a recording nor in a part.
        by_cases hAmount : 0 < amount
        · simp only [Function.comp, hAmount, if_true]
          exact Part.ofRecording_note hAmount
        · simp only [Function.comp, hAmount, if_false]
          exact (Part.note_of_not_pos hAmount).symm
  · rw [if_neg hName]
    rw [if_neg (show (node.credited source amount tokens).name ≠ name from hName)] at hRecording
    exact part?_congr rfl hRecording

/-- The cut of a snapshot after tokens have been credited to a node. -/
theorem cut_credited (source : String) (amount tokens : UInt64) {node : Node}
    (hNode : net.nodes.get? node.name = some node) :
    (net.withChanged (node.credited source amount tokens)).cut snapshot =
      ((net.cut snapshot).setBalance node.name tokens).noteAt ⟨source, node.name, amount⟩ :=
  Cut.ext (funext (tokens_withChanged rfl)) rfl rfl (funext (part?_credited hNode))

/-- Tokens come to their receiver. -/
theorem WellFormed.cut_credit {source target : String} {amount due tokens : UInt64}
    {rest : List Parcel} {node : Node} (hWell : net.WellFormed)
    (hQueue : net.channels.queue ⟨source, target⟩ =
      ⟨source, target, .token amount, due⟩ :: rest)
    (hNode : net.nodes.get? target = some node)
    (hTokens : checkedAdd node.tokens amount = .ok tokens) :
    Cut.Step snapshot (net.cut snapshot) [.delivered ⟨source, target⟩ amount]
      (((net.taken ⟨source, target, .token amount, due⟩ rest).withChanged
        (node.credited source amount tokens)).cut snapshot) := by
  have hName : node.name = target := hWell.wired.name_eq hNode
  subst hName
  have hFlow : (net.cut snapshot).flow ⟨source, node.name⟩ =
      .tokens amount :: rest.filterMap (Parcel.item? snapshot) :=
    flow_of_queue ⟨source, node.name, .token amount, due⟩ hQueue rfl
  have hTaken : (net.taken ⟨source, node.name, .token amount, due⟩ rest).cut snapshot =
      (net.cut snapshot).setFlow ⟨source, node.name⟩ (rest.filterMap (Parcel.item? snapshot)) :=
    cut_taken ⟨source, node.name, .token amount, due⟩ hQueue
  have hAfter : ((net.taken ⟨source, node.name, .token amount, due⟩ rest).withChanged
      (node.credited source amount tokens)).cut snapshot = _ := cut_credited source amount tokens hNode
  rw [hAfter, hTaken]
  exact Cut.Step.deliver hFlow (tokens_of_get? hNode) hTokens

/-- A marker that is turned down changes nothing but its channel. -/
theorem see_of_turnedDown {link : Link} {items : List Cut.Item} {part : Part} {cut : Cut}
    (hPart : cut.part link.target = some part) (hSeen : link.source ∉ part.awaits) :
    (cut.setFlow link items).setPart link.target (part.see link.source) =
      cut.setFlow link items := by
  rw [Part.see_of_not_mem hSeen]
  refine Cut.ext rfl rfl rfl (funext fun name => ?_)
  show (if link.target = name then some part else cut.part name) = cut.part name
  split
  · next hEqual => rw [← hEqual, hPart]
  · rfl

/-- A node for which a marker comes too late has had all its markers. -/
theorem WellFormed.part?_of_stale {name : String} (hWell : net.WellFormed)
    (hStale : net.isStale snapshot name = true) (hStarted : snapshot < net.nextSnapshot)
    (hName : name ∈ net.nodes.keys) :
    ∃ part, net.part? snapshot name = some part ∧ part.awaits = [] := by
  have hReported : ∃ report, net.report? snapshot name = some report := by
    unfold isStale at hStale
    cases hFound : net.collectors.get? snapshot with
    | some collector =>
        rw [report?_of_get? hFound]
        simp only [hFound] at hStale
        exact SortedMap.mem_keys_iff.mp (Collector.hasReported_iff.mp hStale)
    | none =>
        -- The snapshot has been taken away, which needs every report.
        obtain ⟨collector, hRetired⟩ := hWell.collected.exists_retired hStarted hFound
        obtain ⟨hSound, hComplete, -⟩ := hWell.collected.retired_sound hRetired
        rw [report?_of_collectorOf? (collectorOf?_of_retired hFound hRetired)]
        exact SortedMap.mem_keys_iff.mp (hSound.isComplete_iff.mp hComplete name hName)
  obtain ⟨report, hReport⟩ := hReported
  exact ⟨Part.ofReport report, part?_of_report? hReport, rfl⟩

/-- A link is closed if a marker that came on it would come too late. -/
theorem WellFormed.isClosed_of_stale {link : Link} (hWell : net.WellFormed)
    (hStale : net.isStale snapshot link.target = true) (hStarted : snapshot < net.nextSnapshot)
    (hLink : net.channels.contains link = true) : (net.cut snapshot).isClosed link = true := by
  obtain ⟨part, hPart, hNone⟩ :=
    hWell.part?_of_stale hStale hStarted (hWell.wired.target_known hLink)
  exact Cut.isClosed_eq_true_iff.mpr ⟨part, hPart, hNone ▸ List.not_mem_nil⟩

/-- A link is closed if its target has had a marker on it. -/
theorem WellFormed.isClosed_of_seen {link : Link} {node : Node} {recording : Recording}
    (hWell : net.WellFormed) (hCurrent : net.isStale snapshot link.target = false)
    (hNode : net.nodes.get? link.target = some node)
    (hRecording : node.recordings.get? snapshot = some recording)
    (hSeen : link.source ∈ recording.seen.keys) : (net.cut snapshot).isClosed link = true := by
  obtain ⟨collector, hFound, hOpen⟩ := isStale_eq_false_iff.mp hCurrent
  exact Cut.isClosed_eq_true_iff.mpr ⟨_, part?_of_current hNode hRecording hFound hOpen,
    (hWell.recorded hNode hRecording).1.not_both hSeen⟩

section Marker

variable {after : Network} {source target : String} {marked : SnapshotId} {due : UInt64}
  {rest : List Parcel}

theorem flow_of_marker
    (hQueue : net.channels.queue ⟨source, target⟩ =
      ⟨source, target, .marker marked, due⟩ :: rest) :
    (net.cut marked).flow ⟨source, target⟩ = .mark :: rest.filterMap (Parcel.item? marked) :=
  flow_of_queue ⟨source, target, .marker marked, due⟩ hQueue (if_pos rfl)

theorem cut_taken_marker_of_ne
    (hQueue : net.channels.queue ⟨source, target⟩ =
      ⟨source, target, .marker marked, due⟩ :: rest) (hMarked : marked ≠ snapshot) :
    (net.taken ⟨source, target, .marker marked, due⟩ rest).cut snapshot = net.cut snapshot :=
  cut_taken_of_other ⟨source, target, .marker marked, due⟩ hQueue (if_neg hMarked)

/-- A marker that is turned down comes to a node that no longer awaits it. -/
theorem cut_turnedDown
    (hQueue : net.channels.queue ⟨source, target⟩ =
      ⟨source, target, .marker marked, due⟩ :: rest)
    (hClosed : (net.cut marked).isClosed ⟨source, target⟩ = true) :
    Cut.Step snapshot (net.cut snapshot) []
      (((net.taken ⟨source, target, .marker marked, due⟩ rest).turnedDown source target
        marked).cut snapshot) := by
  have hSame : ((net.taken ⟨source, target, .marker marked, due⟩ rest).turnedDown source target
      marked).cut snapshot =
      (net.taken ⟨source, target, .marker marked, due⟩ rest).cut snapshot := rfl
  rw [hSame]
  by_cases hMarked : marked = snapshot
  · subst hMarked
    obtain ⟨part, hPart, hSeen⟩ : ∃ part, net.part? marked target = some part ∧
        source ∉ part.awaits := Cut.isClosed_eq_true_iff.mp hClosed
    rw [cut_taken ⟨source, target, .marker marked, due⟩ hQueue, ← see_of_turnedDown hPart hSeen]
    exact Cut.Step.next (flow_of_marker hQueue) hPart
  · rw [cut_taken_marker_of_ne hQueue hMarked]
    exact Cut.Step.idle

/-- A marker makes its receiver take part. -/
theorem WellFormed.cut_first {node : Node} {collector : Collector} {generator : Generator}
    {parcels : List Parcel} (hWell : net.WellFormed)
    (hQueue : net.channels.queue ⟨source, target⟩ =
      ⟨source, target, .marker marked, due⟩ :: rest)
    (hNode : net.nodes.get? target = some node)
    (hFresh : node.recordings.get? marked = none)
    (hFound : net.collectors.get? marked = some collector)
    (hAwaited : target ∈ collector.remaining.keys)
    (hTargets : parcels.map Parcel.target = node.outbound.keys)
    (hParcels : ∀ parcel ∈ parcels, parcel.source = target ∧ parcel.message = .marker marked) :
    Cut.Step snapshot (net.cut snapshot) [.joined target marked]
      ((((net.taken ⟨source, target, .marker marked, due⟩ rest).posted generator
        parcels).withRecording node collector
          (node.freshRecording marked (some source))).cut snapshot) := by
  have hTaken : (net.taken ⟨source, target, .marker marked, due⟩ rest).WellFormed :=
    (hWell.popped hQueue).logged _
  have hOpen := hWell.not_mem_reported hFound hAwaited
  rw [hTaken.cut_takePart hNode hFound hAwaited hTargets hParcels]
  by_cases hMarked : marked = snapshot
  · subst hMarked
    rw [if_pos rfl, cut_taken ⟨source, target, .marker marked, due⟩ hQueue]
    refine Cut.Step.first (flow_of_marker hQueue) (part?_eq_none_of_fresh hNode hFresh hFound hOpen)
      (tokens_of_get? hNode) rfl fun other => ?_
    refine (hWell.mem_awaits_takePart hNode other).trans (and_congr_right fun _ => ?_)
    rw [ne_eq, Option.some.injEq, eq_comm]
  · rw [if_neg hMarked, cut_taken_marker_of_ne hQueue hMarked]
    exact Cut.Step.other hMarked

/-- A marker closes its link. -/
theorem WellFormed.cut_next {node : Node} {collector : Collector} {recording : Recording}
    (hWell : net.WellFormed)
    (hQueue : net.channels.queue ⟨source, target⟩ =
      ⟨source, target, .marker marked, due⟩ :: rest)
    (hNode : net.nodes.get? target = some node)
    (hRecording : node.recordings.get? marked = some recording)
    (hFound : net.collectors.get? marked = some collector)
    (hAwaited : target ∈ collector.remaining.keys) :
    Cut.Step snapshot (net.cut snapshot) []
      (((net.taken ⟨source, target, .marker marked, due⟩ rest).withRecording node collector
        (recording.see source)).cut snapshot) := by
  have hName : node.name = target := hWell.wired.name_eq hNode
  subst hName
  have hOpen := hWell.not_mem_reported hFound hAwaited
  have hStored : (recording.see source).snapshot = marked :=
    (hWell.recorded hNode hRecording).1.snapshot_eq
  have hAfter : ((net.taken ⟨source, node.name, .marker marked, due⟩ rest).withRecording node
      collector (recording.see source)).cut snapshot =
      if (recording.see source).snapshot = snapshot then
        ((net.taken ⟨source, node.name, .marker marked, due⟩ rest).cut snapshot).setPart node.name
          (Part.ofRecording (recording.see source))
      else (net.taken ⟨source, node.name, .marker marked, due⟩ rest).cut snapshot :=
    cut_withRecording (hStored.symm ▸ hFound) hNode hOpen
  rw [hAfter, hStored]
  by_cases hMarked : marked = snapshot
  · subst hMarked
    rw [if_pos rfl, cut_taken ⟨source, node.name, .marker marked, due⟩ hQueue,
      Part.ofRecording_see]
    exact Cut.Step.next (flow_of_marker hQueue) (part?_of_current hNode hRecording hFound hOpen)
  · rw [if_neg hMarked, cut_taken_marker_of_ne hQueue hMarked]
    exact Cut.Step.idle

/-- Whatever a marker does is a step of the cut. -/
theorem WellFormed.cut_marker (hWell : net.WellFormed)
    (hQueue : net.channels.queue ⟨source, target⟩ =
      ⟨source, target, .marker marked, due⟩ :: rest)
    (hEffect : MarkerEffect (net.taken ⟨source, target, .marker marked, due⟩ rest) source target
      marked after) :
    Cut.Step snapshot (net.cut snapshot) (net.arrival ⟨source, target, .marker marked, due⟩)
      (after.cut snapshot) := by
  have hLink : net.channels.contains ⟨source, target⟩ = true :=
    ChannelTable.contains_of_mem_queue (hQueue ▸ List.mem_cons_self)
  cases hEffect with
  | late hStale =>
      have hEarlier : net.isStale marked target = true := hStale
      rw [arrival_of_stale hEarlier]
      exact cut_turnedDown hQueue (hWell.isClosed_of_stale hEarlier
        (hWell.marked (hQueue ▸ List.mem_cons_self) rfl) hLink)
  | @repeated node recording hCurrent hNode hRecording hSeen =>
      have hEarlier : net.nodes.get? target = some node := hNode
      rw [arrival_of_recording hEarlier hRecording]
      exact cut_turnedDown hQueue (hWell.isClosed_of_seen hCurrent hEarlier hRecording hSeen)
  | @first node collector generator parcels hNode hFresh hFound hAwaited hTargets hParcels =>
      have hEarlier : net.nodes.get? target = some node := hNode
      have hCurrent : net.isStale marked target = false := isStale_eq_false_iff.mpr
        ⟨collector, hFound, hWell.not_mem_reported hFound hAwaited⟩
      rw [arrival_of_fresh hCurrent hEarlier hFresh]
      exact hWell.cut_first hQueue hEarlier hFresh hFound hAwaited hTargets hParcels
  | @next node collector recording hNode hRecording hUnseen hFound hAwaited =>
      have hEarlier : net.nodes.get? target = some node := hNode
      rw [arrival_of_recording hEarlier hRecording]
      exact hWell.cut_next hQueue hEarlier hRecording hFound hAwaited

end Marker

/-! ### Nodes, links and collectors -/

/-- A node is added. -/
theorem WellFormed.cut_addNode {name : String} (hWell : net.WellFormed)
    (hOpen : net.started = false) (hNew : net.nodes.get? name = none) (tokens : UInt64) :
    Cut.Step snapshot (net.cut snapshot) [.opened name tokens]
      (({ net with nodes := net.nodes.insert name (Node.create name tokens) } :
        Network).cut snapshot) := by
  -- Before the first snapshot nobody takes part in any.
  have hFresh : ¬ snapshot < net.nextSnapshot := by
    rw [hWell.nextSnapshot_eq_zero hOpen]
    exact UInt64.not_lt_zero
  have hAfter : ({ net with nodes := net.nodes.insert name (Node.create name tokens) } :
      Network).cut snapshot = (net.cut snapshot).setBalance name tokens := by
    refine Cut.ext (funext fun other => ?_) rfl rfl (funext fun other => ?_)
    · show ((net.nodes.insert name (Node.create name tokens)).get? other).map Node.tokens =
        if name = other then some tokens else (net.nodes.get? other).map Node.tokens
      rw [SortedMap.get?_insert]
      split <;> rfl
    · exact ((hWell.addNode hOpen hNew tokens).part?_eq_none hFresh other).trans
        (hWell.part?_eq_none hFresh other).symm
  rw [hAfter]
  refine Cut.Step.addNode tokens ?_ (hWell.part?_eq_none hFresh name)
  show (net.nodes.get? name).map Node.tokens = none
  rw [hNew, Option.map_none]

/-- A link is added. -/
theorem WellFormed.cut_addLink {link : Link} {source target : Node} (hWell : net.WellFormed)
    (hOpen : net.started = false) (hSource : net.nodes.get? link.source = some source)
    (hTarget : net.nodes.get? link.target = some target) (hDistinct : link.source ≠ link.target)
    (hNew : link.target ∉ source.outbound.keys) :
    Cut.Step snapshot (net.cut snapshot) [] ((net.connect link source target).cut snapshot) := by
  have hFresh : ¬ snapshot < net.nextSnapshot := by
    rw [hWell.nextSnapshot_eq_zero hOpen]
    exact UInt64.not_lt_zero
  have hMissing := hWell.wired.not_contains hSource hNew
  have hAfter : (net.connect link source target).cut snapshot =
      { net.cut snapshot with
        linked := fun other => decide (link = other) || (net.cut snapshot).linked other } := by
    refine Cut.ext (funext fun name => ?_) (funext fun other => ?_) (funext fun other => ?_)
      (funext fun name => ?_)
    · -- Both ends keep their tokens.
      show ((net.connect link source target).nodes.get? name).map Node.tokens =
        (net.nodes.get? name).map Node.tokens
      rw [net.get?_nodes_connect link source target hDistinct]
      split
      · next hEqual =>
        rw [← hEqual, hSource]
        rfl
      · split
        · next hEqual =>
          rw [← hEqual, hTarget]
          rfl
        · rfl
    · show (net.channels.insert link (Channel.ofLink link)).contains other =
        (decide (link = other) || net.channels.contains other)
      rw [Bool.eq_iff_iff, ChannelTable.contains_insert, Bool.or_eq_true, decide_eq_true_iff]
    · show ((net.channels.insert link (Channel.ofLink link)).queue other).filterMap _ = _
      rw [ChannelTable.queue_insert_ofLink hMissing]
      rfl
    · exact ((hWell.connect hOpen hSource hTarget hDistinct hNew).part?_eq_none hFresh name).trans
        (hWell.part?_eq_none hFresh name).symm
  rw [hAfter]
  exact Cut.Step.addLink link (hWell.part?_eq_none hFresh)

/-- Tokens sent on a link come behind all that is under way on it. -/
theorem cut_posted_token {source target : String} (amount due : UInt64) (generator : Generator)
    (hLink : net.channels.contains ⟨source, target⟩ = true) :
    (net.posted generator [⟨source, target, .token amount, due⟩]).cut snapshot =
      (net.cut snapshot).setFlow ⟨source, target⟩
        ((net.cut snapshot).flow ⟨source, target⟩ ++ [.tokens amount]) := by
  have hQueue : ∀ other,
      (net.posted generator [⟨source, target, .token amount, due⟩]).channels.queue other =
        net.channels.queue other ++ if (⟨source, target⟩ : Link) = other then
          [⟨source, target, .token amount, due⟩] else [] :=
    net.channels.queue_post ⟨source, target, .token amount, due⟩ hLink
  have hLinked : ∀ other,
      (net.posted generator [⟨source, target, .token amount, due⟩]).channels.contains other =
        net.channels.contains other := net.channels.contains_post ⟨source, target, .token amount, due⟩
  refine Cut.ext rfl (funext fun other => ?_) (funext fun other => ?_)
    (part?_of_same rfl rfl rfl snapshot)
  · rw [linked_cut, hLinked, Cut.linked_setFlow, linked_cut]
  · rw [flow_cut, hQueue, List.filterMap_append, Cut.flow_setFlow, flow_cut, flow_cut]
    by_cases hEqual : (⟨source, target⟩ : Link) = other
    · rw [if_pos hEqual, if_pos hEqual, hEqual]
      rfl
    · rw [if_neg hEqual, if_neg hEqual, List.filterMap_nil, List.append_nil]

/-- Another balance of a node is another balance in the cut. -/
theorem cut_withTokens {node : Node} (hNode : net.nodes.get? node.name = some node)
    (tokens : UInt64) :
    (net.withChanged { node with tokens := tokens }).cut snapshot =
      (net.cut snapshot).setBalance node.name tokens := by
  refine Cut.ext (funext (tokens_withChanged rfl)) rfl rfl (funext fun name => ?_)
  refine part?_congr rfl ((recording?_withChanged ..).trans ?_)
  split
  · next hEqual =>
    unfold recording?
    rw [← hEqual, hNode, Option.bind_some]
  · rfl

/-- Tokens leave a node. -/
theorem WellFormed.cut_send {source target : String} {amount : UInt64} {node : Node}
    (generator : Generator) (due : UInt64) (hWell : net.WellFormed)
    (hNode : net.nodes.get? source = some node)
    (hLink : net.channels.contains ⟨source, target⟩ = true) (hEnough : amount ≤ node.tokens) :
    Cut.Step snapshot (net.cut snapshot) [.sent ⟨source, target⟩ amount]
      (((({ net with started := true } : Network).withChanged
        { node with tokens := node.tokens - amount }).posted generator
          [⟨source, target, .token amount, due⟩]).cut snapshot) := by
  have hName : node.name = source := hWell.wired.name_eq hNode
  subst hName
  have hPaid : (({ net with started := true } : Network).withChanged
      { node with tokens := node.tokens - amount }).cut snapshot =
      (net.cut snapshot).setBalance node.name (node.tokens - amount) :=
    cut_withTokens hNode (node.tokens - amount)
  have hKept : (({ net with started := true } : Network).withChanged
      { node with tokens := node.tokens - amount }).channels.contains ⟨node.name, target⟩ = true :=
    hLink
  rw [cut_posted_token amount due generator hKept, hPaid]
  exact Cut.Step.send hLink (tokens_of_get? hNode) hEnough

theorem part?_of_report?_eq {after : Network} (hNodes : after.nodes = net.nodes)
    (hReports : ∀ name, after.report? snapshot name = net.report? snapshot name) :
    after.part? snapshot = net.part? snapshot := by
  funext name
  refine part?_congr (hReports name) ?_
  unfold recording?
  rw [hNodes]

/-- The new collector has no reports, and there was none before. -/
theorem WellFormed.report?_announced (hWell : net.WellFormed) (name : String)
    (next snapshot : SnapshotId) (other : String) :
    (net.announced name next).report? snapshot other = net.report? snapshot other := by
  by_cases hNew : net.nextSnapshot = snapshot
  · subst hNew
    obtain ⟨hUnused, hUnretired⟩ := hWell.collected.get?_eq_none (UInt64.lt_irrefl _)
    have hOpened : (net.announced name next).collectors.get? net.nextSnapshot =
        some (Collector.create net.nextSnapshot (SortedSet.ofKeys net.nodes)) :=
      SortedMap.get?_insert_self ..
    have hNone : net.report? net.nextSnapshot other = none := by
      unfold report? collectorOf?
      simp only [hUnused, hUnretired]
      rfl
    rw [report?_of_get? hOpened, hNone]
    exact SortedMap.get?_empty other
  · have hSame : (net.announced name next).collectors.get? snapshot =
        net.collectors.get? snapshot := SortedMap.get?_insert_of_ne _ _ hNew
    unfold report? collectorOf?
    simp only [hSame]
    rfl

/-- A snapshot is opened, in which nobody takes part yet. -/
theorem WellFormed.cut_announced {next : SnapshotId} (hWell : net.WellFormed) (name : String) :
    (net.announced name next).cut snapshot = net.cut snapshot :=
  Cut.ext rfl rfl rfl (part?_of_report?_eq rfl (hWell.report?_announced name next snapshot))

theorem report?_retire {retired : SnapshotId} {collector : Collector}
    (hFound : net.collectors.get? retired = some collector) (snapshot : SnapshotId)
    (name : String) :
    (net.retire retired collector).report? snapshot name = net.report? snapshot name := by
  unfold report?
  rw [collectorOf?_retire hFound]

theorem cut_retire {retired : SnapshotId} {collector : Collector}
    (hFound : net.collectors.get? retired = some collector) :
    (net.retire retired collector).cut snapshot = net.cut snapshot :=
  Cut.ext rfl rfl rfl (part?_of_report?_eq rfl (report?_retire hFound snapshot))

theorem reported_abandon (collector : Collector) :
    collector.abandon.reported = collector.reported := by
  unfold Collector.abandon
  split <;> rfl

theorem report?_abandon (snapshots : List SnapshotId) (snapshot : SnapshotId) (name : String) :
    (Network.abandon snapshots net).report? snapshot name = net.report? snapshot name := by
  unfold report? collectorOf? abandon
  simp only
  rw [SortedMap.get?_mapValues]
  cases net.collectors.get? snapshot with
  | none => rfl
  | some collector =>
      simp only [Option.map_some, Option.bind_some]
      split
      · rw [reported_abandon]
      · rfl

theorem cut_abandon (snapshots : List SnapshotId) :
    (Network.abandon snapshots net).cut snapshot = net.cut snapshot :=
  Cut.ext rfl rfl rfl (part?_of_report?_eq rfl (report?_abandon snapshots snapshot))

/-! ### All changes -/

/-- A change is a step of the cut of any snapshot, unless a report is handed in from outside. -/
theorem Change.cut {after : Network} {happenings : List Happening} (hWell : net.WellFormed)
    (hChange : Change net happenings after) (hHonest : Honest happenings) :
    Cut.Step snapshot (net.cut snapshot) happenings (after.cut snapshot) := by
  cases hChange with
  | idle clock generator hStarted => exact Cut.Step.idle
  | addNode tokens hOpen hNew => exact hWell.cut_addNode hOpen hNew tokens
  | addLink hOpen hSource hTarget hDistinct hNew =>
      exact hWell.cut_addLink hOpen hSource hTarget hDistinct hNew
  | send generator due hNode hLink hEnough => exact hWell.cut_send generator due hNode hLink hEnough
  | announce hName hNext =>
      rw [hWell.cut_announced]
      exact Cut.Step.announce _ _
  | join hNode hFresh hFound hAwaited hTargets hParcels =>
      exact hWell.cut_join hNode hFresh hFound hAwaited hTargets hParcels
  | credit hQueue hNode hTokens => exact hWell.cut_credit hQueue hNode hTokens
  | marker hQueue hEffect => exact hWell.cut_marker hQueue hEffect
  | notify hFound hAwaited => exact absurd List.mem_cons_self (hHonest _)
  | retire hFound hComplete =>
      rw [cut_retire hFound]
      exact Cut.Step.idle
  | abandon snapshots =>
      rw [cut_abandon]
      exact Cut.Step.idle

end Network

end TokenNet
