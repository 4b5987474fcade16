import TokenNet.Proofs.Overflows
import TokenNet.Proofs.Sessions

namespace TokenNet

/-!
# What the start of a snapshot does

A snapshot that is started at a node is at once begun by that node and by all that cannot be reached
from it.  `Network.Begins` tells what it changes that some nodes begin a snapshot one after another:
their recordings, one marker behind all else on every channel that leads away from them, and the
reports of those to which no channel leads.  It holds of one node, and of more by induction.  From it
follows what the whole call does (`Network.StartsAtOnce`), whatever has been asked of the network
before (`Network.starts_at_once`).
-/

namespace Node

/-- The recording of a node that begins a snapshot of its own accord: the balance of this moment,
and every marker still to come. -/
def ownRecording (snapshot : SnapshotId) (node : Node) : Recording where
  snapshot := snapshot
  balance := node.tokens
  seen := SortedMap.empty
  awaiting := SortedSet.ofKeys node.inbound
  inFlight := []

/-- The node after it has begun a snapshot of its own accord: it records from now on, unless no
marker is to come. -/
def begun (snapshot : SnapshotId) (node : Node) : Node :=
  if node.inbound.isEmpty then node
  else { node with recordings := node.recordings.insert snapshot (node.ownRecording snapshot) }

/-- The report that a node hands in at once when it begins a snapshot, if no marker is to come. -/
def immediateReport? (snapshot : SnapshotId) (node : Node) : Option Report :=
  if node.inbound.isEmpty then some ⟨snapshot, node.name, node.tokens, []⟩ else none

theorem freshRecording_none (snapshot : SnapshotId) (node : Node) :
    node.freshRecording snapshot none = node.ownRecording snapshot := by
  have hAll : (SortedSet.ofKeys node.inbound).filter (fun source _ => some source ≠ none) =
      SortedSet.ofKeys node.inbound := by
    apply SortedMap.toList_inj.mp
    rw [SortedMap.toList_filter]
    exact List.filter_eq_self.mpr fun _ _ => rfl
  exact congrArg (Recording.mk snapshot node.tokens SortedMap.empty · []) hAll

theorem isEmpty_ofKeys_inbound (node : Node) :
    (SortedSet.ofKeys node.inbound).isEmpty = node.inbound.isEmpty := by
  rw [Bool.eq_iff_iff, SortedMap.isEmpty_iff, SortedMap.isEmpty_iff, SortedMap.keys_ofKeys]

end Node

namespace Network

variable {net between after last : Network} {snapshot : SnapshotId} {name : String}

/-! ### One node begins -/

/-- What the start of a snapshot has nothing to do with. -/
def surroundings (net : Network) :
    Clock × UInt64 × Array Link × SnapshotId × SortedMap SnapshotId Collector × Nat × Bool :=
  (net.clock, net.maxDelay, net.links, net.nextSnapshot, net.retired, net.rejected, net.started)

/-- What becomes of the collector of a snapshot when nodes begin the snapshot: those to which no
channel leads report. -/
structure ReportsAtOnce (net : Network) (snapshot : SnapshotId) (names : List String)
    (collector later : Collector) : Prop where
  /-- The snapshot stays. -/
  snapshot_eq : later.snapshot = collector.snapshot
  /-- The participants stay. -/
  participants_eq : later.participants = collector.participants
  /-- The snapshot is not given up. -/
  abandoned_eq : later.abandoned = collector.abandoned
  /-- Whoever begins reports if no marker is to come. -/
  reported_eq : ∀ name ∈ names, later.reported.get? name =
    ((net.nodes.get? name).bind (Node.immediateReport? snapshot)).or (collector.reported.get? name)
  /-- Nobody else reports. -/
  reported_same : ∀ name ∉ names, later.reported.get? name = collector.reported.get? name

/-- Nodes begin a snapshot, one after another. -/
structure Begins (net : Network) (snapshot : SnapshotId) (names : List String) (after : Network) :
    Prop where
  /-- They begin in this order. -/
  run : Run net (names.map (Happening.joined · snapshot)) after
  /-- They record from now on, unless no marker is to come. -/
  nodes_eq : ∀ name ∈ names, after.nodes.get? name = (net.nodes.get? name).map (Node.begun snapshot)
  /-- Nothing changes at any other node. -/
  nodes_same : ∀ name ∉ names, after.nodes.get? name = net.nodes.get? name
  /-- A marker goes onto every channel that leads away from them, behind all else. -/
  queue_eq : ∀ link, link.source ∈ names → net.channels.contains link = true →
    ∃ due, net.Punctual due ∧ after.channels.queue link =
      net.channels.queue link ++ [⟨link.source, link.target, .marker snapshot, due⟩]
  /-- Nothing goes onto any other channel. -/
  queue_same : ∀ link, link.source ∉ names → after.channels.queue link = net.channels.queue link
  /-- No channel is new or gone. -/
  contains_eq : ∀ link, after.channels.contains link = net.channels.contains link
  /-- Those to which no channel leads report. -/
  collector_eq : ∀ collector, net.collectors.get? snapshot = some collector →
    ∃ later, after.collectors.get? snapshot = some later ∧
      net.ReportsAtOnce snapshot names collector later
  /-- Nothing changes at any other collector. -/
  collectors_same : ∀ other, other ≠ snapshot → after.collectors.get? other = net.collectors.get? other
  /-- Nothing else changes. -/
  surroundings_eq : after.surroundings = net.surroundings

theorem begins_nil (net : Network) (snapshot : SnapshotId) : net.Begins snapshot [] net := by
  refine ⟨Run.start, fun _ hNone => absurd hNone List.not_mem_nil, fun _ _ => rfl,
    fun _ hNone => absurd hNone List.not_mem_nil, fun _ _ => rfl, fun _ => rfl,
    fun collector hFound => ⟨collector, hFound, rfl, rfl, rfl, ?_, fun _ _ => rfl⟩, fun _ _ => rfl, rfl⟩
  exact fun _ hNone => absurd hNone List.not_mem_nil

section Own

variable {node : Node} {collector : Collector}

/-- What a node that begins a snapshot keeps is what it is from then on. -/
theorem nodes_withRecording_own (net : Network) (collector : Collector)
    (hFresh : node.recordings.get? snapshot = none) :
    (net.withRecording node collector (node.ownRecording snapshot)).nodes =
      net.nodes.insert node.name (node.begun snapshot) := by
  have hAwaits : (node.ownRecording snapshot).awaiting.isEmpty = node.inbound.isEmpty :=
    node.isEmpty_ofKeys_inbound
  unfold withRecording Node.begun
  rw [hAwaits]
  by_cases hNone : node.inbound.isEmpty = true
  · rw [if_pos hNone, if_pos hNone]
    show net.nodes.insert node.name { node with recordings := node.recordings.erase snapshot } = _
    rw [SortedMap.erase_of_get?_eq_none hFresh]
  · rw [if_neg hNone, if_neg hNone]
    rfl

/-- A node that begins a snapshot hands in its report if no marker is to come. -/
theorem collectors_withRecording_own (net : Network) (node : Node) (collector : Collector) :
    (net.withRecording node collector (node.ownRecording snapshot)).collectors =
      ((node.immediateReport? snapshot).map fun report =>
        net.collectors.insert snapshot (collector.accepted report)).getD net.collectors := by
  have hAwaits : (node.ownRecording snapshot).awaiting.isEmpty = node.inbound.isEmpty :=
    node.isEmpty_ofKeys_inbound
  unfold withRecording Node.immediateReport?
  rw [hAwaits]
  by_cases hNone : node.inbound.isEmpty = true
  · rw [if_pos hNone, if_pos hNone]
    rfl
  · rw [if_neg hNone, if_neg hNone]
    rfl

theorem surroundings_withRecording (net : Network) (node : Node) (collector : Collector)
    (recording : Recording) :
    (net.withRecording node collector recording).surroundings = net.surroundings := by
  unfold withRecording
  split <;> rfl

/-- The report of a node that begins a snapshot without a source is accepted. -/
theorem reportsAtOnce_accepted {report : Report} (hName : node.name = name)
    (hNode : net.nodes.get? name = some node)
    (hReport : node.immediateReport? snapshot = some report) :
    net.ReportsAtOnce snapshot [name] collector (collector.accepted report) := by
  have hReporter : report.node = name := by
    unfold Node.immediateReport? at hReport
    split at hReport
    · cases hReport
      exact hName
    · cases hReport
  refine ⟨rfl, rfl, rfl, fun other hOther => ?_, fun other hOther => ?_⟩
  · obtain rfl := List.mem_singleton.mp hOther
    rw [hNode, Option.bind_some, hReport, Option.some_or]
    exact hReporter ▸ SortedMap.get?_insert_self ..
  · have hDifferent : report.node ≠ other := fun hEqual =>
      hOther (List.mem_singleton.mpr (hEqual.symm.trans hReporter))
    exact SortedMap.get?_insert_of_ne _ _ hDifferent

theorem reportsAtOnce_of_none (hNode : net.nodes.get? name = some node)
    (hSilent : node.immediateReport? snapshot = none) :
    net.ReportsAtOnce snapshot [name] collector collector := by
  refine ⟨rfl, rfl, rfl, fun other hOther => ?_, fun _ _ => rfl⟩
  rw [List.mem_singleton.mp hOther, hNode, Option.bind_some, hSilent, Option.none_or]

/-- Of the parcels that go to different receivers one goes onto each link. -/
theorem exists_filter_link_eq {parcels : List Parcel} {link : Link}
    (hNodup : (parcels.map Parcel.target).Nodup) (hTarget : link.target ∈ parcels.map Parcel.target)
    (hSource : ∀ parcel ∈ parcels, parcel.source = link.source) :
    ∃ parcel ∈ parcels, parcel.target = link.target ∧
      (parcels.filter fun other => other.link = link) = [parcel] := by
  have hSame : (parcels.filter fun other => other.link = link) =
      parcels.filter ((fun target => decide (target = link.target)) ∘ Parcel.target) := by
    refine List.filter_congr fun other hOther => decide_eq_decide.mpr ⟨congrArg Link.target, ?_⟩
    exact fun hEqual => Link.ext (hSource other hOther) hEqual
  have hOne : (parcels.filter fun other => other.link = link).map Parcel.target = [link.target] := by
    rw [hSame, ← List.filter_map, List.filter_eq, List.count_eq_one_of_mem hNodup hTarget]
    rfl
  obtain ⟨parcel, hOnly, hEqual⟩ := List.map_eq_singleton_iff.mp hOne
  refine ⟨parcel, ?_, hEqual, hOnly⟩
  exact (List.mem_filter.mp (hOnly ▸ List.mem_singleton_self parcel)).1

end Own

/-- A node that neither records nor has reported begins a snapshot. -/
theorem WellFormed.meets_startAt_begins (hWell : net.WellFormed) (hName : name ∈ net.nodes.keys)
    (hIdle : net.part? snapshot name = none)
    (hOpen : ∃ collector, net.collectors.get? snapshot = some collector) :
    (startAt snapshot [name] net).Meets (fun _ after => net.Begins snapshot [name] after) Never := by
  obtain ⟨node, collector, hNode, hFresh, hFound, hSnapshot, hAwaited⟩ :=
    hWell.exists_idle hName hIdle hOpen
  have hSame := hWell.wired.name_eq hNode
  apply ((meets_startAt_one hWell hName hIdle hOpen).and
    (meets_startAt_singleton hWell.wired hNode hFresh hFound hSnapshot hAwaited)).imp
  rintro _ after ⟨⟨hStep, -⟩, generator, parcels, hTargets, hParcels, hPunctual, hAfter⟩
  rw [node.freshRecording_none] at hAfter
  have hLinks := hWell.wired.contains_markers hNode hTargets hParcels
  have hNodes : after.nodes = net.nodes.insert name (node.begun snapshot) := by
    rw [hAfter, nodes_withRecording_own _ _ hFresh, hSame]
    rfl
  have hQueue : ∀ link, after.channels.queue link =
      net.channels.queue link ++ parcels.filter fun parcel => parcel.link = link := by
    intro link
    rw [hAfter, channels_withRecording]
    exact ChannelTable.queue_postAll hLinks link
  have hCollectors : after.collectors = ((node.immediateReport? snapshot).map fun report =>
      net.collectors.insert snapshot (collector.accepted report)).getD net.collectors := by
    rw [hAfter, collectors_withRecording_own]
    rfl
  refine ⟨hStep.run, fun other hOther => ?_, fun other hOther => ?_, fun link hSource hLink => ?_,
    fun link hSource => ?_, fun link => ?_, fun found hSome => ?_, fun other hOther => ?_, ?_⟩
  · obtain rfl := List.mem_singleton.mp hOther
    rw [hNodes, hNode, SortedMap.get?_insert_self]
    rfl
  · rw [hNodes, SortedMap.get?_insert_of_ne]
    exact fun hEqual => hOther (List.mem_singleton.mpr hEqual.symm)
  · have hSource := List.mem_singleton.mp hSource
    have hTarget : link.target ∈ node.outbound.keys :=
      (hWell.wired.mem_outbound_iff (hSource ▸ hNode)).mpr hLink
    obtain ⟨parcel, hParcel, hEqual, hOnly⟩ := exists_filter_link_eq
      (hTargets ▸ node.outbound.nodup_keys) (hTargets ▸ hTarget)
      fun parcel hParcel => (hParcels parcel hParcel).1.trans hSource.symm
    refine ⟨parcel.due, hPunctual parcel hParcel, ?_⟩
    rw [hQueue, hOnly, ← hEqual, hSource, ← (hParcels parcel hParcel).1,
      ← (hParcels parcel hParcel).2]
  · rw [hQueue, List.filter_eq_nil_iff.mpr, List.append_nil]
    intro parcel hParcel hLink
    refine hSource (List.mem_singleton.mpr ?_)
    rw [← of_decide_eq_true hLink]
    exact (hParcels parcel hParcel).1
  · rw [hAfter, channels_withRecording]
    exact ChannelTable.contains_postAll ..
  · obtain rfl := Option.some.inj (hSome.symm.trans hFound)
    rw [hCollectors]
    cases hReport : node.immediateReport? snapshot with
    | none => exact ⟨found, hFound, reportsAtOnce_of_none hNode hReport⟩
    | some report =>
        exact ⟨_, SortedMap.get?_insert_self .., reportsAtOnce_accepted hSame hNode hReport⟩
  · rw [hCollectors]
    cases node.immediateReport? snapshot with
    | none => rfl
    | some report => exact SortedMap.get?_insert_of_ne _ _ hOther.symm
  · rw [hAfter, surroundings_withRecording]
    rfl

/-! ### Nodes begin one after another -/

/-- A node begins a snapshot, and then others do. -/
theorem Begins.cons {rest : List String} (hFirst : net.Begins snapshot [name] between)
    (hLater : between.Begins snapshot rest after) (hNew : name ∉ rest) :
    net.Begins snapshot (name :: rest) after := by
  have hOther : ∀ {other}, other ∈ rest → other ∉ [name] := fun hMember hSame =>
    hNew (List.mem_singleton.mp hSame ▸ hMember)
  have hNone : ∀ {other}, other ∉ name :: rest → other ∉ [name] ∧ other ∉ rest := fun hMissing =>
    ⟨fun hSame => hMissing (List.mem_singleton.mp hSame ▸ List.mem_cons_self),
      fun hMember => hMissing (List.mem_cons_of_mem _ hMember)⟩
  have hNow : between.Punctual = net.Punctual := by
    have hClock : between.clock = net.clock := congrArg Prod.fst hFirst.surroundings_eq
    have hDelay : between.maxDelay = net.maxDelay := congrArg (·.2.1) hFirst.surroundings_eq
    unfold Punctual tickNow
    rw [hClock, hDelay]
  refine ⟨hFirst.run.trans hLater.run, fun other hMember => ?_, fun other hMissing => ?_,
    fun link hMember hLink => ?_, fun link hMissing => ?_,
    fun link => (hLater.contains_eq link).trans (hFirst.contains_eq link), fun collector hFound => ?_,
    fun other hDifferent =>
      (hLater.collectors_same other hDifferent).trans (hFirst.collectors_same other hDifferent),
    hLater.surroundings_eq.trans hFirst.surroundings_eq⟩
  · rcases List.mem_cons.mp hMember with rfl | hRest
    · exact (hLater.nodes_same other hNew).trans (hFirst.nodes_eq other (List.mem_singleton_self _))
    · rw [hLater.nodes_eq other hRest, hFirst.nodes_same other (hOther hRest)]
  · exact (hLater.nodes_same other (hNone hMissing).2).trans
      (hFirst.nodes_same other (hNone hMissing).1)
  · rcases List.mem_cons.mp hMember with hSource | hRest
    · obtain ⟨due, hPunctual, hQueue⟩ :=
        hFirst.queue_eq link (hSource ▸ List.mem_singleton_self _) hLink
      exact ⟨due, hPunctual, (hLater.queue_same link (hSource ▸ hNew)).trans hQueue⟩
    · obtain ⟨due, hPunctual, hQueue⟩ :=
        hLater.queue_eq link hRest ((hFirst.contains_eq link).trans hLink)
      rw [hFirst.queue_same link (hOther hRest)] at hQueue
      exact ⟨due, hNow ▸ hPunctual, hQueue⟩
  · exact (hLater.queue_same link (hNone hMissing).2).trans
      (hFirst.queue_same link (hNone hMissing).1)
  · obtain ⟨middle, hMiddle, hReports⟩ := hFirst.collector_eq collector hFound
    obtain ⟨last, hLast, hRest⟩ := hLater.collector_eq middle hMiddle
    refine ⟨last, hLast, hRest.snapshot_eq.trans hReports.snapshot_eq,
      hRest.participants_eq.trans hReports.participants_eq,
      hRest.abandoned_eq.trans hReports.abandoned_eq, fun other hMember => ?_,
      fun other hMissing => ?_⟩
    · rcases List.mem_cons.mp hMember with rfl | hMember
      · exact (hRest.reported_same other hNew).trans
          (hReports.reported_eq other (List.mem_singleton_self _))
      · rw [hRest.reported_eq other hMember, hFirst.nodes_same other (hOther hMember),
          hReports.reported_same other (hOther hMember)]
    · exact (hRest.reported_same other (hNone hMissing).2).trans
        (hReports.reported_same other (hNone hMissing).1)

/-- No node is new or gone. -/
theorem Begins.mem_nodes_iff {names : List String} (hBegins : net.Begins snapshot names after) :
    name ∈ after.nodes.keys ↔ name ∈ net.nodes.keys := by
  rw [SortedMap.mem_keys_iff, SortedMap.mem_keys_iff, ← Option.isSome_iff_exists,
    ← Option.isSome_iff_exists]
  by_cases hMember : name ∈ names
  · rw [hBegins.nodes_eq name hMember, Option.isSome_map]
  · rw [hBegins.nodes_same name hMember]

/-- Nodes that can start a snapshot begin it one after another. -/
theorem Ready.meets_startAt_begins {names : List String} (hReady : net.Ready snapshot names)
    (hWell : net.WellFormed) :
    (startAt snapshot names net).Meets (fun _ after => net.Begins snapshot names after) Never := by
  induction names generalizing net with
  | nil => exact begins_nil net snapshot
  | cons name rest ih =>
      obtain ⟨hName, hIdle⟩ := hReady.idle name List.mem_cons_self
      rw [startAt_cons]
      apply Action.meets_bind ((hReady.meets_startAt_one hWell).and
        (hWell.meets_startAt_begins hName hIdle hReady.found))
      rintro _ between ⟨⟨hStep, -, hRest⟩, hFirst⟩
      apply (ih hRest ((hStep.change hWell).wellFormed hWell)).imp
      exact fun _ _ hLater => hFirst.cons hLater (List.nodup_cons.mp hReady.nodup).1

/-! ### A snapshot starts -/

/-- The nodes that begin a snapshot by themselves when it is started at a node: that node, and in
the order of their names all that it cannot reach. -/
def starters (net : Network) (name : String) : List String := name :: net.unreachableFrom name

/-- The search from a node finds what can be reached from it along links. -/
structure FindsReach (net : Network) (name : String) : Prop where
  /-- No search visits more nodes than there are, in whatever order, with those that still wait. -/
  ends : ∀ visits seen waiting, net.Searched name visits seen waiting →
    visits + waiting.length ≤ net.nodes.size
  /-- What any search has seen when nobody waits is what can be reached. -/
  exact : ∀ visits seen, net.Searched name visits seen [] →
    ∀ other, other ∈ SortedMap.keys seen ↔ net.Reaches name other
  /-- The search of the network is one of them, and has come to its end. -/
  ended : ∃ visits, net.Searched name visits (net.reachableFrom name) []
  /-- The nodes that begin besides the first are those that cannot be reached. -/
  mem_unreachable_iff : ∀ other, other ∈ net.unreachableFrom name ↔
    other ∈ net.nodeNames ∧ ¬ net.Reaches name other
  /-- They are in the order of their names. -/
  in_order : (net.unreachableFrom name).Pairwise (· < ·)

/-- What the start of a snapshot at a node does: the snapshot is opened under a number that has not
been used, and begun at once by all that have to begin it by themselves. -/
structure StartsAtOnce (net : Network) (name : String) (after : Network) : Prop where
  /-- Nobody collects reports of this number. -/
  uncollected : net.collectorOf? ⟨net.nextSnapshot⟩ = none
  /-- Nobody takes part in a snapshot of this number. -/
  unused : ∀ other, net.part? net.nextSnapshot other = none
  /-- No marker of this number is under way. -/
  unmarked : ∀ link, ∀ parcel ∈ net.channels.queue link, parcel.message ≠ .marker net.nextSnapshot
  /-- The nodes begin it one after another. -/
  run : Run net (.announced name net.nextSnapshot ::
    (net.starters name).map (Happening.joined · net.nextSnapshot)) after
  /-- Apart from the number that is used up, the collector that is opened and an event, all that
  changes is that these nodes begin the snapshot. -/
  begins : ∃ next, next.toNat = net.nextSnapshot.toNat + 1 ∧
    (net.announced name next).Begins net.nextSnapshot (net.starters name) after
  /-- The snapshot has the reports of those of them to which no channel leads, and awaits all others. -/
  collected : ∃ collector, after.collectors.get? net.nextSnapshot = some collector ∧
    collector.snapshot = net.nextSnapshot ∧ collector.participants = SortedSet.ofKeys net.nodes ∧
    collector.abandoned = false ∧
    (∀ other, collector.reported.get? other = if other ∈ net.starters name then
      (net.nodes.get? other).bind (Node.immediateReport? net.nextSnapshot) else none) ∧
    ∀ other, other ∈ collector.remaining.keys ↔
      other ∈ net.nodeNames ∧ collector.reported.get? other = none

theorem WellFormed.findsReach (hWell : net.WellFormed) (hName : name ∈ net.nodes.keys) :
    net.FindsReach name := by
  refine ⟨fun _ _ _ hSearched => hSearched.visits_le hWell.wired hName,
    fun _ _ hSearched _ => hSearched.mem_iff hWell.wired, searched_reachableFrom hWell.wired hName,
    fun other => ?_, net.nodes.pairwise_keys.filter _⟩
  rw [mem_unreachableFrom_iff, mem_reachableFrom_iff hWell.wired hName]
  exact Iff.rfl

theorem explore_announced (name : String) (next : SnapshotId) (steps : Nat)
    (seen : SortedSet String) (waiting : List String) :
    (net.announced name next).explore steps seen waiting = net.explore steps seen waiting := by
  induction steps generalizing seen waiting with
  | zero => rfl
  | succ steps ih =>
      cases waiting with
      | nil => rfl
      | cons first rest => exact ih _ _

theorem starters_announced (name : String) (next : SnapshotId) :
    (net.announced name next).starters name = net.starters name := by
  unfold starters unreachableFrom reachableFrom
  rw [explore_announced]
  rfl

/-- Once nodes have begun, the collector that was opened has the reports of those to which no
channel leads. -/
theorem Begins.collected {next : SnapshotId} {names : List String}
    (hBegins : (net.announced name next).Begins net.nextSnapshot names after)
    (hAfter : after.WellFormed) :
    ∃ collector, after.collectors.get? net.nextSnapshot = some collector ∧
      collector.snapshot = net.nextSnapshot ∧ collector.participants = SortedSet.ofKeys net.nodes ∧
      collector.abandoned = false ∧
      (∀ other, collector.reported.get? other = if other ∈ names then
        (net.nodes.get? other).bind (Node.immediateReport? net.nextSnapshot) else none) ∧
      ∀ other, other ∈ collector.remaining.keys ↔
        other ∈ net.nodeNames ∧ collector.reported.get? other = none := by
  obtain ⟨collector, hFound, hReports⟩ := hBegins.collector_eq _ (SortedMap.get?_insert_self ..)
  have hSound := hAfter.collected.sound hFound
  refine ⟨collector, hFound, hSound.snapshot_eq, hReports.participants_eq, hReports.abandoned_eq,
    fun other => ?_, fun other => ?_⟩
  · by_cases hMember : other ∈ names
    · rw [if_pos hMember, hReports.reported_eq other hMember]
      exact Option.or_none ..
    · rw [if_neg hMember, hReports.reported_same other hMember]
      exact SortedMap.get?_empty other
  · rw [hSound.awaited_iff, hBegins.mem_nodes_iff, SortedMap.get?_eq_none_iff]
    exact Iff.rfl

/-- A snapshot starts at a node that exists, at once with all that have to begin it by themselves. -/
theorem WellFormed.meets_startSnapshot_at_once (hWell : net.WellFormed) (name : String) :
    (startSnapshot name net).Meets
      (fun started after => started = net.nextSnapshot ∧ net.StartsAtOnce name after)
      (fun _ _ => name ∉ net.nodes.keys) := by
  rw [startSnapshot_eq]
  apply Action.meets_bind (((meets_announce net name).done_self).mono (fun _ _ hOpened => hOpened)
    fun _ _ hRefused => hRefused.2.1)
  rintro _ _ ⟨hDone, rfl, hName, next, hNext, rfl⟩
  have hStep : Step net [.announced name net.nextSnapshot] (net.announced name next) :=
    Step.announce hDone
  have hOpened : (net.announced name next).WellFormed := hWell.announced name hNext
  apply Action.meets_bind_of_done rfl
  apply Action.meets_bind (((hWell.ready_announced hName).meets_startAt_begins hOpened).imp
    fun _ _ hBegins => hBegins)
  rintro _ after hBegins
  have hStarters : name :: (net.announced name next).unreachableFrom name = net.starters name :=
    starters_announced name next
  rw [hStarters] at hBegins
  have hRun := hStep.run.trans hBegins.run
  have hUnused := hWell.collected.get?_eq_none (UInt64.lt_irrefl net.nextSnapshot)
  refine ⟨rfl, ?_, hWell.part?_eq_none (UInt64.lt_irrefl _), fun link parcel hParcel hMarker => ?_,
    hRun, ⟨next, (checkedAdd_eq_ok_iff.mp hNext).symm, hBegins⟩,
    hBegins.collected (hRun.wellFormed hWell)⟩
  · unfold collectorOf?
    simp only [hUnused.1, hUnused.2]
  · exact UInt64.lt_irrefl _ (hWell.marked hParcel hMarker)

/-- Whatever has been asked of a network, reports from outside included, a snapshot that is started
at a node is begun at once, under a new number, by exactly that node and those that it cannot reach,
unless a sum does not fit. -/
theorem starts_at_once {config : Config} {requests : List Request} {responses : List Response}
    (hBuilt : ofConfig config = .ok net)
    (hSession : net.session requests = .ok (responses, last)) (hName : name ∈ last.nodeNames) :
    last.FindsReach name ∧
      ((∃ after, startSnapshot name last = .done last.nextSnapshot after ∧
          last.StartsAtOnce name after) ∨
        startSnapshot name last = .faulted .overflow ∧
          (last.Late ∨ UInt64.size ≤ last.nextSnapshot.toNat + 1)) := by
  have hAttained := (Attained.of_fresh (fresh_ofConfig hBuilt)).session hSession
  have hWell := hAttained.wellFormed
  have hMeets := hWell.meets_startSnapshot_at_once name
  refine ⟨hWell.findsReach hName, ?_⟩
  cases hStart : startSnapshot name last with
  | done snapshot after =>
      obtain ⟨rfl, hAtOnce⟩ := hMeets.of_done hStart
      exact Or.inl ⟨after, rfl, hAtOnce⟩
  | refused error after => exact absurd hName (hMeets.of_refused hStart)
  | faulted fault =>
      obtain ⟨rfl, hCause⟩ :=
        overflows_startSnapshot hWell.wired.sound name Or.inl Or.inr fault hStart
      exact Or.inr ⟨rfl, hCause⟩

/-- A circle of two nodes, a node that leads into it, one that leads to that, and one on its own. -/
def tangledConfig : Config where
  nodes := [⟨"A", 5⟩, ⟨"B", 3⟩, ⟨"C", 4⟩, ⟨"D", 2⟩, ⟨"E", 1⟩]
  links := [⟨"A", "B"⟩, ⟨"B", "A"⟩, ⟨"C", "A"⟩, ⟨"D", "C"⟩]

/-- Requests that leave an earlier snapshot open, tokens under way and a forged report. -/
def tangledRequests : List Request :=
  [.call (.startSnapshot "D"), .call (.send "C" "A" 2), .call .tick, .call (.startSnapshot "Z"),
    .call (.notify ⟨0, "B", 7, []⟩), .call (.send "A" "B" 1)]

/-- A snapshot that is started in the circle is begun by all outside it too; two of them report. -/
theorem starts_at_once_tangled :
    ∃ net responses last after, ofConfig tangledConfig = .ok net ∧
      net.session tangledRequests = .ok (responses, last) ∧ "B" ∈ last.nodeNames ∧
      last.starters "B" = ["B", "C", "D", "E"] ∧ startSnapshot "B" last = .done 1 after ∧
      (after.collectors.get? 1).map (fun collector => collector.reported.keys) = some ["D", "E"] ∧
      last.StartsAtOnce "B" after := by
  have hPerforms : (performed? tangledConfig tangledRequests).any (fun outcome =>
      decide ("B" ∈ outcome.2.2.nodeNames ∧ outcome.2.2.starters "B" = ["B", "C", "D", "E"] ∧
        outcome.2.2.nextSnapshot = 1 ∧ (startSnapshot "B" outcome.2.2).done?.map (fun started =>
          (started.2.collectors.get? 1).map fun collector => collector.reported.keys) =
            some (some ["D", "E"]))) = true := by
    decide +kernel
  obtain ⟨net, responses, last, hBuilt, hSession, hChecks⟩ := exists_of_performed? hPerforms
  obtain ⟨hName, hStarters, hNext, hReported⟩ := of_decide_eq_true hChecks
  rcases (starts_at_once hBuilt hSession hName).2 with ⟨after, hStart, hAtOnce⟩ | ⟨hFault, -⟩
  · rw [hNext] at hStart
    rw [hStart] at hReported
    exact ⟨net, responses, last, after, hBuilt, hSession, hName, hStarters, hStart,
      Option.some.inj hReported, hAtOnce⟩
  · rw [hFault] at hReported
    cases hReported

end Network
end TokenNet
