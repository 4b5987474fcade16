import TokenNet.Proofs.Courses
import TokenNet.Proofs.TwinCalls

namespace TokenNet

/-!
# Collecting does not disturb

Asking for handles, taking snapshots away and giving them up are asides (`Call.isAside`): they
concern collectors alone.  A collector that has been taken away makes every later marker of its
snapshot come too late.  So would the collector itself, had it stayed: it is complete, so every node
has reported (`Network.isStale_eq`).  Networks that differ in nothing but which complete collectors
have been taken away and which snapshots have been given up (`Network.Resembles`) therefore go on
alike, and histories that differ in their asides only come to the same
(`Network.collecting_undisturbing`).
-/

/-- Whether a call concerns collectors alone, reports apart. -/
def Call.isAside : Call → Bool
  | .handle _ => true
  | .tryCollect _ => true
  | .collect _ => true
  | .release _ => true
  | .abandon _ => true
  | _ => false

/-- The replies to those calls that are no asides, in order. -/
def mainReplies : List Call → List Reply → List Reply
  | call :: calls, reply :: replies =>
      if call.isAside then mainReplies calls replies else reply :: mainReplies calls replies
  | _, _ => []

namespace Collector

/-- The collector as if its snapshot had not been given up. -/
def upheld (collector : Collector) : Collector := { collector with abandoned := false }

theorem upheld_abandon (collector : Collector) : collector.abandon.upheld = collector.upheld := by
  unfold abandon
  split <;> rfl

/-- Reports are taken alike, whether or not the snapshot has been given up. -/
theorem respects_accept (report : Report) :
    Action.Respects (fun collector other : Collector => collector.upheld = other.upheld)
      (accept report) := by
  rintro ⟨snapshot, participants, remaining, reported, abandoned⟩ ⟨_, _, _, _, abandoned'⟩ hSame
  cases hSame
  unfold accept
  dsimp only
  split
  · exact ⟨rfl, rfl⟩
  · split
    · exact ⟨rfl, rfl⟩
    · exact ⟨rfl, rfl⟩

end Collector

/-- The reports of a node that receives the marker of a snapshot are of that snapshot, if its
recording of the snapshot is. -/
theorem Node.snapshot_of_receive_marker {node after : Node} {source : String}
    {snapshot : SnapshotId} {effects : List Effect} {report : Report}
    (hRecorded : ∀ recording, node.recordings.get? snapshot = some recording →
      recording.snapshot = snapshot)
    (hDone : Node.receive source (.marker snapshot) node = .done effects after)
    (hReport : .completed report ∈ effects) : report.snapshot = snapshot := by
  unfold Node.receive Node.receiveMarker at hDone
  split at hDone
  · cases hDone
  · cases hFound : node.recordings.get? snapshot with
    | none =>
        simp only [hFound] at hDone
        cases hDone
        exact Node.snapshot_of_takePart hReport
    | some recording =>
        simp only [hFound] at hDone
        split at hDone
        · cases hDone
        · split at hDone
          · cases hDone
            cases List.mem_singleton.mp hReport
            exact hRecorded recording hFound
          · cases hDone
            exact absurd hReport List.not_mem_nil

namespace Network

/-- The collector of a snapshot, in use or taken away. -/
def Parts.collector? (parts : Parts) (snapshot : SnapshotId) : Option Collector :=
  match parts.collectors.get? snapshot with
  | some collector => some collector
  | none => parts.retired.get? snapshot

/-- Parts that differ at most in which collectors have been taken away and which snapshots have been
given up. -/
structure Parts.Resembling (parts other : Parts) : Prop where
  /-- The state of the generator is the same. -/
  generator_eq : parts.generator = other.generator
  /-- The bound on delays is the same. -/
  maxDelay_eq : parts.maxDelay = other.maxDelay
  /-- The links are the same. -/
  links_eq : parts.links = other.links
  /-- Collectors have the same reports, wherever they are. -/
  upheld_eq : ∀ snapshot, (parts.collector? snapshot).map Collector.upheld =
    (other.collector? snapshot).map Collector.upheld

/-- Parts in both of which, moreover, the collector of a snapshot is in use. -/
structure Parts.Sharing (snapshot : SnapshotId) (parts other : Parts) : Prop extends
    Parts.Resembling parts other where
  /-- The collector of the snapshot is in use. -/
  used : ∃ collector, parts.collectors.get? snapshot = some collector
  /-- So it is in the other parts. -/
  used' : ∃ collector, other.collectors.get? snapshot = some collector

/-- Networks that differ at most in which collectors have been taken away and which snapshots have
been given up. -/
abbrev Resembles : Network → Network → Prop := Twins Eq Parts.Resembling

variable {net other after : Network} {snapshot : SnapshotId}

/-- Equal nodes cannot be told apart, and neither can parts that have the same generator. -/
theorem congruence_of_generator {K : Parts → Parts → Prop}
    (hSame : ∀ {parts other}, K parts other →
      parts.generator = other.generator ∧ parts.maxDelay = other.maxDelay)
    (hDrawn : ∀ {parts other} generator, K parts other →
      K { parts with generator := generator } { other with generator := generator }) :
    Congruence Eq K where
  outbound_eq hNode := by rw [hNode]
  send _ _ := Action.respects_eq _
  start _ := Action.respects_eq _
  receive _ _ := Action.respects_eq _
  delay_eq hParts := by rw [(hSame hParts).1, (hSame hParts).2]
  drawn {parts other} hParts := by
    have hGenerator : (parts.generator.below parts.maxDelay).2 =
        (other.generator.below other.maxDelay).2 := by
      rw [(hSame hParts).1, (hSame hParts).2]
    rw [← hGenerator]
    exact hDrawn _ hParts

theorem congruence_resembling : Congruence Eq Parts.Resembling :=
  congruence_of_generator (fun hParts => ⟨hParts.generator_eq, hParts.maxDelay_eq⟩)
    fun _ hParts => ⟨rfl, hParts.maxDelay_eq, hParts.links_eq, hParts.upheld_eq⟩

theorem congruence_sharing (snapshot : SnapshotId) : Congruence Eq (Parts.Sharing snapshot) :=
  congruence_of_generator (fun hParts => ⟨hParts.generator_eq, hParts.maxDelay_eq⟩)
    fun _ hParts => ⟨⟨rfl, hParts.maxDelay_eq, hParts.links_eq, hParts.upheld_eq⟩, hParts.used,
      hParts.used'⟩

theorem growing_resembling : Growing Eq Parts.Resembling where
  create _ _ := rfl
  outbound_eq hNode := by rw [hNode]
  addOutbound hParts hNode _ := by rw [hNode, hParts.links_eq]
  addInbound hParts hNode _ := by rw [hNode, hParts.links_eq]
  pushed hParts link := { hParts with links_eq := congrArg (Array.push · link) hParts.links_eq }

/-! ### Reports -/

/-- Where collectors have the same reports, storing collectors with the same reports under a number
leaves it so. -/
theorem Parts.Resembling.insert {parts other : Parts} {collector changed : Collector}
    (hParts : parts.Resembling other) (hSame : collector.upheld = changed.upheld)
    (snapshot : SnapshotId) :
    Parts.Sharing snapshot
      { parts with collectors := parts.collectors.insert snapshot collector }
      { other with collectors := other.collectors.insert snapshot changed } := by
  refine ⟨{ hParts with upheld_eq := fun asked => ?_ },
    ⟨collector, SortedMap.get?_insert_self ..⟩, ⟨changed, SortedMap.get?_insert_self ..⟩⟩
  have hAsked := hParts.upheld_eq asked
  unfold Parts.collector? at hAsked ⊢
  dsimp only
  rw [SortedMap.get?_insert, SortedMap.get?_insert]
  by_cases hEqual : snapshot = asked
  · rw [if_pos hEqual, if_pos hEqual]
    exact congrArg some hSame
  · rw [if_neg hEqual, if_neg hEqual]
    exact hAsked

/-- Reports on a snapshot are taken alike where its collector is in use. -/
theorem respects_notify_sharing {report : Report} (hSnapshot : report.snapshot = snapshot) :
    Action.Respects (Twins Eq (Parts.Sharing snapshot)) (notify report) := by
  subst hSnapshot
  have hCall : Action.Respects (Twins Eq (Parts.Sharing report.snapshot))
      (callCollector report.snapshot (Collector.accept report)) := by
    intro net other hTwins
    obtain ⟨collector, hFound⟩ : ∃ collector, net.collectors.get? report.snapshot = some collector :=
      hTwins.parts.used
    obtain ⟨changed, hOther⟩ : ∃ changed, other.collectors.get? report.snapshot = some changed :=
      hTwins.parts.used'
    have hSame : collector.upheld = changed.upheld := by
      have hAsked := hTwins.parts.upheld_eq report.snapshot
      unfold Parts.collector? parts at hAsked
      simp only [hFound, hOther, Option.map_some, Option.some.injEq] at hAsked
      exact hAsked
    have hAccepted := Collector.respects_accept report hSame
    unfold callCollector
    rw [hFound, hOther]
    cases hFirst : Collector.accept report collector <;>
      cases hSecond : Collector.accept report changed <;>
      rw [hFirst, hSecond] at hAccepted <;> simp only [hFirst, hSecond] <;>
      first | exact hAccepted.elim | skip
    · exact ⟨hAccepted.1,
        { hTwins with parts := hTwins.parts.toResembling.insert hAccepted.2 report.snapshot }⟩
    · exact ⟨hAccepted.1, hTwins⟩
    · exact hAccepted
  exact hCall.bind fun complete => (respects_record _).bind fun _ => Action.respects_pure complete

theorem respects_startSnapshot_resembling (name : String) :
    Action.Respects Resembles (startSnapshot name) :=
  respects_startSnapshot name congruence_sharing
    (fun snapshot _ _ _ hTwins => { hTwins with parts := hTwins.parts.insert rfl snapshot })
    (fun _ _ hSnapshot => respects_notify_sharing hSnapshot) fun _ _ _ hParts => hParts.toResembling

/-! ### Markers that come too late -/

theorem Resembles.symm (hSame : Resembles net other) : Resembles other net :=
  ⟨hSame.clock_eq.symm, hSame.channels_eq.symm, hSame.nextSnapshot_eq.symm, hSame.journal_eq.symm,
    hSame.rejected_eq.symm, hSame.started_eq.symm, node_of_nodes_eq hSame.nodes_eq.symm,
    ⟨hSame.parts.generator_eq.symm, hSame.parts.maxDelay_eq.symm, hSame.parts.links_eq.symm,
      fun snapshot => (hSame.parts.upheld_eq snapshot).symm⟩⟩

/-- A collector that has been taken away elsewhere has the reports of all nodes. -/
theorem Resembles.hasReported {collector : Collector} {name : String} (hSame : Resembles net other)
    (hWell : net.WellFormed) (hTaken : net.collectors.get? snapshot = none)
    (hUsed : other.collectors.get? snapshot = some collector) (hName : name ∈ net.nodes.keys) :
    collector.hasReported name = true := by
  have hAsked := hSame.parts.upheld_eq snapshot
  unfold Parts.collector? parts at hAsked
  simp only [hTaken, hUsed] at hAsked
  cases hRetired : net.retired.get? snapshot with
  | none =>
      rw [hRetired] at hAsked
      cases hAsked
  | some retired =>
      rw [hRetired] at hAsked
      obtain ⟨hSound, hComplete, -⟩ := hWell.collected.retired_sound hRetired
      have hUpheld : retired.upheld = collector.upheld := Option.some.inj hAsked
      show collector.upheld.hasReported name = true
      rw [← hUpheld]
      refine Collector.hasReported_iff.mpr ?_
      exact hSound.isComplete_iff.mp hComplete name hName

/-- A marker for a node comes too late for all or for none, wherever the collectors are. -/
theorem Resembles.isStale_eq {name : String} (hSame : Resembles net other)
    (hWell : net.WellFormed) (hOther : other.WellFormed) (hName : name ∈ net.nodes.keys) :
    net.isStale snapshot name = other.isStale snapshot name := by
  unfold isStale
  cases hFirst : net.collectors.get? snapshot with
  | none =>
      cases hSecond : other.collectors.get? snapshot with
      | none => rfl
      | some changed => exact (hSame.hasReported hWell hFirst hSecond hName).symm
  | some collector =>
      cases hSecond : other.collectors.get? snapshot with
      | none => exact hSame.symm.hasReported hOther hSecond hFirst (hSame.keys_eq ▸ hName)
      | some changed =>
          have hAsked := hSame.parts.upheld_eq snapshot
          unfold Parts.collector? parts at hAsked
          simp only [hFirst, hSecond, Option.map_some, Option.some.injEq] at hAsked
          show collector.upheld.hasReported name = changed.upheld.hasReported name
          rw [hAsked]

/-! ### Ticks -/

/-- Well-formed networks that resemble each other. -/
def Companions (net other : Network) : Prop :=
  Resembles net other ∧ net.WellFormed ∧ other.WellFormed

/-- What leaves networks that resemble each other, and keeps each of them well-formed, leaves
companions. -/
theorem Companions.agrees {α : Type} {action : NetworkAction α} (hBoth : Companions net other)
    (hAgrees : (action net).Agrees (action other) (fun _ => Resembles) fun _ => Resembles)
    (hKeeps : ∀ net : Network, net.WellFormed →
      (action net).Meets (fun _ after => after.WellFormed) fun _ after => after.WellFormed) :
    (action net).Agrees (action other) (fun _ => Companions) fun _ => Companions :=
  hAgrees.and_meets (hKeeps net hBoth.2.1) (hKeeps other hBoth.2.2)

/-- A parcel that is addressed to a node is delivered alike. -/
theorem Companions.agrees_deliver {parcel : Parcel} (hBoth : Companions net other)
    (hTarget : parcel.target ∈ net.nodes.keys) :
    (deliver parcel net).Agrees (deliver parcel other) (fun _ => Resembles)
      fun _ => Resembles := by
  obtain ⟨hSame, hWell, hOther⟩ := hBoth
  obtain ⟨source, target, message, due⟩ := parcel
  cases message with
  | token amount => exact congruence_resembling.agrees_deliver_token hSame
  | marker snapshot =>
      have hReceived : (record (fun tick => .received tick source target (.marker snapshot))
          net).Agrees (record (fun tick => .received tick source target (.marker snapshot)) other)
          (fun _ between final => Companions between final ∧ between.nodes = net.nodes)
          fun _ => Resembles :=
        ⟨rfl, ⟨(respects_record (fun tick => .received tick source target (.marker snapshot))
          hSame).2, hWell.logged _, hOther.logged _⟩, rfl⟩
      refine Action.agrees_bind hReceived fun _ between final hBetween => ?_
      obtain ⟨⟨hSame, hWell, hOther⟩, hNodes⟩ := hBetween
      have hName : target ∈ between.nodes.keys := hNodes ▸ hTarget
      refine Action.agrees_read (hSame.isStale_eq hWell hOther hName) ?_
      by_cases hStale : between.isStale snapshot target = true
      · rw [if_pos hStale]
        exact ((respects_reject source target snapshot).bind fun _ => Action.respects_pure []) hSame
      · rw [if_neg hStale]
        -- The collector is in use in both networks, so that reports are taken alike.
        have hCurrent := Bool.eq_false_iff.mpr hStale
        obtain ⟨collector, hUsed, -⟩ := isStale_eq_false_iff.mp hCurrent
        obtain ⟨changed, hUsed', -⟩ := isStale_eq_false_iff.mp
          ((hSame.isStale_eq hWell hOther hName).symm.trans hCurrent)
        have hSharing : Twins Eq (Parts.Sharing snapshot) between final :=
          { hSame with parts := ⟨hSame.parts, ⟨collector, hUsed⟩, ⟨changed, hUsed'⟩⟩ }
        refine ((congruence_sharing snapshot).agrees_handOver hSharing
          fun node effects after hNode hDone report hReport => ?_).mono
            (fun _ _ _ hLast => hLast.mono Parts.Sharing.toResembling)
            fun _ _ _ hLast => hLast.mono Parts.Sharing.toResembling
        refine respects_notify_sharing (Node.snapshot_of_receive_marker ?_ hDone hReport)
        exact fun recording hRecording => (hWell.recorded hNode hRecording).1.snapshot_eq

/-- What comes off a channel is addressed to a node and leaves a well-formed network, also when it
is delivered. -/
theorem WellFormed.of_takeDue {between : Network} {source : String} {parcel : Parcel}
    (hWell : net.WellFormed) (hTake : takeDue source net = .done (some parcel) between) :
    between.WellFormed ∧ parcel.target ∈ between.nodes.keys ∧
      (deliver parcel between).Meets (fun _ after => after.WellFormed) Never := by
  have hDelivered : (deliver parcel between).Meets (fun _ after => after.WellFormed) Never :=
    (meets_deliver hWell hTake).imp fun _ _ hEvolves => hEvolves.wellFormed hWell
  obtain ⟨rest, -, hQueue, -, rfl⟩ := takeDue_eq_done hWell.wired.sound hTake
  have hLink : net.channels.contains parcel.link = true :=
    ChannelTable.contains_of_mem_queue (hQueue ▸ List.mem_cons_self)
  exact ⟨hWell.popped hQueue, hWell.wired.target_known hLink, hDelivered⟩

theorem respects_scan_companions (names : List String) :
    Action.Respects Companions (scan names) := by
  refine respects_scan (fun source net other hBoth => ?_) names
  have hTaken := (respects_takeDue source hBoth.1).and_meets (meets_takeDue net source)
    (meets_takeDue other source)
  refine hTaken.mono (fun due between final hAll => ?_) fun _ _ _ hNever => hNever.2.1.elim
  obtain ⟨hSame, ⟨hTake, hIdle⟩, hTake', hIdle'⟩ := hAll
  cases due with
  | none =>
      obtain rfl := hIdle rfl
      obtain rfl := hIdle' rfl
      exact hBoth
  | some parcel =>
      obtain ⟨hWell, hTarget, hDelivered⟩ := hBoth.2.1.of_takeDue hTake
      obtain ⟨hWell', -, hDelivered'⟩ := hBoth.2.2.of_takeDue hTake'
      have hAgrees := Companions.agrees_deliver ⟨hSame, hWell, hWell'⟩ hTarget
      exact (hAgrees.and_meets hDelivered hDelivered').mono (fun _ _ _ hLast => hLast)
        fun _ _ _ hNever => hNever.2.1.elim

theorem respects_tick_companions : Action.Respects Companions tick := by
  refine respects_tick (fun _ _ hBoth => hBoth.1) (fun net other hBoth => ?_)
    (fun net other hBoth => ?_) respects_scan_companions
  · exact hBoth.agrees (respects_freeze hBoth.1) fun net hWell =>
      (evolves_started net).wellFormed hWell
  · refine hBoth.agrees (respects_advance hBoth.1) fun net hWell => ?_
    exact (meets_advance net).imp fun _ _ hStep => (hStep.evolves inner_nil).wellFormed hWell

/-! ### Calls -/

/-- Calls that are no asides are answered alike by companions, which they leave. -/
theorem respects_answer_companions {call : Call} (hMain : call.isAside = false)
    (hOwn : call.isNotify = false) : Action.Respects Companions (answer call) := by
  intro net other hBoth
  have hKeeps : ∀ net : Network, net.WellFormed → (answer call net).Meets
      (fun _ after => after.WellFormed) fun _ after => after.WellFormed := fun net hWell =>
    (meets_answer hWell call).mono (fun _ _ hYields => hYields.course.wellFormed hWell)
      fun _ _ hYields => hYields.course.wellFormed hWell
  refine hBoth.agrees ?_ hKeeps
  have hSame := hBoth.1
  cases call with
  | addNode name tokens => exact (growing_resembling.respects_addNode name tokens).map _ hSame
  | addLink source target => exact (growing_resembling.respects_addLink source target).map _ hSame
  | send source target tokens =>
      exact (congruence_resembling.respects_sendTokens source target tokens).map _ hSame
  | control event =>
      cases event with
      | passToken source target tokens =>
          exact ((congruence_resembling.respects_sendTokens source target tokens).bind fun _ =>
            Action.respects_pure none).map _ hSame
      | snapshot name =>
          exact ((respects_startSnapshot_resembling name).bind fun _ =>
            Action.respects_pure _).map _ hSame
  | startSnapshot name => exact (respects_startSnapshot_resembling name).map _ hSame
  | tick =>
      exact ((respects_tick_companions.map _) hBoth).mono (fun _ _ _ hLast => hLast.1)
        fun _ _ _ hLast => hLast.1
  | receiveTime => exact congruence_resembling.respects_receiveTime.map _ hSame
  | notify report => cases hOwn
  | handle snapshot => cases hMain
  | tryCollect snapshot => cases hMain
  | collect snapshot => cases hMain
  | release snapshot => cases hMain
  | abandon snapshots => cases hMain

/-! ### Asides -/

theorem Resembles.of_collectors {net' : Network} (hSame : Resembles net other)
    (hOthers : net' = { net with collectors := net'.collectors, retired := net'.retired })
    (hUpheld : ∀ snapshot, (net'.collectorOf? ⟨snapshot⟩).map Collector.upheld =
      (net.collectorOf? ⟨snapshot⟩).map Collector.upheld) : Resembles net' other := by
  have hParts : net'.parts.Resembling other.parts := by
    refine ⟨?_, ?_, ?_, fun snapshot => (hUpheld snapshot).trans (hSame.parts.upheld_eq snapshot)⟩
    · rw [hOthers]
      exact hSame.parts.generator_eq
    · rw [hOthers]
      exact hSame.parts.maxDelay_eq
    · rw [hOthers]
      exact hSame.parts.links_eq
  revert hParts
  rw [hOthers]
  exact fun hParts => { hSame with parts := hParts }

theorem Resembles.retire {collector : Collector} (hSame : Resembles net other)
    (hUsed : net.collectors.get? snapshot = some collector) :
    Resembles (net.retire snapshot collector) other :=
  hSame.of_collectors rfl fun asked => by rw [collectorOf?_retire hUsed]

theorem Resembles.abandon (hSame : Resembles net other) (snapshots : List SnapshotId) :
    Resembles (Network.abandon snapshots net) other := by
  refine hSame.of_collectors rfl fun asked => ?_
  unfold collectorOf? Network.abandon
  dsimp only
  rw [SortedMap.get?_mapValues]
  cases net.collectors.get? asked with
  | none => rfl
  | some collector =>
      dsimp only [Option.map_some]
      split
      · rw [Collector.upheld_abandon]
      · rfl

theorem Resembles.collects {taken : Option Snapshot} (hSame : Resembles net other)
    (hCollects : net.Collects snapshot taken after) : Resembles after other := by
  cases taken with
  | none =>
      obtain rfl : after = net := hCollects
      exact hSame
  | some assembled =>
      obtain ⟨collector, hUsed, -, rfl⟩ := hCollects
      exact hSame.retire hUsed

/-- An aside leaves a network that resembles what the one before did. -/
theorem Resembles.meets_aside {call : Call} (hSame : Resembles net other)
    (hAside : call.isAside = true) :
    (answer call net).Meets (fun _ after => Resembles after other)
      fun _ after => Resembles after other := by
  cases call with
  | handle snapshot =>
      refine Action.meets_map ?_
      unfold Network.handle
      cases net.collectors.get? snapshot <;> exact hSame
  | tryCollect snapshot =>
      refine Action.meets_map ((meets_tryCollect net snapshot).mono (fun _ _ hCollects => ?_)
        fun _ _ hNothing => hNothing ▸ hSame)
      exact hSame.collects hCollects
  | collect snapshot =>
      refine Action.meets_map ((meets_collect net snapshot).mono (fun _ _ hCollects => ?_)
        fun _ _ hNothing => hNothing ▸ hSame)
      exact hSame.collects hCollects
  | release snapshot =>
      refine Action.meets_map ?_
      unfold Network.release
      cases hUsed : net.collectors.get? snapshot with
      | none => exact hSame
      | some collector =>
          dsimp only
          split
          · exact hSame.retire hUsed
          · exact hSame
  | abandon snapshots => exact Action.meets_map (Action.meets_update (hSame.abandon snapshots))
  | _ => cases hAside

/-- No aside is cut short. -/
theorem aside_ne_faulted {call : Call} (hAside : call.isAside = true) (fault : Fault) :
    answer call net ≠ .faulted fault := by
  intro hFaulted
  cases call with
  | handle snapshot =>
      have hCut := Action.map_eq_faulted_iff.mp hFaulted
      unfold Network.handle at hCut
      split at hCut <;> cases hCut
  | tryCollect snapshot =>
      have hCut := Action.map_eq_faulted_iff.mp hFaulted
      unfold Network.tryCollect at hCut
      split at hCut
      · cases hCut
      · split at hCut <;> cases hCut
  | collect snapshot =>
      have hCut := Action.map_eq_faulted_iff.mp hFaulted
      unfold Network.collect at hCut
      split at hCut
      · cases hCut
      · split at hCut <;> cases hCut
  | release snapshot =>
      have hCut := Action.map_eq_faulted_iff.mp hFaulted
      unfold Network.release at hCut
      split at hCut
      · cases hCut
      · split at hCut <;> cases hCut
  | abandon snapshots => exact nomatch Action.map_eq_faulted_iff.mp hFaulted
  | _ => cases hAside

/-- An aside is answered and leaves companions. -/
theorem Companions.aside {call : Call} (hBoth : Companions net other)
    (hAside : call.isAside = true) :
    ∃ reply after, net.reply call = .ok (reply, after) ∧ Companions after other := by
  have hMeets := hBoth.1.meets_aside hAside
  have hKeeps : ∀ {reply after}, net.reply call = .ok (reply, after) → after.WellFormed :=
    fun hReply => (yields_of_reply hBoth.2.1 hReply).course.wellFormed hBoth.2.1
  cases hAnswer : answer call net with
  | done value after =>
      have hReply : net.reply call = .ok (.ok value, after) := by
        unfold reply
        rw [hAnswer]
      exact ⟨_, after, hReply, hMeets.of_done hAnswer, hKeeps hReply, hBoth.2.2⟩
  | refused error after =>
      have hReply : net.reply call = .ok (.error error, after) := by
        unfold reply
        rw [hAnswer]
      exact ⟨_, after, hReply, hMeets.of_refused hAnswer, hKeeps hReply, hBoth.2.2⟩
  | faulted fault => exact absurd hAnswer (aside_ne_faulted hAside fault)

/-! ### Histories -/

/-- What a history comes to, but for the replies to asides. -/
def mainPart (calls : List Call) (outcome : List Reply × Network) : List Reply × Network :=
  (mainReplies calls outcome.1, outcome.2)

theorem history_cons (net : Network) (call : Call) (rest : List Call) :
    net.history (call :: rest) = net.reply call >>= fun answered =>
      (answered.2.history rest).map fun outcome => (answered.1 :: outcome.1, outcome.2) := by
  rw [history]
  cases net.reply call with
  | error fault => rfl
  | ok answered =>
      simp only [bind, Except.bind]
      cases answered.2.history rest <;> rfl

/-- The reply to an aside is left out. -/
theorem mainPart_of_aside {call : Call} {rest : List Call} {reply : Reply}
    (hAside : call.isAside = true) (hReply : net.reply call = .ok (reply, after)) :
    (net.history (call :: rest)).map (mainPart (call :: rest)) =
      (after.history rest).map (mainPart rest) := by
  rw [history_cons, hReply]
  simp only [bind, Except.bind]
  cases after.history rest with
  | error fault => rfl
  | ok outcome =>
      show Except.ok (mainReplies (call :: rest) (reply :: outcome.1), outcome.2) = _
      rw [mainReplies, if_pos hAside]
      rfl

/-- The reply to any other call comes first. -/
theorem mainPart_of_main {call : Call} {rest : List Call} (hMain : call.isAside = false) :
    (net.history (call :: rest)).map (mainPart (call :: rest)) =
      net.reply call >>= fun answered => ((answered.2.history rest).map (mainPart rest)).map
        fun outcome => (answered.1 :: outcome.1, outcome.2) := by
  rw [history_cons]
  cases net.reply call with
  | error fault => rfl
  | ok answered =>
      simp only [bind, Except.bind]
      cases answered.2.history rest with
      | error fault => rfl
      | ok outcome =>
          show Except.ok (mainReplies (call :: rest) (answered.1 :: outcome.1), outcome.2) = _
          rw [mainReplies, hMain, if_neg Bool.false_ne_true]
          rfl

/-- A history comes to the same as the history without its asides. -/
theorem Companions.alike_main {calls : List Call} (hBoth : Companions net other)
    (hOwn : ∀ call ∈ calls, call.isNotify = false) :
    Alike Companions ((net.history calls).map (mainPart calls))
      (other.history (calls.filter fun call => !call.isAside)) := by
  induction calls generalizing net other with
  | nil => exact ⟨rfl, hBoth⟩
  | cons call rest ih =>
      have hRest := fun later hLater => hOwn later (List.mem_cons_of_mem _ hLater)
      cases hAside : call.isAside with
      | true =>
          -- The other network does not hear of the aside.
          obtain ⟨reply, after, hReply, hAfter⟩ := hBoth.aside hAside
          rw [mainPart_of_aside hAside hReply, List.filter_cons_of_neg (by simp [hAside])]
          exact ih hAfter hRest
      | false =>
          have hAnswer := respects_answer_companions hAside (hOwn call List.mem_cons_self)
          rw [mainPart_of_main hAside, List.filter_cons_of_pos (by simp [hAside]), history_cons]
          exact (alike_reply hAnswer hBoth).bind fun first between final hBetween =>
            (ih hBetween hRest).map (first :: ·)

/-- Two networks between which collecting makes the only difference. -/
structure Undisturbed (net other : Network) : Prop where
  /-- The time is the same. -/
  clock_eq : net.clock = other.clock
  /-- The state of the generator is the same. -/
  generator_eq : net.generator = other.generator
  /-- The bound on delays is the same. -/
  maxDelay_eq : net.maxDelay = other.maxDelay
  /-- The nodes are the same, with their balances and recordings. -/
  nodes_eq : net.nodes = other.nodes
  /-- The links are the same. -/
  links_eq : net.links = other.links
  /-- The same is under way. -/
  channels_eq : net.channels = other.channels
  /-- The same snapshots have been started. -/
  nextSnapshot_eq : net.nextSnapshot = other.nextSnapshot
  /-- The same has happened. -/
  journal_eq : net.journal = other.journal
  /-- The same number of markers has been turned down. -/
  rejected_eq : net.rejected = other.rejected
  /-- Nodes and links can be added to both or to none. -/
  started_eq : net.started = other.started
  /-- The same snapshots are complete, with the same content. -/
  completed?_eq : net.completed? = other.completed?

theorem Resembles.undisturbed (hSame : Resembles net other) : Undisturbed net other := by
  refine ⟨hSame.clock_eq, hSame.parts.generator_eq, hSame.parts.maxDelay_eq, hSame.nodes_eq,
    hSame.parts.links_eq, hSame.channels_eq, hSame.nextSnapshot_eq, hSame.journal_eq,
    hSame.rejected_eq, hSame.started_eq, funext fun snapshot => ?_⟩
  -- What is put together does not go by whether a snapshot has been given up.
  have hUpheld : ∀ net : Network, net.completed? snapshot =
      ((net.collectorOf? ⟨snapshot⟩).map Collector.upheld).bind Collector.assemble? := by
    intro net
    unfold completed?
    cases net.collectorOf? ⟨snapshot⟩ <;> rfl
  rw [hUpheld, hUpheld]
  exact congrArg (Option.bind · Collector.assemble?) (hSame.parts.upheld_eq snapshot)

theorem Resembles.trans {last : Network} (hSame : Resembles net other)
    (hLast : Resembles other last) : Resembles net last :=
  ⟨hSame.clock_eq.trans hLast.clock_eq, hSame.channels_eq.trans hLast.channels_eq,
    hSame.nextSnapshot_eq.trans hLast.nextSnapshot_eq, hSame.journal_eq.trans hLast.journal_eq,
    hSame.rejected_eq.trans hLast.rejected_eq, hSame.started_eq.trans hLast.started_eq,
    node_of_nodes_eq (hSame.nodes_eq.trans hLast.nodes_eq),
    ⟨hSame.parts.generator_eq.trans hLast.parts.generator_eq,
      hSame.parts.maxDelay_eq.trans hLast.parts.maxDelay_eq,
      hSame.parts.links_eq.trans hLast.parts.links_eq,
      fun snapshot => (hSame.parts.upheld_eq snapshot).trans (hLast.parts.upheld_eq snapshot)⟩⟩

/-- Two histories of a network that differ at most in their asides come to the same: they are cut
short by the same fault, or all calls but the asides are answered alike and the same happens, down
to the content of every snapshot that is complete.  What the one history has handed out, the other
one has completed as well. -/
theorem collecting_undisturbing {config : Config} {calls others : List Call}
    (hBuilt : ofConfig config = .ok net) (hOwn : ∀ call ∈ calls, call.isNotify = false)
    (hOther : ∀ call ∈ others, call.isNotify = false)
    (hSame : calls.filter (fun call => !call.isAside) =
      others.filter fun call => !call.isAside) :
    Alike Undisturbed ((net.history calls).map (mainPart calls))
        ((net.history others).map (mainPart others)) ∧
      ∀ replies last, net.history calls = .ok (replies, last) →
        ∃ replies' final, net.history others = .ok (replies', final) ∧
          ∀ assembled ∈ replies.filterMap Reply.snapshot?,
            ∃ snapshot, final.completed? snapshot = some assembled := by
  have hWell := (fresh_ofConfig hBuilt).wellFormed
  have hSelf : Companions net net :=
    ⟨⟨rfl, rfl, rfl, rfl, rfl, rfl, node_of_nodes_eq rfl, ⟨rfl, rfl, rfl, fun _ => rfl⟩⟩, hWell,
      hWell⟩
  have hFirst := hSelf.alike_main hOwn
  have hSecond := hSelf.alike_main hOther
  rw [← hSame] at hSecond
  have hAlike : Alike Undisturbed ((net.history calls).map (mainPart calls))
      ((net.history others).map (mainPart others)) :=
    hFirst.join hSecond fun _ _ _ hOne hTwo => (hOne.1.trans hTwo.1.symm).undisturbed
  refine ⟨hAlike, fun replies last hHistory => ?_⟩
  rw [hHistory] at hAlike
  cases hFinal : net.history others with
  | error fault =>
      rw [hFinal] at hAlike
      exact hAlike.elim
  | ok outcome =>
      rw [hFinal] at hAlike
      refine ⟨outcome.1, outcome.2, rfl, fun assembled hHanded => ?_⟩
      have hUndisturbed : Undisturbed last outcome.2 := hAlike.2
      rw [← hUndisturbed.completed?_eq]
      exact completed?_of_history hWell hOwn hHistory hHanded

/-- The sample calls with other asides: snapshots are asked for before they are complete, given up,
and taken away before the last tick. -/
def restlessCalls : List Call :=
  [.addNode "C" 2, .addLink "B" "C", .send "A" "B" 1, .startSnapshot "A", .handle 0, .tryCollect 0,
    .abandon [0, 1], .send "B" "C" 3, .send "B" "A" 1, .startSnapshot "C", .collect 1, .tick,
    .collect 0, .tick, .tick, .tryCollect 0, .tick, .release 1, .tick, .tryCollect 0, .tick,
    .release 1, .tick, .handle 0, .tryCollect 0, .tick, .tryCollect 0, .release 0]

/-- In the sample history both snapshots are taken away at its end.  To give them up first and to
take them away between the ticks makes no difference. -/
theorem collecting_undisturbing_pair :
    ∃ net replies last replies' final first, ofConfig pairConfig = .ok net ∧
      net.history pairCalls = .ok (replies, last) ∧ last.retired.size = 2 ∧
      net.history restlessCalls = .ok (replies', final) ∧
      mainReplies pairCalls replies = mainReplies restlessCalls replies' ∧
      Undisturbed last final ∧ last.completed? 0 = some first ∧
      final.completed? 0 = some first := by
  have hPlays : (played? pairConfig pairCalls).any (fun outcome =>
      (outcome.2.2.completed? 0).isSome && decide (outcome.2.2.retired.size = 2)) = true := by
    decide +kernel
  obtain ⟨net, replies, last, hBuilt, hHistory, hCheck⟩ := exists_of_played? hPlays
  rw [Bool.and_eq_true, Option.isSome_iff_exists, decide_eq_true_iff] at hCheck
  obtain ⟨⟨first, hFirst⟩, hRetired⟩ := hCheck
  have hSame : pairCalls.filter (fun call => !call.isAside) =
      restlessCalls.filter fun call => !call.isAside := by
    decide
  obtain ⟨hAlike, hHanded⟩ :=
    collecting_undisturbing hBuilt (by decide) (by decide) hSame
  obtain ⟨replies', final, hFinal, -⟩ := hHanded replies last hHistory
  rw [hHistory, hFinal] at hAlike
  have hUndisturbed : Undisturbed last final := hAlike.2
  exact ⟨net, replies, last, replies', final, first, hBuilt, hHistory, hRetired, hFinal, hAlike.1,
    hUndisturbed, hFirst, hUndisturbed.completed?_eq ▸ hFirst⟩

end Network

end TokenNet
