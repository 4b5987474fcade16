import TokenNet.Proofs.Deliveries
import TokenNet.Proofs.Histories

namespace TokenNet

/-!
# Completed snapshots are consistent cuts

Whatever has happened in a network, a completed snapshot is the state that the happenings before
its cut lead to: those sends and deliveries that came before their node took part in it.  They
can be replayed from the start, every delivery taking the oldest amount of its link, and the
ledger that results has the balances of the snapshot and, on every link, its transfers
(`Network.consistent_cut`).  This holds for every order of calls and for all snapshots of a
history at once.
-/

/-- The ledger is what the snapshot says: it has the same balances and, on every link, the same
amounts, apart from amounts of zero. -/
structure Ledger.Realizes (ledger : Ledger) (snapshot : Snapshot) : Prop where
  /-- The balances are the same. -/
  balances_eq : ledger.balances = snapshot.balances
  /-- The amounts under way are those of the transfers, in order. -/
  paying_queue : ∀ link, paying (ledger.queue link) =
    (snapshot.messages.filter fun transfer => transfer.link = link).map Transfer.amount

namespace Network

variable {net : Network} {snapshot : SnapshotId}

/-- The transfers of a snapshot on a link are those that the target of the link has reported
from its source. -/
theorem filter_messages_ofReports {reports : SortedMap String Report}
    (hTarget : ∀ {name report transfer}, reports.get? name = some report →
      transfer ∈ report.inFlight → transfer.target = name ∧ 0 < transfer.amount)
    (link : Link) :
    ((Snapshot.ofReports snapshot reports).messages.filter fun transfer =>
        transfer.link = link).map Transfer.amount =
      ((reports.get? link.target).map fun report =>
        (Part.ofReport report).amountsFrom link.source).getD [] := by
  have hPositive : ∀ {name report}, reports.get? name = some report →
      Snapshot.positive report.inFlight = report.inFlight := fun hReport =>
    List.filter_eq_self.mpr fun transfer hMember =>
      decide_eq_true (hTarget hReport hMember).2
  -- A node has reported transfers to itself only.
  have hOthers : ∀ {name report}, reports.get? name = some report → name ≠ link.target →
      (Snapshot.positive report.inFlight).filter (fun transfer => transfer.link = link) = [] := by
    intro name report hReport hDifferent
    refine List.filter_eq_nil_iff.mpr fun transfer hMember hLink => hDifferent ?_
    rw [hPositive hReport] at hMember
    rw [← of_decide_eq_true hLink]
    exact (hTarget hReport hMember).1.symm
  show ((reports.values.flatMap fun report => Snapshot.positive report.inFlight).filter
    fun transfer => transfer.link = link).map Transfer.amount = _
  rw [List.filter_flatMap]
  cases hReport : reports.get? link.target with
  | none =>
      have hNone : (reports.values.flatMap fun report =>
          (Snapshot.positive report.inFlight).filter fun transfer => transfer.link = link) = [] := by
        apply List.flatMap_eq_nil_iff.mpr
        intro report hMember
        obtain ⟨name, hName⟩ := SortedMap.mem_values_iff.mp hMember
        apply hOthers hName
        intro hEqual
        rw [hEqual, hReport] at hName
        cases hName
      rw [hNone]
      rfl
  | some report =>
      rw [SortedMap.flatMap_values_of_get? hReport hOthers, hPositive hReport, Option.map_some,
        Option.getD_some]
      unfold Part.amountsFrom
      refine congrArg (List.map Transfer.amount) (List.filter_congr fun transfer hMember => ?_)
      have hEnd := (hTarget hReport hMember).1
      rw [decide_eq_decide, Link.ext_iff]
      exact and_iff_left hEnd

/-- A ledger that tallies with the cut of a completed snapshot is what the snapshot says. -/
theorem WellFormed.realizes {ledger : Ledger} {assembled : Snapshot} (hWell : net.WellFormed)
    (hTallied : (net.cut snapshot).Tallied ledger)
    (hCompleted : net.completed? snapshot = some assembled) : ledger.Realizes assembled := by
  obtain ⟨collector, hFound, hComplete, rfl⟩ := hWell.completed?_eq_some_iff.mp hCompleted
  have hReported : ∀ {name report}, collector.reported.get? name = some report →
      (net.cut snapshot).part name = some (Part.ofReport report) := part?_of_reported hFound
  have hIdle : ∀ {name}, collector.reported.get? name = none →
      (net.cut snapshot).part name = none := hWell.part?_of_unreported hFound hComplete
  -- Whoever has not reported is no node.
  have hUnknown : ∀ {name}, collector.reported.get? name = none → name ∉ net.nodes.keys :=
    fun hReport hName => SortedMap.get?_eq_none_iff.mp hReport
      ((hWell.sound_of_collectorOf? hFound).isComplete_iff.mp hComplete _ hName)
  refine ⟨SortedMap.ext_get? fun name => ?_, fun link => ?_⟩
  · refine Eq.trans ?_ (SortedMap.get?_mapValues ..).symm
    cases hReport : collector.reported.get? name with
    | some report => exact hTallied.balance_part (hReported hReport)
    | none =>
        rw [hTallied.balance_idle (hIdle hReport)]
        show (net.nodes.get? name).map Node.tokens = none
        rw [SortedMap.get?_eq_none_iff.mpr (hUnknown hReport), Option.map_none]
  · rw [filter_messages_ofReports fun hReport => hTallied.in_flight (hReported hReport)]
    cases hReport : collector.reported.get? link.target with
    | some report =>
        rw [hTallied.queue_part (hReported hReport)]
        exact List.append_nil _
    | none =>
        have hMissing : ¬ net.channels.contains link = true := fun hLink =>
          hUnknown hReport (hWell.wired.target_known hLink)
        rw [hTallied.queue_idle (hIdle hReport), flow_cut, ChannelTable.queue_eq_nil hMissing]
        rfl

/-! ### The theorem -/

/-- After a run from a fresh network, the nodes that take part in a snapshot are those that have
joined it, each of them once. -/
theorem Run.count_joined {last : Network} {trace : List Happening} (hRun : Run net trace last)
    (hFresh : net.Fresh) (hHonest : Honest trace) (name : String) :
    trace.count (.joined name snapshot) = (last.part? snapshot name).isSome.toNat := by
  induction hRun with
  | start =>
      rw [hFresh.part?_eq_none]
      rfl
  | step hEarlier hStep ih =>
      obtain ⟨hBefore, hNow⟩ := honest_append.mp hHonest
      have hWell := hEarlier.wellFormed hFresh.wellFormed
      have hCut : Cut.Step snapshot _ _ _ := (hStep.change hWell).cut hWell hNow
      have hCount := hCut.count_joined name
      rw [List.count_append, ih hBefore, Nat.add_comm]
      exact hCount

end Network

/-- A snapshot is the state that the happenings before its cut lead to. -/
structure Snapshot.IsCutOf (assembled : Snapshot) (start : Ledger) (trace : List Happening) :
    Prop where
  /-- What comes before the cut can be replayed, and comes to what the snapshot says. -/
  realized : ∃ ledger, start.replay (beforeCut assembled.id [] trace) = some ledger ∧
    ledger.Realizes assembled
  /-- Every node passes the cut once. -/
  count_joined : ∀ name ∈ assembled.balances.keys,
    trace.count (.joined name assembled.id) = 1
  /-- What is delivered before the cut is sent before the cut. -/
  delivered_prefix_sent : ∀ link, Ledger.deliveredOn link (beforeCut assembled.id [] trace) <+:
    Ledger.sentOn link (beforeCut assembled.id [] trace)
  /-- What is sent on a link before the cut is the first part of all that is sent on it. -/
  sent_prefix : ∀ link, Ledger.sentOn link (beforeCut assembled.id [] trace) <+:
    Ledger.sentOn link trace
  /-- What is delivered from a link before the cut is the first part of all that is delivered
  from it. -/
  delivered_prefix : ∀ link, Ledger.deliveredOn link (beforeCut assembled.id [] trace) <+:
    Ledger.deliveredOn link trace

namespace Network

variable {net last : Network} {trace : List Happening} {snapshot : SnapshotId}

theorem Run.isCutOf {assembled : Snapshot} (hRun : Run net trace last) (hFresh : net.Fresh)
    (hHonest : Honest trace) (hCompleted : last.completed? snapshot = some assembled) :
    assembled.IsCutOf (Ledger.start net) trace := by
  have hWell := hRun.wellFormed hFresh.wellFormed
  obtain ⟨ledger, hReplayed, hTallied⟩ := (hRun.reached hFresh hHonest snapshot).tallied
  have hRealizes := hWell.realizes hTallied hCompleted
  obtain ⟨collector, hFound, hComplete, rfl⟩ := hWell.completed?_eq_some_iff.mp hCompleted
  refine ⟨⟨ledger, hReplayed, hRealizes⟩, fun name hName => ?_, fun link => ?_,
    fun link => Ledger.sentOn_beforeCut_prefix _ link trace,
    fun link => Ledger.deliveredOn_beforeCut_prefix _ link trace⟩
  · have hReported : name ∈ collector.reported.keys :=
      (SortedMap.keys_mapValues _ collector.reported) ▸ hName
    obtain ⟨report, hReport⟩ := SortedMap.mem_keys_iff.mp hReported
    have hJoined := part?_of_reported hFound hReport
    exact (hRun.count_joined hFresh hHonest name).trans
      (congrArg (fun part : Option Part => part.isSome.toNat) hJoined)
  · -- What is left on a link at the end is what was sent last.
    have hQueue := Ledger.replay_queue hReplayed link
    have hEmpty : (Ledger.start net).queue link = [] := rfl
    rw [hEmpty, List.nil_append] at hQueue
    exact ⟨_, hQueue.symm⟩

/-- Every snapshot that is completed in a history of calls is a consistent cut of the history,
whatever the calls are and in whatever order they come. -/
theorem consistent_cut {config : Config} {calls : List Call} {replies : List Reply}
    (hBuilt : ofConfig config = .ok net) (hOwn : ∀ call ∈ calls, call.isNotify = false)
    (hHistory : net.history calls = .ok (replies, last)) :
    (∃ trace, Run net trace last ∧ Honest trace) ∧
      ∀ trace, Run net trace last → Honest trace →
        trace.filter Happening.isTransfer = last.journal.transfers ∧
          ∀ snapshot assembled, last.completed? snapshot = some assembled →
            assembled.id = snapshot ∧ assembled.IsCutOf (Ledger.start net) trace := by
  have hFresh := fresh_ofConfig hBuilt
  obtain ⟨trace, hRun, hHonest, -⟩ := history_leads hFresh.wellFormed hOwn hHistory
  refine ⟨⟨trace, hRun, hHonest⟩, fun trace hRun hHonest => ⟨?_, ?_⟩⟩
  · rw [hRun.transfers hFresh.wellFormed]
    unfold Journal.transfers
    rw [hFresh.journal_eq_nil, List.filterMap_nil, List.nil_append]
  · intro snapshot assembled hCompleted
    refine ⟨?_, hRun.isCutOf hFresh hHonest hCompleted⟩
    have hWell := hRun.wellFormed hFresh.wellFormed
    obtain ⟨collector, -, -, rfl⟩ := hWell.completed?_eq_some_iff.mp hCompleted
    rfl

/-- Both snapshots of the sample history are consistent cuts of it. -/
theorem consistent_cut_pair :
    ∃ net replies last trace first second, ofConfig pairConfig = .ok net ∧
      net.history pairCalls = .ok (replies, last) ∧ Run net trace last ∧ Honest trace ∧
      last.completed? 0 = some first ∧ first.IsCutOf (Ledger.start net) trace ∧
      last.completed? 1 = some second ∧ second.IsCutOf (Ledger.start net) trace := by
  have hPlays : (played? pairConfig pairCalls).any (fun outcome =>
      (outcome.2.2.completed? 0).isSome && (outcome.2.2.completed? 1).isSome) = true := by
    decide +kernel
  obtain ⟨⟨net, replies, last⟩, hPlayed, hBoth⟩ := (Option.any_eq_true _ _).mp hPlays
  obtain ⟨hBuilt, hHistory⟩ := of_played? hPlayed
  rw [Bool.and_eq_true, Option.isSome_iff_exists, Option.isSome_iff_exists] at hBoth
  obtain ⟨⟨first, hFirst⟩, second, hSecond⟩ := hBoth
  obtain ⟨⟨trace, hRun, hHonest⟩, hAll⟩ := consistent_cut hBuilt (by decide) hHistory
  obtain ⟨-, hCuts⟩ := hAll trace hRun hHonest
  exact ⟨net, replies, last, trace, first, second, hBuilt, hHistory, hRun, hHonest, hFirst,
    (hCuts 0 first hFirst).2, hSecond, (hCuts 1 second hSecond).2⟩

end Network

end TokenNet
