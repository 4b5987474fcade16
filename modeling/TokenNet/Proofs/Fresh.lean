import TokenNet.Proofs.Folds
import TokenNet.Proofs.Refinement
import TokenNet.Proofs.Tally

namespace TokenNet

/-!
# Runs from fresh networks

A network that has been built and not used yet has nothing under way, and no snapshot has been
started (`Network.Fresh`); so it is when a configuration is accepted
(`Network.fresh_ofConfig`).  After any run from it in which no report comes from outside, the
marks of every snapshot are accounted for, and the ledger of what comes before its cut tallies
with the cut (`Network.Run.reached`).
-/

/-- A network that has been built and not used. -/
structure Network.Fresh (net : Network) : Prop where
  /-- The network is well-formed. -/
  wellFormed : net.WellFormed
  /-- No snapshot has been started. -/
  nextSnapshot_eq : net.nextSnapshot = 0
  /-- Nothing is under way. -/
  queue_eq_nil : ∀ link, net.channels.queue link = []
  /-- Nothing has been written. -/
  journal_eq_nil : net.journal.toList = []

/-- What a run says about the cut of a snapshot. -/
structure Cut.Reached (start : Ledger) (snapshot : SnapshotId) (trace : List Happening)
    (cut : Cut) : Prop where
  /-- Every link carries the marks that it should carry. -/
  accounted : cut.Accounted
  /-- What comes before the cut can be replayed, and yields what the cut says. -/
  tallied : ∃ ledger, start.replay (beforeCut snapshot [] trace) = some ledger ∧
    cut.Tallied ledger
  /-- The nodes that take part are those that have joined. -/
  passed_iff : ∀ name, name ∈ passedAfter snapshot [] trace ↔ (cut.part name).isSome = true

theorem Cut.Reached.step {start : Ledger} {snapshot : SnapshotId} {trace happenings : List Happening}
    {cut after : Cut} (hReached : cut.Reached start snapshot trace)
    (hStep : Cut.Step snapshot cut happenings after) :
    after.Reached start snapshot (trace ++ happenings) := by
  obtain ⟨ledger, hReplayed, hTallied⟩ := hReached.tallied
  obtain ⟨⟨later, hLater, hAfter⟩, hPassed⟩ :=
    hTallied.step hReached.accounted hReached.passed_iff hStep
  refine ⟨hReached.accounted.step hStep, ⟨later, ?_, hAfter⟩, ?_⟩
  · rw [beforeCut_append, Ledger.replay_append, hReplayed, Option.bind_some]
    exact hLater
  · unfold passedAfter at hPassed ⊢
    rw [List.foldl_append]
    exact hPassed

namespace Network

variable {net after : Network} {trace : List Happening}

/-- Nobody takes part in any snapshot of a fresh network. -/
theorem Fresh.part?_eq_none (hFresh : net.Fresh) (snapshot : SnapshotId) (name : String) :
    net.part? snapshot name = none := by
  refine hFresh.wellFormed.part?_eq_none ?_ name
  rw [hFresh.nextSnapshot_eq]
  exact UInt64.not_lt_zero

theorem Fresh.reached (hFresh : net.Fresh) (snapshot : SnapshotId) :
    (net.cut snapshot).Reached (Ledger.start net) snapshot [] := by
  have hIdle : ∀ name, (net.cut snapshot).part name = none := hFresh.part?_eq_none snapshot
  have hFlow : ∀ link, (net.cut snapshot).flow link = [] := fun link => by
    rw [flow_cut, hFresh.queue_eq_nil, List.filterMap_nil]
  have hNobody : ∀ {name part}, (net.cut snapshot).part name ≠ some part := by
    intro name part hPart
    rw [hIdle] at hPart
    cases hPart
  refine ⟨⟨fun _ => ?_, fun _ hClosed => ?_, fun _ => hFlow _, fun hPart => absurd hPart hNobody⟩,
    ⟨Ledger.start net, rfl, fun _ => ?_, fun hPart => absurd hPart hNobody, fun _ => ?_,
      fun hPart => absurd hPart hNobody, fun hPart => absurd hPart hNobody⟩, fun name => ?_⟩
  · rw [hFlow, Cut.expected_eq_zero (Or.inl (hIdle _))]
    rfl
  · obtain ⟨part, hPart, -⟩ := Cut.isClosed_eq_true_iff.mp hClosed
    exact absurd hPart hNobody
  · exact SortedMap.get?_mapValues ..
  · rw [hFlow]
    rfl
  · rw [hIdle]
    exact ⟨fun hPassed => absurd hPassed List.not_mem_nil, fun hJoined => nomatch hJoined⟩

/-- The marks of every snapshot are accounted for after a run, and what comes before its cut
yields what the cut says. -/
theorem Run.reached (hRun : Run net trace after) (hFresh : net.Fresh) (hHonest : Honest trace)
    (snapshot : SnapshotId) : (after.cut snapshot).Reached (Ledger.start net) snapshot trace := by
  induction hRun with
  | start => exact hFresh.reached snapshot
  | step hEarlier hStep ih =>
      obtain ⟨hBefore, hNow⟩ := honest_append.mp hHonest
      have hWell := hEarlier.wellFormed hFresh.wellFormed
      exact (ih hBefore).step ((hStep.change hWell).cut hWell hNow)

/-! ### Networks of configurations -/

theorem fresh_empty (seed maxDelay : UInt64) : (Network.empty seed maxDelay).Fresh := by
  -- None of the tables has an entry, so there is nothing to check.
  have hMissing : ∀ {link}, ¬ ChannelTable.empty.contains link = true := by
    intro link hLink
    obtain ⟨channel, hFound⟩ := ChannelTable.contains_iff.mp hLink
    rw [ChannelTable.get?_empty] at hFound
    cases hFound
  have hQueue : ∀ {link}, ChannelTable.empty.queue link = [] :=
    ChannelTable.queue_eq_nil hMissing
  have hNobody : ∀ {name node}, (Network.empty seed maxDelay).nodes.get? name ≠ some node :=
    fun hNode => nomatch (SortedMap.get?_empty _).symm.trans hNode
  have hNothing : ∀ {link parcel}, parcel ∉ ChannelTable.empty.queue link := by
    intro link parcel
    rw [hQueue]
    exact List.not_mem_nil
  have hSound : ChannelTable.empty.Sound := by
    refine ⟨fun {link channel} hFound => ?_, fun hMember => absurd hMember hNothing⟩
    rw [ChannelTable.get?_empty] at hFound
    cases hFound
  have hWired : Wired (Network.empty seed maxDelay).nodes ChannelTable.empty :=
    ⟨hSound, fun hNode => absurd hNode hNobody, fun hNode => absurd hNode hNobody,
      fun hNode => absurd hNode hNobody, fun hLink => absurd hLink hMissing,
      fun hLink => absurd hLink hMissing⟩
  refine ⟨⟨hWired, fun _ _ _ _ hNode => absurd hNode hNobody,
    fun _ _ _ hMember => absurd hMember hNothing,
    ⟨fun hFound => ?_, fun hFound => ?_, fun {snapshot} => ?_⟩, fun hSome => absurd rfl hSome⟩, rfl,
    fun _ => hQueue, rfl⟩
  · exact nomatch (SortedMap.get?_empty _).symm.trans hFound
  · exact nomatch (SortedMap.get?_empty _).symm.trans hFound
  · exact ⟨fun hStarted => absurd hStarted UInt64.not_lt_zero,
      fun hSome => hSome.elim (absurd · List.not_mem_nil) (absurd · List.not_mem_nil)⟩

theorem Fresh.withNode {node : InitialNode} (hFresh : net.Fresh)
    (hAdd : net.withNode node = .ok after) : after.Fresh := by
  obtain ⟨hOpen, hNew, rfl⟩ := withNode_eq_ok hAdd
  exact ⟨hFresh.wellFormed.addNode hOpen hNew _, hFresh.nextSnapshot_eq, hFresh.queue_eq_nil,
    hFresh.journal_eq_nil⟩

theorem Fresh.withLink {link : Link} (hFresh : net.Fresh)
    (hAdd : net.withLink link = .ok after) : after.Fresh := by
  obtain ⟨hOpen, source, target, hSource, hTarget, hDistinct, hNew, rfl⟩ := withLink_eq_ok hAdd
  have hMissing := hFresh.wellFormed.wired.not_contains hSource hNew
  refine ⟨hFresh.wellFormed.connect hOpen hSource hTarget hDistinct hNew, hFresh.nextSnapshot_eq,
    fun other => ?_, hFresh.journal_eq_nil⟩
  exact (ChannelTable.queue_insert_ofLink hMissing other).trans (hFresh.queue_eq_nil other)

/-- A network to which nothing but nodes has been added is fresh. -/
theorem fresh_withNodes {seed maxDelay : UInt64} {nodes : List InitialNode}
    (hAdded : nodes.foldlM Network.withNode (empty seed maxDelay) = .ok net) : net.Fresh :=
  foldlM_keeps (fun _ => Fresh.withNode) (fresh_empty seed maxDelay) hAdded

/-- The network of a configuration is fresh. -/
theorem fresh_ofConfig {config : Config} (hBuilt : ofConfig config = .ok net) : net.Fresh := by
  unfold ofConfig at hBuilt
  cases hNodes : config.nodes.foldlM Network.withNode (empty config.seed config.maxDelay) with
  | error error =>
      rw [hNodes] at hBuilt
      cases hBuilt
  | ok between =>
      rw [hNodes] at hBuilt
      exact foldlM_keeps (fun _ => Fresh.withLink) (fresh_withNodes hNodes) hBuilt

end Network

end TokenNet
