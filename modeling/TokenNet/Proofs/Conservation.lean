import TokenNet.Proofs.ConsistentCut
import TokenNet.Proofs.Mirror
import TokenNet.Snapshot.Comparison

namespace TokenNet

/-!
# Snapshots conserve tokens

A completed snapshot has the tokens that the nodes of the network were added with
(`Network.Run.snapshot_tokens_eq`), since it has those of a ledger (`Ledger.Realizes.total`): of what
comes before its cut.  As long as the tokens fit into a word, no sum that is taken of them overflows.
-/

/-- A snapshot that a ledger realizes has the tokens of the ledger. -/
theorem Ledger.Realizes.total {ledger : Ledger} {snapshot : Snapshot}
    (hRealizes : ledger.Realizes snapshot) :
    ledger.total = naturalSum snapshot.balances.values +
      naturalSum (snapshot.messages.map Transfer.amount) := by
  have hLinks : ∀ transfer ∈ snapshot.messages, transfer.link ∈ ledger.queues.keys := by
    intro transfer hMember
    have hCarried : transfer.amount ∈ paying (ledger.queue transfer.link) := by
      rw [hRealizes.paying_queue]
      exact List.mem_map_of_mem (List.mem_filter.mpr ⟨hMember, decide_eq_true rfl⟩)
    apply Ledger.mem_keys_of_queue
    intro hEmpty
    rw [hEmpty] at hCarried
    exact absurd hCarried List.not_mem_nil
  rw [Ledger.total_eq_of_links ledger.queues.nodup_keys fun _ => Ledger.mem_keys_of_queue,
    hRealizes.balances_eq, ← naturalSum_transfers ledger.queues.nodup_keys hLinks]
  have hSame : ∀ link, naturalSum (ledger.queue link) = naturalSum
      ((snapshot.messages.filter fun transfer => transfer.link = link).map Transfer.amount) := by
    intro link
    rw [← naturalSum_paying, hRealizes.paying_queue]
  rw [List.map_congr_left fun link _ => hSame link]

/-- The total of a snapshot is taken without overflow, if it fits. -/
theorem Snapshot.total_eq_ok {snapshot : Snapshot} {total : UInt64}
    (hTotal : naturalSum snapshot.balances.values +
      naturalSum (snapshot.messages.map Transfer.amount) = total.toNat) :
    snapshot.total = .ok total := by
  have hFits := total.toNat_lt
  obtain ⟨held, hHeld⟩ := exists_toNat_eq (naturalSum snapshot.balances.values) (by omega)
  obtain ⟨moving, hMoving⟩ := exists_toNat_eq
    (naturalSum (snapshot.messages.map Transfer.amount)) (by omega)
  unfold Snapshot.total balanceTotal inFlightTotal
  rw [checkedSum_eq_ok_iff.mpr hHeld.symm, checkedSum_eq_ok_iff.mpr hMoving.symm]
  apply checkedAdd_eq_ok_iff.mpr
  rw [hHeld, hMoving, hTotal]

namespace Network

variable {net last : Network} {trace : List Happening}

/-- The tokens of a completed snapshot are those that the nodes of the network were added
with. -/
theorem Run.snapshot_tokens_eq {assembled : Snapshot} (hRun : Run net trace last)
    (hFresh : net.Fresh) (hHonest : Honest trace) {snapshot : SnapshotId}
    (hCompleted : last.completed? snapshot = some assembled) :
    naturalSum assembled.balances.values +
        naturalSum (assembled.messages.map Transfer.amount) =
      (Ledger.start net).total + Ledger.openings trace := by
  obtain ⟨ledger, hReplayed, hRealizes⟩ := (hRun.isCutOf hFresh hHonest hCompleted).realized
  rw [← hRealizes.total, Ledger.replay_total hReplayed, Ledger.openings_beforeCut]

theorem total_start (net : Network) :
    (Ledger.start net).total = naturalSum (net.nodes.values.map Node.tokens) := by
  unfold Ledger.total Ledger.start
  rw [SortedMap.values_mapValues]
  rfl

/-- A completed snapshot has a balance for every node and for nothing else. -/
theorem WellFormed.keys_balances {assembled : Snapshot} (hWell : net.WellFormed)
    {snapshot : SnapshotId} (hCompleted : net.completed? snapshot = some assembled) :
    assembled.balances.keys = net.nodeNames := by
  obtain ⟨collector, hFound, hComplete, rfl⟩ := hWell.completed?_eq_some_iff.mp hCompleted
  have hSound := hWell.sound_of_collectorOf? hFound
  apply (SortedMap.keys_mapValues ..).trans
  apply SortedMap.keys_eq_of_mem_iff
  intro name
  exact ⟨hSound.reported_known, hSound.isComplete_iff.mp hComplete name⟩

/-- Every snapshot that calls hand out has a balance for every node and conserves the tokens of
the network, whatever the calls are and in whatever order they come, as long as the tokens that
nodes are added with fit into a word. -/
theorem snapshots_conserve {config : Config} {calls : List Call} {replies : List Reply}
    (hBuilt : ofConfig config = .ok net) (hOwn : ∀ call ∈ calls, call.isNotify = false)
    (hHistory : net.history calls = .ok (replies, last))
    (hFits : naturalSum (net.nodes.values.map Node.tokens) + deposits calls replies < 2 ^ 64) :
    ∃ total, last.totalTokens = .ok total ∧ ∀ assembled : Snapshot,
      (assembled ∈ replies.filterMap Reply.snapshot? ∨
        ∃ snapshot, last.completed? snapshot = some assembled) →
      assembled.balances.keys = last.nodeNames ∧ assembled.total = .ok total ∧
        Snapshot.findUnconserved total [assembled] = .ok none := by
  have hFresh := fresh_ofConfig hBuilt
  obtain ⟨trace, hRun, hHonest, hOpenings, -⟩ := history_leads hFresh.wellFormed hOwn hHistory
  rw [← total_start, ← hOpenings] at hFits
  obtain ⟨total, hTotal⟩ := exists_toNat_eq _ hFits
  refine ⟨total, totalTokens_eq_ok ((hRun.tokens_eq hFresh).trans hTotal.symm), ?_⟩
  intro assembled hHanded
  have hCompleted : ∃ snapshot, last.completed? snapshot = some assembled :=
    hHanded.elim (completed?_of_history hFresh.wellFormed hOwn hHistory) id
  obtain ⟨snapshot, hCompleted⟩ := hCompleted
  have hSum : assembled.total = .ok total := Snapshot.total_eq_ok
    ((hRun.snapshot_tokens_eq hFresh hHonest hCompleted).trans hTotal.symm)
  refine ⟨(hRun.wellFormed hFresh.wellFormed).keys_balances hCompleted, hSum, ?_⟩
  unfold Snapshot.findUnconserved
  rw [hSum]
  exact if_pos rfl

/-- Both snapshots that the sample history hands out have the tokens of its three nodes. -/
theorem snapshots_conserve_pair :
    ∃ net replies last, ofConfig pairConfig = .ok net ∧
      net.history pairCalls = .ok (replies, last) ∧ last.totalTokens = .ok 10 ∧
      (replies.filterMap Reply.snapshot?).length = 2 ∧
      ∀ assembled ∈ replies.filterMap Reply.snapshot?,
        assembled.balances.keys = last.nodeNames ∧ assembled.total = .ok 10 ∧
          Snapshot.findUnconserved 10 [assembled] = .ok none := by
  have hPlays : (played? pairConfig pairCalls).any (fun outcome =>
      decide (naturalSum (outcome.1.nodes.values.map Node.tokens) +
        deposits pairCalls outcome.2.1 < 2 ^ 64) &&
      decide ((outcome.2.1.filterMap Reply.snapshot?).length = 2) &&
      decide (outcome.2.2.totalTokens.toOption = some 10)) = true := by
    decide +kernel
  obtain ⟨⟨net, replies, last⟩, hPlayed, hChecks⟩ := (Option.any_eq_true _ _).mp hPlays
  obtain ⟨hBuilt, hHistory⟩ := of_played? hPlayed
  simp only [Bool.and_eq_true, decide_eq_true_eq] at hChecks
  obtain ⟨⟨hFits, hTwo⟩, hTen⟩ := hChecks
  obtain ⟨total, hTotal, hAll⟩ := snapshots_conserve hBuilt (by decide) hHistory hFits
  rw [hTotal] at hTen
  obtain rfl : total = 10 := Option.some.inj hTen
  exact ⟨net, replies, last, hBuilt, hHistory, hTotal, hTwo, fun assembled hHanded =>
    hAll assembled (Or.inl hHanded)⟩

end Network

end TokenNet
