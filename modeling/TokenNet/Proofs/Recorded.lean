import TokenNet.Proofs.Recounts
import TokenNet.Proofs.Sums

namespace TokenNet

/-!
# Completed snapshots have what has come

What a completed snapshot says of a node is what has come to it since it has joined, before the marker
of each sender; its messages are those of all nodes, in the order of their names, and its totals are
those of the links on which any have come (`Snapshot.IsRecordedIn`).  This holds for all snapshots of a
history at once (`Network.records_what_comes`).  A total that does not fit into a word is a fault, which
takes nodes that are added with more tokens than a word can count (`Network.not_linkTotals_swollen`).
-/

open Snapshot (tokensOn)

/-- A completed snapshot of a network has what the annals tell. -/
structure Snapshot.IsRecordedIn (assembled : Snapshot) (net : Network) (entries : List Entry) :
    Prop where
  /-- It is marked once where a node has joined. -/
  count_began : ∀ name ∈ net.nodes.keys, entries.count (.began name assembled.id) = 1
  /-- On each link one marker has come. -/
  count_marker : ∀ link, net.channels.contains link = true →
    entries.countP (Entry.isMarker assembled.id link) = 1
  /-- The messages to a node are those that it had to record. -/
  messagesTo_eq : ∀ name, assembled.messagesTo name = recordedBy assembled.id name entries
  /-- The nodes come in the order of their names. -/
  messages_eq : assembled.messages =
    net.nodes.keys.flatMap fun name => recordedBy assembled.id name entries
  /-- The totals are those of the links on which any have come, unless one of them is too large. -/
  linkTotals_cases :
    (∃ totals, assembled.linkTotals = .ok totals ∧ ∀ source target,
      (totals.get? ⟨source, target⟩).map UInt64.toNat =
        if source ∈ (recordedBy assembled.id target entries).map Transfer.source then
          some (tokensOn (recordedBy assembled.id target entries) ⟨source, target⟩)
        else none) ∨
    (assembled.linkTotals = .error .overflow ∧ ∃ source target,
      UInt64.size ≤ tokensOn (recordedBy assembled.id target entries) ⟨source, target⟩)

/-! ### Messages of all nodes -/

/-- Of what comes to different nodes, what comes to one of them comes to that one. -/
theorem filter_flatMap_of_target {names : List String} {f : String → List Transfer}
    (hNodup : names.Nodup) (hTarget : ∀ name, ∀ transfer ∈ f name, transfer.target = name)
    (target : String) :
    ((names.flatMap f).filter fun transfer => transfer.target = target) =
      if target ∈ names then f target else [] := by
  have hFilter : ∀ name, ((f name).filter fun transfer => transfer.target = target) =
      if name = target then f name else [] := by
    intro name
    split
    · next hSame =>
      exact List.filter_eq_self.mpr fun transfer hMember =>
        decide_eq_true ((hTarget name transfer hMember).trans hSame)
    · next hOther =>
      exact List.filter_eq_nil_iff.mpr fun transfer hMember hHere =>
        hOther ((hTarget name transfer hMember).symm.trans (of_decide_eq_true hHere))
  induction names with
  | nil => rfl
  | cons name rest ih =>
      obtain ⟨hFresh, hRest⟩ := List.nodup_cons.mp hNodup
      rw [List.flatMap_cons, List.filter_append, hFilter, ih hRest]
      by_cases hSame : name = target
      · subst hSame
        rw [if_pos rfl, if_neg hFresh, if_pos List.mem_cons_self, List.append_nil]
      · simp [hSame, Ne.symm hSame]

/-- What comes on a link is what comes to its target from its source. -/
theorem tokensOn_messagesTo (snapshot : Snapshot) (link : Link) :
    tokensOn (snapshot.messagesTo link.target) link = tokensOn snapshot.messages link := by
  unfold tokensOn Snapshot.messagesTo
  rw [List.filter_filter]
  refine congrArg (fun transfers => naturalSum (transfers.map Transfer.amount))
    (List.filter_congr fun transfer _ => ?_)
  rw [Bool.and_eq_left_iff_imp]
  intro hLink
  exact decide_eq_true (congrArg Link.target (of_decide_eq_true hLink))

theorem mem_links_iff_messagesTo {snapshot : Snapshot} {source target : String} :
    ⟨source, target⟩ ∈ snapshot.messages.map Transfer.link ↔
      source ∈ (snapshot.messagesTo target).map Transfer.source := by
  unfold Snapshot.messagesTo
  simp only [List.mem_map, List.mem_filter, decide_eq_true_eq, Transfer.link, Link.mk.injEq]
  constructor
  · rintro ⟨transfer, hMember, rfl, rfl⟩
    exact ⟨transfer, ⟨hMember, rfl⟩, rfl⟩
  · rintro ⟨transfer, ⟨hMember, rfl⟩, rfl⟩
    exact ⟨transfer, hMember, rfl, rfl⟩

namespace Network

variable {net last : Network} {trace : List Happening} {entries : List Entry}
  {snapshot : SnapshotId} {assembled : Snapshot}

/-- The messages of a completed snapshot are those that all nodes had to record. -/
theorem Annals.messages_eq (hAnnals : Annals net trace entries last) (hFresh : net.Fresh)
    (hHonest : Honest trace) (hCompleted : last.completed? snapshot = some assembled) :
    assembled.messages = last.nodes.keys.flatMap fun name => recordedBy snapshot name entries := by
  have hWell := hAnnals.run.wellFormed hFresh.wellFormed
  obtain ⟨collector, hFound, hComplete, rfl⟩ := hWell.completed?_eq_some_iff.mp hCompleted
  have hSound := hWell.sound_of_collectorOf? hFound
  have hKeys : collector.reported.keys = last.nodes.keys := SortedMap.keys_eq_of_mem_iff fun name =>
    ⟨fun hReported => hSound.reported_known hReported, hSound.isComplete_iff.mp hComplete name⟩
  have hReports : ∀ entry ∈ collector.reported.toList,
      Snapshot.positive entry.2.inFlight = recordedBy snapshot entry.1 entries := by
    intro entry hEntry
    have hReport : last.report? snapshot entry.1 = some entry.2 :=
      (report?_of_collectorOf? hFound _).trans (SortedMap.get?_eq_some_iff.mpr hEntry)
    rw [hAnnals.inFlight_eq hFresh hHonest hReport]
    exact List.filter_eq_self.mpr fun transfer hMember =>
      decide_eq_true (of_mem_recordedBy hMember).2
  rw [← hKeys]
  show collector.reported.values.flatMap (fun report => Snapshot.positive report.inFlight) = _
  unfold SortedMap.values SortedMap.keys
  rw [List.flatMap_map, List.flatMap_map]
  exact List.flatMap_congr hReports

/-- Whoever has not joined has nothing to record, and every node has joined a completed snapshot. -/
theorem Annals.messagesTo_eq (hAnnals : Annals net trace entries last) (hFresh : net.Fresh)
    (hHonest : Honest trace) (hCompleted : last.completed? snapshot = some assembled)
    (name : String) : assembled.messagesTo name = recordedBy snapshot name entries := by
  have hWell := hAnnals.run.wellFormed hFresh.wellFormed
  unfold Snapshot.messagesTo
  rw [hAnnals.messages_eq hFresh hHonest hCompleted, filter_flatMap_of_target last.nodes.nodup_keys
    fun _ _ hMember => (of_mem_recordedBy hMember).1]
  split
  · rfl
  · next hUnknown =>
    obtain ⟨collector, hFound, hComplete, -⟩ := hWell.completed?_eq_some_iff.mp hCompleted
    have hReport : collector.reported.get? name = none := SortedMap.get?_eq_none_iff.mpr
      fun hReported => hUnknown ((hWell.sound_of_collectorOf? hFound).reported_known hReported)
    have hIdle := hWell.part?_of_unreported hFound hComplete hReport
    cases hAnnals.recounts hFresh hHonest snapshot name with
    | idle _ hNone => exact (recordedBy_eq_nil hNone).symm
    | joined _ _ hPart => cases hIdle.symm.trans hPart

theorem Annals.isRecordedIn (hAnnals : Annals net trace entries last) (hFresh : net.Fresh)
    (hHonest : Honest trace) (hCompleted : last.completed? snapshot = some assembled) :
    assembled.IsRecordedIn last entries := by
  have hRun := hAnnals.run
  have hWell := hRun.wellFormed hFresh.wellFormed
  have hTo := hAnnals.messagesTo_eq hFresh hHonest hCompleted
  have hMessages := hAnnals.messages_eq hFresh hHonest hCompleted
  obtain rfl := hWell.id_of_completed? hCompleted
  obtain ⟨collector, hFound, hComplete, -⟩ := hWell.completed?_eq_some_iff.mp hCompleted
  have hReported : ∀ name ∈ last.nodes.keys, ∃ report,
      last.part? assembled.id name = some (Part.ofReport report) := by
    intro name hName
    obtain ⟨report, hReport⟩ := SortedMap.mem_keys_iff.mp
      ((hWell.sound_of_collectorOf? hFound).isComplete_iff.mp hComplete name hName)
    exact ⟨report, part?_of_reported hFound hReport⟩
  refine ⟨fun name hName => ?_, fun link hLink => ?_, hTo, hMessages, ?_⟩
  · obtain ⟨report, hPart⟩ := hReported name hName
    rw [hAnnals.count_began, hRun.count_joined hFresh hHonest, hPart]
    rfl
  · obtain ⟨report, hPart⟩ := hReported link.target (hWell.wired.target_known hLink)
    exact hAnnals.countP_of_isClosed hFresh hHonest hLink
      (Cut.isClosed_eq_true_iff.mpr ⟨_, hPart, List.not_mem_nil⟩)
  · rcases assembled.linkTotals_cases with ⟨totals, hTotals, hSums⟩ | ⟨hFault, link, hLarge⟩
    · refine Or.inl ⟨totals, hTotals, fun source target => ?_⟩
      rw [hSums, ← tokensOn_messagesTo, ← hTo]
      exact if_congr mem_links_iff_messagesTo rfl rfl
    · refine Or.inr ⟨hFault, link.source, link.target, ?_⟩
      rw [← hTo, tokensOn_messagesTo]
      exact hLarge

/-! ### Every history -/

/-- Every snapshot that is completed in a history of calls, as long as none hands in a report from
outside, has for each node the transfers that have come to it since it joined, before the marker of
their sender, and these are all that it has.  Its totals are those of these transfers, link by link; as
long as the tokens that nodes are added with fit into a word, so do they. -/
theorem records_what_comes {config : Config} {calls : List Call} {replies : List Reply}
    (hBuilt : ofConfig config = .ok net) (hOwn : ∀ call ∈ calls, call.isNotify = false)
    (hHistory : net.history calls = .ok (replies, last)) :
    (∃ trace entries, Annals net trace entries last ∧ Honest trace) ∧
      ∀ trace entries, Annals net trace entries last → Honest trace →
        entries.filterMap Entry.event? = last.journal.toList ∧
          ∀ snapshot assembled, last.completed? snapshot = some assembled →
            assembled.id = snapshot ∧ assembled.IsRecordedIn last entries ∧
              (naturalSum ((config.nodes ++ accepted calls replies).map InitialNode.tokens) <
                UInt64.size → ∃ totals, assembled.linkTotals = .ok totals) := by
  have hFresh := fresh_ofConfig hBuilt
  obtain ⟨trace, hRun, hHonest, -⟩ := history_leads hFresh.wellFormed hOwn hHistory
  obtain ⟨entries, hAnnals⟩ := hRun.annals
  refine ⟨⟨trace, entries, hAnnals, hHonest⟩, fun trace entries hAnnals hHonest => ?_⟩
  refine ⟨hAnnals.journal_eq hFresh, fun snapshot assembled hCompleted => ?_⟩
  refine ⟨(hAnnals.run.wellFormed hFresh.wellFormed).id_of_completed? hCompleted,
    hAnnals.isRecordedIn hFresh hHonest hCompleted, fun hFits => ?_⟩
  apply Snapshot.SumsFit.links
  apply Snapshot.sumsFit_of_lt
  rw [hAnnals.run.snapshot_tokens_eq hFresh hHonest hCompleted, ← hAnnals.run.tokens_eq hFresh,
    (course_of_built hBuilt hHistory).wealth_eq]
  exact hFits

/-- Both snapshots of the sample history have what has come: nothing, and one transfer each on two
links. -/
theorem records_what_comes_pair :
    ∃ net replies last trace entries first second, ofConfig pairConfig = .ok net ∧
      net.history pairCalls = .ok (replies, last) ∧ Annals net trace entries last ∧ Honest trace ∧
      entries.filterMap Entry.event? = last.journal.toList ∧
      last.completed? 0 = some first ∧ first.messages = [] ∧ first.IsRecordedIn last entries ∧
      last.completed? 1 = some second ∧ second.messages = [⟨"A", "B", 1⟩, ⟨"B", "C", 3⟩] ∧
      second.IsRecordedIn last entries ∧ ∃ totals, second.linkTotals = .ok totals := by
  have hPlays : (played? pairConfig pairCalls).any (fun outcome =>
      decide ((outcome.2.2.completed? 0).map Snapshot.messages = some [] ∧
        (outcome.2.2.completed? 1).map Snapshot.messages =
          some [⟨"A", "B", 1⟩, ⟨"B", "C", 3⟩] ∧
        naturalSum ((pairConfig.nodes ++ accepted pairCalls outcome.2.1).map InitialNode.tokens) <
          UInt64.size)) = true := by
    decide +kernel
  obtain ⟨net, replies, last, hBuilt, hHistory, hChecks⟩ := exists_of_played? hPlays
  obtain ⟨hZero, hOne, hFits⟩ := of_decide_eq_true hChecks
  obtain ⟨first, hFirst, hNone⟩ := Option.map_eq_some_iff.mp hZero
  obtain ⟨second, hSecond, hTwo⟩ := Option.map_eq_some_iff.mp hOne
  obtain ⟨⟨trace, entries, hAnnals, hHonest⟩, hAll⟩ :=
    records_what_comes hBuilt (by decide) hHistory
  obtain ⟨hJournal, hRecorded⟩ := hAll trace entries hAnnals hHonest
  obtain ⟨-, hFirstRecorded, -⟩ := hRecorded 0 first hFirst
  obtain ⟨-, hSecondRecorded, hTotals⟩ := hRecorded 1 second hSecond
  exact ⟨net, replies, last, trace, entries, first, second, hBuilt, hHistory, hAnnals, hHonest,
    hJournal, hFirst, hNone, hFirstRecorded, hSecond, hTwo, hSecondRecorded, hTotals hFits⟩

/-- A circle of three nodes; the first one has as many tokens as a word can count. -/
def swollenConfig : Config where
  seed := 1
  maxDelay := 1
  nodes := [⟨"A", 18446744073709551615⟩, ⟨"B", 0⟩, ⟨"C", 1⟩]
  links := [⟨"A", "B"⟩, ⟨"B", "C"⟩, ⟨"C", "A"⟩]

/-- Calls that send all tokens from the first node to the second while that one starts a snapshot, and
one more behind them, before the marker has gone round. -/
def swollenCalls : List Call :=
  [.send "A" "B" 18446744073709551615, .send "C" "A" 1, .startSnapshot "B", .tick, .send "A" "B" 1,
    .send "B" "C" 18446744073709551615, .tick, .tick]

/-- What comes on one link during a snapshot may be more than a word can count; then there are no
totals. -/
theorem not_linkTotals_swollen :
    ∃ net replies last assembled, ofConfig swollenConfig = .ok net ∧
      (∀ call ∈ swollenCalls, call.isNotify = false) ∧
      net.history swollenCalls = .ok (replies, last) ∧ last.completed? 0 = some assembled ∧
      "A" ∈ (assembled.messagesTo "B").map Transfer.source ∧
      ¬ ∃ totals value, assembled.linkTotals = .ok totals ∧ totals.get? ⟨"A", "B"⟩ = some value ∧
        value.toNat = tokensOn assembled.messages ⟨"A", "B"⟩ := by
  have hPlays : (played? swollenConfig swollenCalls).any (fun outcome =>
      (outcome.2.2.completed? 0).any fun assembled =>
        decide ("A" ∈ (assembled.messagesTo "B").map Transfer.source) &&
          assembled.linkTotals.toOption.isNone) = true := by
    decide +kernel
  obtain ⟨net, replies, last, hBuilt, hHistory, hChecks⟩ := exists_of_played? hPlays
  obtain ⟨assembled, hCompleted, hChecks⟩ := (Option.any_eq_true _ _).mp hChecks
  obtain ⟨hSource, hNone⟩ := Bool.and_eq_true_iff.mp hChecks
  refine ⟨net, replies, last, assembled, hBuilt, by decide, hHistory, hCompleted,
    of_decide_eq_true hSource, ?_⟩
  rintro ⟨totals, _, hTotals, -⟩
  rw [hTotals] at hNone
  cases hNone

end Network

end TokenNet
