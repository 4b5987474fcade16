import TokenNet.Proofs.Collector

namespace TokenNet

/-!
# Collectors as latches

Reports come to a collector in any order and from anywhere: of other snapshots, from strangers, more
than once, and before and after the snapshot has been given up.  Of each participant the first report
of the snapshot counts (`Collector.firstReport?`), and nothing else does.  What has been asked of a
collector so far therefore decides what it answers next, whom it still awaits, the snapshot that it
puts together and what waiting for that comes to (`Collector.first_reports_decide`).
-/

namespace Collector

/-! ### What is asked of a collector -/

/-- What can be asked of a collector that may change it. -/
inductive Call where
  /-- Hand in a report. -/
  | report (report : Report)
  /-- Give the snapshot up. -/
  | abandon
deriving DecidableEq, Repr

/-- What becomes of a call: a report tells whether it was the last one, or why it is refused. -/
abbrev Reply : Type := Except NetworkError (Option Bool)

/-- Makes a call. -/
def answer : Call → Action Collector NetworkError (Option Bool)
  | .report report => some <$> accept report
  | .abandon => (fun _ => none) <$> Action.update abandon

/-- Makes calls one after another.  Yields what became of each, and the last state. -/
def history (calls : List Call) (collector : Collector) : Except Fault (List Reply × Collector) :=
  Action.history answer calls collector

/-! ### What the calls decide -/

/-- The report of the snapshot that a call hands in for a node. -/
def Call.reportOf? (snapshot : SnapshotId) (name : String) : Call → Option Report
  | .report handed => if handed.snapshot = snapshot ∧ handed.node = name then some handed else none
  | .abandon => none

/-- The report of a node that counts: the first one of the snapshot that is handed in for it. -/
def firstReport? (snapshot : SnapshotId) (calls : List Call) (name : String) : Option Report :=
  calls.findSome? (Call.reportOf? snapshot name)

/-- The participants for whom nothing has been handed in, in order. -/
def missing (snapshot : SnapshotId) (participants : SortedSet String) (calls : List Call) :
    List String :=
  participants.members.filter fun name => (firstReport? snapshot calls name).isNone

/-- The reports of all participants that count, in the order of the participants. -/
def counted (snapshot : SnapshotId) (participants : SortedSet String) (calls : List Call) :
    List Report :=
  participants.members.filterMap (firstReport? snapshot calls)

/-- Whether a report counts that is handed in after other calls. -/
def Counts (snapshot : SnapshotId) (participants : SortedSet String) (earlier : List Call)
    (report : Report) : Prop :=
  report.snapshot = snapshot ∧ report.node ∈ missing snapshot participants earlier

instance (snapshot : SnapshotId) (participants : SortedSet String) (earlier : List Call)
    (report : Report) : Decidable (Counts snapshot participants earlier report) :=
  inferInstanceAs (Decidable (_ ∧ _))

/-- What becomes of a call after other calls: of a report that counts it is told whether anybody is
still missing. -/
def expectedReply (snapshot : SnapshotId) (participants : SortedSet String) (earlier : List Call) :
    Call → Reply
  | .report report =>
      if Counts snapshot participants earlier report then
        .ok (some (missing snapshot participants (earlier ++ [.report report])).isEmpty)
      else .error (.unexpectedReport report.node report.snapshot)
  | .abandon => .ok none

/-- What becomes of calls that are made after other calls. -/
def expectedReplies (snapshot : SnapshotId) (participants : SortedSet String) :
    List Call → List Call → List Reply
  | _, [] => []
  | earlier, call :: later => expectedReply snapshot participants earlier call ::
      expectedReplies snapshot participants (earlier ++ [call]) later

variable {snapshot : SnapshotId} {participants : SortedSet String} {calls earlier : List Call}
  {collector after : Collector} {report : Report} {name : String}

/-- A report that is handed in later counts only if none was handed in before. -/
theorem firstReport?_concat (calls : List Call) (call : Call) (name : String) :
    firstReport? snapshot (calls ++ [call]) name =
      (firstReport? snapshot calls name).or (call.reportOf? snapshot name) := by
  unfold firstReport?
  rw [List.findSome?_append, List.findSome?_singleton]

theorem mem_missing_iff : name ∈ missing snapshot participants calls ↔
    name ∈ participants.members ∧ firstReport? snapshot calls name = none := by
  unfold missing
  rw [List.mem_filter, Option.isNone_iff_eq_none]

/-! ### The state of a collector -/

/-- The state of a collector is what the calls on it decide. -/
structure Follows (snapshot : SnapshotId) (participants : SortedSet String) (calls : List Call)
    (collector : Collector) : Prop where
  /-- The snapshot stays. -/
  snapshot_eq : collector.snapshot = snapshot
  /-- What has been kept for the participants are the reports that count. -/
  reported_eq : ∀ name, collector.reported.get? name =
    if name ∈ participants.members then firstReport? snapshot calls name else none
  /-- Awaited are those who are missing. -/
  remaining_eq : collector.remaining.keys = missing snapshot participants calls
  /-- As long as somebody is missing, it is known whether the snapshot has been given up. -/
  abandoned_iff : missing snapshot participants calls ≠ [] →
    (collector.abandoned = true ↔ .abandon ∈ calls)

/-- What a collector does with a report, as one equation. -/
theorem accept_eq (report : Report) (collector : Collector) :
    accept report collector =
      if report.snapshot = collector.snapshot ∧ report.node ∈ collector.remaining.keys then
        .done (collector.accepted report).isComplete (collector.accepted report)
      else .refused (.unexpectedReport report.node report.snapshot) collector := by
  by_cases hSnapshot : report.snapshot = collector.snapshot
  · by_cases hAwaited : report.node ∈ collector.remaining.keys
    · rw [if_pos ⟨hSnapshot, hAwaited⟩]
      exact accept_eq_done_iff.mpr ⟨hSnapshot, hAwaited, rfl, rfl⟩
    · have hMissing : ¬ collector.remaining.contains report.node = true := fun hContains =>
        hAwaited (SortedMap.contains_iff.mp hContains)
      rw [if_neg fun hBoth => hAwaited hBoth.2]
      simp [accept, hSnapshot, hMissing]
  · rw [if_neg fun hBoth => hSnapshot hBoth.1]
    simp [accept, hSnapshot]

theorem follows_create (snapshot : SnapshotId) (participants : SortedSet String) :
    (create snapshot participants).Follows snapshot participants [] := by
  refine ⟨rfl, fun name => ?_, ?_, fun _ => ?_⟩
  · exact (SortedMap.get?_empty name).trans (ite_self none).symm
  · exact (List.filter_eq_self.mpr fun _ _ => rfl).symm
  · exact ⟨fun hGivenUp => absurd hGivenUp Bool.false_ne_true, fun hCall => nomatch hCall⟩

theorem Follows.isComplete_iff (hFollows : collector.Follows snapshot participants calls) :
    collector.isComplete = true ↔ missing snapshot participants calls = [] := by
  rw [Collector.isComplete_iff, hFollows.remaining_eq]

theorem Follows.counts_iff (hFollows : collector.Follows snapshot participants calls) :
    Counts snapshot participants calls report ↔
      report.snapshot = collector.snapshot ∧ report.node ∈ collector.remaining.keys := by
  rw [hFollows.snapshot_eq, hFollows.remaining_eq]
  exact Iff.rfl

/-- Whoever has not been missing has been counted, and is not missing any more. -/
theorem firstReport?_concat_of_not_missing {call : Call} (hMember : name ∈ participants.members)
    (hThere : name ∉ missing snapshot participants calls) :
    firstReport? snapshot (calls ++ [call]) name = firstReport? snapshot calls name := by
  rw [firstReport?_concat]
  cases hFirst : firstReport? snapshot calls name with
  | none => exact absurd (mem_missing_iff.mpr ⟨hMember, hFirst⟩) hThere
  | some report => rfl

/-- A call that hands in nothing for whoever is missing changes nothing about who has been counted. -/
theorem firstReport?_concat_of_none {call : Call}
    (hNone : ∀ name ∈ missing snapshot participants calls, call.reportOf? snapshot name = none)
    (hMember : name ∈ participants.members) :
    firstReport? snapshot (calls ++ [call]) name = firstReport? snapshot calls name := by
  by_cases hMissing : name ∈ missing snapshot participants calls
  · rw [firstReport?_concat, hNone name hMissing, Option.or_none]
  · exact firstReport?_concat_of_not_missing hMember hMissing

theorem missing_congr {others : List Call} (hSame : ∀ name ∈ participants.members,
      firstReport? snapshot others name = firstReport? snapshot calls name) :
    missing snapshot participants others = missing snapshot participants calls := by
  unfold missing
  exact List.filter_congr fun name hMember => by rw [hSame name hMember]

theorem counted_congr {others : List Call} (hSame : ∀ name ∈ participants.members,
      firstReport? snapshot others name = firstReport? snapshot calls name) :
    counted snapshot participants others = counted snapshot participants calls :=
  List.filterMap_congr hSame

/-- A report that does not count leaves everything as it is. -/
theorem Follows.refused (hFollows : collector.Follows snapshot participants calls)
    (hNot : ¬ Counts snapshot participants calls report) :
    collector.Follows snapshot participants (calls ++ [.report report]) := by
  have hNone : ∀ name ∈ missing snapshot participants calls,
      (Call.report report).reportOf? snapshot name = none := by
    intro name hMissing
    refine if_neg ?_
    rintro ⟨hSnapshot, rfl⟩
    exact hNot ⟨hSnapshot, hMissing⟩
  have hSame : ∀ name ∈ participants.members, firstReport? snapshot (calls ++ [.report report]) name =
      firstReport? snapshot calls name := fun name => firstReport?_concat_of_none hNone
  have hMissing : missing snapshot participants (calls ++ [.report report]) = _ :=
    missing_congr hSame
  refine ⟨hFollows.snapshot_eq, fun name => ?_, ?_, fun hSome => ?_⟩
  · rw [hFollows.reported_eq]
    exact if_ctx_congr Iff.rfl (fun hMember => (hSame name hMember).symm) fun _ => rfl
  · rw [hMissing, hFollows.remaining_eq]
  · rw [hFollows.abandoned_iff (hMissing ▸ hSome)]
    simp

/-- A report that counts is kept, and its node is not missing any more. -/
theorem Follows.accepted (hFollows : collector.Follows snapshot participants calls)
    (hCounts : Counts snapshot participants calls report) :
    (collector.accepted report).Follows snapshot participants (calls ++ [.report report]) := by
  obtain ⟨hSnapshot, hMissing⟩ := hCounts
  obtain ⟨hMember, hNone⟩ := mem_missing_iff.mp hMissing
  have hOf : ∀ name, (Call.report report).reportOf? snapshot name =
      if report.node = name then some report else none := by
    intro name
    simp [Call.reportOf?, hSnapshot]
  have hFirst : ∀ name, firstReport? snapshot (calls ++ [.report report]) name =
      if report.node = name then some report else firstReport? snapshot calls name := by
    intro name
    rw [firstReport?_concat, hOf]
    by_cases hName : report.node = name
    · rw [if_pos hName, if_pos hName, ← hName, hNone, Option.none_or]
    · rw [if_neg hName, if_neg hName, Option.or_none]
  refine ⟨hFollows.snapshot_eq, fun name => ?_, ?_, fun hSome => ?_⟩
  · rw [hFirst]
    refine (SortedMap.get?_insert ..).trans ?_
    rw [hFollows.reported_eq]
    by_cases hName : report.node = name
    · subst hName
      simp [hMember]
    · simp [hName]
  · -- The others are missing as before, in the same order.
    refine (SortedMap.keys_erase ..).trans ?_
    rw [hFollows.remaining_eq]
    unfold missing
    rw [List.filter_filter]
    refine List.filter_congr fun name _ => ?_
    rw [hFirst]
    by_cases hName : report.node = name
    · simp [hName]
    · simp [hName, Ne.symm hName]
  · have hBefore : missing snapshot participants calls ≠ [] := List.ne_nil_of_mem hMissing
    refine (hFollows.abandoned_iff hBefore).trans ?_
    simp

/-- To give a snapshot up is remembered as long as somebody is missing. -/
theorem Follows.abandon (hFollows : collector.Follows snapshot participants calls) :
    collector.abandon.Follows snapshot participants (calls ++ [.abandon]) := by
  have hSame : ∀ name ∈ participants.members, firstReport? snapshot (calls ++ [.abandon]) name =
      firstReport? snapshot calls name := fun name =>
    firstReport?_concat_of_none fun _ _ => rfl
  have hMissing : missing snapshot participants (calls ++ [.abandon]) =
      missing snapshot participants calls := missing_congr hSame
  have hSnapshot : collector.abandon.snapshot = collector.snapshot := by
    unfold Collector.abandon
    split <;> rfl
  have hReported : collector.abandon.reported = collector.reported := by
    unfold Collector.abandon
    split <;> rfl
  have hRemaining : collector.abandon.remaining = collector.remaining := by
    unfold Collector.abandon
    split <;> rfl
  refine ⟨hSnapshot.trans hFollows.snapshot_eq, fun name => ?_, ?_, fun hSome => ?_⟩
  · rw [hReported, hFollows.reported_eq]
    exact if_ctx_congr Iff.rfl (fun hMember => (hSame name hMember).symm) fun _ => rfl
  · rw [hRemaining, hFollows.remaining_eq, hMissing]
  · have hIncomplete : ¬ collector.isComplete = true := fun hComplete =>
      hSome (hMissing.trans (hFollows.isComplete_iff.mp hComplete))
    unfold Collector.abandon
    rw [if_neg hIncomplete]
    simp

/-! ### Every sequence of calls -/

/-- A call is answered as expected, and the collector goes on following the calls. -/
theorem Follows.reply (hFollows : collector.Follows snapshot participants calls) (call : Call) :
    ∃ after, (answer call).reply collector =
        .ok (expectedReply snapshot participants calls call, after) ∧
      after.Follows snapshot participants (calls ++ [call]) := by
  cases call with
  | abandon => exact ⟨collector.abandon, rfl, hFollows.abandon⟩
  | report report =>
      have hAccept := accept_eq report collector
      unfold Action.reply
      by_cases hCounts : Counts snapshot participants calls report
      · have hAfter := hFollows.accepted hCounts
        have hExpected : expectedReply snapshot participants calls (.report report) =
            .ok (some (missing snapshot participants (calls ++ [.report report])).isEmpty) :=
          if_pos hCounts
        have hLast : (collector.accepted report).isComplete =
            (missing snapshot participants (calls ++ [.report report])).isEmpty := by
          rw [Bool.eq_iff_iff, hAfter.isComplete_iff, List.isEmpty_iff]
        rw [if_pos (hFollows.counts_iff.mp hCounts)] at hAccept
        have hAnswer : answer (.report report) collector =
            .done (some (collector.accepted report).isComplete) (collector.accepted report) :=
          Action.bind_eq_done_iff.mpr ⟨_, _, hAccept, rfl⟩
        refine ⟨collector.accepted report, ?_, hAfter⟩
        rw [hExpected, hAnswer, hLast]
      · have hExpected : expectedReply snapshot participants calls (.report report) =
            .error (.unexpectedReport report.node report.snapshot) := if_neg hCounts
        rw [if_neg fun hBoth => hCounts (hFollows.counts_iff.mpr hBoth)] at hAccept
        have hAnswer : answer (.report report) collector =
            .refused (.unexpectedReport report.node report.snapshot) collector :=
          Action.map_eq_refused_iff.mpr hAccept
        refine ⟨collector, ?_, hFollows.refused hCounts⟩
        rw [hExpected, hAnswer]

theorem Follows.history (hFollows : collector.Follows snapshot participants earlier)
    (calls : List Call) : ∃ last,
      collector.history calls = .ok (expectedReplies snapshot participants earlier calls, last) ∧
        last.Follows snapshot participants (earlier ++ calls) := by
  induction calls generalizing collector earlier with
  | nil => exact ⟨collector, rfl, (List.append_nil earlier).symm ▸ hFollows⟩
  | cons call rest ih =>
      obtain ⟨middle, hReply, hMiddle⟩ := hFollows.reply call
      obtain ⟨last, hRest, hLast⟩ := ih hMiddle
      refine ⟨last, ?_, ?_⟩
      · have hRest : Action.history answer rest middle = _ := hRest
        unfold Collector.history
        rw [Action.history_cons rest hReply, hRest]
        rfl
      · rwa [List.append_assoc] at hLast

/-! ### What can be asked of the state -/

theorem Follows.values_eq (hFollows : collector.Follows snapshot participants calls) :
    collector.reported.values = counted snapshot participants calls := by
  have hKeys : collector.reported.keys ⊆ participants.members := by
    intro name hReported
    obtain ⟨report, hFound⟩ := SortedMap.mem_keys_iff.mp hReported
    rw [hFollows.reported_eq] at hFound
    by_contra hStranger
    rw [if_neg hStranger] at hFound
    cases hFound
  rw [SortedMap.values_eq_filterMap hKeys]
  refine List.filterMap_congr fun name hMember => ?_
  exact (hFollows.reported_eq name).trans (if_pos hMember)

/-- The snapshot is there once nobody is missing. -/
theorem Follows.assemble?_eq (hFollows : collector.Follows snapshot participants calls) :
    collector.assemble? = if missing snapshot participants calls = [] then
      some (Snapshot.assemble snapshot (counted snapshot participants calls)) else none := by
  unfold assemble?
  rw [hFollows.values_eq, hFollows.snapshot_eq]
  exact if_congr hFollows.isComplete_iff rfl rfl

/-- What waiting comes to at some point of a sequence of calls. -/
theorem Follows.wait_eq (hFollows : collector.Follows snapshot participants calls) :
    collector.wait = if missing snapshot participants calls = [] then
      .ready (Snapshot.assemble snapshot (counted snapshot participants calls))
    else if .abandon ∈ calls then .abandoned else .blocked := by
  unfold wait
  rw [hFollows.assemble?_eq]
  by_cases hNobody : missing snapshot participants calls = []
  · rw [if_pos hNobody, if_pos hNobody]
  · rw [if_neg hNobody, if_neg hNobody]
    exact if_congr (hFollows.abandoned_iff hNobody) rfl rfl

/-- What can be told of a collector after calls. -/
structure Latched (snapshot : SnapshotId) (participants : SortedSet String) (calls : List Call)
    (collector : Collector) : Prop where
  /-- Kept are, for each participant, the first report of the snapshot, and nothing else. -/
  reported_eq : ∀ name, collector.reported.get? name =
    if name ∈ participants.members then firstReport? snapshot calls name else none
  /-- As many are awaited as participants are missing. -/
  outstanding_eq : collector.outstanding = (missing snapshot participants calls).length
  /-- The other participants have reported, and nobody else has. -/
  hasReported_iff : ∀ name, collector.hasReported name = true ↔
    name ∈ participants.members ∧ name ∉ missing snapshot participants calls
  /-- A report that does not count is refused and changes nothing. -/
  refuses : ∀ report, ¬ Counts snapshot participants calls report →
    accept report collector = .refused (.unexpectedReport report.node report.snapshot) collector
  /-- The snapshot is there once nobody is missing, put together from the reports that count. -/
  assemble?_eq : collector.assemble? = if missing snapshot participants calls = [] then
    some (Snapshot.assemble snapshot (counted snapshot participants calls)) else none
  /-- Whoever waits gets it then; before that the wait is over if the snapshot has been given up, and
  goes on if it has not. -/
  wait_eq : collector.wait = if missing snapshot participants calls = [] then
      .ready (Snapshot.assemble snapshot (counted snapshot participants calls))
    else if .abandon ∈ calls then .abandoned else .blocked

theorem Follows.latched (hFollows : collector.Follows snapshot participants calls) :
    collector.Latched snapshot participants calls := by
  refine ⟨hFollows.reported_eq, ?_, fun name => ?_, fun report hNot => ?_, hFollows.assemble?_eq,
    hFollows.wait_eq⟩
  · rw [← hFollows.remaining_eq]
    exact (List.length_map ..).symm
  · rw [hasReported_iff, SortedMap.mem_keys_iff, hFollows.reported_eq, mem_missing_iff]
    by_cases hMember : name ∈ participants.members
    · simp [hMember, Option.ne_none_iff_exists']
    · simp [hMember]
  · rw [accept_eq, if_neg fun hBoth => hNot (hFollows.counts_iff.mpr hBoth)]

/-- Once nobody is missing, later calls change nothing about the reports that count. -/
theorem missing_append_of_nil (hNobody : missing snapshot participants calls = [])
    (later : List Call) : missing snapshot participants (calls ++ later) = [] ∧
      counted snapshot participants (calls ++ later) = counted snapshot participants calls := by
  have hSame : ∀ name ∈ participants.members, firstReport? snapshot (calls ++ later) name =
      firstReport? snapshot calls name := by
    intro name hMember
    unfold firstReport?
    rw [List.findSome?_append]
    cases hFirst : calls.findSome? (Call.reportOf? snapshot name) with
    | none => cases hNobody ▸ mem_missing_iff.mpr ⟨hMember, hFirst⟩
    | some report => rfl
  exact ⟨(missing_congr hSame).trans hNobody, counted_congr hSame⟩

/-- A collector is a latch, whatever is asked of it and in whatever order: of each participant the
first report of the snapshot counts and no other does; the replies, who is awaited, the snapshot and
what waiting comes to follow from that; and once the snapshot is there, it stays as it is and does not
depend on anything but the reports that count. -/
theorem first_reports_decide (snapshot : SnapshotId) (participants : SortedSet String) (calls : List Call) :
    ∃ last, (create snapshot participants).history calls =
        .ok (expectedReplies snapshot participants [] calls, last) ∧
      last.Latched snapshot participants calls ∧
      (∀ later replies final assembled, last.history later = .ok (replies, final) →
        last.assemble? = some assembled →
          final.assemble? = some assembled ∧ final.wait = .ready assembled) ∧
      ∀ others replies other, (create snapshot participants).history others = .ok (replies, other) →
        (∀ name ∈ participants.members,
          firstReport? snapshot others name = firstReport? snapshot calls name) →
            other.assemble? = last.assemble? := by
  have hCreated := follows_create snapshot participants
  obtain ⟨last, hHistory, hLast⟩ := hCreated.history calls
  rw [List.nil_append] at hLast
  refine ⟨last, hHistory, hLast.latched, ?_, ?_⟩
  · intro later replies final assembled hLater hAssembled
    obtain ⟨reached, hReached, hFinal⟩ := hLast.history later
    rw [hLater] at hReached
    cases hReached
    rw [hLast.assemble?_eq] at hAssembled
    split at hAssembled
    · next hNobody =>
      obtain ⟨hStill, hCounted⟩ := missing_append_of_nil hNobody later
      cases hAssembled
      rw [hFinal.assemble?_eq, hFinal.wait_eq, if_pos hStill, if_pos hStill, hCounted]
      exact ⟨rfl, rfl⟩
    · cases hAssembled
  · intro others replies other hOthers hSame
    obtain ⟨reached, hReached, hOther⟩ := hCreated.history others
    rw [hOthers] at hReached
    cases hReached
    rw [List.nil_append] at hOther
    rw [hOther.assemble?_eq, hLast.assemble?_eq, missing_congr hSame, counted_congr hSame]

example : ((create 0 (SortedSet.ofList ["A", "B"])).history [.report ⟨0, "A", 4, []⟩, .abandon,
      .report ⟨0, "A", 5, []⟩, .report ⟨1, "B", 2, []⟩, .report ⟨0, "B", 2, []⟩]).map Prod.fst =
    .ok [.ok (some false), .ok none, .error (.unexpectedReport "A" 0),
      .error (.unexpectedReport "B" 1), .ok (some true)] := by
  decide +kernel

end Collector
end TokenNet
