import TokenNet.Proofs.Annals
import TokenNet.Proofs.Courses
import TokenNet.Proofs.Tracing

namespace TokenNet

/-!
# Announcements

A tick tells which snapshots have become complete in it.  Those are the ones that the journal tells
to have become complete (`completions`): each when the last of the nodes has handed in its part, in
this order.  As a snapshot becomes complete once, it is announced at most once, and by the tick in
which it becomes complete; what becomes complete in another call is not announced at all
(`Network.announced_once`).
-/

/-! ### What the journal tells to have become complete -/

/-- All nodes are told to have handed in their parts of a snapshot. -/
def AllTold (names : List String) (told : List (String × SnapshotId)) (snapshot : SnapshotId) :
    Prop :=
  ∀ name ∈ names, (name, snapshot) ∈ told

instance (names : List String) (told : List (String × SnapshotId)) (snapshot : SnapshotId) :
    Decidable (AllTold names told snapshot) :=
  inferInstanceAs (Decidable (∀ name ∈ names, (name, snapshot) ∈ told))

/-- The snapshots that become complete while parts are handed in, after some have been handed in
before: each of them with the part that was missing last. -/
def completions (names : List String) :
    List (String × SnapshotId) → List (String × SnapshotId) → List SnapshotId
  | _, [] => []
  | told, ending :: rest =>
      (if AllTold names (told ++ [ending]) ending.2 then [ending.2] else []) ++
        completions names (told ++ [ending]) rest

section Completions

variable {names : List String} {told rest : List (String × SnapshotId)} {snapshot : SnapshotId}

theorem AllTold.append (hAll : AllTold names told snapshot) (rest : List (String × SnapshotId)) :
    AllTold names (told ++ rest) snapshot :=
  fun name hName => List.mem_append_left rest (hAll name hName)

/-- A part of one snapshot is nothing to the others. -/
theorem allTold_append_singleton_iff {ending : String × SnapshotId} (hOther : snapshot ≠ ending.2) :
    AllTold names (told ++ [ending]) snapshot ↔ AllTold names told snapshot := by
  refine forall₂_congr fun name _ => ?_
  rw [List.mem_append, List.mem_singleton]
  exact or_iff_left fun hEqual => hOther (congrArg Prod.snd hEqual)

theorem completions_append (names : List String) (told first rest : List (String × SnapshotId)) :
    completions names told (first ++ rest) =
      completions names told first ++ completions names (told ++ first) rest := by
  induction first generalizing told with
  | nil =>
      rw [List.append_nil]
      rfl
  | cons ending later ih =>
      rw [List.cons_append, completions, completions, ih, List.append_assoc, List.append_assoc,
        List.singleton_append]

/-- If no part is told twice, those snapshots become complete that were not complete before and are
complete behind. -/
theorem mem_completions_iff (hNodup : (told ++ rest).Nodup)
    (hKnown : ∀ ending ∈ rest, ending.1 ∈ names) :
    snapshot ∈ completions names told rest ↔
      ¬ AllTold names told snapshot ∧ AllTold names (told ++ rest) snapshot := by
  induction rest generalizing told with
  | nil =>
      rw [List.append_nil, completions]
      exact iff_of_false List.not_mem_nil fun hBoth => hBoth.1 hBoth.2
  | cons ending rest ih =>
      obtain ⟨hHere, hRest⟩ := List.forall_mem_cons.mp hKnown
      -- The part has not been told before, so its snapshot was not complete.
      have hOpen : ¬ AllTold names told ending.2 := fun hAll =>
        List.disjoint_of_nodup_append hNodup (hAll ending.1 hHere) List.mem_cons_self
      have hSame : told ++ ending :: rest = told ++ [ending] ++ rest := List.append_cons ..
      rw [hSame] at hNodup ⊢
      rw [completions, List.mem_append, ih hNodup hRest]
      by_cases hEqual : snapshot = ending.2
      · subst hEqual
        by_cases hNow : AllTold names (told ++ [ending]) ending.2
        · rw [if_pos hNow]
          exact iff_of_true (Or.inl (List.mem_singleton_self _)) ⟨hOpen, hNow.append rest⟩
        · simp [hNow, hOpen]
      · rw [allTold_append_singleton_iff hEqual]
        refine or_iff_right fun hMember => hEqual ?_
        split at hMember
        · exact List.mem_singleton.mp hMember
        · cases hMember

/-- No snapshot becomes complete twice. -/
theorem nodup_completions (hNodup : (told ++ rest).Nodup)
    (hKnown : ∀ ending ∈ rest, ending.1 ∈ names) : (completions names told rest).Nodup := by
  induction rest generalizing told with
  | nil => exact List.nodup_nil
  | cons ending rest ih =>
      obtain ⟨-, hRest⟩ := List.forall_mem_cons.mp hKnown
      rw [List.append_cons] at hNodup
      rw [completions]
      split
      · next hNow =>
        refine List.nodup_cons.mpr ⟨fun hMember => ?_, ih hNodup hRest⟩
        exact ((mem_completions_iff hNodup hRest).mp hMember).1 hNow
      · exact ih hNodup hRest

end Completions

namespace Network

variable {net between after : Network}

/-! ### What is announced has become complete -/

/-- The collectors in use are sound, and have the reports that the journal tells of. -/
def Counted (net : Network) : Prop :=
  ∀ ⦃snapshot collector⦄, net.collectors.get? snapshot = some collector →
    collector.Sound snapshot net.nodes.keys ∧
      ∀ name, name ∈ collector.reported.keys ↔ (name, snapshot) ∈ endings net.journal.toList

/-- If the collectors have the reports that the journal tells of, they go on having them, and those
snapshots become complete that the journal tells. -/
def Announces (net : Network) (ids : List SnapshotId) (after : Network) : Prop :=
  net.Counted → after.Counted ∧ after.nodeNames = net.nodeNames ∧
    ∃ told, endings after.journal.toList = endings net.journal.toList ++ told ∧
      ids = completions net.nodeNames (endings net.journal.toList) told

/-- A collector, in use or taken away, has the reports that the journal tells of. -/
theorem Registered.mem_reported_iff (hRegistered : net.Registered) {snapshot : SnapshotId}
    {collector : Collector} (hFound : net.collectorOf? ⟨snapshot⟩ = some collector)
    (name : String) :
    name ∈ collector.reported.keys ↔ (name, snapshot) ∈ endings net.journal.toList := by
  rw [hRegistered.mem_endings_iff, report?_of_collectorOf? hFound, SortedMap.mem_keys_iff,
    Option.isSome_iff_exists]

theorem WellFormed.counted (hWell : net.WellFormed) (hRegistered : net.Registered) :
    net.Counted := fun _ _ hFound =>
  ⟨hWell.collected.sound hFound, hRegistered.mem_reported_iff (collectorOf?_of_get? hFound)⟩

theorem Spares.announces (hSpares : net.Spares after) : net.Announces [] after := by
  refine fun hCounted => ⟨fun snapshot collector hFound => ?_, hSpares.keys_eq, [], ?_, rfl⟩
  · rw [hSpares.collectors_eq] at hFound
    rw [hSpares.keys_eq, hSpares.endings_eq]
    exact hCounted hFound
  · rw [hSpares.endings_eq, List.append_nil]

theorem Announces.append {earlier later : List SnapshotId}
    (hEarlier : net.Announces earlier between) (hLater : between.Announces later after) :
    net.Announces (earlier ++ later) after := by
  intro hCounted
  obtain ⟨hBetween, hNames, first, hFirst, rfl⟩ := hEarlier hCounted
  obtain ⟨hAfter, hSame, rest, hRest, rfl⟩ := hLater hBetween
  refine ⟨hAfter, hSame.trans hNames, first ++ rest, ?_, ?_⟩
  · rw [hRest, hFirst, List.append_assoc]
  · rw [completions_append, hNames, hFirst]

/-- A report that is taken adds one part, and completes the snapshot if it was missing last. -/
theorem Counted.admitted (hCounted : net.Counted) {collector : Collector} {report : Report}
    (hFound : net.collectors.get? report.snapshot = some collector)
    (hAwaited : report.node ∈ collector.remaining.keys) :
    (net.admitted collector report).Counted ∧
      ((collector.accepted report).isComplete = true ↔ AllTold net.nodeNames
        (endings net.journal.toList ++ [(report.node, report.snapshot)]) report.snapshot) := by
  obtain ⟨hSound, hReported⟩ := hCounted hFound
  have hNow : ∀ name, name ∈ (collector.accepted report).reported.keys ↔
      (name, report.snapshot) ∈ endings net.journal.toList ++ [(report.node, report.snapshot)] := by
    intro name
    rw [List.mem_append, List.mem_singleton, ← hReported, or_comm]
    exact SortedMap.mem_keys_insert.trans (by simp)
  refine ⟨fun snapshot other hOther => ?_, ?_⟩
  · rw [endings_admitted]
    rcases SortedMap.get?_insert_eq_some_iff.mp hOther with ⟨rfl, rfl⟩ | ⟨hDifferent, hOld⟩
    · exact ⟨hSound.accepted hAwaited, hNow⟩
    · obtain ⟨hOtherSound, hOtherReported⟩ := hCounted hOld
      refine ⟨hOtherSound, fun name => ?_⟩
      rw [hOtherReported, List.mem_append, List.mem_singleton]
      exact (or_iff_left fun hEqual => hDifferent (congrArg Prod.snd hEqual).symm).symm
  · rw [(hSound.accepted hAwaited).isComplete_iff]
    exact forall₂_congr fun name _ => hNow name

theorem tracing_announces : Tracing Announces where
  of_spares := Spares.announces
  append := Announces.append
  notify report net := by
    refine Outcome.meets_self.mono (fun complete after hDone hCounted => ?_)
      fun _ after hRefused => ?_
    · obtain ⟨collector, hFound, -, hAwaited, rfl, rfl⟩ := notify_eq_done_iff.mp hDone
      obtain ⟨hAfter, hComplete⟩ := hCounted.admitted hFound hAwaited
      refine ⟨hAfter, rfl, [(report.node, report.snapshot)], endings_admitted .., ?_⟩
      rw [completions, completions, List.append_nil]
      simp only [hComplete]
    · obtain rfl := notify_refused hRefused
      exact ⟨[], Spares.announces (Std.Refl.refl after)⟩

/-! ### When a snapshot is complete -/

theorem Attained.registered (hAttained : net.Attained) : net.Registered := by
  obtain ⟨start, trace, hFresh, hRun⟩ := hAttained
  exact hRun.registered hFresh.wellFormed hFresh.registered

section Attained

variable {snapshot : SnapshotId} {name : String}

/-- Only nodes are told to have handed in parts, and only of snapshots that have been started. -/
theorem Attained.of_mem_endings (hAttained : net.Attained)
    (hTold : (name, snapshot) ∈ endings net.journal.toList) :
    name ∈ net.nodeNames ∧ snapshot < net.nextSnapshot := by
  obtain ⟨report, hReport⟩ :=
    Option.isSome_iff_exists.mp (hAttained.registered.mem_endings_iff.mp hTold)
  obtain ⟨collector, hFound, hKept⟩ := Option.bind_eq_some_iff.mp hReport
  have hWell := hAttained.wellFormed
  exact ⟨(hWell.sound_of_collectorOf? hFound).reported_known (SortedMap.mem_keys_of_get? hKept),
    hWell.started_of_collectorOf? hFound⟩

/-- A snapshot that has been started is complete once all nodes are told to have handed in their
parts. -/
theorem Attained.isSome_completed?_iff (hAttained : net.Attained) :
    (net.completed? snapshot).isSome = true ↔ snapshot < net.nextSnapshot ∧
      AllTold net.nodeNames (endings net.journal.toList) snapshot := by
  have hWell := hAttained.wellFormed
  have hComplete : ∀ {collector}, net.collectorOf? ⟨snapshot⟩ = some collector →
      (collector.isComplete = true ↔
        AllTold net.nodeNames (endings net.journal.toList) snapshot) := fun hFound =>
    (hWell.sound_of_collectorOf? hFound).isComplete_iff.trans
      (forall₂_congr fun name _ => hAttained.registered.mem_reported_iff hFound name)
  rw [Option.isSome_iff_exists]
  constructor
  · rintro ⟨assembled, hCompleted⟩
    obtain ⟨collector, hFound, hAll, -⟩ := hWell.completed?_eq_some_iff.mp hCompleted
    exact ⟨hWell.started_of_collectorOf? hFound, (hComplete hFound).mp hAll⟩
  · rintro ⟨hStarted, hAll⟩
    obtain ⟨collector, hFound⟩ := hWell.exists_collectorOf? hStarted
    exact ⟨_, hWell.completed?_eq_some_iff.mpr
      ⟨collector, hFound, (hComplete hFound).mpr hAll, rfl⟩⟩

/-- What is complete stays so. -/
theorem Course.isSome_completed? {nodes : List InitialNode} (hCourse : net.Course nodes after)
    (hWell : net.WellFormed) (hCompleted : (net.completed? snapshot).isSome = true) :
    (after.completed? snapshot).isSome = true := by
  obtain ⟨trace, hRun, -⟩ := hCourse
  obtain ⟨assembled, hAssembled⟩ := Option.isSome_iff_exists.mp hCompleted
  exact Option.isSome_iff_exists.mpr ⟨assembled, hRun.completed?_eq hWell hAssembled⟩

end Attained

/-! ### What a reply announces -/

end Network

/-- The snapshots that a tick tells to have become complete in it. -/
def Reply.announced : Reply → List SnapshotId
  | .ok (.passed report) => report.completed
  | _ => []

namespace Network

variable {net after last : Network} {call : Call} {reply : Reply}

/-- Only ticks announce anything. -/
theorem meets_answer_unannounced (net : Network) (hOther : call ≠ .tick) :
    (answer call net).Meets (fun value _ => Reply.announced (.ok value) = [])
      (fun error _ => Reply.announced (.error error) = []) := by
  cases call with
  | tick => exact absurd rfl hOther
  | _ => exact Action.meets_map (Outcome.meets_self.mono (fun _ _ _ => rfl) fun _ _ _ => rfl)

theorem announced_of_other (hReply : net.reply call = .ok (reply, after)) (hOther : call ≠ .tick) :
    reply.announced = [] :=
  of_reply (P := fun reply _ => reply.announced = []) (meets_answer_unannounced net hOther) hReply

/-- A tick announces what the journal tells to have become complete in it. -/
theorem Attained.announced_of_tick (hAttained : net.Attained)
    (hReply : net.reply .tick = .ok (reply, after)) :
    after.nodeNames = net.nodeNames ∧ after.nextSnapshot = net.nextSnapshot ∧
      endings after.journal.toList = endings net.journal.toList ++
        endings (after.journal.since net.journal.size) ∧
      reply.announced = completions net.nodeNames (endings net.journal.toList)
        (endings (after.journal.since net.journal.size)) := by
  have hWell := hAttained.wellFormed
  have hTick : net.Announces reply.announced after ∧ net.Evolves after := by
    refine of_reply (P := fun reply after => net.Announces reply.announced after ∧
      net.Evolves after) (Action.meets_map ?_) hReply
    exact ((tracing_announces.tick net).both (meets_tick hWell)).mono (fun _ _ hBoth => hBoth)
      fun _ _ hBoth => hBoth.2.elim
  obtain ⟨hAnnounces, hEvolves⟩ := hTick
  obtain ⟨-, hNames, told, hTold, hIds⟩ := hAnnounces (hWell.counted hAttained.registered)
  obtain ⟨trace, hRun, -⟩ := id hEvolves
  obtain ⟨events, hTells⟩ := hRun.tells hWell
  have hSince : after.journal.since net.journal.size = events :=
    Journal.since_eq hTells.toList_journal
  have hSame : told = endings events := by
    rw [hTells.toList_journal, endings_append] at hTold
    exact (List.append_cancel_left hTold).symm
  rw [hSince, ← hSame]
  exact ⟨hNames, (hEvolves.extends hWell).nextSnapshot_eq, hTold, hIds⟩

/-- A snapshot is announced by the tick in which it becomes complete, and by nothing else, once. -/
theorem Attained.count_announced (hAttained : net.Attained)
    (hReply : net.reply call = .ok (reply, after)) (snapshot : SnapshotId) :
    reply.announced.count snapshot =
      if call = .tick ∧ net.completed? snapshot = none ∧ (after.completed? snapshot).isSome = true
      then 1 else 0 := by
  by_cases hCall : call = .tick
  · subst hCall
    have hAfter : after.Attained :=
      hAttained.course (yields_of_reply hAttained.wellFormed hReply).course
    obtain ⟨hNames, hNext, hTold, hAnnounced⟩ := hAttained.announced_of_tick hReply
    have hNodup := hAfter.registered.nodup_endings
    have hKnown : ∀ ending ∈ endings (after.journal.since net.journal.size),
        ending.1 ∈ net.nodeNames := fun ending hEnding => by
      rw [← hNames]
      exact (hAfter.of_mem_endings (hTold ▸ List.mem_append_right _ hEnding)).1
    rw [hTold] at hNodup
    rw [hAnnounced, (nodup_completions hNodup hKnown).count]
    refine if_congr ?_ rfl rfl
    rw [mem_completions_iff hNodup hKnown, ← hTold, ← Option.not_isSome_iff_eq_none,
      hAttained.isSome_completed?_iff, hAfter.isSome_completed?_iff, hNames, hNext]
    constructor
    · rintro ⟨hOpen, hAll⟩
      refine ⟨rfl, fun hBoth => hOpen hBoth.2, ?_, hAll⟩
      -- Some node has handed in its part, so the snapshot has been started.
      obtain ⟨name, hNever⟩ := Classical.not_forall.mp hOpen
      obtain ⟨hName, -⟩ := Classical.not_imp.mp hNever
      exact hNext ▸ (hAfter.of_mem_endings (hAll name hName)).2
    · rintro ⟨-, hOpen, hStarted, hAll⟩
      exact ⟨fun hBefore => hOpen ⟨hStarted, hBefore⟩, hAll⟩
  · rw [announced_of_other hReply hCall, if_neg fun hAll => hCall hAll.1]
    rfl

/-- What is announced in a history was not complete before it and is complete behind it. -/
theorem Attained.of_mem_announced {calls : List Call} {replies : List Reply} {told : Reply}
    {snapshot : SnapshotId} (hAttained : net.Attained)
    (hHistory : net.history calls = .ok (replies, last)) (hReply : told ∈ replies)
    (hAnnounced : snapshot ∈ told.announced) :
    net.completed? snapshot = none ∧ (last.completed? snapshot).isSome = true := by
  induction calls generalizing net replies with
  | nil =>
      cases hHistory
      cases hReply
  | cons call rest ih =>
      obtain ⟨first, later, between, hFirst, hRest, rfl⟩ := history_cons_eq_ok hHistory
      have hWell := hAttained.wellFormed
      have hCourse := (yields_of_reply hWell hFirst).course
      have hBetween : between.Attained := hAttained.course hCourse
      rcases List.mem_cons.mp hReply with rfl | hLater
      · have hCount := hAttained.count_announced hFirst snapshot
        have hSome := List.count_pos_iff.mpr hAnnounced
        split at hCount
        · next hNow =>
          exact ⟨hNow.2.1, (course_of_history hBetween.wellFormed hRest).isSome_completed?
            hBetween.wellFormed hNow.2.2⟩
        · omega
      · obtain ⟨hOpen, hCompleted⟩ := ih hBetween hRest hLater
        refine ⟨Option.not_isSome_iff_eq_none.mp fun hEarlier => ?_, hCompleted⟩
        exact Option.not_isSome_iff_eq_none.mpr hOpen (hCourse.isSome_completed? hWell hEarlier)

/-- Whatever is asked of a network, reports from outside included: the journal tells the start of
each snapshot once, and once of each node that it has handed in its part, and of nobody else.  A
call announces, in the order of the journal, the snapshots that become complete in it if it is a
tick, each of them once, and otherwise nothing.  A snapshot that becomes complete in a call is
announced by no other. -/
theorem announced_once {config : Config} {earlier later : List Call} {former latter : List Reply}
    {before : Network} (hBuilt : ofConfig config = .ok net)
    (hEarlier : net.history earlier = .ok (former, before))
    (hReply : before.reply call = .ok (reply, after))
    (hLater : after.history later = .ok (latter, last)) :
    (∀ id, (startings last.journal.toList).count id = if id < last.nextSnapshot then 1 else 0) ∧
      (∀ name id, (endings last.journal.toList).count (name, id) =
        if (last.report? id name).isSome then 1 else 0) ∧
      reply.announced = (if call = .tick then
        completions before.nodeNames (endings before.journal.toList)
          (endings (after.journal.since before.journal.size)) else []) ∧
      ∀ id, reply.announced.count id =
          (if call = .tick ∧ before.completed? id = none ∧ (after.completed? id).isSome = true
            then 1 else 0) ∧
        (before.completed? id = none → (after.completed? id).isSome = true →
          ∀ other ∈ former ++ latter, id ∉ other.announced) := by
  have hNet : net.Attained := Attained.of_fresh (fresh_ofConfig hBuilt)
  have hBefore := attained_of_history hBuilt hEarlier
  have hAfter : after.Attained :=
    hBefore.course (yields_of_reply hBefore.wellFormed hReply).course
  have hLast : last.Attained := hAfter.course (course_of_history hAfter.wellFormed hLater)
  refine ⟨hLast.registered.count_startings, hLast.registered.count_endings, ?_, fun id =>
    ⟨hBefore.count_announced hReply id, fun hOpen hCompleted other hOther hAnnounced => ?_⟩⟩
  · split
    · next hCall =>
      subst hCall
      exact (hBefore.announced_of_tick hReply).2.2.2
    · next hCall => exact announced_of_other hReply hCall
  · rcases List.mem_append.mp hOther with hFormer | hLatter
    · obtain ⟨-, hEarly⟩ := hNet.of_mem_announced hEarlier hFormer hAnnounced
      exact Option.not_isSome_iff_eq_none.mpr hOpen hEarly
    · obtain ⟨hLate, -⟩ := hAfter.of_mem_announced hLater hLatter hAnnounced
      exact Option.not_isSome_iff_eq_none.mpr hLate hCompleted

/-- One of three snapshots is completed by reports from outside, which no tick announces; the other
two become complete in the same tick, the later one first. -/
theorem announced_once_pair :
    ∃ net former before reply after latter last,
      ofConfig { pairConfig with maxDelay := 0 } = .ok net ∧
      net.history [.startSnapshot "A", .startSnapshot "B", .notify ⟨1, "A", 4, []⟩] =
        .ok (former, before) ∧
      before.reply (.notify ⟨1, "B", 4, []⟩) = .ok (reply, after) ∧
      after.history [.startSnapshot "B", .tick, .tick, .tick] = .ok (latter, last) ∧
      latter.map Reply.announced = [[], [], [], [2, 0]] ∧
      before.completed? 1 = none ∧ (after.completed? 1).isSome = true ∧
      (∀ other ∈ former ++ reply :: latter, 1 ∉ other.announced) ∧
      (endings last.journal.toList).count ("B", 1) = 1 := by
  obtain ⟨net, former, before, hBuilt, hEarlier, hPlayed⟩ := exists_of_played?
    (show (played? { pairConfig with maxDelay := 0 }
        [.startSnapshot "A", .startSnapshot "B", .notify ⟨1, "A", 4, []⟩]).any (fun outcome =>
      decide (outcome.2.2.completed? 1 = none) &&
      (outcome.2.2.reply (.notify ⟨1, "B", 4, []⟩)).toOption.any fun answered =>
        decide ((answered.2.completed? 1).isSome = true) &&
        (answered.2.history [.startSnapshot "B", .tick, .tick, .tick]).toOption.any fun ended =>
          decide (ended.1.map Reply.announced = [[], [], [], [2, 0]]) &&
          decide ((ended.2.report? 1 "B").isSome = true)) = true by decide +kernel)
  obtain ⟨hOpen, hAnswered⟩ := (Bool.and_eq_true _ _).mp hPlayed
  obtain ⟨⟨reply, after⟩, hReply, hEnded⟩ := exists_of_toOption_any hAnswered
  obtain ⟨hComplete, hRest⟩ := (Bool.and_eq_true _ _).mp hEnded
  obtain ⟨⟨latter, last⟩, hLater, hCheck⟩ := exists_of_toOption_any hRest
  simp only [Bool.and_eq_true, decide_eq_true_eq] at hOpen hComplete hCheck
  obtain ⟨-, hEndings, hAnnounced, hOnce⟩ := announced_once hBuilt hEarlier hReply hLater
  refine ⟨net, former, before, reply, after, latter, last, hBuilt, hEarlier, hReply, hLater,
    hCheck.1, hOpen, hComplete, ?_, ?_⟩
  · intro other hOther
    rcases List.mem_append.mp hOther with hFormer | hMember
    · exact (hOnce 1).2 hOpen hComplete other (List.mem_append_left _ hFormer)
    · rcases List.mem_cons.mp hMember with rfl | hLatter
      · rw [hAnnounced]
        exact List.not_mem_nil
      · exact (hOnce 1).2 hOpen hComplete other (List.mem_append_right _ hLatter)
  · rw [hEndings, if_pos hCheck.2]

end Network
end TokenNet
