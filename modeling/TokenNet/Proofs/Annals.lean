import TokenNet.Proofs.Deliveries

namespace TokenNet

/-!
# Annals

The journal does not tell when nodes join a snapshot.  The annals of a run do (`Network.Annals`): they
are the events of the journal, in order, and among them it is marked where nodes have joined.  From
them it can be read off what a node has to record in a snapshot (`recordedBy`): the transfers that
have come to it since it has joined, each of them before the marker of its sender.  While a run goes on
that marker may be still to come; then the transfers that count so far are those before which it has
not come (`countedFrom`), and in the end these are the same (`beforeMarkers_eq_countedFrom`).
-/

/-- What annals tell. -/
inductive Entry where
  /-- An event of the journal. -/
  | event (event : Event)
  /-- A node has joined a snapshot. -/
  | began (name : String) (snapshot : SnapshotId)
deriving DecidableEq, Repr

namespace Entry

/-- The event that is told. -/
def event? : Entry → Option Event
  | event told => some told
  | began _ _ => none

/-- The transfer that is told to have come to a node, if it carries anything. -/
def transferTo? (name : String) : Entry → Option Transfer
  | event (.received _ source target (.token amount)) =>
      if target = name ∧ 0 < amount then some ⟨source, target, amount⟩ else none
  | _ => none

/-- Whether it is told that the marker of a snapshot has come from a link. -/
def isMarker (snapshot : SnapshotId) (link : Link) (entry : Entry) : Bool :=
  entry.event?.bind (Event.receivedOn? link) = some (.marker snapshot)

variable {name : String} {entry : Entry} {transfer : Transfer}

theorem of_transferTo? (hTransfer : entry.transferTo? name = some transfer) :
    transfer.target = name ∧ 0 < transfer.amount ∧ ∃ tick,
      entry = .event (.received tick transfer.source transfer.target (.token transfer.amount)) := by
  unfold transferTo? at hTransfer
  split at hTransfer
  · obtain ⟨⟨hTarget, hAmount⟩, hSome⟩ := Option.ite_none_right_eq_some.mp hTransfer
    cases hSome
    exact ⟨hTarget, hAmount, _, rfl⟩
  · cases hTransfer

/-- No transfer is a marker. -/
theorem isMarker_of_transferTo? (hTransfer : entry.transferTo? name = some transfer)
    (snapshot : SnapshotId) : entry.isMarker snapshot transfer.link = false := by
  obtain ⟨-, -, tick, rfl⟩ := of_transferTo? hTransfer
  simp [isMarker, event?, Event.receivedOn?, Transfer.link]

end Entry

/-- The mark that a node has joined a snapshot. -/
def Happening.beginning? : Happening → Option Entry
  | .joined name snapshot => some (.began name snapshot)
  | _ => none

/-- What a step adds to the annals.  What comes makes nodes join, and what they do then follows. -/
def chapter (events : List Event) (happenings : List Happening) : List Entry :=
  (events.takeWhile Event.isArrival).map .event ++ happenings.filterMap Happening.beginning? ++
    (events.dropWhile Event.isArrival).map .event

theorem filterMap_event?_chapter (events : List Event) (happenings : List Happening) :
    (chapter events happenings).filterMap Entry.event? = events := by
  have hEvents : ∀ told : List Event, (told.map Entry.event).filterMap Entry.event? = told := by
    intro told
    rw [List.filterMap_map]
    exact List.filterMap_some
  have hMarks : (happenings.filterMap Happening.beginning?).filterMap Entry.event? = [] := by
    rw [List.filterMap_filterMap]
    refine List.filterMap_eq_nil_iff.mpr fun happening _ => ?_
    cases happening <;> rfl
  unfold chapter
  rw [List.filterMap_append, List.filterMap_append, hEvents, hEvents, hMarks, List.append_nil,
    List.takeWhile_append_dropWhile]

theorem mem_chapter_event {events : List Event} {happenings : List Happening} {event : Event}
    (hMember : .event event ∈ chapter events happenings) : event ∈ events := by
  rw [← filterMap_event?_chapter events happenings]
  exact List.mem_filterMap.mpr ⟨_, hMember, rfl⟩

/-- Nodes are marked to have joined as often as they have. -/
theorem count_began_chapter (events : List Event) (happenings : List Happening) (name : String)
    (snapshot : SnapshotId) : (chapter events happenings).count (.began name snapshot) =
      happenings.count (.joined name snapshot) := by
  have hEvents : ∀ told : List Event, (told.map Entry.event).count (.began name snapshot) = 0 :=
    fun told => List.count_eq_zero.mpr fun hMember => by
      obtain ⟨_, -, hSame⟩ := List.mem_map.mp hMember
      cases hSame
  unfold chapter
  rw [List.count_append, List.count_append, hEvents, hEvents, Nat.zero_add, Nat.add_zero,
    List.count_filterMap, List.count_eq_countP]
  refine List.countP_congr fun happening _ => ?_
  cases happening <;> simp [Happening.beginning?]

/-! ### What is to be recorded -/

/-- The transfers to a node before each of which the marker of its sender has not come.  It may have
come earlier than all of these entries. -/
def countedFrom (snapshot : SnapshotId) (name : String) : List Entry → List Entry → List Transfer
  | _, [] => []
  | earlier, entry :: rest =>
      ((entry.transferTo? name).toList.filter fun transfer =>
        !earlier.any (Entry.isMarker snapshot transfer.link)) ++
          countedFrom snapshot name (earlier ++ [entry]) rest

/-- The transfers to a node behind each of which the marker of its sender comes. -/
def beforeMarkers (snapshot : SnapshotId) (name : String) : List Entry → List Transfer
  | [] => []
  | entry :: rest =>
      ((entry.transferTo? name).toList.filter fun transfer =>
        rest.any (Entry.isMarker snapshot transfer.link)) ++ beforeMarkers snapshot name rest

/-- What a node has to record in a snapshot: the transfers that come to it behind the point at which
it joins, each of them before the marker of its sender. -/
def recordedBy (snapshot : SnapshotId) (name : String) : List Entry → List Transfer
  | [] => []
  | entry :: rest =>
      if entry = .began name snapshot then beforeMarkers snapshot name rest
      else recordedBy snapshot name rest

section Recorded

variable {snapshot : SnapshotId} {name : String} {entries earlier before behind : List Entry}
  {transfer : Transfer}

theorem countedFrom_append (earlier before behind : List Entry) :
    countedFrom snapshot name earlier (before ++ behind) =
      countedFrom snapshot name earlier before ++
        countedFrom snapshot name (earlier ++ before) behind := by
  induction before generalizing earlier with
  | nil =>
      rw [List.append_nil]
      rfl
  | cons entry rest ih =>
      rw [List.cons_append, countedFrom, countedFrom, ih, List.append_assoc, List.append_assoc,
        List.singleton_append]

theorem countedFrom_eq_nil (hNone : ∀ entry ∈ entries, entry.transferTo? name = none) :
    countedFrom snapshot name earlier entries = [] := by
  induction entries generalizing earlier with
  | nil => rfl
  | cons entry rest ih =>
      obtain ⟨hFirst, hRest⟩ := List.forall_mem_cons.mp hNone
      unfold countedFrom
      rw [hFirst, ih hRest]
      rfl

/-- If the marker of each sender comes exactly once, it comes behind a transfer unless it has come
before. -/
theorem beforeMarkers_eq_countedFrom (hOnce : ∀ entry ∈ entries, ∀ transfer,
      entry.transferTo? name = some transfer →
        (earlier ++ entries).countP (Entry.isMarker snapshot transfer.link) = 1) :
    beforeMarkers snapshot name entries = countedFrom snapshot name earlier entries := by
  induction entries generalizing earlier with
  | nil => rfl
  | cons entry rest ih =>
      obtain ⟨hFirst, hRest⟩ := List.forall_mem_cons.mp hOnce
      have hLater : beforeMarkers snapshot name rest =
          countedFrom snapshot name (earlier ++ [entry]) rest := by
        refine ih fun other hOther transfer hTransfer => ?_
        rw [List.append_assoc]
        exact hRest other hOther transfer hTransfer
      unfold beforeMarkers countedFrom
      rw [hLater]
      cases hTransfer : entry.transferTo? name with
      | none => rfl
      | some transfer =>
          -- The transfer itself is no marker, so the one marker is on either side of it.
          have hCount := hFirst transfer hTransfer
          rw [List.countP_append, List.countP_cons, Entry.isMarker_of_transferTo? hTransfer,
            if_neg Bool.false_ne_true] at hCount
          have hEither : rest.any (Entry.isMarker snapshot transfer.link) =
              !earlier.any (Entry.isMarker snapshot transfer.link) := by
            rw [Bool.eq_iff_iff, Bool.not_eq_true', ← Bool.not_eq_true, List.any_eq_true,
              List.any_eq_true, ← List.countP_pos_iff, ← List.countP_pos_iff]
            omega
          simp only [Option.toList_some, List.filter_cons, List.filter_nil, hEither]

theorem of_mem_beforeMarkers (hMember : transfer ∈ beforeMarkers snapshot name entries) :
    transfer.target = name ∧ 0 < transfer.amount := by
  induction entries with
  | nil => cases hMember
  | cons entry rest ih =>
      rcases List.mem_append.mp hMember with hFirst | hRest
      · have hTransfer := Option.mem_toList.mp (List.mem_filter.mp hFirst).1
        obtain ⟨hTarget, hAmount, -⟩ := Entry.of_transferTo? hTransfer
        exact ⟨hTarget, hAmount⟩
      · exact ih hRest

/-- What a node records carries tokens to it. -/
theorem of_mem_recordedBy (hMember : transfer ∈ recordedBy snapshot name entries) :
    transfer.target = name ∧ 0 < transfer.amount := by
  induction entries with
  | nil => cases hMember
  | cons entry rest ih =>
      unfold recordedBy at hMember
      split at hMember
      · exact of_mem_beforeMarkers hMember
      · exact ih hMember

/-- Whoever does not join records nothing. -/
theorem recordedBy_eq_nil (hNone : .began name snapshot ∉ entries) :
    recordedBy snapshot name entries = [] := by
  induction entries with
  | nil => rfl
  | cons entry rest ih =>
      obtain ⟨hFirst, hRest⟩ := not_or.mp (List.mem_cons.not.mp hNone)
      unfold recordedBy
      rw [if_neg fun hSame => hFirst hSame.symm, ih hRest]

theorem recordedBy_of_began (hNone : .began name snapshot ∉ before) :
    recordedBy snapshot name (before ++ .began name snapshot :: behind) =
      beforeMarkers snapshot name behind := by
  induction before with
  | nil => exact if_pos rfl
  | cons entry rest ih =>
      obtain ⟨hFirst, hRest⟩ := not_or.mp (List.mem_cons.not.mp hNone)
      rw [List.cons_append]
      unfold recordedBy
      rw [if_neg fun hSame => hFirst hSame.symm, ih hRest]

end Recorded

/-! ### The annals of a run -/

/-- What has been written behind a point is what has been written behind it. -/
theorem Journal.since_eq {journal later : Journal} {events : List Event}
    (hWritten : later.toList = journal.toList ++ events) : later.since journal.size = events := by
  have hLength : journal.size = journal.toList.length := Array.length_toList.symm
  have hAll : later.events.size = later.toList.length := Array.length_toList.symm
  unfold since
  rw [Array.toList_extract, hAll, List.extract_eq_take_drop]
  show List.take _ (List.drop _ later.toList) = events
  rw [hWritten, hLength, List.drop_left, List.length_append, Nat.add_sub_cancel_left, List.take_length]

namespace Network

variable {net between after : Network} {trace happenings : List Happening} {entries : List Entry}

/-- A chain of steps with everything that happens in it, and its annals. -/
inductive Annals (net : Network) : List Happening → List Entry → Network → Prop where
  /-- Nothing has happened. -/
  | start : Annals net [] [] net
  /-- One more step. -/
  | step {trace happenings : List Happening} {entries : List Entry} {between after : Network}
      (hAnnals : Annals net trace entries between) (hStep : Step between happenings after) :
      Annals net (trace ++ happenings)
        (entries ++ chapter (after.journal.since between.journal.size) happenings) after

theorem Annals.run (hAnnals : Annals net trace entries after) : Run net trace after := by
  induction hAnnals with
  | start => exact Run.start
  | step _ hStep ih => exact Run.step ih hStep

theorem Run.annals (hRun : Run net trace after) : ∃ entries, Annals net trace entries after := by
  induction hRun with
  | start => exact ⟨[], Annals.start⟩
  | step _ hStep ih =>
      obtain ⟨entries, hAnnals⟩ := ih
      exact ⟨_, Annals.step hAnnals hStep⟩

/-- What a change writes into the journal. -/
theorem Change.journal_eq (hChange : Change net happenings after) (hWell : net.WellFormed) :
    after.journal.toList = net.journal.toList ++ after.journal.since net.journal.size := by
  obtain ⟨events, hTells⟩ := hChange.tells hWell
  rw [Journal.since_eq hTells.toList_journal, hTells.toList_journal]

/-- The events of the annals are those of the journal. -/
theorem Annals.journal_eq (hAnnals : Annals net trace entries after) (hFresh : net.Fresh) :
    entries.filterMap Entry.event? = after.journal.toList := by
  induction hAnnals with
  | start => exact hFresh.journal_eq_nil.symm
  | step hEarlier hStep ih =>
      have hWell := hEarlier.run.wellFormed hFresh.wellFormed
      rw [List.filterMap_append, filterMap_event?_chapter, ih, (hStep.change hWell).journal_eq hWell]

/-- The annals mark each node as often as it has joined. -/
theorem Annals.count_began (hAnnals : Annals net trace entries after) (name : String)
    (snapshot : SnapshotId) :
    entries.count (.began name snapshot) = trace.count (.joined name snapshot) := by
  induction hAnnals with
  | start => rfl
  | step _ _ ih => rw [List.count_append, List.count_append, count_began_chapter, ih]

/-- The annals tell of the same markers as the journal. -/
theorem Annals.countP_isMarker (hAnnals : Annals net trace entries after) (hFresh : net.Fresh)
    (snapshot : SnapshotId) (link : Link) : entries.countP (Entry.isMarker snapshot link) =
      (after.journal.receivedOn link).count (.marker snapshot) := by
  unfold Journal.receivedOn
  rw [← hAnnals.journal_eq hFresh, List.filterMap_filterMap, List.count_filterMap]
  refine List.countP_congr fun entry _ => ?_
  rw [beq_iff_eq]
  exact decide_eq_true_iff

end Network

end TokenNet
