import TokenNet.Proofs.Cut

namespace TokenNet
namespace Cut

/-!
# The marks stay accounted for

Each step of a cut keeps `Cut.Accounted`.  The steps in which a node takes part are one case
(`Cut.Joins`): every link that leads away gets its mark, and all links that lead to
the node are open again but the one whose mark made it take part.
-/

variable {cut : Cut}

@[simp] theorem isClosed_setFlow (other : Link) (items : List Item) (link : Link) :
    (cut.setFlow other items).isClosed link = cut.isClosed link := rfl

theorem isClosed_setPart (name : String) (part : Part) (link : Link) :
    (cut.setPart name part).isClosed link =
      if name = link.target then decide (link.source ∉ part.awaits) else cut.isClosed link := by
  unfold isClosed setPart
  by_cases hTarget : name = link.target <;> simp [hTarget]

theorem awaits_note (transfer : Transfer) (part : Part) :
    (part.note transfer).awaits = part.awaits := by
  unfold Part.note
  split <;> rfl

@[simp] theorem isClosed_noteAt (transfer : Transfer) (link : Link) :
    (cut.noteAt transfer).isClosed link = cut.isClosed link := by
  unfold isClosed noteAt
  by_cases hTarget : transfer.target = link.target
  · cases hPart : cut.part link.target <;> simp [hTarget, hPart, awaits_note]
  · simp [hTarget]

@[simp] theorem isSome_part_noteAt (transfer : Transfer) (name : String) :
    ((cut.noteAt transfer).part name).isSome = (cut.part name).isSome := by
  unfold noteAt
  by_cases hTarget : transfer.target = name <;> simp [hTarget]

theorem isSome_part_setPart (name other : String) (part : Part) :
    ((cut.setPart name part).part other).isSome = (decide (name = other) || (cut.part other).isSome) := by
  unfold setPart
  by_cases hName : name = other <;> simp [hName]

theorem isSome_part_setPart_of_some {name : String} {old : Part}
    (hPart : cut.part name = some old) (part : Part) (other : String) :
    ((cut.setPart name part).part other).isSome = (cut.part other).isSome := by
  rw [isSome_part_setPart]
  by_cases hName : name = other
  · rw [← hName, hPart, decide_eq_true rfl, Bool.true_or, Option.isSome_some]
  · rw [decide_eq_false hName, Bool.false_or]

theorem flow_setFlow (link other : Link) (items : List Item) :
    (cut.setFlow link items).flow other = if link = other then items else cut.flow other := rfl

theorem count_markFrom {name : String} {link : Link} (hLink : cut.linked link = true) :
    ((cut.markFrom name).flow link).count .mark =
      (cut.flow link).count .mark + if link.source = name then 1 else 0 := by
  unfold markFrom
  by_cases hSource : link.source = name <;> simp [hSource, hLink]

theorem flow_markFrom_of_not_linked {name : String} {link : Link}
    (hLink : ¬ cut.linked link = true) : (cut.markFrom name).flow link = cut.flow link := by
  unfold markFrom
  simp [hLink]

namespace Accounted

theorem send {link : Link} {amount : UInt64} (hAccounted : cut.Accounted)
    (hLinked : cut.linked link = true) :
    (cut.setFlow link (cut.flow link ++ [.tokens amount])).Accounted := by
  refine ⟨fun {other} hOther => ?_, hAccounted.source_joined,
    fun hOther => hAccounted.flow_setFlow_eq_nil hLinked hOther _, hAccounted.awaits_linked⟩
  show List.count Item.mark (if link = other then _ else _) = _
  split
  · next hEqual =>
    rw [List.count_append, hEqual]
    exact hAccounted.count_mark hOther
  · exact hAccounted.count_mark hOther

theorem deliver {link : Link} {amount : UInt64} {rest : List Item} {transfer : Transfer}
    (hAccounted : cut.Accounted) (hFlow : cut.flow link = .tokens amount :: rest) :
    ((cut.setFlow link rest).noteAt transfer).Accounted := by
  have hLinked := hAccounted.linked_of_flow hFlow
  refine ⟨fun {other} hOther => ?_, fun {other} hOther hClosed => ?_,
    fun hOther => hAccounted.flow_setFlow_eq_nil hLinked hOther rest,
    fun {name source part} hPart hAwaits => ?_⟩
  · -- A note changes neither who takes part nor what is awaited.
    have hExpected : ((cut.setFlow link rest).noteAt transfer).expected other =
        cut.expected other := by
      unfold expected
      simp only [isClosed_noteAt, isSome_part_noteAt]
      rfl
    rw [hExpected]
    show List.count Item.mark (if link = other then rest else cut.flow other) = _
    rw [← hAccounted.count_mark hOther]
    split
    · next hEqual => rw [← hEqual, hFlow, List.count_cons_of_ne (by simp)]
    · rfl
  · rw [isSome_part_noteAt]
    rw [isClosed_noteAt] at hClosed
    exact hAccounted.source_joined hOther hClosed
  · replace hPart : (if transfer.target = name then (cut.part name).map (Part.note transfer)
        else cut.part name) = some part := hPart
    split at hPart
    · obtain ⟨old, hOld, rfl⟩ := Option.map_eq_some_iff.mp hPart
      rw [awaits_note] at hAwaits
      exact hAccounted.awaits_linked hOld hAwaits
    · exact hAccounted.awaits_linked hPart hAwaits

theorem addLink (hAccounted : cut.Accounted) (link : Link) (hIdle : ∀ name, cut.part name = none) :
    ({ cut with linked := fun other => decide (link = other) || cut.linked other } :
      Cut).Accounted := by
  refine ⟨fun {other} hOther => ?_, fun {other} hOther hClosed => ?_, fun {other} hOther => ?_,
    fun hPart => ?_⟩
  · show (cut.flow other).count .mark = cut.expected other
    -- The new link carries nothing, and nobody takes part.
    by_cases hLinked : cut.linked other = true
    · exact hAccounted.count_mark hLinked
    · rw [hAccounted.flow_eq_nil hLinked, expected_eq_zero (Or.inl (hIdle _))]
      rfl
  · obtain ⟨part, hPart, -⟩ := isClosed_eq_true_iff.mp hClosed
    exact absurd ((hIdle _).symm.trans hPart) (Option.some_ne_none part).symm
  · exact hAccounted.flow_eq_nil fun hLinked => hOther (by simp [hLinked])
  · exact absurd ((hIdle _).symm.trans hPart) (Option.some_ne_none _).symm

end Accounted

/-! ### Nodes that take part -/

/-- What becomes of a cut when a node takes part.  If a mark made it do so, `trigger` is the
source of that mark. -/
structure Joins (cut after : Cut) (name : String) (part : Part) (trigger : Option String) :
    Prop where
  /-- The node has not taken part so far. -/
  idle : cut.part name = none
  /-- Marks come from nodes that take part. -/
  source_joined : ∀ {source}, trigger = some source → (cut.part source).isSome = true
  /-- The links stay. -/
  linked_eq : after.linked = cut.linked
  /-- No other node takes part. -/
  part_eq : after.part = (cut.setPart name part).part
  /-- All links that lead away carry one mark, and the one that led to the node has gone. -/
  count_mark : ∀ {link}, cut.linked link = true → (after.flow link).count .mark =
    if link.source = name then 1
    else if link.target = name ∧ trigger = some link.source then 0
    else (cut.flow link).count .mark
  /-- What is no link carries nothing. -/
  flow_eq_nil : ∀ {link}, ¬ cut.linked link = true → after.flow link = []
  /-- All marks are awaited but the one that has come. -/
  mem_awaits : ∀ {source}, source ∈ part.awaits ↔
    cut.linked ⟨source, name⟩ = true ∧ trigger ≠ some source

namespace Joins

variable {after : Cut} {name : String} {part : Part} {trigger : Option String}

theorem isClosed_eq (hJoins : Joins cut after name part trigger) {link : Link}
    (hLink : cut.linked link = true) : after.isClosed link =
      if name = link.target then decide (trigger = some link.source) else cut.isClosed link := by
  have hSame : after.isClosed link = (cut.setPart name part).isClosed link := by
    unfold isClosed
    rw [hJoins.part_eq]
  rw [hSame, isClosed_setPart]
  by_cases hTarget : name = link.target
  · have hThis : cut.linked ⟨link.source, name⟩ = true := hTarget ▸ hLink
    rw [if_pos hTarget, if_pos hTarget, decide_eq_decide, hJoins.mem_awaits, hThis]
    simp
  · rw [if_neg hTarget, if_neg hTarget]

theorem isSome_part (hJoins : Joins cut after name part trigger) (other : String) :
    (after.part other).isSome = (decide (name = other) || (cut.part other).isSome) := by
  rw [hJoins.part_eq, isSome_part_setPart]

/-- No node makes itself take part. -/
theorem trigger_ne (hJoins : Joins cut after name part trigger) : trigger ≠ some name := by
  intro hEqual
  have hJoined := hJoins.source_joined hEqual
  rw [hJoins.idle] at hJoined
  cases hJoined

/-- The marks on the links that lead away from the node are expected. -/
theorem expected_of_source (hJoins : Joins cut after name part trigger)
    (hAccounted : cut.Accounted) {link : Link} (hLink : cut.linked link = true)
    (hSource : link.source = name) : after.expected link = 1 := by
  refine expected_eq_one_iff.mpr ⟨by rw [hJoins.isSome_part, hSource]; simp, ?_⟩
  rw [hJoins.isClosed_eq hLink]
  split
  · rw [hSource, decide_eq_false hJoins.trigger_ne]
  · -- The target has not had a mark from a node that did not take part.
    apply Bool.eq_false_iff.mpr
    intro hShut
    have hJoined := hAccounted.source_joined hLink hShut
    rw [hSource, hJoins.idle] at hJoined
    cases hJoined

/-- For a link that neither leads away from the node nor has brought the mark nothing changes. -/
theorem expected_of_other (hJoins : Joins cut after name part trigger) {link : Link}
    (hLink : cut.linked link = true) (hSource : link.source ≠ name)
    (hOther : ¬ (link.target = name ∧ trigger = some link.source)) :
    after.expected link = cut.expected link := by
  have hSame : after.isClosed link = cut.isClosed link := by
    rw [hJoins.isClosed_eq hLink]
    split
    · next hTarget =>
      have hAwaited : ¬ trigger = some link.source := fun hEqual => hOther ⟨hTarget.symm, hEqual⟩
      unfold isClosed
      rw [← hTarget, hJoins.idle, decide_eq_false hAwaited]
    · rfl
  unfold expected
  rw [hSame, hJoins.isSome_part, decide_eq_false (Ne.symm hSource), Bool.false_or]

theorem accounted (hJoins : Joins cut after name part trigger) (hAccounted : cut.Accounted) :
    after.Accounted := by
  refine ⟨fun {link} hLink => ?_, fun {link} hLink hShut => ?_, fun {link} hLink => ?_,
    fun {other source found} hFound hMember => ?_⟩
  · rw [hJoins.linked_eq] at hLink
    rw [hJoins.count_mark hLink]
    by_cases hSource : link.source = name
    · rw [if_pos hSource, hJoins.expected_of_source hAccounted hLink hSource]
    · rw [if_neg hSource]
      by_cases hMarked : link.target = name ∧ trigger = some link.source
      · have hClosed : after.isClosed link = true := by
          rw [hJoins.isClosed_eq hLink, if_pos hMarked.1.symm, decide_eq_true hMarked.2]
        rw [if_pos hMarked, expected_eq_zero (Or.inr hClosed)]
      · rw [if_neg hMarked, hJoins.expected_of_other hLink hSource hMarked]
        exact hAccounted.count_mark hLink
  · rw [hJoins.linked_eq] at hLink
    rw [hJoins.isSome_part, Bool.or_eq_true]
    rw [hJoins.isClosed_eq hLink] at hShut
    split at hShut
    · exact Or.inr (hJoins.source_joined (of_decide_eq_true hShut))
    · exact Or.inr (hAccounted.source_joined hLink hShut)
  · rw [hJoins.linked_eq] at hLink
    exact hJoins.flow_eq_nil hLink
  · rw [hJoins.linked_eq]
    replace hFound : (if name = other then some part else cut.part other) = some found := by
      rw [← hFound, hJoins.part_eq]
      rfl
    split at hFound
    · next hEqual =>
      cases hFound
      exact hEqual ▸ (hJoins.mem_awaits.mp hMember).1
    · exact hAccounted.awaits_linked hFound hMember

end Joins

namespace Accounted

theorem join {name : String} {part : Part} (hAccounted : cut.Accounted)
    (hIdle : cut.part name = none)
    (hAwaits : ∀ source, source ∈ part.awaits ↔ cut.linked ⟨source, name⟩ = true) :
    ((cut.markFrom name).setPart name part).Accounted := by
  have hJoins : Joins cut ((cut.markFrom name).setPart name part) name part none := by
    refine ⟨hIdle, fun hNone => ?_, rfl, rfl, fun {link} hLink => ?_, fun {link} hLink => ?_, ?_⟩
    · cases hNone
    · show ((cut.markFrom name).flow link).count .mark = _
      rw [count_markFrom hLink]
      by_cases hSource : link.source = name
      · rw [if_pos hSource, if_pos hSource, hAccounted.count_mark hLink,
          expected_eq_zero (Or.inl (hSource.symm ▸ hIdle))]
      · simp [hSource]
    · show (cut.markFrom name).flow link = []
      rw [flow_markFrom_of_not_linked hLink]
      exact hAccounted.flow_eq_nil hLink
    · simp [hAwaits]
  exact hJoins.accounted hAccounted

theorem first {link : Link} {rest : List Item} {part : Part} (hAccounted : cut.Accounted)
    (hFlow : cut.flow link = .mark :: rest) (hIdle : cut.part link.target = none)
    (hAwaits : ∀ source, source ∈ part.awaits ↔
      cut.linked ⟨source, link.target⟩ = true ∧ source ≠ link.source) :
    (((cut.setFlow link rest).markFrom link.target).setPart link.target part).Accounted := by
  obtain ⟨hLinked, hSource, -, hNone⟩ := hAccounted.of_flow_eq_mark hFlow
  have hDistinct : link.source ≠ link.target := fun hEqual => by
    rw [hEqual, hIdle] at hSource
    cases hSource
  have hJoins : Joins cut (((cut.setFlow link rest).markFrom link.target).setPart link.target part)
      link.target part (some link.source) := by
    refine ⟨hIdle, ?_, rfl, rfl, fun {other} hOther => ?_, fun {other} hOther => ?_, ?_⟩
    · rintro source ⟨⟩
      exact hSource
    · have hKept : (cut.setFlow link rest).linked other = true := hOther
      show (((cut.setFlow link rest).markFrom link.target).flow other).count .mark = _
      rw [count_markFrom hKept, flow_setFlow]
      by_cases hAway : other.source = link.target
      · have hDifferent : link ≠ other := fun hEqual => hDistinct (hEqual ▸ hAway)
        rw [if_pos hAway, if_pos hAway, if_neg hDifferent, hAccounted.count_mark hOther,
          expected_eq_zero (Or.inl (hAway.symm ▸ hIdle))]
      · -- The link of the mark has lost its only mark, and all others are as they were.
        rw [if_neg hAway, if_neg hAway, Nat.add_zero]
        by_cases hEqual : link = other
        · subst hEqual
          rw [if_pos rfl, if_pos ⟨rfl, rfl⟩, hNone]
        · have hOpen : ¬ (other.target = link.target ∧ some link.source = some other.source) :=
            fun hBoth => hEqual (Link.ext (Option.some.inj hBoth.2) hBoth.1.symm)
          rw [if_neg hEqual, if_neg hOpen]
    · have hKept : ¬ (cut.setFlow link rest).linked other = true := hOther
      exact (flow_markFrom_of_not_linked hKept).trans
        (hAccounted.flow_setFlow_eq_nil hLinked hOther rest)
    · intro source
      rw [hAwaits, ne_eq, ne_eq, Option.some.injEq, eq_comm (a := source)]
  exact hJoins.accounted hAccounted

theorem next {link : Link} {rest : List Item} {part : Part} (hAccounted : cut.Accounted)
    (hFlow : cut.flow link = .mark :: rest) (hPart : cut.part link.target = some part) :
    ((cut.setFlow link rest).setPart link.target (part.see link.source)).Accounted := by
  obtain ⟨hLinked, hSource, hOpen, hNone⟩ := hAccounted.of_flow_eq_mark hFlow
  -- Only the link of the mark is closed by it.
  have hClosed : ∀ other,
      ((cut.setFlow link rest).setPart link.target (part.see link.source)).isClosed other =
        (decide (link = other) || cut.isClosed other) := by
    intro other
    rw [isClosed_setPart]
    by_cases hTarget : link.target = other.target
    · have hSame : decide (link = other) = decide (other.source = link.source) := by
        rw [decide_eq_decide, Link.ext_iff]
        exact ⟨fun hBoth => hBoth.1.symm, fun hEqual => ⟨hEqual.symm, hTarget⟩⟩
      rw [if_pos hTarget, hSame]
      unfold isClosed Part.see
      rw [← hTarget, hPart]
      by_cases hEqual : other.source = link.source <;> simp [hEqual]
    · have hDifferent : link ≠ other := fun hEqual => hTarget (congrArg Link.target hEqual)
      rw [if_neg hTarget, isClosed_setFlow, decide_eq_false hDifferent, Bool.false_or]
  have hSome : ∀ name,
      (((cut.setFlow link rest).setPart link.target (part.see link.source)).part name).isSome =
        (cut.part name).isSome :=
    isSome_part_setPart_of_some hPart (part.see link.source)
  refine ⟨fun {other} hOther => ?_, fun {other} hOther hShut => ?_,
    fun hOther => hAccounted.flow_setFlow_eq_nil hLinked hOther rest,
    fun {name source found} hFound hMember => ?_⟩
  · show (if link = other then rest else cut.flow other).count .mark = _
    by_cases hEqual : link = other
    · rw [if_pos hEqual, hNone]
      exact (expected_eq_zero (Or.inr (by rw [hClosed, decide_eq_true hEqual, Bool.true_or]))).symm
    · rw [if_neg hEqual, hAccounted.count_mark hOther]
      unfold expected
      rw [hClosed, hSome, decide_eq_false hEqual, Bool.false_or]
  · rw [hSome]
    rw [hClosed, Bool.or_eq_true, decide_eq_true_iff] at hShut
    rcases hShut with hEqual | hShut
    · exact hEqual ▸ hSource
    · exact hAccounted.source_joined hOther hShut
  · replace hFound : (if link.target = name then some (part.see link.source)
        else cut.part name) = some found := hFound
    split at hFound
    · next hEqual =>
      cases hFound
      exact hAccounted.awaits_linked (hEqual ▸ hPart) (List.mem_filter.mp hMember).1
    · exact hAccounted.awaits_linked hFound hMember

end Accounted

/-- Each step keeps the marks accounted for. -/
theorem Accounted.step {snapshot : SnapshotId} {after : Cut} {happenings : List Happening}
    (hAccounted : cut.Accounted) (hStep : Step snapshot cut happenings after) :
    after.Accounted := by
  cases hStep with
  | idle => exact hAccounted
  | announce name opened => exact hAccounted
  | other hOther => exact hAccounted
  | addNode tokens hNew hIdle =>
      exact ⟨hAccounted.count_mark, hAccounted.source_joined, hAccounted.flow_eq_nil,
        hAccounted.awaits_linked⟩
  | addLink link hIdle => exact hAccounted.addLink link hIdle
  | send hLinked hBalance hEnough =>
      obtain ⟨hCount, hJoined, hNil, hAwaits⟩ := hAccounted.send hLinked
      exact ⟨hCount, hJoined, hNil, hAwaits⟩
  | deliver hFlow hBalance hSum =>
      obtain ⟨hCount, hJoined, hNil, hAwaits⟩ := hAccounted.deliver hFlow
      exact ⟨hCount, hJoined, hNil, hAwaits⟩
  | join hIdle hBalance hEmpty hAwaits => exact hAccounted.join hIdle hAwaits
  | first hFlow hIdle hBalance hEmpty hAwaits => exact hAccounted.first hFlow hIdle hAwaits
  | next hFlow hPart => exact hAccounted.next hFlow hPart

/-! ### Who takes part -/

theorem count_joined_of_idle {snapshot : SnapshotId} {part : Part} {name : String}
    (hIdle : cut.part name = none) (other : String) :
    [Happening.joined name snapshot].count (.joined other snapshot) +
      (cut.part other).isSome.toNat = ((cut.setPart name part).part other).isSome.toNat := by
  rw [isSome_part_setPart, List.count_singleton]
  by_cases hName : name = other
  · subst hName
    simp [hIdle]
  · simp [hName]

/-- A node takes part from the step in which it joins. -/
theorem Step.count_joined {snapshot : SnapshotId} {after : Cut} {happenings : List Happening}
    (hStep : Step snapshot cut happenings after) (name : String) :
    happenings.count (.joined name snapshot) + (cut.part name).isSome.toNat =
      (after.part name).isSome.toNat := by
  cases hStep with
  | idle => exact Nat.zero_add _
  | announce => exact Nat.zero_add _
  | other hOther =>
      rw [List.count_eq_zero_of_not_mem (by simp [Ne.symm hOther]), Nat.zero_add]
  | addNode tokens hNew hIdle => exact Nat.zero_add _
  | addLink link hIdle => exact Nat.zero_add _
  | send hLinked hBalance hEnough => exact Nat.zero_add _
  | deliver hFlow hBalance hSum =>
      rw [isSome_part_noteAt]
      exact Nat.zero_add _
  | join hIdle hBalance hEmpty hAwaits => exact count_joined_of_idle hIdle name
  | first hFlow hIdle hBalance hEmpty hAwaits => exact count_joined_of_idle hIdle name
  | @next link rest part hFlow hPart =>
      have hSame : (((cut.setFlow link rest).setPart link.target (part.see link.source)).part
          name).isSome = (cut.part name).isSome := isSome_part_setPart_of_some hPart _ name
      rw [hSame]
      exact Nat.zero_add _

/-- Whoever takes part goes on doing so. -/
theorem Step.isSome_part {snapshot : SnapshotId} {after : Cut} {happenings : List Happening}
    (hStep : Step snapshot cut happenings after) {name : String}
    (hJoined : (cut.part name).isSome = true) : (after.part name).isSome = true := by
  have hCount := hStep.count_joined name
  rw [hJoined] at hCount
  cases hAfter : (after.part name).isSome with
  | true => rfl
  | false =>
      rw [hAfter] at hCount
      exact absurd hCount (Nat.succ_ne_zero _)

/-- When a node joins, it takes part, no other node does so for the first time, and no balance
changes. -/
theorem Step.joined {snapshot : SnapshotId} {after : Cut} {name : String}
    (hStep : Step snapshot cut [.joined name snapshot] after) :
    after.balance = cut.balance ∧ (after.part name).isSome = true ∧
      ∀ other, other ≠ name → after.part other = cut.part other := by
  have hOthers : ∀ {part : Part} {other}, other ≠ name →
      (if name = other then some part else cut.part other) = cut.part other :=
    fun hOther => if_neg (Ne.symm hOther)
  cases hStep with
  | other hOther => exact absurd rfl hOther
  | join hIdle hBalance hEmpty hAwaits =>
      refine ⟨rfl, ?_, fun other hOther => hOthers hOther⟩
      rw [isSome_part_setPart, decide_eq_true rfl, Bool.true_or]
  | first hFlow hIdle hBalance hEmpty hAwaits =>
      refine ⟨rfl, ?_, fun other hOther => hOthers hOther⟩
      rw [isSome_part_setPart, decide_eq_true rfl, Bool.true_or]

/-! ### What is there -/

/-- Links stay. -/
theorem Step.linked_of_linked {snapshot : SnapshotId} {after : Cut} {happenings : List Happening}
    (hStep : Step snapshot cut happenings after) {link : Link}
    (hLinked : cut.linked link = true) : after.linked link = true := by
  cases hStep with
  | addLink other hIdle =>
      show (decide (other = link) || cut.linked link) = true
      rw [hLinked, Bool.or_true]
  | _ => exact hLinked

/-- Links are added only while nobody takes part. -/
theorem Step.linked_eq_or {snapshot : SnapshotId} {after : Cut} {happenings : List Happening}
    (hStep : Step snapshot cut happenings after) :
    after.linked = cut.linked ∨ happenings = [] ∧ ∀ name, cut.part name = none := by
  cases hStep with
  | addLink other hIdle => exact Or.inr ⟨rfl, hIdle⟩
  | _ => exact Or.inl rfl

/-- Nodes stay, and none is added from within. -/
theorem Step.isSome_balance {snapshot : SnapshotId} {after : Cut} {happenings : List Happening}
    (hStep : Step snapshot cut happenings after) (hInner : Inner happenings) (name : String) :
    (after.balance name).isSome = (cut.balance name).isSome := by
  have hKnown : ∀ {other : String} {old balance : UInt64}, cut.balance other = some old →
      ((cut.setBalance other balance).balance name).isSome = (cut.balance name).isSome := by
    intro other old balance hOld
    unfold setBalance
    by_cases hName : other = name
    · rw [← hName, hOld]
      simp
    · simp [hName]
  cases hStep with
  | addNode tokens hNew hIdle => exact absurd (hInner _ List.mem_cons_self) Bool.false_ne_true
  | send hLinked hBalance hEnough => exact hKnown hBalance
  | deliver hFlow hBalance hSum => exact hKnown hBalance
  | _ => rfl

end Cut
end TokenNet
