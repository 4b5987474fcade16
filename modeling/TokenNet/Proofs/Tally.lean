import TokenNet.Proofs.Ledger
import TokenNet.Proofs.Marks

namespace TokenNet

/-!
# Cuts and ledgers

The ledger of what comes before the cut of a snapshot tallies with the cut
(`Cut.Tallied`): it has the balances that the nodes had when they took part, and on each link
the amounts that its receiver has written down, followed by those still ahead of the mark.
Every step of a cut keeps this (`Cut.Tallied.step`).
-/

/-- Amounts that are not zero. -/
def paying (amounts : List UInt64) : List UInt64 := amounts.filter fun amount => 0 < amount

theorem paying_append (left right : List UInt64) :
    paying (left ++ right) = paying left ++ paying right :=
  List.filter_append ..

namespace Part

/-- The amounts that a node has written down for one of its sources. -/
def amountsFrom (part : Part) (source : String) : List UInt64 :=
  (part.inFlight.filter fun transfer => transfer.source = source).map Transfer.amount

theorem balance_note (transfer : Transfer) (part : Part) :
    (part.note transfer).balance = part.balance := by
  unfold note
  split <;> rfl

theorem amountsFrom_note (transfer : Transfer) (part : Part) (source : String) :
    (part.note transfer).amountsFrom source = part.amountsFrom source ++
      if transfer.source = source ∧ source ∈ part.awaits then paying [transfer.amount] else [] := by
  unfold note
  by_cases hSource : transfer.source = source
  · by_cases hAwaits : source ∈ part.awaits
    · by_cases hAmount : 0 < transfer.amount <;>
        simp [hSource, hAwaits, hAmount, amountsFrom, paying]
    · simp [hSource, hAwaits]
  · by_cases hNoted : transfer.source ∈ part.awaits ∧ 0 < transfer.amount <;>
      simp [hSource, hNoted, amountsFrom]

theorem mem_inFlight_note {transfer other : Transfer} {part : Part}
    (hMember : other ∈ (part.note transfer).inFlight) :
    other ∈ part.inFlight ∨ other = transfer ∧ 0 < transfer.amount := by
  unfold note at hMember
  split at hMember
  · next hNoted =>
    rcases List.mem_append.mp hMember with hOld | hNew
    · exact Or.inl hOld
    · exact Or.inr ⟨List.mem_singleton.mp hNew, hNoted.2⟩
  · exact Or.inl hMember

end Part

namespace Cut

/-- The ledger agrees with what the cut says of the past of each node and link. -/
structure Tallied (cut : Cut) (ledger : Ledger) : Prop where
  /-- A node that does not take part holds what the ledger says. -/
  balance_idle : ∀ {name}, cut.part name = none →
    ledger.balances.get? name = cut.balance name
  /-- A node that takes part held what the ledger says. -/
  balance_part : ∀ {name part}, cut.part name = some part →
    ledger.balances.get? name = some part.balance
  /-- If the target does not take part, what is under way is ahead of the mark. -/
  queue_idle : ∀ {link}, cut.part link.target = none →
    ledger.queue link = ahead (cut.flow link)
  /-- If the target takes part, what was under way has been written down or is still ahead of
  the mark. -/
  queue_part : ∀ {link part}, cut.part link.target = some part →
    paying (ledger.queue link) = part.amountsFrom link.source ++
      if link.source ∈ part.awaits then paying (ahead (cut.flow link)) else []
  /-- What has been written down came to its node and carries tokens. -/
  in_flight : ∀ {name part transfer}, cut.part name = some part → transfer ∈ part.inFlight →
    transfer.target = name ∧ 0 < transfer.amount

variable {cut : Cut} {ledger : Ledger}

/-- Tokens sent on a link whose target still awaits the mark are ahead of the mark exactly if
the sender does not take part. -/
theorem Accounted.ahead_send {link : Link} (hAccounted : cut.Accounted)
    (hLinked : cut.linked link = true) (hOpen : cut.isClosed link = false) (amount : UInt64) :
    ahead (cut.flow link ++ [.tokens amount]) =
      ahead (cut.flow link) ++ if (cut.part link.source).isSome then [] else [amount] := by
  rw [ahead_append_tokens, hAccounted.count_mark hLinked]
  unfold expected
  rw [hOpen]
  cases (cut.part link.source).isSome <;> rfl

/-- A link is open as long as its source does not take part. -/
theorem Accounted.isClosed_eq_false {link : Link} (hAccounted : cut.Accounted)
    (hLinked : cut.linked link = true) (hIdle : cut.part link.source = none) :
    cut.isClosed link = false := by
  apply Bool.eq_false_iff.mpr
  intro hClosed
  have hJoined := hAccounted.source_joined hLinked hClosed
  rw [hIdle] at hJoined
  cases hJoined

theorem isClosed_of_part {link : Link} {part : Part} (hPart : cut.part link.target = some part) :
    cut.isClosed link = decide (link.source ∉ part.awaits) := by
  unfold isClosed
  rw [hPart]

theorem isClosed_of_idle {link : Link} (hIdle : cut.part link.target = none) :
    cut.isClosed link = false := by
  unfold isClosed
  rw [hIdle]

theorem mem_awaits_of_isClosed_eq_false {link : Link} {part : Part}
    (hPart : cut.part link.target = some part) (hOpen : cut.isClosed link = false) :
    link.source ∈ part.awaits := by
  rw [isClosed_of_part hPart, decide_eq_false_iff_not, Decidable.not_not] at hOpen
  exact hOpen

theorem ahead_markFrom (name : String) (link : Link) :
    ahead ((cut.markFrom name).flow link) = ahead (cut.flow link) := by
  unfold markFrom
  simp only
  split
  · exact ahead_append_mark _
  · rfl

namespace Tallied

/-- A node that does not take part sends tokens, and the ledger follows. -/
theorem send_idle {link : Link} {amount : UInt64} (hTallied : cut.Tallied ledger)
    (hAccounted : cut.Accounted) (hLinked : cut.linked link = true)
    (hIdle : cut.part link.source = none) (left : UInt64) :
    ((cut.setBalance link.source left).setFlow link (cut.flow link ++ [.tokens amount])).Tallied
      ((ledger.setBalance link.source left).setQueue link (ledger.queue link ++ [amount])) := by
  -- The link carries no mark, so the tokens are ahead of the one to come.
  have hOpen := hAccounted.isClosed_eq_false hLinked hIdle
  have hAhead := hAccounted.ahead_send hLinked hOpen amount
  rw [hIdle, Option.isSome_none, if_neg Bool.false_ne_true] at hAhead
  refine ⟨fun {name} hName => ?_, fun {name part} hPart => ?_, fun {other} hOther => ?_,
    fun {other part} hPart => ?_, hTallied.in_flight⟩
  · refine (Ledger.get?_balances_setBalance ..).trans ?_
    show _ = if link.source = name then some left else cut.balance name
    rw [hTallied.balance_idle hName]
  · refine (Ledger.get?_balances_setBalance ..).trans ?_
    rw [if_neg (ne_of_part hIdle hPart)]
    exact hTallied.balance_part hPart
  · rw [Ledger.queue_setQueue, flow_setFlow]
    split
    · next hEqual =>
      rw [hAhead, hTallied.queue_idle (hEqual ▸ hOther)]
    · exact hTallied.queue_idle hOther
  · rw [Ledger.queue_setQueue, flow_setFlow]
    split
    · next hEqual =>
      subst hEqual
      have hAwaits : link.source ∈ part.awaits :=
        mem_awaits_of_isClosed_eq_false hPart hOpen
      have hOld := hTallied.queue_part hPart
      rw [if_pos hAwaits] at hOld ⊢
      rw [hAhead, paying_append, paying_append, hOld, List.append_assoc]
    · exact hTallied.queue_part hPart

/-- A node that takes part sends tokens, which the ledger leaves out. -/
theorem send_joined {link : Link} {amount : UInt64} (hTallied : cut.Tallied ledger)
    (hAccounted : cut.Accounted) (hLinked : cut.linked link = true)
    (hJoined : (cut.part link.source).isSome = true) (left : UInt64) :
    ((cut.setBalance link.source left).setFlow link
      (cut.flow link ++ [.tokens amount])).Tallied ledger := by
  obtain ⟨joined, hSource⟩ := Option.isSome_iff_exists.mp hJoined
  -- If the mark of the sender is still awaited, it is on the link, ahead of the tokens.
  have hAhead : cut.isClosed link = false →
      ahead (cut.flow link ++ [.tokens amount]) = ahead (cut.flow link) := fun hOpen => by
    rw [hAccounted.ahead_send hLinked hOpen, if_pos hJoined, List.append_nil]
  refine ⟨fun {name} hName => ?_, hTallied.balance_part, fun {other} hOther => ?_,
    fun {other part} hPart => ?_, hTallied.in_flight⟩
  · show _ = if link.source = name then some left else cut.balance name
    rw [if_neg (ne_of_part hName hSource).symm]
    exact hTallied.balance_idle hName
  · rw [flow_setFlow]
    split
    · next hEqual =>
      subst hEqual
      rw [hAhead (isClosed_of_idle hOther)]
      exact hTallied.queue_idle hOther
    · exact hTallied.queue_idle hOther
  · rw [flow_setFlow]
    have hOld := hTallied.queue_part hPart
    by_cases hAwaits : other.source ∈ part.awaits
    · rw [if_pos hAwaits] at hOld ⊢
      split
      · next hEqual =>
        subst hEqual
        have hOpen : cut.isClosed link = false :=
          (isClosed_of_part hPart).trans (decide_eq_false (not_not_intro hAwaits))
        rw [hAhead hOpen, hOld]
      · exact hOld
    · rw [if_neg hAwaits] at hOld ⊢
      exact hOld

theorem part_noteAt {transfer : Transfer} {name : String} {part : Part}
    (hPart : (cut.noteAt transfer).part name = some part) :
    ∃ old, cut.part name = some old ∧
      part = if transfer.target = name then old.note transfer else old := by
  replace hPart : (if transfer.target = name then (cut.part name).map (Part.note transfer)
    else cut.part name) = some part := hPart
  split at hPart
  · next hTarget =>
    obtain ⟨old, hOld, rfl⟩ := Option.map_eq_some_iff.mp hPart
    exact ⟨old, hOld, (if_pos hTarget).symm⟩
  · next hTarget => exact ⟨part, hPart, (if_neg hTarget).symm⟩

theorem part_noteAt_eq_none_iff {transfer : Transfer} {name : String} :
    (cut.noteAt transfer).part name = none ↔ cut.part name = none := by
  rw [← Option.not_isSome_iff_eq_none, isSome_part_noteAt, Option.not_isSome_iff_eq_none]

/-- Tokens come to a node that does not take part, and the ledger follows. -/
theorem deliver_idle {link : Link} {sum : UInt64} {rest : List Item}
    {transfer : Transfer} (hTallied : cut.Tallied ledger) (hIdle : cut.part link.target = none)
    (hTransfer : transfer.target = link.target) :
    (((cut.setFlow link rest).setBalance link.target sum).noteAt transfer).Tallied
      ((ledger.setBalance link.target sum).setQueue link (ahead rest)) := by
  have hSame : ∀ {name part}, (((cut.setFlow link rest).setBalance link.target sum).noteAt
      transfer).part name = some part → cut.part name = some part := by
    intro name part hPart
    obtain ⟨old, hOld, rfl⟩ := part_noteAt hPart
    rw [hTransfer, if_neg (ne_of_part hIdle hOld)]
    exact hOld
  refine ⟨fun {name} hName => ?_, fun {name part} hPart => ?_, fun {other} hOther => ?_,
    fun {other part} hPart => ?_, fun hPart => hTallied.in_flight (hSame hPart)⟩
  · refine (Ledger.get?_balances_setBalance ..).trans ?_
    show _ = if link.target = name then some sum else cut.balance name
    rw [hTallied.balance_idle (part_noteAt_eq_none_iff.mp hName)]
  · refine (Ledger.get?_balances_setBalance ..).trans ?_
    rw [if_neg (ne_of_part hIdle (hSame hPart))]
    exact hTallied.balance_part (hSame hPart)
  · show _ = ahead (if link = other then rest else cut.flow other)
    rw [Ledger.queue_setQueue]
    split
    · rfl
    · exact hTallied.queue_idle (part_noteAt_eq_none_iff.mp hOther)
  · have hOld := hSame hPart
    have hDifferent : link ≠ other := fun hEqual =>
      ne_of_part hIdle hOld (congrArg Link.target hEqual)
    show _ = _ ++ if other.source ∈ part.awaits then
      paying (ahead (if link = other then rest else cut.flow other)) else []
    rw [Ledger.queue_setQueue, if_neg hDifferent, if_neg hDifferent]
    exact hTallied.queue_part hOld

/-- What was at the head of a link is written down by its receiver, if that awaits the mark. -/
theorem queue_part_noted {link other : Link} {amount : UInt64} {rest : List Item} {kept : Part}
    (hTallied : cut.Tallied ledger) (hFlow : cut.flow link = .tokens amount :: rest)
    (hKept : cut.part other.target = some kept) :
    paying (ledger.queue other) =
      (if link.target = other.target then kept.note ⟨link.source, link.target, amount⟩
        else kept).amountsFrom other.source ++
      if other.source ∈ kept.awaits then
        paying (ahead (if link = other then rest else cut.flow other)) else [] := by
  have hBefore := hTallied.queue_part hKept
  by_cases hTarget : link.target = other.target
  · rw [if_pos hTarget, Part.amountsFrom_note]
    by_cases hSource : link.source = other.source
    · have hEqual : link = other := Link.ext hSource hTarget
      subst hEqual
      rw [hFlow] at hBefore
      rw [if_pos rfl, hBefore]
      by_cases hAwaits : link.source ∈ kept.awaits
      · rw [if_pos hAwaits, if_pos hAwaits, if_pos ⟨rfl, hAwaits⟩, List.append_assoc,
          ← paying_append]
        rfl
      · rw [if_neg hAwaits, if_neg hAwaits, if_neg fun hBoth => hAwaits hBoth.2, List.append_nil,
          List.append_nil]
    · have hDifferent : link ≠ other := fun hEqual => hSource (congrArg Link.source hEqual)
      rw [if_neg fun hBoth => hSource hBoth.1, if_neg hDifferent, List.append_nil]
      exact hBefore
  · have hDifferent : link ≠ other := fun hEqual => hTarget (congrArg Link.target hEqual)
    rw [if_neg hTarget, if_neg hDifferent]
    exact hBefore

/-- Tokens come to a node that takes part, which the ledger leaves out. -/
theorem deliver_joined {link : Link} {amount sum : UInt64} {rest : List Item} {old : Part}
    (hTallied : cut.Tallied ledger) (hFlow : cut.flow link = .tokens amount :: rest)
    (hPart : cut.part link.target = some old) :
    (((cut.setFlow link rest).setBalance link.target sum).noteAt
      ⟨link.source, link.target, amount⟩).Tallied ledger := by
  refine ⟨fun {name} hName => ?_, fun {name part} hName => ?_, fun {other} hOther => ?_,
    fun {other part} hOther => ?_, fun {name part transfer} hName hMember => ?_⟩
  · have hIdle : cut.part name = none := part_noteAt_eq_none_iff.mp hName
    show _ = if link.target = name then some sum else cut.balance name
    rw [if_neg (ne_of_part hIdle hPart).symm]
    exact hTallied.balance_idle hIdle
  · obtain ⟨kept, hKept, rfl⟩ := part_noteAt hName
    rw [hTallied.balance_part hKept]
    split
    · rw [Part.balance_note]
    · rfl
  · have hIdle : cut.part other.target = none := part_noteAt_eq_none_iff.mp hOther
    have hDifferent : link ≠ other := fun hEqual =>
      ne_of_part hIdle hPart (congrArg Link.target hEqual.symm)
    show _ = ahead (if link = other then rest else cut.flow other)
    rw [if_neg hDifferent]
    exact hTallied.queue_idle hIdle
  · obtain ⟨kept, hKept, rfl⟩ := part_noteAt hOther
    have hAwaits : (if link.target = other.target then
        kept.note ⟨link.source, link.target, amount⟩ else kept).awaits = kept.awaits := by
      split
      · exact awaits_note _ kept
      · rfl
    rw [hAwaits]
    exact hTallied.queue_part_noted hFlow hKept
  · obtain ⟨kept, hKept, rfl⟩ := part_noteAt hName
    split at hMember
    · next hTarget =>
      rcases Part.mem_inFlight_note hMember with hOld | ⟨rfl, hAmount⟩
      · exact hTallied.in_flight hKept hOld
      · exact ⟨hTarget, hAmount⟩
    · exact hTallied.in_flight hKept hMember

/-- A node takes part: its balance counts from now on as it is, and what is under way to it is
what it will write down. -/
theorem takePart {after : Cut} {name : String} {part : Part} (hTallied : cut.Tallied ledger)
    (hIdle : cut.part name = none) (hBalance : cut.balance name = some part.balance)
    (hEmpty : part.inFlight = []) (hBalances : after.balance = cut.balance)
    (hPart : after.part = (cut.setPart name part).part)
    (hAhead : ∀ link, link.target ≠ name ∨ link.source ∈ part.awaits →
      ahead (after.flow link) = ahead (cut.flow link))
    (hNone : ∀ link, link.target = name → link.source ∉ part.awaits →
      ahead (cut.flow link) = []) : after.Tallied ledger := by
  have hParts : ∀ other, after.part other =
      if name = other then some part else cut.part other := fun other => congrFun hPart other
  refine ⟨fun {other} hOther => ?_, fun {other found} hOther => ?_, fun {link} hLink => ?_,
    fun {link found} hLink => ?_, fun {other found transfer} hOther hMember => ?_⟩
  · rw [hParts] at hOther
    split at hOther
    · cases hOther
    · rw [hBalances]
      exact hTallied.balance_idle hOther
  · rw [hParts] at hOther
    split at hOther
    · next hEqual =>
      cases hOther
      subst hEqual
      exact (hTallied.balance_idle hIdle).trans hBalance
    · exact hTallied.balance_part hOther
  · rw [hParts] at hLink
    split at hLink
    · cases hLink
    · next hDifferent =>
      rw [hAhead link (Or.inl (Ne.symm hDifferent))]
      exact hTallied.queue_idle hLink
  · rw [hParts] at hLink
    split at hLink
    · next hEqual =>
      cases hLink
      -- Nothing has been written down yet, so what is ahead of the mark is all there is.
      have hNothing : part.amountsFrom link.source = [] := by
        unfold Part.amountsFrom
        rw [hEmpty]
        rfl
      rw [hNothing, List.nil_append, hTallied.queue_idle (hEqual ▸ hIdle)]
      split
      · next hAwaits => rw [hAhead link (Or.inr hAwaits)]
      · next hSeen =>
        rw [hNone link hEqual.symm hSeen]
        rfl
    · next hDifferent =>
      rw [hAhead link (Or.inl (Ne.symm hDifferent))]
      exact hTallied.queue_part hLink
  · rw [hParts] at hOther
    split at hOther
    · cases hOther
      rw [hEmpty] at hMember
      exact absurd hMember List.not_mem_nil
    · exact hTallied.in_flight hOther hMember

/-- A mark that has come is no longer awaited, and nothing else changes. -/
theorem part_see {link : Link} {part found : Part} {name : String}
    (hPart : cut.part link.target = some part)
    (hFound : (cut.setPart link.target (part.see link.source)).part name = some found) :
    ∃ old, cut.part name = some old ∧ found.balance = old.balance ∧
      found.inFlight = old.inFlight ∧
      ∀ source, source ∈ found.awaits ↔ source ∈ old.awaits ∧ link ≠ ⟨source, name⟩ := by
  replace hFound : (if link.target = name then some (part.see link.source)
    else cut.part name) = some found := hFound
  split at hFound
  · next hTarget =>
    cases hFound
    refine ⟨part, hTarget ▸ hPart, rfl, rfl, fun source => ?_⟩
    have hSame : link ≠ ⟨source, name⟩ ↔ source ≠ link.source := by
      rw [ne_eq, Link.ext_iff, ne_eq]
      exact not_congr ⟨fun hBoth => hBoth.1.symm, fun hEqual => ⟨hEqual.symm, hTarget⟩⟩
    rw [hSame]
    simp [Part.see]
  · next hTarget =>
    refine ⟨found, hFound, rfl, rfl, fun source => (and_iff_left fun hEqual => ?_).symm⟩
    exact hTarget (congrArg Link.target hEqual)

theorem part_setPart_eq_none_iff {name other : String} {part : Part} :
    (cut.setPart name part).part other = none ↔ name ≠ other ∧ cut.part other = none := by
  unfold setPart
  by_cases hName : name = other <;> simp [hName]

/-- A mark closes its link: nothing more is written down for it. -/
theorem next {link : Link} {rest : List Item} {part : Part} (hTallied : cut.Tallied ledger)
    (hFlow : cut.flow link = .mark :: rest) (hPart : cut.part link.target = some part) :
    ((cut.setFlow link rest).setPart link.target (part.see link.source)).Tallied ledger := by
  refine ⟨fun hName => hTallied.balance_idle (part_setPart_eq_none_iff.mp hName).2,
    fun {name found} hName => ?_, fun {other} hOther => ?_, fun {other found} hOther => ?_,
    fun hName hMember => ?_⟩
  · obtain ⟨old, hOld, hBalance, -, -⟩ := part_see hPart hName
    rw [hBalance]
    exact hTallied.balance_part hOld
  · obtain ⟨hTarget, hIdle⟩ := part_setPart_eq_none_iff.mp hOther
    have hDifferent : link ≠ other := fun hEqual => hTarget (congrArg Link.target hEqual)
    show _ = ahead (if link = other then rest else cut.flow other)
    rw [if_neg hDifferent]
    exact hTallied.queue_idle hIdle
  · obtain ⟨old, hOld, -, hInFlight, hAwaits⟩ := part_see hPart hOther
    have hBefore := hTallied.queue_part hOld
    have hAmounts : found.amountsFrom other.source = old.amountsFrom other.source := by
      unfold Part.amountsFrom
      rw [hInFlight]
    show _ = _ ++ if other.source ∈ found.awaits then
      paying (ahead (if link = other then rest else cut.flow other)) else []
    rw [hAmounts, hBefore]
    by_cases hEqual : link = other
    · -- Nothing is ahead of a mark that has reached its receiver.
      subst hEqual
      rw [if_neg fun hAwaited => ((hAwaits _).mp hAwaited).2 rfl, hFlow]
      split <;> rfl
    · have hSame : other.source ∈ found.awaits ↔ other.source ∈ old.awaits :=
        (hAwaits _).trans (and_iff_left hEqual)
      simp only [hSame, if_neg hEqual]
  · obtain ⟨old, hOld, -, hInFlight, -⟩ := part_see hPart hName
    exact hTallied.in_flight hOld (hInFlight ▸ hMember)

/-- A node is added, and the ledger follows. -/
theorem addNode {name : String} (hTallied : cut.Tallied ledger) (hIdle : cut.part name = none)
    (tokens : UInt64) :
    (cut.setBalance name tokens).Tallied (ledger.setBalance name tokens) := by
  refine ⟨fun {other} hOther => ?_, fun {other part} hPart => ?_, hTallied.queue_idle,
    hTallied.queue_part, hTallied.in_flight⟩
  · refine (Ledger.get?_balances_setBalance ..).trans ?_
    show _ = if name = other then some tokens else cut.balance other
    rw [hTallied.balance_idle hOther]
  · refine (Ledger.get?_balances_setBalance ..).trans ?_
    rw [if_neg (ne_of_part hIdle hPart)]
    exact hTallied.balance_part hPart

theorem join {name : String} {part : Part} (hTallied : cut.Tallied ledger)
    (hAccounted : cut.Accounted) (hIdle : cut.part name = none)
    (hBalance : cut.balance name = some part.balance) (hEmpty : part.inFlight = [])
    (hAwaits : ∀ source, source ∈ part.awaits ↔ cut.linked ⟨source, name⟩ = true) :
    ((cut.markFrom name).setPart name part).Tallied ledger := by
  refine hTallied.takePart hIdle hBalance hEmpty rfl rfl (fun link _ => ahead_markFrom ..)
    fun link hTarget hSeen => ?_
  rw [hAccounted.flow_eq_nil fun hLinked => hSeen ((hAwaits _).mpr (hTarget ▸ hLinked))]
  rfl

theorem first {link : Link} {rest : List Item} {part : Part} (hTallied : cut.Tallied ledger)
    (hAccounted : cut.Accounted) (hFlow : cut.flow link = .mark :: rest)
    (hIdle : cut.part link.target = none) (hBalance : cut.balance link.target = some part.balance)
    (hEmpty : part.inFlight = [])
    (hAwaits : ∀ source, source ∈ part.awaits ↔
      cut.linked ⟨source, link.target⟩ = true ∧ source ≠ link.source) :
    (((cut.setFlow link rest).markFrom link.target).setPart link.target part).Tallied ledger := by
  refine hTallied.takePart hIdle hBalance hEmpty rfl rfl (fun other hOther => ?_)
    fun other hTarget hSeen => ?_
  · -- A link whose mark is awaited, or that leads to another node, is not the one of the mark.
    have hDifferent : link ≠ other := by
      rintro rfl
      rcases hOther with hTarget | hAwaited
      · exact hTarget rfl
      · exact ((hAwaits _).mp hAwaited).2 rfl
    apply (ahead_markFrom ..).trans
    rw [flow_setFlow, if_neg hDifferent]
  · by_cases hEqual : link = other
    · rw [← hEqual, hFlow]
      rfl
    · have hSource : other.source ≠ link.source := fun hSame =>
        hEqual (Link.ext hSame.symm hTarget.symm)
      rw [hAccounted.flow_eq_nil fun hLinked =>
        hSeen ((hAwaits _).mpr ⟨hTarget ▸ hLinked, hSource⟩)]
      rfl

end Tallied

theorem mem_passedAfter_joined {snapshot : SnapshotId} {passed : List String}
    {name other : String} :
    other ∈ passedAfter snapshot passed [.joined name snapshot] ↔ name = other ∨ other ∈ passed := by
  show other ∈ (if snapshot = snapshot then name :: passed else passed) ↔ _
  rw [if_pos rfl, List.mem_cons, eq_comm]

/-- Tokens leave a node: the ledger follows if the node does not take part yet. -/
theorem Tallied.step_send {link : Link} {amount balance : UInt64} {passed : List String}
    (hTallied : cut.Tallied ledger) (hAccounted : cut.Accounted)
    (hPassed : ∀ name, name ∈ passed ↔ (cut.part name).isSome = true)
    (hLinked : cut.linked link = true) (hBalance : cut.balance link.source = some balance)
    (hEnough : amount ≤ balance) (snapshot : SnapshotId) :
    ∃ later, ledger.replay (beforeCut snapshot passed [.sent link amount]) = some later ∧
      ((cut.setBalance link.source (balance - amount)).setFlow link
        (cut.flow link ++ [.tokens amount])).Tallied later := by
  rw [beforeCut_singleton]
  -- What is sent by a node that takes part comes after the cut.
  by_cases hJoined : (cut.part link.source).isSome = true
  · have hKept : (Happening.sent link amount).isBefore passed = false :=
      decide_eq_false (not_not_intro ((hPassed _).mpr hJoined))
    rw [hKept, if_neg Bool.false_ne_true]
    exact ⟨ledger, rfl, hTallied.send_joined hAccounted hLinked hJoined _⟩
  · have hIdle : cut.part link.source = none := Option.not_isSome_iff_eq_none.mp hJoined
    have hKept : (Happening.sent link amount).isBefore passed = true :=
      decide_eq_true fun hMember => hJoined ((hPassed _).mp hMember)
    have hSent : ledger.send link amount = some ((ledger.setBalance link.source
        (balance - amount)).setQueue link (ledger.queue link ++ [amount])) :=
      Ledger.send_eq_some_iff.mpr
        ⟨balance, (hTallied.balance_idle hIdle).trans hBalance, hEnough, rfl⟩
    rw [hKept, if_pos rfl, Ledger.replay_singleton]
    exact ⟨_, hSent, hTallied.send_idle hAccounted hLinked hIdle _⟩

/-- Tokens come to a node: the ledger follows if the node does not take part yet. -/
theorem Tallied.step_deliver {link : Link} {amount balance sum : UInt64} {rest : List Item}
    {passed : List String} (hTallied : cut.Tallied ledger)
    (hPassed : ∀ name, name ∈ passed ↔ (cut.part name).isSome = true)
    (hFlow : cut.flow link = .tokens amount :: rest)
    (hBalance : cut.balance link.target = some balance)
    (hSum : checkedAdd balance amount = .ok sum) (snapshot : SnapshotId) :
    ∃ later, ledger.replay (beforeCut snapshot passed [.delivered link amount]) = some later ∧
      (((cut.setFlow link rest).setBalance link.target sum).noteAt
        ⟨link.source, link.target, amount⟩).Tallied later := by
  rw [beforeCut_singleton]
  cases hPart : cut.part link.target with
  | some part =>
      have hKept : (Happening.delivered link amount).isBefore passed = false :=
        decide_eq_false (not_not_intro ((hPassed _).mpr (hPart ▸ rfl)))
      rw [hKept, if_neg Bool.false_ne_true]
      exact ⟨ledger, rfl, hTallied.deliver_joined hFlow hPart⟩
  | none =>
      have hKept : (Happening.delivered link amount).isBefore passed = true :=
        decide_eq_true fun hMember =>
          Option.not_isSome_iff_eq_none.mpr hPart ((hPassed _).mp hMember)
      have hQueue : ledger.queue link = amount :: ahead rest := by
        rw [hTallied.queue_idle hPart, hFlow]
        rfl
      have hDelivered : ledger.deliver link amount =
          some ((ledger.setBalance link.target sum).setQueue link (ahead rest)) :=
        Ledger.deliver_eq_some_iff.mpr ⟨ahead rest, balance, sum, hQueue,
          (hTallied.balance_idle hPart).trans hBalance, hSum, rfl⟩
      rw [hKept, if_pos rfl, Ledger.replay_singleton]
      exact ⟨_, hDelivered, hTallied.deliver_idle hPart rfl⟩

/-- Each step keeps cut and ledger in agreement, if the ledger is carried on by what comes
before the cut. -/
theorem Tallied.step {snapshot : SnapshotId} {after : Cut} {happenings : List Happening}
    {passed : List String} (hTallied : cut.Tallied ledger) (hAccounted : cut.Accounted)
    (hPassed : ∀ name, name ∈ passed ↔ (cut.part name).isSome = true)
    (hStep : Step snapshot cut happenings after) :
    (∃ later, ledger.replay (beforeCut snapshot passed happenings) = some later ∧
      after.Tallied later) ∧
      ∀ name, name ∈ passedAfter snapshot passed happenings ↔ (after.part name).isSome = true := by
  cases hStep with
  | idle => exact ⟨⟨ledger, rfl, hTallied⟩, hPassed⟩
  | announce name opened => exact ⟨⟨ledger, rfl, hTallied⟩, hPassed⟩
  | @other name joined hOther =>
      refine ⟨⟨ledger, rfl, hTallied⟩, ?_⟩
      show ∀ other, other ∈ (if joined = snapshot then name :: passed else passed) ↔ _
      rw [if_neg hOther]
      exact hPassed
  | @addNode name tokens hNew hIdle =>
      have hAdded : ledger.add name tokens = some (ledger.setBalance name tokens) :=
        Ledger.add_eq_some_iff.mpr ⟨(hTallied.balance_idle hIdle).trans hNew, rfl⟩
      exact ⟨⟨_, (Ledger.replay_singleton ..).trans hAdded, hTallied.addNode hIdle tokens⟩, hPassed⟩
  | addLink link hIdle =>
      exact ⟨⟨ledger, rfl, hTallied.balance_idle, hTallied.balance_part, hTallied.queue_idle,
        hTallied.queue_part, hTallied.in_flight⟩, hPassed⟩
  | send hLinked hBalance hEnough =>
      exact ⟨hTallied.step_send hAccounted hPassed hLinked hBalance hEnough snapshot, hPassed⟩
  | deliver hFlow hBalance hSum =>
      refine ⟨hTallied.step_deliver hPassed hFlow hBalance hSum snapshot, fun name => ?_⟩
      rw [isSome_part_noteAt]
      exact hPassed name
  | @join name part hIdle hBalance hEmpty hAwaits =>
      refine ⟨⟨ledger, rfl, hTallied.join hAccounted hIdle hBalance hEmpty hAwaits⟩, fun other => ?_⟩
      rw [mem_passedAfter_joined, isSome_part_setPart, Bool.or_eq_true, decide_eq_true_iff, hPassed]
      rfl
  | @first link rest part hFlow hIdle hBalance hEmpty hAwaits =>
      refine ⟨⟨ledger, rfl, hTallied.first hAccounted hFlow hIdle hBalance hEmpty hAwaits⟩,
        fun other => ?_⟩
      rw [mem_passedAfter_joined, isSome_part_setPart, Bool.or_eq_true, decide_eq_true_iff, hPassed]
      rfl
  | @next link rest part hFlow hPart =>
      refine ⟨⟨ledger, rfl, hTallied.next hFlow hPart⟩, fun name => ?_⟩
      exact (hPassed name).trans (Bool.eq_iff_iff.mp
        (isSome_part_setPart_of_some hPart (part.see link.source) name)).symm

end Cut

end TokenNet
