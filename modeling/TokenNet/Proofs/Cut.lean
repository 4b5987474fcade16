import TokenNet.Proofs.Run

namespace TokenNet

/-!
# The cut of one snapshot

A `Cut` is what one snapshot sees of a network: the balances of the nodes, the tokens and
the marks of this snapshot on each link, and for each node that takes part what it has
recorded.  `Cut.Step` is what can happen to it, and `Cut.Accounted` says where the marks are:
a link carries one mark from the moment its source takes part until its target has had it.
-/

/-- What a node has recorded of a snapshot, whether or not it has handed it in. -/
structure Part where
  /-- The balance when the node took part. -/
  balance : UInt64
  /-- The sources whose marker is still to come. -/
  awaits : List String
  /-- The transfers that came from sources while their marker was still to come. -/
  inFlight : List Transfer
deriving DecidableEq, Repr

namespace Part

/-- Writes down a transfer if the marker of its sender is still to come and it carries
anything. -/
def note (transfer : Transfer) (part : Part) : Part :=
  if transfer.source ∈ part.awaits ∧ 0 < transfer.amount then
    { part with inFlight := part.inFlight ++ [transfer] }
  else part

/-- A marker that was awaited has come. -/
def see (source : String) (part : Part) : Part :=
  { part with awaits := part.awaits.filter fun other => other ≠ source }

end Part

namespace Cut

/-- What a link carries, as far as it concerns one snapshot. -/
inductive Item where
  /-- Tokens under way. -/
  | tokens (amount : UInt64)
  /-- The marker of the snapshot. -/
  | mark
deriving DecidableEq, Repr

/-- The amounts that come before the first mark. -/
def ahead : List Item → List UInt64
  | [] => []
  | .tokens amount :: rest => amount :: ahead rest
  | .mark :: _ => []

theorem ahead_append_mark (items : List Item) : ahead (items ++ [.mark]) = ahead items := by
  induction items with
  | nil => rfl
  | cons item rest ih =>
      cases item with
      | tokens amount => exact congrArg (amount :: ·) ih
      | mark => rfl

/-- Tokens that come behind all others are ahead of the mark if there is none. -/
theorem ahead_append_tokens (items : List Item) (amount : UInt64) :
    ahead (items ++ [.tokens amount]) =
      ahead items ++ if items.count .mark = 0 then [amount] else [] := by
  induction items with
  | nil => rfl
  | cons item rest ih =>
      cases item with
      | tokens other =>
          rw [List.count_cons_of_ne (by simp)]
          exact congrArg (other :: ·) ih
      | mark => simp [ahead]

end Cut

/-- What one snapshot sees of a network. -/
@[ext]
structure Cut where
  /-- The balances of the nodes that exist. -/
  balance : String → Option UInt64
  /-- Whether a link exists. -/
  linked : Link → Bool
  /-- What is under way on each link, the oldest first. -/
  flow : Link → List Cut.Item
  /-- What the nodes that take part have recorded. -/
  part : String → Option Part

namespace Cut

/-- Another balance for a node. -/
def setBalance (cut : Cut) (name : String) (balance : UInt64) : Cut :=
  { cut with
    balance := fun other => if name = other then some balance else cut.balance other }

/-- Other items on a link. -/
def setFlow (cut : Cut) (link : Link) (items : List Item) : Cut :=
  { cut with flow := fun other => if link = other then items else cut.flow other }

/-- Another part of a node. -/
def setPart (cut : Cut) (name : String) (part : Part) : Cut :=
  { cut with part := fun other => if name = other then some part else cut.part other }

/-- A mark on each link that leads away from a node. -/
def markFrom (cut : Cut) (name : String) : Cut :=
  { cut with
    flow := fun link =>
      if link.source = name ∧ cut.linked link = true then cut.flow link ++ [.mark]
      else cut.flow link }

/-- A transfer written down by its receiver, if that takes part. -/
def noteAt (cut : Cut) (transfer : Transfer) : Cut :=
  { cut with
    part := fun name =>
      if transfer.target = name then (cut.part name).map (Part.note transfer)
      else cut.part name }

@[simp] theorem linked_setFlow (cut : Cut) (link other : Link) (items : List Item) :
    (cut.setFlow link items).linked other = cut.linked other := rfl

@[simp] theorem linked_markFrom (cut : Cut) (name : String) (link : Link) :
    (cut.markFrom name).linked link = cut.linked link := rfl

/-- What can happen to the cut of a snapshot, and what happens in it. -/
inductive Step (snapshot : SnapshotId) : Cut → List Happening → Cut → Prop where
  /-- Nothing that concerns the snapshot. -/
  | idle {cut : Cut} : Step snapshot cut [] cut
  /-- A snapshot is opened. -/
  | announce {cut : Cut} (name : String) (opened : SnapshotId) :
      Step snapshot cut [.announced name opened] cut
  /-- A node takes part in another snapshot. -/
  | other {cut : Cut} {name : String} {joined : SnapshotId} (hOther : joined ≠ snapshot) :
      Step snapshot cut [.joined name joined] cut
  /-- A node is added. -/
  | addNode {cut : Cut} {name : String} (tokens : UInt64) (hNew : cut.balance name = none)
      (hIdle : cut.part name = none) :
      Step snapshot cut [.opened name tokens] (cut.setBalance name tokens)
  /-- A link is added while no node takes part. -/
  | addLink {cut : Cut} (link : Link) (hIdle : ∀ name, cut.part name = none) :
      Step snapshot cut []
        { cut with linked := fun other => decide (link = other) || cut.linked other }
  /-- Tokens leave a node. -/
  | send {cut : Cut} {link : Link} {amount balance : UInt64} (hLinked : cut.linked link = true)
      (hBalance : cut.balance link.source = some balance) (hEnough : amount ≤ balance) :
      Step snapshot cut [.sent link amount]
        ((cut.setBalance link.source (balance - amount)).setFlow link
          (cut.flow link ++ [.tokens amount]))
  /-- Tokens come to their receiver. -/
  | deliver {cut : Cut} {link : Link} {amount balance sum : UInt64} {rest : List Item}
      (hFlow : cut.flow link = .tokens amount :: rest)
      (hBalance : cut.balance link.target = some balance)
      (hSum : checkedAdd balance amount = .ok sum) :
      Step snapshot cut [.delivered link amount]
        (((cut.setFlow link rest).setBalance link.target sum).noteAt
          ⟨link.source, link.target, amount⟩)
  /-- A node takes part of its own accord. -/
  | join {cut : Cut} {name : String} {part : Part} (hIdle : cut.part name = none)
      (hBalance : cut.balance name = some part.balance) (hEmpty : part.inFlight = [])
      (hAwaits : ∀ source, source ∈ part.awaits ↔ cut.linked ⟨source, name⟩ = true) :
      Step snapshot cut [.joined name snapshot] ((cut.markFrom name).setPart name part)
  /-- A mark makes its receiver take part. -/
  | first {cut : Cut} {link : Link} {rest : List Item} {part : Part}
      (hFlow : cut.flow link = .mark :: rest) (hIdle : cut.part link.target = none)
      (hBalance : cut.balance link.target = some part.balance) (hEmpty : part.inFlight = [])
      (hAwaits : ∀ source, source ∈ part.awaits ↔
        cut.linked ⟨source, link.target⟩ = true ∧ source ≠ link.source) :
      Step snapshot cut [.joined link.target snapshot]
        (((cut.setFlow link rest).markFrom link.target).setPart link.target part)
  /-- A mark comes to a node that takes part. -/
  | next {cut : Cut} {link : Link} {rest : List Item} {part : Part}
      (hFlow : cut.flow link = .mark :: rest) (hPart : cut.part link.target = some part) :
      Step snapshot cut [] ((cut.setFlow link rest).setPart link.target (part.see link.source))

/-! ### Where the marks are -/

/-- Whether the target of a link takes part and no longer awaits its mark. -/
def isClosed (cut : Cut) (link : Link) : Bool :=
  match cut.part link.target with
  | some part => decide (link.source ∉ part.awaits)
  | none => false

/-- The number of marks that a link should carry. -/
def expected (cut : Cut) (link : Link) : Nat :=
  if (cut.part link.source).isSome && !cut.isClosed link then 1 else 0

/-- Every link carries the marks that it should carry. -/
structure Accounted (cut : Cut) : Prop where
  /-- A link carries a mark if its source takes part and its target has not had the mark. -/
  count_mark : ∀ {link}, cut.linked link = true → (cut.flow link).count .mark = cut.expected link
  /-- The target has had the mark only if the source takes part. -/
  source_joined : ∀ {link}, cut.linked link = true → cut.isClosed link = true →
    (cut.part link.source).isSome = true
  /-- What is no link carries nothing. -/
  flow_eq_nil : ∀ {link}, ¬ cut.linked link = true → cut.flow link = []
  /-- Marks are awaited on links only. -/
  awaits_linked : ∀ {name source part}, cut.part name = some part → source ∈ part.awaits →
    cut.linked ⟨source, name⟩ = true

theorem isClosed_eq_true_iff {cut : Cut} {link : Link} :
    cut.isClosed link = true ↔ ∃ part, cut.part link.target = some part ∧
      link.source ∉ part.awaits := by
  unfold isClosed
  cases hPart : cut.part link.target <;> simp

theorem expected_eq_one_iff {cut : Cut} {link : Link} :
    cut.expected link = 1 ↔
      (cut.part link.source).isSome = true ∧ cut.isClosed link = false := by
  unfold expected
  cases (cut.part link.source).isSome <;> cases cut.isClosed link <;> simp

theorem expected_eq_zero {cut : Cut} {link : Link}
    (hEither : cut.part link.source = none ∨ cut.isClosed link = true) :
    cut.expected link = 0 := by
  unfold expected
  rcases hEither with hIdle | hClosed
  · rw [hIdle]
    rfl
  · rw [hClosed, Bool.not_true, Bool.and_false]
    rfl

/-- What takes part and what does not are different nodes. -/
theorem ne_of_part {cut : Cut} {name other : String} {part : Part} (hIdle : cut.part name = none)
    (hPart : cut.part other = some part) : name ≠ other := by
  rintro rfl
  rw [hIdle] at hPart
  cases hPart

/-- Only links carry anything. -/
theorem Accounted.linked_of_flow {cut : Cut} {link : Link} {item : Item} {rest : List Item}
    (hAccounted : cut.Accounted) (hFlow : cut.flow link = item :: rest) :
    cut.linked link = true := by
  by_contra hMissing
  rw [hAccounted.flow_eq_nil hMissing] at hFlow
  cases hFlow

/-- What is no link goes on carrying nothing when something else happens to a link. -/
theorem Accounted.flow_setFlow_eq_nil {cut : Cut} {link other : Link} (hAccounted : cut.Accounted)
    (hLinked : cut.linked link = true) (hOther : ¬ cut.linked other = true) (items : List Item) :
    (cut.setFlow link items).flow other = [] := by
  have hDifferent : link ≠ other := fun hEqual => hOther (hEqual ▸ hLinked)
  show (if link = other then items else cut.flow other) = []
  rw [if_neg hDifferent]
  exact hAccounted.flow_eq_nil hOther

/-- A link has no more than one mark, so the one at its head is the one that is expected. -/
theorem Accounted.of_flow_eq_mark {cut : Cut} {link : Link} {rest : List Item}
    (hAccounted : cut.Accounted) (hFlow : cut.flow link = .mark :: rest) :
    cut.linked link = true ∧ (cut.part link.source).isSome = true ∧
      cut.isClosed link = false ∧ rest.count .mark = 0 := by
  have hLinked := hAccounted.linked_of_flow hFlow
  have hCount := hAccounted.count_mark hLinked
  rw [hFlow, List.count_cons_self] at hCount
  -- The expected number is at most one, and there is a mark.
  have hOne : cut.expected link = 1 := by
    unfold expected at hCount ⊢
    split at hCount
    · rw [if_pos ‹_›]
    · omega
  obtain ⟨hSource, hOpen⟩ := expected_eq_one_iff.mp hOne
  exact ⟨hLinked, hSource, hOpen, by omega⟩

end Cut

end TokenNet
