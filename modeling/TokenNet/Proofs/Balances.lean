import TokenNet.Proofs.Deliveries
import TokenNet.Proofs.Mirror

namespace TokenNet

/-!
# Balances and what moved them

On a ledger the balance of a node is what it was opened with, less what the node has spent, and what
it has earned on top (`Ledger.replay_opened`).  Nobody spends or earns before being opened.  Since the
journal tells the same transfers as the run, the tokens of every node of a network follow from the
journal (`Network.Run.balance`).
-/

namespace Ledger

/-- The tokens that a node sent. -/
def spent (name : String) (trace : List Happening) : Nat :=
  naturalSum (trace.filterMap fun happening =>
    match happening with
    | .sent link amount => if link.source = name then some amount else none
    | _ => none)

/-- The tokens that were delivered to a node. -/
def earned (name : String) (trace : List Happening) : Nat :=
  naturalSum (trace.filterMap fun happening =>
    match happening with
    | .delivered link amount => if link.target = name then some amount else none
    | _ => none)

variable {ledger between after : Ledger} {happening : Happening} {trace earlier later : List Happening}
  {name : String} {tokens balance : UInt64}

theorem spent_append (name : String) (earlier later : List Happening) :
    spent name (earlier ++ later) = spent name earlier + spent name later := by
  unfold spent
  rw [List.filterMap_append, naturalSum_append]

theorem earned_append (name : String) (earlier later : List Happening) :
    earned name (earlier ++ later) = earned name earlier + earned name later := by
  unfold earned
  rw [List.filterMap_append, naturalSum_append]

theorem spent_cons (name : String) (happening : Happening) (rest : List Happening) :
    spent name (happening :: rest) = spent name [happening] + spent name rest :=
  spent_append name [happening] rest

theorem earned_cons (name : String) (happening : Happening) (rest : List Happening) :
    earned name (happening :: rest) = earned name [happening] + earned name rest :=
  earned_append name [happening] rest

theorem spent_sent (name : String) (link : Link) (amount : UInt64) :
    spent name [.sent link amount] = if link.source = name then amount.toNat else 0 := by
  by_cases hName : link.source = name <;> simp [spent, naturalSum, hName]

theorem earned_delivered (name : String) (link : Link) (amount : UInt64) :
    earned name [.delivered link amount] = if link.target = name then amount.toNat else 0 := by
  by_cases hName : link.target = name <;> simp [earned, naturalSum, hName]

/-- Only transfers count. -/
theorem spent_transfers (name : String) (trace : List Happening) :
    spent name (trace.filter Happening.isTransfer) = spent name trace := by
  induction trace with
  | nil => rfl
  | cons happening rest ih =>
      rw [spent_cons name happening rest, ← ih]
      cases happening <;> first | exact spent_cons .. | exact (Nat.zero_add _).symm

theorem earned_transfers (name : String) (trace : List Happening) :
    earned name (trace.filter Happening.isTransfer) = earned name trace := by
  induction trace with
  | nil => rfl
  | cons happening rest ih =>
      rw [earned_cons name happening rest, ← ih]
      cases happening <;> first | exact earned_cons .. | exact (Nat.zero_add _).symm

/-! ### One happening -/

/-- A happening changes the balance of a node by what the node spends and earns. -/
theorem perform_balance (hPerformed : ledger.perform happening = some after)
    (hBalance : ledger.balances.get? name = some balance) :
    ∃ left, after.balances.get? name = some left ∧
      left.toNat + spent name [happening] = balance.toNat + earned name [happening] := by
  cases happening with
  | opened other tokens =>
      obtain ⟨hNew, rfl⟩ := add_eq_some_iff.mp hPerformed
      have hOther : other ≠ name := fun hEqual => by
        rw [hEqual, hBalance] at hNew
        cases hNew
      exact ⟨balance, (get?_balances_setBalance ..).trans ((if_neg hOther).trans hBalance), rfl⟩
  | sent link amount =>
      obtain ⟨held, hHeld, hEnough, rfl⟩ := send_eq_some_iff.mp hPerformed
      have hAfter := ledger.get?_balances_setBalance link.source name (held - amount)
      have hNone : earned name [.sent link amount] = 0 := rfl
      rw [spent_sent, hNone]
      by_cases hName : link.source = name
      · rw [hName, hBalance] at hHeld
        obtain rfl := Option.some.inj hHeld
        have hLeft : (balance - amount).toNat = balance.toNat - amount.toNat :=
          UInt64.toNat_sub_of_le _ _ hEnough
        have hFits : amount.toNat ≤ balance.toNat := hEnough
        refine ⟨balance - amount, hAfter.trans (if_pos hName), ?_⟩
        rw [if_pos hName]
        omega
      · refine ⟨balance, hAfter.trans ((if_neg hName).trans hBalance), ?_⟩
        rw [if_neg hName]
  | delivered link amount =>
      obtain ⟨rest, held, sum, -, hHeld, hSum, rfl⟩ := deliver_eq_some_iff.mp hPerformed
      have hAfter := ledger.get?_balances_setBalance link.target name sum
      have hNone : spent name [.delivered link amount] = 0 := rfl
      rw [earned_delivered, hNone]
      by_cases hName : link.target = name
      · rw [hName, hBalance] at hHeld
        obtain rfl := Option.some.inj hHeld
        refine ⟨sum, hAfter.trans (if_pos hName), ?_⟩
        rw [if_pos hName]
        exact (checkedAdd_eq_ok_iff.mp hSum).symm
      · refine ⟨balance, hAfter.trans ((if_neg hName).trans hBalance), ?_⟩
        rw [if_neg hName]
  | announced other snapshot =>
      cases hPerformed
      exact ⟨balance, hBalance, rfl⟩
  | joined other snapshot =>
      cases hPerformed
      exact ⟨balance, hBalance, rfl⟩
  | notified report =>
      cases hPerformed
      exact ⟨balance, hBalance, rfl⟩

/-- A node that is not there after a happening was not there before it and has no part in it. -/
theorem perform_absent (hPerformed : ledger.perform happening = some after)
    (hAbsent : after.balances.get? name = none) :
    ledger.balances.get? name = none ∧ spent name [happening] = 0 ∧ earned name [happening] = 0 := by
  have hMissing : ledger.balances.get? name = none := by
    cases hBalance : ledger.balances.get? name with
    | none => rfl
    | some balance =>
        obtain ⟨left, hLeft, -⟩ := perform_balance hPerformed hBalance
        rw [hAbsent] at hLeft
        cases hLeft
  refine ⟨hMissing, ?_⟩
  cases happening with
  | sent link amount =>
      obtain ⟨held, hHeld, -⟩ := send_eq_some_iff.mp hPerformed
      have hOther : link.source ≠ name := fun hEqual => by
        rw [hEqual, hMissing] at hHeld
        cases hHeld
      exact ⟨(spent_sent ..).trans (if_neg hOther), rfl⟩
  | delivered link amount =>
      obtain ⟨rest, held, sum, -, hHeld, -⟩ := deliver_eq_some_iff.mp hPerformed
      have hOther : link.target ≠ name := fun hEqual => by
        rw [hEqual, hMissing] at hHeld
        cases hHeld
      exact ⟨rfl, (earned_delivered ..).trans (if_neg hOther)⟩
  | _ => exact ⟨rfl, rfl⟩

/-- Whoever is there after a happening was there before it or was opened in it. -/
theorem perform_known (hPerformed : ledger.perform happening = some after)
    (hKnown : name ∈ after.balances.keys) :
    name ∈ ledger.balances.keys ∨ ∃ tokens, happening = .opened name tokens := by
  cases happening with
  | opened other tokens =>
      obtain ⟨-, rfl⟩ := add_eq_some_iff.mp hPerformed
      rcases SortedMap.mem_keys_insert.mp hKnown with hEqual | hOld
      · exact Or.inr ⟨tokens, by rw [hEqual]⟩
      · exact Or.inl hOld
  | sent link amount =>
      obtain ⟨held, hHeld, -, rfl⟩ := send_eq_some_iff.mp hPerformed
      rcases SortedMap.mem_keys_insert.mp hKnown with hEqual | hOld
      · exact Or.inl (hEqual ▸ SortedMap.mem_keys_of_get? hHeld)
      · exact Or.inl hOld
  | delivered link amount =>
      obtain ⟨rest, held, sum, -, hHeld, -, rfl⟩ := deliver_eq_some_iff.mp hPerformed
      rcases SortedMap.mem_keys_insert.mp hKnown with hEqual | hOld
      · exact Or.inl (hEqual ▸ SortedMap.mem_keys_of_get? hHeld)
      · exact Or.inl hOld
  | announced other snapshot =>
      cases hPerformed
      exact Or.inl hKnown
  | joined other snapshot =>
      cases hPerformed
      exact Or.inl hKnown
  | notified report =>
      cases hPerformed
      exact Or.inl hKnown

/-! ### Everything that happens -/

theorem replay_balance (hReplayed : ledger.replay trace = some after)
    (hBalance : ledger.balances.get? name = some balance) :
    ∃ left, after.balances.get? name = some left ∧
      left.toNat + spent name trace = balance.toNat + earned name trace := by
  induction trace generalizing ledger balance with
  | nil =>
      cases hReplayed
      exact ⟨balance, hBalance, rfl⟩
  | cons happening rest ih =>
      obtain ⟨between, hPerformed, hRest⟩ := replay_cons_eq_some_iff.mp hReplayed
      obtain ⟨held, hHeld, hFirst⟩ := perform_balance hPerformed hBalance
      obtain ⟨left, hLeft, hLater⟩ := ih hRest hHeld
      refine ⟨left, hLeft, ?_⟩
      rw [spent_cons name happening rest, earned_cons name happening rest]
      omega

theorem replay_absent (hReplayed : ledger.replay trace = some after)
    (hAbsent : after.balances.get? name = none) :
    ledger.balances.get? name = none ∧ spent name trace = 0 ∧ earned name trace = 0 := by
  induction trace generalizing ledger with
  | nil =>
      cases hReplayed
      exact ⟨hAbsent, rfl, rfl⟩
  | cons happening rest ih =>
      obtain ⟨between, hPerformed, hRest⟩ := replay_cons_eq_some_iff.mp hReplayed
      obtain ⟨hBetween, hSpent, hEarned⟩ := ih hRest
      obtain ⟨hBefore, hFirstSpent, hFirstEarned⟩ := perform_absent hPerformed hBetween
      rw [spent_cons name happening rest, earned_cons name happening rest]
      exact ⟨hBefore, by omega, by omega⟩

theorem replay_known (hReplayed : ledger.replay trace = some after)
    (hKnown : name ∈ after.balances.keys) :
    name ∈ ledger.balances.keys ∨ ∃ tokens, .opened name tokens ∈ trace := by
  induction trace generalizing ledger with
  | nil =>
      cases hReplayed
      exact Or.inl hKnown
  | cons happening rest ih =>
      obtain ⟨between, hPerformed, hRest⟩ := replay_cons_eq_some_iff.mp hReplayed
      rcases ih hRest with hBetween | ⟨tokens, hOpened⟩
      · rcases perform_known hPerformed hBetween with hBefore | ⟨tokens, rfl⟩
        · exact Or.inl hBefore
        · exact Or.inr ⟨tokens, List.mem_cons_self⟩
      · exact Or.inr ⟨tokens, List.mem_cons_of_mem _ hOpened⟩

/-- A node holds what it was opened with, less what it has spent, and what it has earned on top. -/
theorem replay_opened (hReplayed : ledger.replay trace = some after)
    (hOpened : .opened name tokens ∈ trace) :
    ∃ left, after.balances.get? name = some left ∧
      left.toNat + spent name trace = tokens.toNat + earned name trace := by
  obtain ⟨earlier, later, rfl⟩ := List.append_of_mem hOpened
  rw [replay_append, Option.bind_eq_some_iff] at hReplayed
  obtain ⟨before, hEarlier, hRest⟩ := hReplayed
  obtain ⟨middle, hAdded, hLater⟩ := replay_cons_eq_some_iff.mp hRest
  obtain ⟨hNew, rfl⟩ := add_eq_some_iff.mp hAdded
  -- Before it was opened the node was not there, so it has neither spent nor earned.
  obtain ⟨-, hSpent, hEarned⟩ := replay_absent hEarlier hNew
  have hStart : (before.setBalance name tokens).balances.get? name = some tokens :=
    (get?_balances_setBalance ..).trans (if_pos rfl)
  obtain ⟨left, hLeft, hMoved⟩ := replay_balance hLater hStart
  have hNothing : spent name [.opened name tokens] = 0 ∧ earned name [.opened name tokens] = 0 :=
    ⟨rfl, rfl⟩
  refine ⟨left, hLeft, ?_⟩
  rw [spent_append, earned_append, spent_cons name _ later, earned_cons name _ later]
  omega

end Ledger

namespace Network

variable {net after : Network} {trace : List Happening} {name : String} {tokens : UInt64}

/-- What a node holds follows from what it was added with and from the journal. -/
theorem Run.balance (hRun : Run net trace after) (hFresh : net.Fresh)
    (hOpened : .opened name tokens ∈ trace) :
    ∃ node, after.nodes.get? name = some node ∧
      node.tokens.toNat + Ledger.spent name after.journal.transfers =
        tokens.toNat + Ledger.earned name after.journal.transfers := by
  have hStart : (Ledger.start net).Mirrors (net.cut 0) := hFresh.mirrors
  obtain ⟨later, hReplayed, hMirrors⟩ := hRun.mirrors hFresh.wellFormed hStart
  obtain ⟨left, hLeft, hMoved⟩ := Ledger.replay_opened hReplayed hOpened
  have hNode : (after.nodes.get? name).map Node.tokens = some left :=
    (hMirrors.balance_eq name).symm.trans hLeft
  obtain ⟨node, hFound, rfl⟩ := Option.map_eq_some_iff.mp hNode
  have hNothing : net.journal.transfers = [] := by
    unfold Journal.transfers
    rw [hFresh.journal_eq_nil, List.filterMap_nil]
  refine ⟨node, hFound, ?_⟩
  rw [hRun.transfers hFresh.wellFormed, hNothing, List.nil_append, Ledger.spent_transfers,
    Ledger.earned_transfers]
  exact hMoved

/-- Every node was there at the start or was added. -/
theorem Run.known (hRun : Run net trace after) (hFresh : net.Fresh) (hName : name ∈ after.nodes.keys) :
    name ∈ net.nodes.keys ∨ ∃ tokens, .opened name tokens ∈ trace := by
  have hStart : (Ledger.start net).Mirrors (net.cut 0) := hFresh.mirrors
  obtain ⟨later, hReplayed, hMirrors⟩ := hRun.mirrors hFresh.wellFormed hStart
  have hKnown : name ∈ later.balances.keys := by
    rw [SortedMap.mem_keys_iff, ← Option.isSome_iff_exists, hMirrors.balance_eq]
    exact (mem_nodes_iff 0).mp hName
  have hKeys : (Ledger.start net).balances.keys = net.nodes.keys := SortedMap.keys_mapValues ..
  rw [← hKeys]
  exact Ledger.replay_known hReplayed hKnown

end Network

end TokenNet
