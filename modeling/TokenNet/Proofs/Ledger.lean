import TokenNet.Proofs.Run

namespace TokenNet

/-!
# Ledgers

A ledger knows of nothing but tokens: what every node holds and which amounts are under way on
every link.  Happenings are replayed on it, and a replay fails at a node that sends more than
it holds and at a delivery that is not the oldest amount of its link.  What a replay can do is
therefore what a network without snapshots, times and delays can do.  The tokens of a ledger
change only when a node is added (`Ledger.replay_total`), and every link is first in, first
out (`Ledger.replay_queue`).
-/

/-- What the nodes hold, and the amounts under way. -/
structure Ledger where
  /-- The balances of the nodes. -/
  balances : SortedMap String UInt64
  /-- The amounts under way on the links, the oldest first. -/
  queues : SortedMap Link (List UInt64)
deriving DecidableEq, Repr

namespace Ledger

/-- The amounts under way on a link, the oldest first. -/
def queue (ledger : Ledger) (link : Link) : List UInt64 := (ledger.queues.get? link).getD []

/-- Another balance for a node. -/
def setBalance (ledger : Ledger) (name : String) (balance : UInt64) : Ledger :=
  { ledger with balances := ledger.balances.insert name balance }

/-- Other amounts under way on a link. -/
def setQueue (ledger : Ledger) (link : Link) (amounts : List UInt64) : Ledger :=
  { ledger with queues := ledger.queues.insert link amounts }

/-- The ledger of the balances of a network, with nothing under way. -/
def start (net : Network) : Ledger :=
  ⟨net.nodes.mapValues fun _ node => node.tokens, SortedMap.empty⟩

/-- A node is added. -/
def add (ledger : Ledger) (name : String) (tokens : UInt64) : Option Ledger :=
  if ledger.balances.contains name then none else some (ledger.setBalance name tokens)

/-- Tokens leave the source of a link. -/
def send (ledger : Ledger) (link : Link) (amount : UInt64) : Option Ledger :=
  match ledger.balances.get? link.source with
  | none => none
  | some balance =>
      if amount ≤ balance then
        some ((ledger.setBalance link.source (balance - amount)).setQueue link
          (ledger.queue link ++ [amount]))
      else none

/-- Tokens come to the target of a link. -/
def deliver (ledger : Ledger) (link : Link) (amount : UInt64) : Option Ledger :=
  match ledger.queue link, ledger.balances.get? link.target with
  | next :: rest, some balance =>
      match checkedAdd balance amount with
      | .ok sum =>
          if next = amount then some ((ledger.setBalance link.target sum).setQueue link rest)
          else none
      | .error _ => none
  | _, _ => none

/-- Replays a happening. -/
def perform (ledger : Ledger) : Happening → Option Ledger
  | .opened name tokens => ledger.add name tokens
  | .sent link amount => ledger.send link amount
  | .delivered link amount => ledger.deliver link amount
  | .announced _ _ => some ledger
  | .joined _ _ => some ledger
  | .notified _ => some ledger

/-- Replays happenings one after another. -/
def replay (ledger : Ledger) (trace : List Happening) : Option Ledger :=
  trace.foldlM perform ledger

theorem replay_singleton (ledger : Ledger) (happening : Happening) :
    ledger.replay [happening] = ledger.perform happening := by
  unfold replay
  rw [List.foldlM_cons]
  cases ledger.perform happening <;> rfl

theorem replay_append (ledger : Ledger) (earlier later : List Happening) :
    ledger.replay (earlier ++ later) = (ledger.replay earlier).bind fun between =>
      between.replay later :=
  List.foldlM_append

@[simp] theorem queue_setBalance (ledger : Ledger) (name : String) (balance : UInt64)
    (link : Link) : (ledger.setBalance name balance).queue link = ledger.queue link := rfl

theorem queue_setQueue (ledger : Ledger) (link other : Link) (amounts : List UInt64) :
    (ledger.setQueue link amounts).queue other =
      if link = other then amounts else ledger.queue other := by
  unfold queue setQueue
  rw [SortedMap.get?_insert]
  split <;> rfl

theorem get?_balances_setBalance (ledger : Ledger) (name other : String) (balance : UInt64) :
    (ledger.setBalance name balance).balances.get? other =
      if name = other then some balance else ledger.balances.get? other :=
  SortedMap.get?_insert ..

/-! ### What a replay requires -/

theorem add_eq_some_iff {ledger after : Ledger} {name : String} {tokens : UInt64} :
    ledger.add name tokens = some after ↔
      ledger.balances.get? name = none ∧ ledger.setBalance name tokens = after := by
  unfold add SortedMap.contains
  cases hBalance : ledger.balances.get? name <;> simp

theorem send_eq_some_iff {ledger after : Ledger} {link : Link} {amount : UInt64} :
    ledger.send link amount = some after ↔
      ∃ balance, ledger.balances.get? link.source = some balance ∧ amount ≤ balance ∧
        (ledger.setBalance link.source (balance - amount)).setQueue link
          (ledger.queue link ++ [amount]) = after := by
  unfold send
  cases hBalance : ledger.balances.get? link.source with
  | none => simp
  | some balance => by_cases hEnough : amount ≤ balance <;> simp [hEnough]

theorem deliver_eq_some_iff {ledger after : Ledger} {link : Link} {amount : UInt64} :
    ledger.deliver link amount = some after ↔
      ∃ rest balance sum, ledger.queue link = amount :: rest ∧
        ledger.balances.get? link.target = some balance ∧ checkedAdd balance amount = .ok sum ∧
        (ledger.setBalance link.target sum).setQueue link rest = after := by
  unfold deliver
  cases hQueue : ledger.queue link with
  | nil => simp
  | cons next rest =>
      cases hBalance : ledger.balances.get? link.target with
      | none => simp
      | some balance =>
          cases hSum : checkedAdd balance amount with
          | error fault => simp [hSum]
          | ok sum => by_cases hNext : next = amount <;> simp [hNext, hSum]

/-! ### The tokens of a ledger -/

/-- All tokens of a ledger: those held and those under way. -/
def total (ledger : Ledger) : Nat :=
  naturalSum ledger.balances.values + (ledger.queues.values.map naturalSum).sum

/-- The tokens with which nodes are added. -/
def openings (trace : List Happening) : Nat :=
  naturalSum (trace.filterMap fun happening =>
    match happening with
    | .opened _ tokens => some tokens
    | _ => none)

theorem naturalSum_eq (words : List UInt64) :
    naturalSum words = (words.map UInt64.toNat).sum := rfl

theorem naturalSum_append (left right : List UInt64) :
    naturalSum (left ++ right) = naturalSum left + naturalSum right := by
  simp only [naturalSum_eq, List.map_append, List.sum_append]

theorem openings_append (earlier later : List Happening) :
    openings (earlier ++ later) = openings earlier + openings later := by
  unfold openings
  rw [List.filterMap_append, naturalSum_append]

theorem openings_cons (happening : Happening) (rest : List Happening) :
    openings (happening :: rest) = openings [happening] + openings rest :=
  openings_append [happening] rest

theorem total_setBalance (ledger : Ledger) (name : String) (balance : UInt64) :
    (ledger.setBalance name balance).total +
        ((ledger.balances.get? name).map UInt64.toNat).getD 0 =
      ledger.total + balance.toNat := by
  have hSum := ledger.balances.sum_values_insert name balance UInt64.toNat
  rw [← naturalSum_eq, ← naturalSum_eq] at hSum
  unfold total setBalance
  simp only
  omega

theorem total_setQueue (ledger : Ledger) (link : Link) (amounts : List UInt64) :
    (ledger.setQueue link amounts).total + naturalSum (ledger.queue link) =
      ledger.total + naturalSum amounts := by
  have hSum := ledger.queues.sum_values_insert link amounts naturalSum
  have hOld : ((ledger.queues.get? link).map naturalSum).getD 0 =
      naturalSum (ledger.queue link) := by
    unfold queue
    cases ledger.queues.get? link <;> rfl
  unfold total setQueue
  simp only
  omega

theorem perform_total {ledger after : Ledger} {happening : Happening}
    (hPerformed : ledger.perform happening = some after) :
    after.total = ledger.total + openings [happening] := by
  cases happening with
  | opened name tokens =>
      have hOpened : openings [.opened name tokens] = tokens.toNat := Nat.add_zero _
      obtain ⟨hNew, rfl⟩ := add_eq_some_iff.mp hPerformed
      have hTotal := ledger.total_setBalance name tokens
      rw [hNew, Option.map_none, Option.getD_none] at hTotal
      omega
  | sent link amount =>
      obtain ⟨balance, hBalance, hEnough, rfl⟩ := send_eq_some_iff.mp hPerformed
      have hNone : openings [.sent link amount] = 0 := rfl
      -- What leaves the balance joins the queue.
      have hBalances := ledger.total_setBalance link.source (balance - amount)
      have hQueues := (ledger.setBalance link.source (balance - amount)).total_setQueue link
        (ledger.queue link ++ [amount])
      have hLeft : (balance - amount).toNat = balance.toNat - amount.toNat :=
        UInt64.toNat_sub_of_le _ _ hEnough
      have hAmount : naturalSum [amount] = amount.toNat := Nat.add_zero _
      have hFits : amount.toNat ≤ balance.toNat := hEnough
      rw [hBalance, Option.map_some, Option.getD_some] at hBalances
      rw [queue_setBalance, naturalSum_append] at hQueues
      omega
  | delivered link amount =>
      obtain ⟨rest, balance, sum, hQueue, hBalance, hSum, rfl⟩ :=
        deliver_eq_some_iff.mp hPerformed
      have hNone : openings [.delivered link amount] = 0 := rfl
      -- What leaves the queue joins the balance.
      have hBalances := ledger.total_setBalance link.target sum
      have hQueues := (ledger.setBalance link.target sum).total_setQueue link rest
      have hCredited : balance.toNat + amount.toNat = sum.toNat := checkedAdd_eq_ok_iff.mp hSum
      have hHead : naturalSum (amount :: rest) = amount.toNat + naturalSum rest := rfl
      rw [hBalance, Option.map_some, Option.getD_some] at hBalances
      rw [queue_setBalance, hQueue, hHead] at hQueues
      omega
  | announced name snapshot =>
      cases hPerformed
      rfl
  | joined name snapshot =>
      cases hPerformed
      rfl
  | notified report =>
      cases hPerformed
      rfl

/-- A replay that succeeds performs every happening in turn. -/
theorem replay_cons_eq_some_iff {ledger after : Ledger} {happening : Happening}
    {trace : List Happening} :
    ledger.replay (happening :: trace) = some after ↔
      ∃ between, ledger.perform happening = some between ∧ between.replay trace = some after := by
  unfold replay
  rw [List.foldlM_cons, Option.bind_eq_bind, Option.bind_eq_some_iff]

/-- A replay keeps the tokens of a ledger, but for those that nodes are added with. -/
theorem replay_total {ledger after : Ledger} {trace : List Happening}
    (hReplayed : ledger.replay trace = some after) :
    after.total = ledger.total + openings trace := by
  induction trace generalizing ledger with
  | nil =>
      cases hReplayed
      rfl
  | cons happening rest ih =>
      obtain ⟨between, hPerformed, hRest⟩ := replay_cons_eq_some_iff.mp hReplayed
      rw [ih hRest, perform_total hPerformed, openings_cons happening rest, Nat.add_assoc]

/-! ### First in, first out -/

/-- The amounts sent on a link. -/
def sentOn (link : Link) (trace : List Happening) : List UInt64 :=
  trace.filterMap fun happening =>
    match happening with
    | .sent other amount => if other = link then some amount else none
    | _ => none

/-- The amounts delivered from a link. -/
def deliveredOn (link : Link) (trace : List Happening) : List UInt64 :=
  trace.filterMap fun happening =>
    match happening with
    | .delivered other amount => if other = link then some amount else none
    | _ => none

theorem sentOn_append (link : Link) (earlier later : List Happening) :
    sentOn link (earlier ++ later) = sentOn link earlier ++ sentOn link later :=
  List.filterMap_append

theorem deliveredOn_append (link : Link) (earlier later : List Happening) :
    deliveredOn link (earlier ++ later) = deliveredOn link earlier ++ deliveredOn link later :=
  List.filterMap_append

theorem perform_queue {ledger after : Ledger} {happening : Happening}
    (hPerformed : ledger.perform happening = some after) (link : Link) :
    ledger.queue link ++ sentOn link [happening] =
      deliveredOn link [happening] ++ after.queue link := by
  cases happening with
  | opened name tokens =>
      obtain ⟨-, rfl⟩ := add_eq_some_iff.mp hPerformed
      exact List.append_nil _
  | sent other amount =>
      obtain ⟨balance, hBalance, hEnough, rfl⟩ := send_eq_some_iff.mp hPerformed
      rw [queue_setQueue]
      by_cases hEqual : other = link <;> simp [sentOn, deliveredOn, hEqual]
  | delivered other amount =>
      obtain ⟨rest, balance, sum, hQueue, hBalance, hSum, rfl⟩ :=
        deliver_eq_some_iff.mp hPerformed
      rw [queue_setQueue]
      by_cases hEqual : other = link
      · subst hEqual
        simp [sentOn, deliveredOn, hQueue]
      · simp [sentOn, deliveredOn, hEqual]
  | announced name snapshot =>
      cases hPerformed
      exact List.append_nil _
  | joined name snapshot =>
      cases hPerformed
      exact List.append_nil _
  | notified report =>
      cases hPerformed
      exact List.append_nil _

/-- What is sent on a link, behind what was under way, is what is delivered from it and what
is then under way. -/
theorem replay_queue {ledger after : Ledger} {trace : List Happening}
    (hReplayed : ledger.replay trace = some after) (link : Link) :
    ledger.queue link ++ sentOn link trace = deliveredOn link trace ++ after.queue link := by
  induction trace generalizing ledger with
  | nil =>
      cases hReplayed
      exact List.append_nil _
  | cons happening rest ih =>
      obtain ⟨between, hPerformed, hRest⟩ := replay_cons_eq_some_iff.mp hReplayed
      have hSent : sentOn link (happening :: rest) = sentOn link [happening] ++ sentOn link rest :=
        sentOn_append link [happening] rest
      have hDelivered : deliveredOn link (happening :: rest) =
          deliveredOn link [happening] ++ deliveredOn link rest :=
        deliveredOn_append link [happening] rest
      rw [hSent, hDelivered, ← List.append_assoc, perform_queue hPerformed, List.append_assoc,
        ih hRest, List.append_assoc]

end Ledger

/-! ### What comes before a cut -/

/-- Whether a happening comes before a cut that the given nodes have passed: tokens count
where they are sent or delivered. -/
def Happening.isBefore (passed : List String) : Happening → Bool
  | .opened _ _ => true
  | .sent link _ => decide (link.source ∉ passed)
  | .delivered link _ => decide (link.target ∉ passed)
  | .announced _ _ => false
  | .joined _ _ => false
  | .notified _ => false

/-- The nodes that have passed the cut of a snapshot after a happening. -/
def Happening.passed (snapshot : SnapshotId) (passed : List String) : Happening → List String
  | .joined name other => if other = snapshot then name :: passed else passed
  | _ => passed

/-- The additions of nodes, and those token sends and deliveries that come before the cut of a
snapshot: before their sender and their receiver, respectively, took part in it. -/
def beforeCut (snapshot : SnapshotId) (passed : List String) : List Happening → List Happening
  | [] => []
  | happening :: rest =>
      if happening.isBefore passed then
        happening :: beforeCut snapshot (happening.passed snapshot passed) rest
      else beforeCut snapshot (happening.passed snapshot passed) rest

/-- The nodes that have passed the cut of a snapshot after happenings. -/
def passedAfter (snapshot : SnapshotId) (passed : List String) (trace : List Happening) :
    List String :=
  trace.foldl (Happening.passed snapshot) passed

theorem beforeCut_singleton (snapshot : SnapshotId) (passed : List String)
    (happening : Happening) :
    beforeCut snapshot passed [happening] = if happening.isBefore passed then [happening] else [] :=
  rfl

theorem beforeCut_append (snapshot : SnapshotId) (passed : List String)
    (earlier later : List Happening) :
    beforeCut snapshot passed (earlier ++ later) = beforeCut snapshot passed earlier ++
      beforeCut snapshot (passedAfter snapshot passed earlier) later := by
  induction earlier generalizing passed with
  | nil => rfl
  | cons happening rest ih =>
      rw [List.cons_append, beforeCut, beforeCut, ih]
      split <;> rfl

/-- Whoever has passed a cut has passed it for good. -/
theorem Happening.mem_passed (snapshot : SnapshotId) {passed : List String} {name : String}
    (happening : Happening) (hPassed : name ∈ passed) : name ∈ happening.passed snapshot passed := by
  cases happening <;> simp only [Happening.passed] <;> try exact hPassed
  split
  · exact List.mem_cons_of_mem _ hPassed
  · exact hPassed

section

variable {snapshot : SnapshotId} {count : Happening → Option UInt64}

/-- Nothing comes before the cut any more at a node that has passed it. -/
theorem filterMap_beforeCut_of_passed {name : String}
    (hCount : ∀ {happening passed amount}, count happening = some amount →
      happening.isBefore passed = decide (name ∉ passed))
    {passed : List String} (hPassed : name ∈ passed) (trace : List Happening) :
    (beforeCut snapshot passed trace).filterMap count = [] := by
  induction trace generalizing passed with
  | nil => rfl
  | cons happening rest ih =>
      have hRest := ih (Happening.mem_passed snapshot happening hPassed)
      unfold beforeCut
      by_cases hKept : happening.isBefore passed = true
      · have hNone : count happening = none := by
          apply Option.eq_none_iff_forall_not_mem.mpr
          intro amount hSome
          rw [hCount hSome] at hKept
          exact of_decide_eq_true hKept hPassed
        rw [if_pos hKept, List.filterMap_cons_none hNone]
        exact hRest
      · rw [if_neg hKept]
        exact hRest

/-- Of what counts at one node, the cut keeps the first part: what came before the node passed
it. -/
theorem filterMap_beforeCut_prefix (name : String)
    (hCount : ∀ {happening passed amount}, count happening = some amount →
      happening.isBefore passed = decide (name ∉ passed))
    (passed : List String) (trace : List Happening) :
    (beforeCut snapshot passed trace).filterMap count <+: trace.filterMap count := by
  induction trace generalizing passed with
  | nil => exact List.prefix_rfl
  | cons happening rest ih =>
      -- Once the node has passed the cut nothing is kept, and before that everything is.
      by_cases hPassed : name ∈ passed
      · rw [filterMap_beforeCut_of_passed hCount hPassed]
        exact List.nil_prefix
      · have hRest := ih (happening.passed snapshot passed)
        unfold beforeCut
        cases hSome : count happening with
        | none =>
            rw [List.filterMap_cons_none hSome]
            split
            · rw [List.filterMap_cons_none hSome]
              exact hRest
            · exact hRest
        | some amount =>
            have hKept : happening.isBefore passed = true :=
              (hCount hSome).trans (decide_eq_true hPassed)
            rw [if_pos hKept, List.filterMap_cons_some hSome, List.filterMap_cons_some hSome]
            exact List.cons_prefix_cons.mpr ⟨rfl, hRest⟩

end

namespace Ledger

/-- The additions of nodes all come before the cut. -/
theorem openings_beforeCut (snapshot : SnapshotId) (passed : List String)
    (trace : List Happening) : openings (beforeCut snapshot passed trace) = openings trace := by
  induction trace generalizing passed with
  | nil => rfl
  | cons happening rest ih =>
      unfold beforeCut
      by_cases hKept : happening.isBefore passed = true
      · rw [if_pos hKept, openings_cons, openings_cons happening rest, ih]
      · have hNone : openings [happening] = 0 := by
          cases happening <;> first | rfl | exact absurd rfl hKept
        rw [if_neg hKept, openings_cons happening rest, hNone, ih, Nat.zero_add]

/-- Of what is sent on a link, the cut keeps what was sent before the source passed it. -/
theorem sentOn_beforeCut_prefix (snapshot : SnapshotId) (link : Link) (trace : List Happening) :
    sentOn link (beforeCut snapshot [] trace) <+: sentOn link trace := by
  refine filterMap_beforeCut_prefix link.source ?_ [] trace
  intro happening passed amount hSome
  cases happening <;> simp only [reduceCtorEq] at hSome
  split at hSome
  · next hLink =>
    subst hLink
    rfl
  · cases hSome

/-- Of what is delivered from a link, the cut keeps what was delivered before the target passed
it. -/
theorem deliveredOn_beforeCut_prefix (snapshot : SnapshotId) (link : Link)
    (trace : List Happening) :
    deliveredOn link (beforeCut snapshot [] trace) <+: deliveredOn link trace := by
  refine filterMap_beforeCut_prefix link.target ?_ [] trace
  intro happening passed amount hSome
  cases happening <;> simp only [reduceCtorEq] at hSome
  split at hSome
  · next hLink =>
    subst hLink
    rfl
  · cases hSome

end Ledger

end TokenNet
