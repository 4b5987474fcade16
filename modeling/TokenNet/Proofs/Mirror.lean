import TokenNet.Proofs.Folds
import TokenNet.Proofs.Fresh
import TokenNet.Proofs.Totals
import Mathlib.Algebra.Order.BigOperators.Group.List
import Mathlib.Algebra.Order.Group.Nat

namespace TokenNet

/-!
# Ledgers that mirror a network

A ledger mirrors a network if it has the balances of the nodes and, link by link, the amounts under
way (`Ledger.Mirrors`).  Whatever happens in a run can be replayed on such a ledger, and the outcome
mirrors the network again (`Network.Run.mirrors`); reports from outside, which the cut of a snapshot
does not survive, leave it alone.  So a network has the tokens that its nodes were added with
(`Network.Run.tokens_eq`), and as long as they fit into a word, no sum that is taken of them
overflows (`Network.totalTokens_eq_ok`).
-/

theorem exists_toNat_eq (total : Nat) (hFits : total < 2 ^ 64) :
    ∃ word : UInt64, word.toNat = total :=
  ⟨UInt64.ofNat total, UInt64.toNat_ofNat_of_lt hFits⟩

/-- Checked sums of several lists come to the sum of all, if that fits. -/
theorem mapM_checkedSum (lists : List (List UInt64))
    (hFits : (lists.map naturalSum).sum < 2 ^ 64) :
    ∃ totals, lists.mapM checkedSum = .ok totals ∧
      naturalSum totals = (lists.map naturalSum).sum := by
  induction lists with
  | nil => exact ⟨[], rfl, rfl⟩
  | cons first rest ih =>
      rw [List.map_cons, List.sum_cons] at hFits
      obtain ⟨total, hTotal⟩ := exists_toNat_eq (naturalSum first) (by omega)
      obtain ⟨totals, hTotals, hSum⟩ := ih (by omega)
      refine ⟨total :: totals, ?_, ?_⟩
      · rw [List.mapM_cons, checkedSum_eq_ok_iff.mpr hTotal.symm, hTotals]
        rfl
      · rw [List.map_cons, List.sum_cons, ← hSum, ← hTotal]
        rfl

/-- The amounts among what a link carries. -/
def Cut.amounts (items : List Cut.Item) : List UInt64 :=
  items.filterMap fun item =>
    match item with
    | .tokens amount => some amount
    | .mark => none

/-- A ledger that has the balances and the amounts under way. -/
structure Ledger.Mirrors (ledger : Ledger) (cut : Cut) : Prop where
  /-- The balances are those of the nodes. -/
  balance_eq : ∀ name, ledger.balances.get? name = cut.balance name
  /-- The amounts on a link are those under way. -/
  queue_eq : ∀ link, ledger.queue link = Cut.amounts (cut.flow link)

namespace Cut

variable {snapshot : SnapshotId} {cut after : Cut} {ledger : Ledger} {happenings : List Happening}

theorem amounts_append (items others : List Item) :
    amounts (items ++ others) = amounts items ++ amounts others :=
  List.filterMap_append

/-- Marks carry nothing. -/
theorem amounts_markFrom (cut : Cut) (name : String) (link : Link) :
    amounts ((cut.markFrom name).flow link) = amounts (cut.flow link) := by
  show amounts (if link.source = name ∧ cut.linked link = true then cut.flow link ++ [.mark]
    else cut.flow link) = amounts (cut.flow link)
  split
  · exact (amounts_append ..).trans (List.append_nil _)
  · rfl

/-- A mark that leaves a link takes nothing with it. -/
theorem amounts_setFlow_of_mark {link : Link} {rest : List Item}
    (hFlow : cut.flow link = .mark :: rest) (other : Link) :
    amounts ((cut.setFlow link rest).flow other) = amounts (cut.flow other) := by
  show amounts (if link = other then rest else cut.flow other) = amounts (cut.flow other)
  split
  · next hEqual =>
    subst hEqual
    rw [hFlow]
    rfl
  · rfl

/-- Tokens that leave a node leave its balance and join the queue. -/
theorem mirrors_send {link : Link} {amount balance : UInt64} (hMirrors : ledger.Mirrors cut)
    (hBalance : cut.balance link.source = some balance) (hEnough : amount ≤ balance) :
    ∃ later, ledger.send link amount = some later ∧
      later.Mirrors ((cut.setBalance link.source (balance - amount)).setFlow link
        (cut.flow link ++ [.tokens amount])) := by
  refine ⟨_, Ledger.send_eq_some_iff.mpr ⟨balance, ?_, hEnough, rfl⟩, fun name => ?_,
    fun other => ?_⟩
  · rw [hMirrors.balance_eq, hBalance]
  · refine (ledger.get?_balances_setBalance ..).trans ?_
    rw [hMirrors.balance_eq]
    rfl
  · rw [Ledger.queue_setQueue, Ledger.queue_setBalance, hMirrors.queue_eq, hMirrors.queue_eq]
    show _ = amounts (if link = other then _ else cut.flow other)
    split
    · exact (amounts_append (cut.flow link) [.tokens amount]).symm
    · rfl

/-- Tokens that come to a node leave the queue and join its balance. -/
theorem mirrors_deliver {link : Link} {amount balance sum : UInt64} {rest : List Item}
    (hMirrors : ledger.Mirrors cut) (hFlow : cut.flow link = .tokens amount :: rest)
    (hBalance : cut.balance link.target = some balance)
    (hSum : checkedAdd balance amount = .ok sum) :
    ∃ later, ledger.deliver link amount = some later ∧
      later.Mirrors (((cut.setFlow link rest).setBalance link.target sum).noteAt
        ⟨link.source, link.target, amount⟩) := by
  refine ⟨_, Ledger.deliver_eq_some_iff.mpr ⟨amounts rest, balance, sum, ?_, ?_, hSum, rfl⟩,
    fun name => ?_, fun other => ?_⟩
  · rw [hMirrors.queue_eq, hFlow]
    rfl
  · rw [hMirrors.balance_eq, hBalance]
  · refine (ledger.get?_balances_setBalance ..).trans ?_
    rw [hMirrors.balance_eq]
    rfl
  · rw [Ledger.queue_setQueue, Ledger.queue_setBalance, hMirrors.queue_eq]
    show _ = amounts (if link = other then rest else cut.flow other)
    split <;> rfl

/-- Each step of a cut can be replayed on a ledger that mirrors it. -/
theorem Step.mirrors (hStep : Step snapshot cut happenings after) (hMirrors : ledger.Mirrors cut) :
    ∃ later, ledger.replay happenings = some later ∧ later.Mirrors after := by
  cases hStep with
  | idle => exact ⟨ledger, rfl, hMirrors⟩
  | announce name opened => exact ⟨ledger, rfl, hMirrors⟩
  | other hOther => exact ⟨ledger, rfl, hMirrors⟩
  | addNode tokens hNew hIdle =>
      rw [Ledger.replay_singleton]
      refine ⟨_, Ledger.add_eq_some_iff.mpr ⟨?_, rfl⟩, fun other => ?_, hMirrors.queue_eq⟩
      · rw [hMirrors.balance_eq, hNew]
      · refine (ledger.get?_balances_setBalance ..).trans ?_
        rw [hMirrors.balance_eq]
        rfl
  | addLink link hIdle => exact ⟨ledger, rfl, hMirrors.balance_eq, hMirrors.queue_eq⟩
  | send hLinked hBalance hEnough =>
      rw [Ledger.replay_singleton]
      exact mirrors_send hMirrors hBalance hEnough
  | deliver hFlow hBalance hSum =>
      rw [Ledger.replay_singleton]
      exact mirrors_deliver hMirrors hFlow hBalance hSum
  | @join name part hIdle hBalance hEmpty hAwaits =>
      exact ⟨ledger, rfl, hMirrors.balance_eq, fun link =>
        (hMirrors.queue_eq link).trans (amounts_markFrom cut name link).symm⟩
  | @first link rest part hFlow hIdle hBalance hEmpty hAwaits =>
      refine ⟨ledger, rfl, hMirrors.balance_eq, fun other => (hMirrors.queue_eq other).trans ?_⟩
      exact ((amounts_markFrom (cut.setFlow link rest) link.target other).trans
        (amounts_setFlow_of_mark hFlow other)).symm
  | next hFlow hPart =>
      exact ⟨ledger, rfl, hMirrors.balance_eq, fun other =>
        (hMirrors.queue_eq other).trans (amounts_setFlow_of_mark hFlow other).symm⟩

end Cut

namespace Network

variable {net after : Network} {ledger : Ledger} {happenings trace : List Happening}
  {snapshot : SnapshotId}

/-- Whatever a change is, what happens in it can be replayed. -/
theorem Change.mirrors (hChange : Change net happenings after) (hWell : net.WellFormed)
    (hMirrors : ledger.Mirrors (net.cut snapshot)) :
    ∃ later, ledger.replay happenings = some later ∧ later.Mirrors (after.cut snapshot) := by
  by_cases hHonest : Honest happenings
  · exact (hChange.cut hWell hHonest).mirrors hMirrors
  · -- A report from outside moves no tokens.
    cases hChange with
    | notify hFound hAwaited => exact ⟨ledger, rfl, hMirrors.balance_eq, hMirrors.queue_eq⟩
    | marker hQueue hEffect => exact absurd (inner_arrival _ _).honest hHonest
    | _ => exact absurd (by simp [Honest]) hHonest

/-- Whatever happens in a run can be replayed. -/
theorem Run.mirrors (hRun : Run net trace after) (hWell : net.WellFormed)
    (hMirrors : ledger.Mirrors (net.cut snapshot)) :
    ∃ later, ledger.replay trace = some later ∧ later.Mirrors (after.cut snapshot) := by
  induction hRun with
  | start => exact ⟨ledger, rfl, hMirrors⟩
  | step hEarlier hStep ih =>
      obtain ⟨middle, hReplayed, hMiddle⟩ := ih
      have hBetween := hEarlier.wellFormed hWell
      obtain ⟨later, hRest, hLater⟩ := (hStep.change hBetween).mirrors hBetween hMiddle
      refine ⟨later, ?_, hLater⟩
      rw [Ledger.replay_append, hReplayed, Option.bind_some, hRest]

theorem Fresh.mirrors (hFresh : net.Fresh) : (Ledger.start net).Mirrors (net.cut snapshot) := by
  refine ⟨fun name => SortedMap.get?_mapValues .., fun link => ?_⟩
  rw [flow_cut, hFresh.queue_eq_nil]
  rfl

/-! ### The tokens of a network -/

/-- The amounts under way on a link. -/
def amountsOn (net : Network) (link : Link) : List UInt64 :=
  (net.channels.queue link).filterMap fun parcel => parcel.message.amount?

theorem amounts_flow (net : Network) (snapshot : SnapshotId) (link : Link) :
    Cut.amounts ((net.cut snapshot).flow link) = net.amountsOn link := by
  unfold Cut.amounts amountsOn
  rw [flow_cut, List.filterMap_filterMap]
  refine List.filterMap_congr fun parcel _ => ?_
  obtain ⟨source, target, message, due⟩ := parcel
  cases message with
  | token amount => rfl
  | marker other => by_cases hOther : other = snapshot <;> simp [Parcel.item?, Message.amount?, hOther]

/-- The tokens of a network: those held and those under way. -/
def wealth (net : Network) : Nat :=
  naturalSum (net.nodes.values.map Node.tokens) +
    (net.channels.links.map fun link => naturalSum (net.amountsOn link)).sum

theorem le_naturalSum_of_mem {words : List UInt64} {word : UInt64} (hMember : word ∈ words) :
    word.toNat ≤ naturalSum words := by
  rw [Ledger.naturalSum_eq]
  exact List.le_sum_of_mem (List.mem_map_of_mem hMember)

/-- What a node holds and what is under way to it are part of the tokens of the network. -/
theorem tokens_add_le_wealth {name : String} {node : Node} {link : Link} {parcel : Parcel}
    {amount : UInt64} (hNode : net.nodes.get? name = some node)
    (hQueue : parcel ∈ net.channels.queue link) (hToken : parcel.message = .token amount) :
    node.tokens.toNat + amount.toNat ≤ net.wealth := by
  have hHeld : node.tokens.toNat ≤ naturalSum (net.nodes.values.map Node.tokens) :=
    le_naturalSum_of_mem (List.mem_map_of_mem (SortedMap.mem_values_iff.mpr ⟨name, hNode⟩))
  have hAmount : amount.toNat ≤ naturalSum (net.amountsOn link) :=
    le_naturalSum_of_mem (List.mem_filterMap.mpr ⟨parcel, hQueue, by rw [hToken]; rfl⟩)
  have hLink : link ∈ net.channels.links :=
    ChannelTable.mem_links_iff.mpr (ChannelTable.contains_of_mem_queue hQueue)
  have hMoving : naturalSum (net.amountsOn link) ≤
      (net.channels.links.map fun other => naturalSum (net.amountsOn other)).sum :=
    List.le_sum_of_mem (List.mem_map_of_mem hLink)
  unfold wealth
  omega

/-- A ledger that mirrors a network has its tokens. -/
theorem total_of_mirrors (hMirrors : ledger.Mirrors (net.cut snapshot)) :
    ledger.total = net.wealth := by
  have hQueues : ∀ link, ledger.queue link = net.amountsOn link := fun link =>
    (hMirrors.queue_eq link).trans (net.amounts_flow snapshot link)
  have hBalances : ledger.balances = net.nodes.mapValues fun _ node => node.tokens := by
    refine SortedMap.ext_get? fun name => ?_
    rw [SortedMap.get?_mapValues]
    exact hMirrors.balance_eq name
  -- What is no link carries nothing.
  have hCover : ∀ link, ledger.queue link ≠ [] → link ∈ net.channels.links := by
    intro link hQueue
    rw [hQueues] at hQueue
    refine ChannelTable.mem_links_iff.mpr (Classical.byContradiction fun hMissing => hQueue ?_)
    unfold amountsOn
    rw [ChannelTable.queue_eq_nil hMissing, List.filterMap_nil]
  rw [Ledger.total_eq_of_links net.channels.nodup_links hCover, hBalances,
    SortedMap.values_mapValues, List.map_congr_left fun link _ => congrArg naturalSum (hQueues link)]
  rfl

/-- The tokens of a network are those that its nodes were added with. -/
theorem Run.tokens_eq (hRun : Run net trace after) (hFresh : net.Fresh) :
    after.wealth = (Ledger.start net).total + Ledger.openings trace := by
  have hStart : (Ledger.start net).Mirrors (net.cut 0) := hFresh.mirrors
  obtain ⟨later, hReplayed, hMirrors⟩ := hRun.mirrors hFresh.wellFormed hStart
  rw [← total_of_mirrors hMirrors, Ledger.replay_total hReplayed]

/-- The tokens of the given nodes and those on the given channels, added up in this order. -/
def tokensOf (nodes : List Node) (channels : List Channel) : Except Fault UInt64 := do
  let held ← checkedSum (nodes.map Node.tokens)
  let amounts ← channels.mapM Channel.tokens
  let moving ← checkedSum amounts
  checkedAdd held moving

theorem totalTokens_eq (net : Network) :
    net.totalTokens = tokensOf net.nodes.values net.channels.toList := by
  simp only [totalTokens, heldTokens, movingTokens, tokensOf, bind_assoc]

theorem wealth_eq_sum (net : Network) :
    net.wealth = naturalSum (net.nodes.values.map Node.tokens) +
      (net.channels.toList.map fun channel => naturalSum channel.amounts).sum := by
  have hAmounts := congrArg
    (List.map fun queue : List Parcel => naturalSum (queue.filterMap fun parcel =>
      parcel.message.amount?)) net.channels.map_queue_toList
  rw [List.map_map, List.map_map] at hAmounts
  exact congrArg (naturalSum (net.nodes.values.map Node.tokens) + List.sum ·) hAmounts.symm

/-- Tokens are added up without overflow, if they fit. -/
theorem tokensOf_eq_ok {nodes : List Node} {channels : List Channel} {total : UInt64}
    (hTotal : naturalSum (nodes.map Node.tokens) +
      (channels.map fun channel => naturalSum channel.amounts).sum = total.toNat) :
    tokensOf nodes channels = .ok total := by
  have hFits := total.toNat_lt
  have hSums : ((channels.map Channel.amounts).map naturalSum).sum =
      (channels.map fun channel => naturalSum channel.amounts).sum := by
    rw [List.map_map]
    rfl
  have hTokens : channels.mapM Channel.tokens = (channels.map Channel.amounts).mapM checkedSum := by
    rw [List.mapM_map]
    rfl
  obtain ⟨held, hHeld⟩ := exists_toNat_eq (naturalSum (nodes.map Node.tokens)) (by omega)
  obtain ⟨amounts, hAmounts, hSum⟩ := mapM_checkedSum (channels.map Channel.amounts) (by omega)
  obtain ⟨moving, hMoving⟩ := exists_toNat_eq (naturalSum amounts) (by omega)
  unfold tokensOf
  rw [checkedSum_eq_ok_iff.mpr hHeld.symm, hTokens, hAmounts]
  apply Eq.trans (b := checkedSum amounts >>= checkedAdd held) rfl
  rw [checkedSum_eq_ok_iff.mpr hMoving.symm]
  apply checkedAdd_eq_ok_iff.mpr
  omega

/-- The total of a network is taken without overflow, if it fits. -/
theorem totalTokens_eq_ok {total : UInt64} (hTotal : net.wealth = total.toNat) :
    net.totalTokens = .ok total := by
  rw [totalTokens_eq]
  exact tokensOf_eq_ok (net.wealth_eq_sum.symm.trans hTotal)

theorem naturalSum_of_mapM_tokens {channels : List Channel} {amounts : List UInt64}
    (hAmounts : channels.mapM Channel.tokens = .ok amounts) :
    naturalSum amounts = (channels.map fun channel => naturalSum channel.amounts).sum := by
  induction channels generalizing amounts with
  | nil =>
      cases hAmounts
      rfl
  | cons channel rest ih =>
      obtain ⟨first, others, hFirst, hOthers, rfl⟩ := mapM_cons_eq_ok.mp hAmounts
      have hSum : naturalSum (first :: others) = first.toNat + naturalSum others := rfl
      rw [hSum, ih hOthers, ← checkedSum_eq_ok_iff.mp hFirst]
      rfl

/-- Tokens that can be added up come to their sum. -/
theorem sum_of_tokensOf {nodes : List Node} {channels : List Channel} {total : UInt64}
    (hTotal : tokensOf nodes channels = .ok total) :
    naturalSum (nodes.map Node.tokens) +
      (channels.map fun channel => naturalSum channel.amounts).sum = total.toNat := by
  unfold tokensOf at hTotal
  obtain ⟨held, hHeld, hRest⟩ := bind_eq_ok_iff.mp hTotal
  obtain ⟨amounts, hAmounts, hRest⟩ := bind_eq_ok_iff.mp hRest
  obtain ⟨moving, hMoving, hSum⟩ := bind_eq_ok_iff.mp hRest
  rw [← naturalSum_of_mapM_tokens hAmounts, checkedSum_eq_ok_iff.mp hHeld,
    checkedSum_eq_ok_iff.mp hMoving]
  exact checkedAdd_eq_ok_iff.mp hSum

end Network

end TokenNet
