import TokenNet.Proofs.Asides
import TokenNet.Proofs.Conservation
import TokenNet.Proofs.Custody
import TokenNet.Proofs.LiveConservation
import TokenNet.Proofs.Objections

namespace TokenNet

/-!
# Sums that fit

All numbers of a network are words, and a sum that does not fit is a fault.  As long as the tokens
that nodes are added with fit into a word, the clock leaves room for what is sent and there are
numbers for snapshots (`Network.InRange`), no sum overflows: calls are never cut short, and the
tokens of the network and those of each snapshot that it hands out can be added up, in whatever order
(`Network.sums_fit`).
-/

namespace Snapshot

variable {snapshot : Snapshot} {transfers : List Transfer}

/-! ### Sums over a snapshot -/

/-- The tokens that transfers carry on one link. -/
def tokensOn (transfers : List Transfer) (link : Link) : Nat :=
  naturalSum ((transfers.filter fun transfer => transfer.link = link).map Transfer.amount)

theorem tokensOn_cons (transfer : Transfer) (rest : List Transfer) (link : Link) :
    tokensOn (transfer :: rest) link =
      (if transfer.link = link then transfer.amount.toNat else 0) + tokensOn rest link := by
  unfold tokensOn
  by_cases hLink : transfer.link = link <;> simp [hLink, Ledger.naturalSum_eq]

/-- Nothing is on its way on a link that has no transfer. -/
theorem tokensOn_eq_zero {link : Link} (hNone : link ∉ transfers.map Transfer.link) :
    tokensOn transfers link = 0 := by
  have hEmpty : transfers.filter (fun transfer => transfer.link = link) = [] :=
    List.filter_eq_nil_iff.mpr fun transfer hMember hLink =>
      hNone (List.mem_map.mpr ⟨transfer, hMember, of_decide_eq_true hLink⟩)
  unfold tokensOn
  rw [hEmpty]
  rfl

/-- What is on its way on one link is part of what is on its way. -/
theorem tokensOn_le (transfers : List Transfer) (link : Link) :
    tokensOn transfers link ≤ naturalSum (transfers.map Transfer.amount) := by
  unfold tokensOn
  simp only [Ledger.naturalSum_eq]
  apply List.Sublist.sum_le_sum
  · exact ((List.filter_sublist (l := transfers)).map Transfer.amount).map UInt64.toNat
  · exact fun _ _ => Nat.zero_le _

/-- Transfers are added to the totals of their links, unless one of these becomes too large. -/
theorem foldlM_addToLink_cases (transfers : List Transfer) (totals : SortedMap Link UInt64) :
    (∃ sums, transfers.foldlM addToLink totals = .ok sums ∧ ∀ link,
      (sums.get? link).map UInt64.toNat = if link ∈ transfers.map Transfer.link then
        some (((totals.get? link).getD 0).toNat + tokensOn transfers link)
      else (totals.get? link).map UInt64.toNat) ∨
    (transfers.foldlM addToLink totals = .error .overflow ∧ ∃ link,
      UInt64.size ≤ ((totals.get? link).getD 0).toNat + tokensOn transfers link) := by
  induction transfers generalizing totals with
  | nil => exact Or.inl ⟨totals, rfl, fun _ => rfl⟩
  | cons transfer rest ih =>
      rw [List.foldlM_cons]
      cases hSum : checkedAdd ((totals.get? transfer.link).getD 0) transfer.amount with
      | error fault =>
          obtain ⟨rfl, hLarge⟩ := checkedAdd_eq_error_iff.mp hSum
          have hFault : addToLink totals transfer = .error .overflow := by
            unfold addToLink
            rw [hSum]
            rfl
          refine Or.inr ⟨by rw [hFault]; rfl, transfer.link, ?_⟩
          rw [tokensOn_cons, if_pos rfl]
          omega
      | ok sum =>
          have hAdded : addToLink totals transfer = .ok (totals.insert transfer.link sum) := by
            unfold addToLink
            rw [hSum]
            rfl
          have hTotal : ∀ link, (((totals.insert transfer.link sum).get? link).getD 0).toNat =
              ((totals.get? link).getD 0).toNat +
                if transfer.link = link then transfer.amount.toNat else 0 := by
            intro link
            rw [SortedMap.get?_insert]
            by_cases hLink : transfer.link = link
            · simp [← hLink, ← checkedAdd_eq_ok_iff.mp hSum]
            · simp [hLink]
          rw [hAdded]
          rcases ih (totals.insert transfer.link sum) with ⟨sums, hRest, hSums⟩ | ⟨hRest, link, hLarge⟩
          · refine Or.inl ⟨sums, hRest, fun link => ?_⟩
            rw [hSums, tokensOn_cons, ← Nat.add_assoc, ← hTotal]
            by_cases hLater : link ∈ rest.map Transfer.link
            · have hSome : link ∈ (transfer :: rest).map Transfer.link :=
                List.mem_cons_of_mem _ hLater
              rw [if_pos hLater, if_pos hSome]
            · rw [if_neg hLater, tokensOn_eq_zero hLater, Nat.add_zero]
              by_cases hHere : transfer.link = link
              · subst hHere
                have hSome : transfer.link ∈ (transfer :: rest).map Transfer.link :=
                  List.mem_cons_self
                rw [if_pos hSome, SortedMap.get?_insert_self]
                rfl
              · have hNone : link ∉ (transfer :: rest).map Transfer.link := fun hMember =>
                  (List.mem_cons.mp hMember).elim (fun hSame => hHere hSame.symm) hLater
                rw [if_neg hNone, SortedMap.get?_insert_of_ne _ _ hHere]
          · refine Or.inr ⟨hRest, link, ?_⟩
            rw [tokensOn_cons, ← Nat.add_assoc, ← hTotal]
            exact hLarge

/-- The totals are those of the links that have transfers, unless one of them is too large. -/
theorem linkTotals_cases (snapshot : Snapshot) :
    (∃ totals, snapshot.linkTotals = .ok totals ∧ ∀ link, (totals.get? link).map UInt64.toNat =
      if link ∈ snapshot.messages.map Transfer.link then some (tokensOn snapshot.messages link)
      else none) ∨
    (snapshot.linkTotals = .error .overflow ∧
      ∃ link, UInt64.size ≤ tokensOn snapshot.messages link) := by
  have hCases := foldlM_addToLink_cases snapshot.messages SortedMap.empty
  simp only [SortedMap.get?_empty, Option.getD_none, UInt64.toNat_zero, Nat.zero_add,
    Option.map_none] at hCases
  exact hCases

/-- No sum that is taken of the tokens of a snapshot overflows. -/
structure SumsFit (snapshot : Snapshot) : Prop where
  /-- The tokens that the nodes hold can be added up. -/
  balances : ∃ sum, snapshot.balanceTotal = .ok sum
  /-- The tokens on their way can be added up. -/
  inFlight : ∃ sum, snapshot.inFlightTotal = .ok sum
  /-- All tokens can be added up. -/
  total : ∃ sum, snapshot.total = .ok sum
  /-- The tokens on their way on each link can be added up. -/
  links : ∃ sums, snapshot.linkTotals = .ok sums

/-- A snapshot whose tokens fit into a word has all its sums. -/
theorem sumsFit_of_lt (hFits : naturalSum snapshot.balances.values +
    naturalSum (snapshot.messages.map Transfer.amount) < 2 ^ 64) : snapshot.SumsFit := by
  obtain ⟨total, hTotal⟩ := exists_toNat_eq _ hFits
  obtain ⟨held, hHeld⟩ := exists_toNat_eq (naturalSum snapshot.balances.values) (by omega)
  obtain ⟨moving, hMoving⟩ := exists_toNat_eq
    (naturalSum (snapshot.messages.map Transfer.amount)) (by omega)
  obtain ⟨sums, hSums⟩ : ∃ sums, snapshot.linkTotals = .ok sums := by
    rcases linkTotals_cases snapshot with ⟨sums, hSums, -⟩ | ⟨-, link, hLarge⟩
    · exact ⟨sums, hSums⟩
    · have hPart := tokensOn_le snapshot.messages link
      have hSize : UInt64.size = 2 ^ 64 := rfl
      omega
  exact ⟨⟨held, checkedSum_eq_ok_iff.mpr hHeld.symm⟩, ⟨moving, checkedSum_eq_ok_iff.mpr hMoving.symm⟩,
    ⟨total, total_eq_ok hTotal.symm⟩, sums, hSums⟩

end Snapshot

/-- Whether a reply tells of a snapshot that has been started. -/
def Reply.isStart : Reply → Bool
  | .ok (.started _) => true
  | .ok (.controlled snapshot) => snapshot.isSome
  | _ => false

namespace Network

variable {net after last : Network}

/-! ### Sums over a network -/

/-- No sum that is taken of the tokens of a network overflows, in whatever order its nodes and its
channels come. -/
structure SumsFit (net : Network) : Prop where
  /-- The tokens on each channel can be added up. -/
  channels : ∀ channel ∈ net.channels.toList, ∃ sum, channel.tokens = .ok sum
  /-- All tokens can be added up. -/
  total : ∀ nodes channels, nodes.Perm net.nodes.values → channels.Perm net.channels.toList →
    ∃ sum, tokensOf nodes channels = .ok sum

/-- A network whose tokens fit into a word has all its sums. -/
theorem sumsFit_of_lt (hFits : net.wealth < 2 ^ 64) : net.SumsFit := by
  rw [wealth_eq_sum] at hFits
  constructor
  · intro channel hChannel
    have hPart : naturalSum channel.amounts ≤
        (net.channels.toList.map fun other => naturalSum other.amounts).sum :=
      List.le_sum_of_mem (List.mem_map_of_mem hChannel)
    obtain ⟨sum, hSum⟩ := exists_toNat_eq (naturalSum channel.amounts) (by omega)
    exact ⟨sum, checkedSum_eq_ok_iff.mpr hSum.symm⟩
  · intro nodes channels hNodes hChannels
    rw [← naturalSum_perm (hNodes.map Node.tokens), ← (hChannels.map _).sum_eq] at hFits
    obtain ⟨sum, hSum⟩ := exists_toNat_eq _ hFits
    exact ⟨sum, tokensOf_eq_ok hSum.symm⟩

/-! ### Snapshots that have been started -/

/-- As many numbers are used up as replies tell of snapshots that have been started. -/
def UsesUp (net : Network) (replies : List Reply) (after : Network) : Prop :=
  after.nextSnapshot.toNat = net.nextSnapshot.toNat + replies.countP Reply.isStart

theorem usesUp_nil (hNext : after.nextSnapshot = net.nextSnapshot) : net.UsesUp [] after := by
  simp [UsesUp, hNext]

theorem UsesUp.cons {between : Network} {reply : Reply} {replies : List Reply}
    (hFirst : net.UsesUp [reply] between) (hRest : between.UsesUp replies after) :
    net.UsesUp (reply :: replies) after := by
  unfold UsesUp at *
  rw [← List.singleton_append, List.countP_append]
  omega

/-- A reply that tells of no start goes with an action that uses up no number. -/
theorem usesUp_of_none {reply : Reply} (hNone : reply.isStart = false)
    (hNext : after.nextSnapshot = net.nextSnapshot) : net.UsesUp [reply] after := by
  simp [UsesUp, hNone, hNext]

/-- An action from which everything happens from within uses up no number. -/
theorem meets_map_usesUp {α : Type} {action : NetworkAction α} {answer : α → Answer}
    (hWell : net.WellFormed)
    (hAction : (action net).Meets (fun _ after => net.Evolves after) fun _ after => net.Evolves after)
    (hNone : ∀ value, Reply.isStart (.ok (answer value)) = false) :
    ((answer <$> action) net).Meets (fun value after => net.UsesUp [.ok value] after)
      (fun error after => net.UsesUp [.error error] after) := by
  apply Action.meets_map
  apply hAction.mono
  · exact fun value _ hEvolves => usesUp_of_none (hNone value) (hEvolves.extends hWell).nextSnapshot_eq
  · exact fun _ _ hEvolves => usesUp_of_none rfl (hEvolves.extends hWell).nextSnapshot_eq

/-- To start a snapshot uses up one number. -/
theorem meets_startSnapshot_usesUp (hWell : net.WellFormed) (name : String) :
    (startSnapshot name net).Meets
      (fun id after => net.UsesUp [.ok (.started id)] after ∧
        net.UsesUp [.ok (.controlled (some id))] after)
      (fun error after => net.UsesUp [.error error] after) := by
  apply (meets_startSnapshot hWell).mono
  · intro _ _ hStarted
    exact ⟨hStarted.2.nextSnapshot_eq hWell, hStarted.2.nextSnapshot_eq hWell⟩
  · intro _ _ hRefused
    rw [hRefused.2.2]
    exact usesUp_of_none rfl rfl

/-- Numbers are used up by the calls that start snapshots, and by no others. -/
theorem meets_answer_usesUp (hWell : net.WellFormed) (call : Call) :
    (answer call net).Meets (fun value after => net.UsesUp [.ok value] after)
      (fun error after => net.UsesUp [.error error] after) := by
  have hStart := meets_startSnapshot_usesUp hWell
  cases call with
  | addNode name tokens =>
      apply Action.meets_map
      apply meets_attempt.mono
      · intro _ after hAdd
        obtain ⟨-, -, rfl⟩ := withNode_eq_ok hAdd
        exact usesUp_of_none rfl rfl
      · rintro _ _ rfl
        exact usesUp_of_none rfl rfl
  | addLink source target =>
      apply Action.meets_map
      apply meets_attempt.mono
      · intro _ after hAdd
        obtain ⟨-, _, _, -, -, -, -, rfl⟩ := withLink_eq_ok hAdd
        exact usesUp_of_none rfl rfl
      · rintro _ _ rfl
        exact usesUp_of_none rfl rfl
  | send source target tokens =>
      exact meets_map_usesUp hWell (meets_sendTokens_evolves hWell) fun _ => rfl
  | control event =>
      apply Action.meets_map
      cases event with
      | passToken source target tokens =>
          apply Action.meets_bind (M := fun _ after => net.Evolves after)
          · apply (meets_sendTokens_evolves hWell).mono fun _ _ hEvolves => hEvolves
            exact fun _ _ hEvolves => usesUp_of_none rfl (hEvolves.extends hWell).nextSnapshot_eq
          · exact fun _ _ hEvolves => usesUp_of_none rfl (hEvolves.extends hWell).nextSnapshot_eq
      | snapshot name => exact Action.meets_bind (hStart name) fun _ _ hUsed => hUsed.2
  | startSnapshot name =>
      apply Action.meets_map
      exact (hStart name).mono (fun _ _ hUsed => hUsed.1) fun _ _ hUsed => hUsed
  | tick => exact meets_map_usesUp hWell ((meets_tick hWell).imp fun _ _ hTick => hTick) fun _ => rfl
  | receiveTime =>
      exact meets_map_usesUp hWell ((meets_receiveTime_evolves net).imp fun _ _ hDrawn => hDrawn)
        fun _ => rfl
  | notify report =>
      apply Action.meets_map
      apply Outcome.meets_self.mono
      · intro complete after hDone
        obtain ⟨collector, -, -, -, -, rfl⟩ := notify_eq_done_iff.mp hDone
        exact usesUp_of_none rfl rfl
      · intro error after hRefused
        rw [notify_refused hRefused]
        exact usesUp_of_none rfl rfl
  | handle snapshot => exact meets_map_usesUp hWell (meets_handle net snapshot) fun _ => rfl
  | tryCollect snapshot =>
      apply meets_map_usesUp hWell
      · apply (meets_tryCollect net snapshot).mono fun _ _ hTaken => hTaken.evolves
        rintro _ _ rfl
        exact Evolves.refl _
      · exact fun _ => rfl
  | collect snapshot =>
      apply meets_map_usesUp hWell
      · apply (meets_collect net snapshot).mono fun _ _ hTaken => hTaken.evolves
        rintro _ _ rfl
        exact Evolves.refl _
      · exact fun _ => rfl
  | release snapshot => exact meets_map_usesUp hWell (meets_release net snapshot) fun _ => rfl
  | abandon snapshots => exact Action.meets_map (Action.meets_update (usesUp_of_none rfl rfl))

/-- The number of the next snapshot counts the snapshots that have been started. -/
theorem usesUp_of_history {calls : List Call} {replies : List Reply} (hWell : net.WellFormed)
    (hHistory : net.history calls = .ok (replies, last)) : net.UsesUp replies last := by
  induction calls generalizing net replies with
  | nil =>
      cases hHistory
      exact usesUp_nil rfl
  | cons call rest ih =>
      obtain ⟨first, later, between, hReply, hRest, rfl⟩ := history_cons_eq_ok hHistory
      have hFirst : net.UsesUp [first] between :=
        of_reply (P := fun reply after => net.UsesUp [reply] after)
          (meets_answer_usesUp hWell call) hReply
      have hBetween := (yields_of_reply hWell hReply).course.wellFormed hWell
      exact hFirst.cons (ih hBetween hRest)

/-! ### Histories -/

theorem history_cons_of_reply {call : Call} {reply : Reply} {between : Network} {calls : List Call}
    {replies : List Reply} (hReply : net.reply call = .ok (reply, between))
    (hHistory : between.history calls = .ok (replies, last)) :
    net.history (call :: calls) = .ok (reply :: replies, last) := by
  rw [history_cons, hReply]
  exact congrArg (Except.map _) hHistory

/-- Whether nothing is near the end of its range, so that any call but a tick can be carried out. -/
structure Roomy (net : Network) : Prop where
  /-- The tokens of the network fit into a word. -/
  tokens : net.wealth < UInt64.size
  /-- What is sent now becomes due in time. -/
  time : net.tickNow.toNat + max 1 net.maxDelay.toNat < UInt64.size
  /-- There is a number for one more snapshot. -/
  number : net.nextSnapshot.toNat + 1 < UInt64.size

/-- No call is cut short as long as there is room, and room for what is sent in the course of a
tick. -/
theorem Attained.exists_reply (hAttained : net.Attained) (call : Call) (hRoomy : net.Roomy)
    (hTick : call = .tick → net.tickNow.toNat + 1 + max 1 net.maxDelay.toNat < UInt64.size) :
    ∃ reply after, net.reply call = .ok (reply, after) := by
  have hNever : (answer call net).OverflowsOnlyIf False := by
    apply hAttained.overflows_call call
    · exact Nat.not_le.mpr hRoomy.time
    · exact Nat.not_le.mpr hRoomy.number
    · exact Nat.not_le.mpr hRoomy.tokens
    · exact fun hCall => Nat.not_le.mpr (hTick hCall)
  cases hReply : net.reply call with
  | error fault => exact (hNever fault (answer_of_reply_eq_error hReply)).2.elim
  | ok answered => exact ⟨answered.1, answered.2, rfl⟩

/-- No history is cut short as long as there is room at each point of it. -/
theorem Attained.exists_history {calls : List Call} (hAttained : net.Attained)
    (hRoomy : ∀ earlier replies middle, earlier <+: calls →
      net.history earlier = .ok (replies, middle) → middle.Roomy)
    (hTick : ∀ earlier replies middle, earlier ++ [.tick] <+: calls →
      net.history earlier = .ok (replies, middle) →
        middle.tickNow.toNat + 1 + max 1 middle.maxDelay.toNat < UInt64.size) :
    ∃ replies last, net.history calls = .ok (replies, last) := by
  induction calls generalizing net with
  | nil => exact ⟨[], net, rfl⟩
  | cons call rest ih =>
      obtain ⟨reply, between, hReply⟩ : ∃ reply after, net.reply call = .ok (reply, after) := by
        apply hAttained.exists_reply call (hRoomy [] [] net (List.nil_prefix) rfl)
        rintro rfl
        exact hTick [] [] net (List.prefix_append _ _) rfl
      have hBetween := hAttained.course (yields_of_reply hAttained.wellFormed hReply).course
      obtain ⟨replies, last, hRest⟩ := ih hBetween
        (fun earlier replies middle hPrefix hEarlier =>
          hRoomy (call :: earlier) (reply :: replies) middle ((List.prefix_cons_inj call).mpr hPrefix)
            (history_cons_of_reply hReply hEarlier))
        (fun earlier replies middle hPrefix hEarlier =>
          hTick (call :: earlier) (reply :: replies) middle ((List.prefix_cons_inj call).mpr hPrefix)
            (history_cons_of_reply hReply hEarlier))
      exact ⟨reply :: replies, last, history_cons_of_reply hReply hRest⟩

/-- Calls on the network of a configuration stay within range: at each point of them the tokens that
nodes have been added with fit into a word, what is sent becomes due in time, and fewer snapshots
have been started than there are numbers to go on from. -/
structure InRange (config : Config) (net : Network) (calls : List Call) : Prop where
  /-- The tokens that nodes are added with fit into a word. -/
  tokens : ∀ earlier replies middle, earlier <+: calls →
    net.history earlier = .ok (replies, middle) →
      naturalSum ((config.nodes ++ accepted earlier replies).map InitialNode.tokens) < UInt64.size
  /-- What is sent between calls becomes due in time. -/
  time : ∀ earlier replies middle, earlier <+: calls →
    net.history earlier = .ok (replies, middle) →
      middle.tickNow.toNat + max 1 middle.maxDelay.toNat < UInt64.size
  /-- What is sent in the course of a tick, after the clock has moved, becomes due in time. -/
  tick : ∀ earlier replies middle, earlier ++ [.tick] <+: calls →
    net.history earlier = .ok (replies, middle) →
      middle.tickNow.toNat + 1 + max 1 middle.maxDelay.toNat < UInt64.size
  /-- There are numbers for all snapshots. -/
  number : ∀ earlier replies middle, earlier <+: calls →
    net.history earlier = .ok (replies, middle) → replies.countP Reply.isStart < UInt64.size - 1

/-- No sum overflows, whatever the calls are, as long as they stay within range and hand in no report
from outside: no call is cut short, and the tokens of the network and those of each snapshot that it
hands out can be added up. -/
theorem sums_fit {config : Config} {calls : List Call} (hBuilt : ofConfig config = .ok net)
    (hOwn : ∀ call ∈ calls, call.isNotify = false) (hRange : InRange config net calls) :
    ∃ replies last, net.history calls = .ok (replies, last) ∧ last.SumsFit ∧
      ∀ assembled : Snapshot, (assembled ∈ replies.filterMap Reply.snapshot? ∨
        ∃ snapshot, last.completed? snapshot = some assembled) → assembled.SumsFit := by
  have hFresh := fresh_ofConfig hBuilt
  have hWealth : ∀ earlier replies middle, earlier <+: calls →
      net.history earlier = .ok (replies, middle) → middle.wealth < UInt64.size := by
    intro earlier replies middle hPrefix hEarlier
    rw [(course_of_built hBuilt hEarlier).wealth_eq]
    exact hRange.tokens earlier replies middle hPrefix hEarlier
  have hRoomy : ∀ earlier replies middle, earlier <+: calls →
      net.history earlier = .ok (replies, middle) → middle.Roomy := by
    intro earlier replies middle hPrefix hEarlier
    have hNext := usesUp_of_history hFresh.wellFormed hEarlier
    have hCount := hRange.number earlier replies middle hPrefix hEarlier
    unfold UsesUp at hNext
    rw [hFresh.nextSnapshot_eq] at hNext
    constructor
    · exact hWealth earlier replies middle hPrefix hEarlier
    · exact hRange.time earlier replies middle hPrefix hEarlier
    · simp at hNext
      omega
  obtain ⟨replies, last, hHistory⟩ := (Attained.of_fresh hFresh).exists_history hRoomy hRange.tick
  have hFits := hWealth calls replies last (List.prefix_refl calls) hHistory
  refine ⟨replies, last, hHistory, sumsFit_of_lt hFits, fun assembled hHanded => ?_⟩
  have hCompleted : ∃ snapshot, last.completed? snapshot = some assembled :=
    hHanded.elim (completed?_of_history hFresh.wellFormed hOwn hHistory) id
  obtain ⟨snapshot, hCompleted⟩ := hCompleted
  obtain ⟨trace, hRun, hHonest, -⟩ := history_leads hFresh.wellFormed hOwn hHistory
  apply Snapshot.sumsFit_of_lt
  rw [hRun.snapshot_tokens_eq hFresh hHonest hCompleted, ← hRun.tokens_eq hFresh]
  exact hFits

/-- Whether one point of a history is within range, with room for a tick. -/
def isWithin (config : Config) (net : Network) (earlier : List Call) : Bool :=
  match net.history earlier with
  | .error _ => true
  | .ok (replies, middle) =>
      decide (naturalSum ((config.nodes ++ accepted earlier replies).map InitialNode.tokens) <
        UInt64.size) &&
      decide (middle.tickNow.toNat + 1 + max 1 middle.maxDelay.toNat < UInt64.size) &&
      decide (replies.countP Reply.isStart < UInt64.size - 1)

/-- Calls all of whose points have been checked stay within range. -/
theorem inRange_of_isWithin {config : Config} {calls : List Call}
    (hWithin : calls.inits.all (isWithin config net) = true) : InRange config net calls := by
  have hPoint : ∀ earlier replies middle, earlier <+: calls →
      net.history earlier = .ok (replies, middle) →
        naturalSum ((config.nodes ++ accepted earlier replies).map InitialNode.tokens) < UInt64.size ∧
          middle.tickNow.toNat + 1 + max 1 middle.maxDelay.toNat < UInt64.size ∧
          replies.countP Reply.isStart < UInt64.size - 1 := by
    intro earlier replies middle hPrefix hEarlier
    have hChecked := List.all_eq_true.mp hWithin earlier ((List.mem_inits earlier calls).mpr hPrefix)
    unfold isWithin at hChecked
    rw [hEarlier] at hChecked
    simpa [and_assoc] using hChecked
  constructor
  · exact fun earlier replies middle hPrefix hEarlier =>
      (hPoint earlier replies middle hPrefix hEarlier).1
  · intro earlier replies middle hPrefix hEarlier
    have hTime := (hPoint earlier replies middle hPrefix hEarlier).2.1
    omega
  · exact fun earlier replies middle hPrefix hEarlier =>
      (hPoint earlier replies middle ((List.prefix_append _ _).trans hPrefix) hEarlier).2.1
  · exact fun earlier replies middle hPrefix hEarlier =>
      (hPoint earlier replies middle hPrefix hEarlier).2.2

/-- The sample history stays within range, and both snapshots that it hands out have their sums. -/
theorem sums_fit_pair :
    ∃ net replies last, ofConfig pairConfig = .ok net ∧ InRange pairConfig net pairCalls ∧
      net.history pairCalls = .ok (replies, last) ∧ last.SumsFit ∧
      (replies.filterMap Reply.snapshot?).length = 2 ∧
      ∀ assembled ∈ replies.filterMap Reply.snapshot?, assembled.SumsFit := by
  have hPlays : (played? pairConfig pairCalls).any (fun outcome =>
      pairCalls.inits.all (isWithin pairConfig outcome.1) &&
      decide ((outcome.2.1.filterMap Reply.snapshot?).length = 2)) = true := by
    decide +kernel
  obtain ⟨net, replies, last, hBuilt, hHistory, hBoth⟩ := exists_of_played? hPlays
  rw [Bool.and_eq_true, decide_eq_true_eq] at hBoth
  have hRange := inRange_of_isWithin hBoth.1
  obtain ⟨_, _, hAgain, hSums, hSnapshots⟩ := sums_fit hBuilt (by decide) hRange
  cases hHistory.symm.trans hAgain
  exact ⟨net, replies, last, hBuilt, hRange, hHistory, hSums, hBoth.2, fun assembled hHanded =>
    hSnapshots assembled (Or.inl hHanded)⟩

end Network
end TokenNet
