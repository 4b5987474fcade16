import TokenNet.Proofs.Markers
import TokenNet.Proofs.Overflows
import TokenNet.Proofs.ScriptEnds

namespace TokenNet

/-!
# Ticks empty a network

Of the messages under way and the markers still to be sent one is delivered whenever as many ticks
have passed as a delay can have.  So ticks alone empty a network within a bound that its state tells
(`Network.EmptiesWithin`), whatever has been asked of it before, reports from outside included.  The
loop at the end of a script lets ticks pass with no bound on their number (`Scenario.Settles`); it
comes to an end all the same, and a bound that is large enough makes no difference to it
(`Scenario.emptiesWithin_and_settles`).
-/

namespace Network

variable {net between after last : Network}

/-! ### Who has not begun -/

/-- The outstanding snapshots, each with the links on which no marker of it has been sent: their
sources have not begun to record it. -/
def unbegun (net : Network) : List (SnapshotId × Link) :=
  net.outstanding.flatMap fun id =>
    (net.links.toList.filter fun link => net.journal.marked link id = 0).map fun link => (id, link)

theorem mem_unbegun_iff {id : SnapshotId} {link : Link} :
    (id, link) ∈ net.unbegun ↔
      id ∈ net.outstanding ∧ link ∈ net.links.toList ∧ net.journal.marked link id = 0 := by
  simp [unbegun, and_assoc]

/-- A source that has begun to record a snapshot has sent a marker of it on each of its links. -/
theorem Run.mem_unbegun_iff {trace : List Happening} {id : SnapshotId} {link : Link}
    (hRun : Run net trace after) (hFresh : net.Fresh) (hOrderly : after.Orderly) :
    (id, link) ∈ after.unbegun ↔
      id ∈ after.outstanding ∧ link ∈ after.links.toList ∧ .joined link.source id ∉ trace := by
  rw [Network.mem_unbegun_iff]
  refine and_congr_right fun _ => and_congr_right fun hLink => ?_
  rw [hRun.marked_eq hFresh, if_pos (hOrderly.mem_links_iff.mp hLink), List.count_eq_zero]

/-- No more markers are still to be sent than there are links whose source has not begun. -/
theorem Attained.unsentMarkers_le (hAttained : net.Attained) (hOrderly : net.Orderly) :
    net.unsentMarkers ≤ net.unbegun.length := by
  obtain ⟨start, trace, hFresh, hRun⟩ := hAttained
  have hWell := hRun.wellFormed hFresh.wellFormed
  have hSubset : net.unsent ⊆ net.unbegun := by
    rintro ⟨id, link⟩ hUnsent
    obtain ⟨hOutstanding, hLink, hIdle⟩ := hWell.mem_unsent_iff.mp hUnsent
    have hJoined := hRun.count_joined_le hFresh id link.source
    rw [hIdle] at hJoined
    have hNever : .joined link.source id ∉ trace := List.count_eq_zero.mp (Nat.le_zero.mp hJoined)
    exact (hRun.mem_unbegun_iff hFresh hOrderly).mpr ⟨hOutstanding, hLink, hNever⟩
  rw [unsentMarkers_eq]
  exact (hOrderly.nodup_unsent.subperm hSubset).length_le

/-! ### Ticks -/

/-- Ticks alone empty the network, no more of them than the bound, unless one of them is cut short
for a sum that does not fit. -/
def EmptiesWithin (net : Network) (bound : Nat) : Prop :=
  (∃ ticks ≤ bound, ∃ after, pass ticks net = .done () after ∧ after.pending = 0) ∨
    ∃ ticks < bound, ∃ between, pass ticks net = .done () between ∧
      tick between = .faulted .overflow ∧
      (UInt64.size ≤ between.tickNow.toNat + 1 + max 1 between.maxDelay.toNat ∨
        UInt64.size ≤ between.wealth)

theorem EmptiesWithin.mono {bound larger : Nat} (hEmpties : net.EmptiesWithin bound)
    (hBound : bound ≤ larger) : net.EmptiesWithin larger := by
  rcases hEmpties with ⟨ticks, hTicks, hAfter⟩ | ⟨ticks, hTicks, hBetween⟩
  · exact Or.inl ⟨ticks, hTicks.trans hBound, hAfter⟩
  · exact Or.inr ⟨ticks, hTicks.trans_le hBound, hBetween⟩

/-- One tick more leaves one tick more. -/
theorem EmptiesWithin.tick {report : TickReport} {bound : Nat} (hEmpties : between.EmptiesWithin bound)
    (hTick : Network.tick net = .done report between) : net.EmptiesWithin (bound + 1) := by
  rcases hEmpties with ⟨ticks, hTicks, after, hPass, hNothing⟩ |
    ⟨ticks, hTicks, middle, hPass, hFault⟩
  · exact Or.inl ⟨ticks + 1, by omega, after, (pass_succ_of_tick ticks hTick).trans hPass, hNothing⟩
  · exact Or.inr ⟨ticks + 1, by omega, middle, (pass_succ_of_tick ticks hTick).trans hPass, hFault⟩

/-- A network that comes to rest in time is empty then. -/
theorem RestsWithin.emptiesWithin {ticks : Nat} (hRests : net.RestsWithin ticks)
    (hAttained : net.Attained) (hOrderly : net.Orderly) : net.EmptiesWithin ticks := by
  have hWell := hAttained.wellFormed
  induction ticks generalizing net with
  | zero =>
      have hNothing : net.pending = 0 := by
        by_contra hSome
        exact Nat.lt_irrefl 0 (hRests.pos (Nat.pos_of_ne_zero hSome))
      exact Or.inl ⟨0, Nat.le_refl 0, net, rfl, hNothing⟩
  | succ ticks ih =>
      by_cases hNothing : net.pending = 0
      · exact Or.inl ⟨0, Nat.zero_le _, net, rfl, hNothing⟩
      · have hRest := hRests.tick (Nat.pos_of_ne_zero hNothing) hWell hOrderly
        cases hTick : Network.tick net with
        | done report between =>
            have hEvolves := (meets_tick hWell).of_done hTick
            exact (ih (hRest.of_done hTick) (hAttained.course hEvolves.course)
              (hEvolves.orderly hWell hOrderly) (hEvolves.wellFormed hWell)).tick hTick
        | refused error between => exact ((meets_tick hWell).of_refused hTick).elim
        | faulted fault =>
            obtain ⟨rfl, hCause⟩ := hAttained.overflows_tick Or.inl Or.inr fault hTick
            exact Or.inr ⟨0, Nat.succ_pos _, net, rfl, hTick, hCause⟩

theorem Orderly.session {requests : List Request} {responses : List Response}
    (hOrderly : net.Orderly) (hWell : net.WellFormed)
    (hSession : net.session requests = .ok (responses, last)) : last.Orderly := by
  obtain ⟨trace, hRun⟩ := hWell.run_of_session hSession
  exact hRun.orderly hWell hOrderly

end Network

namespace Scenario

open Network

variable {net between after last : Network}

/-! ### The loop at the end of a script -/

/-- How letting ticks pass comes to its end, however many of them that takes: until no snapshot is
outstanding, nothing is under way, or a tick is cut short. -/
inductive Settles : Network → Outcome Network ScenarioError Unit → Prop
  /-- No snapshot is outstanding. -/
  | rested {net : Network} (hNone : net.outstanding = []) : Settles net (.done () net)
  /-- A snapshot is outstanding, and nothing is under way that could complete it. -/
  | stalled {net : Network} (hSome : net.outstanding ≠ []) (hNothing : net.pending = 0) :
      Settles net (.refused (.stalled net.outstanding) net)
  /-- One more tick is cut short. -/
  | faulted {net : Network} {fault : Fault} (hSome : net.outstanding ≠ [])
      (hPending : net.pending ≠ 0) (hTick : tick net = .faulted fault) :
      Settles net (.faulted fault)
  /-- One more tick passes. -/
  | passed {net between : Network} {report : TickReport}
      {outcome : Outcome Network ScenarioError Unit} (hSome : net.outstanding ≠ [])
      (hPending : net.pending ≠ 0) (hTick : tick net = .done report between)
      (hRest : Settles between outcome) : Settles net outcome

/-- Where nothing is outstanding or nothing is under way the loop comes to its end at once. -/
theorem exists_settles_of_ended (hEnded : net.outstanding = [] ∨ net.pending = 0) :
    ∃ outcome, Settles net outcome ∧ ∀ bound, settle bound net = outcome := by
  by_cases hNone : net.outstanding = []
  · exact ⟨.done () net, .rested hNone, fun bound => settle_of_rested bound hNone⟩
  · have hNothing := hEnded.resolve_left hNone
    refine ⟨.refused (.stalled net.outstanding) net, .stalled hNone hNothing, fun bound => ?_⟩
    rw [settle_eq, if_neg hNone, if_pos hNothing]

/-- Elsewhere the loop goes on with a tick. -/
theorem settle_succ (bound : Nat) (hSome : net.outstanding ≠ []) (hPending : net.pending ≠ 0) :
    settle (bound + 1) net =
      (Action.mapError ScenarioError.network tick >>= fun _ => settle bound) net := by
  rw [settle_eq, if_neg hSome, if_neg hPending]

theorem settle_succ_of_tick {report : TickReport} (bound : Nat) (hSome : net.outstanding ≠ [])
    (hPending : net.pending ≠ 0) (hTick : tick net = .done report between) :
    settle (bound + 1) net = settle bound between := by
  have hMapped : Action.mapError ScenarioError.network tick net = .done report between :=
    Action.mapError_eq_done_iff.mpr hTick
  rw [settle_succ bound hSome hPending]
  show Action.bind _ _ net = _
  unfold Action.bind
  rw [hMapped]

/-- The loop comes to an end, and a bound on its ticks that is large enough makes no difference. -/
theorem exists_settles {ticks : Nat} (hRests : net.RestsWithin ticks) (hWell : net.WellFormed)
    (hOrderly : net.Orderly) :
    ∃ outcome, Settles net outcome ∧ ∀ bound, ticks ≤ bound → settle bound net = outcome := by
  induction ticks generalizing net with
  | zero =>
      have hNothing : net.pending = 0 := by
        by_contra hPending
        exact Nat.lt_irrefl 0 (hRests.pos (Nat.pos_of_ne_zero hPending))
      obtain ⟨outcome, hSettles, hSame⟩ := exists_settles_of_ended (Or.inr hNothing)
      exact ⟨outcome, hSettles, fun bound _ => hSame bound⟩
  | succ ticks ih =>
      by_cases hEnded : net.outstanding = [] ∨ net.pending = 0
      · obtain ⟨outcome, hSettles, hSame⟩ := exists_settles_of_ended hEnded
        exact ⟨outcome, hSettles, fun bound _ => hSame bound⟩
      · obtain ⟨hSome, hPending⟩ := not_or.mp hEnded
        have hRest := hRests.tick (Nat.pos_of_ne_zero hPending) hWell hOrderly
        cases hTick : tick net with
        | done report between =>
            have hEvolves := (meets_tick hWell).of_done hTick
            obtain ⟨outcome, hSettles, hSame⟩ := ih (hRest.of_done hTick)
              (hEvolves.wellFormed hWell) (hEvolves.orderly hWell hOrderly)
            refine ⟨outcome, .passed hSome hPending hTick hSettles, fun bound hBound => ?_⟩
            obtain ⟨fewer, rfl⟩ := Nat.exists_eq_add_one.mpr (Nat.lt_of_lt_of_le (Nat.succ_pos _) hBound)
            rw [settle_succ_of_tick fewer hSome hPending hTick]
            exact hSame fewer (Nat.le_of_succ_le_succ hBound)
        | refused error between => exact ((meets_tick hWell).of_refused hTick).elim
        | faulted fault =>
            refine ⟨.faulted fault, .faulted hSome hPending hTick, fun bound hBound => ?_⟩
            obtain ⟨fewer, rfl⟩ := Nat.exists_eq_add_one.mpr (Nat.lt_of_lt_of_le (Nat.succ_pos _) hBound)
            rw [settle_succ fewer hSome hPending]
            apply Action.bind_eq_faulted_iff.mpr
            exact Or.inl (Action.mapError_eq_faulted_iff.mpr hTick)

/-! ### Every state and every script -/

/-- Whatever has been asked of a network, reports from outside included, ticks alone empty it: there
are no more of them than messages under way and links whose source has not begun to record an
outstanding snapshot, times the longest delay. -/
theorem emptiesWithin_and_settles {config : Config} {requests : List Request} {responses : List Response}
    (hBuilt : ofConfig config = .ok net)
    (hSession : net.session requests = .ok (responses, last)) :
    last.EmptiesWithin ((last.pending + last.unbegun.length) * max 1 last.maxDelay.toNat) ∧
      ∀ commands performed, performAll commands last = .done () performed →
        ∃ outcome, Settles performed outcome ∧
          ∀ bound, performed.settleBound ≤ bound → settle bound performed = outcome := by
  have hFresh := fresh_ofConfig hBuilt
  have hAttained := (Attained.of_fresh hFresh).session hSession
  have hOrderly := (orderly_ofConfig hBuilt).session hFresh.wellFormed hSession
  constructor
  · apply (hOrderly.restsWithin_settleBound.emptiesWithin hAttained hOrderly).mono
    unfold settleBound
    exact Nat.mul_le_mul_right _ (Nat.add_le_add_left (hAttained.unsentMarkers_le hOrderly) _)
  · intro commands performed hPerformed
    have hWell := hAttained.wellFormed
    have hLeads : last.Leads 0 performed := (meets_performAll hWell).of_done hPerformed
    have hAfter := hLeads.orderly hWell hOrderly
    exact exists_settles hAfter.restsWithin_settleBound (hLeads.wellFormed hWell) hAfter

/-- Requests that start a snapshot and forge the report of the other node, which will thus never take
part: its marker, for which the first node waits, is not sent. -/
def stuckRequests : List Request :=
  [.call (.send "B" "A" 2), .call (.startSnapshot "A"), .call (.notify ⟨0, "B", 3, []⟩)]

/-- Three messages at the most are delivered, within nine ticks, and the loop at the end of a script
comes to an end although the snapshot does not become complete. -/
theorem emptiesWithin_and_settles_stuck :
    ∃ net responses last performed after, ofConfig pairConfig = .ok net ∧
      net.session stuckRequests = .ok (responses, last) ∧ last.pending = 2 ∧
      last.unbegun = [(0, ⟨"B", "A"⟩)] ∧ last.EmptiesWithin 9 ∧
      performAll [.send "A" "B" 1] last = .done () performed ∧
      Settles performed (.refused (.stalled [0]) after) := by
  have hPerforms : (performed? pairConfig stuckRequests).any (fun outcome =>
      decide (outcome.2.2.pending = 2) && decide (outcome.2.2.maxDelay = 3) &&
      decide (outcome.2.2.unbegun = [(0, ⟨"B", "A"⟩)]) &&
      decide (((performAll [.send "A" "B" 1] outcome.2.2).done?.bind fun performed =>
        (settle performed.2.settleBound performed.2).refused?.map Prod.fst) =
          some (.stalled [0]))) = true := by
    decide +kernel
  obtain ⟨net, responses, last, hBuilt, hSession, hChecks⟩ := exists_of_performed? hPerforms
  simp only [Bool.and_eq_true, decide_eq_true_eq] at hChecks
  obtain ⟨⟨⟨hPending, hDelay⟩, hUnbegun⟩, hEnd⟩ := hChecks
  obtain ⟨hEmpties, hSettles⟩ := emptiesWithin_and_settles hBuilt hSession
  rw [hPending, hUnbegun, hDelay] at hEmpties
  obtain ⟨⟨⟨⟩, performed⟩, hPerformed, hStalled⟩ := Option.bind_eq_some_iff.mp hEnd
  obtain ⟨⟨error, after⟩, hRefused, rfl⟩ := Option.map_eq_some_iff.mp hStalled
  have hDone := Outcome.done?_eq_some_iff.mp hPerformed
  obtain ⟨outcome, hOutcome, hSame⟩ := hSettles _ performed hDone
  have hLast := (hSame _ (Nat.le_refl _)).symm.trans (Outcome.refused?_eq_some_iff.mp hRefused)
  exact ⟨net, responses, last, performed, after, hBuilt, hSession, hPending, hUnbegun, hEmpties, hDone,
    hLast ▸ hOutcome⟩

/-- A node that holds as many tokens as a word can count, and one that can send it one more. -/
def brimConfig : Config where
  seed := 1
  maxDelay := 1
  nodes := [⟨"A", 18446744073709551615⟩, ⟨"B", 1⟩]
  links := [⟨"B", "A"⟩]

/-- Time alone is not all that can cut a tick short: one token is under way, which one tick would
deliver, and no number of ticks within the bound empties the network. -/
theorem not_empties_brim :
    ∃ net responses last, ofConfig brimConfig = .ok net ∧
      net.session [.call (.send "B" "A" 1)] = .ok (responses, last) ∧
      last.pending = 1 ∧ last.unbegun = [] ∧ last.tickNow = 0 ∧ last.maxDelay = 1 ∧
      ¬ ∃ ticks ≤ (last.pending + last.unbegun.length) * max 1 last.maxDelay.toNat,
        ∃ after, pass ticks last = .done () after ∧ after.pending = 0 := by
  have hPerforms : (performed? brimConfig [.call (.send "B" "A" 1)]).any (fun outcome =>
      decide (outcome.2.2.pending = 1) && decide (outcome.2.2.unbegun = []) &&
      decide (outcome.2.2.tickNow = 0) && decide (outcome.2.2.maxDelay = 1) &&
      (pass 1 outcome.2.2).done?.isNone) = true := by
    decide +kernel
  obtain ⟨net, responses, last, hBuilt, hSession, hChecks⟩ := exists_of_performed? hPerforms
  simp only [Bool.and_eq_true, decide_eq_true_eq, Option.isNone_iff_eq_none] at hChecks
  obtain ⟨⟨⟨⟨hPending, hUnbegun⟩, hNow⟩, hDelay⟩, hCut⟩ := hChecks
  refine ⟨net, responses, last, hBuilt, hSession, hPending, hUnbegun, hNow, hDelay, ?_⟩
  rintro ⟨ticks, hTicks, after, hPass, hNothing⟩
  rw [hPending, hUnbegun, hDelay] at hTicks
  have hFew : ticks = 0 ∨ ticks = 1 := by
    have hOne : ticks ≤ 1 := hTicks
    omega
  rcases hFew with rfl | rfl
  · cases hPass
    omega
  · rw [hPass] at hCut
    cases hCut

end Scenario
end TokenNet
