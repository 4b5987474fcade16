import TokenNet.Proofs.CompleteJournal
import TokenNet.Proofs.Overflows

namespace TokenNet
namespace Network

/-!
# The tokens of a network stay the same

Once something has been asked of a network no node is added any more (`Network.Run.opened_eq_nil`),
and only nodes bring tokens in (`Network.Course.wealth_eq`).  So the total stays the same through all
calls, reports from outside included, whether or not they are carried out
(`Network.live_tokens_conserved`).
-/

variable {net after middle last : Network} {happenings trace : List Happening}

/-! ### When the nodes are complete -/

theorem MarkerEffect.started {source target : String} {snapshot : SnapshotId}
    (hEffect : MarkerEffect net source target snapshot after) : after.started = net.started := by
  cases hEffect with
  | first => exact started_withRecording ..
  | next => exact started_withRecording ..
  | _ => rfl

/-- A network that has been used stays in use, and no node is added. -/
theorem Change.started (hChange : Change net happenings after) (hStarted : net.started = true) :
    after.started = true ∧ opened happenings = [] := by
  have hClosed : net.started ≠ false := by simp [hStarted]
  cases hChange with
  | idle clock generator hKept hClock => exact ⟨hKept hStarted, rfl⟩
  | addNode tokens hOpen hNew => exact absurd hOpen hClosed
  | addLink hOpen hSource hTarget hDistinct hNew => exact absurd hOpen hClosed
  | send generator due hNode hLink hEnough hPunctual => exact ⟨rfl, rfl⟩
  | announce hName hNext => exact ⟨rfl, rfl⟩
  | join hNode hFresh hFound hAwaited hTargets hParcels hPunctual =>
      exact ⟨(started_withRecording ..).trans hStarted, rfl⟩
  | marker hQueue hEffect hDue =>
      exact ⟨hEffect.started.trans hStarted, (inner_arrival net _).opened_eq_nil⟩
  | _ => exact ⟨hStarted, rfl⟩

/-- No run adds a node to a network that has been used. -/
theorem Run.opened_eq_nil (hRun : Run net trace after) (hWell : net.WellFormed)
    (hStarted : net.started = true) : opened trace = [] := by
  have hBoth : after.started = true ∧ opened trace = [] := by
    induction hRun with
    | start => exact ⟨hStarted, rfl⟩
    | step hEarlier hStep ih =>
        obtain ⟨hBetween, hNone⟩ := ih
        obtain ⟨hAfter, hNow⟩ :=
          (hStep.change (hEarlier.wellFormed hWell)).started hBetween
        exact ⟨hAfter, by rw [opened_append, hNone, hNow, List.append_nil]⟩
  exact hBoth.2

/-- No call adds a node to a network that has been used. -/
theorem accepted_eq_nil {calls : List Call} {replies : List Reply} (hWell : net.WellFormed)
    (hStarted : net.started = true) (hHistory : net.history calls = .ok (replies, last)) :
    accepted calls replies = [] := by
  obtain ⟨trace, hRun, hOpened⟩ := course_of_history hWell hHistory
  rw [← hOpened]
  exact hRun.opened_eq_nil hWell hStarted

/-! ### The total -/

/-- A network has the tokens that its nodes were added with. -/
theorem Course.wealth_eq {seed maxDelay : UInt64} {nodes : List InitialNode}
    (hCourse : (Network.empty seed maxDelay).Course nodes net) :
    net.wealth = naturalSum (nodes.map InitialNode.tokens) := by
  obtain ⟨trace, hRun, rfl⟩ := hCourse
  have hNothing : (Ledger.start (Network.empty seed maxDelay)).total = 0 := rfl
  rw [hRun.tokens_eq (fresh_empty seed maxDelay), hNothing, Nat.zero_add, Ledger.openings_eq]

/-- Once the nodes are complete the total of a network stays the same, whatever the calls are and
in whatever order they come, as long as it fits into a word; and then no call is cut short for the
sake of tokens. -/
theorem live_tokens_conserved {config : Config} {building calls : List Call}
    {earlier later : List Reply} (hBuilt : ofConfig config = .ok net)
    (hBuilding : net.history building = .ok (earlier, middle))
    (hFits : naturalSum ((config.nodes ++ accepted building earlier).map InitialNode.tokens) <
      2 ^ 64)
    (hHistory : middle.history calls = .ok (later, last))
    (hComplete : middle.started = true ∨ accepted calls later = []) :
    ∃ total : UInt64,
      total.toNat = naturalSum ((config.nodes ++ accepted building earlier).map InitialNode.tokens) ∧
        middle.totalTokens = .ok total ∧ last.totalTokens = .ok total ∧
          ∀ call, (answer call last).OverflowsOnlyIf last.Exhausted := by
  have hCourse := course_of_built hBuilt hBuilding
  have hWell := hCourse.wellFormed (fresh_empty config.seed config.maxDelay).wellFormed
  have hNone : accepted calls later = [] :=
    hComplete.elim (fun hStarted => accepted_eq_nil hWell hStarted hHistory) id
  have hLater : middle.Course [] last := hNone ▸ course_of_history hWell hHistory
  have hWhole := hCourse.trans hLater
  have hWealth := hWhole.wealth_eq
  rw [List.append_nil] at hWealth
  obtain ⟨total, hTotal⟩ := exists_toNat_eq _ hFits
  refine ⟨total, hTotal, totalTokens_eq_ok (hCourse.wealth_eq.trans hTotal.symm),
    totalTokens_eq_ok (hWealth.trans hTotal.symm), fun call => ?_⟩
  have hAttained : last.Attained := (Attained.of_fresh (fresh_empty _ _)).course hWhole
  apply (hAttained.overflows call).mono
  rintro (hExhausted | hTooMany)
  · exact hExhausted
  · exact absurd (hWealth ▸ hTooMany) (Nat.not_le.mpr hFits)

/-- Calls that come once a node has been asked to send: a report is forged, a marker turned down, a
node comes too late, and tokens are to be sent that nobody has. -/
def lateCalls : List Call :=
  forgedCalls.drop 3 ++ [.addNode "D" 7, .send "A" "B" 100, .tick]

/-- The sample network keeps the total of its three nodes. -/
theorem live_tokens_conserved_forged :
    ∃ net earlier middle later last, ofConfig pairConfig = .ok net ∧
      net.history (forgedCalls.take 3) = .ok (earlier, middle) ∧
      middle.history lateCalls = .ok (later, last) ∧ last.rejected = 1 ∧
      middle.totalTokens = .ok 10 ∧ last.totalTokens = .ok 10 ∧
      ∀ call, (answer call last).OverflowsOnlyIf last.Exhausted := by
  have hPlays : (played? pairConfig (forgedCalls.take 3)).any (fun outcome =>
      decide (accepted (forgedCalls.take 3) outcome.2.1 = [⟨"C", 2⟩]) && outcome.2.2.started &&
      (outcome.2.2.history lateCalls).toOption.any fun played =>
        decide (played.2.rejected = 1)) = true := by
    decide +kernel
  obtain ⟨net, earlier, middle, hBuilt, hBuilding, hChecks⟩ := exists_of_played? hPlays
  simp only [Bool.and_eq_true, decide_eq_true_eq] at hChecks
  obtain ⟨⟨hAccepted, hStarted⟩, hLater⟩ := hChecks
  obtain ⟨⟨later, last⟩, hSome, hRejected⟩ := (Option.any_eq_true _ _).mp hLater
  have hHistory : middle.history lateCalls = .ok (later, last) := by
    cases hPlayed : middle.history lateCalls with
    | error fault => simp [hPlayed, Except.toOption] at hSome
    | ok outcome => simpa [hPlayed, Except.toOption] using hSome
  have hSum : naturalSum ((pairConfig.nodes ++ accepted (forgedCalls.take 3) earlier).map
      InitialNode.tokens) = 10 := by
    rw [hAccepted]
    rfl
  obtain ⟨total, hTotal, hMiddle, hLast, hOverflows⟩ := live_tokens_conserved hBuilt hBuilding
    (by rw [hSum]; decide) hHistory (Or.inl hStarted)
  obtain rfl : total = 10 := UInt64.toNat_inj.mp (hTotal.trans hSum)
  exact ⟨net, earlier, middle, later, last, hBuilt, hBuilding, hHistory,
    of_decide_eq_true hRejected, hMiddle, hLast, hOverflows⟩

end Network
end TokenNet
