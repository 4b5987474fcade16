import TokenNet.Proofs.CrewSteps

namespace TokenNet

/-!
# Scripts in several threads

A script that is carried out by a driver and its waiters comes to an end, whatever the order in which the
threads take their steps, and it comes to the same end as in one thread (`Scenario.threads_agree`).
-/

namespace Crew

open Network Scenario

variable {start net : Network} {crew last : Crew} {commands : List Command}

/-- Some steps, one after another, lead from one crew to another. -/
def Reaches (crew last : Crew) : Prop := Relation.ReflTransGen Step crew last

theorem sound_start (hReachable : net.Reachable) (hOrderly : net.Orderly) (commands : List Command) :
    (Crew.start commands net).Sound net := by
  have hWell := hReachable.wellFormed
  have hNone : net.retainedFrom net.nextSnapshot = [] := by
    refine List.eq_nil_iff_forall_not_mem.mpr fun id hId => ?_
    obtain ⟨hUsed, hNew⟩ := mem_retainedFrom.mp hId
    exact UInt64.not_lt.mpr hNew (hWell.mem_collectors_iff.mp hUsed).1
  exact ⟨hReachable, hOrderly, Std.Refl.refl net, hNone.symm,
    fun _ hNobody => absurd hNobody List.not_mem_nil, List.Perm.nil⟩

theorem outcome_start (commands : List Command) (net : Network) :
    (Crew.start commands net).outcome net.nextSnapshot =
      Action.mapError CrewError.scenario (runScript commands) net :=
  (mapError_runScript commands net).symm

/-- Along all steps what the script will have ended in stays the same. -/
theorem Sound.reaches (hSound : crew.Sound start) (hStart : start.WellFormed)
    (hReaches : crew.Reaches last) :
    last.Sound start ∧ last.outcome start.nextSnapshot = crew.outcome start.nextSnapshot := by
  induction hReaches with
  | refl => exact ⟨hSound, rfl⟩
  | tail hEarlier hStep ih =>
      have hFollows := ih.1.follows hStart hStep
      exact ⟨hFollows.sound, hFollows.outcome_eq.trans ih.2⟩

theorem outcome_of_ending? {ending : Outcome Network CrewError (List Snapshot)} (first : SnapshotId)
    (hEnding : crew.ending? = some ending) : crew.outcome first = ending := by
  unfold ending? at hEnding
  unfold outcome
  cases hStage : crew.stage with
  | finished result =>
      rw [hStage] at hEnding
      cases result <;> exact Option.some.inj hEnding
  | crashed fault =>
      rw [hStage] at hEnding
      exact Option.some.inj hEnding
  | _ =>
      rw [hStage] at hEnding
      cases hEnding

/-- When the driver has come to its end without having been cut short, so have all waiters. -/
theorem Sound.hasEnded {ending : Outcome Network CrewError (List Snapshot)} (hSound : crew.Sound start)
    (hEnding : crew.ending? = some ending) (hUncut : ∀ fault, ending ≠ .faulted fault) :
    ∀ waiter ∈ crew.waiters, waiter.hasEnded = true := by
  obtain ⟨net, stage, waiters, mailbox⟩ := crew
  cases stage with
  | finished result => exact hSound
  | crashed fault => exact absurd (Option.some.inj hEnding).symm (hUncut fault)
  | _ => cases hEnding

/-- Threads that go on taking steps come to an end. -/
theorem Sound.exists_ending (hSound : crew.Sound start) (hStart : start.WellFormed) :
    ∃ last, crew.Reaches last ∧ last.ending?.isSome = true := by
  -- By induction on how much is left to do.
  induction hWeight : crew.weight using WellFoundedLT.induction generalizing crew with
  | ind weight ih =>
      subst hWeight
      cases hEnding : crew.ending? with
      | some ending => exact ⟨crew, Relation.ReflTransGen.refl, by rw [hEnding]; rfl⟩
      | none =>
          obtain ⟨after, hStep⟩ := hSound.exists_step hEnding
          have hFollows := hSound.follows hStart hStep
          obtain ⟨last, hReaches, hLast⟩ := ih after.weight hFollows.lighter hFollows.sound rfl
          exact ⟨last, Relation.ReflTransGen.head hStep hReaches, hLast⟩

/-- Threads do not take steps for ever. -/
theorem Sound.not_forever (hSound : crew.Sound start) (hStart : start.WellFormed) :
    ¬ ∃ run : ℕ → Crew, run 0 = crew ∧ ∀ step, (run step).Step (run (step + 1)) := by
  rintro ⟨run, rfl, hSteps⟩
  have hSounds : ∀ step, (run step).Sound start := by
    intro step
    induction step with
    | zero => exact hSound
    | succ step ih => exact (ih.follows hStart (hSteps step)).sound
  obtain ⟨step, hHeavier⟩ :=
    WellFounded.not_rel_apply_succ (r := (· < ·)) fun step => (run step).weight
  exact hHeavier ((hSounds step).follows hStart (hSteps step)).lighter

end Crew

namespace Scenario

open Network

variable {net : Network}

/-- However the threads of a script take turns, it ends in the given way. -/
structure EndsInThreads (commands : List Command) (net : Network)
    (result : Outcome Network CrewError (List Snapshot)) : Prop where
  /-- Whenever the driver has come to its end, it is this end. -/
  agrees : ∀ crew ending, (Crew.start commands net).Reaches crew → crew.ending? = some ending →
    ending = result
  /-- Then all waiters have ended, unless the driver has been cut short. -/
  quits : ∀ crew ending, (Crew.start commands net).Reaches crew → crew.ending? = some ending →
    (∀ fault, ending ≠ .faulted fault) → ∀ waiter ∈ crew.waiters, waiter.hasEnded = true
  /-- Until then some thread can take a step. -/
  proceeds : ∀ crew, (Crew.start commands net).Reaches crew → crew.ending? = none →
    ∃ after, crew.Step after
  /-- The driver can come to its end. -/
  ends : ∃ crew, (Crew.start commands net).Reaches crew ∧ crew.ending? = some result
  /-- No order of steps goes on for ever. -/
  terminates : ¬ ∃ run : ℕ → Crew, run 0 = Crew.start commands net ∧
    ∀ step, (run step).Step (run (step + 1))

theorem endsInThreads (hReachable : net.Reachable) (hOrderly : net.Orderly)
    (commands : List Command) :
    EndsInThreads commands net
      (Action.mapError CrewError.scenario (runScript commands) net) := by
  have hWell := hReachable.wellFormed
  have hStart := Crew.sound_start hReachable hOrderly commands
  have hAgrees : ∀ crew ending, (Crew.start commands net).Reaches crew → crew.ending? = some ending →
      ending = Action.mapError CrewError.scenario (runScript commands) net := by
    intro crew ending hReaches hEnding
    rw [← Crew.outcome_of_ending? net.nextSnapshot hEnding, (hStart.reaches hWell hReaches).2]
    exact Crew.outcome_start commands net
  refine ⟨hAgrees, fun crew ending hReaches => (hStart.reaches hWell hReaches).1.hasEnded,
    fun crew hReaches => (hStart.reaches hWell hReaches).1.exists_step, ?_, hStart.not_forever hWell⟩
  obtain ⟨last, hReaches, hLast⟩ := hStart.exists_ending hWell
  obtain ⟨ending, hEnding⟩ := Option.isSome_iff_exists.mp hLast
  exact ⟨last, hReaches, hAgrees last ending hReaches hEnding ▸ hEnding⟩

/-- However a network has been used without reports from outside, a script in several threads ends as
it does in one thread, whatever the order in which its waiters tell what they have got.  In one thread
the commands are carried out one after another, ticks pass until nothing is outstanding and a few more,
and the snapshots of the script are handed out or, if a command fails, given up. -/
theorem threads_agree {config : Config} {first : Network} {requests : List Request}
    {responses : List Response} (hBuilt : ofConfig config = .ok first)
    (hOwn : ∀ request ∈ requests, request.isNotify = false)
    (hSession : first.session requests = .ok (responses, net)) (commands : List Command) :
    EndsInThreads commands net (Action.mapError CrewError.scenario (runScript commands) net) ∧
      Ends commands net (runScript commands net) := by
  have hFresh := fresh_ofConfig hBuilt
  obtain ⟨-, trace, hRun⟩ := hFresh.wellFormed.confirms_of_session hSession
  have hReachable := reachable_of_session hBuilt hOwn hSession
  have hOrderly := hRun.orderly hFresh.wellFormed (orderly_ofConfig hBuilt)
  exact ⟨endsInThreads hReachable hOrderly commands, ends_runScript hReachable hOrderly commands⟩

/-- What happens before the scripts below: a snapshot is started. -/
def threadRequests : List Request := [.call (.startSnapshot "A"), .call .tick]

/-- A script that succeeds. -/
def handingOut : List Command := [.snapshot "B", .send "A" "B" 2, .snapshot "A"]

/-- A script that fails when one of its snapshots is complete and another one is not. -/
def givingUp : List Command := [.snapshot "B", .tick 4, .snapshot "A", .send "B" "C" 1]

/-- The failure of that script. -/
def noLink : ScenarioError := .network (.node "B" (.unknownDestination "B" "C"))

theorem threads_agree_pair :
    ∃ first net responses snapshots after failed given assembled, ofConfig pairConfig = .ok first ∧
      (∀ request ∈ threadRequests, request.isNotify = false) ∧
      first.session threadRequests = .ok (responses, net) ∧
      EndsInThreads handingOut net (.done snapshots after) ∧
      HandsOut handingOut net snapshots after ∧
      snapshots.map Snapshot.id = [1, 2] ∧ after.collectors.keys = [0] ∧
      EndsInThreads givingUp net (.refused (.scenario noLink) given) ∧
      GivesUp givingUp net noLink failed given ∧
      given.collectors.keys = [0, 1, 2] ∧ given.waitOn ⟨1⟩ = some (.ready assembled) ∧
      given.waitOn ⟨2⟩ = some .abandoned := by
  obtain ⟨first, responses, net, hBuilt, hSession, hCheck⟩ := exists_of_performed?
    (show (performed? pairConfig threadRequests).any (fun outcome =>
      ((runScript handingOut outcome.2.2).done?.any fun handed =>
        decide (handed.1.map Snapshot.id = [1, 2] ∧ handed.2.collectors.keys = [0])) &&
      (runScript givingUp outcome.2.2).refused?.any fun given =>
        decide (given.1 = noLink ∧ given.2.collectors.keys = [0, 1, 2] ∧
          (given.2.completed? 1).isSome = true ∧ given.2.waitOn ⟨2⟩ = some .abandoned)) = true
      by decide +kernel)
  have hOwn : ∀ request ∈ threadRequests, request.isNotify = false := by decide
  rw [Bool.and_eq_true, Option.any_eq_true, Option.any_eq_true] at hCheck
  obtain ⟨⟨⟨snapshots, after⟩, hDone, hHanded⟩, ⟨error, given⟩, hRefused, hGiven⟩ := hCheck
  rw [decide_eq_true_iff] at hHanded hGiven
  obtain ⟨hIds, hKeys⟩ := hHanded
  obtain ⟨rfl, hGivenKeys, hComplete, hAbandoned⟩ := hGiven
  obtain ⟨assembled, hCompleted⟩ := Option.isSome_iff_exists.mp hComplete
  obtain ⟨hGood, hGoodEnds⟩ := threads_agree hBuilt hOwn hSession handingOut
  obtain ⟨hBad, hBadEnds⟩ := threads_agree hBuilt hOwn hSession givingUp
  rw [Outcome.done?_eq_some_iff.mp hDone] at hGoodEnds
  rw [Outcome.refused?_eq_some_iff.mp hRefused] at hBadEnds
  rw [Action.mapError_eq_done_iff.mpr (Outcome.done?_eq_some_iff.mp hDone)] at hGood
  rw [Action.mapError_eq_refused_iff.mpr ⟨noLink, Outcome.refused?_eq_some_iff.mp hRefused, rfl⟩]
    at hBad
  obtain ⟨failed, hGivesUp⟩ := hBadEnds
  exact ⟨first, net, responses, snapshots, after, failed, given, assembled, hBuilt, hOwn, hSession,
    hGood, hGoodEnds, hIds, hKeys, hBad, hGivesUp, hGivenKeys, waitOn_eq_ready_iff.mpr hCompleted,
    hAbandoned⟩

end Scenario

end TokenNet
