import TokenNet.Proofs.Deliveries
import TokenNet.Proofs.Lanes
import TokenNet.Proofs.Progress

namespace TokenNet

/-!
# What a script leaves under way

Once no snapshot is outstanding, nothing but tokens is under way
(`Network.Reachable.onlyTokens`).  From then on a script lets as many ticks pass as the longest
delay has, and one more.  This is enough for each message by itself, but a node sends off one
parcel in a tick, and its parcels may be more than the ticks.  So what is under way at the end of
a script is nothing exactly if every lane can be worked off within these ticks
(`Scenario.drained_iff`).
-/

namespace Network

variable {net : Network}

/-- Nothing but tokens is under way while no snapshot is outstanding. -/
theorem Reachable.onlyTokens (hReachable : net.Reachable) (hRested : net.outstanding = []) :
    net.OnlyTokens := by
  intro link parcel hParcel
  have hWell := hReachable.wellFormed
  cases hMessage : parcel.message with
  | token amount => exact ⟨amount, rfl⟩
  | marker snapshot =>
      -- The snapshot is complete, and its markers are gone.
      obtain ⟨collector, hFound, hComplete⟩ : ∃ collector,
          net.collectorOf? ⟨snapshot⟩ = some collector ∧ collector.isComplete = true :=
        hWell.exists_complete hRested (hWell.marked hParcel hMessage)
      exact absurd hMessage (hWell.marker_ne_of_complete (hReachable.accounted snapshot) hFound
        hComplete hParcel)

end Network

theorem ChannelTable.load_row_eq_zero_iff {table : ChannelTable} {source : String} :
    Lane.load (table.row source) = 0 ↔ ∀ target, table.queue ⟨source, target⟩ = [] := by
  rw [Lane.load_eq_zero_iff]
  constructor
  · intro hNone target
    by_cases hLink : table.contains ⟨source, target⟩ = true
    · obtain ⟨channel, hFound⟩ := contains_iff.mp hLink
      rw [queue_of_get? hFound]
      exact hNone target channel hFound
    · exact queue_eq_nil hLink
  · intro hNone target channel hFound
    have hQueue : table.queue ⟨source, target⟩ = channel.queue := queue_of_get? hFound
    rw [← hQueue]
    exact hNone target

namespace Network

variable {net after : Network}

/-- Nothing is under way if no lane has anything on it. -/
theorem WellFormed.pending_eq_zero_iff (hWell : net.WellFormed) :
    net.pending = 0 ↔ ∀ source ∈ net.nodes.keys, Lane.load (net.channels.row source) = 0 := by
  rw [Network.pending_eq_zero_iff]
  constructor
  · intro hNone source _
    exact ChannelTable.load_row_eq_zero_iff.mpr fun target => hNone ⟨source, target⟩
  · intro hNone link
    by_cases hLink : net.channels.contains link = true
    · exact ChannelTable.load_row_eq_zero_iff.mp
        (hNone link.source (hWell.wired.source_known hLink)) link.target
    · exact ChannelTable.queue_eq_nil hLink

/-- Nothing is under way if everything that was sent has been received. -/
theorem pending_eq_zero_iff_received (hAccounts : net.journal.Accounts net.channels) :
    net.pending = 0 ↔ ∀ link, net.journal.sentOn link = net.journal.receivedOn link := by
  rw [Network.pending_eq_zero_iff]
  apply forall_congr'
  intro link
  rw [hAccounts link, List.append_right_eq_self, List.map_eq_nil_iff]

/-- Whether all that is under way leaves within as many ticks as the longest delay has, and one
more. -/
def Drains (net : Network) : Prop :=
  ∀ source ∈ net.nodeNames,
    Lane.DrainsWithin (net.channels.row source) net.tickNow.toNat (net.maxDelay.toNat + 1)

instance (net : Network) : Decidable net.Drains :=
  inferInstanceAs (Decidable (∀ source ∈ net.nodeNames, _))

end Network

namespace Scenario

open Network

variable {net after : Network}

/-- Taking snapshots away moves nothing. -/
theorem meets_collectAll {ids : List SnapshotId} :
    (collectAll ids net).Meets
      (fun _ after => after.channels = net.channels ∧ after.journal = net.journal)
      (fun _ _ => True) := by
  induction ids generalizing net with
  | nil => exact ⟨rfl, rfl⟩
  | cons id rest ih =>
      refine Action.meets_bind ((meets_tryCollect net id).mono (fun _ _ hTaken => hTaken)
        fun _ _ _ => True.intro) fun taken between hTaken => ?_
      have hSame : between.channels = net.channels ∧ between.journal = net.journal := by
        cases taken with
        | none =>
            obtain rfl : between = net := hTaken
            exact ⟨rfl, rfl⟩
        | some assembled =>
            obtain ⟨collector, -, -, rfl⟩ := hTaken
            exact ⟨rfl, rfl⟩
      apply Action.meets_bind ih
      rintro later last ⟨hChannels, hJournal⟩
      exact ⟨hChannels.trans hSame.1, hJournal.trans hSame.2⟩

/-- A script that succeeds comes to rest, lets a few ticks pass and takes its snapshots away. -/
theorem runScript_eq_done {commands : List Command} {snapshots : List Snapshot}
    (hScript : runScript commands net = .done snapshots after) :
    ∃ rested passed, rest commands net = .done () rested ∧
      pass (rested.maxDelay.toNat + 1) rested = .done () passed ∧
      after.channels = passed.channels ∧ after.journal = passed.journal := by
  unfold runScript at hScript
  cases hDriven : drive commands net with
  | refused error driven =>
      rw [hDriven] at hScript
      cases hScript
  | faulted fault =>
      rw [hDriven] at hScript
      cases hScript
  | done value passed =>
      simp only [hDriven] at hScript
      rw [drive_eq] at hDriven
      obtain ⟨_, rested, hRest, hPass⟩ := Action.bind_eq_done_iff.mp hDriven
      refine ⟨rested, passed, hRest, Action.mapError_eq_done_iff.mp hPass, ?_⟩
      exact meets_collectAll.of_done (Action.mapError_eq_done_iff.mp hScript)

/-- A script on a network of a configuration leaves nothing under way, and everything that was
sent has been received, exactly if all that was under way when the last snapshot was complete
leaves within as many ticks as the longest delay has, and one more. -/
theorem drained_iff {config : Config} {commands : List Command} {snapshots : List Snapshot}
    (hBuilt : ofConfig config = .ok net)
    (hScript : runScript commands net = .done snapshots after) :
    ∃ rested, rest commands net = .done () rested ∧ rested.outstanding = [] ∧
      ((after.pending = 0 ∧
          ∀ link, after.journal.sentOn link = after.journal.receivedOn link) ↔ rested.Drains) := by
  have hFresh := fresh_ofConfig hBuilt
  have hReachable : net.Reachable := ⟨net, 0, hFresh, Leads.refl net⟩
  obtain ⟨rested, passed, hRest, hPass, hChannels, hJournal⟩ := runScript_eq_done hScript
  obtain ⟨hLeads, hRested⟩ := (meets_rest hReachable).of_done hRest
  have hStill := hReachable.leads hLeads
  have hEvolves : rested.Evolves passed := (meets_pass hStill.wellFormed).of_done hPass
  have hPassed := hEvolves.wellFormed hStill.wellFormed
  have hAccounts : after.journal.Accounts after.channels := by
    obtain ⟨trace, hRun, -⟩ := hLeads.trans hEvolves.leads
    rw [hChannels, hJournal]
    exact hRun.accounts hFresh
  have hSame : after.pending = passed.pending := by
    unfold pending
    rw [hChannels]
  refine ⟨rested, hRest, hRested, ?_⟩
  rw [← pending_eq_zero_iff_received hAccounts, and_self, hSame, hPassed.pending_eq_zero_iff]
  -- From now on nothing but tokens is under way, and the last ticks work off the lanes.
  have hLanes := (meets_pass_lanes hStill.wellFormed (hStill.onlyTokens hRested)).of_done hPass
  constructor
  · intro hEmpty source hSource
    exact (hLanes source hSource).mp
      (hEmpty source ((hEvolves.extends hStill.wellFormed).mem_nodes_iff.mpr hSource))
  · intro hDrains source hSource
    have hKnown := (hEvolves.extends hStill.wellFormed).mem_nodes_iff.mp hSource
    exact (hLanes source hKnown).mpr (hDrains source hKnown)

/-- The network of a configuration, and what a script that succeeds makes of it. -/
def ran? (config : Config) (commands : List Command) :
    Option (Network × List Snapshot × Network) :=
  match ofConfig config with
  | .error _ => none
  | .ok net =>
      match runScript commands net with
      | .done snapshots after => some (net, snapshots, after)
      | _ => none

theorem of_ran? {config : Config} {commands : List Command} {snapshots : List Snapshot}
    (hRan : ran? config commands = some (net, snapshots, after)) :
    ofConfig config = .ok net ∧ runScript commands net = .done snapshots after := by
  unfold ran? at hRan
  cases hBuilt : ofConfig config with
  | error error =>
      rw [hBuilt] at hRan
      cases hRan
  | ok built =>
      simp only [hBuilt] at hRan
      cases hScript : runScript commands built with
      | done value last =>
          rw [hScript] at hRan
          cases hRan
          exact ⟨rfl, hScript⟩
      | refused error last =>
          rw [hScript] at hRan
          cases hRan
      | faulted fault =>
          rw [hScript] at hRan
          cases hRan

/-- Of two messages sent one after another, with no delay, the second one is left under way:
there is only one tick left. -/
theorem drained_iff_two_sends :
    ∃ net snapshots after rested, ofConfig { pairConfig with maxDelay := 0 } = .ok net ∧
      runScript [.send "A" "B" 1, .send "A" "B" 1] net = .done snapshots after ∧
      after.pending = 1 ∧ rest [.send "A" "B" 1, .send "A" "B" 1] net = .done () rested ∧
      ¬ rested.Drains := by
  have hRuns : (ran? { pairConfig with maxDelay := 0 } [.send "A" "B" 1, .send "A" "B" 1]).any
      (fun outcome => decide (outcome.2.2.pending = 1)) = true := by
    decide +kernel
  obtain ⟨⟨net, snapshots, after⟩, hRan, hLeft⟩ := (Option.any_eq_true _ _).mp hRuns
  obtain ⟨hBuilt, hScript⟩ := of_ran? hRan
  have hPending : after.pending = 1 := of_decide_eq_true hLeft
  obtain ⟨rested, hRest, -, hIff⟩ := drained_iff hBuilt hScript
  refine ⟨net, snapshots, after, rested, hBuilt, hScript, hPending, hRest, fun hDrains => ?_⟩
  have hNone := (hIff.mpr hDrains).1
  rw [hPending] at hNone
  cases hNone

end Scenario

end TokenNet
