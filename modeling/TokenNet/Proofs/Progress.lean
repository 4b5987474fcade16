import TokenNet.Proofs.Scripts
import TokenNet.Proofs.Totals

namespace TokenNet

/-!
# No snapshot gets stuck

As long as some node has to report on a snapshot, a marker of this snapshot is under way
(`Network.Reachable.exists_marker`).  For if a node has not reported, some node takes part and
another one does not, or a marker is still awaited; in both cases some link leads from a node
that takes part to one that still lacks the marker.  So a script never finds a snapshot
incomplete with nothing under way (`Network.never_stuck`).
-/

/-- A path that leaves a set crosses its border. -/
theorem exists_crossing {α : Type} {link : α → α → Prop} (P : α → Prop) {start last : α}
    (hPath : Relation.ReflTransGen link start last) (hStart : P start) (hLast : ¬ P last) :
    ∃ source target, link source target ∧ P source ∧ ¬ P target := by
  induction hPath with
  | refl => exact absurd hStart hLast
  | @tail between last hEarlier hLink ih =>
      by_cases hBetween : P between
      · exact ⟨between, last, hLink, hBetween, hLast⟩
      · exact ih hBetween

namespace Network

variable {net : Network} {snapshot : SnapshotId}

/-- A link from a node that takes part to one that still lacks the marker carries the marker. -/
theorem exists_marker_of_open {source target : String} (hAccounted : (net.cut snapshot).Accounted)
    (hLinked : net.LinkedTo source target) (hSource : (net.part? snapshot source).isSome = true)
    (hOpen : (net.cut snapshot).isClosed ⟨source, target⟩ = false) :
    ∃ parcel ∈ net.channels.queue ⟨source, target⟩, parcel.message = .marker snapshot := by
  have hCount : ((net.cut snapshot).flow ⟨source, target⟩).count .mark = 1 :=
    (hAccounted.count_mark hLinked).trans (Cut.expected_eq_one_iff.mpr ⟨hSource, hOpen⟩)
  have hMark : Cut.Item.mark ∈ (net.cut snapshot).flow ⟨source, target⟩ :=
    List.count_pos_iff.mp (hCount ▸ Nat.one_pos)
  rw [flow_cut] at hMark
  obtain ⟨parcel, hParcel, hItem⟩ := List.mem_filterMap.mp hMark
  refine ⟨parcel, hParcel, ?_⟩
  unfold Parcel.item? at hItem
  cases hMessage : parcel.message with
  | token amount =>
      rw [hMessage] at hItem
      cases hItem
  | marker other =>
      simp only [hMessage, Option.ite_none_right_eq_some] at hItem
      rw [hItem.1]

/-- If some node does not take part in a snapshot, a marker is under way to such a node. -/
theorem Reachable.exists_marker_of_idle {name : String} (hReachable : net.Reachable)
    (hStarted : snapshot < net.nextSnapshot) (hName : name ∈ net.nodes.keys)
    (hIdle : net.part? snapshot name = none) :
    ∃ link, ∃ parcel ∈ net.channels.queue link, parcel.message = .marker snapshot := by
  obtain ⟨origin, hOrigin, hAll⟩ := hReachable.grounded snapshot hStarted
  have hOutside : ¬ (net.part? snapshot name).isSome = true := Option.not_isSome_iff_eq_none.mpr hIdle
  have hPath : net.Reaches origin name := (hAll name hName).resolve_left hOutside
  obtain ⟨source, target, hLinked, hSource, hTarget⟩ :=
    exists_crossing (fun other => (net.part? snapshot other).isSome = true) hPath hOrigin hOutside
  refine ⟨⟨source, target⟩, exists_marker_of_open (hReachable.accounted snapshot) hLinked hSource ?_⟩
  exact Cut.isClosed_of_idle (Option.not_isSome_iff_eq_none.mp hTarget)

/-- A node that takes part and has not reported awaits the marker of some source. -/
theorem WellFormed.exists_awaited {name : String} {part : Part} (hWell : net.WellFormed)
    (hPart : net.part? snapshot name = some part) (hReport : net.report? snapshot name = none) :
    ∃ source, source ∈ part.awaits := by
  rw [part?_of_recording? hReport] at hPart
  obtain ⟨recording, hRecording, rfl⟩ := Option.map_eq_some_iff.mp hPart
  obtain ⟨node, hNode, hKept⟩ := Option.bind_eq_some_iff.mp hRecording
  obtain ⟨-, hSome, -⟩ := hWell.recorded hNode hKept
  exact List.exists_mem_of_ne_nil _ hSome

/-- A marker of every snapshot that is outstanding is under way. -/
theorem Reachable.exists_marker (hReachable : net.Reachable)
    (hOutstanding : snapshot ∈ net.outstanding) :
    ∃ link, ∃ parcel ∈ net.channels.queue link, parcel.message = .marker snapshot := by
  have hWell := hReachable.wellFormed
  have hAccounted := hReachable.accounted snapshot
  obtain ⟨collector, hFound, hIncomplete⟩ := mem_outstanding_iff.mp hOutstanding
  have hSound := hWell.collected.sound hFound
  have hStarted : snapshot < net.nextSnapshot :=
    hWell.collected.started_iff.mpr (Or.inl (SortedMap.mem_keys_of_get? hFound))
  obtain ⟨name, hAwaited⟩ : ∃ name, name ∈ collector.remaining.keys :=
    List.exists_mem_of_ne_nil _ fun hNone =>
      Bool.false_ne_true (hIncomplete.symm.trans (Collector.isComplete_iff.mpr hNone))
  obtain ⟨hName, hUnreported⟩ := hSound.awaited_iff.mp hAwaited
  cases hPart : net.part? snapshot name with
  | none => exact hReachable.exists_marker_of_idle hStarted hName hPart
  | some part =>
      have hReport : net.report? snapshot name = none :=
        (report?_of_get? hFound name).trans (SortedMap.get?_eq_none_iff.mpr hUnreported)
      obtain ⟨source, hAwaits⟩ := hWell.exists_awaited hPart hReport
      have hLinked : net.LinkedTo source name := hAccounted.awaits_linked hPart hAwaits
      -- Either the source takes part and has sent its marker, or it does not take part itself.
      cases hOther : net.part? snapshot source with
      | none =>
          exact hReachable.exists_marker_of_idle hStarted (hWell.wired.source_known hLinked) hOther
      | some other =>
          have hOpen : (net.cut snapshot).isClosed ⟨source, name⟩ = false :=
            (Cut.isClosed_of_part hPart).trans (decide_eq_false (not_not_intro hAwaits))
          exact ⟨_, exists_marker_of_open hAccounted hLinked (hOther ▸ rfl) hOpen⟩

theorem Reachable.pending_pos (hReachable : net.Reachable) (hSome : net.outstanding ≠ []) :
    0 < net.pending := by
  obtain ⟨snapshot, hOutstanding⟩ := List.exists_mem_of_ne_nil _ hSome
  obtain ⟨link, parcel, hParcel, -⟩ := hReachable.exists_marker hOutstanding
  apply Nat.pos_of_ne_zero
  intro hNone
  rw [pending_eq_zero_iff.mp hNone link] at hParcel
  exact List.not_mem_nil hParcel

end Network

/-! ### Scripts -/

/-- Whether a script fails because nothing is under way to complete a snapshot. -/
def ScenarioError.isStalled : ScenarioError → Bool
  | .stalled _ => true
  | _ => false

namespace Scenario

open Network

variable {net after : Network}

/-- Either no snapshot is outstanding, or something is under way. -/
theorem meets_settle_step {next : ScenarioAction Unit} {post : Unit → Network → Prop}
    (hReachable : net.Reachable) (hRested : net.outstanding = [] → post () net)
    (hNext : net.outstanding ≠ [] → (next net).Meets post fun error _ => error.isStalled = false) :
    ((Action.read Network.outstanding >>= fun outstanding =>
      if outstanding.isEmpty then pure ()
      else Action.read Network.pending >>= fun pending =>
        if pending = 0 then Action.refuse (.stalled outstanding) else next : ScenarioAction Unit)
      net).Meets post fun error _ => error.isStalled = false := by
  apply Action.meets_bind_of_done rfl
  refine Action.meets_ite (fun hNone => hRested (List.isEmpty_iff.mp hNone)) fun hSome => ?_
  have hOutstanding : net.outstanding ≠ [] := fun hNone => hSome (List.isEmpty_iff.mpr hNone)
  apply Action.meets_bind_of_done rfl
  refine Action.meets_ite (fun hStill => ?_) fun _ => hNext hOutstanding
  exact absurd hStill (Nat.ne_of_gt (hReachable.pending_pos hOutstanding))

/-- Ticks pass until no snapshot is outstanding; there always is something under way until
then. -/
theorem meets_settle {ticks : Nat} (hReachable : net.Reachable) :
    (settle ticks net).Meets (fun _ after => net.Evolves after ∧ after.outstanding = [])
      (fun error _ => error.isStalled = false) := by
  induction ticks generalizing net with
  | zero =>
      unfold settle
      exact meets_settle_step hReachable (fun hNone => ⟨Evolves.refl net, hNone⟩) fun _ => rfl
  | succ ticks ih =>
      unfold settle
      apply meets_settle_step hReachable (fun hNone => ⟨Evolves.refl net, hNone⟩)
      intro _
      refine Action.meets_bind (Action.meets_mapError ((meets_tick hReachable.wellFormed).imp
        fun _ _ hTick => hTick)) fun _ between hTick => ?_
      refine (ih (hReachable.leads hTick.leads)).mono (fun _ _ hRest => ?_) fun _ _ hNot => hNot
      exact ⟨hTick.trans hRest.1, hRest.2⟩

/-- Carries out the commands and lets ticks pass until no snapshot is outstanding. -/
def rest (commands : List Command) : ScenarioAction Unit := do
  Action.mapError .network (performAll commands)
  let bound ← Action.read Network.settleBound
  settle bound

theorem drive_eq (commands : List Command) :
    drive commands = rest commands >>= fun _ => Action.read Network.maxDelay >>= fun maxDelay =>
      Action.mapError .network (pass (maxDelay.toNat + 1)) := by
  unfold drive rest
  simp only [bind_assoc]

theorem meets_rest {commands : List Command} (hReachable : net.Reachable) :
    (rest commands net).Meets (fun _ after => net.Leads 0 after ∧ after.outstanding = [])
      (fun error _ => error.isStalled = false) := by
  refine Action.meets_bind (M := fun _ after => net.Leads 0 after)
    (Action.meets_mapError ?_) fun _ between hLeads => ?_
  · exact (meets_performAll hReachable.wellFormed).mono (fun _ _ hLeads => hLeads) fun _ _ _ => rfl
  · apply Action.meets_bind_of_done rfl
    refine (meets_settle (hReachable.leads hLeads)).mono (fun _ _ hRest => ?_) fun _ _ hNot => hNot
    exact ⟨hLeads.trans hRest.1.leads, hRest.2⟩

theorem meets_drive {commands : List Command} (hReachable : net.Reachable) :
    (drive commands net).Meets (fun _ after => net.Leads 0 after)
      (fun error _ => error.isStalled = false) := by
  rw [drive_eq]
  apply Action.meets_bind (meets_rest hReachable)
  rintro _ rested ⟨hLeads, -⟩
  refine Action.meets_bind_of_done rfl (Action.meets_mapError ?_)
  exact (meets_pass (hLeads.wellFormed hReachable.wellFormed)).imp fun _ _ hEvolves =>
    hLeads.trans hEvolves.leads

/-- A script on a network that calls have led to never stalls. -/
theorem meets_runScript {commands : List Command} (hReachable : net.Reachable) :
    (runScript commands net).Meets (fun _ _ => True) (fun error _ => error.isStalled = false) := by
  unfold runScript
  cases hDriven : drive commands net with
  | done value driven =>
      apply Action.meets_mapError
      exact Outcome.meets_self.mono (fun _ _ _ => True.intro) fun _ _ _ => rfl
  | refused error driven => exact (meets_drive hReachable).of_refused hDriven
  | faulted fault => exact True.intro

end Scenario

/-- However a network has been used, a marker is under way for every snapshot that is
outstanding, so something is under way if any is, and no script stalls. -/
theorem Network.never_stuck {config : Config} {net last : Network} {calls : List Call}
    {replies : List Reply} (hBuilt : ofConfig config = .ok net)
    (hOwn : ∀ call ∈ calls, call.isNotify = false)
    (hHistory : net.history calls = .ok (replies, last)) :
    (∀ snapshot ∈ last.outstanding, ∃ channel ∈ last.channels.toList,
        ∃ parcel ∈ channel.queue, parcel.message = .marker snapshot) ∧
      (last.outstanding ≠ [] → 0 < last.pending) ∧
      ∀ commands snapshots after,
        Scenario.runScript commands last ≠ .refused (.stalled snapshots) after := by
  have hReachable := reachable_of_history hBuilt hOwn hHistory
  refine ⟨fun snapshot hOutstanding => ?_, hReachable.pending_pos, fun commands ids after hStalled => ?_⟩
  · obtain ⟨link, parcel, hParcel, hMarker⟩ := hReachable.exists_marker hOutstanding
    obtain ⟨channel, hChannel, hQueue⟩ := ChannelTable.exists_channel_of_mem_queue hParcel
    exact ⟨channel, hChannel, parcel, hQueue ▸ hParcel, hMarker⟩
  · exact Bool.false_ne_true ((Scenario.meets_runScript hReachable).of_refused hStalled).symm

/-- In the middle of the sample history both snapshots are outstanding, with markers under way. -/
theorem Network.never_stuck_pair :
    ∃ net replies last, ofConfig pairConfig = .ok net ∧
      net.history (pairCalls.take 8) = .ok (replies, last) ∧ last.outstanding = [0, 1] ∧
      (∃ channel ∈ last.channels.toList, ∃ parcel ∈ channel.queue, parcel.message = .marker 0) ∧
      0 < last.pending ∧
      ∀ snapshots after,
        Scenario.runScript [.snapshot "B"] last ≠ .refused (.stalled snapshots) after := by
  have hPlays : (played? pairConfig (pairCalls.take 8)).any (fun outcome =>
      decide (outcome.2.2.outstanding = [0, 1])) = true := by
    decide +kernel
  obtain ⟨⟨net, replies, last⟩, hPlayed, hBoth⟩ := (Option.any_eq_true _ _).mp hPlays
  obtain ⟨hBuilt, hHistory⟩ := of_played? hPlayed
  replace hBoth : last.outstanding = [0, 1] := of_decide_eq_true hBoth
  obtain ⟨hMarkers, hPending, hScripts⟩ := never_stuck hBuilt (by decide) hHistory
  refine ⟨net, replies, last, hBuilt, hHistory, hBoth, hMarkers 0 ?_, hPending ?_, hScripts _⟩
  · rw [hBoth]
    exact List.mem_cons_self
  · rw [hBoth]
    exact List.cons_ne_nil _ _

end TokenNet
