import TokenNet.Proofs.Tracing
import TokenNet.Scenario.Run

namespace TokenNet

/-!
# What is retained

`Network.Retains` says that the links and the bound on delays stay, that no snapshot is taken away,
and that none is given up.  It can be traced (`Network.tracing_retains`), so ticks retain all this,
and so does every call but those that take snapshots away, give them up or add a link.
-/

/-- A collector that takes a report is given up afterwards if it was before. -/
theorem Collector.keeps_accept (report : Report) :
    Action.Keeps (fun collector after : Collector => after.abandoned = collector.abandoned)
      (Collector.accept report) := by
  intro collector
  unfold Collector.accept
  split
  · exact rfl
  · split
    · exact rfl
    · exact rfl

namespace Network

/-- Whether a snapshot that has not been taken away has been given up. -/
def abandoned? (net : Network) (snapshot : SnapshotId) : Option Bool :=
  (net.collectors.get? snapshot).map Collector.abandoned

/-- The links and the bound on delays stay, no snapshot is taken away, and none is given up.  New
snapshots may be started. -/
structure Retains (net after : Network) : Prop where
  /-- The links are the same. -/
  links_eq : after.links = net.links
  /-- Delays have the same bound. -/
  maxDelay_eq : after.maxDelay = net.maxDelay
  /-- No snapshot is taken away. -/
  retired_eq : after.retired = net.retired
  /-- Numbers are not used again. -/
  nextSnapshot_le : net.nextSnapshot ≤ after.nextSnapshot
  /-- Snapshots that have been started are given up if they were before. -/
  abandoned?_eq : ∀ {snapshot}, snapshot < net.nextSnapshot →
    after.abandoned? snapshot = net.abandoned? snapshot
  /-- New snapshots are not given up. -/
  of_abandoned : ∀ {snapshot}, after.abandoned? snapshot = some true →
    net.abandoned? snapshot = some true

variable {net after : Network}

theorem retains_of_eq (hLinks : after.links = net.links) (hMaxDelay : after.maxDelay = net.maxDelay)
    (hRetired : after.retired = net.retired) (hNext : after.nextSnapshot = net.nextSnapshot)
    (hAbandoned : ∀ snapshot, after.abandoned? snapshot = net.abandoned? snapshot) :
    net.Retains after :=
  ⟨hLinks, hMaxDelay, hRetired, UInt64.le_of_eq hNext.symm, fun _ => hAbandoned _,
    fun hGiven => hAbandoned _ ▸ hGiven⟩

instance : Std.Refl Retains :=
  ⟨fun _ => retains_of_eq rfl rfl rfl rfl fun _ => rfl⟩

instance : IsTrans Network Retains where
  trans _ _ _ hEarlier hLater :=
    ⟨hLater.links_eq.trans hEarlier.links_eq, hLater.maxDelay_eq.trans hEarlier.maxDelay_eq,
      hLater.retired_eq.trans hEarlier.retired_eq,
      UInt64.le_trans hEarlier.nextSnapshot_le hLater.nextSnapshot_le,
      fun hStarted => (hLater.abandoned?_eq
        (UInt64.lt_of_lt_of_le hStarted hEarlier.nextSnapshot_le)).trans
          (hEarlier.abandoned?_eq hStarted),
      fun hGiven => hEarlier.of_abandoned (hLater.of_abandoned hGiven)⟩

/-- Whatever spares the collectors retains all. -/
theorem Spares.retains (hSpares : net.Spares after) : net.Retains after := by
  refine retains_of_eq hSpares.links_eq hSpares.maxDelay_eq hSpares.retired_eq
    hSpares.nextSnapshot_eq fun snapshot => ?_
  unfold abandoned?
  rw [hSpares.collectors_eq]

/-- What can be traced is kept. -/
theorem Traced.keeps {α : Type} {R : Network → Network → Prop} {view : α → List SnapshotId}
    {action : NetworkAction α} (hTraced : Traced (fun net _ after => R net after) view action) :
    Action.Keeps R action :=
  fun net => (hTraced net).mono (fun _ _ hLast => hLast) fun _ _ ⟨_, hLast⟩ => hLast

/-! ### Reports -/

/-- A collector may take reports. -/
theorem retains_insert {snapshot : SnapshotId} {collector changed : Collector}
    (hFound : net.collectors.get? snapshot = some collector)
    (hSame : changed.abandoned = collector.abandoned) :
    net.Retains { net with collectors := net.collectors.insert snapshot changed } := by
  refine retains_of_eq rfl rfl rfl rfl fun asked => ?_
  unfold abandoned?
  dsimp only
  rw [SortedMap.get?_insert]
  split
  · rename_i hEqual
    subst hEqual
    rw [hFound]
    exact congrArg some hSame
  · rfl

theorem keeps_notify (report : Report) : Action.Keeps Retains (notify report) := by
  refine Action.Keeps.bind (fun net => ?_) fun complete => ?_
  · unfold callCollector
    cases hFound : net.collectors.get? report.snapshot with
    | none => exact Std.Refl.refl net
    | some collector =>
        have hAccept := Collector.keeps_accept report collector
        cases hOutcome : Collector.accept report collector <;> simp only [hOutcome]
        · exact retains_insert hFound (hAccept.of_done hOutcome)
        · exact Std.Refl.refl net
        · exact True.intro
  · refine Action.Keeps.bind ?_ fun _ => Action.keeps_pure complete
    exact Action.keeps_update fun net => retains_of_eq rfl rfl rfl rfl fun _ => rfl

theorem tracing_retains : Tracing fun net _ after => Retains net after where
  of_spares hSpares := hSpares.retains
  append hEarlier hLater := IsTrans.trans _ _ _ hEarlier hLater
  notify report net := (keeps_notify report net).mono (fun _ _ hLast => hLast)
    fun _ _ hLast => ⟨[], hLast⟩

theorem keeps_receiveTime : Action.Keeps Retains receiveTime :=
  spares_receiveTime.mono Spares.retains

theorem keeps_sendTokens (source target : String) (tokens : UInt64) :
    Action.Keeps Retains (sendTokens source target tokens) :=
  (spares_sendTokens source target tokens).mono Spares.retains

/-! ### Starting snapshots -/

theorem keeps_startAt (snapshot : SnapshotId) (names : List String) :
    Action.Keeps Retains (startAt snapshot names) := by
  induction names with
  | nil => exact Action.keeps_pure ()
  | cons name rest ih =>
      refine ((spares_callNode name _).mono Spares.retains).bind fun effects => ?_
      exact (tracing_retains.applyEffects name effects).keeps.bind fun _ => ih

/-- A collector is opened for a number that was not in use. -/
theorem retains_announced (net : Network) (name : String) {next : SnapshotId}
    (hNext : checkedAdd net.nextSnapshot 1 = .ok next) : net.Retains (net.announced name next) := by
  have hOther : ∀ {snapshot}, snapshot ≠ net.nextSnapshot →
      (net.announced name next).abandoned? snapshot = net.abandoned? snapshot := fun hNew =>
    congrArg (Option.map Collector.abandoned) (SortedMap.get?_insert_of_ne _ _ hNew.symm)
  refine ⟨rfl, rfl, rfl, ?_, fun hStarted => hOther (UInt64.ne_of_lt hStarted), ?_⟩
  · have hSum : net.nextSnapshot.toNat + 1 = next.toNat := checkedAdd_eq_ok_iff.mp hNext
    show net.nextSnapshot.toNat ≤ next.toNat
    omega
  · intro snapshot hGiven
    by_cases hNew : snapshot = net.nextSnapshot
    · -- The collector that has just been opened is not given up.
      subst hNew
      have hOpened : (net.announced name next).abandoned? net.nextSnapshot = some false :=
        congrArg (Option.map Collector.abandoned) (SortedMap.get?_insert_self ..)
      exact nomatch hOpened.symm.trans hGiven
    · exact hOther hNew ▸ hGiven

theorem keeps_announce (name : String) : Action.Keeps Retains (announce name) := by
  intro net
  refine (meets_announce net name).mono ?_ ?_
  · rintro _ _ ⟨-, -, next, hNext, rfl⟩
    exact retains_announced net name hNext
  · rintro _ _ ⟨-, -, rfl⟩
    exact retains_of_eq rfl rfl rfl rfl fun _ => rfl

theorem keeps_startSnapshot (name : String) : Action.Keeps Retains (startSnapshot name) := by
  rw [startSnapshot_eq]
  refine (keeps_announce name).bind fun snapshot => ?_
  refine (Action.keeps_read _).bind fun others => ?_
  exact (keeps_startAt snapshot _).bind fun _ => Action.keeps_pure snapshot

theorem keeps_control (event : ControlEvent) : Action.Keeps Retains (control event) := by
  cases event with
  | passToken source target tokens =>
      exact (keeps_sendTokens source target tokens).bind fun _ => Action.keeps_pure none
  | snapshot name =>
      exact (keeps_startSnapshot name).bind fun snapshot => Action.keeps_pure (some snapshot)

/-! ### Delivering -/

theorem keeps_deliver (parcel : Parcel) : Action.Keeps Retains (deliver parcel) :=
  (tracing_retains.deliver parcel).keeps

theorem keeps_tick : Action.Keeps Retains tick := tracing_retains.tick.keeps

theorem keeps_pass (ticks : Nat) : Action.Keeps Retains (pass ticks) := by
  induction ticks with
  | zero => exact Action.keeps_pure ()
  | succ ticks ih => exact keeps_tick.bind fun _ => ih

end Network

/-! ### Scripts -/

namespace Scenario

open Network

theorem keeps_perform (command : Command) : Action.Keeps Retains (perform command) := by
  cases command with
  | send source target tokens => exact (keeps_control _).bind fun _ => Action.keeps_pure ()
  | snapshot name => exact (keeps_control _).bind fun _ => Action.keeps_pure ()
  | tick count => exact keeps_pass count.toNat

theorem keeps_performAll (commands : List Command) :
    Action.Keeps Retains (performAll commands) := by
  induction commands with
  | nil => exact Action.keeps_pure ()
  | cons command rest ih => exact (keeps_perform command).bind fun _ => ih

theorem keeps_settle (ticks : Nat) : Action.Keeps Retains (settle ticks) := by
  induction ticks with
  | zero =>
      refine (Action.keeps_read _).bind fun outstanding => ?_
      refine Action.Keeps.ite (Action.keeps_pure ()) ?_
      refine (Action.keeps_read _).bind fun pending => ?_
      exact Action.Keeps.ite (Action.keeps_refuse _) (Action.keeps_refuse _)
  | succ ticks ih =>
      refine (Action.keeps_read _).bind fun outstanding => ?_
      refine Action.Keeps.ite (Action.keeps_pure ()) ?_
      refine (Action.keeps_read _).bind fun pending => ?_
      refine Action.Keeps.ite (Action.keeps_refuse _) ?_
      exact (keeps_tick.mapError ScenarioError.network).bind fun _ => ih

/-- A script retains all snapshots up to the point at which its own are taken away or given up. -/
theorem keeps_drive (commands : List Command) : Action.Keeps Retains (drive commands) := by
  refine ((keeps_performAll commands).mapError ScenarioError.network).bind fun _ => ?_
  refine (Action.keeps_read _).bind fun bound => ?_
  refine (keeps_settle bound).bind fun _ => ?_
  refine (Action.keeps_read _).bind fun maxDelay => ?_
  exact (keeps_pass _).mapError ScenarioError.network

end Scenario

end TokenNet
