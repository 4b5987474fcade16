import TokenNet.Proofs.Courses
import TokenNet.Proofs.Mirror

namespace TokenNet

/-!
# What cuts a call short

`Outcome.OverflowsOnlyIf` says that an outcome is a fault only if a sum does not fit, and only for a
given cause.  No call on a network that has been built and used puts a parcel on a foreign channel;
a sum does not fit only if the clock, the number of the next snapshot or the tokens of the network
are at the end of their range (`Network.Attained.overflows`).
-/

/-- An outcome is a fault only if a sum does not fit, and only for the given cause. -/
def Outcome.OverflowsOnlyIf {σ ε α : Type} (outcome : Outcome σ ε α) (cause : Prop) : Prop :=
  ∀ fault, outcome = .faulted fault → fault = .overflow ∧ cause

section Rules

variable {σ ε α β : Type} {state : σ} {cause weaker : Prop}

theorem Outcome.OverflowsOnlyIf.mono {outcome : Outcome σ ε α}
    (hOutcome : outcome.OverflowsOnlyIf cause) (hWeaker : cause → weaker) :
    outcome.OverflowsOnlyIf weaker :=
  fun fault hFault => (hOutcome fault hFault).imp_right hWeaker

theorem Outcome.overflowsOnlyIf_of_done {outcome : Outcome σ ε α} {value : α}
    (hDone : outcome = .done value state) : outcome.OverflowsOnlyIf cause := by
  rintro fault hFault
  cases hDone.symm.trans hFault

theorem Outcome.overflowsOnlyIf_of_refused {outcome : Outcome σ ε α} {error : ε}
    (hRefused : outcome = .refused error state) : outcome.OverflowsOnlyIf cause := by
  rintro fault hFault
  cases hRefused.symm.trans hFault

namespace Action

theorem overflowsOnlyIf_bind {first : Action σ ε α} {next : α → Action σ ε β}
    (hFirst : (first state).OverflowsOnlyIf cause)
    (hNext : ∀ value between, first state = .done value between →
      (next value between).OverflowsOnlyIf cause) :
    ((first >>= next) state).OverflowsOnlyIf cause := by
  intro fault hFault
  rcases bind_eq_faulted_iff.mp hFault with hEarly | ⟨value, between, hDone, hLate⟩
  · exact hFirst fault hEarly
  · exact hNext value between hDone fault hLate

/-- After an action whose outcome is known, only the next action counts. -/
theorem overflowsOnlyIf_bind_of_done {first : Action σ ε α} {next : α → Action σ ε β} {value : α}
    {between : σ} (hFirst : first state = .done value between)
    (hNext : (next value between).OverflowsOnlyIf cause) :
    ((first >>= next) state).OverflowsOnlyIf cause := by
  apply overflowsOnlyIf_bind (Outcome.overflowsOnlyIf_of_done hFirst)
  intro other middle hDone
  cases hFirst.symm.trans hDone
  exact hNext

/-- After an action that is refused, the next action does not count. -/
theorem overflowsOnlyIf_bind_of_refused {first : Action σ ε α} {next : α → Action σ ε β} {error : ε}
    {between : σ} (hFirst : first state = .refused error between) :
    ((first >>= next) state).OverflowsOnlyIf cause := by
  apply overflowsOnlyIf_bind (Outcome.overflowsOnlyIf_of_refused hFirst)
  intro other middle hDone
  cases hFirst.symm.trans hDone

theorem overflowsOnlyIf_map {action : Action σ ε α} {f : α → β}
    (hAction : (action state).OverflowsOnlyIf cause) :
    ((f <$> action) state).OverflowsOnlyIf cause :=
  fun fault hFault => hAction fault (map_eq_faulted_iff.mp hFault)

theorem overflowsOnlyIf_ofExcept {result : Except Fault α}
    (hResult : ∀ fault, result = .error fault → fault = .overflow ∧ cause) :
    ((ofExcept result : Action σ ε α) state).OverflowsOnlyIf cause := by
  intro fault hFault
  cases result with
  | ok value => cases hFault
  | error other =>
      cases hFault
      exact hResult fault rfl

/-- A sum does not fit only if it is too large. -/
theorem overflowsOnlyIf_checkedAdd {a b : UInt64}
    (hCause : UInt64.size ≤ a.toNat + b.toNat → cause) :
    ((ofExcept (checkedAdd a b) : Action σ ε UInt64) state).OverflowsOnlyIf cause :=
  overflowsOnlyIf_ofExcept fun _ hFault => (checkedAdd_eq_error_iff.mp hFault).imp_right hCause

theorem of_ofExcept_eq_done {result : Except Fault α} {value : α} {after : σ}
    (hDone : (ofExcept result : Action σ ε α) state = .done value after) :
    result = .ok value ∧ state = after := by
  cases result with
  | ok other =>
      cases hDone
      exact ⟨rfl, rfl⟩
  | error fault => cases hDone

end Action

end Rules

/-- The clock cannot move exactly at the last tick. -/
theorem Clock.advance_eq_error_iff {clock : Clock} {fault : Fault} :
    clock.advance = .error fault ↔ fault = .overflow ∧ UInt64.size ≤ clock.tick.toNat + 1 := by
  have hOne : (1 : UInt64).toNat = 1 := rfl
  rw [← hOne, ← checkedAdd_eq_error_iff]
  unfold advance
  cases checkedAdd clock.tick 1 <;> simp [Except.map]

/-- A report is accepted or refused. -/
theorem Collector.accept_ne_faulted (report : Report) (collector : Collector) (fault : Fault) :
    accept report collector ≠ .faulted fault := by
  intro hFaulted
  unfold accept at hFaulted
  split at hFaulted
  · cases hFaulted
  · split at hFaulted <;> cases hFaulted

namespace Network

variable {net between after : Network} {cause : Prop}

/-! ### Actions in time -/

/-- Whether a message sent now may become due beyond the last tick. -/
def Late (net : Network) : Prop :=
  UInt64.size ≤ net.tickNow.toNat + max 1 net.maxDelay.toNat

/-- What does not change while messages are sent and delivered. -/
structure Steady (net after : Network) : Prop where
  /-- The time is the same. -/
  clock_eq : after.clock = net.clock
  /-- The bound on delays is the same. -/
  maxDelay_eq : after.maxDelay = net.maxDelay
  /-- Parcels are still stored under their links. -/
  sound : net.channels.Sound → after.channels.Sound

theorem Steady.refl (net : Network) : net.Steady net := ⟨rfl, rfl, id⟩

theorem Steady.trans (hEarlier : net.Steady between) (hLater : between.Steady after) :
    net.Steady after :=
  ⟨hLater.clock_eq.trans hEarlier.clock_eq, hLater.maxDelay_eq.trans hEarlier.maxDelay_eq,
    fun hSound => hLater.sound (hEarlier.sound hSound)⟩

theorem Steady.late_iff (hSteady : net.Steady after) : after.Late ↔ net.Late := by
  unfold Late tickNow
  rw [hSteady.clock_eq, hSteady.maxDelay_eq]

/-- Whether an outcome is a fault only for the given cause, and else leaves the clock alone; that
it is late may be the cause. -/
def Timely {ε α : Type} (net : Network) (cause : Prop) (outcome : Outcome Network ε α) : Prop :=
  net.channels.Sound → (net.Late → cause) → outcome.OverflowsOnlyIf cause ∧
    ∀ value after, outcome = .done value after → net.Steady after

section Combinators

variable {ε α β : Type}

theorem timely_of_done {outcome : Outcome Network ε α} {value : α}
    (hDone : outcome = .done value after) (hSteady : net.Steady after) :
    net.Timely cause outcome := by
  subst hDone
  refine fun _ _ => ⟨Outcome.overflowsOnlyIf_of_done rfl, ?_⟩
  rintro _ _ ⟨⟩
  exact hSteady

theorem timely_of_refused {outcome : Outcome Network ε α} {error : ε}
    (hRefused : outcome = .refused error after) : net.Timely cause outcome := by
  subst hRefused
  refine fun _ _ => ⟨Outcome.overflowsOnlyIf_of_refused rfl, ?_⟩
  rintro _ _ ⟨⟩

/-- What is in time after a steady step is in time before it. -/
theorem Timely.of_steady {outcome : Outcome Network ε α} (hSteady : net.Steady between)
    (hTimely : between.Timely cause outcome) : net.Timely cause outcome := by
  intro hSound hLate
  obtain ⟨hFault, hLater⟩ := hTimely (hSteady.sound hSound) fun hEnd =>
    hLate (hSteady.late_iff.mp hEnd)
  exact ⟨hFault, fun value last hDone => hSteady.trans (hLater value last hDone)⟩

theorem timely_bind {first : Action Network ε α} {next : α → Action Network ε β}
    (hFirst : net.Timely cause (first net))
    (hNext : ∀ value between, first net = .done value between →
      between.Timely cause (next value between)) :
    net.Timely cause ((first >>= next) net) := by
  intro hSound hLate
  obtain ⟨hFault, hSteady⟩ := hFirst hSound hLate
  have hRest : ∀ value between, first net = .done value between →
      net.Timely cause (next value between) := fun value between hDone =>
    (hNext value between hDone).of_steady (hSteady value between hDone)
  constructor
  · exact Action.overflowsOnlyIf_bind hFault fun value between hDone =>
      (hRest value between hDone hSound hLate).1
  · intro value last hDone
    obtain ⟨middle, between, hEarlier, hLater⟩ := Action.bind_eq_done_iff.mp hDone
    exact (hRest middle between hEarlier hSound hLate).2 value last hLater

/-- After a steady action whose outcome is known, only the next action counts. -/
theorem timely_bind_of_done {first : Action Network ε α} {next : α → Action Network ε β}
    {value : α} (hFirst : first net = .done value between) (hSteady : net.Steady between)
    (hNext : between.Timely cause (next value between)) : net.Timely cause ((first >>= next) net) := by
  apply timely_bind (timely_of_done hFirst hSteady)
  intro other middle hDone
  cases hFirst.symm.trans hDone
  exact hNext

theorem timely_bind_read {view : Network → α} {next : α → Action Network ε β}
    (hNext : net.Timely cause (next (view net) net)) :
    net.Timely cause ((Action.read view >>= next) net) :=
  timely_bind_of_done rfl (Steady.refl net) hNext

end Combinators

/-! ### Sending -/

theorem timely_receiveTime (net : Network) : net.Timely cause (receiveTime net) := by
  refine fun _ hLate => ⟨?_, ?_⟩
  · have hOne : (1 : UInt64).toNat = 1 := rfl
    have hDelay := net.generator.toNat_below net.maxDelay
    unfold Late at hLate
    apply Action.overflowsOnlyIf_bind_of_done rfl
    apply Action.overflowsOnlyIf_bind
    · apply Action.overflowsOnlyIf_checkedAdd
      exact fun hTooLarge => hLate (by omega)
    · intro earliest between hEarliest
      obtain ⟨hNext, rfl⟩ := Action.of_ofExcept_eq_done hEarliest
      have hSum := checkedAdd_eq_ok_iff.mp hNext
      have hDrawn : drawDelay net = .done (net.generator.below net.maxDelay).1 _ := rfl
      apply Action.overflowsOnlyIf_bind_of_done hDrawn
      apply Action.overflowsOnlyIf_checkedAdd
      exact fun hTooLarge => hLate (by omega)
  · intro due after hDone
    obtain ⟨-, generator, rfl⟩ := (meets_receiveTime net).of_done hDone
    exact ⟨rfl, rfl, id⟩

/-- A message for a link that exists is sent, and never joins a foreign channel; any other is
refused. -/
theorem timely_enqueue (net : Network) (source target : String) (message : Message) :
    net.Timely cause (enqueue source target message net) := by
  by_cases hLink : net.channels.contains ⟨source, target⟩ = true
  · intro hSound hLate
    have hRequired : requireLink ⟨source, target⟩ net = .done () net := if_pos hLink
    constructor
    · apply Action.overflowsOnlyIf_bind_of_done hRequired
      apply Action.overflowsOnlyIf_bind (timely_receiveTime net hSound hLate).1
      intro due between hDrawn
      obtain ⟨-, generator, rfl⟩ := (meets_receiveTime net).of_done hDrawn
      apply Action.overflowsOnlyIf_bind_of_done rfl
      exact Outcome.overflowsOnlyIf_of_done (push_eq_done ⟨source, target, message, due⟩ hSound hLink)
    · intro _ after hDone
      obtain ⟨generator, due, -, rfl⟩ := (meets_enqueue hSound hLink).of_done hDone
      exact ⟨rfl, rfl, fun _ => hSound.postAll _⟩
  · have hRefused : requireLink ⟨source, target⟩ net = .refused _ net := if_neg hLink
    apply timely_bind (timely_of_refused hRefused)
    intro _ _ hDone
    cases hRefused.symm.trans hDone

theorem timely_notify (net : Network) (report : Report) :
    net.Timely cause (notify report net) := by
  refine fun _ _ => ⟨fun fault hFault => ?_, ?_⟩
  · rcases Action.bind_eq_faulted_iff.mp hFault with hCalled | ⟨_, _, _, hLogged⟩
    · unfold callCollector at hCalled
      cases hFound : net.collectors.get? report.snapshot with
      | none => simp [hFound] at hCalled
      | some collector =>
          simp only [hFound] at hCalled
          cases hAccepted : Collector.accept report collector with
          | done complete changed => simp [hAccepted] at hCalled
          | refused error changed => simp [hAccepted] at hCalled
          | faulted other =>
              exact absurd hAccepted (Collector.accept_ne_faulted report collector other)
    · cases hLogged
  · intro complete after hDone
    obtain ⟨collector, -, -, -, -, rfl⟩ := notify_eq_done_iff.mp hDone
    exact ⟨rfl, rfl, id⟩

/-- What a node asks for is carried out in time. -/
theorem timely_applyEffects (name : String) (effects : List Effect) (net : Network) :
    net.Timely cause (applyEffects name effects net) := by
  induction effects generalizing net with
  | nil => exact timely_of_done rfl (Steady.refl net)
  | cons effect rest ih =>
      cases effect with
      | send target message =>
          apply timely_bind (timely_enqueue net name target message)
          exact fun _ between _ => ih between
      | completed report =>
          apply timely_bind (timely_notify net report)
          intro complete between _
          apply timely_bind (ih between)
          exact fun _ last _ => timely_of_done rfl (Steady.refl last)

/-! ### Nodes -/

theorem timely_callNode {α : Type} {name : String} {call : Action Node NodeError α}
    (hCall : ∀ node, net.nodes.get? name = some node → (call node).OverflowsOnlyIf cause) :
    net.Timely cause (callNode name call net) := by
  unfold callNode
  cases hNode : net.nodes.get? name with
  | none => exact timely_of_refused rfl
  | some node =>
      cases hAnswer : call node with
      | done value changed =>
          simp only [hAnswer]
          exact timely_of_done rfl ⟨rfl, rfl, id⟩
      | refused error changed =>
          simp only [hAnswer]
          exact timely_of_refused rfl
      | faulted fault =>
          simp only [hAnswer]
          refine fun _ _ => ⟨?_, fun _ _ hDone => ?_⟩
          · rintro _ ⟨⟩
            exact hCall node hNode fault hAnswer
          · cases hDone

theorem overflows_send (amount : UInt64) (target : String) (node : Node) :
    (Node.send amount target node).OverflowsOnlyIf cause := by
  unfold Node.send
  split
  · exact Outcome.overflowsOnlyIf_of_refused rfl
  · split
    · exact Outcome.overflowsOnlyIf_of_refused rfl
    · exact Outcome.overflowsOnlyIf_of_done rfl

theorem overflows_start (snapshot : SnapshotId) (node : Node) :
    (Node.startSnapshot snapshot node).OverflowsOnlyIf cause := by
  unfold Node.startSnapshot
  split
  · exact Outcome.overflowsOnlyIf_of_refused rfl
  · exact Outcome.overflowsOnlyIf_of_done rfl

/-- A node that receives a message overflows only if it would hold too many tokens. -/
theorem overflows_receive (source : String) (message : Message) (node : Node)
    (hCredit : ∀ amount, message = .token amount →
      UInt64.size ≤ node.tokens.toNat + amount.toNat → cause) :
    (Node.receive source message node).OverflowsOnlyIf cause := by
  unfold Node.receive
  split
  · exact Outcome.overflowsOnlyIf_of_refused rfl
  · cases message with
    | token amount =>
        intro fault hFault
        unfold Node.receiveTokens at hFault
        cases hSum : checkedAdd node.tokens amount with
        | error other =>
            simp only [hSum] at hFault
            cases hFault
            exact (checkedAdd_eq_error_iff.mp hSum).imp_right (hCredit amount rfl)
        | ok tokens =>
            simp only [hSum] at hFault
            split at hFault <;> cases hFault
    | marker snapshot =>
        intro fault hFault
        unfold Node.receiveMarker at hFault
        cases hRecording : node.recordings.get? snapshot with
        | none =>
            simp only [hRecording] at hFault
            cases hFault
        | some recording =>
            simp only [hRecording] at hFault
            split at hFault
            · cases hFault
            · split at hFault <;> cases hFault

theorem timely_sendTokens (net : Network) (source target : String) (amount : UInt64) :
    net.Timely cause (sendTokens source target amount net) := by
  have hFrozen : freeze net = .done () { net with started := true } := rfl
  apply timely_bind_of_done hFrozen ⟨rfl, rfl, id⟩
  apply timely_bind
  · exact timely_callNode fun node _ => overflows_send amount target node
  · exact fun message between _ => timely_enqueue between source target message

/-! ### Snapshots -/

theorem timely_startAt (snapshot : SnapshotId) (names : List String) (net : Network) :
    net.Timely cause (startAt snapshot names net) := by
  induction names generalizing net with
  | nil => exact timely_of_done rfl (Steady.refl net)
  | cons name rest ih =>
      apply timely_bind
      · exact timely_callNode fun node _ => overflows_start snapshot node
      · intro effects between _
        apply timely_bind (timely_applyEffects name effects between)
        exact fun _ last _ => ih last

/-- A snapshot is opened if there is a number for it. -/
theorem overflows_announce (net : Network) (name : String)
    (hLast : UInt64.size ≤ net.nextSnapshot.toNat + 1 → cause) :
    (announce name net).OverflowsOnlyIf cause := by
  apply Action.overflowsOnlyIf_bind_of_done rfl
  by_cases hName : net.nodes.contains name = true
  · have hNamed : requireNode name { net with started := true } =
        .done () { net with started := true } := if_pos hName
    apply Action.overflowsOnlyIf_bind_of_done hNamed
    apply Action.overflowsOnlyIf_bind
    · apply Action.overflowsOnlyIf_bind_of_done rfl
      apply Action.overflowsOnlyIf_bind
      · exact Action.overflowsOnlyIf_checkedAdd hLast
      · exact fun _ _ _ => Outcome.overflowsOnlyIf_of_done rfl
    · exact fun _ _ _ => Outcome.overflowsOnlyIf_of_done rfl
  · have hMissing : requireNode name { net with started := true } =
        .refused (.nodeNotFound name) { net with started := true } := if_neg hName
    exact Action.overflowsOnlyIf_bind_of_refused hMissing

theorem overflows_startSnapshot (hSound : net.channels.Sound) (name : String)
    (hLate : net.Late → cause) (hLast : UInt64.size ≤ net.nextSnapshot.toNat + 1 → cause) :
    (startSnapshot name net).OverflowsOnlyIf cause := by
  rw [startSnapshot_eq]
  apply Action.overflowsOnlyIf_bind (overflows_announce net name hLast)
  intro snapshot opened hOpened
  obtain ⟨-, -, next, -, rfl⟩ := (meets_announce net name).of_done hOpened
  have hOpenedSound : (net.announced name next).channels.Sound := hSound
  apply Action.overflowsOnlyIf_bind_of_done rfl
  apply Action.overflowsOnlyIf_bind
  · exact (timely_startAt snapshot _ (net.announced name next) hOpenedSound hLate).1
  · exact fun _ _ _ => Outcome.overflowsOnlyIf_of_done rfl

/-! ### Delivering -/

theorem callNode_refused {α : Type} {name : String} {call : Action Node NodeError α}
    {error : NetworkError} (hRefused : callNode name call net = .refused error after) :
    after = net := by
  unfold callNode at hRefused
  cases hNode : net.nodes.get? name with
  | none =>
      simp only [hNode] at hRefused
      cases hRefused
      rfl
  | some node =>
      simp only [hNode] at hRefused
      split at hRefused <;> cases hRefused
      rfl

theorem timely_reject (net : Network) (source target : String) (snapshot : SnapshotId) :
    net.Timely cause ((do reject source target snapshot; return []) net :
      Outcome Network NetworkError (List SnapshotId)) :=
  timely_of_done rfl ⟨rfl, rfl, id⟩

/-- A parcel is handed over in time, unless its receiver would hold too many tokens. -/
theorem timely_handOver (net : Network) (parcel : Parcel)
    (hCredit : ∀ node amount, net.nodes.get? parcel.target = some node →
      parcel.message = .token amount → UInt64.size ≤ node.tokens.toNat + amount.toNat → cause) :
    net.Timely cause (handOver parcel net) := by
  have hCalled : net.Timely cause
      (callNode parcel.target (Node.receive parcel.source parcel.message) net) :=
    timely_callNode fun node hNode => overflows_receive parcel.source parcel.message node
      fun amount => hCredit node amount hNode
  intro hSound hLate
  obtain ⟨hFault, hSteady⟩ := hCalled hSound hLate
  unfold handOver
  split
  · next effects between hAnswer =>
    have hApplied : between.Timely cause (applyEffects parcel.target effects between) :=
      timely_applyEffects parcel.target effects between
    exact hApplied.of_steady (hSteady effects between hAnswer) hSound hLate
  · next node source snapshot between hAnswer =>
    -- A node that refuses is left as it was.
    obtain rfl := callNode_refused hAnswer
    exact timely_reject between source node snapshot hSound hLate
  · next error between hAnswer hOther => exact timely_of_refused rfl hSound hLate
  · next fault hAnswer =>
    refine ⟨?_, nofun⟩
    rintro _ ⟨⟩
    exact hFault fault hAnswer

/-- A parcel is delivered in time, unless its receiver would hold too many tokens. -/
theorem timely_deliver (net : Network) (parcel : Parcel)
    (hCredit : ∀ node amount, net.nodes.get? parcel.target = some node →
      parcel.message = .token amount → UInt64.size ≤ node.tokens.toNat + amount.toNat → cause) :
    net.Timely cause (deliver parcel net) := by
  have hLogged : record (fun tick => .received tick parcel.source parcel.target parcel.message) net =
      .done () (net.logged (.received net.tickNow parcel.source parcel.target parcel.message)) := rfl
  apply timely_bind_of_done hLogged ⟨rfl, rfl, id⟩
  obtain ⟨source, target, message, due⟩ := parcel
  cases message with
  | token amount => exact timely_handOver _ ⟨source, target, .token amount, due⟩ hCredit
  | marker snapshot =>
      apply timely_bind_read
      split
      · exact timely_reject _ source target snapshot
      · exact timely_handOver _ ⟨source, target, .marker snapshot, due⟩ hCredit

/-- The tokens of a network stay the same from within. -/
theorem Attained.wealth_eq (hAttained : net.Attained) (hEvolves : net.Evolves after) :
    after.wealth = net.wealth := by
  obtain ⟨start, earlier, hFresh, hRun⟩ := hAttained
  obtain ⟨later, hRest, hInner⟩ := hEvolves
  rw [(hRun.trans hRest).tokens_eq hFresh, hRun.tokens_eq hFresh, Ledger.openings_append,
    hInner.openings_eq_zero, Nat.add_zero]

/-- A scan is carried out in time, unless the network has too many tokens. -/
theorem Attained.overflows_scan (hAttained : net.Attained) (hLate : net.Late → cause)
    (hFull : UInt64.size ≤ net.wealth → cause) (names : List String) :
    (scan names net).OverflowsOnlyIf cause := by
  induction names generalizing net with
  | nil => exact Outcome.overflowsOnlyIf_of_done rfl
  | cons source rest ih =>
      have hWell := hAttained.wellFormed
      apply Action.overflowsOnlyIf_bind
      · unfold takeDue
        split <;> exact Outcome.overflowsOnlyIf_of_done rfl
      · intro due between hTake
        cases due with
        | none =>
            obtain rfl : net = between := ((meets_takeDue net source).of_done hTake).2 rfl
            exact ih hAttained hLate hFull
        | some parcel =>
            have hEvolves : ∀ completed delivered, deliver parcel between = .done completed delivered →
                net.Evolves delivered := fun _ _ hDone => (meets_deliver hWell hTake).of_done hDone
            obtain ⟨parcels, -, hQueue, -, rfl⟩ := takeDue_eq_done hWell.wired.sound hTake
            have hSound := (hWell.popped hQueue).wired.sound
            have hDeliver : (net.popped parcel.link parcels).Timely cause
                (deliver parcel (net.popped parcel.link parcels)) := by
              apply timely_deliver
              intro node amount hNode hToken hLarge
              exact hFull (hLarge.trans
                (tokens_add_le_wealth hNode (hQueue ▸ List.mem_cons_self) hToken))
            obtain ⟨hFault, hSteady⟩ := hDeliver hSound hLate
            apply Action.overflowsOnlyIf_bind hFault
            intro completed delivered hDelivered
            have hLater := hEvolves completed delivered hDelivered
            have hSame := hAttained.wealth_eq hLater
            apply Action.overflowsOnlyIf_bind
            · apply ih (hAttained.course hLater.course)
              · exact fun hEnd => hLate ((hSteady completed delivered hDelivered).late_iff.mp hEnd)
              · exact fun hLarge => hFull (hSame ▸ hLarge)
            · exact fun _ _ _ => Outcome.overflowsOnlyIf_of_done rfl

/-- A tick passes, unless the clock or the tokens of the network are at the end of their range. -/
theorem Attained.overflows_tick (hAttained : net.Attained)
    (hLate : UInt64.size ≤ net.tickNow.toNat + 1 + max 1 net.maxDelay.toNat → cause)
    (hFull : UInt64.size ≤ net.wealth → cause) : (tick net).OverflowsOnlyIf cause := by
  have hFrozen : net.Evolves { net with started := true } := evolves_started net
  apply Action.overflowsOnlyIf_bind_of_done rfl
  apply Action.overflowsOnlyIf_bind
  · apply Action.overflowsOnlyIf_bind_of_done rfl
    apply Action.overflowsOnlyIf_bind
    · apply Action.overflowsOnlyIf_ofExcept
      intro fault hFault
      obtain ⟨hOverflow, hLarge⟩ := Clock.advance_eq_error_iff.mp hFault
      have hEnd : UInt64.size ≤ net.tickNow.toNat + 1 := hLarge
      exact ⟨hOverflow, hLate (by omega)⟩
    · exact fun _ _ _ => Outcome.overflowsOnlyIf_of_done rfl
  · intro _ advanced hDone
    obtain ⟨clock, hClock, rfl⟩ := advance_eq_done hDone
    have hEvolves := hFrozen.trans ((meets_advance _).of_done hDone |>.evolves inner_nil)
    have hNow : clock.tick.toNat = net.tickNow.toNat + 1 := Clock.toNat_of_advance hClock
    have hSame := hAttained.wealth_eq hEvolves
    apply Action.overflowsOnlyIf_bind_of_done rfl
    apply Action.overflowsOnlyIf_bind
    · apply (hAttained.course hEvolves.course).overflows_scan
      · intro hEnd
        unfold Late tickNow at hEnd
        simp only [hNow] at hEnd
        exact hLate hEnd
      · exact fun hLarge => hFull (hSame ▸ hLarge)
    · intro _ _ _
      apply Action.overflowsOnlyIf_bind_of_done rfl
      exact Outcome.overflowsOnlyIf_of_done rfl

/-! ### Every call -/

/-- A call is cut short only if a sum does not fit: a message would become due beyond the last tick,
there is no further number for a snapshot, the network has too many tokens, or a tick leaves no time
for what is sent in the course of it. -/
theorem Attained.overflows_call (hAttained : net.Attained) (call : Call) (hLate : net.Late → cause)
    (hLast : UInt64.size ≤ net.nextSnapshot.toNat + 1 → cause)
    (hFull : UInt64.size ≤ net.wealth → cause)
    (hTick : call = .tick → UInt64.size ≤ net.tickNow.toNat + 1 + max 1 net.maxDelay.toNat → cause) :
    (answer call net).OverflowsOnlyIf cause := by
  have hSound := hAttained.wellFormed.wired.sound
  have hSend := fun source target amount => (timely_sendTokens net source target amount hSound hLate).1
  have hStart := fun name => overflows_startSnapshot hSound name hLate hLast
  have hAttempt : ∀ change : Network → Except NetworkError Network,
      (attempt change net).OverflowsOnlyIf cause := by
    intro change
    unfold attempt
    split
    · exact Outcome.overflowsOnlyIf_of_done rfl
    · exact Outcome.overflowsOnlyIf_of_refused rfl
  cases call with
  | addNode name tokens => exact Action.overflowsOnlyIf_map (hAttempt _)
  | addLink source target => exact Action.overflowsOnlyIf_map (hAttempt _)
  | send source target amount => exact Action.overflowsOnlyIf_map (hSend source target amount)
  | control event =>
      apply Action.overflowsOnlyIf_map
      cases event with
      | passToken source target amount =>
          apply Action.overflowsOnlyIf_bind (hSend source target amount)
          exact fun _ _ _ => Outcome.overflowsOnlyIf_of_done rfl
      | snapshot name =>
          apply Action.overflowsOnlyIf_bind (hStart name)
          exact fun _ _ _ => Outcome.overflowsOnlyIf_of_done rfl
  | startSnapshot name => exact Action.overflowsOnlyIf_map (hStart name)
  | tick =>
      apply Action.overflowsOnlyIf_map
      exact hAttained.overflows_tick (hTick rfl) hFull
  | receiveTime => exact Action.overflowsOnlyIf_map (timely_receiveTime net hSound hLate).1
  | notify report => exact Action.overflowsOnlyIf_map (timely_notify net report hSound hLate).1
  | handle snapshot =>
      apply Action.overflowsOnlyIf_map
      unfold handle
      split
      · exact Outcome.overflowsOnlyIf_of_refused rfl
      · exact Outcome.overflowsOnlyIf_of_done rfl
  | tryCollect snapshot =>
      apply Action.overflowsOnlyIf_map
      unfold tryCollect
      split
      · exact Outcome.overflowsOnlyIf_of_refused rfl
      · split <;> exact Outcome.overflowsOnlyIf_of_done rfl
  | collect snapshot =>
      apply Action.overflowsOnlyIf_map
      unfold collect
      split
      · exact Outcome.overflowsOnlyIf_of_refused rfl
      · split
        · exact Outcome.overflowsOnlyIf_of_done rfl
        · exact Outcome.overflowsOnlyIf_of_refused rfl
        · exact Outcome.overflowsOnlyIf_of_done rfl
  | release snapshot =>
      apply Action.overflowsOnlyIf_map
      unfold release
      split
      · exact Outcome.overflowsOnlyIf_of_refused rfl
      · split <;> exact Outcome.overflowsOnlyIf_of_done rfl
  | abandon snapshots => exact Action.overflowsOnlyIf_map (Outcome.overflowsOnlyIf_of_done rfl)

/-- Whether the clock or the number of the next snapshot is at the end of its range: a message that
is sent after one more tick may become due beyond the last tick, or there is no further number. -/
def Exhausted (net : Network) : Prop :=
  UInt64.size ≤ net.tickNow.toNat + 1 + max 1 net.maxDelay.toNat ∨
    UInt64.size ≤ net.nextSnapshot.toNat + 1

/-- A call is cut short only if a sum does not fit, and then the clock, the number of the next
snapshot or the tokens of the network are at the end of their range. -/
theorem Attained.overflows (hAttained : net.Attained) (call : Call) :
    (answer call net).OverflowsOnlyIf (net.Exhausted ∨ UInt64.size ≤ net.wealth) := by
  apply hAttained.overflows_call call
  · intro hEnd
    unfold Late at hEnd
    exact Or.inl (Or.inl (by omega))
  · exact fun hEnd => Or.inl (Or.inr hEnd)
  · exact Or.inr
  · exact fun _ hEnd => Or.inl (Or.inl hEnd)

end Network

end TokenNet
