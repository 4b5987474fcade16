import TokenNet.Proofs.Outcome

namespace TokenNet

/-!
# Two runs of one action

`Outcome.Agrees post refusal` says of two outcomes that an observer cannot tell them apart: both are
done with the same value, both are refused with the same error, or both are cut short by the same
fault; and it says how the states are related that they leave.  The rules below carry such
statements through the combinators.  `Action.Simulates R` says that two actions agree, on any two
states that are related by `R`, and leave them related; the states may be of different kinds.
`Action.Respects R` says so of an action and itself.
-/

variable {σ τ ε η α β : Type}

/-- What two outcomes have in common that cannot be told apart. -/
def Outcome.Agrees (first : Outcome σ ε α) (second : Outcome τ ε α) (post : α → σ → τ → Prop)
    (refusal : ε → σ → τ → Prop) : Prop :=
  match first, second with
  | .done value state, .done other final => value = other ∧ post value state final
  | .refused error state, .refused other final => error = other ∧ refusal error state final
  | .faulted fault, .faulted other => fault = other
  | _, _ => False

/-- On related states two actions have outcomes that cannot be told apart, and leave related
states. -/
def Action.Simulates (R : σ → τ → Prop) (action : Action σ ε α) (counterpart : Action τ ε α) :
    Prop :=
  ∀ ⦃state other⦄, R state other →
    (action state).Agrees (counterpart other) (fun _ => R) (fun _ => R)

/-- On related states an action has outcomes that cannot be told apart, and leaves related
states. -/
def Action.Respects (R : σ → σ → Prop) (action : Action σ ε α) : Prop :=
  ∀ ⦃state other⦄, R state other →
    (action state).Agrees (action other) (fun _ => R) (fun _ => R)

namespace Outcome

variable {first : Outcome σ ε α} {second : Outcome τ ε α} {post post' : α → σ → τ → Prop}
  {refusal refusal' : ε → σ → τ → Prop}

theorem Agrees.mono (hAgrees : first.Agrees second post refusal)
    (hPost : ∀ value state other, post value state other → post' value state other)
    (hRefusal : ∀ error state other, refusal error state other → refusal' error state other) :
    first.Agrees second post' refusal' := by
  cases first <;> cases second <;> first | exact hAgrees | exact hAgrees.elim | skip
  · exact ⟨hAgrees.1, hPost _ _ _ hAgrees.2⟩
  · exact ⟨hAgrees.1, hRefusal _ _ _ hAgrees.2⟩

/-- What each of the outcomes satisfies by itself may be added to what they have in common. -/
theorem Agrees.and_meets {M : α → σ → Prop} {N : α → τ → Prop} {M' : ε → σ → Prop}
    {N' : ε → τ → Prop} (hAgrees : first.Agrees second post refusal) (hFirst : first.Meets M M')
    (hSecond : second.Meets N N') :
    first.Agrees second
      (fun value state other => post value state other ∧ M value state ∧ N value other)
      (fun error state other => refusal error state other ∧ M' error state ∧ N' error other) := by
  cases first <;> cases second <;> first | exact hAgrees | exact hAgrees.elim | skip
  · obtain ⟨rfl, hPost⟩ := hAgrees
    exact ⟨rfl, hPost, hFirst, hSecond⟩
  · obtain ⟨rfl, hRefusal⟩ := hAgrees
    exact ⟨rfl, hRefusal, hFirst, hSecond⟩

end Outcome

namespace Action

variable {M : α → σ → τ → Prop} {post : β → σ → τ → Prop} {refusal : ε → σ → τ → Prop}
  {state : σ} {other : τ} {R : σ → τ → Prop}

theorem agrees_bind {first : Action σ ε α} {first' : Action τ ε α} {next : α → Action σ ε β}
    {next' : α → Action τ ε β} (hFirst : (first state).Agrees (first' other) M refusal)
    (hNext : ∀ value between final, M value between final →
      (next value between).Agrees (next' value final) post refusal) :
    ((first >>= next) state).Agrees ((first' >>= next') other) post refusal := by
  show (bind first next state).Agrees (bind first' next' other) post refusal
  unfold bind
  cases hState : first state <;> cases hOther : first' other <;> rw [hState, hOther] at hFirst <;>
    first | exact hFirst | exact hFirst.elim | skip
  obtain ⟨rfl, hMiddle⟩ := hFirst
  exact hNext _ _ _ hMiddle

theorem agrees_read {view : σ → α} {view' : τ → α} {next : α → Action σ ε β}
    {next' : α → Action τ ε β} (hView : view state = view' other)
    (hNext : (next (view state) state).Agrees (next' (view state) other) post refusal) :
    ((read view >>= next) state).Agrees ((read view' >>= next') other) post refusal := by
  show (next (view state) state).Agrees (next' (view' other) other) post refusal
  rw [← hView]
  exact hNext

theorem agrees_map {action : Action σ ε α} {action' : Action τ ε α} {f : α → β}
    (hAction : (action state).Agrees (action' other)
      (fun value between final => post (f value) between final) refusal) :
    ((f <$> action) state).Agrees ((f <$> action') other) post refusal :=
  agrees_bind hAction fun _ _ _ hPost => ⟨rfl, hPost⟩

theorem agrees_mapError {action : Action σ ε α} {action' : Action τ ε α} {rename : ε → η}
    {refusal : η → σ → τ → Prop}
    (hAction : (action state).Agrees (action' other) M
      fun error between final => refusal (rename error) between final) :
    ((mapError rename action) state).Agrees ((mapError rename action') other) M refusal := by
  unfold mapError
  cases hState : action state <;> cases hOther : action' other <;>
    rw [hState, hOther] at hAction <;> first | exact hAction | exact hAction.elim | skip
  exact ⟨congrArg rename hAction.1, hAction.2⟩

/-! ### Actions on states of two kinds -/

theorem simulates_pure (value : α) :
    Simulates R (Pure.pure value : Action σ ε α) (Pure.pure value : Action τ ε α) :=
  fun _ _ hRelated => ⟨rfl, hRelated⟩

theorem simulates_refuse (error : ε) :
    Simulates R (refuse error : Action σ ε α) (refuse error : Action τ ε α) :=
  fun _ _ hRelated => ⟨rfl, hRelated⟩

theorem Simulates.bind {first : Action σ ε α} {first' : Action τ ε α} {next : α → Action σ ε β}
    {next' : α → Action τ ε β} (hFirst : Simulates R first first')
    (hNext : ∀ value, Simulates R (next value) (next' value)) :
    Simulates R (first >>= next) (first' >>= next') :=
  fun _ _ hRelated => agrees_bind (hFirst hRelated) fun value _ _ hBetween => hNext value hBetween

theorem Simulates.read_bind {view : σ → α} {view' : τ → α} {next : α → Action σ ε β}
    {next' : α → Action τ ε β} (hView : ∀ state other, R state other → view state = view' other)
    (hNext : ∀ value, Simulates R (next value) (next' value)) :
    Simulates R (read view >>= next) (read view' >>= next') :=
  fun state other hRelated => agrees_read (hView state other hRelated) (hNext _ hRelated)

theorem Simulates.map {action : Action σ ε α} {action' : Action τ ε α} (f : α → β)
    (hAction : Simulates R action action') : Simulates R (f <$> action) (f <$> action') :=
  fun _ _ hRelated => agrees_map (hAction hRelated)

end Action

namespace Action

variable {R : σ → σ → Prop}

/-! ### An action and itself -/

/-- On one and the same state an action has one outcome. -/
theorem respects_eq (action : Action σ ε α) : Respects Eq action := by
  rintro state _ rfl
  cases hOutcome : action state <;> first | exact ⟨rfl, rfl⟩ | exact rfl

theorem respects_pure (value : α) : Respects R (Pure.pure value : Action σ ε α) :=
  simulates_pure value

theorem respects_refuse (error : ε) : Respects R (refuse error : Action σ ε α) :=
  simulates_refuse error

theorem respects_ofExcept (result : Except Fault α) :
    Respects R (ofExcept result : Action σ ε α) := by
  intro state other hRelated
  cases result with
  | ok value => exact ⟨rfl, hRelated⟩
  | error fault => exact rfl

theorem respects_update {change : σ → σ}
    (hChange : ∀ state other, R state other → R (change state) (change other)) :
    Respects R (update change : Action σ ε Unit) :=
  fun state other hRelated => ⟨rfl, hChange state other hRelated⟩

theorem Respects.bind {first : Action σ ε α} {next : α → Action σ ε β} (hFirst : Respects R first)
    (hNext : ∀ value, Respects R (next value)) : Respects R (first >>= next) :=
  Simulates.bind hFirst hNext

theorem Respects.read_bind {view : σ → α} {next : α → Action σ ε β}
    (hView : ∀ state other, R state other → view state = view other)
    (hNext : ∀ value, Respects R (next value)) : Respects R (read view >>= next) :=
  Simulates.read_bind hView hNext

theorem Respects.map {action : Action σ ε α} (f : α → β) (hAction : Respects R action) :
    Respects R (f <$> action) :=
  Simulates.map f hAction

theorem Respects.mapError {action : Action σ ε α} (rename : ε → η) (hAction : Respects R action) :
    Respects R (Action.mapError rename action) :=
  fun _ _ hRelated => agrees_mapError (hAction hRelated)

theorem Respects.ite {condition : Prop} [Decidable condition] {yes no : Action σ ε α}
    (hYes : Respects R yes) (hNo : Respects R no) :
    Respects R (if condition then yes else no) := by
  split
  · exact hYes
  · exact hNo

end Action

end TokenNet
