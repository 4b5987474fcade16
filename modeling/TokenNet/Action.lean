import TokenNet.Fault

namespace TokenNet

/-!
# Actions

An action is a call on a state.  It ends in one of three ways: it is done and
yields a value, it is refused with an error that the caller can act upon, or it
is cut short by a fault.  A refused action too leaves a state behind, because
part of its work may have been carried out; after a fault there is none.
-/

/-- How an action on a state of type `σ` ends. -/
inductive Outcome (σ ε α : Type) where
  /-- The action yields a value and leaves a state. -/
  | done (value : α) (state : σ)
  /-- The action is refused and leaves a state. -/
  | refused (error : ε) (state : σ)
  /-- The action is cut short. -/
  | faulted (fault : Fault)
deriving DecidableEq, Repr

/-- A call on a state of type `σ` with errors of type `ε`. -/
def Action (σ ε α : Type) : Type := σ → Outcome σ ε α

namespace Action

variable {σ ε η α β : Type}

/-- Yields a value and leaves the state alone. -/
def pure (value : α) : Action σ ε α := fun state => .done value state

/-- Carries out one action and, if it is done, the next one. -/
def bind (first : Action σ ε α) (next : α → Action σ ε β) : Action σ ε β := fun state =>
  match first state with
  | .done value state => next value state
  | .refused error state => .refused error state
  | .faulted fault => .faulted fault

instance : Monad (Action σ ε) where
  pure := pure
  bind := bind

/-- Yields a view of the state. -/
def read (view : σ → α) : Action σ ε α := fun state => .done (view state) state

/-- Changes the state. -/
def update (change : σ → σ) : Action σ ε Unit := fun state => .done () (change state)

/-- Is refused and leaves the state alone. -/
def refuse (error : ε) : Action σ ε α := fun state => .refused error state

/-- Yields the result of a computation without state, or its fault. -/
def ofExcept : Except Fault α → Action σ ε α
  | .ok value => pure value
  | .error fault => fun _ => .faulted fault

/-- The same action with its errors renamed. -/
def mapError (rename : ε → η) (action : Action σ ε α) : Action σ η α := fun state =>
  match action state with
  | .done value state => .done value state
  | .refused error state => .refused (rename error) state
  | .faulted fault => .faulted fault

theorem bind_eq_done_iff {first : Action σ ε α} {next : α → Action σ ε β}
    {state final : σ} {value : β} :
    (first >>= next) state = .done value final ↔
      ∃ middle between, first state = .done middle between ∧
        next middle between = .done value final := by
  show bind first next state = _ ↔ _
  unfold bind
  cases first state <;> simp [and_assoc]

theorem bind_eq_refused_iff {first : Action σ ε α} {next : α → Action σ ε β}
    {state final : σ} {error : ε} :
    (first >>= next) state = .refused error final ↔
      first state = .refused error final ∨
        ∃ middle between, first state = .done middle between ∧
          next middle between = .refused error final := by
  show bind first next state = _ ↔ _
  unfold bind
  cases first state <;> simp [and_assoc]

theorem bind_eq_faulted_iff {first : Action σ ε α} {next : α → Action σ ε β}
    {state : σ} {fault : Fault} :
    (first >>= next) state = .faulted fault ↔
      first state = .faulted fault ∨
        ∃ middle between, first state = .done middle between ∧
          next middle between = .faulted fault := by
  show bind first next state = _ ↔ _
  unfold bind
  cases first state <;> simp [and_assoc]

theorem map_eq_refused_iff {action : Action σ ε α} {f : α → β} {state final : σ} {error : ε} :
    (f <$> action) state = .refused error final ↔ action state = .refused error final := by
  show bind action (fun before => pure (f before)) state = _ ↔ _
  unfold bind
  cases action state <;> simp [pure]

theorem map_eq_faulted_iff {action : Action σ ε α} {f : α → β} {state : σ} {fault : Fault} :
    (f <$> action) state = .faulted fault ↔ action state = .faulted fault := by
  show bind action (fun before => pure (f before)) state = _ ↔ _
  unfold bind
  cases action state <;> simp [pure]

instance : LawfulMonad (Action σ ε) :=
  LawfulMonad.mk' _
    (fun action => by
      funext state
      show bind action _ state = _
      unfold bind
      cases action state <;> rfl)
    (fun _ _ => rfl)
    (fun action _ _ => by
      funext state
      show bind (bind action _) _ state = bind action _ state
      unfold bind
      cases action state <;> rfl)

end Action

end TokenNet
