import TokenNet.Action

namespace TokenNet

/-!
# What an action comes to

`Outcome.Meets post refusal` says what an outcome may be: done with a value and a
state that satisfy `post`, refused with an error and a state that satisfy `refusal`,
or cut short.  An action that meets a refusal condition that is never true is done
or cut short.  The rules below carry such statements through the combinators, so
that a proof about an action follows the text of the action.

`Action.history` carries out actions one after another and goes on after one that is refused.
-/

variable {σ ε η α β : Type}

/-- What an outcome that is not a fault satisfies. -/
def Outcome.Meets (outcome : Outcome σ ε α) (post : α → σ → Prop)
    (refusal : ε → σ → Prop) : Prop :=
  match outcome with
  | .done value state => post value state
  | .refused error state => refusal error state
  | .faulted _ => True

/-- What an outcome that is done yields, and the state that it leaves. -/
def Outcome.done? : Outcome σ ε α → Option (α × σ)
  | .done value state => some (value, state)
  | _ => none

/-- Why an outcome that is refused is, and the state that it leaves. -/
def Outcome.refused? : Outcome σ ε α → Option (ε × σ)
  | .refused error state => some (error, state)
  | _ => none

/-- The refusal condition of an action that is never refused. -/
def Never : ε → σ → Prop := fun _ _ => False

namespace Outcome

variable {outcome : Outcome σ ε α} {post post' : α → σ → Prop} {refusal refusal' : ε → σ → Prop}

theorem done?_eq_some_iff {value : α} {state : σ} :
    outcome.done? = some (value, state) ↔ outcome = .done value state := by
  cases outcome <;> simp [done?]

theorem refused?_eq_some_iff {error : ε} {state : σ} :
    outcome.refused? = some (error, state) ↔ outcome = .refused error state := by
  cases outcome <;> simp [refused?]

theorem Meets.of_done {value : α} {state : σ} (hMeets : outcome.Meets post refusal)
    (hDone : outcome = .done value state) : post value state := by
  subst hDone
  exact hMeets

theorem Meets.of_refused {error : ε} {state : σ} (hMeets : outcome.Meets post refusal)
    (hRefused : outcome = .refused error state) : refusal error state := by
  subst hRefused
  exact hMeets

theorem meets_of_done {value : α} {state : σ} (hDone : outcome = .done value state)
    (hPost : post value state) : outcome.Meets post refusal := by
  subst hDone
  exact hPost

theorem Meets.mono (hMeets : outcome.Meets post refusal)
    (hPost : ∀ value state, post value state → post' value state)
    (hRefusal : ∀ error state, refusal error state → refusal' error state) :
    outcome.Meets post' refusal' := by
  cases outcome with
  | done value state => exact hPost value state hMeets
  | refused error state => exact hRefusal error state hMeets
  | faulted fault => exact True.intro

/-- What an action that is never refused satisfies may be weakened, and any refusal
condition added. -/
theorem Meets.imp (hMeets : outcome.Meets post Never)
    (hPost : ∀ value state, post value state → post' value state) :
    outcome.Meets post' refusal' :=
  hMeets.mono hPost fun _ _ hNever => hNever.elim

theorem Meets.and (hMeets : outcome.Meets post Never) (hOther : outcome.Meets post' Never) :
    outcome.Meets (fun value state => post value state ∧ post' value state) Never := by
  cases outcome with
  | done value state => exact ⟨hMeets, hOther⟩
  | refused error state => exact hMeets
  | faulted fault => exact True.intro

theorem Meets.both (hMeets : outcome.Meets post refusal) (hOther : outcome.Meets post' refusal') :
    outcome.Meets (fun value state => post value state ∧ post' value state)
      (fun error state => refusal error state ∧ refusal' error state) := by
  cases outcome with
  | done value state => exact ⟨hMeets, hOther⟩
  | refused error state => exact ⟨hMeets, hOther⟩
  | faulted fault => exact True.intro

/-- What an outcome satisfies if it is done may mention that it is. -/
theorem Meets.done_self (hMeets : outcome.Meets post refusal) :
    outcome.Meets (fun value state => outcome = .done value state ∧ post value state) refusal := by
  cases outcome with
  | done value state => exact ⟨rfl, hMeets⟩
  | refused error state => exact hMeets
  | faulted fault => exact True.intro

/-- An outcome meets the conditions that say of it what it is. -/
theorem meets_self :
    outcome.Meets (fun value state => outcome = .done value state)
      (fun error state => outcome = .refused error state) := by
  cases outcome with
  | done value state => exact rfl
  | refused error state => exact rfl
  | faulted fault => exact True.intro

end Outcome

namespace Action

variable {post : β → σ → Prop} {M : α → σ → Prop} {refusal : ε → σ → Prop} {state : σ}

theorem meets_bind {first : Action σ ε α} {next : α → Action σ ε β}
    (hFirst : (first state).Meets M refusal)
    (hNext : ∀ value between, M value between → (next value between).Meets post refusal) :
    ((first >>= next) state).Meets post refusal := by
  show (bind first next state).Meets post refusal
  unfold bind
  cases hOutcome : first state with
  | done value between => exact hNext value between (hFirst.of_done hOutcome)
  | refused error between => exact hFirst.of_refused hOutcome
  | faulted fault => exact True.intro

/-- What comes next only counts where the first action leads. -/
theorem bind_congr_of_done {first : Action σ ε α} {next other : α → Action σ ε β}
    (hNext : ∀ value between, first state = .done value between →
      next value between = other value between) :
    (first >>= next) state = (first >>= other) state := by
  show bind first next state = bind first other state
  unfold bind
  cases hOutcome : first state with
  | done value between => exact hNext value between hOutcome
  | refused error between => rfl
  | faulted fault => rfl

/-- An action may be replaced by one that has the same outcome. -/
theorem bind_congr_left {first other : Action σ ε α} {next : α → Action σ ε β}
    (hSame : first state = other state) : (first >>= next) state = (other >>= next) state := by
  show bind first next state = bind other next state
  unfold bind
  rw [hSame]

theorem bind_of_done {first : Action σ ε α} {next : α → Action σ ε β} {value : α} {between : σ}
    (hFirst : first state = .done value between) : (first >>= next) state = next value between := by
  show bind first next state = _
  unfold bind
  rw [hFirst]

theorem bind_of_refused {first : Action σ ε α} {next : α → Action σ ε β} {error : ε} {between : σ}
    (hFirst : first state = .refused error between) :
    (first >>= next) state = .refused error between := by
  show bind first next state = _
  unfold bind
  rw [hFirst]

/-- After an action whose outcome is known, only the next action counts. -/
theorem meets_bind_of_done {first : Action σ ε α} {next : α → Action σ ε β} {value : α}
    {between : σ} (hFirst : first state = .done value between)
    (hNext : (next value between).Meets post refusal) :
    ((first >>= next) state).Meets post refusal := by
  rw [bind_of_done hFirst]
  exact hNext

/-- After an action that is refused, the next action does not count. -/
theorem meets_bind_of_refused {first : Action σ ε α} {next : α → Action σ ε β} {error : ε}
    {between : σ} (hFirst : first state = .refused error between)
    (hRefusal : refusal error between) : ((first >>= next) state).Meets post refusal := by
  rw [bind_of_refused hFirst]
  exact hRefusal

theorem meets_ite {condition : Prop} [Decidable condition] {yes no : Action σ ε β}
    (hYes : condition → (yes state).Meets post refusal)
    (hNo : ¬ condition → (no state).Meets post refusal) :
    ((if condition then yes else no) state).Meets post refusal := by
  by_cases hCondition : condition
  · rw [if_pos hCondition]
    exact hYes hCondition
  · rw [if_neg hCondition]
    exact hNo hCondition

theorem meets_map {action : Action σ ε α} {f : α → β}
    (hAction : (action state).Meets (fun value after => post (f value) after) refusal) :
    ((f <$> action) state).Meets post refusal :=
  meets_bind hAction fun _ _ hPost => hPost

theorem meets_mapError {action : Action σ ε α} {rename : ε → η} {refusal : η → σ → Prop}
    (hAction : (action state).Meets M fun error after => refusal (rename error) after) :
    ((mapError rename action) state).Meets M refusal := by
  unfold mapError
  cases hOutcome : action state with
  | done value between => exact hAction.of_done hOutcome
  | refused error between => exact hAction.of_refused hOutcome
  | faulted fault => exact True.intro

theorem mapError_eq_done_iff {action : Action σ ε α} {rename : ε → η} {final : σ} {value : α} :
    mapError rename action state = .done value final ↔ action state = .done value final := by
  unfold mapError
  cases action state <;> simp

theorem mapError_eq_refused_iff {action : Action σ ε α} {rename : ε → η} {final : σ} {error : η} :
    mapError rename action state = .refused error final ↔
      ∃ cause, action state = .refused cause final ∧ rename cause = error := by
  unfold mapError
  cases action state <;> simp [and_assoc, and_comm]

theorem mapError_eq_faulted_iff {action : Action σ ε α} {rename : ε → η} {fault : Fault} :
    mapError rename action state = .faulted fault ↔ action state = .faulted fault := by
  unfold mapError
  cases action state <;> simp

/-- Errors may be renamed action by action. -/
theorem mapError_bind (rename : ε → η) (first : Action σ ε α) (next : α → Action σ ε β) :
    mapError rename (first >>= next) =
      mapError rename first >>= fun value => mapError rename (next value) := by
  funext state
  show mapError rename (bind first next) state =
    bind (mapError rename first) (fun value => mapError rename (next value)) state
  simp only [mapError, bind]
  cases first state <;> rfl

theorem meets_update {change : σ → σ} {post : Unit → σ → Prop}
    (hPost : post () (change state)) :
    ((update change : Action σ ε Unit) state).Meets post refusal :=
  hPost

theorem meets_ofExcept {result : Except Fault β}
    (hPost : ∀ value, result = .ok value → post value state) :
    ((ofExcept result : Action σ ε β) state).Meets post refusal := by
  cases result with
  | ok value => exact hPost value rfl
  | error fault => exact True.intro

/-! ### Actions one after another -/

/-- Carries out an action and goes on with the state that it leaves, whether or not it is refused. -/
def reply (action : Action σ ε α) (state : σ) : Except Fault (Except ε α × σ) :=
  match action state with
  | .done value after => .ok (.ok value, after)
  | .refused error after => .ok (.error error, after)
  | .faulted fault => .error fault

/-- Does what is asked, one after another.  Yields what became of each, and the last state. -/
def history {γ : Type} (answer : γ → Action σ ε α) : List γ → σ → Except Fault (List (Except ε α) × σ)
  | [], state => .ok ([], state)
  | call :: rest, state => do
      let (first, middle) ← (answer call).reply state
      let (later, last) ← history answer rest middle
      return (first :: later, last)

theorem history_cons {γ : Type} {answer : γ → Action σ ε α} {call : γ} {middle : σ}
    {first : Except ε α} (rest : List γ) (hFirst : (answer call).reply state = .ok (first, middle)) :
    history answer (call :: rest) state =
      (history answer rest middle).map fun later => (first :: later.1, later.2) := by
  rw [history, hFirst]
  show (history answer rest middle >>= _) = _
  cases history answer rest middle <;> rfl

end Action

end TokenNet
