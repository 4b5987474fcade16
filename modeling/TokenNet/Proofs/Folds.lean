import Mathlib.Data.List.Forall2

namespace TokenNet

/-!
# Folds and lists of steps that can fail

A fold or a list of steps goes on until a step fails, so it succeeds if all steps do and fails as the
first one does that fails (`foldlM_eq_error_iff`, `mapM_eq_ok_iff`, `mapM_eq_error_iff`).  What every
step keeps, a fold keeps (`foldlM_keeps`).
-/

variable {σ α β ε η : Type}

/-! ### One step after the other -/

section Pair

variable {first : Except ε α} {next : α → Except ε β}

theorem bind_eq_ok_iff {value : β} :
    (first >>= next) = .ok value ↔ ∃ between, first = .ok between ∧ next between = .ok value := by
  cases first <;> simp [bind, Except.bind]

theorem bind_eq_error_iff {error : ε} :
    (first >>= next) = .error error ↔
      first = .error error ∨ ∃ between, first = .ok between ∧ next between = .error error := by
  cases first <;> simp [bind, Except.bind]

end Pair

/-! ### Folds -/

section Fold

variable {change : σ → α → Except ε σ} {items : List α} {state final : σ}

theorem foldlM_cons_eq_ok {item : α} {rest : List α} :
    (item :: rest).foldlM change state = .ok final ↔
      ∃ between, change state item = .ok between ∧ rest.foldlM change between = .ok final := by
  rw [List.foldlM_cons, bind_eq_ok_iff]

/-- What the step of every item keeps, the fold keeps. -/
theorem foldlM_keeps {P : σ → Prop}
    (hChange : ∀ {item before after}, item ∈ items → P before →
      change before item = .ok after → P after)
    (hState : P state) (hFold : items.foldlM change state = .ok final) : P final := by
  induction items generalizing state with
  | nil =>
      cases hFold
      exact hState
  | cons item rest ih =>
      obtain ⟨between, hFirst, hRest⟩ := foldlM_cons_eq_ok.mp hFold
      exact ih (fun hItem => hChange (List.mem_cons_of_mem item hItem))
        (hChange List.mem_cons_self hState hFirst) hRest

/-- A fold is refused for the first item that is. -/
theorem foldlM_eq_error_iff {error : ε} :
    items.foldlM change state = .error error ↔
      ∃ earlier item later between, items = earlier ++ item :: later ∧
        earlier.foldlM change state = .ok between ∧ change between item = .error error := by
  induction items generalizing state with
  | nil => simp [pure, Except.pure]
  | cons first rest ih =>
      rw [List.foldlM_cons, bind_eq_error_iff]
      constructor
      · rintro (hFirst | ⟨next, hFirst, hRest⟩)
        · exact ⟨[], first, rest, state, rfl, rfl, hFirst⟩
        · obtain ⟨earlier, item, later, between, rfl, hEarlier, hItem⟩ := ih.mp hRest
          exact ⟨first :: earlier, item, later, between, rfl,
            foldlM_cons_eq_ok.mpr ⟨next, hFirst, hEarlier⟩, hItem⟩
      · rintro ⟨earlier, item, later, between, hItems, hEarlier, hItem⟩
        cases earlier with
        | nil =>
            cases hItems
            cases hEarlier
            exact Or.inl hItem
        | cons other others =>
            cases hItems
            obtain ⟨next, hFirst, hRest⟩ := foldlM_cons_eq_ok.mp hEarlier
            exact Or.inr ⟨next, hFirst, ih.mpr
              ⟨others, item, later, between, rfl, hRest, hItem⟩⟩

end Fold

/-! ### Lists of steps -/

section Steps

variable {read : α → Except ε β} {items : List α} {values : List β}

theorem mapM_cons_eq_ok {item : α} {rest : List α} :
    (item :: rest).mapM read = .ok values ↔
      ∃ first others, read item = .ok first ∧ rest.mapM read = .ok others ∧
        values = first :: others := by
  simp only [List.mapM_cons, bind_eq_ok_iff, pure, Except.pure, Except.ok.injEq,
    ← exists_and_left, eq_comm (a := values)]

theorem mapM_cons_eq_error {item : α} {rest : List α} {error : ε} :
    (item :: rest).mapM read = .error error ↔
      read item = .error error ∨ (∃ value, read item = .ok value) ∧ rest.mapM read = .error error := by
  rw [List.mapM_cons]
  cases read item <;> cases rest.mapM read <;> simp [bind, Except.bind, pure, Except.pure]

/-- Items are read one by one. -/
theorem mapM_eq_ok_iff :
    items.mapM read = .ok values ↔
      List.Forall₂ (fun item value => read item = .ok value) items values := by
  induction items generalizing values with
  | nil => simp [pure, Except.pure, eq_comm]
  | cons item rest ih =>
      rw [mapM_cons_eq_ok, List.forall₂_cons_left_iff]
      simp only [ih]

/-- Items cannot be read for the first one that cannot be. -/
theorem mapM_eq_error_iff {error : ε} :
    items.mapM read = .error error ↔
      ∃ earlier item later, items = earlier ++ item :: later ∧
        (∀ other ∈ earlier, ∃ value, read other = .ok value) ∧ read item = .error error := by
  induction items with
  | nil => simp [pure, Except.pure]
  | cons first rest ih =>
      rw [mapM_cons_eq_error, ih]
      constructor
      · rintro (hFirst | ⟨hRead, earlier, item, later, rfl, hEarlier, hItem⟩)
        · exact ⟨[], first, rest, rfl, by simp, hFirst⟩
        · exact ⟨first :: earlier, item, later, rfl, List.forall_mem_cons.mpr ⟨hRead, hEarlier⟩, hItem⟩
      · rintro ⟨earlier, item, later, hItems, hEarlier, hItem⟩
        cases earlier with
        | nil =>
            cases hItems
            exact Or.inl hItem
        | cons other others =>
            cases hItems
            obtain ⟨hRead, hOthers⟩ := List.forall_mem_cons.mp hEarlier
            exact Or.inr ⟨hRead, others, item, later, rfl, hOthers, hItem⟩

/-- What errors are called does not matter to how far a list of steps goes. -/
theorem mapError_mapM (rename : ε → η) (read : α → Except ε β) (items : List α) :
    (items.mapM read).mapError rename = items.mapM fun item => (read item).mapError rename := by
  induction items with
  | nil => rfl
  | cons item rest ih =>
      rw [List.mapM_cons, List.mapM_cons, ← ih]
      cases read item <;> cases rest.mapM read <;> rfl

/-- If every item has a value, then so has the list. -/
theorem mapM_eq_some_of_forall₂ {read? : α → Option β}
    (hRead : List.Forall₂ (fun item value => read? item = some value) items values) :
    items.mapM read? = some values := by
  induction hRead with
  | nil => rfl
  | cons hFirst _ ih =>
      rw [List.mapM_cons, hFirst, ih]
      rfl

end Steps

end TokenNet
