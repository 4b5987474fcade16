namespace TokenNet

/-!
# Places in sorted arrays

Entries are sorted if their keys strictly increase.  The place of a key among them
is the number of entries with a smaller key; it is found by halving the range in
which it can lie.  The main statements are `isPlace_place` and, for the array that
has one entry more, `pairwise_insertEntry` and `mem_insertEntry`.
-/

universe u v

/-- The order on keys is a strict total order. -/
class KeyOrder (κ : Type u) [LT κ] : Prop where
  /-- No key is below itself. -/
  irrefl (a : κ) : ¬ a < a
  /-- The order is transitive. -/
  trans {a b c : κ} : a < b → b < c → a < c
  /-- Any two keys are equal or comparable. -/
  trichotomy (a b : κ) : a < b ∨ a = b ∨ b < a

instance : KeyOrder String where
  irrefl := String.lt_irrefl
  trans := String.lt_trans
  trichotomy := Std.lt_trichotomy

instance : KeyOrder UInt64 where
  irrefl := UInt64.lt_irrefl
  trans := UInt64.lt_trans
  trichotomy := Std.lt_trichotomy

namespace KeyOrder

variable {κ : Type u} [LT κ] [KeyOrder κ]

/-- A key that is neither below nor equal to another one is above it. -/
theorem lt_of_not_lt_of_ne {a b : κ} (hNotBelow : ¬ a < b) (hDifferent : a ≠ b) : b < a := by
  rcases trichotomy a b with hLess | hEqual | hLess
  · exact absurd hLess hNotBelow
  · exact absurd hEqual hDifferent
  · exact hLess

theorem ne_of_lt {a b : κ} (hLess : a < b) : a ≠ b := by
  intro hEqual
  exact irrefl b (hEqual ▸ hLess)

end KeyOrder

namespace SortedMap

variable {κ : Type u} {α : Type v} [LT κ]

/-- The keys of the entries strictly increase. -/
abbrev Increasing (entries : List (κ × α)) : Prop :=
  entries.Pairwise fun earlier later => earlier.1 < later.1

/-! ### Finding a place -/

/-- The number of entries below a key, which is known to lie between `low` and
`high`.  Every step halves what is left between them. -/
def placeFrom [DecidableLT κ] (key : κ) (entries : Array (κ × α)) : Nat → Nat → Nat → Nat
  | 0, low, _ => low
  | steps + 1, low, high =>
      if low < high then
        let middle := (low + high) / 2
        if h : middle < entries.size then
          if entries[middle].1 < key then placeFrom key entries steps (middle + 1) high
          else placeFrom key entries steps low middle
        else low
      else low

/-- The number of entries below a key. -/
def place [DecidableLT κ] (key : κ) (entries : Array (κ × α)) : Nat :=
  placeFrom key entries entries.size 0 entries.size

/-- The entries before `place` are those with a key below `key`. -/
structure IsPlace (key : κ) (entries : Array (κ × α)) (place : Nat) : Prop where
  /-- The place is in the array or right behind it. -/
  le_size : place ≤ entries.size
  /-- What comes before is below the key. -/
  below : ∀ (i : Nat) (hBound : i < entries.size), i < place → entries[i].1 < key
  /-- What comes at the place or later is not below the key. -/
  above : ∀ (i : Nat) (hBound : i < entries.size), place ≤ i → ¬ entries[i].1 < key

theorem isPlace_placeFrom [DecidableLT κ] [KeyOrder κ] {key : κ} {entries : Array (κ × α)}
    (hSorted : Increasing entries.toList) {steps low high : Nat} (hOrder : low ≤ high)
    (hHigh : high ≤ entries.size) (hSteps : high - low ≤ steps)
    (hBelow : ∀ (i : Nat) (hBound : i < entries.size), i < low → entries[i].1 < key)
    (hAbove : ∀ (i : Nat) (hBound : i < entries.size), high ≤ i → ¬ entries[i].1 < key) :
    IsPlace key entries (placeFrom key entries steps low high) := by
  have hLater : ∀ (i j : Nat) (hI : i < entries.size) (hJ : j < entries.size), i < j →
      entries[i].1 < entries[j].1 := fun i j hI hJ hLess =>
    List.pairwise_iff_getElem.mp hSorted i j hI hJ hLess
  induction steps generalizing low high with
  | zero =>
      have hSame : high = low := by omega
      exact ⟨by simp only [placeFrom]; omega, hBelow, hSame ▸ hAbove⟩
  | succ steps ih =>
      simp only [placeFrom]
      by_cases hRange : low < high
      · rw [if_pos hRange]
        have hMiddle : (low + high) / 2 < entries.size := by omega
        rw [dif_pos hMiddle]
        by_cases hLess : entries[(low + high) / 2].1 < key
        · -- The middle entry and all before it are below the key.
          rw [if_pos hLess]
          refine ih (by omega) hHigh (by omega) (fun i hBound hBefore => ?_) hAbove
          by_cases hEqual : i = (low + high) / 2
          · subst hEqual
            exact hLess
          · exact KeyOrder.trans (hLater i _ hBound hMiddle (by omega)) hLess
        · -- Neither the middle entry nor any behind it is below the key.
          rw [if_neg hLess]
          refine ih (by omega) (by omega) (by omega) hBelow fun i hBound hFrom hKey => ?_
          by_cases hEqual : i = (low + high) / 2
          · subst hEqual
            exact hLess hKey
          · exact hLess (KeyOrder.trans (hLater _ i hMiddle hBound (by omega)) hKey)
      · rw [if_neg hRange]
        have hSame : high = low := by omega
        exact ⟨by omega, hBelow, hSame ▸ hAbove⟩

/-- The place of a key is found. -/
theorem isPlace_place [DecidableLT κ] [KeyOrder κ] {key : κ} {entries : Array (κ × α)}
    (hSorted : Increasing entries.toList) : IsPlace key entries (place key entries) :=
  isPlace_placeFrom hSorted (Nat.zero_le _) (Nat.le_refl _) (Nat.le_refl _)
    (fun _ _ hLess => absurd hLess (Nat.not_lt_zero _))
    (fun _ hBound hFrom => absurd hBound (Nat.not_lt.mpr hFrom))

/-! ### Looking up -/

/-- The value that is stored under a key. -/
def lookupEntry [DecidableLT κ] [DecidableEq κ] (key : κ) (entries : Array (κ × α)) :
    Option α :=
  let place := place key entries
  if h : place < entries.size then
    if entries[place].1 = key then some entries[place].2 else none
  else none

/-- Among sorted entries, the value found under a key is the one that is stored. -/
theorem lookupEntry_eq_some_iff [DecidableLT κ] [DecidableEq κ] [KeyOrder κ] {key : κ}
    {value : α} {entries : Array (κ × α)} (hSorted : Increasing entries.toList) :
    lookupEntry key entries = some value ↔ (key, value) ∈ entries.toList := by
  have hPlace : IsPlace key entries (place key entries) := isPlace_place hSorted
  constructor
  · intro hFound
    simp only [lookupEntry] at hFound
    split at hFound
    · split at hFound
      · rename_i hBound hEqual
        cases hFound
        have hMember : entries[place key entries] ∈ entries.toList := List.getElem_mem hBound
        have hEntry : entries[place key entries] = (key, entries[place key entries].2) :=
          Prod.ext hEqual rfl
        exact (congrArg (· ∈ entries.toList) hEntry).mp hMember
      · cases hFound
    · cases hFound
  · intro hMember
    obtain ⟨i, hBound, hEntry⟩ := List.mem_iff_getElem.mp hMember
    have hBound' : i < entries.size := hBound
    have hEntry' : entries[i] = (key, value) := hEntry
    have hSame : i = place key entries := by
      rcases Nat.lt_trichotomy i (place key entries) with hLess | hEqual | hLess
      · have hBelow := hPlace.below i hBound' hLess
        rw [hEntry'] at hBelow
        exact absurd hBelow (KeyOrder.irrefl key)
      · exact hEqual
      · -- An earlier entry that is not below the key contradicts the order.
        have hEarlier : entries[place key entries].1 < entries[i].1 :=
          List.pairwise_iff_getElem.mp hSorted _ i (Nat.lt_trans hLess hBound) hBound hLess
        rw [hEntry'] at hEarlier
        exact absurd hEarlier (hPlace.above _ (Nat.lt_trans hLess hBound') (Nat.le_refl _))
    subst hSame
    simp [lookupEntry, hBound', hEntry']

/-! ### Putting an entry in its place -/

/-- Puts an entry in its place; an entry with the same key gives way. -/
def insertEntry [DecidableLT κ] [DecidableEq κ] (key : κ) (value : α)
    (entries : Array (κ × α)) : Array (κ × α) :=
  let place := place key entries
  if h : place < entries.size then
    if entries[place].1 = key then entries.set place (key, value) h
    else entries.insertIdx place (key, value) (Nat.le_of_lt h)
  else entries.push (key, value)

/-- A list with one element more is what comes before it, the element, and what comes
after it. -/
theorem insertIdx_eq_take_append_cons_drop {β : Type u} (list : List β) (i : Nat) (x : β)
    (hBound : i ≤ list.length) : list.insertIdx i x = list.take i ++ x :: list.drop i := by
  induction list generalizing i with
  | nil =>
      have hZero : i = 0 := Nat.le_zero.mp hBound
      subst hZero
      rfl
  | cons head rest ih =>
      cases i with
      | zero => rfl
      | succ i =>
          rw [List.insertIdx_succ_cons, ih i (Nat.le_of_succ_le_succ hBound)]
          rfl

/-- The list of entries after one has been put in its place: those below it, the new
one, those above it.  All that is lost is an older entry with the same key. -/
theorem toList_insertEntry [DecidableLT κ] [DecidableEq κ] [KeyOrder κ] (key : κ) (value : α)
    {entries : Array (κ × α)} (hSorted : Increasing entries.toList) :
    ∃ before after : List (κ × α),
      (insertEntry key value entries).toList = before ++ (key, value) :: after ∧
        before.Sublist entries.toList ∧ after.Sublist entries.toList ∧
        (∀ entry ∈ before, entry.1 < key) ∧ (∀ entry ∈ after, key < entry.1) ∧
        ∀ entry ∈ entries.toList, entry ∈ before ∨ entry.1 = key ∨ entry ∈ after := by
  have hPlace : IsPlace key entries (place key entries) := isPlace_place hSorted
  have hBelow : ∀ entry ∈ entries.toList.take (place key entries), entry.1 < key := by
    intro entry hEntry
    obtain ⟨i, hBound, rfl⟩ := List.mem_take_iff_getElem.mp hEntry
    exact hPlace.below i (by rw [← Array.length_toList]; omega) (by omega)
  have hNotBelow : ∀ entry ∈ entries.toList.drop (place key entries), ¬ entry.1 < key := by
    intro entry hEntry
    obtain ⟨i, hBound, rfl⟩ := List.mem_drop_iff_getElem.mp hEntry
    exact hPlace.above _ (by rw [← Array.length_toList]; omega) (by omega)
  have hSplit : ∀ entry ∈ entries.toList, entry ∈ entries.toList.take (place key entries) ∨
      entry ∈ entries.toList.drop (place key entries) := by
    intro entry hEntry
    rw [← List.take_append_drop (place key entries) entries.toList] at hEntry
    exact List.mem_append.mp hEntry
  by_cases hBound : place key entries < entries.size
  · have hDrop : entries.toList.drop (place key entries) =
        entries[place key entries] :: entries.toList.drop (place key entries + 1) :=
      List.drop_eq_getElem_cons hBound
    have hRest : ∀ entry ∈ entries.toList.drop (place key entries + 1),
        entries[place key entries].1 < entry.1 := by
      have hTail := hSorted.sublist (List.drop_sublist (place key entries) _)
      rw [hDrop] at hTail
      exact (List.pairwise_cons.mp hTail).1
    by_cases hEqual : entries[place key entries].1 = key
    · -- The entry at the place gives way.
      refine ⟨entries.toList.take (place key entries),
        entries.toList.drop (place key entries + 1), ?_, List.take_sublist _ _,
        List.drop_sublist _ _, hBelow, fun entry hEntry => hEqual ▸ hRest entry hEntry, ?_⟩
      · simp only [insertEntry, hBound, hEqual, dite_true, if_true]
        rw [Array.toList_set, List.set_eq_take_append_cons_drop]
        exact if_pos hBound
      · intro entry hEntry
        refine (hSplit entry hEntry).imp_right fun hLater => ?_
        rw [hDrop] at hLater
        rcases List.mem_cons.mp hLater with rfl | hRest
        · exact Or.inl hEqual
        · exact Or.inr hRest
    · -- The entry at the place and all behind it are above the key.
      have hFirst : key < entries[place key entries].1 :=
        KeyOrder.lt_of_not_lt_of_ne (hPlace.above _ hBound (Nat.le_refl _)) hEqual
      refine ⟨entries.toList.take (place key entries), entries.toList.drop (place key entries),
        ?_, List.take_sublist _ _, List.drop_sublist _ _, hBelow, ?_, ?_⟩
      · simp only [insertEntry, hBound, hEqual, dite_true, if_false]
        rw [Array.toList_insertIdx]
        exact insertIdx_eq_take_append_cons_drop _ _ _ hPlace.le_size
      · intro entry hEntry
        rw [hDrop] at hEntry
        rcases List.mem_cons.mp hEntry with rfl | hLater
        · exact hFirst
        · exact KeyOrder.trans hFirst (hRest entry hLater)
      · exact fun entry hEntry => (hSplit entry hEntry).imp_right Or.inr
  · have hTake : entries.toList.take (place key entries) = entries.toList :=
      List.take_of_length_le (by rw [Array.length_toList]; omega)
    refine ⟨entries.toList, [], ?_, List.Sublist.refl _, List.nil_sublist _, hTake ▸ hBelow,
      fun _ hEntry => absurd hEntry List.not_mem_nil, fun _ hEntry => Or.inl hEntry⟩
    simp only [insertEntry, hBound, dite_false]
    exact Array.toList_push

/-- Sorted entries stay sorted. -/
theorem pairwise_insertEntry [DecidableLT κ] [DecidableEq κ] [KeyOrder κ] (key : κ)
    (value : α) {entries : Array (κ × α)} (hSorted : Increasing entries.toList) :
    Increasing (insertEntry key value entries).toList := by
  obtain ⟨before, after, hList, hBefore, hAfter, hBelow, hAbove, _⟩ :=
    toList_insertEntry key value hSorted
  rw [hList]
  refine List.pairwise_append.mpr ⟨hSorted.sublist hBefore,
    List.pairwise_cons.mpr ⟨hAbove, hSorted.sublist hAfter⟩, ?_⟩
  intro entry hEntry other hOther
  rcases List.mem_cons.mp hOther with rfl | hLater
  · exact hBelow entry hEntry
  · exact KeyOrder.trans (hBelow entry hEntry) (hAbove other hLater)

/-- The entries are the new one and the old ones with other keys. -/
theorem mem_insertEntry [DecidableLT κ] [DecidableEq κ] [KeyOrder κ] (key : κ) (value : α)
    {entries : Array (κ × α)} (hSorted : Increasing entries.toList) (entry : κ × α) :
    entry ∈ (insertEntry key value entries).toList ↔
      entry = (key, value) ∨ entry.1 ≠ key ∧ entry ∈ entries.toList := by
  obtain ⟨before, after, hList, hBefore, hAfter, hBelow, hAbove, hAll⟩ :=
    toList_insertEntry key value hSorted
  rw [hList, List.mem_append, List.mem_cons]
  constructor
  · rintro (hEntry | rfl | hEntry)
    · exact Or.inr ⟨KeyOrder.ne_of_lt (hBelow entry hEntry), hBefore.subset hEntry⟩
    · exact Or.inl rfl
    · exact Or.inr ⟨(KeyOrder.ne_of_lt (hAbove entry hEntry)).symm, hAfter.subset hEntry⟩
  · rintro (rfl | ⟨hDifferent, hEntry⟩)
    · exact Or.inr (Or.inl rfl)
    · rcases hAll entry hEntry with hEntry | hSame | hEntry
      · exact Or.inl hEntry
      · exact absurd hSame hDifferent
      · exact Or.inr (Or.inr hEntry)

end SortedMap

end TokenNet
