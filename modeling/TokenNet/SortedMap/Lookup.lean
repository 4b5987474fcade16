import TokenNet.SortedMap.Basic

namespace TokenNet

/-!
# Looking up in sorted maps

What each operation does to the answers of look-ups, so that no proof about a map
has to open its array of entries.  Look-up is membership of the entry
(`get?_eq_some_iff`), and two maps that answer every look-up alike are equal
(`ext_get?`).
-/

universe u v w

namespace SortedMap

variable {κ : Type u} {α : Type v} {β : Type w} [LT κ]

@[simp] theorem toList_empty : (empty : SortedMap κ α).toList = [] := rfl

@[simp] theorem toList_filter (keep : κ → α → Bool) (map : SortedMap κ α) :
    (map.filter keep).toList = map.toList.filter fun entry => keep entry.1 entry.2 := rfl

@[simp] theorem toList_mapValues (f : κ → α → β) (map : SortedMap κ α) :
    (map.mapValues f).toList = map.toList.map fun entry => (entry.1, f entry.1 entry.2) := rfl

@[simp] theorem keys_mapValues (f : κ → α → β) (map : SortedMap κ α) :
    (map.mapValues f).keys = map.keys := by
  simp [keys]

@[simp] theorem length_toList (map : SortedMap κ α) : map.toList.length = map.size := rfl

/-- The keys strictly increase. -/
theorem pairwise_keys (map : SortedMap κ α) : map.keys.Pairwise (· < ·) :=
  List.pairwise_map.mpr map.sorted

/-- A map is its list of entries. -/
theorem ext_toList {left right : SortedMap κ α} (hSame : left.toList = right.toList) :
    left = right := by
  cases left
  cases right
  simp_all [toList, Array.toList_inj]

/-- Sorted lists with the same members are the same list. -/
theorem eq_of_increasing_of_mem_iff [KeyOrder κ] {left right : List (κ × α)}
    (hLeft : Increasing left) (hRight : Increasing right)
    (hMember : ∀ entry, entry ∈ left ↔ entry ∈ right) : left = right := by
  induction left generalizing right with
  | nil =>
      cases right with
      | nil => rfl
      | cons head _ => exact absurd ((hMember head).mpr List.mem_cons_self) List.not_mem_nil
  | cons first rest ih =>
      cases right with
      | nil => exact absurd ((hMember first).mp List.mem_cons_self) List.not_mem_nil
      | cons head tail =>
          obtain ⟨hFirst, hRest⟩ := List.pairwise_cons.mp hLeft
          obtain ⟨hHead, hTail⟩ := List.pairwise_cons.mp hRight
          have hSame : first = head := by
            rcases List.mem_cons.mp ((hMember first).mp List.mem_cons_self) with hEqual | hLater
            · exact hEqual
            rcases List.mem_cons.mp ((hMember head).mpr List.mem_cons_self) with hEqual | hAfter
            · exact hEqual.symm
            exact absurd (KeyOrder.trans (hHead _ hLater) (hFirst _ hAfter)) (KeyOrder.irrefl _)
          subst hSame
          refine congrArg (first :: ·) (ih hRest hTail fun entry => ?_)
          constructor
          · intro hEntry
            rcases List.mem_cons.mp ((hMember entry).mp (List.mem_cons_of_mem _ hEntry)) with
              hEqual | hLater
            · exact absurd (hFirst _ (hEqual ▸ hEntry)) (KeyOrder.irrefl _)
            · exact hLater
          · intro hEntry
            rcases List.mem_cons.mp ((hMember entry).mpr (List.mem_cons_of_mem _ hEntry)) with
              hEqual | hLater
            · exact absurd (hHead _ (hEqual ▸ hEntry)) (KeyOrder.irrefl _)
            · exact hLater

variable [DecidableLT κ] [DecidableEq κ] [KeyOrder κ]

/-- A value is found under a key exactly if it is stored there. -/
theorem get?_eq_some_iff {map : SortedMap κ α} {key : κ} {value : α} :
    map.get? key = some value ↔ (key, value) ∈ map.toList :=
  lookupEntry_eq_some_iff map.sorted

theorem mem_keys_iff {map : SortedMap κ α} {key : κ} :
    key ∈ map.keys ↔ ∃ value, map.get? key = some value := by
  constructor
  · intro hMember
    obtain ⟨entry, hEntry, rfl⟩ := List.mem_map.mp hMember
    exact ⟨entry.2, get?_eq_some_iff.mpr hEntry⟩
  · rintro ⟨value, hFound⟩
    exact List.mem_map.mpr ⟨(key, value), get?_eq_some_iff.mp hFound, rfl⟩

theorem get?_eq_none_iff {map : SortedMap κ α} {key : κ} :
    map.get? key = none ↔ key ∉ map.keys := by
  rw [mem_keys_iff]
  cases map.get? key <;> simp

@[simp] theorem contains_iff {map : SortedMap κ α} {key : κ} :
    map.contains key = true ↔ key ∈ map.keys := by
  rw [mem_keys_iff, contains, Option.isSome_iff_exists]

@[simp] theorem get?_empty (key : κ) : (empty : SortedMap κ α).get? key = none :=
  get?_eq_none_iff.mpr List.not_mem_nil

/-- Two maps that answer every look-up alike are the same map. -/
theorem ext_get? {left right : SortedMap κ α}
    (hSame : ∀ key, left.get? key = right.get? key) : left = right := by
  refine ext_toList (eq_of_increasing_of_mem_iff left.sorted right.sorted fun entry => ?_)
  have hLeft : left.get? entry.1 = some entry.2 ↔ entry ∈ left.toList := get?_eq_some_iff
  have hRight : right.get? entry.1 = some entry.2 ↔ entry ∈ right.toList := get?_eq_some_iff
  exact hLeft.symm.trans (hSame entry.1 ▸ hRight)

/-- Storing changes the answer for one key. -/
theorem get?_insert (map : SortedMap κ α) (key : κ) (value : α) (other : κ) :
    (map.insert key value).get? other = if key = other then some value else map.get? other := by
  refine Option.ext fun found => ?_
  have hMember : (other, found) ∈ (map.insert key value).toList ↔
      (other, found) = (key, value) ∨ other ≠ key ∧ (other, found) ∈ map.toList :=
    mem_insertEntry key value map.sorted (other, found)
  rw [get?_eq_some_iff, hMember]
  by_cases hEqual : key = other
  · subst hEqual
    simp [eq_comm]
  · have hDifferent : other ≠ key := fun hSame => hEqual hSame.symm
    simp [hEqual, hDifferent, get?_eq_some_iff]

@[simp] theorem get?_insert_self (map : SortedMap κ α) (key : κ) (value : α) :
    (map.insert key value).get? key = some value := by
  rw [get?_insert, if_pos rfl]

theorem get?_insert_of_ne (map : SortedMap κ α) {key other : κ} (value : α)
    (hDifferent : key ≠ other) : (map.insert key value).get? other = map.get? other := by
  rw [get?_insert, if_neg hDifferent]

/-- A filter keeps the answers that satisfy its test. -/
theorem get?_filter (keep : κ → α → Bool) (map : SortedMap κ α) (key : κ) :
    (map.filter keep).get? key = (map.get? key).filter (keep key) := by
  refine Option.ext fun value => ?_
  rw [get?_eq_some_iff, Option.filter_eq_some_iff, get?_eq_some_iff]
  exact List.mem_filter

/-- Forgetting a key changes the answer for that key alone. -/
theorem get?_erase (map : SortedMap κ α) (key other : κ) :
    (map.erase key).get? other = if key = other then none else map.get? other := by
  unfold erase
  rw [get?_filter]
  by_cases hEqual : key = other
  · subst hEqual
    cases map.get? key <;> simp
  · have hDifferent : other ≠ key := fun hSame => hEqual hSame.symm
    cases map.get? other <;> simp [hEqual, hDifferent]

/-- Replacing values replaces the answers. -/
theorem get?_mapValues (f : κ → α → β) (map : SortedMap κ α) (key : κ) :
    (map.mapValues f).get? key = (map.get? key).map (f key) := by
  refine Option.ext fun value => ?_
  rw [get?_eq_some_iff, Option.map_eq_some_iff, toList_mapValues]
  constructor
  · intro hMember
    obtain ⟨entry, hEntry, hImage⟩ := List.mem_map.mp hMember
    cases hImage
    exact ⟨entry.2, get?_eq_some_iff.mpr hEntry, rfl⟩
  · rintro ⟨old, hOld, rfl⟩
    exact List.mem_map.mpr ⟨(key, old), get?_eq_some_iff.mp hOld, rfl⟩

/-- Storing adds at most one key. -/
theorem mem_keys_insert {map : SortedMap κ α} {key other : κ} {value : α} :
    other ∈ (map.insert key value).keys ↔ other = key ∨ other ∈ map.keys := by
  rw [mem_keys_iff, mem_keys_iff, get?_insert]
  by_cases hEqual : key = other
  · simp [hEqual]
  · have hDifferent : other ≠ key := fun hSame => hEqual hSame.symm
    simp [hEqual, hDifferent]

end SortedMap

namespace SortedSet

variable {κ : Type u} [LT κ] [DecidableLT κ] [DecidableEq κ] [KeyOrder κ]

/-- Adding makes one more key a member. -/
theorem mem_members_add {set : SortedSet κ} {key other : κ} :
    other ∈ (set.add key).members ↔ other = key ∨ other ∈ set.members :=
  SortedMap.mem_keys_insert

end SortedSet

end TokenNet
