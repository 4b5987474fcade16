import Mathlib.Algebra.BigOperators.Group.Finset.Basic
import Mathlib.Algebra.Ring.Nat
import TokenNet.ChannelTable

namespace TokenNet

/-!
# More about sorted maps

The keys after each operation, what it means for a map to have none, and the entries
of a changed map up to their order (`toList_insert_perm`), from which sums over the
values of a map follow.
-/

universe u v w

/-- Lists of pairs with the same first components are related one by one if pairs with the same
first component are. -/
theorem forall₂_of_map_fst_eq {κ : Type u} {α : Type v} {β : Type w} {r : κ → α → β → Prop}
    {left : List (κ × α)} {right : List (κ × β)} (hKeys : left.map Prod.fst = right.map Prod.fst)
    (hValues : ∀ key value other, (key, value) ∈ left → (key, other) ∈ right → r key value other) :
    List.Forall₂ (fun first second => r second.1 first.2 second.2) left right := by
  induction left generalizing right with
  | nil =>
      rw [List.map_nil, eq_comm, List.map_eq_nil_iff] at hKeys
      rw [hKeys]
      exact List.Forall₂.nil
  | cons first rest ih =>
      cases right with
      | nil => cases hKeys
      | cons second others =>
          obtain ⟨key, value⟩ := first
          obtain ⟨same, other⟩ := second
          rw [List.map_cons, List.map_cons, List.cons.injEq] at hKeys
          obtain ⟨rfl, hRest⟩ := hKeys
          refine List.Forall₂.cons (hValues key value other List.mem_cons_self List.mem_cons_self)
            (ih hRest fun asked earlier later hEarlier hLater => ?_)
          exact hValues asked earlier later (List.mem_cons_of_mem _ hEarlier)
            (List.mem_cons_of_mem _ hLater)

namespace SortedMap

variable {κ : Type u} {α : Type v} {β : Type w} [LT κ]

@[simp] theorem keys_ofKeys (map : SortedMap κ α) : (SortedSet.ofKeys map).keys = map.keys :=
  keys_mapValues _ map

theorem toList_inj {left right : SortedMap κ α} : left.toList = right.toList ↔ left = right := by
  constructor
  · exact ext_toList
  · intro hSame
    rw [hSame]

theorem values_mapValues (f : α → β) (map : SortedMap κ α) :
    (map.mapValues fun _ value => f value).values = map.values.map f := by
  unfold values
  rw [toList_mapValues, List.map_map, List.map_map]
  rfl

theorem isEmpty_iff {map : SortedMap κ α} : map.isEmpty = true ↔ map.keys = [] := by
  unfold isEmpty keys toList
  rw [List.map_eq_nil_iff, Array.toList_eq_nil_iff, Array.isEmpty_iff]

theorem size_eq_zero_iff {map : SortedMap κ α} : map.size = 0 ↔ map.keys = [] := by
  unfold size keys toList
  rw [List.map_eq_nil_iff, Array.toList_eq_nil_iff, Array.size_eq_zero_iff]

theorem nodup_keys [KeyOrder κ] (map : SortedMap κ α) : map.keys.Nodup :=
  map.pairwise_keys.imp fun hLess => KeyOrder.ne_of_lt hLess

theorem nodup_toList [KeyOrder κ] (map : SortedMap κ α) : map.toList.Nodup :=
  map.sorted.imp fun hLess hSame => KeyOrder.ne_of_lt hLess (congrArg Prod.fst hSame)

/-- A filter that looks at keys only leaves the keys that satisfy its test, in their order. -/
theorem keys_filter (map : SortedMap κ α) (keep : κ → Bool) :
    (map.filter fun key _ => keep key).keys = map.keys.filter keep := by
  unfold keys
  rw [toList_filter, List.filter_map]
  rfl

/-- To forget a key leaves the other keys, in their order. -/
theorem keys_erase [DecidableEq κ] (map : SortedMap κ α) (key : κ) :
    (map.erase key).keys = map.keys.filter fun other => other ≠ key :=
  map.keys_filter fun other => other ≠ key

variable [DecidableLT κ] [DecidableEq κ] [KeyOrder κ]

theorem mem_keys_of_get? {map : SortedMap κ α} {key : κ} {value : α}
    (hFound : map.get? key = some value) : key ∈ map.keys :=
  mem_keys_iff.mpr ⟨value, hFound⟩

/-- What is found after storing is what has been stored, or was there before under another
key. -/
theorem get?_insert_eq_some_iff {map : SortedMap κ α} {key other : κ} {value found : α} :
    (map.insert key value).get? other = some found ↔
      key = other ∧ value = found ∨ key ≠ other ∧ map.get? other = some found := by
  rw [get?_insert]
  by_cases hEqual : key = other <;> simp [hEqual]

theorem get?_erase_eq_some_iff {map : SortedMap κ α} {key other : κ} {found : α} :
    (map.erase key).get? other = some found ↔ key ≠ other ∧ map.get? other = some found := by
  rw [get?_erase]
  by_cases hEqual : key = other <;> simp [hEqual]

theorem mem_values_iff {map : SortedMap κ α} {value : α} :
    value ∈ map.values ↔ ∃ key, map.get? key = some value := by
  unfold values
  rw [List.mem_map]
  constructor
  · rintro ⟨entry, hEntry, rfl⟩
    exact ⟨entry.1, get?_eq_some_iff.mpr hEntry⟩
  · rintro ⟨key, hFound⟩
    exact ⟨(key, value), get?_eq_some_iff.mp hFound, rfl⟩

theorem mem_keys_erase {map : SortedMap κ α} {key other : κ} :
    other ∈ (map.erase key).keys ↔ other ≠ key ∧ other ∈ map.keys := by
  rw [mem_keys_iff, mem_keys_iff, get?_erase]
  by_cases hEqual : key = other
  · simp [hEqual]
  · have hDifferent : other ≠ key := fun hSame => hEqual hSame.symm
    simp [hEqual, hDifferent]

/-- Maps with the same keys have them in the same order. -/
theorem keys_eq_of_mem_iff {left : SortedMap κ α} {right : SortedMap κ β}
    (hSame : ∀ key, key ∈ left.keys ↔ key ∈ right.keys) : left.keys = right.keys := by
  -- The sets of keys are equal as maps, and a map lists its keys in one way only.
  have hSets : SortedSet.ofKeys left = SortedSet.ofKeys right := by
    refine ext_get? fun key => ?_
    have hKey := hSame key
    rw [mem_keys_iff, mem_keys_iff] at hKey
    unfold SortedSet.ofKeys
    rw [get?_mapValues, get?_mapValues]
    cases hLeft : left.get? key <;> cases hRight : right.get? key <;> simp_all
  rw [← keys_ofKeys, hSets, keys_ofKeys]

/-- Storing another value under a key leaves the keys as they are. -/
theorem keys_insert_of_mem {map : SortedMap κ α} {key : κ} {value : α}
    (hKey : key ∈ map.keys) : (map.insert key value).keys = map.keys := by
  apply keys_eq_of_mem_iff
  intro other
  rw [mem_keys_insert]
  exact or_iff_right_of_imp fun hEqual => hEqual ▸ hKey

/-- Of a map whose keys are among those of another, the entries are what is found under the keys of
the other one, in their order. -/
theorem toList_eq_filterMap {map : SortedMap κ α} {other : SortedMap κ β}
    (hKeys : map.keys ⊆ other.keys) :
    map.toList = other.keys.filterMap fun key => (map.get? key).map fun value => (key, value) := by
  -- Both lists of entries are in order.
  refine eq_of_increasing_of_mem_iff map.sorted ?_ fun entry => ?_
  · refine List.pairwise_filterMap.mpr (other.pairwise_keys.imp ?_)
    intro first second hLess entry hEntry later hLater
    obtain ⟨_, -, rfl⟩ := Option.map_eq_some_iff.mp hEntry
    obtain ⟨_, -, rfl⟩ := Option.map_eq_some_iff.mp hLater
    exact hLess
  · have hMember : entry ∈ map.toList ↔ map.get? entry.1 = some entry.2 := get?_eq_some_iff.symm
    rw [hMember, List.mem_filterMap]
    constructor
    · intro hFound
      refine ⟨entry.1, hKeys (mem_keys_of_get? hFound), ?_⟩
      rw [hFound, Option.map_some]
    · rintro ⟨key, -, hFound⟩
      obtain ⟨value, hValue, rfl⟩ := Option.map_eq_some_iff.mp hFound
      exact hValue

/-- Of a map whose keys are among those of another, the values are what is found under the keys of
the other one, in their order. -/
theorem values_eq_filterMap {map : SortedMap κ α} {other : SortedMap κ β}
    (hKeys : map.keys ⊆ other.keys) : map.values = other.keys.filterMap map.get? := by
  unfold values
  rw [toList_eq_filterMap hKeys, List.map_filterMap]
  refine List.filterMap_congr fun key _ => ?_
  rw [Option.map_map]
  exact Option.map_id'

/-- Forgetting a key without value changes nothing. -/
theorem erase_of_get?_eq_none {map : SortedMap κ α} {key : κ}
    (hMissing : map.get? key = none) : map.erase key = map := by
  refine ext_get? fun other => ?_
  rw [get?_erase]
  by_cases hEqual : key = other
  · rw [if_pos hEqual, ← hEqual, hMissing]
  · rw [if_neg hEqual]

/-! ### Entries up to their order -/

/-- A stored entry and the other entries are all entries. -/
theorem toList_perm_of_get? {map : SortedMap κ α} {key : κ} {value : α}
    (hFound : map.get? key = some value) :
    map.toList.Perm ((key, value) :: (map.erase key).toList) := by
  have hFresh : (key, value) ∉ (map.erase key).toList := by
    rw [← get?_eq_some_iff, get?_erase, if_pos rfl]
    exact Option.some_ne_none value ∘ Eq.symm
  refine (List.perm_ext_iff_of_nodup map.nodup_toList
    (List.nodup_cons.mpr ⟨hFresh, nodup_toList _⟩)).mpr fun entry => ?_
  have hMember : ∀ {entries : SortedMap κ α}, entry ∈ entries.toList ↔
      entries.get? entry.1 = some entry.2 := get?_eq_some_iff.symm
  rw [List.mem_cons, hMember, hMember, get?_erase]
  by_cases hEqual : key = entry.1
  · subst hEqual
    simp [hFound, Prod.ext_iff, eq_comm]
  · have hDifferent : entry ≠ (key, value) := fun hSame => hEqual (congrArg Prod.fst hSame).symm
    simp [hEqual, hDifferent]

/-- After storing, the entries are the new one and those of the other keys. -/
theorem toList_insert_perm (map : SortedMap κ α) (key : κ) (value : α) :
    (map.insert key value).toList.Perm ((key, value) :: (map.erase key).toList) := by
  have hErase : (map.insert key value).erase key = map.erase key := by
    refine ext_get? fun other => ?_
    rw [get?_erase, get?_erase, get?_insert]
    by_cases hEqual : key = other <;> simp [hEqual]
  rw [← hErase]
  exact toList_perm_of_get? (get?_insert_self map key value)

/-- Storing changes a sum over the values by the new value and the one replaced. -/
theorem sum_values_insert (map : SortedMap κ α) (key : κ) (value : α) (weight : α → Nat) :
    ((map.insert key value).values.map weight).sum + ((map.get? key).map weight).getD 0 =
      (map.values.map weight).sum + weight value := by
  have hInsert : ((map.insert key value).values.map weight).sum =
      weight value + ((map.erase key).values.map weight).sum :=
    (((map.toList_insert_perm key value).map Prod.snd).map weight).sum_nat
  cases hFound : map.get? key with
  | none =>
      rw [hInsert, erase_of_get?_eq_none hFound]
      simp [Nat.add_comm]
  | some old =>
      have hOld : (map.values.map weight).sum =
          weight old + ((map.erase key).values.map weight).sum :=
        (((toList_perm_of_get? hFound).map Prod.snd).map weight).sum_nat
      rw [hInsert, hOld]
      simp only [Option.map_some, Option.getD_some]
      omega

/-- If all values but one contribute nothing, a list over the values is what that one
contributes. -/
theorem flatMap_values_of_get? {map : SortedMap κ α} {key : κ} {value : α} {f : α → List β}
    (hFound : map.get? key = some value)
    (hOthers : ∀ {other found}, map.get? other = some found → other ≠ key → f found = []) :
    map.values.flatMap f = f value := by
  -- No other entry has the key, so all before and behind it contribute nothing.
  obtain ⟨before, behind, hSplit⟩ := List.append_of_mem (get?_eq_some_iff.mp hFound)
  have hNodup : (before.map Prod.fst ++ key :: behind.map Prod.fst).Nodup := by
    have hKeys := map.nodup_keys
    unfold keys at hKeys
    rw [hSplit, List.map_append, List.map_cons] at hKeys
    exact hKeys
  have hAbsent := (List.nodup_cons.mp (List.perm_middle.nodup_iff.mp hNodup)).1
  have hNothing : ∀ entry ∈ before ++ behind, f entry.2 = [] := by
    intro entry hEntry
    have hMember : entry ∈ map.toList := by
      rw [hSplit]
      exact List.perm_middle.mem_iff.mpr (List.mem_cons_of_mem _ hEntry)
    refine hOthers (get?_eq_some_iff.mpr hMember) fun hEqual => hAbsent ?_
    rw [← hEqual, ← List.map_append]
    exact List.mem_map.mpr ⟨entry, hEntry, rfl⟩
  have hBefore : (before.map Prod.snd).flatMap f = [] :=
    List.flatMap_eq_nil_iff.mpr fun found hFound => by
      obtain ⟨entry, hEntry, rfl⟩ := List.mem_map.mp hFound
      exact hNothing entry (List.mem_append_left _ hEntry)
  have hBehind : (behind.map Prod.snd).flatMap f = [] :=
    List.flatMap_eq_nil_iff.mpr fun found hFound => by
      obtain ⟨entry, hEntry, rfl⟩ := List.mem_map.mp hFound
      exact hNothing entry (List.mem_append_right _ hEntry)
  unfold values
  rw [hSplit, List.map_append, List.map_cons, List.flatMap_append, List.flatMap_cons, hBefore,
    hBehind, List.nil_append, List.append_nil]

/-- What a map holds after pairs with different keys have been stored one after
another. -/
theorem get?_foldl_insert {pairs : List (κ × α)} {start : SortedMap κ α} {key : κ} {value : α}
    (hNodup : (pairs.map Prod.fst).Nodup) :
    (pairs.foldl (fun map pair => map.insert pair.1 pair.2) start).get? key = some value ↔
      (key, value) ∈ pairs ∨ key ∉ pairs.map Prod.fst ∧ start.get? key = some value := by
  induction pairs generalizing start with
  | nil => simp
  | cons pair rest ih =>
      obtain ⟨hFresh, hRest⟩ := List.nodup_cons.mp hNodup
      have hAbsent : (pair.1, value) ∉ rest := fun hMember =>
        hFresh (List.mem_map.mpr ⟨_, hMember, rfl⟩)
      rw [List.foldl_cons, ih hRest, get?_insert, List.map_cons, List.mem_cons, List.mem_cons]
      by_cases hEqual : pair.1 = key
      · subst hEqual
        simp [hFresh, hAbsent, Prod.ext_iff, eq_comm]
      · have hDifferent : (key, value) ≠ pair := fun hSame =>
          hEqual (congrArg Prod.fst hSame).symm
        have hOther : key ≠ pair.1 := fun hSame => hEqual hSame.symm
        simp [hEqual, hDifferent, hOther]

/-- Storing the entries of a map one after another yields the map. -/
theorem ofList_toList (map : SortedMap κ α) : ofList map.toList = map := by
  refine ext_get? fun key => Option.ext fun value => ?_
  unfold ofList
  rw [get?_foldl_insert map.nodup_keys, get?_empty, get?_eq_some_iff]
  simp

/-- Maps with the same keys have entries that are related one by one if their answers are. -/
theorem forall₂_toList {r : κ → α → β → Prop} {left : SortedMap κ α} {right : SortedMap κ β}
    (hKeys : left.keys = right.keys)
    (hValues : ∀ key value other, left.get? key = some value → right.get? key = some other →
      r key value other) :
    List.Forall₂ (fun first second => r second.1 first.2 second.2) left.toList right.toList :=
  forall₂_of_map_fst_eq hKeys fun key value other hLeft hRight =>
    hValues key value other (get?_eq_some_iff.mpr hLeft) (get?_eq_some_iff.mpr hRight)

/-- The values of a map are what is found under its keys. -/
theorem forall₂_values_keys (map : SortedMap κ α) :
    List.Forall₂ (fun value key => map.get? key = some value) map.values map.keys := by
  unfold values keys
  rw [List.forall₂_map_left_iff, List.forall₂_map_right_iff, List.forall₂_same]
  exact fun entry hEntry => get?_eq_some_iff.mpr hEntry

end SortedMap

/-- Maps with the same keys have the same set of keys. -/
theorem SortedSet.ofKeys_eq_of_keys_eq {κ α β : Type} [LT κ] {left : SortedMap κ α}
    {right : SortedMap κ β} (hKeys : left.keys = right.keys) : ofKeys left = ofKeys right := by
  refine SortedMap.ext_toList ?_
  have hEntries : ∀ {γ : Type} (map : SortedMap κ γ),
      (ofKeys map).toList = map.keys.map fun key => (key, ()) := by
    intro γ map
    unfold ofKeys SortedMap.keys
    rw [SortedMap.toList_mapValues, List.map_map]
    rfl
  rw [hEntries, hEntries, hKeys]

/-- A set is the set of its members. -/
theorem SortedSet.ofKeys_self {κ : Type} [LT κ] (set : SortedSet κ) : ofKeys set = set := by
  refine SortedMap.ext_toList ?_
  unfold ofKeys
  rw [SortedMap.toList_mapValues]
  exact List.map_id _

theorem SortedSet.ofList_members {κ : Type} [LT κ] [DecidableLT κ] [DecidableEq κ] [KeyOrder κ]
    (set : SortedSet κ) : ofList set.members = set := by
  have hEntries := SortedMap.ofList_toList set
  unfold SortedSet.ofList SortedSet.members SortedMap.keys
  rw [List.foldl_map]
  exact hEntries

/-! ### Names that are added to a set -/

theorem SortedSet.mem_keys_foldl_add {names : List String} {set : SortedSet String}
    {name : String} :
    name ∈ SortedMap.keys (names.foldl SortedSet.add set) ↔
      name ∈ names ∨ name ∈ SortedMap.keys set := by
  induction names generalizing set with
  | nil => simp
  | cons first rest ih =>
      have hAdd : name ∈ SortedMap.keys (set.add first) ↔ name = first ∨ name ∈ SortedMap.keys set :=
        SortedSet.mem_members_add
      rw [List.foldl_cons, ih, hAdd, List.mem_cons]
      constructor
      · rintro (hRest | rfl | hOld)
        · exact Or.inl (Or.inr hRest)
        · exact Or.inl (Or.inl rfl)
        · exact Or.inr hOld
      · rintro ((rfl | hRest) | hOld)
        · exact Or.inr (Or.inl rfl)
        · exact Or.inl hRest
        · exact Or.inr (Or.inr hOld)

/-- Names that are new and different make a set larger by their number. -/
theorem SortedSet.length_foldl_add {names : List String} {set : SortedSet String}
    (hNodup : names.Nodup) (hNew : ∀ name ∈ names, name ∉ SortedMap.keys set) :
    (SortedMap.keys (names.foldl SortedSet.add set)).length =
      (SortedMap.keys set).length + names.length := by
  induction names generalizing set with
  | nil => rfl
  | cons first rest ih =>
      obtain ⟨hFresh, hRest⟩ := List.nodup_cons.mp hNodup
      have hFirst := SortedMap.get?_eq_none_iff.mpr (hNew first List.mem_cons_self)
      have hAdded : (SortedMap.keys (set.add first)).length = (SortedMap.keys set).length + 1 := by
        have hPerm := (set.toList_insert_perm first ()).length_eq
        rw [SortedMap.erase_of_get?_eq_none hFirst] at hPerm
        unfold SortedSet.add SortedMap.keys
        rw [List.length_map, List.length_map, hPerm, List.length_cons]
      have hLater : ∀ name ∈ rest, name ∉ SortedMap.keys (set.add first) := by
        intro name hName hMember
        rcases SortedSet.mem_members_add.mp hMember with rfl | hOld
        · exact hFresh hName
        · exact hNew name (List.mem_cons_of_mem _ hName) hOld
      rw [List.foldl_cons, ih hRest hLater, hAdded, List.length_cons]
      omega

theorem SortedSet.mem_members_ofList {names : List String} {name : String} :
    name ∈ (SortedSet.ofList names).members ↔ name ∈ names :=
  SortedSet.mem_keys_foldl_add.trans (or_iff_left List.not_mem_nil)

end TokenNet
