import Mathlib.Data.Set.Function
import TokenNet.Proofs.Folds
import TokenNet.Proofs.JsonTexts
import TokenNet.Proofs.Maps

namespace TokenNet

/-!
# Forms that lose nothing

A form loses nothing if every text in one line is read back as the value that it was written for
(`JsonForm.Lossless`).  It does if it writes canonical values and reads each of them back
(`JsonForm.Lossless.of_canonical`).  Words and names have such forms, lists, sets and maps do if
their parts do (`JsonForm.Lawful`), and for a record or a variant its fields have to be read back in
their order (`Json.bind_record?`, `Json.bind_variant?`).
-/

/-- If what is made of each item is read back as the item, then so is the whole list. -/
theorem mapM_map_eq_some {α β : Type} {write : α → β} {read? : β → Option α} {items : List α}
    (hItems : ∀ item ∈ items, read? (write item) = some item) :
    (items.map write).mapM read? = some items :=
  mapM_eq_some_of_forall₂ (List.forall₂_map_left_iff.mpr (List.forall₂_same.mpr hItems))

namespace Json

/-! ### Records and variants -/

theorem canonical_record {names : List String} {values : List Json}
    (hValues : ∀ value ∈ values, Canonical value) : Canonical (record names values) := by
  apply Canonical.object
  · intro member hMember
    obtain ⟨name, -, hName⟩ := List.mem_map.mp (List.of_mem_zip hMember).1
    exact ⟨name.toList, hName.symm⟩
  · exact fun member hMember => hValues member.2 (List.of_mem_zip hMember).2

theorem canonical_variant {name : String} {content : Json} (hContent : Canonical content) :
    Canonical (variant name content) := by
  apply Canonical.object <;> simp [hContent]

theorem variant?_variant (name : String) (content : Json) :
    (variant name content).variant? = some (name, content) := by
  simp [variant, variant?, keyText?_escape]

theorem namedMembers?_record (names : List String) (values : List Json) :
    namedMembers? ((names.map fun name => escape name.toList).zip values) =
      some (names.zip values) := by
  rw [List.zip_map_left]
  refine mapM_map_eq_some fun member _ => ?_
  simp [keyText?_escape]

/-- Under a name that does not occur twice there is the value that stands with it. -/
theorem field?_zip {names : List String} {values : List Json} (hNodup : names.Nodup) {name : String}
    {value : Json} (hMember : (name, value) ∈ names.zip values) :
    field? (names.zip values) name = some (some value) := by
  induction names generalizing values with
  | nil => cases hMember
  | cons first others ih =>
      obtain ⟨hFresh, hOthers⟩ := List.nodup_cons.mp hNodup
      cases values with
      | nil => cases hMember
      | cons firstValue rest =>
          have hLater : ∀ {later : String × Json}, later ∈ others.zip rest → later.1 ∈ others :=
            fun hZip => (List.of_mem_zip hZip).1
          rw [List.zip_cons_cons] at hMember ⊢
          rcases List.mem_cons.mp hMember with hHere | hThere
          · cases hHere
            have hNone : (others.zip rest).filter (fun member => member.1 = name) = [] :=
              List.filter_eq_nil_iff.mpr fun later hZip hSame =>
                hFresh (of_decide_eq_true hSame ▸ hLater hZip)
            simp [field?, hNone]
          · have hDifferent : first ≠ name := fun hSame => hFresh (hSame ▸ hLater hThere)
            rw [← ih hOthers hThere]
            simp [field?, hDifferent]

/-- The fields of a record are found under their names. -/
theorem record?_record {names : List String} {values : List Json} (hNodup : names.Nodup)
    (hLength : names.length = values.length) :
    (record names values).record? names = some (values.map some) := by
  have hFields : names.mapM (field? (names.zip values)) = some (values.map some) := by
    apply mapM_eq_some_of_forall₂
    rw [List.forall₂_map_right_iff, List.forall₂_iff_zip]
    exact ⟨hLength, field?_zip hNodup⟩
  simp [record, record?, namedMembers?_record, hFields]

/-- A record is read back if its fields are read back in their order. -/
theorem bind_record? {α : Type} {names : List String} {values : List Json}
    {read : List (Option Json) → Option α} {value : α} (hNodup : names.Nodup)
    (hLength : names.length = values.length) (hRead : read (values.map some) = some value) :
    ((record names values).record? names >>= read) = some value := by
  rw [record?_record hNodup hLength]
  exact hRead

/-- A variant is read back if its content is, under its name. -/
theorem bind_variant? {α : Type} {name : String} {content : Json} {read : String × Json → Option α}
    {value : α} (hRead : read (name, content) = some value) :
    ((variant name content).variant? >>= read) = some value := by
  rw [variant?_variant]
  exact hRead

end Json

namespace JsonForm

open Json

variable {α : Type} [JsonForm α]

/-- Reads a value from a text. -/
def read? (text : String) : Option α := (parse? text).bind ofJson?

/-- For the given values the form loses nothing. -/
structure Lossless (values : Set α) : Prop where
  /-- A value is read back from its text in one line. -/
  read?_compact : ∀ value ∈ values, read? (compact value) = some value
  /-- Different values have different texts. -/
  injOn : Set.InjOn compact values

/-- It is enough that values are written canonically and are read back from what is written. -/
theorem Lossless.of_canonical {values : Set α}
    (hCanonical : ∀ value ∈ values, Canonical (toJson value))
    (hRead : ∀ value ∈ values, ofJson? (toJson value) = some value) : Lossless values := by
  have hBack : ∀ value ∈ values, read? (compact value) = some value := by
    intro value hValue
    have hParsed := parse?_compact (hCanonical value hValue)
    rw [read?, compact, hParsed]
    exact hRead value hValue
  constructor
  · exact hBack
  · intro value hValue other hOther hSame
    apply Option.some.inj
    rw [← hBack value hValue, hSame, hBack other hOther]

/-- A form of which no value makes an exception. -/
class Lawful (α : Type) [JsonForm α] : Prop where
  /-- What is written has decimal numbers and spelled texts. -/
  canonical (value : α) : Canonical (toJson value)
  /-- A value is read back from what is written for it. -/
  ofJson?_toJson (value : α) : ofJson? (toJson value) = some value

theorem Lawful.lossless [Lawful α] : Lossless (Set.univ : Set α) :=
  .of_canonical (fun value _ => canonical value) fun value _ => ofJson?_toJson value

theorem required_toJson [Lawful α] (value : α) : required (some (toJson value)) = some value :=
  Lawful.ofJson?_toJson value

theorem optional_toJson [Lawful α] (usual value : α) :
    optional usual (some (toJson value)) = some value :=
  Lawful.ofJson?_toJson value

/-! ### Leaves -/

instance : Lawful UInt64 where
  canonical value := .number value.toNat
  ofJson?_toJson value := by
    show Text.wordOfDigits? (Text.decimalDigits value.toNat) = some value
    rw [Text.wordOfDigits?_decimalDigits, Text.wordOfNat?_toNat]

instance : Lawful String where
  canonical value := .string value.toList
  ofJson?_toJson := text?_ofText

/-- A count is read back if it fits into a word. -/
theorem ofJson?_count {n : Nat} (hFits : n < UInt64.size) : ofJson? (toJson n) = some n := by
  show (Text.wordOfDigits? (Text.decimalDigits n)).map UInt64.toNat = some n
  simp [Text.wordOfDigits?_decimalDigits, Text.wordOfNat?, hFits]

/-! ### Lists and sets -/

instance [Lawful α] : Lawful (List α) where
  canonical values := .array fun item hItem => by
    obtain ⟨value, -, rfl⟩ := List.mem_map.mp hItem
    exact Lawful.canonical value
  ofJson?_toJson values := mapM_map_eq_some fun value _ => Lawful.ofJson?_toJson value

instance [Lawful α] : Lawful (Array α) where
  canonical values := Lawful.canonical values.toList
  ofJson?_toJson values := by
    show (ofJson? (toJson values.toList)).map List.toArray = some values
    rw [Lawful.ofJson?_toJson]
    rfl

instance : Lawful (SortedSet String) where
  canonical set := Lawful.canonical set.members
  ofJson?_toJson set := by
    show (ofJson? (toJson set.members)).map SortedSet.ofList = some set
    rw [Lawful.ofJson?_toJson, Option.map_some, SortedSet.ofList_members]

/-! ### Maps -/

/-- Entries whose keys and values are read back are read back as they are. -/
theorem entries?_map {κ : Type} {key? : List Char → Option κ} {spell : κ → List Char}
    {entries : List (κ × α)} (hKeys : ∀ key, key? (spell key) = some key)
    (hValues : ∀ entry ∈ entries, ofJson? (toJson entry.2) = some entry.2) :
    entries? key? (.object (entries.map fun entry => (spell entry.1, toJson entry.2))) =
      some entries := by
  refine mapM_map_eq_some fun entry hEntry => ?_
  simp [hKeys, hValues entry hEntry]

theorem canonical_entries {κ : Type} {spell : κ → List Char} {entries : List (κ × α)}
    (hKeys : ∀ key, ∃ text, spell key = escape text)
    (hValues : ∀ entry ∈ entries, Canonical (toJson entry.2)) :
    Canonical (.object (entries.map fun entry => (spell entry.1, toJson entry.2))) := by
  apply Canonical.object
  · intro member hMember
    obtain ⟨entry, -, rfl⟩ := List.mem_map.mp hMember
    exact hKeys entry.1
  · intro member hMember
    obtain ⟨entry, hEntry, rfl⟩ := List.mem_map.mp hMember
    exact hValues entry hEntry

/-- A map from names is read back if its values are. -/
theorem ofJson?_nameMap {map : SortedMap String α}
    (hValues : ∀ entry ∈ map.toList, ofJson? (toJson entry.2) = some entry.2) :
    ofJson? (toJson map) = some map := by
  have hEntries := entries?_map keyText?_escape hValues
  have hMap : ofJson? (toJson map) = (some map.toList).map SortedMap.ofList :=
    congrArg (Option.map SortedMap.ofList) hEntries
  rw [hMap, Option.map_some, SortedMap.ofList_toList]

theorem canonical_nameMap {map : SortedMap String α}
    (hValues : ∀ entry ∈ map.toList, Canonical (toJson entry.2)) : Canonical (toJson map) :=
  canonical_entries (fun name => ⟨name.toList, rfl⟩) hValues

instance [Lawful α] : Lawful (SortedMap String α) where
  canonical _ := canonical_nameMap fun entry _ => Lawful.canonical entry.2
  ofJson?_toJson _ := ofJson?_nameMap fun entry _ => Lawful.ofJson?_toJson entry.2

theorem wordKey?_decimalDigits (word : UInt64) :
    wordKey? (Text.decimalDigits word.toNat) = some word := by
  simp [wordKey?, Text.wordOfDigits?_decimalDigits, Text.wordOfNat?_toNat]

instance [Lawful α] : Lawful (SortedMap UInt64 α) where
  canonical _ := canonical_entries
    -- A decimal number is a text in which nothing has to be escaped.
    (fun word : UInt64 => ⟨Text.decimalDigits word.toNat,
      (escape_of_isDigit fun _ => Text.isDigit_decimalDigits).symm⟩)
    fun entry _ => Lawful.canonical entry.2
  ofJson?_toJson map := by
    have hEntries := entries?_map wordKey?_decimalDigits fun (entry : UInt64 × α)
      (_ : entry ∈ map.toList) => Lawful.ofJson?_toJson entry.2
    have hMap : ofJson? (toJson map) = (some map.toList).map SortedMap.ofList :=
      congrArg (Option.map SortedMap.ofList) hEntries
    rw [hMap, Option.map_some, SortedMap.ofList_toList]

end JsonForm

end TokenNet
