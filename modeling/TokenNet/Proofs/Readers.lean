import TokenNet.Proofs.Folds
import TokenNet.Scenario.Field

namespace TokenNet

/-!
# Reading numbers and lines

A field spells a word of 64 bits by ASCII digits, with at most one plus sign in front
(`Text.Spells`).  These are the fields that are read as numbers (`Text.readWord?_eq_some_iff`), and
every other field is refused (`Scenario.number_eq_error_iff`).

A reader of lines takes from each line what the line says, or refuses it with the number of the line
(`Scenario.Reads`).  So it reads a list of lines if each of them says something, and otherwise blames
the first that does not (`Scenario.Reads.mapM_eq_error`).
-/

namespace Text

/-- The field spells the word: one or more ASCII digits, with at most one plus sign in front. -/
def Spells (field : List Char) (word : UInt64) : Prop :=
  ∃ digits, (field = digits ∨ field = '+' :: digits) ∧ digits ≠ [] ∧
    (∀ c ∈ digits, '0' ≤ c ∧ c ≤ '9') ∧ ofDigits digits = word.toNat

theorem wordOfNat?_eq_some_iff {n : Nat} {word : UInt64} :
    wordOfNat? n = some word ↔ n = word.toNat := by
  have hBound : word.toNat < UInt64.size := word.toNat_lt_size
  unfold wordOfNat?
  constructor
  · intro hFits
    split at hFits
    · rename_i hSmall
      cases hFits
      exact (UInt64.toNat_ofNat_of_lt hSmall).symm
    · cases hFits
  · rintro rfl
    rw [if_pos hBound, UInt64.ofNat_toNat]

theorem wordOfDigits?_eq_some_iff {digits : List Char} {word : UInt64} :
    wordOfDigits? digits = some word ↔
      digits ≠ [] ∧ (∀ c ∈ digits, '0' ≤ c ∧ c ≤ '9') ∧ ofDigits digits = word.toNat := by
  have hAll : digits.all isDigit = true ↔ ∀ c ∈ digits, '0' ≤ c ∧ c ≤ '9' := by simp [isDigit]
  unfold wordOfDigits?
  rw [← wordOfNat?_eq_some_iff, ← hAll]
  by_cases hEmpty : digits = []
  · simp [hEmpty]
  · cases hDigits : digits.all isDigit <;> simp [hEmpty]

/-- A field is read as the word that it spells. -/
theorem readWord?_eq_some_iff {field : List Char} {word : UInt64} :
    readWord? field = some word ↔ Spells field word := by
  unfold readWord? Spells
  split
  · -- A plus sign is no digit, so the digits are those behind it.
    rename_i digits
    rw [wordOfDigits?_eq_some_iff]
    constructor
    · exact fun hDigits => ⟨digits, Or.inr rfl, hDigits⟩
    · rintro ⟨others, rfl | hSame, hDigits⟩
      · exact absurd (hDigits.2.1 '+' List.mem_cons_self) (by decide)
      · cases hSame
        exact hDigits
  · rename_i hUnsigned
    rw [wordOfDigits?_eq_some_iff]
    constructor
    · exact fun hDigits => ⟨field, Or.inl rfl, hDigits⟩
    · rintro ⟨digits, rfl | rfl, hDigits⟩
      · exact hDigits
      · exact absurd rfl (hUnsigned digits)

end Text

namespace Scenario

variable {line : Nat} {quantity : Quantity} {field : List Char}

theorem number_eq_ok_iff {word : UInt64} :
    number line quantity field = .ok word ↔ Text.Spells field word := by
  rw [← Text.readWord?_eq_some_iff]
  unfold number
  cases Text.readWord? field <;> simp

theorem number_eq_error_iff {error : ParseError} :
    number line quantity field = .error error ↔
      (∀ word, ¬ Text.Spells field word) ∧
        error = ⟨line, .notNumber quantity (String.ofList field)⟩ := by
  simp only [← Text.readWord?_eq_some_iff]
  unfold number
  cases Text.readWord? field <;> simp [eq_comm]

/-- A field that spells no word is refused for a cause that does not depend on the line. -/
theorem spells_or_refused (quantity : Quantity) (field : List Char) :
    (∃ word, Text.Spells field word) ∨
      ∃ cause, ∀ line, number line quantity field = .error ⟨line, cause⟩ := by
  by_cases hSpells : ∃ word, Text.Spells field word
  · exact Or.inl hSpells
  · exact Or.inr ⟨.notNumber quantity (String.ofList field), fun line =>
      number_eq_error_iff.mpr ⟨not_exists.mp hSpells, rfl⟩⟩

/-- What follows a number in a field goes on with the word that the field spells. -/
theorem number_bind_eq_ok_iff {α : Type} {next : UInt64 → Except ParseError α} {value : α} :
    (number line quantity field >>= next) = .ok value ↔
      ∃ word, Text.Spells field word ∧ next word = .ok value := by
  simp only [bind_eq_ok_iff, number_eq_ok_iff]

theorem number_bind_eq_error_iff {α : Type} {next : UInt64 → Except ParseError α}
    {error : ParseError} :
    (number line quantity field >>= next) = .error error ↔
      ((∀ word, ¬ Text.Spells field word) ∧
        error = ⟨line, .notNumber quantity (String.ofList field)⟩) ∨
      ∃ word, Text.Spells field word ∧ next word = .error error := by
  simp only [bind_eq_error_iff, number_eq_ok_iff, number_eq_error_iff]

/-! ### Readers of lines -/

/-- What is read from a line is what the line says; a line that says nothing of the kind is
blamed. -/
structure Reads {α : Type} (read : Text.ContentLine → Except ParseError α)
    (means : Text.ContentLine → α → Prop) : Prop where
  /-- A line is read as what it says. -/
  ok_iff : ∀ {line value}, read line = .ok value ↔ means line value
  /-- A line that cannot be read is blamed. -/
  blames : ∀ {line error}, read line = .error error → error.line = line.number

namespace Reads

variable {α : Type} {read : Text.ContentLine → Except ParseError α}
  {means : Text.ContentLine → α → Prop} {lines : List Text.ContentLine}

theorem not_means (hReads : Reads read means) {line : Text.ContentLine} {error : ParseError}
    (hRefused : read line = .error error) : ¬ ∃ value, means line value := by
  rintro ⟨value, hMeans⟩
  cases hRefused.symm.trans (hReads.ok_iff.mpr hMeans)

theorem mapM_eq_ok_iff (hReads : Reads read means) {values : List α} :
    lines.mapM read = .ok values ↔ List.Forall₂ means lines values := by
  rw [TokenNet.mapM_eq_ok_iff]
  simp only [hReads.ok_iff]

theorem means_of_mapM (hReads : Reads read means) {values : List α}
    (hRead : lines.mapM read = .ok values) : ∀ line ∈ lines, ∃ value, means line value := by
  rw [hReads.mapM_eq_ok_iff] at hRead
  induction hRead with
  | nil => simp
  | cons hMeans hRest ih => exact List.forall_mem_cons.mpr ⟨⟨_, hMeans⟩, ih⟩

/-- The first line that says nothing is blamed. -/
theorem mapM_eq_error (hReads : Reads read means) {error : ParseError}
    (hRefused : lines.mapM read = .error error) :
    ∃ earlier line later, lines = earlier ++ line :: later ∧
      (∀ other ∈ earlier, ∃ value, means other value) ∧ (¬ ∃ value, means line value) ∧
        error.line = line.number := by
  obtain ⟨earlier, line, later, hLines, hEarlier, hLine⟩ := mapM_eq_error_iff.mp hRefused
  refine ⟨earlier, line, later, hLines, fun other hOther => ?_, hReads.not_means hLine,
    hReads.blames hLine⟩
  obtain ⟨value, hValue⟩ := hEarlier other hOther
  exact ⟨value, hReads.ok_iff.mp hValue⟩

end Reads

end Scenario
end TokenNet
