import TokenNet.Json.Form
import TokenNet.Json.Parser
import TokenNet.Proofs.Rows

namespace TokenNet
namespace Json

/-!
# Spellings of texts and numbers

A spelling of a text stands for that text alone (`unescape?_escape`), whatever characters it is made
of, and a reader that meets it between quotes finds the closing quote behind it (`cutString?_escape`).
A decimal number is cut off whole unless what follows could be more of it
(`cutNumber?_decimalDigits`).
-/

/-! ### Texts -/

/-- The three forms that the spelling of a character can have. -/
inductive Spells (c : Char) : List Char → Prop where
  /-- A backslash and one sign. -/
  | sign {sign : Char} (hSign : escapedChar? sign = some c) (hOther : sign ≠ 'u') :
      Spells c ['\\', sign]
  /-- The number of a control, of which only the last two digits can be other than zero. -/
  | unit (hControl : c.toNat < 0x20) :
      Spells c ['\\', 'u', '0', '0', Nat.digitChar (c.toNat / 16), Nat.digitChar (c.toNat % 16)]
  /-- The character itself. -/
  | plain (hPrintable : 0x20 ≤ c.toNat) (hQuote : c ≠ '"') (hBackslash : c ≠ '\\') : Spells c [c]

theorem spells_escapeChar (c : Char) : Spells c (escapeChar c) := by
  unfold escapeChar
  split
  · subst c
    exact .sign rfl (by decide)
  split
  · subst c
    exact .sign rfl (by decide)
  split
  · obtain rfl : c = '\x08' := Char.toNat_inj.mp ‹_›
    exact .sign rfl (by decide)
  split
  · obtain rfl : c = '\x0c' := Char.toNat_inj.mp ‹_›
    exact .sign rfl (by decide)
  split
  · subst c
    exact .sign rfl (by decide)
  split
  · subst c
    exact .sign rfl (by decide)
  split
  · subst c
    exact .sign rfl (by decide)
  split
  · exact .unit ‹_›
  · exact .plain (Nat.not_lt.mp ‹_›) ‹_› ‹_›

theorem hexWord?_digitChar : ∀ {n : Nat}, n < 0x20 →
    hexWord? '0' '0' (Nat.digitChar (n / 16)) (Nat.digitChar (n % 16)) = some n := by
  decide

/-- No control is half of a pair. -/
theorem not_isSurrogate_of_lt {unit : Nat} (hControl : unit < 0x20) :
    isLowSurrogate unit = false ∧ isHighSurrogate unit = false := by
  constructor
  · simp [isLowSurrogate]
    omega
  · simp [isHighSurrogate]
    omega

theorem unescape?_escapeChar (c : Char) (rest : List Char) :
    unescape? (escapeChar c ++ rest) = (unescape? rest).map (c :: ·) := by
  generalize hSpelling : escapeChar c = spelling
  have hSpells : Spells c spelling := hSpelling ▸ spells_escapeChar c
  cases hSpells with
  | sign hSign hOther => simp [unescape?, hSign, hOther]
  | unit hControl =>
      obtain ⟨hLow, hHigh⟩ := not_isSurrogate_of_lt hControl
      simp [unescape?, hexWord?_digitChar hControl, hLow, hHigh]
  | plain hPrintable hQuote hBackslash => simp [unescape?, hBackslash]

theorem cutString?_escapeChar (c : Char) (rest : List Char) :
    cutString? (escapeChar c ++ rest) =
      (cutString? rest).map fun cut => (escapeChar c ++ cut.1, cut.2) := by
  generalize hSpelling : escapeChar c = spelling
  have hSpells : Spells c spelling := hSpelling ▸ spells_escapeChar c
  -- What follows the spelling is cut in the same way on both sides.
  cases hSpells with
  | sign hSign hOther => cases hRest : cutString? rest <;> simp [cutString?, hSign, hOther, hRest]
  | unit hControl =>
      cases hRest : cutString? rest <;> simp [cutString?, hexWord?_digitChar hControl, hRest]
  | plain hPrintable hQuote hBackslash =>
      cases hRest : cutString? rest <;>
        simp [cutString?, hBackslash, Nat.not_lt.mpr hPrintable, hRest]

/-- A text is read back from its spelling. -/
theorem unescape?_escape (text : List Char) : unescape? (escape text) = some text := by
  induction text with
  | nil => rfl
  | cons c rest ih =>
      show unescape? (escapeChar c ++ escape rest) = _
      rw [unescape?_escapeChar, ih]
      rfl

/-- The first quote behind the spelling of a text is the closing one. -/
theorem cutString?_escape (text rest : List Char) :
    cutString? (escape text ++ '"' :: rest) = some (escape text, rest) := by
  induction text with
  | nil => rfl
  | cons c others ih =>
      show cutString? ((escapeChar c ++ escape others) ++ '"' :: rest) =
        some (escapeChar c ++ escape others, rest)
      rw [List.append_assoc, cutString?_escapeChar, ih]
      rfl

theorem keyText?_escape (name : String) : keyText? (escape name.toList) = some name := by
  rw [keyText?, unescape?_escape, Option.map_some, String.ofList_toList]

theorem text?_ofText (text : String) : (ofText text).text? = some text := keyText?_escape text

/-! ### Numbers -/

open Text

theorem ne_of_isDigit {c : Char} (hDigit : isDigit c = true) (other : Char)
    (hOther : isDigit other = false) : c ≠ other := by
  rintro rfl
  exact Bool.noConfusion (hDigit.symm.trans hOther)

/-- A digit stands for itself. -/
theorem escapeChar_of_isDigit {c : Char} (hDigit : isDigit c = true) : escapeChar c = [c] := by
  have hNot := ne_of_isDigit hDigit
  have hLow : 0x30 ≤ c.toNat := by
    simp only [isDigit, Bool.and_eq_true, decide_eq_true_eq, Char.le_def,
      UInt32.le_iff_toNat_le] at hDigit
    exact hDigit.1
  unfold escapeChar
  rw [if_neg (hNot '"' rfl), if_neg (hNot '\\' rfl), if_neg (by omega), if_neg (by omega),
    if_neg (hNot '\n' rfl), if_neg (hNot '\r' rfl), if_neg (hNot '\t' rfl), if_neg (by omega)]

/-- Nothing in a row of digits has to be escaped. -/
theorem escape_of_isDigit {digits : List Char} (hDigits : ∀ c ∈ digits, isDigit c = true) :
    escape digits = digits := by
  induction digits with
  | nil => rfl
  | cons first rest ih =>
      obtain ⟨hFirst, hRest⟩ := List.forall_mem_cons.mp hDigits
      show escapeChar first ++ escape rest = first :: rest
      rw [escapeChar_of_isDigit hFirst, ih hRest]
      rfl

/-- What follows is not more of a number. -/
def EndsNumber (rest : List Char) : Prop :=
  ∀ c ∈ rest.head?, isDigit c = false ∧ c ≠ '.' ∧ c ≠ 'e' ∧ c ≠ 'E'

/-- A decimal number starts with a digit, which is zero for the number zero alone. -/
theorem exists_decimalDigits_eq_cons (n : Nat) :
    ∃ first others, decimalDigits n = first :: others ∧ (0 < n → first ≠ '0') := by
  induction n using Nat.strongRecOn with
  | _ n ih =>
      unfold decimalDigits
      by_cases hSmall : n < 10
      · have hDigit : ∀ digit < 10, 0 < digit → Nat.digitChar digit ≠ '0' := by decide
        exact ⟨Nat.digitChar n, [], Nat.toDigits_of_lt_base hSmall, hDigit n hSmall⟩
      · obtain ⟨first, others, hDigits, hFirst⟩ := ih (n / 10) (by omega)
        refine ⟨first, others ++ [Nat.digitChar (n % 10)], ?_, fun _ => hFirst (by omega)⟩
        rw [Nat.toDigits_of_base_le (by omega) (by omega)]
        exact congrArg (· ++ [Nat.digitChar (n % 10)]) hDigits

theorem cutDigits?_decimalDigits (n : Nat) {rest : List Char} (hEnds : EndsNumber rest) :
    cutDigits? (decimalDigits n ++ rest) = some (decimalDigits n, rest) := by
  have hDigits : ∀ c ∈ decimalDigits n, isDigit c = true := fun _ => isDigit_decimalDigits
  have hSome : decimalDigits n ≠ [] := Nat.toDigits_ne_nil
  have hTake : rest.takeWhile isDigit = [] := by
    cases rest with
    | nil => rfl
    | cons c tail => exact List.takeWhile_cons_of_neg (by simp [(hEnds c rfl).1])
  have hDrop : rest.dropWhile isDigit = rest := by
    cases rest with
    | nil => rfl
    | cons c tail => exact List.dropWhile_cons_of_neg (by simp [(hEnds c rfl).1])
  simp [cutDigits?, List.takeWhile_append_of_pos hDigits, List.dropWhile_append_of_pos hDigits,
    hTake, hDrop, hSome]

theorem cutWhole?_decimalDigits (n : Nat) {rest : List Char} (hEnds : EndsNumber rest) :
    cutWhole? (decimalDigits n ++ rest) = some (decimalDigits n, rest) := by
  by_cases hZero : n = 0
  · subst hZero
    rfl
  · obtain ⟨first, others, hDigits, hFirst⟩ := exists_decimalDigits_eq_cons n
    rw [← cutDigits?_decimalDigits n hEnds, hDigits]
    simp [cutWhole?, hFirst (Nat.pos_of_ne_zero hZero)]

/-- A decimal number is cut off whole. -/
theorem cutNumber?_decimalDigits (n : Nat) {rest : List Char} (hEnds : EndsNumber rest) :
    cutNumber? (decimalDigits n ++ rest) = some (decimalDigits n, rest) := by
  have hWhole := cutWhole?_decimalDigits n hEnds
  have hFraction : cutFraction? rest = some ([], rest) := by
    cases rest with
    | nil => rfl
    | cons c tail => simp [cutFraction?, (hEnds c rfl).2.1]
  have hExponent : cutExponent? rest = some ([], rest) := by
    cases rest with
    | nil => rfl
    | cons c tail => simp [cutExponent?, (hEnds c rfl).2.2]
  obtain ⟨first, others, hDigits, -⟩ := exists_decimalDigits_eq_cons n
  have hUnsigned : first ≠ '-' := by
    rintro rfl
    exact absurd (isDigit_decimalDigits (hDigits ▸ List.mem_cons_self)) (by decide)
  rw [hDigits] at hWhole ⊢
  rw [List.cons_append] at hWhole ⊢
  simp [cutNumber?, hUnsigned, hWhole, hFraction, hExponent]

end Json
end TokenNet
