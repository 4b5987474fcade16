import Mathlib.Data.List.TakeWhile
import TokenNet.Text.Decimal
import TokenNet.Text.Lines

namespace TokenNet
namespace Text

/-!
# Rows of fields

What a text says is the rows of fields on its lines: white space at either end of a line and a
carriage return behind it make no difference, and a line carries content exactly if its row does
(`map_fields_contentLinesFrom`).  Rows of proper fields, written one to a line, are read back as they
are, except for those that look like a comment (`map_fields_contentLines`).  So are decimal numbers
(`readWord?_decimalDigits`).
-/

/-- Whether a row of fields is neither empty nor a comment. -/
def isContent : List (List Char) → Bool
  | (c :: _) :: _ => c ≠ '#'
  | _ => false

/-- Whether a text can stand as a field: it has at least one character and no white space. -/
def IsField (field : List Char) : Prop :=
  field ≠ [] ∧ ∀ c ∈ field, isBlank c = false

/-- The line of a row: its fields with a space between each two. -/
def rowText : List (List Char) → List Char
  | [] => []
  | [field] => field
  | field :: rest => field ++ ' ' :: rowText rest

/-- The text of several rows, each on a line of its own. -/
def rowsText (rows : List (List (List Char))) : List Char :=
  rows.flatMap fun row => rowText row ++ ['\n']

/-! ### White space -/

theorem fieldsFrom_append_blank {c : Char} (hBlank : isBlank c = true)
    (read line rest : List Char) :
    fieldsFrom read (line ++ c :: rest) = fieldsFrom read line ++ fieldsFrom [] rest := by
  induction line generalizing read with
  | nil => cases read <;> simp [fieldsFrom, hBlank]
  | cons d line ih =>
      by_cases hOther : isBlank d = true
      · cases read <;> simp [fieldsFrom, hOther, ih]
      · simp [fieldsFrom, hOther, ih]

/-- White space parts the fields before it from those behind it. -/
theorem fields_append_blank {c : Char} (hBlank : isBlank c = true) (line rest : List Char) :
    fields (line ++ c :: rest) = fields line ++ fields rest :=
  fieldsFrom_append_blank hBlank [] line rest

theorem fields_append_blanks {blanks : List Char} (hBlanks : ∀ c ∈ blanks, isBlank c = true)
    (line : List Char) : fields (line ++ blanks) = fields line := by
  induction blanks generalizing line with
  | nil => simp
  | cons c rest ih =>
      obtain ⟨hFirst, hRest⟩ := List.forall_mem_cons.mp hBlanks
      rw [List.append_cons, ih hRest, fields_append_blank hFirst]
      exact List.append_nil _

theorem fields_dropWhile (line : List Char) : fields (line.dropWhile isBlank) = fields line := by
  induction line with
  | nil => rfl
  | cons c rest ih =>
      by_cases hBlank : isBlank c = true
      · rw [List.dropWhile_cons_of_pos hBlank, ih]
        exact (fields_append_blank hBlank [] rest).symm
      · rw [List.dropWhile_cons_of_neg hBlank]

theorem exists_append_blanks (line : List Char) :
    ∃ blanks, (∀ c ∈ blanks, isBlank c = true) ∧
      line = (line.reverse.dropWhile isBlank).reverse ++ blanks := by
  refine ⟨(line.reverse.takeWhile isBlank).reverse, ?_, ?_⟩
  · intro c hMember
    exact List.mem_takeWhile_imp (List.mem_reverse.mp hMember)
  · rw [← List.reverse_append, List.takeWhile_append_dropWhile, List.reverse_reverse]

/-- White space at either end of a line does not change its fields. -/
theorem fields_trim (line : List Char) : fields (trim line) = fields line := by
  obtain ⟨blanks, hBlanks, hLine⟩ := exists_append_blanks (line.dropWhile isBlank)
  calc fields (trim line)
      = fields (trim line ++ blanks) := (fields_append_blanks hBlanks _).symm
    _ = fields (line.dropWhile isBlank) := congrArg fields hLine.symm
    _ = fields line := fields_dropWhile line

/-- Neither does a carriage return behind it. -/
theorem fields_dropReturn (line : List Char) : fields (dropReturn line) = fields line := by
  unfold dropReturn
  split
  · rename_i hReturn
    obtain ⟨rest, rfl⟩ := List.getLast?_eq_some_iff.mp hReturn
    have hBlank : isBlank '\r' = true := by decide
    rw [List.dropLast_concat, fields_append_blank hBlank]
    exact (List.append_nil _).symm
  · rfl

/-! ### Content -/

/-- What has been read of a field is where the first field starts. -/
theorem fieldsFrom_eq_cons {read : List Char} (hRead : read ≠ []) (line : List Char) :
    ∃ word rest, fieldsFrom read line = (read.reverse ++ word) :: rest := by
  induction line generalizing read with
  | nil => exact ⟨[], [], by simp [fieldsFrom, hRead]⟩
  | cons c line ih =>
      by_cases hBlank : isBlank c = true
      · exact ⟨[], fieldsFrom [] line, by simp [fieldsFrom, hRead, hBlank]⟩
      · obtain ⟨word, rest, hMore⟩ := ih (List.cons_ne_nil c read)
        exact ⟨c :: word, rest, by simp [fieldsFrom, hBlank, hMore]⟩

/-- A trimmed line starts with a character that is not white space, if with any. -/
theorem isBlank_of_trim_eq_cons {line rest : List Char} {c : Char} (hTrim : trim line = c :: rest) :
    isBlank c = false := by
  have hPrefix : trim line <+: line.dropWhile isBlank := by
    rw [← List.reverse_suffix]
    simpa [trim] using List.dropWhile_suffix isBlank
  rw [hTrim] at hPrefix
  obtain ⟨blanks, hLine⟩ := hPrefix
  have hHead := List.head?_dropWhile_not isBlank line
  rw [← hLine] at hHead
  simpa using hHead

/-- A line carries content exactly if its fields do. -/
theorem hasContent_trim (line : List Char) : hasContent (trim line) = isContent (fields line) := by
  rw [← fields_trim]
  cases hTrim : trim line with
  | nil => rfl
  | cons c rest =>
      have hBlank := isBlank_of_trim_eq_cons hTrim
      obtain ⟨word, more, hFields⟩ := fieldsFrom_eq_cons (List.cons_ne_nil c []) rest
      simp [fields, fieldsFrom, hBlank, hFields, hasContent, isContent]

/-- The content lines are those whose fields carry content. -/
theorem map_fields_contentLinesFrom (first : Nat) (lines : List (List Char)) :
    (contentLinesFrom first lines).map ContentLine.fields =
      (lines.map fields).filter isContent := by
  induction lines generalizing first with
  | nil => rfl
  | cons line rest ih =>
      rw [contentLinesFrom, hasContent_trim, List.map_cons, List.filter_cons]
      split
      · rw [List.map_cons, ih, fields_trim]
      · exact ih (first + 1)

/-! ### Rows -/

theorem fieldsFrom_of_not_blank {word : List Char} (hWord : ∀ c ∈ word, isBlank c = false)
    {read : List Char} (hSome : read.reverse ++ word ≠ []) :
    fieldsFrom read word = [read.reverse ++ word] := by
  induction word generalizing read with
  | nil => simpa [fieldsFrom] using hSome
  | cons c word ih =>
      obtain ⟨hFirst, hRest⟩ := List.forall_mem_cons.mp hWord
      rw [fieldsFrom, if_neg (by simp [hFirst]), ih hRest (by simp)]
      simp

/-- A field is all that there is on its line. -/
theorem IsField.fields_eq {field : List Char} (hField : IsField field) : fields field = [field] :=
  fieldsFrom_of_not_blank hField.2 hField.1

/-- The fields of a line are the fields of its row. -/
theorem fields_rowText {row : List (List Char)} (hFields : ∀ field ∈ row, IsField field) :
    fields (rowText row) = row := by
  induction row using rowText.induct with
  | case1 => rfl
  | case2 field => exact (hFields field List.mem_cons_self).fields_eq
  | case3 field rest hMore ih =>
      obtain ⟨hField, hRest⟩ := List.forall_mem_cons.mp hFields
      have hSpace : isBlank ' ' = true := by decide
      rw [rowText.eq_3 field rest hMore, fields_append_blank hSpace, hField.fields_eq, ih hRest]
      simp

/-- A row is written on one line. -/
theorem newline_not_mem_rowText {row : List (List Char)} (hFields : ∀ field ∈ row, IsField field) :
    '\n' ∉ rowText row := by
  have hOutside : ∀ {field}, IsField field → '\n' ∉ field := fun hField hMember =>
    absurd (hField.2 _ hMember) (by decide)
  induction row using rowText.induct with
  | case1 => simp [rowText]
  | case2 field => exact hOutside (hFields field List.mem_cons_self)
  | case3 field rest hMore ih =>
      obtain ⟨hField, hRest⟩ := List.forall_mem_cons.mp hFields
      rw [rowText.eq_3 field rest hMore]
      simp [hOutside hField, ih hRest]

theorem linesFrom_append {line : List Char} (hLine : '\n' ∉ line) (read rest : List Char) :
    linesFrom read (line ++ '\n' :: rest) =
      dropReturn (read.reverse ++ line) :: linesFrom [] rest := by
  induction line generalizing read with
  | nil => simp [linesFrom]
  | cons c line ih =>
      rw [List.mem_cons, not_or] at hLine
      obtain ⟨hFirst, hRest⟩ := hLine
      rw [List.cons_append, linesFrom, if_neg (Ne.symm hFirst), ih hRest]
      simp

/-- Up to a line feed, a text is its first line. -/
theorem physicalLines_append {line : List Char} (hLine : '\n' ∉ line) (rest : List Char) :
    physicalLines (line ++ '\n' :: rest) = dropReturn line :: physicalLines rest :=
  linesFrom_append hLine [] rest

theorem map_fields_physicalLines {rows : List (List (List Char))}
    (hFields : ∀ row ∈ rows, ∀ field ∈ row, IsField field) :
    (physicalLines (rowsText rows)).map fields = rows := by
  induction rows with
  | nil => rfl
  | cons row rest ih =>
      obtain ⟨hRow, hRest⟩ := List.forall_mem_cons.mp hFields
      have hText : rowsText (row :: rest) = rowText row ++ '\n' :: rowsText rest := by
        simp [rowsText]
      rw [hText, physicalLines_append (newline_not_mem_rowText hRow), List.map_cons,
        fields_dropReturn, fields_rowText hRow, ih hRest]

/-- Of a text of rows those that carry content are read. -/
theorem map_fields_contentLines {text : String} {rows : List (List (List Char))}
    (hText : text.toList = rowsText rows) (hFields : ∀ row ∈ rows, ∀ field ∈ row, IsField field) :
    (contentLines text).map ContentLine.fields = rows.filter isContent := by
  rw [contentLines, map_fields_contentLinesFrom, hText, map_fields_physicalLines hFields]

/-! ### Numbers -/

theorem isDigit_of_mem_decimalDigits {c : Char} {n : Nat} (hMember : c ∈ decimalDigits n) :
    0x30 ≤ c.toNat ∧ c.toNat ≤ 0x39 := by
  have hDigit : c.isDigit = true := Nat.isDigit_of_mem_toDigits (by omega) (by omega) hMember
  simpa [Char.isDigit, UInt32.le_iff_toNat_le] using hDigit

theorem isBlank_of_le {c : Char} (hLow : 0x21 ≤ c.toNat) (hHigh : c.toNat ≤ 0x7E) :
    isBlank c = false := by
  simp [isBlank, blankRanges]
  omega

/-- A decimal number can stand as a field. -/
theorem isField_decimalDigits (n : Nat) : IsField (decimalDigits n) := by
  constructor
  · exact Nat.toDigits_ne_nil
  · intro c hMember
    have hDigit := isDigit_of_mem_decimalDigits hMember
    apply isBlank_of_le <;> omega

theorem ofDigits_decimalDigits (n : Nat) : ofDigits (decimalDigits n) = n := by
  have hRead := Nat.ofDigitChars_toDigits (b := 10) (n := n) (by omega) (by omega)
  rw [Nat.ofDigitChars_eq_foldl] at hRead
  simpa [ofDigits, decimalDigits, Nat.mul_comm] using hRead

/-- Digits need no sign in front. -/
theorem readWord?_of_isDigit {digits : List Char} (hDigits : ∀ c ∈ digits, isDigit c = true) :
    readWord? digits = wordOfDigits? digits := by
  unfold readWord?
  split
  · exact absurd (hDigits '+' List.mem_cons_self) (by decide)
  · rfl

theorem isDigit_decimalDigits {c : Char} {n : Nat} (hMember : c ∈ decimalDigits n) :
    isDigit c = true := by
  have hDigit := isDigit_of_mem_decimalDigits hMember
  simp [isDigit, Char.le_def, UInt32.le_iff_toNat_le]
  omega

/-- The decimal digits of a number are read as that number, if it fits into a word. -/
theorem wordOfDigits?_decimalDigits (n : Nat) : wordOfDigits? (decimalDigits n) = wordOfNat? n := by
  have hSome : decimalDigits n ≠ [] := Nat.toDigits_ne_nil
  have hDigits : (decimalDigits n).all isDigit = true :=
    List.all_eq_true.mpr fun _ => isDigit_decimalDigits
  simp [wordOfDigits?, hSome, hDigits, ofDigits_decimalDigits]

theorem wordOfNat?_toNat (word : UInt64) : wordOfNat? word.toNat = some word := by
  simp [wordOfNat?, word.toNat_lt_size]

/-- A word is read back from its decimal digits. -/
theorem readWord?_decimalDigits (word : UInt64) :
    readWord? (decimalDigits word.toNat) = some word := by
  rw [readWord?_of_isDigit fun _ => isDigit_decimalDigits, wordOfDigits?_decimalDigits,
    wordOfNat?_toNat]

end Text
end TokenNet
