import Mathlib.Logic.Relation
import TokenNet.Proofs.Rows

namespace TokenNet
namespace Text

/-!
# Lines and their numbers

Line feeds part a text into lines, and white space parts a line into fields
(`fields_eq_splitOnP`).  The content lines are those of these lines that carry content, with their
numbers counted from one (`contentLines_eq`).  So a line feed between two texts parts their content
lines too, and those of the second text come later by the line feeds that are in front of it
(`contentLines_append`).  White space around lines and lines without content make no difference to the
rows of fields (`rows_eq_of_relaid`).
-/

/-! ### Fields -/

theorem fieldsFrom_eq (read line : List Char) :
    fieldsFrom read line = (line.splitOnPPrepend isBlank read).filter fun field => field ≠ [] := by
  induction line generalizing read with
  | nil =>
      rw [List.splitOnPPrepend_nil]
      by_cases hNone : read = [] <;> simp [fieldsFrom, hNone]
  | cons c rest ih =>
      rw [List.splitOnPPrepend_cons_eq_if, ← List.splitOnPPrepend_nil_right]
      by_cases hBlank : isBlank c = true
      · by_cases hNone : read = [] <;> simp [fieldsFrom, hBlank, hNone, ih]
      · simp [fieldsFrom, hBlank, ih]

/-- The fields are the non-empty parts between characters of white space. -/
theorem fields_eq_splitOnP (line : List Char) :
    fields line = (line.splitOnP isBlank).filter fun field => field ≠ [] := by
  rw [fields, fieldsFrom_eq, List.splitOnPPrepend_nil_right]

theorem isBlank_of_mem_splitOnP {line part : List Char} (hPart : part ∈ line.splitOnP isBlank) :
    ∀ c ∈ part, isBlank c = false := by
  induction line generalizing part with
  | nil =>
      rw [List.splitOnP_nil, List.mem_singleton] at hPart
      simp [hPart]
  | cons c rest ih =>
      rw [List.splitOnP_cons_eq_if_modifyHead] at hPart
      split at hPart
      · rcases List.mem_cons.mp hPart with rfl | hRest
        · simp
        · exact ih hRest
      · -- The character belongs to the first part of the rest.
        rename_i hBlank
        cases hParts : rest.splitOnP isBlank with
        | nil => exact absurd hParts (List.splitOnP_ne_nil isBlank rest)
        | cons word others =>
            rw [hParts] at hPart ih
            rcases List.mem_cons.mp hPart with rfl | hOther
            · exact List.forall_mem_cons.mpr ⟨by simpa using hBlank, ih List.mem_cons_self⟩
            · exact ih (List.mem_cons_of_mem word hOther)

/-- Whatever is a field of a line can stand as a field. -/
theorem isField_of_mem_fields {line field : List Char} (hMember : field ∈ fields line) :
    IsField field := by
  rw [fields_eq_splitOnP, List.mem_filter] at hMember
  exact ⟨of_decide_eq_true hMember.2, isBlank_of_mem_splitOnP hMember.1⟩

/-- The fields of a content line can stand as fields, and they carry content. -/
theorem isField_of_mem_contentLines {text : String} {line : ContentLine}
    (hLine : line ∈ contentLines text) :
    (∀ field ∈ line.fields, IsField field) ∧ isContent line.fields = true := by
  have hRow : line.fields ∈ (contentLines text).map ContentLine.fields :=
    List.mem_map_of_mem hLine
  rw [contentLines, map_fields_contentLinesFrom] at hRow
  obtain ⟨hFields, hContent⟩ := List.mem_filter.mp hRow
  obtain ⟨raw, -, hRaw⟩ := List.mem_map.mp hFields
  refine ⟨fun field hField => ?_, hContent⟩
  rw [← hRaw] at hField
  exact isField_of_mem_fields hField

/-! ### Lines -/

/-- What a line of a text carries, if it carries content. -/
def contentOf? (number : Nat) (line : List Char) : Option ContentLine :=
  if hasContent (trim line) then some ⟨number, fields (trim line)⟩ else none

theorem contentOf?_eq (number : Nat) (line : List Char) :
    contentOf? number line =
      if isContent (fields line) then some ⟨number, fields line⟩ else none := by
  unfold contentOf?
  rw [hasContent_trim, fields_trim]

theorem contentLinesFrom_eq (first : Nat) (lines : List (List Char)) :
    contentLinesFrom first lines =
      (lines.zipIdx first).filterMap fun entry => contentOf? entry.2 entry.1 := by
  induction lines generalizing first with
  | nil => rfl
  | cons line rest ih =>
      rw [contentLinesFrom, List.zipIdx_cons, List.filterMap_cons, ih]
      unfold contentOf?
      split <;> rfl

/-- It makes no difference to the content that a carriage return is dropped at the end of a line, nor
that nothing follows a line feed at the end of the text. -/
theorem contentLinesFrom_linesFrom (first : Nat) (read text : List Char) :
    contentLinesFrom first (linesFrom read text) =
      contentLinesFrom first (text.splitOnPPrepend (· == '\n') read) := by
  induction text generalizing first read with
  | nil =>
      rw [List.splitOnPPrepend_nil]
      by_cases hNone : read = []
      · simp [linesFrom, hNone, contentLinesFrom, trim, hasContent]
      · simp [linesFrom, hNone]
  | cons c rest ih =>
      rw [List.splitOnPPrepend_cons_eq_if, ← List.splitOnPPrepend_nil_right]
      by_cases hFeed : c = '\n'
      · simp only [linesFrom, hFeed, if_true, beq_self_eq_true, contentLinesFrom_eq,
          List.zipIdx_cons, List.filterMap_cons, contentOf?_eq, fields_dropReturn]
        simp only [← contentOf?_eq, ← contentLinesFrom_eq, ih]
      · simp [linesFrom, hFeed, ih]

theorem contentLines_eq_splitOn (text : String) :
    contentLines text = contentLinesFrom 1 (text.toList.splitOn '\n') := by
  rw [contentLines, physicalLines, contentLinesFrom_linesFrom, List.splitOnPPrepend_nil_right]
  rfl

/-- The content lines are the lines between line feeds that carry content, with the numbers of these
lines. -/
theorem contentLines_eq (text : String) :
    contentLines text =
      ((text.toList.splitOn '\n').zipIdx 1).filterMap fun entry => contentOf? entry.2 entry.1 := by
  rw [contentLines_eq_splitOn, contentLinesFrom_eq]

/-! ### Texts one after the other -/

/-- The line with more lines in front of it. -/
def ContentLine.behind (ahead : Nat) (line : ContentLine) : ContentLine :=
  { line with number := line.number + ahead }

theorem contentLinesFrom_add (first ahead : Nat) (lines : List (List Char)) :
    contentLinesFrom (first + ahead) lines =
      (contentLinesFrom first lines).map (ContentLine.behind ahead) := by
  induction lines generalizing first with
  | nil => rfl
  | cons line rest ih =>
      have hRest := ih (first + 1)
      rw [Nat.add_right_comm] at hRest
      rw [contentLinesFrom, contentLinesFrom, hRest]
      split <;> rfl

theorem contentLinesFrom_append (first : Nat) (lines others : List (List Char)) :
    contentLinesFrom first (lines ++ others) =
      contentLinesFrom first lines ++ contentLinesFrom (first + lines.length) others := by
  rw [contentLinesFrom_eq, contentLinesFrom_eq, contentLinesFrom_eq, List.zipIdx_append,
    List.filterMap_append]

/-- There is one line more than there are line feeds. -/
theorem length_splitOn (text : List Char) :
    (text.splitOn '\n').length = text.count '\n' + 1 := by
  induction text with
  | nil => rfl
  | cons c rest ih =>
      rw [List.splitOn_cons_eq_if_modifyHead, List.count_cons]
      split
      · rw [List.length_cons, ih]
      · rw [List.length_modifyHead, ih, Nat.add_zero]

/-- With a line feed between them, two texts have the content lines of both; those of the second come
behind all lines of the first. -/
theorem contentLines_append (text other : String) :
    contentLines (text ++ "\n" ++ other) = contentLines text ++
      (contentLines other).map (ContentLine.behind (1 + text.toList.count '\n')) := by
  have hText : (text ++ "\n" ++ other).toList = text.toList ++ '\n' :: other.toList := by simp
  have hLines : 1 + (text.toList.splitOn '\n').length = 1 + (1 + text.toList.count '\n') := by
    rw [length_splitOn, Nat.add_comm 1 (text.toList.count '\n')]
  rw [contentLines_eq_splitOn, hText, List.splitOn_append_cons_self, contentLinesFrom_append,
    hLines, contentLinesFrom_add, ← contentLines_eq_splitOn, ← contentLines_eq_splitOn]

/-! ### What makes no difference -/

/-- There is nothing on the line but white space, or it is a comment. -/
def IsIdle (line : List Char) : Prop :=
  (∀ c ∈ line, isBlank c = true) ∨
    ∃ blanks note, (∀ c ∈ blanks, isBlank c = true) ∧ line = blanks ++ '#' :: note

/-- Some lines with a line without content among them, or with white space in front of a line or behind
it.  A carriage return in front of a line feed is white space behind its line. -/
inductive Adds : List (List Char) → List (List Char) → Prop where
  /-- A line without content is put between the others. -/
  | idle (before after : List (List Char)) {line : List Char} (hIdle : IsIdle line) :
      Adds (before ++ after) (before ++ line :: after)
  /-- White space is put in front of a line. -/
  | front (before after : List (List Char)) (line : List Char) {blanks : List Char}
      (hBlanks : ∀ c ∈ blanks, isBlank c = true) :
      Adds (before ++ line :: after) (before ++ (blanks ++ line) :: after)
  /-- White space is put behind a line. -/
  | back (before after : List (List Char)) (line : List Char) {blanks : List Char}
      (hBlanks : ∀ c ∈ blanks, isBlank c = true) :
      Adds (before ++ line :: after) (before ++ (line ++ blanks) :: after)

/-- The rows of fields on those of the lines that carry content. -/
def rows (lines : List (List Char)) : List (List (List Char)) :=
  (lines.map fields).filter isContent

theorem map_fields_contentLines_eq (text : String) :
    (contentLines text).map ContentLine.fields = rows (text.toList.splitOn '\n') := by
  rw [contentLines_eq_splitOn, map_fields_contentLinesFrom, rows]

theorem fields_blanks_append {blanks : List Char} (hBlanks : ∀ c ∈ blanks, isBlank c = true)
    (line : List Char) : fields (blanks ++ line) = fields line := by
  rw [← fields_dropWhile, List.dropWhile_append_of_pos hBlanks, fields_dropWhile]

theorem IsIdle.isContent_eq {line : List Char} (hIdle : IsIdle line) :
    isContent (fields line) = false := by
  rcases hIdle with hBlanks | ⟨blanks, note, hBlanks, rfl⟩
  · have hNone : fields line = fields [] := fields_append_blanks hBlanks []
    rw [hNone]
    rfl
  · obtain ⟨word, rest, hFields⟩ := fieldsFrom_eq_cons (List.cons_ne_nil '#' []) note
    have hSign : isBlank '#' = false := by decide
    rw [fields_blanks_append hBlanks]
    simp [fields, fieldsFrom, hSign, hFields, isContent]

theorem rows_eq_of_adds {lines others : List (List Char)} (hAdds : Adds lines others) :
    rows lines = rows others := by
  cases hAdds with
  | idle before after hIdle => simp [rows, hIdle.isContent_eq]
  | front before after line hBlanks => simp [rows, fields_blanks_append hBlanks]
  | back before after line hBlanks => simp [rows, fields_append_blanks hBlanks]

/-- Lines that differ by what makes no difference have the same rows. -/
theorem rows_eq_of_relaid {lines others : List (List Char)}
    (hRelaid : Relation.EqvGen Adds lines others) : rows lines = rows others := by
  induction hRelaid with
  | rel lines others hAdds => exact rows_eq_of_adds hAdds
  | refl => rfl
  | symm lines others hRelaid ih => exact ih.symm
  | trans lines between others hFirst hSecond ihFirst ihSecond => exact ihFirst.trans ihSecond

end Text
end TokenNet
