import TokenNet.CommandLine.Run
import TokenNet.Proofs.Fixtures
import TokenNet.Proofs.Lines
import TokenNet.Proofs.LosslessForms

namespace TokenNet

/-!
# What is printed of a snapshot

A reader is told a snapshot line by line (`Snapshot.lines`): its number, every balance in the order of
the names and every transfer in the order in which the snapshot has it.  A program gets a JSON text
from which the snapshot is read back.  Either is what the command line prints
(`CommandLine.shows_printed`).
-/

/-- Lines with an end between each two and behind the last are ended one by one. -/
theorem intercalate_newLine {lines : List String} (hSome : lines ≠ []) :
    "\n".intercalate lines ++ "\n" = String.join (lines.map (· ++ "\n")) := by
  induction lines with
  | nil => exact absurd rfl hSome
  | cons line rest ih =>
      rw [List.map_cons, String.join_cons]
      by_cases hLast : rest = []
      · subst hLast
        rw [String.intercalate_singleton, List.map_nil, String.join_nil, String.append_empty]
      · rw [String.intercalate_cons_of_ne_nil hLast, ← ih hLast, String.append_assoc]

namespace Snapshot

/-- The line of a balance. -/
def shownBalance (entry : String × UInt64) : String :=
  "\t" ++ entry.1 ++ ": " ++ toString entry.2 ++ if entry.2 = 1 then " token" else " tokens"

/-- The line of a transfer. -/
def shownTransfer (transfer : Transfer) : String :=
  "\t" ++ transfer.source ++ " -> " ++ transfer.target ++ ": token(" ++
    toString transfer.amount ++ ")"

/-- The lines that tell a reader of a snapshot: a heading with its number, the balances and the
transfers.  A snapshot without balances has an empty line in their place. -/
def lines (snapshot : Snapshot) : List String :=
  ("Snapshot " ++ toString snapshot.id ++ ":") ::
    ((if snapshot.balances.isEmpty then [""] else snapshot.balances.toList.map shownBalance) ++
      snapshot.messages.map shownTransfer)

theorem balancesText_eq (balances : SortedMap String UInt64) :
    balancesText "\t" balances ++ "\n" =
      String.join ((if balances.isEmpty then [""] else balances.toList.map shownBalance).map
        (· ++ "\n")) := by
  have hLines : (balances.toList.map fun entry => "\t" ++ balanceText entry.1 entry.2) =
      balances.toList.map shownBalance := by
    refine List.map_congr_left fun entry _ => ?_
    simp only [balanceText, shownBalance, String.append_assoc]
    rfl
  unfold balancesText
  rw [hLines]
  have hEmpty : balances.isEmpty = true ↔ balances.toList = [] :=
    SortedMap.isEmpty_iff.trans List.map_eq_nil_iff
  by_cases hNone : balances.toList = []
  · rw [if_pos (hEmpty.mpr hNone), hNone]
    rfl
  · rw [if_neg (mt hEmpty.mp hNone)]
    exact intercalate_newLine (mt List.map_eq_nil_iff.mp hNone)

theorem transfersText_eq (transfers : List Transfer) :
    (if transfers.isEmpty then "" else transfersText "\t" transfers ++ "\n") =
      String.join ((transfers.map shownTransfer).map (· ++ "\n")) := by
  have hLines : (transfers.map fun transfer => "\t" ++ transfer.text) =
      transfers.map shownTransfer := by
    refine List.map_congr_left fun transfer _ => ?_
    simp only [Transfer.text, shownTransfer, String.append_assoc]
    rfl
  cases transfers with
  | nil => rfl
  | cons first rest =>
      unfold transfersText
      rw [hLines]
      exact intercalate_newLine (List.cons_ne_nil _ _)

/-- The text of a snapshot consists of its lines. -/
theorem text_eq (snapshot : Snapshot) :
    snapshot.text = String.join (snapshot.lines.map (· ++ "\n")) := by
  have hText : snapshot.text = "Snapshot " ++ toString snapshot.id ++ ":" ++ "\n" ++
      (balancesText "\t" snapshot.balances ++ "\n" ++
        if snapshot.messages.isEmpty then "" else transfersText "\t" snapshot.messages ++ "\n") := by
    simp only [text, String.append_assoc]
    rfl
  rw [hText, balancesText_eq, transfersText_eq]
  unfold lines
  rw [List.map_cons, List.map_append, String.join_cons, String.join_append]

/-! ### Reading the lines -/

/-- The fields of the heading. -/
def headingRow (id : SnapshotId) : List (List Char) :=
  ["Snapshot".toList, Text.decimalDigits id.toNat ++ [':']]

/-- The fields of the line of a balance. -/
def shownBalanceRow (entry : String × UInt64) : List (List Char) :=
  [entry.1.toList ++ [':'], Text.decimalDigits entry.2.toNat,
    if entry.2 = 1 then "token".toList else "tokens".toList]

/-- The fields of the line of a transfer. -/
def shownTransferRow (transfer : Transfer) : List (List Char) :=
  [transfer.source.toList, "->".toList, transfer.target.toList ++ [':'],
    "token(".toList ++ Text.decimalDigits transfer.amount.toNat ++ ")".toList]

/-- The fields of all lines. -/
def shownRows (snapshot : Snapshot) : List (List (List Char)) :=
  headingRow snapshot.id ::
    ((if snapshot.balances.isEmpty then [[]] else snapshot.balances.toList.map shownBalanceRow) ++
      snapshot.messages.map shownTransferRow)

theorem toList_toString (word : UInt64) :
    (toString word).toList = Text.decimalDigits word.toNat :=
  String.toList_ofList

/-- A line of which the fields are those of a row. -/
def Tells (line : String) (row : List (List Char)) : Prop :=
  '\n' ∉ line.toList ∧ Text.fields line.toList = row

theorem isField_word {word : List Char} (hSome : word ≠ [])
    (hPlain : (word.all fun c => !Text.isBlank c) = true) : Text.IsField word :=
  ⟨hSome, fun c hMember => by simpa using List.all_eq_true.mp hPlain c hMember⟩

theorem isField_colon {field : List Char} (hField : Text.IsField field) :
    Text.IsField (field ++ [':']) := by
  refine ⟨by simp, fun c hMember => ?_⟩
  rcases List.mem_append.mp hMember with hOld | hNew
  · exact hField.2 c hOld
  · rw [List.mem_singleton.mp hNew]
    decide

theorem tells_of_indented {line : String} {row : List (List Char)}
    (hLine : line.toList = '\t' :: Text.rowText row) (hFields : ∀ field ∈ row, Text.IsField field) :
    Tells line row := by
  have hTab : ∀ c ∈ ['\t'], Text.isBlank c = true := by simp [Text.isBlank, Text.blankRanges]
  constructor
  · rw [hLine, List.mem_cons, not_or]
    exact ⟨by decide, Text.newline_not_mem_rowText hFields⟩
  · rw [hLine]
    exact (Text.fields_blanks_append hTab _).trans (Text.fields_rowText hFields)

theorem tells_heading (id : SnapshotId) :
    Tells ("Snapshot " ++ toString id ++ ":") (headingRow id) := by
  have hFields : ∀ field ∈ headingRow id, Text.IsField field := by
    simp only [headingRow, List.forall_mem_cons, List.not_mem_nil, false_implies, implies_true,
      and_true]
    exact ⟨isField_word (by decide) (by decide), isField_colon (Text.isField_decimalDigits _)⟩
  have hLine : ("Snapshot " ++ toString id ++ ":").toList = Text.rowText (headingRow id) := by
    simp [headingRow, Text.rowText, toList_toString]
  exact ⟨hLine ▸ Text.newline_not_mem_rowText hFields, hLine ▸ Text.fields_rowText hFields⟩

theorem tells_balance {entry : String × UInt64} (hName : Text.IsField entry.1.toList) :
    Tells (shownBalance entry) (shownBalanceRow entry) := by
  refine tells_of_indented ?_ ?_
  · unfold shownBalance shownBalanceRow
    split <;> simp [Text.rowText, toList_toString]
  · have hWord : Text.IsField (if entry.2 = 1 then "token".toList else "tokens".toList) := by
      split <;> exact isField_word (by decide) (by decide)
    simp only [shownBalanceRow, List.forall_mem_cons, List.not_mem_nil, false_implies, implies_true,
      and_true]
    exact ⟨isField_colon hName, Text.isField_decimalDigits _, hWord⟩

theorem tells_transfer {transfer : Transfer} (hSource : Text.IsField transfer.source.toList)
    (hTarget : Text.IsField transfer.target.toList) :
    Tells (shownTransfer transfer) (shownTransferRow transfer) := by
  refine tells_of_indented ?_ ?_
  · simp [shownTransfer, shownTransferRow, Text.rowText, toList_toString]
  · simp only [shownTransferRow, List.forall_mem_cons, List.not_mem_nil, false_implies, implies_true,
      and_true]
    exact ⟨hSource, isField_word (by decide) (by decide), isField_colon hTarget,
      isField_token _ (Text.isField_decimalDigits _)⟩

/-- A list of lines and the rows of their fields. -/
theorem forall₂_tells {snapshot : Snapshot} (hWritable : snapshot.Writable) :
    List.Forall₂ Tells snapshot.lines snapshot.shownRows := by
  have hBalances : List.Forall₂ Tells
      (if snapshot.balances.isEmpty then [""] else snapshot.balances.toList.map shownBalance)
      (if snapshot.balances.isEmpty then [[]] else snapshot.balances.toList.map shownBalanceRow) := by
    split
    · exact List.Forall₂.cons ⟨List.not_mem_nil, rfl⟩ List.Forall₂.nil
    · rw [List.forall₂_map_left_iff, List.forall₂_map_right_iff, List.forall₂_same]
      exact fun entry hEntry => tells_balance (hWritable.node _ (List.mem_map_of_mem hEntry))
  have hTransfers : List.Forall₂ Tells (snapshot.messages.map shownTransfer)
      (snapshot.messages.map shownTransferRow) := by
    rw [List.forall₂_map_left_iff, List.forall₂_map_right_iff, List.forall₂_same]
    exact fun transfer hTransfer =>
      tells_transfer (hWritable.source _ hTransfer) (hWritable.target _ hTransfer)
  exact List.Forall₂.cons (tells_heading snapshot.id) (List.rel_append hBalances hTransfers)

/-- The fields of the lines of a text are those of the rows. -/
theorem map_fields_of_tells {lines : List String} {rows : List (List (List Char))}
    (hTells : List.Forall₂ Tells lines rows) :
    (Text.physicalLines (String.join (lines.map (· ++ "\n"))).toList).map Text.fields = rows := by
  induction hTells with
  | nil => rfl
  | @cons line row lines rows hLine hRest ih =>
      have hText : (String.join ((line :: lines).map (· ++ "\n"))).toList =
          line.toList ++ '\n' :: (String.join (lines.map (· ++ "\n"))).toList := by
        rw [List.map_cons, String.join_cons, String.append_assoc, String.toList_append,
          String.toList_append]
        rfl
      rw [hText, Text.physicalLines_append hLine.1, List.map_cons, Text.fields_dropReturn, hLine.2, ih]

/-- On the lines of its text stand the fields of a snapshot, row by row. -/
theorem map_fields_text {snapshot : Snapshot} (hWritable : snapshot.Writable) :
    (Text.physicalLines snapshot.text.toList).map Text.fields = snapshot.shownRows := by
  rw [text_eq]
  exact map_fields_of_tells (forall₂_tells hWritable)

theorem word_eq_of_decimalDigits {first second : UInt64}
    (hSame : Text.decimalDigits first.toNat = Text.decimalDigits second.toNat) : first = second := by
  rw [← UInt64.toNat_inj, ← Text.ofDigits_decimalDigits first.toNat, hSame,
    Text.ofDigits_decimalDigits]

theorem shownBalanceRow_injective : Function.Injective shownBalanceRow := by
  intro first second hSame
  simp only [shownBalanceRow, List.cons.injEq] at hSame
  obtain ⟨hName, hTokens, -⟩ := hSame
  exact Prod.ext (String.toList_inj.mp (List.append_cancel_right hName))
    (word_eq_of_decimalDigits hTokens)

theorem shownTransferRow_injective : Function.Injective shownTransferRow := by
  rintro ⟨source, target, amount⟩ ⟨source', target', amount'⟩ hSame
  simp only [shownTransferRow, List.cons.injEq] at hSame
  obtain ⟨hSource, -, hTarget, hAmount, -⟩ := hSame
  obtain rfl := String.toList_inj.mp hSource
  obtain rfl := String.toList_inj.mp (List.append_cancel_right hTarget)
  obtain rfl := word_eq_of_decimalDigits
    (List.append_cancel_left (List.append_cancel_right hAmount))
  rfl

/-- Of rows with equally many fields all are kept, or none. -/
theorem filter_map_row {α : Type} {row : α → List (List Char)} {length : Nat}
    (hLength : ∀ item, (row item).length = length) (items : List α) (asked : Nat) :
    (items.map row).filter (fun fields => fields.length = asked) =
      if length = asked then items.map row else [] := by
  split
  · next hAsked =>
    rw [List.filter_eq_self]
    intro fields hFields
    obtain ⟨item, -, rfl⟩ := List.mem_map.mp hFields
    exact decide_eq_true ((hLength item).trans hAsked)
  · next hOther =>
    rw [List.filter_eq_nil_iff]
    intro fields hFields hAsked
    obtain ⟨item, -, rfl⟩ := List.mem_map.mp hFields
    exact hOther ((hLength item).symm.trans (of_decide_eq_true hAsked))

theorem filter_balances (snapshot : Snapshot) (asked : Nat) (hSome : asked ≠ 0) :
    (if snapshot.balances.isEmpty then [[]] else snapshot.balances.toList.map shownBalanceRow).filter
        (fun row => row.length = asked) =
      if 3 = asked then snapshot.balances.toList.map shownBalanceRow else [] := by
  split
  · next hEmpty =>
    have hNone : snapshot.balances.toList = [] :=
      List.map_eq_nil_iff.mp (SortedMap.isEmpty_iff.mp hEmpty)
    rw [hNone]
    simp [hSome.symm]
  · exact @filter_map_row _ shownBalanceRow 3 (fun _ => rfl) _ asked

/-- The rows of balances are those with three fields. -/
theorem filter_balanceRows (snapshot : Snapshot) :
    snapshot.shownRows.filter (fun row => row.length = 3) =
      snapshot.balances.toList.map shownBalanceRow := by
  have hTransfers := @filter_map_row _ shownTransferRow 4 (fun _ => rfl) snapshot.messages 3
  -- The heading has two fields.
  show List.filter (fun row => row.length = 3)
    ((if snapshot.balances.isEmpty then [[]] else snapshot.balances.toList.map shownBalanceRow) ++
      snapshot.messages.map shownTransferRow) = _
  rw [List.filter_append, filter_balances snapshot 3 (by decide), hTransfers, if_pos rfl,
    if_neg (by decide), List.append_nil]

/-- The rows of transfers are those with four fields. -/
theorem filter_transferRows (snapshot : Snapshot) :
    snapshot.shownRows.filter (fun row => row.length = 4) =
      snapshot.messages.map shownTransferRow := by
  have hTransfers := @filter_map_row _ shownTransferRow 4 (fun _ => rfl) snapshot.messages 4
  show List.filter (fun row => row.length = 4)
    ((if snapshot.balances.isEmpty then [[]] else snapshot.balances.toList.map shownBalanceRow) ++
      snapshot.messages.map shownTransferRow) = _
  rw [List.filter_append, filter_balances snapshot 4 (by decide), hTransfers, if_neg (by decide),
    if_pos rfl, List.nil_append]

/-- A snapshot can be told from the rows of its lines. -/
theorem shownRows_injective : Function.Injective shownRows := by
  intro first second hSame
  have hBalances := congrArg (List.filter fun row => row.length = 3) hSame
  have hTransfers := congrArg (List.filter fun row => row.length = 4) hSame
  have hHeading := (List.cons.inj hSame).1
  rw [filter_balanceRows, filter_balanceRows] at hBalances
  rw [filter_transferRows, filter_transferRows] at hTransfers
  simp only [headingRow, List.cons.injEq] at hHeading
  have hId := word_eq_of_decimalDigits (List.append_cancel_right hHeading.2.1)
  have hMaps := SortedMap.toList_inj.mp (List.map_injective_iff.mpr shownBalanceRow_injective hBalances)
  have hMessages := List.map_injective_iff.mpr shownTransferRow_injective hTransfers
  obtain ⟨id, balances, messages⟩ := first
  obtain ⟨id', balances', messages'⟩ := second
  obtain rfl : id = id' := hId
  obtain rfl : balances = balances' := hMaps
  obtain rfl : messages = messages' := hMessages
  rfl

/-- Snapshots whose names can stand as fields have different texts. -/
theorem injOn_text : Set.InjOn text {snapshot : Snapshot | snapshot.Writable} := by
  intro first hFirst second hSecond hSame
  apply shownRows_injective
  rw [← map_fields_text hFirst, hSame, map_fields_text hSecond]

end Snapshot

namespace CommandLine

/-- A text shows a snapshot to a reader or to a program. -/
inductive Shows (snapshot : Snapshot) : Bool → String → Prop where
  /-- The text consists of the lines that tell of the snapshot. -/
  | lines {text : String} (hLines : text = String.join (snapshot.lines.map (· ++ "\n"))) :
      Shows snapshot false text
  /-- The snapshot is read back from the text. -/
  | json {text : String} (hRead : JsonForm.read? text = some snapshot) : Shows snapshot true text

/-- A text shows one snapshot at most, as long as the names can stand as fields. -/
theorem Shows.unique {first second : Snapshot} {json : Bool} {text : String}
    (hFirst : Shows first json text) (hSecond : Shows second json text)
    (hFirstNames : first.Writable) (hSecondNames : second.Writable) : first = second := by
  cases hFirst with
  | lines hLines =>
      cases hSecond with
      | lines hOther =>
          apply Snapshot.injOn_text hFirstNames hSecondNames
          rw [Snapshot.text_eq, Snapshot.text_eq, ← hLines, hOther]
  | json hRead =>
      cases hSecond with
      | json hOther => exact Option.some.inj (hRead.symm.trans hOther)

end CommandLine

end TokenNet
