import TokenNet.Proofs.Maps
import TokenNet.Proofs.Rows
import TokenNet.Scenario.Fixture
import TokenNet.Snapshot.Text

namespace TokenNet

/-!
# Reading fixtures back

The fixture text of a snapshot has a row for its number, for each balance and for each transfer
(`Snapshot.toList_fixture`), and rows are all that reading goes by
(`Scenario.parseSnapshot_of_rows`).  So, as long as names can stand as fields, what is read back is
the snapshot without the lines that open with a number sign, since these are taken for comments
(`Scenario.parseSnapshot_fixture`).
-/

/-- Whether a line that starts with the name is taken for a comment. -/
def opensComment (name : String) : Bool := name.toList.head? = some '#'

namespace Snapshot

/-- The row of a balance. -/
def balanceRow (entry : String × UInt64) : List (List Char) :=
  [entry.1.toList, Text.decimalDigits entry.2.toNat]

/-- The row of a transfer. -/
def transferRow (transfer : Transfer) : List (List Char) :=
  [transfer.source.toList, transfer.target.toList,
    "token(".toList ++ Text.decimalDigits transfer.amount.toNat ++ ")".toList]

/-- The rows of a snapshot. -/
def rows (snapshot : Snapshot) : List (List (List Char)) :=
  [Text.decimalDigits snapshot.id.toNat] ::
    (snapshot.balances.toList.map balanceRow ++ snapshot.messages.map transferRow)

/-- The fixture text has a line for every row. -/
theorem toList_fixture (snapshot : Snapshot) :
    snapshot.fixture.toList = Text.rowsText snapshot.rows := by
  simp [fixture, rows, Text.rowsText, Text.rowText, balanceLine, transferLine, balanceRow,
    transferRow, Text.decimalWord, Text.decimal, List.flatMap_map]

/-- The snapshot without the lines that are taken for comments. -/
def uncommented (snapshot : Snapshot) : Snapshot where
  id := snapshot.id
  balances := snapshot.balances.filter fun name _ => !opensComment name
  messages := snapshot.messages.filter fun transfer => !opensComment transfer.source

/-- Every name in a snapshot can stand as a field. -/
structure Writable (snapshot : Snapshot) : Prop where
  /-- The nodes can. -/
  node : ∀ name ∈ snapshot.balances.keys, Text.IsField name.toList
  /-- The senders can. -/
  source : ∀ transfer ∈ snapshot.messages, Text.IsField transfer.source.toList
  /-- The receivers can. -/
  target : ∀ transfer ∈ snapshot.messages, Text.IsField transfer.target.toList

variable {snapshot : Snapshot}

theorem isContent_cons {field : List Char} (hField : Text.IsField field)
    (rest : List (List Char)) :
    Text.isContent (field :: rest) = !decide (field.head? = some '#') := by
  obtain ⟨c, word, rfl⟩ := List.exists_cons_of_ne_nil hField.1
  simp [Text.isContent]

/-- No number looks like a comment. -/
theorem isContent_decimalDigits (n : Nat) (rest : List (List Char)) :
    Text.isContent (Text.decimalDigits n :: rest) = true := by
  have hOther : (Text.decimalDigits n).head? ≠ some '#' := by
    intro hHead
    have hDigit := Text.isDigit_of_mem_decimalDigits (List.mem_of_head? hHead)
    simp at hDigit
  simp [isContent_cons (Text.isField_decimalDigits n), hOther]

theorem isField_token (digits : List Char) (hDigits : Text.IsField digits) :
    Text.IsField ("token(".toList ++ digits ++ ")".toList) := by
  have hOpening : ("token(".toList.all fun c => !Text.isBlank c) = true := by decide
  have hClosing : (")".toList.all fun c => !Text.isBlank c) = true := by decide
  constructor
  · simp
  · intro c hMember
    rw [List.mem_append, List.mem_append] at hMember
    rcases hMember with (hFirst | hMiddle) | hLast
    · simpa using List.all_eq_true.mp hOpening c hFirst
    · exact hDigits.2 c hMiddle
    · simpa using List.all_eq_true.mp hClosing c hLast

theorem Writable.isField (hWritable : snapshot.Writable) :
    ∀ row ∈ snapshot.rows, ∀ field ∈ row, Text.IsField field := by
  have hNumber : ∀ n, Text.IsField (Text.decimalDigits n) := Text.isField_decimalDigits
  intro row hRow
  simp only [rows, List.mem_cons, List.mem_append, List.mem_map] at hRow
  rcases hRow with rfl | ⟨entry, hEntry, rfl⟩ | ⟨transfer, hTransfer, rfl⟩
  · simp [hNumber]
  · have hNode := hWritable.node entry.1 (List.mem_map_of_mem hEntry)
    simp [balanceRow, hNode, hNumber]
  · have hSource := hWritable.source transfer hTransfer
    have hTarget := hWritable.target transfer hTransfer
    have hToken := isField_token _ (hNumber transfer.amount.toNat)
    intro field hField
    simp only [transferRow, List.mem_cons, List.not_mem_nil, or_false] at hField
    rcases hField with rfl | rfl | rfl
    · exact hSource
    · exact hTarget
    · exact hToken

/-- The rows that carry content are those of the snapshot without comments. -/
theorem Writable.filter_rows (hWritable : snapshot.Writable) :
    snapshot.rows.filter Text.isContent = snapshot.uncommented.rows := by
  have hBalances : ∀ entry ∈ snapshot.balances.toList,
      (Text.isContent ∘ balanceRow) entry = !opensComment entry.1 := fun entry hEntry =>
    isContent_cons (hWritable.node entry.1 (List.mem_map_of_mem hEntry)) _
  have hTransfers : ∀ transfer ∈ snapshot.messages,
      (Text.isContent ∘ transferRow) transfer = !opensComment transfer.source :=
    fun transfer hTransfer => isContent_cons (hWritable.source transfer hTransfer) _
  simp only [rows, uncommented, List.filter_cons, isContent_decimalDigits, if_true,
    List.filter_append, List.filter_map, SortedMap.toList_filter]
  rw [List.filter_congr hBalances, List.filter_congr hTransfers]

/-- Nothing is left out exactly if no line opens with a number sign. -/
theorem uncommented_eq_self_iff :
    snapshot.uncommented = snapshot ↔
      (∀ name ∈ snapshot.balances.keys, opensComment name = false) ∧
        ∀ transfer ∈ snapshot.messages, opensComment transfer.source = false := by
  have hBalances : snapshot.uncommented.balances = snapshot.balances ↔
      ∀ name ∈ snapshot.balances.keys, opensComment name = false := by
    rw [← SortedMap.toList_inj]
    simp [uncommented, SortedMap.keys]
  have hMessages : snapshot.uncommented.messages = snapshot.messages ↔
      ∀ transfer ∈ snapshot.messages, opensComment transfer.source = false := by
    simp [uncommented]
  rw [← hBalances, ← hMessages]
  constructor
  · intro hSame
    simp [hSame]
  · rintro ⟨hFirst, hSecond⟩
    cases snapshot
    simp_all [uncommented]

end Snapshot

namespace Scenario

/-! ### Reading rows -/

theorem between?_append (opening closing text : List Char) :
    between? opening closing (opening ++ text ++ closing) = some text := by
  simp [between?]

theorem number_decimalDigits (line : Nat) (quantity : Quantity) (word : UInt64) :
    number line quantity (Text.decimalDigits word.toNat) = .ok word := by
  rw [number, Text.readWord?_decimalDigits]

variable {line : Text.ContentLine} {snapshot : Snapshot}

theorem readEntry_balanceRow {entry : String × UInt64}
    (hFields : line.fields = Snapshot.balanceRow entry) :
    readEntry snapshot line =
      .ok { snapshot with balances := snapshot.balances.insert entry.1 entry.2 } := by
  unfold readEntry
  simp [hFields, Snapshot.balanceRow, number_decimalDigits]

theorem readEntry_transferRow {transfer : Transfer}
    (hFields : line.fields = Snapshot.transferRow transfer) :
    readEntry snapshot line =
      .ok { snapshot with messages := snapshot.messages ++ [transfer] } := by
  unfold readEntry
  simp only [hFields, Snapshot.transferRow, between?_append]
  simp [number_decimalDigits]

/-- Lines that say one item each are read one after another. -/
theorem foldlM_readEntry {α : Type} {row : α → List (List Char)} {store : Snapshot → α → Snapshot}
    (hRead : ∀ {line snapshot item}, line.fields = row item →
      readEntry snapshot line = .ok (store snapshot item))
    {lines : List Text.ContentLine} {items : List α}
    (hRows : lines.map Text.ContentLine.fields = items.map row) (snapshot : Snapshot) :
    lines.foldlM readEntry snapshot = .ok (items.foldl store snapshot) := by
  induction lines generalizing items snapshot with
  | nil =>
      obtain rfl : items = [] := by simpa using hRows.symm
      rfl
  | cons line rest ih =>
      obtain ⟨item, others, rfl, hFirst, hOthers⟩ := List.map_eq_cons_iff.mp hRows.symm
      rw [List.foldlM_cons, hRead hFirst.symm]
      exact ih hOthers.symm (store snapshot item)

theorem foldl_balances (entries : List (String × UInt64)) (snapshot : Snapshot) :
    entries.foldl (fun kept entry =>
        { kept with balances := kept.balances.insert entry.1 entry.2 }) snapshot =
      { snapshot with
        balances := entries.foldl (fun map entry => map.insert entry.1 entry.2)
          snapshot.balances } := by
  induction entries generalizing snapshot with
  | nil => rfl
  | cons entry rest ih => exact ih _

theorem foldl_transfers (transfers : List Transfer) (snapshot : Snapshot) :
    transfers.foldl (fun kept transfer =>
        { kept with messages := kept.messages ++ [transfer] }) snapshot =
      { snapshot with messages := snapshot.messages ++ transfers } := by
  induction transfers generalizing snapshot with
  | nil => simp
  | cons transfer rest ih => simp [ih]

/-- A text that has the rows of a snapshot is read as this snapshot. -/
theorem parseSnapshot_of_rows {text : String}
    (hRows : (Text.contentLines text).map Text.ContentLine.fields = snapshot.rows) :
    parseSnapshot text = .ok snapshot := by
  obtain ⟨first, rest, hLines, hFirst, hRest⟩ := List.map_eq_cons_iff.mp hRows
  obtain ⟨held, moving, rfl, hHeld, hMoving⟩ := List.map_eq_append_iff.mp hRest
  have hId : readSnapshotId first = .ok snapshot.id := by
    unfold readSnapshotId
    simp [hFirst, number_decimalDigits]
  have hBalances : snapshot.balances.toList.foldl
      (fun map entry => map.insert entry.1 entry.2) SortedMap.empty = snapshot.balances :=
    SortedMap.ofList_toList snapshot.balances
  unfold parseSnapshot
  rw [hLines]
  simp only [hId, bind, Except.bind]
  rw [List.foldlM_append, foldlM_readEntry readEntry_balanceRow hHeld]
  simp only [bind, Except.bind]
  rw [foldlM_readEntry readEntry_transferRow hMoving, foldl_balances, foldl_transfers]
  simp [Snapshot.empty, hBalances]

/-- The fixture text of a snapshot is read as the snapshot without what is taken for comments. -/
theorem parseSnapshot_fixture (hWritable : snapshot.Writable) :
    parseSnapshot snapshot.fixture = .ok snapshot.uncommented := by
  apply parseSnapshot_of_rows
  rw [Text.map_fields_contentLines snapshot.toList_fixture hWritable.isField,
    hWritable.filter_rows]

end Scenario
end TokenNet
