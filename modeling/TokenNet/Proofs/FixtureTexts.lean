import TokenNet.Proofs.Fixtures
import TokenNet.Proofs.Folds
import TokenNet.Proofs.Lines
import TokenNet.Proofs.Readers

namespace TokenNet

/-!
# What fixtures can say

Whatever a text says, the names in the snapshot that is read from it are fields of lines that carry
content: they can stand as fields, and those that open a line do not make a comment of it
(`Scenario.legible_of_parseSnapshot`).  The fixture text of a snapshot with such names is read back
as it is, so these are all the snapshots that are read back at all
(`Scenario.parseSnapshot_fixture_iff`).
-/

/-- Every name in a snapshot can stand as a field, and no line of its fixture text is taken for a
comment. -/
structure Snapshot.Legible (snapshot : Snapshot) : Prop extends snapshot.Writable where
  /-- No node makes a comment of its line. -/
  node_opens : ∀ name ∈ snapshot.balances.keys, opensComment name = false
  /-- No sender does. -/
  source_opens : ∀ transfer ∈ snapshot.messages, opensComment transfer.source = false

theorem Snapshot.legible_empty (id : SnapshotId) : (Snapshot.empty id).Legible :=
  ⟨⟨by simp [empty, SortedMap.keys], by simp [empty], by simp [empty]⟩,
    by simp [empty, SortedMap.keys], by simp [empty]⟩

/-- The first field of a line that carries content does not make a comment of it. -/
theorem opensComment_ofList {field : List Char} {rest : List (List Char)}
    (hField : Text.IsField field) (hContent : Text.isContent (field :: rest) = true) :
    opensComment (String.ofList field) = false := by
  rw [Snapshot.isContent_cons hField] at hContent
  simpa [opensComment] using hContent

namespace Scenario

variable {text : String} {line : Text.ContentLine} {snapshot after : Snapshot}

theorem between?_eq_some_iff {opening closing text middle : List Char} :
    between? opening closing text = some middle ↔ text = opening ++ middle ++ closing := by
  constructor
  · intro hFound
    unfold between? at hFound
    split at hFound
    · rename_i hOpening
      obtain ⟨rest, rfl⟩ := List.isPrefixOf_iff_prefix.mp hOpening
      simp only [List.drop_left] at hFound
      split at hFound
      · rename_i hClosing
        obtain ⟨inner, rfl⟩ := List.isSuffixOf_iff_suffix.mp hClosing
        simp at hFound
        simp [hFound]
      · cases hFound
    · cases hFound
  · rintro rfl
    exact between?_append opening closing middle

/-- A line of two fields adds a balance and a line of three fields a transfer; what else there is, is
refused. -/
theorem readEntry_eq_ok_iff :
    readEntry snapshot line = .ok after ↔
      (∃ node amount tokens, line.fields = [node, amount] ∧ Text.Spells amount tokens ∧
        after = { snapshot with
          balances := snapshot.balances.insert (String.ofList node) tokens }) ∨
      ∃ source target amount tokens,
        line.fields = [source, target, "token(".toList ++ amount ++ ")".toList] ∧
        Text.Spells amount tokens ∧
        after = { snapshot with
          messages := snapshot.messages ++
            [⟨String.ofList source, String.ofList target, tokens⟩] } := by
  unfold readEntry
  split
  · rename_i node amount hLine
    rw [number_bind_eq_ok_iff]
    simp [hLine, pure, Except.pure, eq_comm]
  · rename_i source target message hLine
    rw [hLine]
    constructor
    · intro hRead
      split at hRead
      · cases hRead
      · rename_i amount hMessage
        obtain ⟨tokens, hTokens, hAfter⟩ := number_bind_eq_ok_iff.mp hRead
        cases hAfter
        exact Or.inr ⟨source, target, amount, tokens, by rw [between?_eq_some_iff.mp hMessage],
          hTokens, rfl⟩
    · rintro (⟨node, amount, -, hTwo, -⟩ | ⟨giver, taker, amount, tokens, hThree, hTokens, rfl⟩)
      · simp at hTwo
      · simp only [List.cons.injEq, and_true] at hThree
        obtain ⟨rfl, rfl, rfl⟩ := hThree
        simp only [between?_append]
        exact number_bind_eq_ok_iff.mpr ⟨tokens, hTokens, rfl⟩
  · rename_i hTwo hThree
    constructor
    · intro hRead
      cases hRead
    · rintro (⟨node, amount, -, hLine, -⟩ | ⟨source, target, amount, -, hLine, -⟩)
      · exact absurd hLine (hTwo node amount)
      · exact absurd hLine (hThree source target _)

/-- What a line adds to a snapshot has names of the line. -/
theorem legible_of_readEntry (hLegible : snapshot.Legible)
    (hFields : ∀ field ∈ line.fields, Text.IsField field)
    (hContent : Text.isContent line.fields = true)
    (hRead : readEntry snapshot line = .ok after) : after.Legible := by
  rcases readEntry_eq_ok_iff.mp hRead with
    ⟨node, amount, tokens, hLine, -, rfl⟩ | ⟨source, target, amount, tokens, hLine, -, rfl⟩
  · rw [hLine] at hFields hContent
    have hNode : Text.IsField node := hFields node List.mem_cons_self
    have hKeys : ∀ name ∈ (snapshot.balances.insert (String.ofList node) tokens).keys,
        name = String.ofList node ∨ name ∈ snapshot.balances.keys := fun name hName =>
      SortedMap.mem_keys_insert.mp hName
    refine ⟨⟨fun name hName => ?_, hLegible.source, hLegible.target⟩, fun name hName => ?_,
      hLegible.source_opens⟩
    · rcases hKeys name hName with rfl | hOld
      · simpa using hNode
      · exact hLegible.node name hOld
    · rcases hKeys name hName with rfl | hOld
      · exact opensComment_ofList hNode hContent
      · exact hLegible.node_opens name hOld
  · rw [hLine] at hFields hContent
    have hSource : Text.IsField source := hFields source (by simp)
    have hTarget : Text.IsField target := hFields target (by simp)
    have hAll : ∀ {P : Transfer → Prop}, (∀ transfer ∈ snapshot.messages, P transfer) →
        P ⟨String.ofList source, String.ofList target, tokens⟩ →
        ∀ transfer ∈ snapshot.messages ++ [⟨String.ofList source, String.ofList target, tokens⟩],
          P transfer := by
      intro P hOld hNew transfer hTransfer
      rcases List.mem_append.mp hTransfer with hBefore | hLast
      · exact hOld transfer hBefore
      · exact List.mem_singleton.mp hLast ▸ hNew
    exact ⟨⟨hLegible.node, hAll hLegible.source (by simpa using hSource),
      hAll hLegible.target (by simpa using hTarget)⟩, hLegible.node_opens,
      hAll hLegible.source_opens (opensComment_ofList hSource hContent)⟩

/-- Whatever text a snapshot is read from, its names are legible. -/
theorem legible_of_parseSnapshot (hRead : parseSnapshot text = .ok snapshot) :
    snapshot.Legible := by
  have hLines : ∀ line ∈ Text.contentLines text,
      (∀ field ∈ line.fields, Text.IsField field) ∧ Text.isContent line.fields = true :=
    fun _ hLine => Text.isField_of_mem_contentLines hLine
  unfold parseSnapshot at hRead
  cases hText : Text.contentLines text with
  | nil => simp [hText] at hRead
  | cons first rest =>
      rw [hText] at hLines
      simp only [hText] at hRead
      obtain ⟨id, -, hEntries⟩ := bind_eq_ok_iff.mp hRead
      refine foldlM_keeps (fun hLine hLegible hEntry => ?_) (Snapshot.legible_empty id) hEntries
      obtain ⟨hFields, hContent⟩ := hLines _ (List.mem_cons_of_mem first hLine)
      exact legible_of_readEntry hLegible hFields hContent hEntry

/-- The fixture text of a legible snapshot is read back. -/
theorem parseSnapshot_fixture_of_legible (hLegible : snapshot.Legible) :
    parseSnapshot snapshot.fixture = .ok snapshot := by
  rw [parseSnapshot_fixture hLegible.toWritable]
  exact congrArg Except.ok
    (Snapshot.uncommented_eq_self_iff.mpr ⟨hLegible.node_opens, hLegible.source_opens⟩)

/-- A snapshot is read back from its fixture text exactly if no name in it is empty or has white
space in it, and no node and no sender has a name that opens with a number sign.  Whatever is read
from a text can be written and read again. -/
theorem parseSnapshot_fixture_iff :
    (∀ snapshot : Snapshot, parseSnapshot snapshot.fixture = .ok snapshot ↔
      (∀ name ∈ snapshot.balances.keys, Text.IsField name.toList ∧ name.toList.head? ≠ some '#') ∧
      (∀ transfer ∈ snapshot.messages,
        Text.IsField transfer.source.toList ∧ transfer.source.toList.head? ≠ some '#' ∧
          Text.IsField transfer.target.toList)) ∧
    ∀ text snapshot, parseSnapshot text = .ok snapshot →
      parseSnapshot snapshot.fixture = .ok snapshot := by
  constructor
  · intro snapshot
    have hOpens : ∀ name, opensComment name = false ↔ name.toList.head? ≠ some '#' := fun name =>
      decide_eq_false_iff_not
    constructor
    · intro hRead
      have hLegible := legible_of_parseSnapshot hRead
      constructor
      · intro name hName
        exact ⟨hLegible.node name hName, (hOpens name).mp (hLegible.node_opens name hName)⟩
      · intro transfer hTransfer
        exact ⟨hLegible.source transfer hTransfer,
          (hOpens transfer.source).mp (hLegible.source_opens transfer hTransfer),
          hLegible.target transfer hTransfer⟩
    · rintro ⟨hNodes, hTransfers⟩
      apply parseSnapshot_fixture_of_legible
      constructor
      · exact ⟨fun name hName => (hNodes name hName).1,
          fun transfer hTransfer => (hTransfers transfer hTransfer).1,
          fun transfer hTransfer => (hTransfers transfer hTransfer).2.2⟩
      · exact fun name hName => (hOpens name).mpr (hNodes name hName).2
      · exact fun transfer hTransfer =>
          (hOpens transfer.source).mpr (hTransfers transfer hTransfer).2.1
  · exact fun text snapshot hRead =>
      parseSnapshot_fixture_of_legible (legible_of_parseSnapshot hRead)

/-- A receiver may have a name that opens with a number sign, a sender may not. -/
example :
    parseSnapshot (Snapshot.fixture ⟨7, .empty, [⟨"A", "#B", 1⟩]⟩) =
        .ok ⟨7, .empty, [⟨"A", "#B", 1⟩]⟩ ∧
      parseSnapshot (Snapshot.fixture ⟨7, .empty, [⟨"#A", "B", 1⟩]⟩) = .ok ⟨7, .empty, []⟩ := by
  decide +kernel

end Scenario
end TokenNet
