import TokenNet.Form.Channel
import TokenNet.Form.Clock
import TokenNet.Form.Journal
import TokenNet.Form.Network
import TokenNet.Form.Node
import TokenNet.Proofs.JsonForms
import TokenNet.Snapshot.Digest

namespace TokenNet

/-!
# The forms of networks and their parts

Whatever texts and words a message, a snapshot, a channel, a journal or a configuration holds, it is
read back from its text in one line, and the text belongs to it alone (`JsonForm.lossless_forms`).  So
snapshots have their digest taken of the same text exactly if they are equal.  The numbers of channels
are counts without a bound here, so a node is read back if they fit into words (`Node.NumbersFit`).

Each type has a record or a variant of fields whose own forms lose nothing.
-/

open JsonForm Json

/-! ### Messages and snapshots -/

instance : Lawful Link where
  canonical _ := canonical_record (by simp [Lawful.canonical])
  ofJson?_toJson _ := bind_record? (by decide) rfl (by simp [required_toJson])

instance : Lawful Transfer where
  canonical _ := canonical_record (by simp [Lawful.canonical])
  ofJson?_toJson _ := bind_record? (by decide) rfl (by simp [required_toJson])

instance : Lawful Report where
  canonical _ := canonical_record (by simp [Lawful.canonical])
  ofJson?_toJson _ := bind_record? (by decide) rfl (by simp [required_toJson])

instance : Lawful Snapshot where
  canonical _ := canonical_record (by simp [Lawful.canonical])
  ofJson?_toJson _ := bind_record? (by decide) rfl (by simp [required_toJson])

/-- The kind of a message stands under a field name, where a text names it. -/
theorem Message.kindName?_toJson (message : Message) (kind : String) :
    kindName? (toJson message) (toJson kind) = some kind := by
  cases message <;> exact keyText?_escape kind

instance : Lawful Message where
  canonical message := by
    cases message <;> exact canonical_record (by simp [Lawful.canonical])
  ofJson?_toJson message := by
    cases message <;>
      exact bind_record? (by decide) rfl (by simp [required_toJson, Message.kindName?_toJson])

/-! ### Channels, clocks and generators -/

instance : Lawful Parcel where
  canonical _ := canonical_record (by simp [Lawful.canonical])
  ofJson?_toJson _ := bind_record? (by decide) rfl (by simp [required_toJson])

instance : Lawful Channel where
  canonical _ := canonical_record (by simp [Lawful.canonical])
  ofJson?_toJson _ := bind_record? (by decide) rfl (by simp [required_toJson])

instance : Lawful Clock where
  canonical _ := canonical_record (by simp [Lawful.canonical])
  ofJson?_toJson _ := bind_record? (by decide) rfl (by simp [required_toJson])

instance : Lawful Generator where
  canonical _ := canonical_record (by simp [Lawful.canonical])
  ofJson?_toJson _ := bind_record? (by decide) rfl (by simp [required_toJson])

/-! ### Recordings and nodes -/

instance : Lawful Recording where
  canonical _ := canonical_record (by simp [Lawful.canonical])
  ofJson?_toJson _ := bind_record? (by decide) rfl (by simp [required_toJson])

namespace Node

/-- The numbers of the channels of a node are words, as numbers of places in a memory are. -/
def NumbersFit (node : Node) : Prop :=
  (∀ entry ∈ node.outbound.toList, entry.2 < UInt64.size) ∧
    ∀ entry ∈ node.inbound.toList, entry.2 < UInt64.size

theorem canonical_toJson (node : Node) : Canonical (toJson node) := by
  have hChannels : ∀ map : SortedMap String Nat, Canonical (toJson map) := fun map =>
    canonical_nameMap fun entry _ => .number entry.2
  exact canonical_record (by simp [Lawful.canonical, hChannels])

theorem ofJson?_toJson {node : Node} (hFit : node.NumbersFit) : ofJson? (toJson node) = some node := by
  have hOutbound : required (some (toJson node.outbound)) = some node.outbound :=
    ofJson?_nameMap fun entry hEntry => ofJson?_count (hFit.1 entry hEntry)
  have hInbound : required (some (toJson node.inbound)) = some node.inbound :=
    ofJson?_nameMap fun entry hEntry => ofJson?_count (hFit.2 entry hEntry)
  exact bind_record? (by decide) rfl (by simp [required_toJson, hOutbound, hInbound])

end Node

/-! ### Configurations and control events -/

instance : Lawful InitialNode where
  canonical _ := canonical_record (by simp [Lawful.canonical])
  ofJson?_toJson _ := bind_record? (by decide) rfl (by simp [required_toJson])

instance : Lawful Config where
  canonical _ := canonical_record (by simp [Lawful.canonical])
  ofJson?_toJson _ := bind_record? (by decide) rfl (by simp [optional_toJson])

instance : Lawful ControlEvent where
  canonical event := by
    cases event <;> exact canonical_variant (canonical_record (by simp [Lawful.canonical]))
  ofJson?_toJson event := by
    cases event with
    | passToken source target tokens =>
        refine bind_variant? ?_
        exact bind_record? (by decide) rfl (by simp [required_toJson])
    | snapshot node =>
        refine bind_variant? ?_
        exact bind_record? (by decide) rfl (by simp [required_toJson])

/-! ### Events and journals -/

instance : Lawful Event where
  canonical event := by
    cases event <;> exact canonical_variant (canonical_record (by simp [Lawful.canonical]))
  ofJson?_toJson event := by
    cases event <;>
      exact bind_variant? (bind_record? (by decide) rfl (by simp [required_toJson]))

instance : Lawful Journal where
  canonical _ := canonical_record (by simp [Lawful.canonical])
  ofJson?_toJson _ := bind_record? (by decide) rfl (by simp [required_toJson])

/-! ### All of them -/

namespace JsonForm

/-- No form loses anything, and snapshots have the same text to take the digest of only if they are
equal. -/
theorem lossless_forms :
    Lossless (Set.univ : Set Message) ∧ Lossless (Set.univ : Set Transfer) ∧
    Lossless (Set.univ : Set Report) ∧ Lossless (Set.univ : Set Snapshot) ∧
    Lossless (Set.univ : Set Parcel) ∧ Lossless (Set.univ : Set Channel) ∧
    Lossless (Set.univ : Set Recording) ∧ Lossless {node : Node | node.NumbersFit} ∧
    Lossless (Set.univ : Set Event) ∧ Lossless (Set.univ : Set Journal) ∧
    Lossless (Set.univ : Set Clock) ∧ Lossless (Set.univ : Set Generator) ∧
    Lossless (Set.univ : Set ControlEvent) ∧ Lossless (Set.univ : Set Config) ∧
    ∀ snapshot other : Snapshot, snapshot.digestText = other.digestText ↔ snapshot = other := by
  have hNode : Lossless {node : Node | node.NumbersFit} :=
    .of_canonical (fun node _ => node.canonical_toJson) fun _ => Node.ofJson?_toJson
  refine ⟨Lawful.lossless, Lawful.lossless, Lawful.lossless, Lawful.lossless, Lawful.lossless,
    Lawful.lossless, Lawful.lossless, hNode, Lawful.lossless, Lawful.lossless, Lawful.lossless,
    Lawful.lossless, Lawful.lossless, Lawful.lossless, fun snapshot other => ⟨?_, congrArg _⟩⟩
  -- The digest is taken of the text in one line.
  exact fun hSame => Lawful.lossless.injOn (Set.mem_univ _) (Set.mem_univ _) hSame

/-- A node with a name that has to be escaped, and with recordings whose numbers are ordered otherwise
than their spellings. -/
def recordingNode : Node :=
  ⟨"é\"\\\n\x01", 7, SortedMap.ofList [("b", 0), ("c/d", 2)], SortedMap.ofList [("b", 1)],
    SortedMap.ofList
      [(9, ⟨9, 5, SortedSet.ofList [], SortedSet.ofList ["b"], [⟨"b", "é\"\\\n\x01", 2⟩]⟩),
        (10, ⟨10, 7, SortedSet.ofList [], SortedSet.ofList ["b"], []⟩)]⟩

theorem lossless_forms_node :
    recordingNode.NumbersFit ∧ read? (compact recordingNode) = some recordingNode := by
  have hFit : recordingNode.NumbersFit := by
    unfold Node.NumbersFit
    decide +kernel
  obtain ⟨-, -, -, -, -, -, -, hNode, -⟩ := lossless_forms
  exact ⟨hFit, hNode.read?_compact recordingNode hFit⟩

end JsonForm

end TokenNet
