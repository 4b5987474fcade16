import TokenNet.Proofs.Lines
import TokenNet.Proofs.Readers
import TokenNet.Scenario.Topology

namespace TokenNet
namespace Scenario

/-!
# What topologies can say

The content lines of a topology are a count, as many nodes as it says, and links
(`Scenario.IsTopology`); these are the texts that are read, and what is read are the nodes and the
links in order (`Scenario.parseTopology_eq_ok_iff`).  What a line has to be is settled by the lines
before it (`Scenario.Follows`), and the first line that is something else is blamed.  Only if there is
no such line, and nodes are missing at the end, the whole text is
(`Scenario.parseTopology_eq_error`).
-/

/-! ### The grammar -/

/-- The line is a single field that spells the count. -/
def IsCount (line : Text.ContentLine) (count : UInt64) : Prop :=
  ∃ field, line.fields = [field] ∧ Text.Spells field count

/-- The line gives the name of the node and spells its tokens. -/
def IsNode (line : Text.ContentLine) (node : InitialNode) : Prop :=
  ∃ name amount, line.fields = [name, amount] ∧ node.name = String.ofList name ∧
    Text.Spells amount node.tokens

/-- The line gives the two ends of the link. -/
def IsLink (line : Text.ContentLine) (link : Link) : Prop :=
  ∃ source target, line.fields = [source, target] ∧
    link = ⟨String.ofList source, String.ofList target⟩

/-- The lines are a count, as many nodes, and links: those of the configuration, which has the usual
seed and the usual bound on delays. -/
inductive IsTopology : List Text.ContentLine → Config → Prop where
  /-- A count is followed by the nodes, and these by the links. -/
  | intro {first : Text.ContentLine} {count : UInt64} {nodeLines linkLines : List Text.ContentLine}
      {nodes : List InitialNode} {links : List Link} (hCount : IsCount first count)
      (hLength : nodeLines.length = count.toNat) (hNodes : List.Forall₂ IsNode nodeLines nodes)
      (hLinks : List.Forall₂ IsLink linkLines links) :
      IsTopology (first :: (nodeLines ++ linkLines)) { nodes := nodes, links := links }

/-- Whether a line can come after some others: the first line has to be a count, as many lines as it
says have to be nodes, and all others links. -/
def Follows (earlier : List Text.ContentLine) (line : Text.ContentLine) : Prop :=
  match earlier with
  | [] => ∃ count, IsCount line count
  | first :: others => ∀ count, IsCount first count →
      if others.length < count.toNat then ∃ node, IsNode line node else ∃ link, IsLink line link

/-- Every line can come after those before it. -/
def Lawful (lines : List Text.ContentLine) : Prop :=
  ∀ earlier line later, lines = earlier ++ line :: later → Follows earlier line

/-- Every line can come after those before it, up to the line with the number. -/
def BreaksAt (lines : List Text.ContentLine) (number : Nat) : Prop :=
  ∃ earlier line later, lines = earlier ++ line :: later ∧ Lawful earlier ∧
    ¬ Follows earlier line ∧ number = line.number

/-- There is no count, or there are fewer lines behind it than it says. -/
def EndsEarly (lines : List Text.ContentLine) : Prop :=
  lines = [] ∨ ∃ first rest count, lines = first :: rest ∧ IsCount first count ∧
    rest.length < count.toNat

variable {lines rest nodeLines linkLines : List Text.ContentLine} {first line : Text.ContentLine}
  {count : UInt64} {error : ParseError}

theorem IsCount.unique {other : UInt64} (hCount : IsCount line count) (hOther : IsCount line other) :
    count = other := by
  obtain ⟨field, hLine, hSpells⟩ := hCount
  obtain ⟨same, hSame, hAlso⟩ := hOther
  obtain rfl : field = same := by simpa [hLine] using hSame
  rw [← Text.readWord?_eq_some_iff] at hSpells hAlso
  exact Option.some.inj (hSpells.symm.trans hAlso)

theorem follows_cons_iff {others : List Text.ContentLine} (hCount : IsCount first count) :
    Follows (first :: others) line ↔
      if others.length < count.toNat then ∃ node, IsNode line node
      else ∃ link, IsLink line link := by
  constructor
  · exact fun hFollows => hFollows count hCount
  · intro hLine other hOther
    rwa [← hCount.unique hOther]

theorem lawful_nil : Lawful [] := by
  intro earlier line later hLines
  simp at hLines

/-- Behind a count, as many lines have to be nodes, and those behind them links. -/
theorem lawful_cons (hCount : IsCount first count)
    (hNodes : ∀ line ∈ rest.take count.toNat, ∃ node, IsNode line node)
    (hLinks : ∀ line ∈ rest.drop count.toNat, ∃ link, IsLink line link) :
    Lawful (first :: rest) := by
  intro earlier line later hLines
  cases earlier with
  | nil =>
      obtain ⟨rfl, -⟩ := List.cons.inj hLines
      exact ⟨count, hCount⟩
  | cons other others =>
      rw [List.cons_append] at hLines
      obtain ⟨rfl, rfl⟩ := List.cons.inj hLines
      rw [follows_cons_iff hCount]
      split
      · -- The line is the first of those that are left to be nodes.
        rename_i hFew
        obtain ⟨more, hMore⟩ := Nat.exists_eq_add_of_lt hFew
        apply hNodes
        have hPlace : count.toNat - others.length = more + 1 := by omega
        rw [List.take_append, hPlace, List.take_succ_cons]
        exact List.mem_append_right _ List.mem_cons_self
      · -- All nodes are in front of the line.
        rename_i hMany
        apply hLinks
        rw [List.drop_append, Nat.sub_eq_zero_of_le (Nat.le_of_not_lt hMany)]
        exact List.mem_append_right _ List.mem_cons_self

/-- As long as nodes are missing, every line is one. -/
theorem lawful_nodes (hCount : IsCount first count) (hFew : rest.length ≤ count.toNat)
    (hNodes : ∀ line ∈ rest, ∃ node, IsNode line node) : Lawful (first :: rest) := by
  apply lawful_cons hCount
  · rwa [List.take_of_length_le hFew]
  · simp [List.drop_eq_nil_of_le hFew]

/-- Behind the last node, every line is a link. -/
theorem lawful_links (hCount : IsCount first count) (hLength : nodeLines.length = count.toNat)
    (hNodes : ∀ line ∈ nodeLines, ∃ node, IsNode line node)
    (hLinks : ∀ line ∈ linkLines, ∃ link, IsLink line link) :
    Lawful (first :: (nodeLines ++ linkLines)) := by
  apply lawful_cons hCount
  · rwa [← hLength, List.take_left]
  · rwa [← hLength, List.drop_left]

/-! ### Reading -/

/-- Reads a node from its line. -/
def readNode (line : Text.ContentLine) : Except ParseError InitialNode :=
  match line.fields with
  | [name, tokens] => do
      let tokens ← number line.number .tokenCount tokens
      return ⟨String.ofList name, tokens⟩
  | found => .error ⟨line.number, .expectedTwoFields found.length⟩

/-- Reads a link from its line. -/
def readLink (line : Text.ContentLine) : Except ParseError Link :=
  match line.fields with
  | [source, target] => .ok ⟨String.ofList source, String.ofList target⟩
  | found => .error ⟨line.number, .expectedTwoFields found.length⟩

theorem reads_count : Reads readNodeCount IsCount := by
  constructor
  · intro line count
    unfold readNodeCount IsCount
    split
    · rename_i field hLine
      rw [number_eq_ok_iff]
      simp [hLine]
    · rename_i hOther
      simpa using fun field hLine => absurd hLine (hOther field)
  · intro line error hRefused
    unfold readNodeCount at hRefused
    split at hRefused
    · rw [(number_eq_error_iff.mp hRefused).2]
    · cases hRefused
      rfl

theorem reads_node : Reads readNode IsNode := by
  constructor
  · intro line node
    unfold readNode IsNode
    split
    · rename_i name amount hLine
      rw [number_bind_eq_ok_iff]
      constructor
      · rintro ⟨tokens, hTokens, hNode⟩
        cases hNode
        exact ⟨name, amount, hLine, rfl, hTokens⟩
      · rintro ⟨other, same, hSame, hName, hTokens⟩
        obtain ⟨rfl, rfl⟩ : name = other ∧ amount = same := by simpa [hLine] using hSame
        exact ⟨node.tokens, hTokens, by rw [← hName]; rfl⟩
    · rename_i hOther
      simpa using fun name amount hLine => absurd hLine (hOther name amount)
  · intro line error hRefused
    unfold readNode at hRefused
    split at hRefused
    · rcases number_bind_eq_error_iff.mp hRefused with ⟨-, rfl⟩ | ⟨word, -, hNext⟩
      · rfl
      · cases hNext
    · cases hRefused
      rfl

theorem reads_link : Reads readLink IsLink := by
  constructor
  · intro line link
    unfold readLink IsLink
    split
    · rename_i source target hLine
      simp [hLine, eq_comm]
    · rename_i hOther
      simpa using fun source target hLine => absurd hLine (hOther source target)
  · intro line error hRefused
    unfold readLink at hRefused
    split at hRefused
    · cases hRefused
    · cases hRefused
      rfl

theorem readLinks_cons (line : Text.ContentLine) (rest : List Text.ContentLine) :
    readLinks (line :: rest) = do
      let link ← readLink line
      let links ← readLinks rest
      return link :: links := by
  obtain ⟨number, _ | ⟨source, _ | ⟨target, _ | ⟨more, others⟩⟩⟩⟩ := line <;> rfl

theorem readNodes_cons (left : Nat) (line : Text.ContentLine) (rest : List Text.ContentLine) :
    readNodes (left + 1) (line :: rest) = do
      let node ← readNode line
      let (nodes, links) ← readNodes left rest
      return (node :: nodes, links) := by
  obtain ⟨number, _ | ⟨name, _ | ⟨tokens, _ | ⟨more, others⟩⟩⟩⟩ := line
  case cons.cons.nil =>
    simp only [readNodes, readNode]
    cases Scenario.number number .tokenCount tokens <;> rfl
  all_goals rfl

theorem readLinks_eq (lines : List Text.ContentLine) : readLinks lines = lines.mapM readLink := by
  induction lines with
  | nil => rfl
  | cons line rest ih => rw [readLinks_cons, List.mapM_cons, ih]

/-- The lines of the nodes are read as nodes, and those behind them as links. -/
theorem readNodes_append (nodeLines linkLines : List Text.ContentLine) :
    readNodes nodeLines.length (nodeLines ++ linkLines) = do
      let nodes ← nodeLines.mapM readNode
      let links ← linkLines.mapM readLink
      return (nodes, links) := by
  induction nodeLines with
  | nil => simp [readNodes, readLinks_eq]
  | cons line rest ih =>
      rw [List.length_cons, List.cons_append, readNodes_cons, ih, List.mapM_cons]
      simp only [bind_assoc, pure_bind]

/-- If the lines of the nodes are too few, the text is refused behind the last one. -/
theorem readNodes_missing (lines : List Text.ContentLine) (left : Nat) :
    readNodes (lines.length + (left + 1)) lines =
      lines.mapM readNode >>= fun _ => .error ⟨0, .missingNodes (left + 1)⟩ := by
  induction lines with
  | nil => simp [readNodes]
  | cons line rest ih =>
      rw [List.length_cons, Nat.add_right_comm, readNodes_cons, ih, List.mapM_cons]
      simp only [bind_assoc, pure_bind]
      rfl

/-! ### Texts -/

variable {text : String}

theorem parseTopology_nil (hText : Text.contentLines text = []) :
    parseTopology text = .error ⟨0, .missingNodeCount⟩ := by
  simp [parseTopology, hText]

theorem parseTopology_cons (hText : Text.contentLines text = first :: rest) :
    parseTopology text = do
      let count ← readNodeCount first
      let (nodes, links) ← readNodes count.toNat rest
      return { nodes := nodes, links := links } := by
  simp [parseTopology, hText]

/-- With enough lines behind the count, the nodes are read, then the links. -/
theorem parseTopology_append (hText : Text.contentLines text = first :: (nodeLines ++ linkLines))
    (hCount : IsCount first count) (hLength : nodeLines.length = count.toNat) :
    parseTopology text = do
      let nodes ← nodeLines.mapM readNode
      let links ← linkLines.mapM readLink
      return { nodes := nodes, links := links } := by
  rw [parseTopology_cons hText, reads_count.ok_iff.mpr hCount]
  change (readNodes count.toNat (nodeLines ++ linkLines) >>= _) = _
  rw [← hLength, readNodes_append]
  simp only [bind_assoc, pure_bind]

/-- With too few of them, there is nothing behind the last node. -/
theorem parseTopology_missing {left : Nat} (hText : Text.contentLines text = first :: rest)
    (hCount : IsCount first count) (hLeft : count.toNat = rest.length + (left + 1)) :
    parseTopology text = rest.mapM readNode >>= fun _ => .error ⟨0, .missingNodes (left + 1)⟩ := by
  rw [parseTopology_cons hText, reads_count.ok_iff.mpr hCount]
  change (readNodes count.toNat rest >>= _) = _
  rw [hLeft, readNodes_missing, bind_assoc]
  rfl

/-- The lines behind a count are enough for the nodes, or some nodes are missing. -/
theorem enough_or_missing (rest : List Text.ContentLine) (count : Nat) :
    (∃ nodeLines linkLines, rest = nodeLines ++ linkLines ∧ nodeLines.length = count) ∨
      ∃ left, count = rest.length + (left + 1) := by
  rcases Nat.lt_or_ge rest.length count with hFew | hEnough
  · obtain ⟨left, hLeft⟩ := Nat.exists_eq_add_of_lt hFew
    exact Or.inr ⟨left, hLeft⟩
  · exact Or.inl ⟨rest.take count, rest.drop count, (List.take_append_drop count rest).symm,
      List.length_take_of_le hEnough⟩

/-- The texts that are read are the topologies, and they are read as what they list. -/
theorem parseTopology_eq_ok_iff {config : Config} :
    parseTopology text = .ok config ↔ IsTopology (Text.contentLines text) config := by
  constructor
  · intro hRead
    cases hText : Text.contentLines text with
    | nil => simp [parseTopology_nil hText] at hRead
    | cons first rest =>
        have hFirst := hRead
        rw [parseTopology_cons hText, bind_eq_ok_iff] at hFirst
        obtain ⟨count, hCount, -⟩ := hFirst
        rw [reads_count.ok_iff] at hCount
        rcases enough_or_missing rest count.toNat with
          ⟨nodeLines, linkLines, rfl, hLength⟩ | ⟨left, hLeft⟩
        · rw [parseTopology_append hText hCount hLength, bind_eq_ok_iff] at hRead
          obtain ⟨nodes, hNodes, hRest⟩ := hRead
          obtain ⟨links, hLinks, hConfig⟩ := bind_eq_ok_iff.mp hRest
          cases hConfig
          exact .intro hCount hLength (reads_node.mapM_eq_ok_iff.mp hNodes)
            (reads_link.mapM_eq_ok_iff.mp hLinks)
        · rw [parseTopology_missing hText hCount hLeft, bind_eq_ok_iff] at hRead
          obtain ⟨nodes, -, hNone⟩ := hRead
          cases hNone
  · intro hTopology
    cases hText : Text.contentLines text with
    | nil =>
        rw [hText] at hTopology
        cases hTopology
    | cons first rest =>
        rw [hText] at hTopology
        cases hTopology with
        | intro hCount hLength hNodes hLinks =>
            rw [parseTopology_append hText hCount hLength, reads_node.mapM_eq_ok_iff.mpr hNodes,
              reads_link.mapM_eq_ok_iff.mpr hLinks]
            rfl

/-- The first line that is no node is blamed, whatever there is behind the nodes. -/
theorem breaksAt_of_nodes (hCount : IsCount first count) (hLength : lines.length ≤ count.toNat)
    (hRefused : lines.mapM readNode = .error error) (more : List Text.ContentLine) :
    BreaksAt (first :: (lines ++ more)) error.line := by
  obtain ⟨earlier, line, later, rfl, hEarlier, hLine, hBlame⟩ := reads_node.mapM_eq_error hRefused
  have hFew : earlier.length < count.toNat := by
    rw [List.length_append, List.length_cons] at hLength
    omega
  refine ⟨first :: earlier, line, later ++ more, by simp, lawful_nodes hCount hFew.le hEarlier, ?_,
    hBlame⟩
  rwa [follows_cons_iff hCount, if_pos hFew]

/-- Behind the nodes, it is the first line that is no link. -/
theorem breaksAt_of_links (hCount : IsCount first count) (hLength : nodeLines.length = count.toNat)
    (hNodes : ∀ line ∈ nodeLines, ∃ node, IsNode line node)
    (hRefused : linkLines.mapM readLink = .error error) :
    BreaksAt (first :: (nodeLines ++ linkLines)) error.line := by
  obtain ⟨earlier, line, later, rfl, hEarlier, hLine, hBlame⟩ := reads_link.mapM_eq_error hRefused
  refine ⟨first :: (nodeLines ++ earlier), line, later, by simp,
    lawful_links hCount hLength hNodes hEarlier, ?_, hBlame⟩
  rwa [follows_cons_iff hCount, if_neg (by simp [hLength])]

/-- A text that is no topology has a first line that cannot come after those before it, which is
blamed, or it ends too early. -/
theorem parseTopology_eq_error (hRefused : parseTopology text = .error error) :
    BreaksAt (Text.contentLines text) error.line ∨
      (Lawful (Text.contentLines text) ∧ EndsEarly (Text.contentLines text) ∧ error.line = 0) := by
  cases hText : Text.contentLines text with
  | nil =>
      rw [parseTopology_nil hText] at hRefused
      cases hRefused
      exact Or.inr ⟨lawful_nil, Or.inl rfl, rfl⟩
  | cons first rest =>
      have hFirst := hRefused
      rw [parseTopology_cons hText, bind_eq_error_iff] at hFirst
      rcases hFirst with hCount | ⟨count, hCount, -⟩
      · exact Or.inl ⟨[], first, rest, rfl, lawful_nil, reads_count.not_means hCount,
          reads_count.blames hCount⟩
      rw [reads_count.ok_iff] at hCount
      rcases enough_or_missing rest count.toNat with
        ⟨nodeLines, linkLines, rfl, hLength⟩ | ⟨left, hLeft⟩
      · rw [parseTopology_append hText hCount hLength, bind_eq_error_iff] at hRefused
        rcases hRefused with hNodes | ⟨nodes, hNodes, hRest⟩
        · exact Or.inl (breaksAt_of_nodes hCount hLength.le hNodes linkLines)
        · rcases bind_eq_error_iff.mp hRest with hLinks | ⟨links, -, hNone⟩
          · exact Or.inl
              (breaksAt_of_links hCount hLength (reads_node.means_of_mapM hNodes) hLinks)
          · cases hNone
      · rw [parseTopology_missing hText hCount hLeft, bind_eq_error_iff] at hRefused
        have hFew : rest.length < count.toNat := by omega
        rcases hRefused with hNodes | ⟨nodes, hNodes, hMissing⟩
        · have hBreaks := breaksAt_of_nodes hCount hFew.le hNodes []
          rw [List.append_nil] at hBreaks
          exact Or.inl hBreaks
        · cases hMissing
          exact Or.inr ⟨lawful_nodes hCount hFew.le (reads_node.means_of_mapM hNodes),
            Or.inr ⟨first, rest, count, rfl, hCount, hFew⟩, rfl⟩

/-- The content lines of a text are those between line feeds that, trimmed of white space, are neither
empty nor comments, with their numbers.  The text is read exactly if they are a count, as many nodes
and links, and is read as those.  Otherwise the first of them that cannot come after those before it is
blamed, and if there is none, there is no count or nodes are missing, for which line zero is blamed. -/
theorem parseTopology_grammar (text : String) :
    Text.contentLines text =
      ((text.toList.splitOn '\n').zipIdx 1).filterMap
        (fun entry => Text.contentOf? entry.2 entry.1) ∧
    (∀ config, parseTopology text = .ok config ↔ IsTopology (Text.contentLines text) config) ∧
    ∀ error, parseTopology text = .error error →
      BreaksAt (Text.contentLines text) error.line ∨
        (Lawful (Text.contentLines text) ∧ EndsEarly (Text.contentLines text) ∧ error.line = 0) :=
  ⟨Text.contentLines_eq text, fun _ => parseTopology_eq_ok_iff,
    fun _ hRefused => parseTopology_eq_error hRefused⟩

/-- Lines without content count for the number of the line to blame, but not for the nodes. -/
example : parseTopology "1\n# a node\n\nA 1\nA B C\n" = .error ⟨5, .expectedTwoFields 3⟩ := by
  decide +kernel

end Scenario
end TokenNet
