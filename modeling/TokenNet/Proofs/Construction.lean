import TokenNet.Proofs.Configurations
import TokenNet.Proofs.Drained

namespace TokenNet

/-!
# Building networks

A configuration that is not sound is refused for its first entry that cannot be added to those
before it, and nodes come before links (`Config.Objection`, `Network.ofConfig_eq_error_iff`).
-/

/-- A name has a character and none that is white space. -/
theorem Network.isNodeName_iff {name : String} :
    isNodeName name = true ↔ name ≠ "" ∧ ∀ c ∈ name.toList, Text.isBlank c = false := by
  simp [isNodeName]

/-! ### The first entry that cannot be added -/

/-- Why a node is not added to those that have the given names. -/
inductive InitialNode.Refusal (names : List String) (node : InitialNode) : NetworkError → Prop where
  /-- Nothing can have this name. -/
  | invalidName (hName : Network.isNodeName node.name = false) :
      Refusal names node (.invalidName node.name)
  /-- The name has been given away. -/
  | duplicateNode (hName : Network.isNodeName node.name = true) (hTaken : node.name ∈ names) :
      Refusal names node (.duplicateNode node.name)

/-- Why a link between nodes of the given names is not added to other links. -/
inductive Link.Refusal (names : List String) (links : List Link) (link : Link) :
    NetworkError → Prop where
  /-- There is no sender. -/
  | unknownSource (hSource : link.source ∉ names) :
      Refusal names links link (.nodeNotFound link.source)
  /-- There is no receiver. -/
  | unknownTarget (hSource : link.source ∈ names) (hTarget : link.target ∉ names) :
      Refusal names links link (.nodeNotFound link.target)
  /-- The sender is the receiver. -/
  | selfLink (hSource : link.source ∈ names) (hLoop : link.source = link.target) :
      Refusal names links link (.selfLink link.source)
  /-- The link has been added before. -/
  | duplicateLink (hSource : link.source ∈ names) (hTarget : link.target ∈ names)
      (hDistinct : link.source ≠ link.target) (hListed : link ∈ links) :
      Refusal names links link (.duplicateLink link.source link.target)

/-- What is the matter with the first entry of a configuration that cannot be added to those before
it. -/
inductive Config.Objection (config : Config) : NetworkError → Prop where
  /-- It is a node. -/
  | node {earlier later : List InitialNode} {node : InitialNode} {error : NetworkError}
      (hNodes : config.nodes = earlier ++ node :: later)
      (hSound : Config.Sound { config with nodes := earlier, links := [] })
      (hCause : node.Refusal (earlier.map InitialNode.name) error) : Objection config error
  /-- It is a link. -/
  | link {earlier later : List Link} {link : Link} {error : NetworkError}
      (hLinks : config.links = earlier ++ link :: later)
      (hSound : Config.Sound { config with links := earlier })
      (hCause : link.Refusal (config.nodes.map InitialNode.name) earlier error) :
      Objection config error

namespace Network

variable {net : Network} {config : Config} {error : NetworkError}

theorem withNode_eq_error_iff {node : InitialNode} {names : List String}
    (hOpen : net.started = false) (hNames : ∀ name, name ∈ net.nodes.keys ↔ name ∈ names) :
    net.withNode node = .error error ↔ node.Refusal names error := by
  have hTaken : net.nodes.contains node.name = true ↔ node.name ∈ names :=
    SortedMap.contains_iff.trans (hNames _)
  unfold withNode
  constructor
  · intro hRefused
    split_ifs at hRefused with hStarted hName hKnown
    · exact absurd hStarted (by simp [hOpen])
    · cases hRefused
      exact InitialNode.Refusal.invalidName (by simpa using hName)
    · cases hRefused
      exact InitialNode.Refusal.duplicateNode (by simpa using hName) (hTaken.mp hKnown)
  · intro hCause
    cases hCause with
    | invalidName hName => simp [hOpen, hName]
    | duplicateNode hName hMember => simp [hOpen, hName, hTaken.mpr hMember]

theorem withLink_eq_error_iff {link : Link} {names : List String} {links : List Link}
    (hWired : Wired net.nodes net.channels) (hOpen : net.started = false)
    (hNames : ∀ name, name ∈ net.nodes.keys ↔ name ∈ names)
    (hLinks : ∀ {link}, link ∈ links ↔ net.channels.contains link = true) :
    net.withLink link = .error error ↔ link.Refusal names links error := by
  have hKnown : ∀ {name node}, net.nodes.get? name = some node → name ∈ names :=
    fun hNode => (hNames _).mp (SortedMap.mem_keys_of_get? hNode)
  have hUnknown : ∀ {name}, net.nodes.get? name = none ↔ name ∉ names := fun {name} =>
    SortedMap.get?_eq_none_iff.trans (not_congr (hNames name))
  have hListed : ∀ {source}, net.nodes.get? link.source = some source →
      (source.outbound.contains link.target = true ↔ link ∈ links) := fun hSource =>
    SortedMap.contains_iff.trans ((hWired.mem_outbound_iff hSource).trans hLinks.symm)
  unfold withLink
  rw [hOpen, if_neg Bool.false_ne_true]
  cases hSource : net.nodes.get? link.source with
  | none =>
      have hMissing := hUnknown.mp hSource
      constructor
      · rintro ⟨⟩
        exact Link.Refusal.unknownSource hMissing
      · rintro (- | ⟨hFound, -⟩ | ⟨hFound, -⟩ | ⟨hFound, -⟩)
        · rfl
        all_goals exact absurd hFound hMissing
  | some source =>
      have hStart := hKnown hSource
      cases hTarget : net.nodes.get? link.target with
      | none =>
          have hMissing := hUnknown.mp hTarget
          constructor
          · rintro ⟨⟩
            exact Link.Refusal.unknownTarget hStart hMissing
          · rintro (hAbsent | - | ⟨-, hLoop⟩ | ⟨-, hFound, -⟩)
            · exact absurd hStart hAbsent
            · rfl
            · exact absurd (hLoop ▸ hStart) hMissing
            · exact absurd hFound hMissing
      | some target =>
          have hFinish := hKnown hTarget
          dsimp only
          constructor
          · intro hRefused
            split_ifs at hRefused with hLoop hOld
            · cases hRefused
              exact Link.Refusal.selfLink hStart hLoop
            · cases hRefused
              exact Link.Refusal.duplicateLink hStart hFinish hLoop ((hListed hSource).mp hOld)
          · rintro (hAbsent | ⟨-, hAbsent⟩ | ⟨-, hLoop⟩ | ⟨-, -, hDistinct, hOld⟩)
            · exact absurd hStart hAbsent
            · exact absurd hFinish hAbsent
            · rw [if_pos hLoop]
            · rw [if_neg hDistinct, if_pos ((hListed hSource).mpr hOld)]

/-- What the network of a configuration consists of. -/
theorem parts_of_ofConfig (hBuilt : ofConfig config = .ok net) :
    net.started = false ∧
      (∀ name, name ∈ net.nodes.keys ↔ name ∈ config.nodes.map InitialNode.name) ∧
      ∀ {link}, link ∈ config.links ↔ net.channels.contains link = true := by
  obtain ⟨between, hNodes, hRest⟩ := ofConfig_eq_ok_iff.mp hBuilt
  obtain ⟨-, -, -, rfl⟩ := (foldlM_withNode_eq_ok_iff rfl).mp hNodes
  have hFresh := fresh_withNodes hNodes
  have hJoined := joined_withLinks hFresh hRest
  have hLinks : net.links.toList = config.links := hJoined.links_eq
  refine ⟨?_, fun name => ?_, hLinks ▸ (orderly_ofConfig hBuilt).mem_links_iff⟩
  · rw [hJoined.others]
    rfl
  · rw [hJoined.keys_eq, keys_withNodes]
    exact or_iff_left List.not_mem_nil

/-- Building is refused for the first node that cannot be added to those before it, or else for the
first such link. -/
theorem ofConfig_eq_error_iff_exists :
    ofConfig config = .error error ↔
      (∃ earlier node later between, config.nodes = earlier ++ node :: later ∧
        ofConfig { config with nodes := earlier, links := [] } = .ok between ∧
        between.withNode node = .error error) ∨
      ∃ earlier link later between, config.links = earlier ++ link :: later ∧
        ofConfig { config with links := earlier } = .ok between ∧
        between.withLink link = .error error := by
  have hNodesOnly : ∀ {nodes between},
      ofConfig { config with nodes := nodes, links := [] } = .ok between ↔
        nodes.foldlM withNode (empty config.seed config.maxDelay) = .ok between := by
    intro nodes between
    rw [ofConfig_eq_ok_iff]
    exact ⟨fun ⟨_, hNodes, hNone⟩ => by cases hNone; exact hNodes,
      fun hNodes => ⟨between, hNodes, rfl⟩⟩
  simp only [hNodesOnly, ofConfig_eq_ok_iff]
  unfold ofConfig
  cases hNodes : config.nodes.foldlM withNode (empty config.seed config.maxDelay) with
  | error refused =>
      rw [← foldlM_eq_error_iff, hNodes]
      refine ⟨Or.inl, fun hEither => hEither.elim id ?_⟩
      rintro ⟨_, _, _, _, _, ⟨_, hBuilt, -⟩, -⟩
      cases hBuilt
  | ok between =>
      rw [← foldlM_eq_error_iff, hNodes]
      refine Iff.trans foldlM_eq_error_iff ⟨fun ⟨earlier, link, later, middle, hItems⟩ => ?_, ?_⟩
      · obtain ⟨hLinks, hEarlier, hRefused⟩ := hItems
        exact Or.inr ⟨earlier, link, later, middle, hLinks, ⟨between, rfl, hEarlier⟩, hRefused⟩
      · rintro (hNever | ⟨earlier, link, later, middle, hLinks, ⟨_, hSame, hEarlier⟩, hRefused⟩)
        · cases hNever
        · cases hSame
          exact ⟨earlier, link, later, middle, hLinks, hEarlier, hRefused⟩

/-- A configuration is refused exactly for what is the matter with the first entry that cannot be
added to those before it. -/
theorem ofConfig_eq_error_iff : ofConfig config = .error error ↔ config.Objection error := by
  rw [ofConfig_eq_error_iff_exists]
  constructor
  · rintro (⟨earlier, node, later, between, hNodes, hBuilt, hRefused⟩ |
      ⟨earlier, link, later, between, hLinks, hBuilt, hRefused⟩)
    · obtain ⟨hOpen, hNames, -⟩ := parts_of_ofConfig hBuilt
      exact Config.Objection.node hNodes (exists_ofConfig_iff.mp ⟨between, hBuilt⟩)
        ((withNode_eq_error_iff hOpen hNames).mp hRefused)
    · obtain ⟨hOpen, hNames, hListed⟩ := parts_of_ofConfig hBuilt
      have hWired := (fresh_ofConfig hBuilt).wellFormed.wired
      exact Config.Objection.link hLinks (exists_ofConfig_iff.mp ⟨between, hBuilt⟩)
        ((withLink_eq_error_iff hWired hOpen hNames hListed).mp hRefused)
  · rintro (⟨hNodes, hSound, hCause⟩ | ⟨hLinks, hSound, hCause⟩)
    · obtain ⟨between, hBuilt⟩ := exists_ofConfig_iff.mpr hSound
      obtain ⟨hOpen, hNames, -⟩ := parts_of_ofConfig hBuilt
      exact Or.inl ⟨_, _, _, between, hNodes, hBuilt,
        (withNode_eq_error_iff hOpen hNames).mpr hCause⟩
    · obtain ⟨between, hBuilt⟩ := exists_ofConfig_iff.mpr hSound
      obtain ⟨hOpen, hNames, hListed⟩ := parts_of_ofConfig hBuilt
      have hWired := (fresh_ofConfig hBuilt).wellFormed.wired
      exact Or.inr ⟨_, _, _, between, hLinks, hBuilt,
        (withLink_eq_error_iff hWired hOpen hNames hListed).mpr hCause⟩

/-- The first link that cannot be added decides, and no node is looked at again. -/
example :
    ofConfig { pairConfig with links := [⟨"A", "B"⟩, ⟨"B", "B"⟩, ⟨"A", "C"⟩] } =
      .error (.selfLink "B") := by
  decide +kernel

end Network

end TokenNet
