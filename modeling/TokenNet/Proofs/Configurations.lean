import TokenNet.Proofs.Fresh
import TokenNet.Proofs.Renumbering
import TokenNet.Proofs.Sessions

namespace TokenNet

/-!
# The order of a configuration

A configuration is accepted exactly if its names are valid and different and its links join two
different known nodes, none of them twice (`Network.exists_ofConfig_iff`).  None of this goes by the
order of the nodes and links, and neither does the network, but for the numbers of its channels
(`Network.sameButNumbers_ofConfig`).  So configurations that list the same in another order are accepted
or refused alike, and no session can tell their networks apart (`Network.alike_session_of_perm`).
-/

/-- What a configuration has to satisfy for its network to be built. -/
structure Config.Sound (config : Config) : Prop where
  /-- The names can be names of nodes. -/
  valid : ∀ node ∈ config.nodes, Network.isNodeName node.name = true
  /-- No two nodes share a name. -/
  distinct : (config.nodes.map InitialNode.name).Nodup
  /-- A link joins two different nodes. -/
  joins : ∀ link ∈ config.links, link.source ∈ config.nodes.map InitialNode.name ∧
    link.target ∈ config.nodes.map InitialNode.name ∧ link.source ≠ link.target
  /-- No link is listed twice. -/
  unique : config.links.Nodup

/-- Soundness does not go by the order. -/
theorem Config.Sound.perm {config other : Config} (hSound : config.Sound)
    (hNodes : config.nodes.Perm other.nodes) (hLinks : config.links.Perm other.links) :
    other.Sound := by
  have hNames := hNodes.map InitialNode.name
  refine ⟨fun node hNode => hSound.valid node (hNodes.mem_iff.mpr hNode),
    hNames.nodup_iff.mp hSound.distinct, fun link hLink => ?_, hLinks.nodup_iff.mp hSound.unique⟩
  rw [← hNames.mem_iff, ← hNames.mem_iff]
  exact hSound.joins link (hLinks.mem_iff.mpr hLink)

/-! ### Storing in another order -/

/-- Values that are stored under different keys may be stored in any order. -/
theorem SortedMap.insert_comm {κ α : Type} [LT κ] [DecidableLT κ] [DecidableEq κ] [KeyOrder κ]
    (map : SortedMap κ α) {key other : κ} (value found : α) (hDifferent : key ≠ other) :
    (map.insert key value).insert other found = (map.insert other found).insert key value := by
  refine ext_get? fun asked => ?_
  rw [get?_insert, get?_insert, get?_insert, get?_insert]
  by_cases hKey : key = asked
  · subst hKey
    rw [if_neg hDifferent.symm, if_pos rfl, if_pos rfl]
  · rw [if_neg hKey, if_neg hKey]

namespace ChannelTable

theorem get?_rows_insert (table : ChannelTable) (link : Link) (channel : Channel)
    (source : String) :
    (table.insert link channel).rows.get? source =
      if link.source = source then some ((table.row source).insert link.target channel)
      else table.rows.get? source := by
  unfold insert
  rw [SortedMap.get?_insert]
  by_cases hSource : link.source = source
  · rw [if_pos hSource, if_pos hSource, hSource]
  · rw [if_neg hSource, if_neg hSource]

/-- Channels of different links may be stored in any order. -/
theorem insert_comm (table : ChannelTable) {link other : Link} (channel found : Channel)
    (hDifferent : link ≠ other) :
    (table.insert link channel).insert other found =
      (table.insert other found).insert link channel := by
  refine congrArg mk (SortedMap.ext_get? fun source => ?_)
  show ((table.insert link channel).insert other found).rows.get? source =
    ((table.insert other found).insert link channel).rows.get? source
  rw [get?_rows_insert, get?_rows_insert, get?_rows_insert, get?_rows_insert, row_insert,
    row_insert]
  by_cases hSource : link.source = source <;> by_cases hOther : other.source = source
  · have hTargets : link.target ≠ other.target := fun hEqual =>
      hDifferent (by cases link; cases other; simp_all)
    simp only [hSource, hOther, if_true, SortedMap.insert_comm _ channel found hTargets]
  · simp only [hSource, hOther, if_true, if_false]
  · simp only [hSource, hOther, if_true, if_false]
  · simp only [hSource, hOther, if_false]

/-- The table with an empty channel for each of several links. -/
def withLinks (table : ChannelTable) (links : List Link) : ChannelTable :=
  links.foldl (fun table link => table.insert link (Channel.ofLink link)) table

theorem withLinks_perm (table : ChannelTable) {links others : List Link}
    (hPerm : links.Perm others) : table.withLinks links = table.withLinks others := by
  have hCommutes : RightCommutative fun (table : ChannelTable) link =>
      table.insert link (Channel.ofLink link) := by
    refine ⟨fun table link other => ?_⟩
    by_cases hEqual : link = other
    · rw [hEqual]
    · exact insert_comm table _ _ hEqual
  exact hPerm.foldl_eq table

end ChannelTable

namespace Network

variable {net after : Network}

/-! ### Nodes -/

/-- A node can be added exactly if its name is valid and new, before anything has been asked of the
network. -/
theorem withNode_eq_ok_iff {node : InitialNode} :
    net.withNode node = .ok after ↔ net.started = false ∧ isNodeName node.name = true ∧
      node.name ∉ net.nodes.keys ∧ after =
        { net with nodes := net.nodes.insert node.name (Node.create node.name node.tokens) } := by
  rw [← SortedMap.contains_iff]
  unfold withNode
  by_cases hStarted : net.started = true
  · simp [hStarted]
  · by_cases hName : isNodeName node.name = true
    · by_cases hKnown : net.nodes.contains node.name = true
      · simp [hStarted, hName, hKnown]
      · simp [hStarted, hName, hKnown, eq_comm]
    · simp [hStarted, hName]

/-- The network with more nodes. -/
def withNodes (net : Network) (nodes : List InitialNode) : Network :=
  { net with
    nodes := (nodes.map fun node => (node.name, Node.create node.name node.tokens)).foldl
      (fun map pair => map.insert pair.1 pair.2) net.nodes }

/-- Nodes can be added one after another exactly if their names are valid, new and different. -/
theorem foldlM_withNode_eq_ok_iff {nodes : List InitialNode} (hOpen : net.started = false) :
    nodes.foldlM withNode net = .ok after ↔
      (∀ node ∈ nodes, isNodeName node.name = true) ∧ (nodes.map InitialNode.name).Nodup ∧
        (∀ node ∈ nodes, node.name ∉ net.nodes.keys) ∧ after = net.withNodes nodes := by
  induction nodes generalizing net with
  | nil =>
      constructor
      · intro hSame
        cases hSame
        exact ⟨by simp, by simp, by simp, rfl⟩
      · rintro ⟨-, -, -, rfl⟩
        rfl
  | cons node rest ih =>
      rw [foldlM_cons_eq_ok]
      simp only [withNode_eq_ok_iff, List.forall_mem_cons, List.map_cons, List.nodup_cons]
      constructor
      · rintro ⟨_, ⟨-, hName, hNew, rfl⟩, hRest⟩
        obtain ⟨hValid, hNodup, hFresh, rfl⟩ := (ih (by exact hOpen)).mp hRest
        simp only [SortedMap.mem_keys_insert, not_or] at hFresh
        refine ⟨⟨hName, hValid⟩, ⟨fun hMember => ?_, hNodup⟩,
          ⟨hNew, fun other hOther => (hFresh other hOther).2⟩, rfl⟩
        obtain ⟨other, hOther, hEqual⟩ := List.mem_map.mp hMember
        exact (hFresh other hOther).1 hEqual
      · rintro ⟨⟨hName, hValid⟩, ⟨hAbsent, hNodup⟩, ⟨hNew, hFresh⟩, rfl⟩
        refine ⟨_, ⟨hOpen, hName, hNew, rfl⟩, (ih (by exact hOpen)).mpr
          ⟨hValid, hNodup, fun other hOther => ?_, rfl⟩⟩
        simp only [SortedMap.mem_keys_insert, not_or]
        exact ⟨fun hEqual => hAbsent (hEqual ▸ List.mem_map_of_mem hOther), hFresh other hOther⟩

/-- Nodes with different names may be added in any order. -/
theorem withNodes_perm (net : Network) {nodes others : List InitialNode}
    (hPerm : nodes.Perm others) (hNodup : (nodes.map InitialNode.name).Nodup) :
    net.withNodes nodes = net.withNodes others := by
  have hPairs := hPerm.map fun node => (node.name, Node.create node.name node.tokens)
  have hKeys : ∀ {listed : List InitialNode},
      (listed.map fun node => (node.name, Node.create node.name node.tokens)).map Prod.fst =
        listed.map InitialNode.name := by
    intro listed
    rw [List.map_map]
    rfl
  have hOther := (hPerm.map InitialNode.name).nodup_iff.mp hNodup
  have hSame : (net.withNodes nodes).nodes = (net.withNodes others).nodes := by
    refine SortedMap.ext_get? fun name => Option.ext fun node => ?_
    unfold withNodes
    rw [SortedMap.get?_foldl_insert (hKeys ▸ hNodup), SortedMap.get?_foldl_insert (hKeys ▸ hOther),
      hPairs.mem_iff, hKeys, hKeys, (hPerm.map InitialNode.name).mem_iff]
  show { net with nodes := (net.withNodes nodes).nodes } = _
  rw [hSame]
  rfl

theorem keys_withNodes (net : Network) (nodes : List InitialNode) (name : String) :
    name ∈ (net.withNodes nodes).nodes.keys ↔
      name ∈ nodes.map InitialNode.name ∨ name ∈ net.nodes.keys := by
  induction nodes generalizing net with
  | nil => simp [withNodes]
  | cons node rest ih =>
      have hRest := ih { net with
        nodes := net.nodes.insert node.name (Node.create node.name node.tokens) }
      refine hRest.trans ?_
      show _ ∨ name ∈ (net.nodes.insert _ _).keys ↔ _
      rw [SortedMap.mem_keys_insert, List.map_cons, List.mem_cons]
      tauto

/-! ### Links -/

/-- A link can be added to a well-formed network exactly if it joins two different known nodes and
is new, before anything has been asked of the network. -/
theorem exists_withLink_iff {link : Link} (hWell : net.WellFormed) :
    (∃ after, net.withLink link = .ok after) ↔ net.started = false ∧
      link.source ∈ net.nodes.keys ∧ link.target ∈ net.nodes.keys ∧ link.source ≠ link.target ∧
        ¬ net.channels.contains link = true := by
  constructor
  · rintro ⟨after, hAdd⟩
    obtain ⟨hOpen, source, target, hSource, hTarget, hDistinct, hNew, -⟩ := withLink_eq_ok hAdd
    exact ⟨hOpen, SortedMap.mem_keys_of_get? hSource, SortedMap.mem_keys_of_get? hTarget, hDistinct,
      hWell.wired.not_contains hSource hNew⟩
  · rintro ⟨hOpen, hSource, hTarget, hDistinct, hNew⟩
    obtain ⟨source, hSource⟩ := SortedMap.mem_keys_iff.mp hSource
    obtain ⟨target, hTarget⟩ := SortedMap.mem_keys_iff.mp hTarget
    have hUnknown : ¬ source.outbound.contains link.target = true := fun hKnown =>
      hNew ((hWell.wired.mem_outbound_iff hSource).mp (SortedMap.contains_iff.mp hKnown))
    refine ⟨net.connect link source target, ?_⟩
    unfold withLink
    simp only [hOpen, Bool.false_eq_true, if_false, hSource, hTarget, hDistinct, hUnknown]

/-- What a network becomes when links are added: there is a channel for each of them, and the nodes
know their neighbours. -/
structure Joined (net : Network) (links : List Link) (after : Network) : Prop where
  /-- The network is well-formed, and no snapshot has been started. -/
  fresh : after.Fresh
  /-- The new channels are empty. -/
  channels_eq : after.channels = net.channels.withLinks links
  /-- The links are listed in order. -/
  links_eq : after.links.toList = net.links.toList ++ links
  /-- The nodes are the same. -/
  keys_eq : after.nodes.keys = net.nodes.keys
  /-- The nodes keep their names, balances and recordings. -/
  node : ∀ {name node changed}, net.nodes.get? name = some node →
    after.nodes.get? name = some changed → changed.name = node.name ∧
      changed.tokens = node.tokens ∧ changed.recordings = node.recordings
  /-- Nothing else changes. -/
  others : after = { net with
    nodes := after.nodes, links := after.links, channels := after.channels }

theorem Joined.refl (hFresh : net.Fresh) : net.Joined [] net := by
  refine ⟨hFresh, rfl, (List.append_nil _).symm, rfl, fun hNode hChanged => ?_, rfl⟩
  cases hNode.symm.trans hChanged
  exact ⟨rfl, rfl, rfl⟩

theorem Joined.trans {between : Network} {links later : List Link}
    (hFirst : net.Joined links between) (hRest : between.Joined later after) :
    net.Joined (links ++ later) after := by
  refine ⟨hRest.fresh, ?_, ?_, hRest.keys_eq.trans hFirst.keys_eq, fun hNode hChanged => ?_, ?_⟩
  · rw [hRest.channels_eq, hFirst.channels_eq]
    exact List.foldl_append.symm
  · rw [hRest.links_eq, hFirst.links_eq, List.append_assoc]
  · obtain ⟨middle, hMiddle⟩ := SortedMap.mem_keys_iff.mp
      (hFirst.keys_eq ▸ SortedMap.mem_keys_of_get? hNode)
    obtain ⟨hName, hTokens, hRecordings⟩ := hFirst.node hNode hMiddle
    obtain ⟨hName', hTokens', hRecordings'⟩ := hRest.node hMiddle hChanged
    exact ⟨hName'.trans hName, hTokens'.trans hTokens, hRecordings'.trans hRecordings⟩
  · have hOthers := hRest.others
    rw [hFirst.others] at hOthers
    exact hOthers

/-- Adding a link leaves the nodes as they are, but for their neighbours. -/
theorem joined_withLink {link : Link} (hFresh : net.Fresh) (hAdd : net.withLink link = .ok after) :
    net.Joined [link] after := by
  have hAfter := hFresh.withLink hAdd
  obtain ⟨-, source, target, hSource, hTarget, hDistinct, -, rfl⟩ := withLink_eq_ok hAdd
  refine ⟨hAfter, rfl, Array.toList_push .., ?_, fun hNode hChanged => ?_, rfl⟩
  · have hStart : (net.nodes.insert link.source
        (source.addOutbound link.target net.links.size)).keys = net.nodes.keys :=
      SortedMap.keys_insert_of_mem (SortedMap.mem_keys_of_get? hSource)
    exact (SortedMap.keys_insert_of_mem
      (hStart.symm ▸ SortedMap.mem_keys_of_get? hTarget)).trans hStart
  · obtain ⟨old, hOld, hName, hTokens, hRecordings, -⟩ :=
      node_connect hSource hTarget hDistinct hChanged
    cases hNode.symm.trans hOld
    exact ⟨hName, hTokens, hRecordings⟩

theorem joined_withLinks {links : List Link} (hFresh : net.Fresh)
    (hAdded : links.foldlM withLink net = .ok after) : net.Joined links after := by
  induction links generalizing net with
  | nil =>
      cases hAdded
      exact Joined.refl hFresh
  | cons link rest ih =>
      obtain ⟨between, hFirst, hRest⟩ := foldlM_cons_eq_ok.mp hAdded
      have hJoined := joined_withLink hFresh hFirst
      exact hJoined.trans (ih hJoined.fresh hRest)

/-- Links can be added one after another exactly if they join different known nodes, are new, and
none is listed twice. -/
theorem exists_foldlM_withLink_iff {links : List Link} (hFresh : net.Fresh)
    (hOpen : net.started = false) :
    (∃ after, links.foldlM withLink net = .ok after) ↔
      (∀ link ∈ links, link.source ∈ net.nodes.keys ∧ link.target ∈ net.nodes.keys ∧
        link.source ≠ link.target) ∧ links.Nodup ∧
        ∀ link ∈ links, ¬ net.channels.contains link = true := by
  induction links generalizing net with
  | nil => exact ⟨fun _ => ⟨by simp, by simp, by simp⟩, fun _ => ⟨net, rfl⟩⟩
  | cons link rest ih =>
      -- What is asked of the later links is asked of the network that has the first one.
      have hLater : ∀ between, net.withLink link = .ok between →
          ((∃ after, rest.foldlM withLink between = .ok after) ↔
            (∀ other ∈ rest, other.source ∈ net.nodes.keys ∧ other.target ∈ net.nodes.keys ∧
              other.source ≠ other.target) ∧ rest.Nodup ∧
              ∀ other ∈ rest, link ≠ other ∧ ¬ net.channels.contains other = true) := by
        intro between hFirst
        have hJoined := joined_withLink hFresh hFirst
        have hStarted : between.started = net.started := by rw [hJoined.others]
        have hContains : ∀ other, between.channels.contains other = true ↔
            link = other ∨ net.channels.contains other = true := fun other => by
          rw [hJoined.channels_eq]
          exact ChannelTable.contains_insert
        rw [ih hJoined.fresh (hStarted.trans hOpen), hJoined.keys_eq]
        simp only [hContains, not_or]
      simp only [List.forall_mem_cons, List.nodup_cons]
      constructor
      · rintro ⟨after, hAdded⟩
        obtain ⟨between, hFirst, hRest⟩ := foldlM_cons_eq_ok.mp hAdded
        obtain ⟨-, hSource, hTarget, hDistinct, hNew⟩ :=
          (exists_withLink_iff hFresh.wellFormed).mp ⟨between, hFirst⟩
        obtain ⟨hJoins, hNodup, hUnused⟩ := (hLater between hFirst).mp ⟨after, hRest⟩
        exact ⟨⟨⟨hSource, hTarget, hDistinct⟩, hJoins⟩,
          ⟨fun hMember => (hUnused link hMember).1 rfl, hNodup⟩, hNew,
          fun other hOther => (hUnused other hOther).2⟩
      · rintro ⟨⟨⟨hSource, hTarget, hDistinct⟩, hJoins⟩, ⟨hAbsent, hNodup⟩, hNew, hUnused⟩
        obtain ⟨between, hFirst⟩ := (exists_withLink_iff hFresh.wellFormed).mpr
          ⟨hOpen, hSource, hTarget, hDistinct, hNew⟩
        obtain ⟨after, hRest⟩ := (hLater between hFirst).mpr ⟨hJoins, hNodup, fun other hOther =>
          ⟨fun hEqual => hAbsent (hEqual ▸ hOther), hUnused other hOther⟩⟩
        exact ⟨after, foldlM_cons_eq_ok.mpr ⟨between, hFirst, hRest⟩⟩

/-! ### Configurations -/

/-- Building the network of a configuration is adding its nodes and then its links. -/
theorem ofConfig_eq_ok_iff {config : Config} :
    ofConfig config = .ok after ↔
      ∃ between, config.nodes.foldlM withNode (empty config.seed config.maxDelay) = .ok between ∧
        config.links.foldlM withLink between = .ok after := by
  unfold ofConfig
  cases config.nodes.foldlM withNode (empty config.seed config.maxDelay) <;>
    simp [bind, Except.bind]

/-- A configuration is accepted exactly if it is sound. -/
theorem exists_ofConfig_iff {config : Config} :
    (∃ net, ofConfig config = .ok net) ↔ config.Sound := by
  have hEmpty : (empty config.seed config.maxDelay).started = false := rfl
  have hNames : ∀ name, name ∈ ((empty config.seed config.maxDelay).withNodes config.nodes).nodes.keys ↔
      name ∈ config.nodes.map InitialNode.name := by
    intro name
    rw [keys_withNodes]
    exact or_iff_left List.not_mem_nil
  have hLinks : ∀ hNodes : config.nodes.foldlM withNode (empty config.seed config.maxDelay) =
      .ok ((empty config.seed config.maxDelay).withNodes config.nodes),
      (∃ after, config.links.foldlM withLink
        ((empty config.seed config.maxDelay).withNodes config.nodes) = .ok after) ↔
      (∀ link ∈ config.links, link.source ∈ config.nodes.map InitialNode.name ∧
        link.target ∈ config.nodes.map InitialNode.name ∧ link.source ≠ link.target) ∧
        config.links.Nodup := by
    intro hNodes
    have hFresh := fresh_withNodes hNodes
    rw [exists_foldlM_withLink_iff hFresh rfl]
    simp only [hNames]
    refine and_congr_right fun _ => and_iff_left fun link _ hLink => ?_
    obtain ⟨channel, hFound⟩ := ChannelTable.contains_iff.mp hLink
    exact nomatch (ChannelTable.get?_empty link).symm.trans hFound
  constructor
  · rintro ⟨net, hBuilt⟩
    obtain ⟨between, hNodes, hRest⟩ := ofConfig_eq_ok_iff.mp hBuilt
    obtain ⟨hValid, hDistinct, -, rfl⟩ := (foldlM_withNode_eq_ok_iff hEmpty).mp hNodes
    obtain ⟨hJoins, hUnique⟩ := (hLinks hNodes).mp ⟨net, hRest⟩
    exact ⟨hValid, hDistinct, hJoins, hUnique⟩
  · intro hSound
    have hNodes := (foldlM_withNode_eq_ok_iff hEmpty).mpr
      ⟨hSound.valid, hSound.distinct, fun _ _ => List.not_mem_nil, rfl⟩
    obtain ⟨net, hRest⟩ := (hLinks hNodes).mpr ⟨hSound.joins, hSound.unique⟩
    exact ⟨net, ofConfig_eq_ok_iff.mpr ⟨_, hNodes, hRest⟩⟩

/-- Networks that the same links have been added to, in any order, differ in numbers only. -/
theorem Joined.sameButNumbers {first second : Network} {links others : List Link}
    (hFirst : net.Joined links first) (hSecond : net.Joined others second)
    (hPerm : links.Perm others) : SameButNumbers first second := by
  have hChannels : first.channels = second.channels := by
    rw [hFirst.channels_eq, hSecond.channels_eq, ChannelTable.withLinks_perm _ hPerm]
  have hLinks : first.links.toList.Perm second.links.toList := by
    rw [hFirst.links_eq, hSecond.links_eq]
    exact hPerm.append_left _
  have hWired := hFirst.fresh.wellFormed.wired
  have hWired' := hSecond.fresh.wellFormed.wired
  have hNode : ∀ name node changed, first.nodes.get? name = some node →
      second.nodes.get? name = some changed → Node.SameButNumbers node changed := by
    intro name node changed hNode hChanged
    obtain ⟨old, hOld⟩ := SortedMap.mem_keys_iff.mp
      (hFirst.keys_eq ▸ SortedMap.mem_keys_of_get? hNode)
    obtain ⟨hName, hTokens, hRecordings⟩ := hFirst.node hOld hNode
    obtain ⟨hName', hTokens', hRecordings'⟩ := hSecond.node hOld hChanged
    -- The neighbours of a node are those that the channels tell.
    refine ⟨hName.trans hName'.symm, hTokens.trans hTokens'.symm, ?_, ?_,
      hRecordings.trans hRecordings'.symm⟩
    · apply SortedMap.keys_eq_of_mem_iff
      intro target
      rw [hWired.mem_outbound_iff hNode, hWired'.mem_outbound_iff hChanged, hChannels]
    · apply SortedMap.keys_eq_of_mem_iff
      intro source
      rw [hWired.mem_inbound_iff hNode, hWired'.mem_inbound_iff hChanged, hChannels]
  have hNodes := SortedMap.rel_of_keys_eq (hFirst.keys_eq.trans hSecond.keys_eq.symm) hNode
  rw [hFirst.others, hSecond.others]
  exact ⟨rfl, hChannels, rfl, rfl, rfl, rfl, hNodes, ⟨rfl, rfl, hLinks, rfl, rfl⟩⟩

/-- The networks of two configurations that list the same in another order differ in numbers
only. -/
theorem sameButNumbers_ofConfig {config other : Config} {twin : Network}
    (hSeed : config.seed = other.seed) (hMaxDelay : config.maxDelay = other.maxDelay)
    (hNodes : config.nodes.Perm other.nodes) (hLinks : config.links.Perm other.links)
    (hBuilt : ofConfig config = .ok net) (hTwin : ofConfig other = .ok twin) :
    SameButNumbers net twin := by
  obtain ⟨between, hFirst, hRest⟩ := ofConfig_eq_ok_iff.mp hBuilt
  obtain ⟨middle, hSecond, hLast⟩ := ofConfig_eq_ok_iff.mp hTwin
  have hFresh := fresh_withNodes hFirst
  obtain ⟨-, hDistinct, -, rfl⟩ := (foldlM_withNode_eq_ok_iff rfl).mp hFirst
  obtain ⟨-, -, -, rfl⟩ := (foldlM_withNode_eq_ok_iff rfl).mp hSecond
  rw [← hSeed, ← hMaxDelay, ← withNodes_perm _ hNodes hDistinct] at hLast
  exact (joined_withLinks hFresh hRest).sameButNumbers (joined_withLinks hFresh hLast) hLinks

/-! ### What can be seen from outside -/

end Network

/-- Everything that can be asked of a network, apart from the numbers of its channels. -/
structure Appearance where
  /-- The time. -/
  tickNow : UInt64
  /-- The bound on delays. -/
  maxDelay : UInt64
  /-- The state of the generator. -/
  generator : Generator
  /-- The names of the nodes, in order. -/
  nodeNames : List String
  /-- The balances, in the order of the names. -/
  balances : List (String × UInt64)
  /-- The receivers that a node has a link to, in order. -/
  successors : String → List String
  /-- What is under way from one node to another. -/
  channel? : String → String → Option Channel
  /-- The number of messages under way. -/
  pending : Nat
  /-- The tokens, held and under way. -/
  totalTokens : Except Fault UInt64
  /-- What has happened. -/
  journal : Journal
  /-- The number of markers that have been turned down. -/
  rejected : Nat
  /-- The number of snapshots that have not been taken away. -/
  retained : Nat
  /-- The snapshots that are incomplete. -/
  outstanding : List SnapshotId
  /-- What a handle on a snapshot refers to. -/
  collectorOf? : Handle → Option Collector
  /-- The network in one line. -/
  summary : String

namespace Network

/-- What can be asked of a network. -/
def appearance (net : Network) : Appearance where
  tickNow := net.tickNow
  maxDelay := net.maxDelay
  generator := net.generator
  nodeNames := net.nodeNames
  balances := net.balances
  successors := net.successors
  channel? := net.channel?
  pending := net.pending
  totalTokens := net.totalTokens
  journal := net.journal
  rejected := net.rejected
  retained := net.retained
  outstanding := net.outstanding
  collectorOf? := net.collectorOf?
  summary := net.summary

namespace SameButNumbers

variable {other : Network}

theorem balances_eq (hRelated : SameButNumbers net other) : net.balances = other.balances := by
  have hBalances : net.nodes.mapValues (fun _ node => node.tokens) =
      other.nodes.mapValues fun _ node => node.tokens := by
    refine SortedMap.ext_get? fun name => ?_
    rw [SortedMap.get?_mapValues, SortedMap.get?_mapValues]
    obtain ⟨hNone, hMissing⟩ | ⟨node, changed, hFound, hOther, hSame⟩ := hRelated.node_cases name
    · rw [hNone, hMissing]
    · rw [hFound, hOther, Option.map_some, Option.map_some, hSame.tokens_eq]
  exact congrArg SortedMap.toList hBalances

theorem totalTokens_eq (hRelated : SameButNumbers net other) :
    net.totalTokens = other.totalTokens := by
  have hTokens := congrArg (List.map Prod.snd) hRelated.balances_eq
  unfold balances at hTokens
  rw [List.map_map, List.map_map] at hTokens
  have hHeld : net.heldTokens = other.heldTokens := by
    unfold heldTokens SortedMap.values
    rw [List.map_map, List.map_map]
    exact congrArg checkedSum hTokens
  unfold totalTokens movingTokens
  rw [hHeld, hRelated.channels_eq]

theorem summary_eq (hRelated : SameButNumbers net other) : net.summary = other.summary := by
  have hLinks : net.links.size = other.links.size := hRelated.parts.links.length_eq
  unfold summary
  rw [hRelated.tickNow_eq, hRelated.size_eq, hLinks, hRelated.pending_eq, hRelated.nextSnapshot_eq,
    hRelated.journal_eq]

/-- Whoever does not ask for numbers cannot tell the networks apart. -/
theorem appearance_eq (hRelated : SameButNumbers net other) : net.appearance = other.appearance := by
  have hSuccessors : net.successors = other.successors :=
    funext fun name => full_sameButNumbers.successors_eq hRelated name
  have hChannel : net.channel? = other.channel? := by
    unfold channel?
    rw [hRelated.channels_eq]
  have hRetained : net.retained = other.retained :=
    congrArg SortedMap.size (full_sameButNumbers.used_eq hRelated)
  have hNames : net.nodeNames = other.nodeNames := hRelated.keys_eq
  have hMaxDelay : net.maxDelay = other.maxDelay := hRelated.parts.maxDelay_eq
  have hGenerator : net.generator = other.generator := hRelated.parts.generator_eq
  unfold appearance
  rw [hRelated.tickNow_eq, hMaxDelay, hGenerator, hNames,
    hRelated.balances_eq, hSuccessors, hChannel, hRelated.pending_eq, hRelated.totalTokens_eq,
    hRelated.journal_eq, hRelated.rejected_eq, hRetained, full_sameButNumbers.outstanding_eq hRelated,
    full_sameButNumbers.collectorOf?_eq hRelated, hRelated.summary_eq]

end SameButNumbers

/-- Configurations that list the same in another order are accepted or refused alike. -/
theorem exists_ofConfig_iff_of_perm {config other : Config}
    (hNodes : config.nodes.Perm other.nodes) (hLinks : config.links.Perm other.links) :
    (∃ net, ofConfig config = .ok net) ↔ ∃ twin, ofConfig other = .ok twin := by
  rw [exists_ofConfig_iff, exists_ofConfig_iff]
  exact ⟨fun hSound => hSound.perm hNodes hLinks,
    fun hSound => hSound.perm hNodes.symm hLinks.symm⟩

/-- Two configurations that list the same nodes and the same links in any order, with the same seed
and the same bound on delays, are both accepted or both refused.  If they are accepted, no session
can tell their networks apart: whatever is asked of both, single calls or scripts, both answer
alike, and everything that can be seen of them is the same. -/
theorem alike_session_of_perm {config other : Config} (hSeed : config.seed = other.seed)
    (hMaxDelay : config.maxDelay = other.maxDelay) (hNodes : config.nodes.Perm other.nodes)
    (hLinks : config.links.Perm other.links) (requests : List Request) :
    match ofConfig config, ofConfig other with
    | .ok net, .ok twin =>
        Alike (fun last final => SameButNumbers last final ∧ last.appearance = final.appearance)
          (net.session requests) (twin.session requests)
    | .error _, .error _ => True
    | _, _ => False := by
  have hAccepted := exists_ofConfig_iff_of_perm hNodes hLinks
  cases hBuilt : ofConfig config <;> cases hTwin : ofConfig other <;>
    rw [hBuilt, hTwin] at hAccepted
  · exact True.intro
  · obtain ⟨net, hNever⟩ := hAccepted.mpr ⟨_, rfl⟩
    cases hNever
  · obtain ⟨twin, hNever⟩ := hAccepted.mp ⟨_, rfl⟩
    cases hNever
  · have hRelated := sameButNumbers_ofConfig hSeed hMaxDelay hNodes hLinks hBuilt hTwin
    exact (hRelated.alike_session requests).mono fun _ _ hLast => ⟨hLast, hLast.appearance_eq⟩

end Network

end TokenNet
