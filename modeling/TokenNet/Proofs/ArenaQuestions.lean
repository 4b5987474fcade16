import TokenNet.Proofs.ArenaCalls
import TokenNet.Proofs.Mirror

namespace TokenNet

/-!
# What an arena answers

An arena has the nodes and the channels of the network that it represents, in the order in which
they were added (`Arena.Represents.nodes_perm`, `Arena.Represents.channels_perm`).  Sums do not
depend on the order, not even in whether they overflow, and everything else is looked up by name: the
two answer every question alike.
-/

/-- Only overflow cuts a checked sum short. -/
theorem overflow_of_checkedSum {words : List UInt64} {fault : Fault}
    (hFault : checkedSum words = .error fault) : fault = .overflow := by
  obtain ⟨_, _, _, _, _, _, hStep⟩ := foldlM_eq_error_iff.mp hFault
  exact (checkedAdd_eq_error_iff.mp hStep).1

namespace Network

variable {nodes others : List Node} {channels rest : List Channel}

/-- Only overflow cuts short what is added up. -/
theorem overflow_of_tokensOf {fault : Fault} (hFault : tokensOf nodes channels = .error fault) :
    fault = .overflow := by
  unfold tokensOf at hFault
  rcases bind_eq_error_iff.mp hFault with hHeld | ⟨held, -, hMore⟩
  · exact overflow_of_checkedSum hHeld
  rcases bind_eq_error_iff.mp hMore with hAmounts | ⟨amounts, -, hMore⟩
  · obtain ⟨_, _, _, _, _, hChannel⟩ := mapM_eq_error_iff.mp hAmounts
    exact overflow_of_checkedSum hChannel
  rcases bind_eq_error_iff.mp hMore with hMoving | ⟨moving, -, hSum⟩
  · exact overflow_of_checkedSum hMoving
  · exact (checkedAdd_eq_error_iff.mp hSum).1

/-- Nodes and channels that come in another order have the same tokens, or none of the sums fits. -/
theorem tokensOf_perm (hNodes : nodes.Perm others) (hChannels : channels.Perm rest) :
    tokensOf nodes channels = tokensOf others rest := by
  have hSum : naturalSum (nodes.map Node.tokens) +
        (channels.map fun channel => naturalSum channel.amounts).sum =
      naturalSum (others.map Node.tokens) +
        (rest.map fun channel => naturalSum channel.amounts).sum := by
    rw [naturalSum_perm (hNodes.map _), (hChannels.map _).sum_eq]
  cases hFirst : tokensOf nodes channels with
  | ok total => exact (tokensOf_eq_ok (hSum.symm.trans (sum_of_tokensOf hFirst))).symm
  | error fault =>
      cases hSecond : tokensOf others rest with
      | ok total =>
          rw [tokensOf_eq_ok (hSum.trans (sum_of_tokensOf hSecond))] at hFirst
          cases hFirst
      | error other => rw [overflow_of_tokensOf hFirst, overflow_of_tokensOf hSecond]

end Network

namespace Arena

variable {arena : Arena} {net : Network}

/-! ### The same nodes and channels -/

/-- No node stands in the arena twice, because it has one handle. -/
theorem Indexed.nodup_nodes (hIndexed : arena.Indexed) : arena.nodes.toList.Nodup := by
  rw [List.nodup_iff_getElem?_ne_getElem?]
  intro first second hLess hBound hSame
  rw [Array.getElem?_toList, Array.getElem?_toList] at hSame
  have hNode : arena.nodes[second]? = some arena.nodes[second] :=
    Array.getElem?_eq_getElem hBound
  have hHandle := hIndexed.index_eq hNode
  rw [hIndexed.index_eq (hSame.trans hNode)] at hHandle
  exact Nat.ne_of_lt hLess (Option.some.inj hHandle)

/-- No channel stands in the arena twice, because it has one number. -/
theorem Consistent.nodup_channels (hConsistent : arena.Consistent) :
    arena.channels.toList.Nodup := by
  rw [List.nodup_iff_getElem?_ne_getElem?]
  intro first second hLess hBound hSame
  rw [Array.getElem?_toList, Array.getElem?_toList] at hSame
  have hChannel : arena.channels[second]? = some arena.channels[second] :=
    Array.getElem?_eq_getElem hBound
  have hNumber := hConsistent.outboundNumber?_eq hChannel
  rw [hConsistent.outboundNumber?_eq (hSame.trans hChannel)] at hNumber
  exact Nat.ne_of_lt hLess (Option.some.inj hNumber)

namespace Represents

variable (hRepresents : arena.Represents net)
include hRepresents

/-- Both have the same nodes. -/
theorem nodes_perm : arena.nodes.toList.Perm net.nodes.values := by
  have hIndexed := hRepresents.consistent.indexed
  have hNames : net.nodes.values.map Node.name = net.nodes.keys := by
    unfold SortedMap.values SortedMap.keys
    rw [List.map_map]
    refine List.map_congr_left fun entry hEntry => hIndexed.name_of_node? ?_
    rw [← hRepresents.node?_eq]
    exact SortedMap.get?_eq_some_iff.mpr hEntry
  have hNodup : net.nodes.values.Nodup := by
    apply List.Nodup.of_map Node.name
    rw [hNames]
    exact net.nodes.nodup_keys
  refine (List.perm_ext_iff_of_nodup hIndexed.nodup_nodes hNodup).mpr fun node => ?_
  rw [SortedMap.mem_values_iff, Array.mem_toList_iff, Array.mem_iff_getElem?]
  constructor
  · rintro ⟨handle, hNode⟩
    exact ⟨node.name, (hRepresents.node?_eq _).trans (hIndexed.node?_eq hNode)⟩
  · rintro ⟨name, hNode⟩
    rw [hRepresents.node?_eq] at hNode
    obtain ⟨handle, -, hFound⟩ := node?_eq_some_iff.mp hNode
    exact ⟨handle, hFound⟩

/-- Both have the same channels. -/
theorem channels_perm : arena.channels.toList.Perm net.channels.toList := by
  have hConsistent := hRepresents.consistent
  have hLinks : ∀ {link channel}, net.channels.get? link = some channel → channel.link = link := by
    intro link channel hFound
    rw [hRepresents.channel?_eq] at hFound
    obtain ⟨number, hNumber, hChannel⟩ := channel?_eq_some_iff.mp hFound
    exact hConsistent.link_eq hNumber hChannel
  refine (List.perm_ext_iff_of_nodup hConsistent.nodup_channels
    (ChannelTable.nodup_toList hLinks)).mpr fun channel => ?_
  rw [ChannelTable.mem_toList_iff, Array.mem_toList_iff, Array.mem_iff_getElem?]
  constructor
  · rintro ⟨number, hChannel⟩
    exact ⟨channel.link, (hRepresents.channel?_eq _).trans (hConsistent.channel?_eq hChannel)⟩
  · rintro ⟨link, hFound⟩
    rw [hRepresents.channel?_eq] at hFound
    obtain ⟨number, -, hChannel⟩ := channel?_eq_some_iff.mp hFound
    exact ⟨number, hChannel⟩

/-! ### The same answers -/

theorem tickNow_eq : arena.tickNow = net.tickNow := by
  unfold tickNow
  rw [hRepresents.books_eq]
  rfl

theorem balances_eq : arena.balances = net.balances := by
  have hEntries : net.nodes.toList = arena.index.keys.filterMap fun name =>
      (net.nodes.get? name).map fun node => (name, node) :=
    SortedMap.toList_eq_filterMap (hRepresents.keys_eq ▸ List.Subset.refl _)
  unfold balances nodeNames Network.balances
  rw [hEntries, List.map_filterMap]
  refine List.filterMap_congr fun name _ => ?_
  rw [hRepresents.node?_eq, Option.map_map]
  rfl

theorem successors_eq : arena.successors = net.successors := by
  funext name
  unfold successors Network.successors
  rw [hRepresents.node?_eq]
  cases arena.node? name <;> rfl

theorem channels_eq : arena.channel? = net.channel? :=
  funext fun source => funext fun target => (hRepresents.channel?_eq ⟨source, target⟩).symm

theorem pending_eq : arena.pending = net.pending := by
  unfold pending Network.pending
  rw [← List.sum_eq_foldr, ← List.sum_eq_foldr]
  exact (hRepresents.channels_perm.map Channel.size).sum_eq

theorem totalTokens_eq : arena.totalTokens = net.totalTokens := by
  rw [Network.totalTokens_eq, ← Network.tokensOf_perm hRepresents.nodes_perm hRepresents.channels_perm]
  simp only [totalTokens, heldTokens, movingTokens, Network.tokensOf, bind_assoc]

theorem retained_eq : arena.retained = net.retained := by
  unfold retained
  rw [hRepresents.books_eq]
  rfl

theorem outstanding_eq : arena.outstanding = net.outstanding := by
  unfold outstanding
  rw [hRepresents.books_eq]
  rfl

theorem collectorOf?_eq : arena.collectorOf? = net.collectorOf? := by
  funext handle
  unfold collectorOf?
  rw [hRepresents.books_eq]
  rfl

theorem summary_eq : arena.summary = net.summary := by
  have hNodes : arena.nodes.size = net.nodes.size := by
    have hLength := hRepresents.nodes_perm.length_eq
    rwa [Array.length_toList, SortedMap.values, List.length_map] at hLength
  have hLinks : arena.channels.size = net.links.size := by
    rw [hRepresents.links_eq, Array.size_map]
  unfold summary Network.summary
  rw [hRepresents.tickNow_eq, hNodes, hLinks, hRepresents.pending_eq, hRepresents.books_eq]
  rfl

end Represents

end Arena

end TokenNet
