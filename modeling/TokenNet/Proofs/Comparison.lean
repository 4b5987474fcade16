import Mathlib.Data.List.FinRange
import Mathlib.Data.List.Perm.Subperm
import Mathlib.Data.List.Sort
import TokenNet.Proofs.Maps
import TokenNet.Snapshot.Comparison

namespace TokenNet

/-!
# Agreement of snapshots

A comparison sorts the transfers by the nodes that they are to (`Transfer.getD_byTarget`) and visits
only the nodes to which the expected snapshot has any.  Nothing is missed by that: if these nodes are
owed the same on both sides, the transfers of the expected snapshot are among those of the other one,
and with as many on both sides there is no room for a transfer to any other node
(`Snapshot.messagesTo_eq_of_targets`).  So a comparison finds nothing exactly if the snapshots agree on
every node (`Snapshot.mismatch?_eq_none_iff`).

Lists in which the transfers to different nodes are interleaved in another way are told by the
place at which each transfer of one list is found in the other (`Transfer.Rearrangement`).
-/

namespace Transfer

/-! ### Sorting by target -/

/-- One more transfer goes to the others to its target. -/
theorem byTarget_append_singleton (transfers : List Transfer) (transfer : Transfer) :
    byTarget (transfers ++ [transfer]) = (byTarget transfers).insert transfer.target
      (((byTarget transfers).get? transfer.target).getD [] ++ [transfer]) := by
  unfold byTarget
  rw [List.foldl_concat]

/-- Under the name of a node are all transfers to it, in their order. -/
theorem getD_byTarget (transfers : List Transfer) (target : String) :
    ((byTarget transfers).get? target).getD [] =
      transfers.filter fun transfer => transfer.target = target := by
  induction transfers using List.reverseRecOn with
  | nil => rfl
  | append_singleton earlier last ih =>
      rw [byTarget_append_singleton, SortedMap.get?_insert]
      by_cases hLast : last.target = target
      · subst hLast
        simp [ih]
      · simp [hLast, ih]

/-- There are names of those nodes only that a transfer is to. -/
theorem mem_keys_byTarget {transfers : List Transfer} {target : String} :
    target ∈ (byTarget transfers).keys ↔ ∃ transfer ∈ transfers, transfer.target = target := by
  induction transfers using List.reverseRecOn with
  | nil => simp [byTarget, SortedMap.keys]
  | append_singleton earlier last ih =>
      rw [byTarget_append_singleton, SortedMap.mem_keys_insert, ih]
      simp only [List.mem_append, List.mem_singleton, or_and_right, exists_or, exists_eq_left]
      exact or_comm.trans (or_congr_right eq_comm)

/-! ### Rearrangements -/

/-- The second list has the transfers of the first at other places, and transfers to one node
in the order in which the first has them. -/
structure Rearrangement (before after : List Transfer) where
  /-- The place of each transfer in the second list. -/
  place : Fin before.length ≃ Fin after.length
  /-- It is the same transfer there. -/
  get_place : ∀ index, after.get (place index) = before.get index
  /-- Of two transfers to one node the earlier stays the earlier. -/
  place_lt_place : ∀ {earlier later}, earlier < later →
    (before.get earlier).target = (before.get later).target → place earlier < place later

/-- The places of the transfers to one node, in order. -/
def placesTo (target : String) (transfers : List Transfer) : List (Fin transfers.length) :=
  (List.finRange transfers.length).filter fun index => (transfers.get index).target = target

theorem mem_placesTo {target : String} {transfers : List Transfer}
    {index : Fin transfers.length} :
    index ∈ placesTo target transfers ↔ (transfers.get index).target = target := by
  simp [placesTo]

theorem pairwise_placesTo (target : String) (transfers : List Transfer) :
    (placesTo target transfers).Pairwise (· < ·) :=
  (List.sortedLT_finRange transfers.length).pairwise.filter _

theorem map_get_placesTo (target : String) (transfers : List Transfer) :
    (placesTo target transfers).map transfers.get =
      transfers.filter fun transfer => transfer.target = target := by
  conv_rhs => rw [← List.map_get_finRange transfers, List.filter_map]
  rfl

namespace Rearrangement

variable {before after : List Transfer}

/-- The transfers to one node are found at the places that the second list has for it. -/
theorem map_place_placesTo (way : Rearrangement before after) (target : String) :
    (placesTo target before).map way.place = placesTo target after := by
  apply List.Pairwise.eq_of_mem_iff (r := (· < ·)) _ (pairwise_placesTo target after)
  · intro index
    simp only [List.mem_map, mem_placesTo]
    constructor
    · rintro ⟨origin, hTarget, rfl⟩
      rw [way.get_place, hTarget]
    · intro hTarget
      refine ⟨way.place.symm index, ?_, way.place.apply_symm_apply index⟩
      rw [← way.get_place, way.place.apply_symm_apply, hTarget]
  · rw [List.pairwise_map]
    apply (pairwise_placesTo target before).imp_of_mem
    intro earlier later hEarlier hLater hOrder
    apply way.place_lt_place hOrder
    rw [mem_placesTo.mp hEarlier, mem_placesTo.mp hLater]

theorem filter_eq (way : Rearrangement before after) (target : String) :
    (after.filter fun transfer => transfer.target = target) =
      before.filter fun transfer => transfer.target = target := by
  rw [← map_get_placesTo, ← map_get_placesTo, ← way.map_place_placesTo, List.map_map]
  exact List.map_congr_left fun index _ => way.get_place index

end Rearrangement
end Transfer

/-- What a difference is about. -/
inductive Mismatch.Kind where
  /-- The numbers. -/
  | number
  /-- The balances. -/
  | balances
  /-- How many transfers there are. -/
  | count
  /-- The transfers to one node. -/
  | messages
deriving DecidableEq, Repr

/-- What the difference is about. -/
def Mismatch.kind : Mismatch → Kind
  | .number .. => .number
  | .balances .. => .balances
  | .count .. => .count
  | .messages .. => .messages

namespace Snapshot

/-- The snapshots have one number and the same balances, and every node is owed the same
transfers in the same order. -/
structure Agrees (actual expected : Snapshot) : Prop where
  /-- They have one number. -/
  id_eq : actual.id = expected.id
  /-- All balances are the same. -/
  balances_eq : actual.balances = expected.balances
  /-- Each node is owed the same. -/
  messagesTo_eq : ∀ target, actual.messagesTo target = expected.messagesTo target

variable {actual expected : Snapshot}

/-- The nodes to which something is on its way. -/
def targets (snapshot : Snapshot) : SortedSet String :=
  SortedSet.ofList (snapshot.messages.map Transfer.target)

theorem mem_targets {snapshot : Snapshot} {target : String} :
    target ∈ snapshot.targets.members ↔
      ∃ transfer ∈ snapshot.messages, transfer.target = target := by
  unfold targets
  rw [SortedSet.mem_members_ofList, List.mem_map]

/-- The sorted transfers are those to each target in turn. -/
theorem toList_byTarget (snapshot : Snapshot) :
    (Transfer.byTarget snapshot.messages).toList =
      snapshot.targets.members.map fun target => (target, snapshot.messagesTo target) := by
  have hKeys : (Transfer.byTarget snapshot.messages).keys = snapshot.targets.members :=
    SortedMap.keys_eq_of_mem_iff fun _ => Transfer.mem_keys_byTarget.trans mem_targets.symm
  have hGroups : ∀ group ∈ (Transfer.byTarget snapshot.messages).toList,
      (group.1, snapshot.messagesTo group.1) = group := by
    intro group hGroup
    unfold messagesTo
    rw [← Transfer.getD_byTarget, SortedMap.get?_eq_some_iff.mpr hGroup]
    rfl
  rw [← hKeys, SortedMap.keys, List.map_map]
  exact ((List.map_congr_left hGroups).trans (List.map_id _)).symm

/-- What a comparison comes to, told by the transfers to each node. -/
theorem mismatch?_eq (actual expected : Snapshot) :
    actual.mismatch? expected =
      if expected.id ≠ actual.id then some (.number expected.id actual.id)
      else if expected.balances ≠ actual.balances then
        some (.balances actual.id expected.balances actual.balances)
      else if expected.messages.length ≠ actual.messages.length then
        some (.count actual.id expected.messages actual.messages)
      else
        (expected.targets.members.find? fun target =>
          expected.messagesTo target ≠ actual.messagesTo target).map fun target =>
            .messages actual.id target (expected.messagesTo target) (actual.messagesTo target) := by
  simp only [mismatch?, Transfer.getD_byTarget, toList_byTarget, List.find?_map, Option.map_map]
  rfl

/-- A transfer is among those to its target as often as among all. -/
theorem count_messagesTo (snapshot : Snapshot) (transfer : Transfer) :
    (snapshot.messagesTo transfer.target).count transfer = snapshot.messages.count transfer :=
  List.count_filter (by simp)

/-- If the expected targets are owed the same, then what is expected is there. -/
theorem subperm_of_targets
    (hSame : ∀ target ∈ expected.targets.members,
      expected.messagesTo target = actual.messagesTo target) :
    expected.messages.Subperm actual.messages := by
  rw [List.subperm_ext_iff]
  intro transfer hMember
  have hTarget := hSame transfer.target (mem_targets.mpr ⟨transfer, hMember, rfl⟩)
  rw [← count_messagesTo expected, hTarget, count_messagesTo]

theorem messagesTo_eq_of_perm_of_not_mem {target : String}
    (hPerm : expected.messages.Perm actual.messages)
    (hUnknown : target ∉ expected.targets.members) :
    actual.messagesTo target = expected.messagesTo target := by
  have hNone : ∀ transfer ∈ expected.messages, transfer.target ≠ target :=
    fun transfer hMember hTarget => hUnknown (mem_targets.mpr ⟨transfer, hMember, hTarget⟩)
  have hExpected : expected.messagesTo target = [] := by
    simpa [messagesTo, List.filter_eq_nil_iff] using hNone
  have hActual : actual.messagesTo target = [] := by
    simpa [messagesTo, List.filter_eq_nil_iff] using
      fun transfer hMember => hNone transfer (hPerm.mem_iff.mpr hMember)
  rw [hExpected, hActual]

/-- With as many transfers on both sides, those to the expected targets settle the rest. -/
theorem messagesTo_eq_of_targets
    (hLength : expected.messages.length = actual.messages.length)
    (hSame : ∀ target ∈ expected.targets.members,
      expected.messagesTo target = actual.messagesTo target) (target : String) :
    actual.messagesTo target = expected.messagesTo target := by
  have hPerm : expected.messages.Perm actual.messages :=
    (subperm_of_targets hSame).perm_of_length_le hLength.ge
  by_cases hKnown : target ∈ expected.targets.members
  · exact (hSame target hKnown).symm
  · exact messagesTo_eq_of_perm_of_not_mem hPerm hKnown

namespace Agrees

protected theorem refl (snapshot : Snapshot) : snapshot.Agrees snapshot :=
  ⟨rfl, rfl, fun _ => rfl⟩

protected theorem symm (hAgrees : actual.Agrees expected) : expected.Agrees actual :=
  ⟨hAgrees.id_eq.symm, hAgrees.balances_eq.symm, fun target => (hAgrees.messagesTo_eq target).symm⟩

protected theorem trans {left middle right : Snapshot} (hLeft : left.Agrees middle)
    (hRight : middle.Agrees right) : left.Agrees right where
  id_eq := hLeft.id_eq.trans hRight.id_eq
  balances_eq := hLeft.balances_eq.trans hRight.balances_eq
  messagesTo_eq target := (hLeft.messagesTo_eq target).trans (hRight.messagesTo_eq target)

protected theorem comm : actual.Agrees expected ↔ expected.Agrees actual :=
  ⟨Agrees.symm, Agrees.symm⟩

/-- A rearrangement agrees with what it rearranges. -/
theorem of_rearrangement (snapshot : Snapshot) {transfers : List Transfer}
    (way : Transfer.Rearrangement snapshot.messages transfers) :
    Agrees { snapshot with messages := transfers } snapshot :=
  ⟨rfl, rfl, way.filter_eq⟩

/-- The transfers of snapshots that agree are the same up to their order. -/
theorem perm (hAgrees : actual.Agrees expected) : expected.messages.Perm actual.messages := by
  have hForth : expected.messages.Subperm actual.messages :=
    subperm_of_targets fun target _ => (hAgrees.messagesTo_eq target).symm
  have hBack : actual.messages.Subperm expected.messages :=
    subperm_of_targets fun target _ => hAgrees.messagesTo_eq target
  exact hForth.antisymm hBack

end Agrees

/-- With as many transfers on both sides, no node with other transfers is found exactly if every
node is owed the same. -/
theorem find?_targets_eq_none_iff (hLength : expected.messages.length = actual.messages.length) :
    (expected.targets.members.find? fun target =>
        expected.messagesTo target ≠ actual.messagesTo target) = none ↔
      ∀ target, actual.messagesTo target = expected.messagesTo target := by
  rw [List.find?_eq_none]
  constructor
  · intro hNone
    apply messagesTo_eq_of_targets hLength
    intro target hTarget
    simpa using hNone target hTarget
  · intro hSame target _
    simp [hSame target]

/-- A comparison finds nothing exactly if the snapshots agree. -/
theorem mismatch?_eq_none_iff : actual.mismatch? expected = none ↔ actual.Agrees expected := by
  rw [mismatch?_eq]
  constructor
  · intro hNone
    split_ifs at hNone with hId hBalances hLength
    have hSame := (find?_targets_eq_none_iff (not_not.mp hLength)).mp
      (Option.map_eq_none_iff.mp hNone)
    exact ⟨(not_not.mp hId).symm, (not_not.mp hBalances).symm, hSame⟩
  · intro hAgrees
    have hLength := hAgrees.perm.length_eq
    rw [if_neg (not_not.mpr hAgrees.id_eq.symm), if_neg (not_not.mpr hAgrees.balances_eq.symm),
      if_neg (not_not.mpr hLength), Option.map_eq_none_iff, find?_targets_eq_none_iff hLength]
    exact hAgrees.messagesTo_eq

/-- Whether snapshots agree is found out by comparing them. -/
instance : Decidable (actual.Agrees expected) := decidable_of_iff _ mismatch?_eq_none_iff

/-- The kind of the first difference, told without visiting any node. -/
theorem map_kind_mismatch? (actual expected : Snapshot) :
    (actual.mismatch? expected).map Mismatch.kind =
      if actual.id ≠ expected.id then some .number
      else if actual.balances ≠ expected.balances then some .balances
      else if actual.messages.length ≠ expected.messages.length then some .count
      else if actual.Agrees expected then none
      else some .messages := by
  rw [mismatch?_eq]
  by_cases hId : actual.id = expected.id
  case neg => simp [hId, Ne.symm hId, Mismatch.kind]
  by_cases hBalances : actual.balances = expected.balances
  case neg => simp [hId, hBalances, Ne.symm hBalances, Mismatch.kind]
  by_cases hLength : actual.messages.length = expected.messages.length
  case neg => simp [hId, hBalances, hLength, Ne.symm hLength, Mismatch.kind]
  have hFind := find?_targets_eq_none_iff hLength.symm
  simp only [hId, hBalances, hLength, ne_eq, not_true_eq_false, if_false, Option.map_map]
  by_cases hSame : ∀ target, actual.messagesTo target = expected.messagesTo target
  · rw [if_pos ⟨hId, hBalances, hSame⟩, Option.map_eq_none_iff]
    exact hFind.mpr hSame
  · rw [if_neg fun hAgrees => hSame hAgrees.messagesTo_eq]
    obtain ⟨target, hTarget⟩ := Option.ne_none_iff_exists'.mp (mt hFind.mp hSame)
    exact Option.map_eq_some_iff.mpr ⟨target, hTarget, rfl⟩

/-- The comparison the other way round finds a difference of the same kind. -/
theorem map_kind_mismatch?_comm (actual expected : Snapshot) :
    (actual.mismatch? expected).map Mismatch.kind =
      (expected.mismatch? actual).map Mismatch.kind := by
  rw [map_kind_mismatch?, map_kind_mismatch?]
  exact if_congr ne_comm rfl <| if_congr ne_comm rfl <| if_congr ne_comm rfl <|
    if_congr Agrees.comm rfl rfl

/-- Snapshots that agree compare alike with all others. -/
theorem Agrees.map_kind_mismatch? {other : Snapshot} (hAgrees : actual.Agrees other)
    (expected : Snapshot) :
    (actual.mismatch? expected).map Mismatch.kind =
      (other.mismatch? expected).map Mismatch.kind := by
  have hExpected : actual.Agrees expected ↔ other.Agrees expected :=
    ⟨hAgrees.symm.trans, hAgrees.trans⟩
  rw [Snapshot.map_kind_mismatch?, Snapshot.map_kind_mismatch?, hAgrees.id_eq,
    hAgrees.balances_eq, hAgrees.perm.length_eq]
  exact if_congr Iff.rfl rfl <| if_congr Iff.rfl rfl <| if_congr Iff.rfl rfl <|
    if_congr hExpected rfl rfl

/-- A comparison finds nothing exactly if numbers, balances and the transfers to each node are
the same.  To compare equal is therefore an equivalence.  What kind of difference is found does
not depend on how the transfers to different nodes are interleaved on either side, nor on which
of the two snapshots is the expected one. -/
theorem mismatch?_equivalence :
    (∀ actual expected : Snapshot, actual.mismatch? expected = none ↔
      actual.id = expected.id ∧ actual.balances = expected.balances ∧
        ∀ target, actual.messagesTo target = expected.messagesTo target) ∧
    Equivalence (fun actual expected : Snapshot => actual.mismatch? expected = none) ∧
    (∀ (actual expected : Snapshot) (found due : List Transfer)
      (_ : Transfer.Rearrangement actual.messages found)
      (_ : Transfer.Rearrangement expected.messages due),
      (mismatch? { actual with messages := found } { expected with messages := due }).map
          Mismatch.kind =
        (actual.mismatch? expected).map Mismatch.kind) ∧
    ∀ actual expected : Snapshot,
      (actual.mismatch? expected).map Mismatch.kind =
        (expected.mismatch? actual).map Mismatch.kind := by
  refine ⟨fun actual expected => ?_, ⟨fun snapshot => ?_, ?_, ?_⟩, ?_, map_kind_mismatch?_comm⟩
  · rw [mismatch?_eq_none_iff]
    exact ⟨fun hAgrees => ⟨hAgrees.id_eq, hAgrees.balances_eq, hAgrees.messagesTo_eq⟩,
      fun ⟨hId, hBalances, hMessages⟩ => ⟨hId, hBalances, hMessages⟩⟩
  · exact mismatch?_eq_none_iff.mpr (Agrees.refl snapshot)
  · intro left right hNone
    exact mismatch?_eq_none_iff.mpr (mismatch?_eq_none_iff.mp hNone).symm
  · intro left middle right hLeft hRight
    exact mismatch?_eq_none_iff.mpr
      ((mismatch?_eq_none_iff.mp hLeft).trans (mismatch?_eq_none_iff.mp hRight))
  · intro actual expected found due hFound hDue
    rw [(Agrees.of_rearrangement actual hFound).map_kind_mismatch?, map_kind_mismatch?_comm,
      (Agrees.of_rearrangement expected hDue).map_kind_mismatch?, map_kind_mismatch?_comm]

/-- Transfers to different nodes may change places, transfers to one node may not. -/
example :
    mismatch? ⟨1, .empty, [⟨"A", "B", 1⟩, ⟨"A", "B", 2⟩, ⟨"B", "A", 3⟩]⟩
        ⟨1, .empty, [⟨"A", "B", 1⟩, ⟨"B", "A", 3⟩, ⟨"A", "B", 2⟩]⟩ = none ∧
      mismatch? ⟨1, .empty, [⟨"A", "B", 1⟩, ⟨"A", "B", 2⟩]⟩
        ⟨1, .empty, [⟨"A", "B", 2⟩, ⟨"A", "B", 1⟩]⟩ ≠ none := by
  decide +kernel

end Snapshot
end TokenNet
