import TokenNet.Proofs.Tally

namespace TokenNet

/-!
# Sums over links

The links of a table of channels, each listed once (`ChannelTable.links`), and sums over links.
Since only links that carry something count, a sum over links does not depend on which list of
links it is taken over (`sum_map_eq_of_support`).
-/

universe u

/-- Two lists without repetition have the same sum if they have the same items that count. -/
theorem sum_map_eq_of_support {α : Type u} [DecidableEq α] {items others : List α}
    {weight : α → Nat} (hItems : items.Nodup) (hOthers : others.Nodup)
    (hSame : ∀ item, weight item ≠ 0 → (item ∈ items ↔ item ∈ others)) :
    (items.map weight).sum = (others.map weight).sum := by
  rw [← List.sum_toFinset weight hItems, ← List.sum_toFinset weight hOthers]
  refine Finset.sum_congr_of_eq_on_inter (fun item hItem hOther => ?_)
    (fun item hOther hItem => ?_) fun _ _ _ => rfl
  · by_contra hCounts
    exact hOther (List.mem_toFinset.mpr ((hSame item hCounts).mp (List.mem_toFinset.mp hItem)))
  · by_contra hCounts
    exact hItem (List.mem_toFinset.mpr ((hSame item hCounts).mpr (List.mem_toFinset.mp hOther)))

/-- Words that come in another order have the same sum. -/
theorem naturalSum_perm {words others : List UInt64} (hPerm : words.Perm others) :
    naturalSum words = naturalSum others := by
  simp only [Ledger.naturalSum_eq]
  exact (hPerm.map UInt64.toNat).sum_eq

/-! ### The links of a table -/

namespace ChannelTable

/-- The links that have a channel, in the order of their channels. -/
def links (table : ChannelTable) : List Link :=
  table.rows.toList.flatMap fun row => row.2.keys.map fun target => ⟨row.1, target⟩

theorem mem_links_iff {table : ChannelTable} {link : Link} :
    link ∈ table.links ↔ table.contains link = true := by
  unfold links contains get? row
  rw [List.mem_flatMap]
  constructor
  · rintro ⟨⟨source, channels⟩, hRow, hMember⟩
    obtain ⟨target, hTarget, rfl⟩ := List.mem_map.mp hMember
    rw [SortedMap.get?_eq_some_iff.mpr hRow, Option.getD_some]
    exact SortedMap.contains_iff.mpr hTarget
  · intro hFound
    cases hRow : table.rows.get? link.source with
    | none =>
        rw [hRow, Option.getD_none, SortedMap.get?_empty] at hFound
        cases hFound
    | some channels =>
        rw [hRow, Option.getD_some] at hFound
        exact ⟨(link.source, channels), SortedMap.get?_eq_some_iff.mp hRow,
          List.mem_map.mpr ⟨link.target, SortedMap.contains_iff.mp hFound, rfl⟩⟩

theorem nodup_links (table : ChannelTable) : table.links.Nodup := by
  refine List.nodup_flatMap.mpr ⟨fun row _ => ?_, ?_⟩
  · exact row.2.nodup_keys.map fun left right hEqual => congrArg Link.target hEqual
  · refine (List.pairwise_map.mp table.rows.nodup_keys).imp fun {row other} hDifferent => ?_
    rintro link hLink hOther
    obtain ⟨target, -, rfl⟩ := List.mem_map.mp hLink
    obtain ⟨final, -, hEqual⟩ := List.mem_map.mp hOther
    exact hDifferent (congrArg Link.source hEqual).symm

/-- What is told of the channels of a table can be told of its links. -/
theorem map_toList {β : Type u} (table : ChannelTable) {f : Channel → β} {g : Link → β}
    (hSame : ∀ {link channel}, table.get? link = some channel → f channel = g link) :
    table.toList.map f = table.links.map g := by
  unfold toList links SortedMap.values SortedMap.keys
  rw [List.flatMap_map, List.map_flatMap, List.map_flatMap]
  apply List.flatMap_congr
  intro row hRow
  rw [List.map_map, List.map_map, List.map_map]
  apply List.map_congr_left
  intro entry hEntry
  have hFound : table.get? ⟨row.1, entry.1⟩ = some entry.2 := by
    unfold get? ChannelTable.row
    rw [SortedMap.get?_eq_some_iff.mpr hRow, Option.getD_some]
    exact SortedMap.get?_eq_some_iff.mpr hEntry
  exact hSame hFound

/-- The queues of the channels are those of the links. -/
theorem map_queue_toList (table : ChannelTable) :
    table.toList.map Channel.queue = table.links.map table.queue :=
  table.map_toList fun hFound => (queue_of_get? hFound).symm

/-- The channels of a table are those that are found on links. -/
theorem mem_toList_iff {table : ChannelTable} {channel : Channel} :
    channel ∈ table.toList ↔ ∃ link, table.get? link = some channel := by
  have hMember : channel ∈ table.toList ↔ some channel ∈ table.links.map table.get? := by
    rw [← table.map_toList fun hFound => hFound.symm,
      List.mem_map_of_injective (Option.some_injective _)]
  rw [hMember, List.mem_map]
  constructor
  · rintro ⟨link, -, hFound⟩
    exact ⟨link, hFound⟩
  · rintro ⟨link, hFound⟩
    refine ⟨link, mem_links_iff.mpr ?_, hFound⟩
    exact contains_iff.mpr ⟨channel, hFound⟩

/-- No channel stands in a table twice if each of them stands on its own link. -/
theorem nodup_toList {table : ChannelTable}
    (hLinks : ∀ {link channel}, table.get? link = some channel → channel.link = link) :
    table.toList.Nodup := by
  apply List.Nodup.of_map Channel.link
  rw [table.map_toList hLinks, List.map_id']
  exact table.nodup_links

/-- What is under way on a link is under way on some channel. -/
theorem exists_channel_of_mem_queue {table : ChannelTable} {link : Link} {parcel : Parcel}
    (hMember : parcel ∈ table.queue link) :
    ∃ channel ∈ table.toList, channel.queue = table.queue link := by
  have hQueue : table.queue link ∈ table.links.map table.queue :=
    List.mem_map_of_mem (mem_links_iff.mpr (contains_of_mem_queue hMember))
  rw [← table.map_queue_toList] at hQueue
  exact List.mem_map.mp hQueue

end ChannelTable

/-- What is under way, link by link. -/
theorem Network.pending_eq (net : Network) :
    net.pending = (net.channels.links.flatMap net.channels.queue).length := by
  have hSizes : net.channels.toList.map Channel.size =
      (net.channels.links.map net.channels.queue).map List.length := by
    rw [← net.channels.map_queue_toList, List.map_map]
    rfl
  unfold Network.pending
  rw [hSizes, ← List.sum_eq_foldr, List.flatMap_def, List.length_flatten]

theorem Network.pending_eq_zero_iff {net : Network} :
    net.pending = 0 ↔ ∀ link, net.channels.queue link = [] := by
  rw [net.pending_eq, List.length_eq_zero_iff, List.flatMap_eq_nil_iff]
  refine ⟨fun hNone link => ?_, fun hNone link _ => hNone link⟩
  by_cases hLink : net.channels.contains link = true
  · exact hNone link (ChannelTable.mem_links_iff.mpr hLink)
  · exact ChannelTable.queue_eq_nil hLink

/-! ### Ledgers -/

theorem naturalSum_paying (amounts : List UInt64) :
    naturalSum (paying amounts) = naturalSum amounts := by
  induction amounts with
  | nil => rfl
  | cons amount rest ih =>
      have hCons : naturalSum (amount :: rest) = amount.toNat + naturalSum rest := rfl
      by_cases hPays : 0 < amount
      · have hKept : paying (amount :: rest) = amount :: paying rest :=
          List.filter_cons_of_pos (decide_eq_true hPays)
        rw [hKept, hCons, ← ih]
        rfl
      · have hLeft : paying (amount :: rest) = paying rest :=
          List.filter_cons_of_neg fun hKept => hPays (of_decide_eq_true hKept)
        have hZero : amount.toNat = 0 := Nat.eq_zero_of_not_pos hPays
        rw [hLeft, hCons, ih, hZero, Nat.zero_add]

namespace Ledger

theorem mem_keys_of_queue {ledger : Ledger} {link : Link} (hQueue : ledger.queue link ≠ []) :
    link ∈ ledger.queues.keys := by
  rw [SortedMap.mem_keys_iff]
  unfold queue at hQueue
  cases hFound : ledger.queues.get? link with
  | some amounts => exact ⟨amounts, rfl⟩
  | none =>
      rw [hFound] at hQueue
      exact absurd rfl hQueue

/-- The tokens of a ledger, link by link. -/
theorem total_eq_of_links {ledger : Ledger} {links : List Link} (hNodup : links.Nodup)
    (hCover : ∀ link, ledger.queue link ≠ [] → link ∈ links) :
    ledger.total = naturalSum ledger.balances.values +
      (links.map fun link => naturalSum (ledger.queue link)).sum := by
  have hValues : ledger.queues.values.map naturalSum =
      ledger.queues.keys.map fun link => naturalSum (ledger.queue link) := by
    unfold SortedMap.values SortedMap.keys
    rw [List.map_map, List.map_map]
    apply List.map_congr_left
    intro entry hEntry
    show naturalSum entry.2 = naturalSum (ledger.queue entry.1)
    unfold queue
    rw [SortedMap.get?_eq_some_iff.mpr hEntry, Option.getD_some]
  unfold total
  rw [hValues]
  refine congrArg (_ + ·) (sum_map_eq_of_support ledger.queues.nodup_keys hNodup ?_)
  intro link hCounts
  have hQueue : ledger.queue link ≠ [] := fun hEmpty => hCounts (congrArg naturalSum hEmpty)
  exact ⟨fun _ => hCover link hQueue, fun _ => mem_keys_of_queue hQueue⟩

end Ledger

/-- Transfers come to the same, whether they are added up one after another or link by link. -/
theorem naturalSum_transfers {transfers : List Transfer} {links : List Link}
    (hNodup : links.Nodup) (hLinks : ∀ transfer ∈ transfers, transfer.link ∈ links) :
    (links.map fun link => naturalSum
        ((transfers.filter fun transfer => transfer.link = link).map Transfer.amount)).sum =
      naturalSum (transfers.map Transfer.amount) := by
  induction transfers with
  | nil =>
      refine (sum_map_eq_of_support hNodup List.nodup_nil fun link hCounts => ?_).trans rfl
      exact absurd rfl hCounts
  | cons transfer rest ih =>
      have hSplit : ∀ link, naturalSum
          (((transfer :: rest).filter fun other => other.link = link).map Transfer.amount) =
            (if transfer.link = link then transfer.amount.toNat else 0) +
              naturalSum ((rest.filter fun other => other.link = link).map Transfer.amount) := by
        intro link
        by_cases hLink : transfer.link = link
        · rw [List.filter_cons_of_pos (by simp [hLink]), if_pos hLink]
          rfl
        · rw [List.filter_cons_of_neg (by simp [hLink]), if_neg hLink, Nat.zero_add]
      -- The transfer counts on its own link and nowhere else.
      have hOne : (links.map fun link =>
          if transfer.link = link then transfer.amount.toNat else 0).sum =
            transfer.amount.toNat := by
        refine (sum_map_eq_of_support hNodup (List.nodup_singleton transfer.link) ?_).trans ?_
        · intro link hCounts
          have hLink : transfer.link = link := of_not_not fun hOther => hCounts (if_neg hOther)
          subst hLink
          simp [hLinks transfer List.mem_cons_self]
        · simp
      rw [List.map_congr_left fun link _ => hSplit link, List.sum_map_add, hOne,
        ih fun other hOther => hLinks other (List.mem_cons_of_mem _ hOther)]
      rfl

end TokenNet
