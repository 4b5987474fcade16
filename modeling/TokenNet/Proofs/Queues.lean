import TokenNet.Journal
import TokenNet.Proofs.Maps

namespace TokenNet

/-!
# Queues of channels

The view of a table of channels as a queue of parcels for each link, and what the
changes that a network makes do to it: a parcel joins the queue of its link behind all
others (`queue_post`), and another queue takes the place of the one of a link
(`queue_setQueue`).  Neither adds or removes a link.
-/

attribute [ext] Link

/-- The link that a parcel is sent on. -/
def Parcel.link (parcel : Parcel) : Link := ⟨parcel.source, parcel.target⟩

namespace Journal

/-- Writes events one after another. -/
def writeAll (journal : Journal) (events : List Event) : Journal := events.foldl write journal

@[simp] theorem toList_write (journal : Journal) (event : Event) :
    (journal.write event).toList = journal.toList ++ [event] :=
  Array.toList_push

@[simp] theorem toList_writeAll (journal : Journal) (events : List Event) :
    (journal.writeAll events).toList = journal.toList ++ events := by
  induction events generalizing journal with
  | nil => exact (List.append_nil _).symm
  | cons event rest ih =>
      show ((journal.write event).writeAll rest).toList = _
      rw [ih, toList_write, List.append_assoc, List.singleton_append]

end Journal

namespace ChannelTable

/-- The parcels under way on a link, the oldest first. -/
def queue (table : ChannelTable) (link : Link) : List Parcel :=
  ((table.get? link).map Channel.queue).getD []

/-- The table with another queue for a link; a link without channel gets none. -/
def setQueue (table : ChannelTable) (link : Link) (queue : List Parcel) : ChannelTable :=
  match table.get? link with
  | some channel => table.insert link { channel with queue := queue }
  | none => table

/-- Puts a parcel behind all others of its link. -/
def post (table : ChannelTable) (parcel : Parcel) : ChannelTable :=
  table.setQueue parcel.link (table.queue parcel.link ++ [parcel])

/-- Puts parcels on their links one after another. -/
def postAll (table : ChannelTable) (parcels : List Parcel) : ChannelTable :=
  parcels.foldl post table

theorem contains_iff {table : ChannelTable} {link : Link} :
    table.contains link = true ↔ ∃ channel, table.get? link = some channel :=
  Option.isSome_iff_exists

theorem queue_of_get? {table : ChannelTable} {link : Link} {channel : Channel}
    (hFound : table.get? link = some channel) : table.queue link = channel.queue := by
  unfold queue
  rw [hFound]
  rfl

theorem queue_eq_nil {table : ChannelTable} {link : Link} (hMissing : ¬ table.contains link = true) :
    table.queue link = [] := by
  unfold queue
  cases hFound : table.get? link with
  | none => rfl
  | some channel => exact absurd (contains_iff.mpr ⟨channel, hFound⟩) hMissing

theorem contains_of_mem_queue {table : ChannelTable} {link : Link} {parcel : Parcel}
    (hMember : parcel ∈ table.queue link) : table.contains link = true := by
  cases hLink : table.contains link with
  | true => rfl
  | false =>
      rw [queue_eq_nil (Bool.eq_false_iff.mp hLink)] at hMember
      exact absurd hMember List.not_mem_nil

/-! ### A new link -/

theorem contains_insert {table : ChannelTable} {link other : Link} {channel : Channel} :
    (table.insert link channel).contains other = true ↔
      link = other ∨ table.contains other = true := by
  unfold contains
  rw [get?_insert]
  by_cases hEqual : link = other <;> simp [hEqual]

/-- A link that gets its channel has nothing under way. -/
theorem queue_insert_ofLink {table : ChannelTable} {link : Link}
    (hNew : ¬ table.contains link = true) (other : Link) :
    (table.insert link (Channel.ofLink link)).queue other = table.queue other := by
  by_cases hEqual : link = other
  · subst hEqual
    rw [queue_eq_nil hNew, queue_of_get? (by rw [get?_insert, if_pos rfl])]
    rfl
  · unfold queue
    rw [get?_insert, if_neg hEqual]

/-! ### Another queue for a link -/

theorem get?_setQueue (table : ChannelTable) (link other : Link) (parcels : List Parcel) :
    (table.setQueue link parcels).get? other =
      if link = other then (table.get? link).map fun channel => { channel with queue := parcels }
      else table.get? other := by
  unfold setQueue
  cases hFound : table.get? link with
  | none =>
      by_cases hEqual : link = other
      · subst hEqual
        rw [if_pos rfl, hFound, Option.map_none]
      · rw [if_neg hEqual]
  | some channel => rw [get?_insert, Option.map_some]

@[simp] theorem contains_setQueue (table : ChannelTable) (link other : Link)
    (parcels : List Parcel) :
    (table.setQueue link parcels).contains other = table.contains other := by
  unfold contains
  rw [get?_setQueue]
  by_cases hEqual : link = other
  · rw [if_pos hEqual, Option.isSome_map, hEqual]
  · rw [if_neg hEqual]

theorem queue_setQueue {table : ChannelTable} {link : Link} (hLink : table.contains link = true)
    (parcels : List Parcel) (other : Link) :
    (table.setQueue link parcels).queue other =
      if link = other then parcels else table.queue other := by
  obtain ⟨channel, hFound⟩ := contains_iff.mp hLink
  unfold queue
  rw [get?_setQueue]
  by_cases hEqual : link = other
  · rw [if_pos hEqual, if_pos hEqual, hFound]
    rfl
  · rw [if_neg hEqual, if_neg hEqual]

/-! ### Parcels that join their queues -/

@[simp] theorem contains_post (table : ChannelTable) (parcel : Parcel) (link : Link) :
    (table.post parcel).contains link = table.contains link :=
  contains_setQueue ..

theorem queue_post (table : ChannelTable) (parcel : Parcel)
    (hLink : table.contains parcel.link = true) (link : Link) :
    (table.post parcel).queue link =
      table.queue link ++ if parcel.link = link then [parcel] else [] := by
  unfold post
  rw [queue_setQueue hLink]
  by_cases hEqual : parcel.link = link
  · rw [if_pos hEqual, if_pos hEqual, hEqual]
  · rw [if_neg hEqual, if_neg hEqual, List.append_nil]

@[simp] theorem contains_postAll (table : ChannelTable) (parcels : List Parcel) (link : Link) :
    (table.postAll parcels).contains link = table.contains link := by
  induction parcels generalizing table with
  | nil => rfl
  | cons parcel rest ih => exact (ih (table.post parcel)).trans (contains_post table parcel link)

/-- Every queue gets the parcels of its link, in the order in which they are sent. -/
theorem queue_postAll {table : ChannelTable} {parcels : List Parcel}
    (hLinks : ∀ parcel ∈ parcels, table.contains parcel.link = true) (link : Link) :
    (table.postAll parcels).queue link =
      table.queue link ++ parcels.filter fun parcel => parcel.link = link := by
  induction parcels generalizing table with
  | nil => exact (List.append_nil _).symm
  | cons parcel rest ih =>
      have hRest : ∀ later ∈ rest, (table.post parcel).contains later.link = true := by
        intro later hLater
        rw [contains_post]
        exact hLinks later (List.mem_cons_of_mem _ hLater)
      show ((table.post parcel).postAll rest).queue link = _
      rw [ih hRest, queue_post table parcel (hLinks parcel List.mem_cons_self), List.append_assoc,
        List.filter_cons]
      by_cases hEqual : parcel.link = link <;> simp [hEqual]

/-! ### Tables that keep every parcel on its own link -/

/-- Every channel serves the link it is stored under, and so does every parcel on it. -/
structure Sound (table : ChannelTable) : Prop where
  /-- A channel is stored under its link. -/
  link_eq : ∀ {link channel}, table.get? link = some channel → channel.link = link
  /-- A parcel is on the channel of its link. -/
  parcel_link : ∀ {link parcel}, parcel ∈ table.queue link → parcel.link = link

theorem Sound.insert_ofLink {table : ChannelTable} {link : Link} (hSound : table.Sound)
    (hNew : ¬ table.contains link = true) :
    (table.insert link (Channel.ofLink link)).Sound := by
  refine ⟨fun {other channel} hFound => ?_, fun {other parcel} hMember => ?_⟩
  · rw [get?_insert] at hFound
    by_cases hEqual : link = other
    · rw [if_pos hEqual] at hFound
      cases hFound
      exact hEqual
    · rw [if_neg hEqual] at hFound
      exact hSound.link_eq hFound
  · rw [queue_insert_ofLink hNew] at hMember
    exact hSound.parcel_link hMember

theorem Sound.setQueue {table : ChannelTable} (hSound : table.Sound) {link : Link}
    {parcels : List Parcel} (hParcels : ∀ parcel ∈ parcels, parcel.link = link) :
    (table.setQueue link parcels).Sound := by
  by_cases hLink : table.contains link = true
  · refine ⟨fun {other channel} hFound => ?_, fun {other parcel} hMember => ?_⟩
    · rw [get?_setQueue] at hFound
      by_cases hEqual : link = other
      · rw [if_pos hEqual, Option.map_eq_some_iff] at hFound
        obtain ⟨old, hOld, rfl⟩ := hFound
        exact (hSound.link_eq hOld).trans hEqual
      · rw [if_neg hEqual] at hFound
        exact hSound.link_eq hFound
    · rw [queue_setQueue hLink] at hMember
      by_cases hEqual : link = other
      · rw [if_pos hEqual] at hMember
        exact (hParcels parcel hMember).trans hEqual
      · rw [if_neg hEqual] at hMember
        exact hSound.parcel_link hMember
  · have hNone : table.get? link = none := by
      cases hFound : table.get? link with
      | none => rfl
      | some channel => exact absurd (contains_iff.mpr ⟨channel, hFound⟩) hLink
    unfold ChannelTable.setQueue
    rw [hNone]
    exact hSound

theorem Sound.post {table : ChannelTable} (hSound : table.Sound) (parcel : Parcel) :
    (table.post parcel).Sound := by
  apply hSound.setQueue
  intro other hOther
  rcases List.mem_append.mp hOther with hOld | hNew
  · exact hSound.parcel_link hOld
  · rw [List.mem_singleton.mp hNew]

theorem Sound.postAll {table : ChannelTable} (hSound : table.Sound) (parcels : List Parcel) :
    (table.postAll parcels).Sound := by
  induction parcels generalizing table with
  | nil => exact hSound
  | cons parcel rest ih => exact ih (hSound.post parcel)

end ChannelTable

end TokenNet
