import TokenNet.Channel
import TokenNet.SortedMap.Lookup

namespace TokenNet

/-!
# Tables of channels

The channels of a network stand in rows: one row for each sender, in the order of
the senders, and in it the channels by receiver.  A sender that looks for something
to deliver goes through its own row and through nothing else.  Storing changes the
answer for one link (`get?_insert`).
-/

/-- The channels of a network. -/
structure ChannelTable where
  /-- The channels by receiver, in rows by sender. -/
  rows : SortedMap String (SortedMap String Channel)
deriving DecidableEq, Repr

namespace ChannelTable

/-- The table without channels. -/
def empty : ChannelTable := ⟨SortedMap.empty⟩

/-- The row of a sender, which is empty if nothing leads away from it. -/
def row (table : ChannelTable) (source : String) : SortedMap String Channel :=
  (table.rows.get? source).getD SortedMap.empty

/-- The channel of a link. -/
def get? (table : ChannelTable) (link : Link) : Option Channel :=
  (table.row link.source).get? link.target

/-- Whether a link has a channel. -/
def contains (table : ChannelTable) (link : Link) : Bool := (table.get? link).isSome

/-- Stores the channel of a link, in place of an older one. -/
def insert (table : ChannelTable) (link : Link) (channel : Channel) : ChannelTable :=
  ⟨table.rows.insert link.source ((table.row link.source).insert link.target channel)⟩

/-- The channels that lead away from a node, each with its receiver, in the order of
the receivers. -/
def leaving (table : ChannelTable) (source : String) : List (String × Channel) :=
  (table.row source).toList

/-- All channels, ordered by sender and then by receiver. -/
def toList (table : ChannelTable) : List Channel :=
  table.rows.values.flatMap SortedMap.values

@[simp] theorem get?_empty (link : Link) : empty.get? link = none := by
  simp [get?, row, empty]

theorem row_insert (table : ChannelTable) (link : Link) (channel : Channel)
    (source : String) :
    (table.insert link channel).row source =
      if link.source = source then (table.row source).insert link.target channel
      else table.row source := by
  unfold row insert
  rw [SortedMap.get?_insert]
  by_cases hSource : link.source = source
  · simp [hSource, row]
  · simp [hSource]

/-- Storing a channel changes the answer for one link. -/
theorem get?_insert (table : ChannelTable) (link other : Link) (channel : Channel) :
    (table.insert link channel).get? other =
      if link = other then some channel else table.get? other := by
  unfold get?
  rw [row_insert]
  by_cases hSource : link.source = other.source
  · rw [if_pos hSource, SortedMap.get?_insert]
    by_cases hTarget : link.target = other.target
    · have hEqual : link = other := by
        cases link
        cases other
        simp_all
      rw [if_pos hTarget, if_pos hEqual]
    · rw [if_neg hTarget, if_neg fun hEqual => hTarget (congrArg Link.target hEqual)]
  · rw [if_neg hSource, if_neg fun hEqual => hSource (congrArg Link.source hEqual)]

/-- What leads away from a node are the channels of its links. -/
theorem mem_leaving_iff {table : ChannelTable} {source target : String} {channel : Channel} :
    (target, channel) ∈ table.leaving source ↔ table.get? ⟨source, target⟩ = some channel :=
  SortedMap.get?_eq_some_iff.symm

end ChannelTable

end TokenNet
