import TokenNet.Proofs.Grounded
import TokenNet.Proofs.Totals

namespace TokenNet

/-!
# How fast a node sends off what is under way from it

The lane of a node is the row of its channels.  While nothing but tokens is under way, every
tick takes one parcel off each lane that has one that is due (`Lane.Served`).  A lane is thus
worked off within a number of ticks exactly if it is no longer than that, and if what is held
back at any of these ticks is no more than the ticks that are left then
(`Network.meets_pass_lanes`).
-/

/-- The channels that lead away from a node, by receiver. -/
abbrev Lane : Type := SortedMap String Channel

namespace Lane

/-- What the queues of a lane weigh together. -/
def weigh (lane : Lane) (weight : List Parcel → Nat) : Nat :=
  (lane.values.map fun channel => weight channel.queue).sum

/-- The number of parcels on a lane. -/
def load (lane : Lane) : Nat := lane.weigh List.length

/-- The number of parcels on a lane that cannot leave at a tick: those that are not due, and
those behind one that is not due. -/
def heldBack (lane : Lane) (tick : Nat) : Nat :=
  lane.weigh fun queue => (queue.dropWhile fun parcel => parcel.due.toNat ≤ tick).length

/-- Whether a lane is worked off within so many ticks after the given one. -/
def DrainsWithin (lane : Lane) (now ticks : Nat) : Prop :=
  lane.load ≤ ticks ∧ ∀ passed < ticks, lane.heldBack (now + passed + 1) + passed < ticks

instance (lane : Lane) (now ticks : Nat) : Decidable (lane.DrainsWithin now ticks) :=
  inferInstanceAs (Decidable (_ ∧ _))

/-- What a tick makes of a lane: one parcel less, unless all are held back. -/
structure Served (now : Nat) (before after : Lane) : Prop where
  /-- One parcel leaves if one can. -/
  load_eq : after.load = max (before.load - 1) (before.heldBack now)
  /-- What is held back later on is not touched. -/
  heldBack_eq : ∀ tick, now ≤ tick → after.heldBack tick = before.heldBack tick

variable {lane before after : Lane}

theorem weigh_insert {target : String} {channel : Channel}
    (hFound : lane.get? target = some channel) (queue : List Parcel)
    (weight : List Parcel → Nat) :
    Lane.weigh (lane.insert target { channel with queue := queue }) weight + weight channel.queue =
      lane.weigh weight + weight queue := by
  have hSum := lane.sum_values_insert target { channel with queue := queue }
    fun channel => weight channel.queue
  rw [hFound, Option.map_some, Option.getD_some] at hSum
  exact hSum

theorem weigh_congr {weight other : List Parcel → Nat}
    (hSame : ∀ {target channel}, lane.get? target = some channel →
      weight channel.queue = other channel.queue) : lane.weigh weight = lane.weigh other := by
  unfold weigh
  refine congrArg List.sum (List.map_congr_left fun channel hChannel => ?_)
  obtain ⟨target, hFound⟩ := SortedMap.mem_values_iff.mp hChannel
  exact hSame hFound

theorem weigh_add (lane : Lane) (weight other : List Parcel → Nat) :
    (lane.weigh fun queue => weight queue + other queue) = lane.weigh weight + lane.weigh other :=
  List.sum_map_add

/-- No more is held back than there is. -/
theorem heldBack_le_load (lane : Lane) (tick : Nat) : lane.heldBack tick ≤ lane.load := by
  have hSplit : lane.load = lane.weigh fun queue =>
      (queue.takeWhile fun parcel => parcel.due.toNat ≤ tick).length +
        (queue.dropWhile fun parcel => parcel.due.toNat ≤ tick).length := by
    refine weigh_congr fun _ => ?_
    rw [← List.length_append, List.takeWhile_append_dropWhile]
  rw [hSplit, weigh_add]
  exact Nat.le_add_left _ _

theorem load_eq_zero_iff :
    lane.load = 0 ↔ ∀ target channel, lane.get? target = some channel → channel.queue = [] := by
  have hLength : lane.load = (lane.values.flatMap Channel.queue).length := by
    rw [List.flatMap_def, List.length_flatten, List.map_map]
    rfl
  rw [hLength, List.length_eq_zero_iff, List.flatMap_eq_nil_iff]
  constructor
  · intro hNone target channel hFound
    exact hNone channel (SortedMap.mem_values_iff.mpr ⟨target, hFound⟩)
  · intro hNone channel hChannel
    obtain ⟨target, hFound⟩ := SortedMap.mem_values_iff.mp hChannel
    exact hNone target channel hFound

/-- A lane on which no queue starts with a parcel that is due stays as it is. -/
theorem served_of_none_due {now : Nat}
    (hNone : ∀ {target channel parcel}, lane.get? target = some channel →
      channel.queue.head? = some parcel → now < parcel.due.toNat) : Served now lane lane := by
  refine ⟨?_, fun _ _ => rfl⟩
  have hAll : lane.heldBack now = lane.load := by
    refine weigh_congr fun {target channel} hFound => ?_
    cases hQueue : channel.queue with
    | nil => rfl
    | cons parcel rest =>
        have hLate := hNone hFound (congrArg List.head? hQueue)
        rw [List.dropWhile_cons_of_neg (by simpa using hLate)]
  omega

/-- A parcel that is due leaves its lane. -/
theorem served_of_due {now : Nat} {target : String} {channel : Channel} {parcel : Parcel}
    {rest : List Parcel} (hFound : lane.get? target = some channel)
    (hQueue : channel.queue = parcel :: rest) (hDue : parcel.due.toNat ≤ now) :
    Served now lane (lane.insert target { channel with queue := rest }) := by
  -- What is due now is due at every later tick, so it was never held back.
  have hHeldBack : ∀ tick, now ≤ tick → Lane.heldBack
      (lane.insert target { channel with queue := rest }) tick = lane.heldBack tick := by
    intro tick hTick
    have hWeight := lane.weigh_insert hFound rest fun queue =>
      (queue.dropWhile fun parcel => parcel.due.toNat ≤ tick).length
    rw [hQueue, List.dropWhile_cons_of_pos (by simpa using Nat.le_trans hDue hTick)] at hWeight
    exact Nat.add_right_cancel hWeight
  have hLoad := lane.weigh_insert hFound rest List.length
  rw [hQueue, List.length_cons] at hLoad
  refine ⟨?_, hHeldBack⟩
  have hFewer := heldBack_le_load (lane.insert target { channel with queue := rest }) now
  rw [hHeldBack now (Nat.le_refl _)] at hFewer
  unfold load at *
  omega

/-- A tick leaves one tick less for what is left of a lane. -/
theorem Served.drainsWithin_iff {now ticks : Nat} (hServed : Served (now + 1) before after) :
    before.DrainsWithin now (ticks + 1) ↔ after.DrainsWithin (now + 1) ticks := by
  -- The ticks that are left to the rest are those that are left to all, but for the first.
  have hLater : ∀ passed, after.heldBack (now + 1 + passed + 1) =
      before.heldBack (now + (passed + 1) + 1) := by
    intro passed
    rw [hServed.heldBack_eq _ (by omega), Nat.add_right_comm now 1 passed, Nat.add_assoc now]
  unfold DrainsWithin
  rw [hServed.load_eq]
  constructor
  · rintro ⟨hLoad, hHeldBack⟩
    have hFirst : before.heldBack (now + 1) < ticks + 1 := hHeldBack 0 (Nat.succ_pos _)
    refine ⟨by omega, fun passed hPassed => ?_⟩
    have hNext := hHeldBack (passed + 1) (by omega)
    rw [hLater]
    omega
  · rintro ⟨hLoad, hHeldBack⟩
    refine ⟨by omega, fun passed hPassed => ?_⟩
    cases passed with
    | zero =>
        show before.heldBack (now + 1) < ticks + 1
        omega
    | succ passed =>
        have hNext := hHeldBack passed (by omega)
        rw [hLater] at hNext
        omega

end Lane

theorem ChannelTable.row_setQueue {table : ChannelTable} {link : Link} {channel : Channel}
    (hFound : table.get? link = some channel) (parcels : List Parcel) (source : String) :
    (table.setQueue link parcels).row source =
      if link.source = source then
        (table.row source).insert link.target { channel with queue := parcels }
      else table.row source := by
  unfold setQueue
  rw [hFound]
  exact table.row_insert ..

namespace Network

variable {net after : Network}

/-- Nothing but tokens is under way. -/
def OnlyTokens (net : Network) : Prop :=
  ∀ ⦃link parcel⦄, parcel ∈ net.channels.queue link → ∃ amount, parcel.message = .token amount

/-- What the turns of some senders make of a network with nothing but tokens under way. -/
structure Scanned (net : Network) (senders : List String) (after : Network) : Prop where
  /-- No time passes. -/
  clock_eq : after.clock = net.clock
  /-- Nothing but tokens is under way. -/
  onlyTokens : after.OnlyTokens
  /-- Every sender has had its turn. -/
  served : ∀ source ∈ senders,
    Lane.Served net.tickNow.toNat (net.channels.row source) (after.channels.row source)
  /-- Whoever has had no turn has sent nothing off. -/
  row_eq : ∀ source, source ∉ senders → after.channels.row source = net.channels.row source

theorem Scanned.nil (hTokens : net.OnlyTokens) : net.Scanned [] net :=
  ⟨rfl, hTokens, fun _ hNone => absurd hNone List.not_mem_nil, fun _ _ => rfl⟩

theorem Scanned.cons {between : Network} {source : String} {rest : List String}
    (hAbsent : source ∉ rest) (hFirst : net.Scanned [source] between)
    (hRest : between.Scanned rest after) : net.Scanned (source :: rest) after := by
  have hNow : between.tickNow = net.tickNow := congrArg Clock.tick hFirst.clock_eq
  refine ⟨hRest.clock_eq.trans hFirst.clock_eq, hRest.onlyTokens, fun other hOther => ?_,
    fun other hOther => ?_⟩
  · rcases List.mem_cons.mp hOther with rfl | hLater
    · rw [hRest.row_eq other hAbsent]
      exact hFirst.served other (List.mem_singleton.mpr rfl)
    · have hDifferent : other ∉ [source] := fun hMember =>
        hAbsent (List.mem_singleton.mp hMember ▸ hLater)
      rw [← hFirst.row_eq other hDifferent, ← hNow]
      exact hRest.served other hLater
  · rw [List.mem_cons, not_or] at hOther
    rw [hRest.row_eq other hOther.2]
    exact hFirst.row_eq other fun hMember => hOther.1 (List.mem_singleton.mp hMember)

/-- A sender that finds nothing due has had its turn. -/
theorem scanned_of_none {source : String} (hTokens : net.OnlyTokens)
    (hTake : takeDue source net = .done none after) : net.Scanned [source] net := by
  refine ⟨rfl, hTokens, fun other hOther => ?_, fun _ _ => rfl⟩
  obtain rfl := List.mem_singleton.mp hOther
  refine Lane.served_of_none_due fun {target channel parcel} hFound hHead => ?_
  obtain ⟨rest, hQueue⟩ := List.head?_eq_some_iff.mp hHead
  have hKept : net.channels.get? ⟨other, target⟩ = some channel := hFound
  rw [← ChannelTable.queue_of_get? hKept] at hQueue
  exact late_of_firstDue?_eq_none (firstDue?_eq_none hTake) hQueue

/-- A parcel with tokens that is due leaves the lane of its sender. -/
theorem scanned_of_some {between : Network} {source : String} {parcel : Parcel}
    {completed : List SnapshotId} (hWell : net.WellFormed) (hTokens : net.OnlyTokens)
    (hTake : takeDue source net = .done (some parcel) between)
    (hDeliver : deliver parcel between = .done completed after) : net.Scanned [source] after := by
  obtain ⟨rest, hSource, hQueue, hDue, rfl⟩ := takeDue_eq_done hWell.wired.sound hTake
  have hLink : net.channels.contains parcel.link = true :=
    ChannelTable.contains_of_mem_queue (hQueue ▸ List.mem_cons_self)
  obtain ⟨channel, hFound⟩ := ChannelTable.contains_iff.mp hLink
  have hFrom : parcel.link.source = source := hSource
  -- Tokens are credited to a node, and no other channel is touched.
  have hChannels : after.clock = net.clock ∧
      after.channels = net.channels.setQueue parcel.link rest := by
    obtain ⟨amount, hAmount⟩ := hTokens (hQueue ▸ List.mem_cons_self)
    obtain ⟨sender, target, message, due⟩ := parcel
    obtain rfl : message = .token amount := hAmount
    obtain ⟨node, tokens, -, -, rfl⟩ := (meets_deliver_token (hWell.popped hQueue).wired
      ((ChannelTable.contains_setQueue ..).trans hLink)).of_done hDeliver
    exact ⟨rfl, rfl⟩
  refine ⟨hChannels.1, ?_, fun other hOther => ?_, fun other hOther => ?_⟩
  · intro link other hOther
    rw [hChannels.2, ChannelTable.queue_setQueue hLink] at hOther
    split at hOther
    · exact hTokens (hQueue ▸ List.mem_cons_of_mem _ hOther)
    · exact hTokens hOther
  · obtain rfl := List.mem_singleton.mp hOther
    rw [hChannels.2, ChannelTable.row_setQueue hFound, if_pos hFrom]
    refine Lane.served_of_due ?_ ?_ (of_decide_eq_true hDue)
    · rw [← hFrom]
      exact hFound
    · rw [← ChannelTable.queue_of_get? hFound]
      exact hQueue
  · rw [hChannels.2, ChannelTable.row_setQueue hFound, if_neg]
    intro hSame
    exact hOther (List.mem_singleton.mpr (hSame.symm.trans hFrom))

theorem meets_scan_lanes {senders : List String} (hNodup : senders.Nodup)
    (hWell : net.WellFormed) (hTokens : net.OnlyTokens) :
    (scan senders net).Meets (fun _ after => net.Scanned senders after) Never := by
  induction senders generalizing net with
  | nil => exact Scanned.nil hTokens
  | cons source rest ih =>
      obtain ⟨hAbsent, hRest⟩ := List.nodup_cons.mp hNodup
      apply Action.meets_bind (meets_takeDue net source)
      rintro due between ⟨hTake, hSame⟩
      cases due with
      | none =>
          obtain rfl := hSame rfl
          exact (ih hRest hWell hTokens).imp fun _ _ hScanned =>
            (scanned_of_none hTokens hTake).cons hAbsent hScanned
      | some parcel =>
          apply Action.meets_bind (meets_deliver hWell hTake).done_self
          rintro completed delivered ⟨hDeliver, hEvolves⟩
          have hFirst := scanned_of_some hWell hTokens hTake hDeliver
          apply Action.meets_bind (ih hRest (hEvolves.wellFormed hWell) hFirst.onlyTokens)
          rintro _ last hScanned
          exact hFirst.cons hAbsent hScanned

/-- In a tick every node has its turn. -/
theorem meets_tick_lanes (hWell : net.WellFormed) (hTokens : net.OnlyTokens) :
    (tick net).Meets (fun _ after => after.tickNow.toNat = net.tickNow.toNat + 1 ∧
      after.OnlyTokens ∧ ∀ source ∈ net.nodes.keys, Lane.Served (net.tickNow.toNat + 1)
        (net.channels.row source) (after.channels.row source)) Never := by
  apply Action.meets_bind_of_done rfl
  apply Action.meets_bind (meets_advance _).done_self
  rintro _ _ ⟨hDone, hAdvance⟩
  have hAdvanced := (Step.freeze.run.trans hAdvance.run).wellFormed hWell
  obtain ⟨clock, hClock, rfl⟩ := advance_eq_done hDone
  have hNow : clock.tick.toNat = net.tickNow.toNat + 1 := Clock.toNat_of_advance hClock
  apply Action.meets_bind_of_done rfl
  apply Action.meets_bind (meets_scan_lanes net.nodes.nodup_keys hAdvanced hTokens)
  rintro _ last hScanned
  refine ⟨?_, hScanned.onlyTokens, fun source hSource => ?_⟩
  · exact (congrArg (fun clock : Clock => clock.tick.toNat) hScanned.clock_eq).trans hNow
  · rw [← hNow]
    exact hScanned.served source hSource

/-- After so many ticks, a lane is empty exactly if it can be worked off within them. -/
theorem meets_pass_lanes {ticks : Nat} (hWell : net.WellFormed) (hTokens : net.OnlyTokens) :
    (pass ticks net).Meets (fun _ after => ∀ source ∈ net.nodes.keys,
      (Lane.load (after.channels.row source) = 0 ↔
        Lane.DrainsWithin (net.channels.row source) net.tickNow.toNat ticks)) Never := by
  induction ticks generalizing net with
  | zero =>
      intro source _
      exact ⟨fun hEmpty => ⟨Nat.le_of_eq hEmpty, fun _ hNone => absurd hNone (Nat.not_lt_zero _)⟩,
        fun hDrains => Nat.le_zero.mp hDrains.1⟩
  | succ ticks ih =>
      apply Action.meets_bind ((meets_tick hWell).and (meets_tick_lanes hWell hTokens))
      rintro _ between ⟨hEvolves, hNow, hBetween, hServed⟩
      apply (ih (hEvolves.wellFormed hWell) hBetween).imp
      intro _ last hRest source hSource
      have hKnown := (hEvolves.extends hWell).mem_nodes_iff.mpr hSource
      rw [hRest source hKnown, hNow]
      exact (hServed source hSource).drainsWithin_iff.symm

end Network

end TokenNet
