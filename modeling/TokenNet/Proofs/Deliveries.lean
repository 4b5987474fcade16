import TokenNet.Proofs.Chronicle
import TokenNet.Proofs.Fresh

namespace TokenNet

/-!
# What the journal tells of sends and deliveries

On every link the messages that the journal tells to have been sent are those that it tells to
have been received, in the same order, followed by those that are under way
(`Network.Run.accounts`).  So everything that has been sent has been received exactly if nothing
is under way.  Of tokens the journal tells the same sends and deliveries as the run, in the same
order (`Network.Run.transfers`).
-/

/-- The message that an event tells to have been sent on a link. -/
def Event.sentOn? (link : Link) : Event → Option Message
  | .sent _ parcel => if parcel.link = link then some parcel.message else none
  | _ => none

/-- The message that an event tells to have been received from a link. -/
def Event.receivedOn? (link : Link) : Event → Option Message
  | .received _ source target message =>
      if (⟨source, target⟩ : Link) = link then some message else none
  | _ => none

namespace Journal

/-- The messages sent on a link, in order. -/
def sentOn (journal : Journal) (link : Link) : List Message :=
  journal.toList.filterMap (Event.sentOn? link)

/-- The messages received from a link, in order. -/
def receivedOn (journal : Journal) (link : Link) : List Message :=
  journal.toList.filterMap (Event.receivedOn? link)

/-- What has been sent has been received or is under way. -/
def Accounts (journal : Journal) (channels : ChannelTable) : Prop :=
  ∀ link, journal.sentOn link =
    journal.receivedOn link ++ (channels.queue link).map Parcel.message

theorem sentOn_eq (journal : Journal) (link : Link) :
    journal.sentOn link = (parcelsOn link journal.toList).map Parcel.message := by
  unfold sentOn parcelsOn
  rw [List.map_filterMap]
  refine List.filterMap_congr fun event _ => ?_
  cases event with
  | sent tick parcel => by_cases hLink : parcel.link = link <;>
      simp [Event.sentOn?, Event.parcelOn?, hLink]
  | _ => rfl

theorem receivedOn_eq (journal : Journal) (link : Link) :
    journal.receivedOn link = (arrivalsOn link journal.toList).map Prod.fst := by
  unfold receivedOn arrivalsOn
  rw [List.map_filterMap]
  refine List.filterMap_congr fun event _ => ?_
  cases event with
  | received tick source target message =>
      by_cases hLink : (⟨source, target⟩ : Link) = link <;>
        simp [Event.receivedOn?, Event.arrivalOn?, hLink]
  | _ => rfl

end Journal

/-- What has come are the messages of the parcels that have come. -/
theorem map_fst_of_cameAs {come : List Parcel} {arrivals : List (Message × UInt64)}
    (hCome : List.Forall₂ Parcel.CameAs come arrivals) :
    arrivals.map Prod.fst = come.map Parcel.message := by
  induction hCome with
  | nil => rfl
  | cons hFirst _ ih => rw [List.map_cons, List.map_cons, hFirst.1, ih]

namespace Network

variable {net after : Network}

theorem Run.accounts {trace : List Happening} (hRun : Run net trace after) (hFresh : net.Fresh) :
    after.journal.Accounts after.channels := by
  intro link
  obtain ⟨events, hTells⟩ := hRun.tells hFresh.wellFormed
  obtain ⟨come, hFlow, hCome⟩ := hTells.flow link
  have hEvents : after.journal.toList = events := by
    rw [hTells.toList_journal, hFresh.journal_eq_nil, List.nil_append]
  rw [hFresh.queue_eq_nil, List.nil_append] at hFlow
  rw [Journal.sentOn_eq, Journal.receivedOn_eq, hEvents, hFlow, map_fst_of_cameAs hCome,
    List.map_append]

end Network

/-! ### Sends and deliveries in order -/

/-- Whether tokens are sent or delivered. -/
def Happening.isTransfer : Happening → Bool
  | .sent _ _ => true
  | .delivered _ _ => true
  | _ => false

/-- The send or delivery of tokens that an event tells. -/
def Event.transfer? : Event → Option Happening
  | .sent _ ⟨source, target, .token amount, _⟩ => some (.sent ⟨source, target⟩ amount)
  | .received _ source target (.token amount) => some (.delivered ⟨source, target⟩ amount)
  | _ => none

/-- The sends and deliveries of tokens that a journal tells, in order. -/
def Journal.transfers (journal : Journal) : List Happening :=
  journal.toList.filterMap Event.transfer?

namespace Journal

theorem transfers_write (journal : Journal) (event : Event) :
    (journal.write event).transfers = journal.transfers ++ event.transfer?.toList := by
  unfold transfers
  rw [toList_write, List.filterMap_append]
  cases hTransfer : event.transfer? <;> simp [hTransfer]

/-- Markers are no transfers. -/
theorem transfers_writeAll_markers (journal : Journal) {parcels : List Parcel}
    {snapshot : SnapshotId} (tick : UInt64)
    (hParcels : ∀ parcel ∈ parcels, parcel.message = .marker snapshot) :
    (journal.writeAll (parcels.map (Event.sent tick))).transfers = journal.transfers := by
  have hNone : (parcels.map (Event.sent tick)).filterMap Event.transfer? = [] := by
    rw [List.filterMap_map, List.filterMap_eq_nil_iff]
    intro parcel hParcel
    obtain ⟨source, target, message, due⟩ := parcel
    have hMarker : message = .marker snapshot := hParcels _ hParcel
    subst hMarker
    rfl
  unfold transfers
  rw [toList_writeAll, List.filterMap_append, hNone, List.append_nil]

end Journal

namespace Network

theorem transfers_withRecording (net : Network) (node : Node) (collector : Collector)
    (recording : Recording) :
    (net.withRecording node collector recording).journal.transfers = net.journal.transfers := by
  unfold withRecording
  split
  · exact (Journal.transfers_write ..).trans (List.append_nil _)
  · rfl

theorem MarkerEffect.transfers {net after : Network} {source target : String}
    {snapshot : SnapshotId} (hEffect : MarkerEffect net source target snapshot after) :
    after.journal.transfers = net.journal.transfers := by
  cases hEffect with
  | late hStale => exact (Journal.transfers_write ..).trans (List.append_nil _)
  | repeated hCurrent hNode hRecording hSeen =>
      exact (Journal.transfers_write ..).trans (List.append_nil _)
  | first hNode hFresh hFound hAwaited hTargets hParcels =>
      rw [transfers_withRecording]
      exact Journal.transfers_writeAll_markers _ _ fun parcel hParcel => (hParcels parcel hParcel).2
  | next hNode hRecording hUnseen hFound hAwaited => exact transfers_withRecording ..

theorem arrival_marker (net : Network) (source target : String) (snapshot : SnapshotId)
    (due : UInt64) :
    (net.arrival ⟨source, target, .marker snapshot, due⟩).filter Happening.isTransfer = [] := by
  unfold arrival
  simp only
  split <;> rfl

/-- The journal tells each send and each delivery of tokens as it happens. -/
theorem Change.transfers {net after : Network} {happenings : List Happening}
    (hChange : Change net happenings after) :
    after.journal.transfers = net.journal.transfers ++ happenings.filter Happening.isTransfer := by
  cases hChange with
  | idle clock generator hStarted => exact (List.append_nil _).symm
  | addNode tokens hOpen hNew => exact (List.append_nil _).symm
  | addLink hOpen hSource hTarget hDistinct hNew => exact (List.append_nil _).symm
  | send generator due hNode hLink hEnough => exact Journal.transfers_write ..
  | announce hName hNext => exact Journal.transfers_write ..
  | join hNode hFresh hFound hAwaited hTargets hParcels =>
      rw [transfers_withRecording]
      exact (Journal.transfers_writeAll_markers _ _ fun parcel hParcel =>
        (hParcels parcel hParcel).2).trans (List.append_nil _).symm
  | credit hQueue hNode hTokens => exact Journal.transfers_write ..
  | marker hQueue hEffect =>
      rw [hEffect.transfers, arrival_marker]
      exact Journal.transfers_write ..
  | notify hFound hAwaited => exact Journal.transfers_write ..
  | retire hFound hComplete => exact (List.append_nil _).symm
  | abandon snapshots => exact (List.append_nil _).symm

/-- The journal tells the same sends and deliveries as the run. -/
theorem Run.transfers {net after : Network} {trace : List Happening} (hRun : Run net trace after)
    (hWell : net.WellFormed) :
    after.journal.transfers = net.journal.transfers ++ trace.filter Happening.isTransfer := by
  induction hRun with
  | start => exact (List.append_nil _).symm
  | step hEarlier hStep ih =>
      have hBetween := hEarlier.wellFormed hWell
      rw [(hStep.change hBetween).transfers, ih, List.append_assoc, List.filter_append]

end Network

end TokenNet
