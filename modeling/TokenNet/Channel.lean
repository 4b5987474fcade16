import TokenNet.Clock
import TokenNet.Link
import TokenNet.Message

namespace TokenNet

/-!
# Channels

A channel holds the messages under way on one link, first in, first out.  Each
has a tick at which it becomes due, but no message overtakes another: one that
is not yet due holds up all that follow it.
-/

/-- A message under way. -/
structure Parcel where
  /-- The sender. -/
  source : String
  /-- The receiver. -/
  target : String
  /-- What is sent. -/
  message : Message
  /-- The tick from which on the parcel may be delivered. -/
  due : UInt64
deriving DecidableEq, Repr

/-- The parcels under way from one node to another. -/
structure Channel where
  /-- The node that sends. -/
  source : String
  /-- The node that receives. -/
  target : String
  /-- The parcels under way, the oldest first. -/
  queue : List Parcel
deriving DecidableEq, Repr

namespace Channel

/-- The empty channel of a link. -/
def ofLink (link : Link) : Channel := ⟨link.source, link.target, []⟩

/-- The link that the channel serves. -/
def link (channel : Channel) : Link := ⟨channel.source, channel.target⟩

/-- Puts a parcel behind all others.  The parcel has to belong on this channel:
its sender is looked at first, then its receiver. -/
def push (channel : Channel) (parcel : Parcel) : Except Fault Channel :=
  if parcel.source ≠ channel.source then
    .error (.foreignSource parcel.source channel.source)
  else if parcel.target ≠ channel.target then
    .error (.foreignDestination parcel.target channel.target)
  else .ok { channel with queue := channel.queue ++ [parcel] }

/-- The oldest parcel. -/
def head? (channel : Channel) : Option Parcel := channel.queue.head?

/-- Takes the oldest parcel off if it is due. -/
def popDue? (channel : Channel) (clock : Clock) : Option (Parcel × Channel) :=
  match channel.queue with
  | [] => none
  | parcel :: rest =>
      if clock.isDue parcel.due then some (parcel, { channel with queue := rest })
      else none

/-- The number of parcels under way. -/
def size (channel : Channel) : Nat := channel.queue.length

/-- Whether nothing is under way. -/
def isEmpty (channel : Channel) : Bool := channel.queue.isEmpty

/-- The amounts of the token messages under way, the oldest first. -/
def amounts (channel : Channel) : List UInt64 :=
  channel.queue.filterMap fun parcel => parcel.message.amount?

/-- The tokens under way. -/
def tokens (channel : Channel) : Except Fault UInt64 := checkedSum channel.amounts

end Channel

end TokenNet
