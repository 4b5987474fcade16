import TokenNet.Text.Decimal

namespace TokenNet

/-!
# Messages

A message either moves tokens or is the marker of a snapshot, which separates
what was sent on a link before the sender took part from what was sent after.
-/

/-- The number of a snapshot. -/
abbrev SnapshotId : Type := UInt64

/-- What a link carries. -/
inductive Message where
  /-- Moves tokens to the receiver. -/
  | token (amount : UInt64)
  /-- Marks where a snapshot cuts the link. -/
  | marker (snapshot : SnapshotId)
deriving DecidableEq, Repr

namespace Message

/-- Whether the message is a marker. -/
def isMarker : Message → Bool
  | token _ => false
  | marker _ => true

/-- The tokens that the message carries; a marker carries none. -/
def amount? : Message → Option UInt64
  | token amount => some amount
  | marker _ => none

/-- The snapshot that the message marks. -/
def snapshot? : Message → Option SnapshotId
  | token _ => none
  | marker snapshot => some snapshot

/-- The message as a short text. -/
def text : Message → String
  | token amount => "token(" ++ Text.decimalWord amount ++ ")"
  | marker snapshot => "marker(" ++ Text.decimalWord snapshot ++ ")"

end Message

end TokenNet
