import TokenNet.Form.Message
import TokenNet.Journal

namespace TokenNet

/-!
# JSON forms of events and journals
-/

open JsonForm

namespace Event

/-- The fields of an event that a parcel was sent. -/
def sentFields : List String := ["tick", "src", "dest", "message", "receive_time"]

/-- The fields of an event that a message was delivered. -/
def receivedFields : List String := ["tick", "src", "dest", "message"]

/-- The fields of an event in the course of a snapshot. -/
def snapshotFields : List String := ["tick", "node_id", "snapshot_id"]

/-- The fields of an event that a marker was rejected. -/
def rejectedFields : List String := ["tick", "src", "dest", "snapshot_id"]

/-- The content of an event. -/
def content : Event → Json
  | sent tick parcel => Json.record sentFields
      [toJson tick, toJson parcel.source, toJson parcel.target, toJson parcel.message,
        toJson parcel.due]
  | received tick source target message => Json.record receivedFields
      [toJson tick, toJson source, toJson target, toJson message]
  | snapshotStarted tick node snapshot => Json.record snapshotFields
      [toJson tick, toJson node, toJson snapshot]
  | snapshotEnded tick node snapshot => Json.record snapshotFields
      [toJson tick, toJson node, toJson snapshot]
  | markerRejected tick source target snapshot => Json.record rejectedFields
      [toJson tick, toJson source, toJson target, toJson snapshot]

/-- Reads the content of an event that a parcel was sent. -/
def readSent? (json : Json) : Option Event := do
  let [tick, source, target, message, due] ← json.record? sentFields | none
  return .sent (← Json.required tick) ⟨← Json.required source, ← Json.required target,
    ← Json.required message, ← Json.required due⟩

/-- Reads the content of an event that a message was delivered. -/
def readReceived? (json : Json) : Option Event := do
  let [tick, source, target, message] ← json.record? receivedFields | none
  return .received (← Json.required tick) (← Json.required source) (← Json.required target)
    (← Json.required message)

/-- Reads the content of an event in the course of a snapshot. -/
def readSnapshot? (event : UInt64 → String → SnapshotId → Event) (json : Json) :
    Option Event := do
  let [tick, node, snapshot] ← json.record? snapshotFields | none
  return event (← Json.required tick) (← Json.required node) (← Json.required snapshot)

/-- Reads the content of an event that a marker was rejected. -/
def readRejected? (json : Json) : Option Event := do
  let [tick, source, target, snapshot] ← json.record? rejectedFields | none
  return .markerRejected (← Json.required tick) (← Json.required source)
    (← Json.required target) (← Json.required snapshot)

end Event

/-- An event is written as a variant under the name of its kind. -/
instance : JsonForm Event where
  toJson event := Json.variant event.kind event.content
  ofJson? json := do
    let (kind, content) ← json.variant?
    if kind = "MessageSent" then Event.readSent? content
    else if kind = "MessageReceived" then Event.readReceived? content
    else if kind = "SnapshotStarted" then Event.readSnapshot? .snapshotStarted content
    else if kind = "SnapshotEnded" then Event.readSnapshot? .snapshotEnded content
    else if kind = "MarkerRejected" then Event.readRejected? content
    else none

instance : JsonForm Journal where
  toJson journal := Json.record ["events"] [toJson journal.events]
  ofJson? json := do
    let [events] ← json.record? ["events"] | none
    return ⟨← Json.required events⟩

end TokenNet
