import TokenNet.Channel
import TokenNet.Form.Message

namespace TokenNet

/-!
# JSON forms of channels and of the parcels on them
-/

open JsonForm

instance : JsonForm Parcel where
  toJson parcel := Json.record ["src", "dest", "message", "receive_time"]
    [toJson parcel.source, toJson parcel.target, toJson parcel.message, toJson parcel.due]
  ofJson? json := do
    let [source, target, message, due] ←
      json.record? ["src", "dest", "message", "receive_time"] | none
    return ⟨← Json.required source, ← Json.required target, ← Json.required message,
      ← Json.required due⟩

instance : JsonForm Channel where
  toJson channel := Json.record ["src", "dest", "queue"]
    [toJson channel.source, toJson channel.target, toJson channel.queue]
  ofJson? json := do
    let [source, target, queue] ← json.record? ["src", "dest", "queue"] | none
    return ⟨← Json.required source, ← Json.required target, ← Json.required queue⟩

end TokenNet
