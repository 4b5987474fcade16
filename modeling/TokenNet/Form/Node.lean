import TokenNet.Node
import TokenNet.Form.Snapshot

namespace TokenNet

/-!
# JSON forms of nodes
-/

open JsonForm

namespace Recording

/-- The fields of a recording. -/
def fieldNames : List String :=
  ["snapshot_id", "recorded_balance", "markers_seen", "awaiting", "in_flight"]

end Recording

instance : JsonForm Recording where
  toJson recording := Json.record Recording.fieldNames
    [toJson recording.snapshot, toJson recording.balance, toJson recording.seen,
      toJson recording.awaiting, toJson recording.inFlight]
  ofJson? json := do
    let [snapshot, balance, seen, awaiting, inFlight] ←
      json.record? Recording.fieldNames | none
    return ⟨← Json.required snapshot, ← Json.required balance, ← Json.required seen,
      ← Json.required awaiting, ← Json.required inFlight⟩

namespace Node

/-- The fields of a node. -/
def fieldNames : List String := ["id", "tokens", "outbound", "inbound", "recordings"]

end Node

instance : JsonForm Node where
  toJson node := Json.record Node.fieldNames
    [toJson node.name, toJson node.tokens, toJson node.outbound, toJson node.inbound,
      toJson node.recordings]
  ofJson? json := do
    let [name, tokens, outbound, inbound, recordings] ← json.record? Node.fieldNames | none
    return ⟨← Json.required name, ← Json.required tokens, ← Json.required outbound,
      ← Json.required inbound, ← Json.required recordings⟩

end TokenNet
