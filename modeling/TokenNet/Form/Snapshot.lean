import TokenNet.Json.Form
import TokenNet.Snapshot.Basic

namespace TokenNet

/-!
# JSON forms of snapshots
-/

open JsonForm

instance : JsonForm Link where
  toJson link := Json.record ["src", "dest"] [toJson link.source, toJson link.target]
  ofJson? json := do
    let [source, target] ← json.record? ["src", "dest"] | none
    return ⟨← Json.required source, ← Json.required target⟩

instance : JsonForm Transfer where
  toJson transfer := Json.record ["src", "dest", "amount"]
    [toJson transfer.source, toJson transfer.target, toJson transfer.amount]
  ofJson? json := do
    let [source, target, amount] ← json.record? ["src", "dest", "amount"] | none
    return ⟨← Json.required source, ← Json.required target, ← Json.required amount⟩

instance : JsonForm Report where
  toJson report := Json.record ["snapshot_id", "node_id", "balance", "in_flight"]
    [toJson report.snapshot, toJson report.node, toJson report.balance, toJson report.inFlight]
  ofJson? json := do
    let [snapshot, node, balance, inFlight] ←
      json.record? ["snapshot_id", "node_id", "balance", "in_flight"] | none
    return ⟨← Json.required snapshot, ← Json.required node, ← Json.required balance,
      ← Json.required inFlight⟩

instance : JsonForm Snapshot where
  toJson snapshot := Json.record ["id", "token_map", "messages"]
    [toJson snapshot.id, toJson snapshot.balances, toJson snapshot.messages]
  ofJson? json := do
    let [id, balances, messages] ← json.record? ["id", "token_map", "messages"] | none
    return ⟨← Json.required id, ← Json.required balances, ← Json.required messages⟩

end TokenNet
