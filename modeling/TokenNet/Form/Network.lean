import TokenNet.Network.Traffic
import TokenNet.Form.Snapshot

namespace TokenNet

/-!
# JSON forms of configurations and control events
-/

open JsonForm

instance : JsonForm InitialNode where
  toJson node := Json.record ["id", "tokens"] [toJson node.name, toJson node.tokens]
  ofJson? json := do
    let [name, tokens] ← json.record? ["id", "tokens"] | none
    return ⟨← Json.required name, ← Json.required tokens⟩

namespace Config

/-- The fields of a configuration. -/
def fieldNames : List String := ["rng_seed", "max_delay", "nodes", "links"]

end Config

/-- Every field of a configuration may be missing. -/
instance : JsonForm Config where
  toJson config := Json.record Config.fieldNames
    [toJson config.seed, toJson config.maxDelay, toJson config.nodes, toJson config.links]
  ofJson? json := do
    let [seed, maxDelay, nodes, links] ← json.record? Config.fieldNames | none
    return ⟨← Json.optional usualSeed seed, ← Json.optional usualMaxDelay maxDelay,
      ← Json.optional [] nodes, ← Json.optional [] links⟩

instance : JsonForm ControlEvent where
  toJson
    | .passToken source target tokens => Json.variant "PassToken"
        (Json.record ["src", "dest", "tokens"] [toJson source, toJson target, toJson tokens])
    | .snapshot node => Json.variant "Snapshot" (Json.record ["node_id"] [toJson node])
  ofJson? json := do
    let (kind, content) ← json.variant?
    if kind = "PassToken" then
      let [source, target, tokens] ← content.record? ["src", "dest", "tokens"] | none
      return .passToken (← Json.required source) (← Json.required target)
        (← Json.required tokens)
    else if kind = "Snapshot" then
      let [node] ← content.record? ["node_id"] | none
      return .snapshot (← Json.required node)
    else none

end TokenNet
