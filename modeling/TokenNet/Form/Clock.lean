import TokenNet.Clock
import TokenNet.Generator
import TokenNet.Json.Form

namespace TokenNet

/-!
# JSON forms of clocks and generators
-/

open JsonForm

instance : JsonForm Clock where
  toJson clock := Json.record ["current_tick"] [toJson clock.tick]
  ofJson? json := do
    let [tick] ← json.record? ["current_tick"] | none
    return ⟨← Json.required tick⟩

instance : JsonForm Generator where
  toJson generator := Json.record ["state"] [toJson generator.state]
  ofJson? json := do
    let [state] ← json.record? ["state"] | none
    return ⟨← Json.required state⟩

end TokenNet
