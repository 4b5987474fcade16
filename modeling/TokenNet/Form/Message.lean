import TokenNet.Json.Form
import TokenNet.Message

namespace TokenNet

/-!
# JSON form of messages

A message is a record of its kind and the number that belongs to it.  Under its
field name the kind may also be spelled as a variant without content; in a list of
the fields it is a plain text.
-/

open JsonForm

/-- The name of the kind of a message, given the value that the kind was found in. -/
def Message.kindName? (container kind : Json) : Option String :=
  match container with
  | .array _ => kind.text?
  | _ => kind.tag?

instance : JsonForm Message where
  toJson
    | .token amount => Json.record ["type", "value"] [toJson "token", toJson amount]
    | .marker snapshot => Json.record ["type", "value"] [toJson "marker", toJson snapshot]
  ofJson? json := do
    let [kind, value] ← json.record? ["type", "value"] | none
    let kind ← kind.bind (Message.kindName? json)
    let value ← Json.required value
    if kind = "token" then some (.token value)
    else if kind = "marker" then some (.marker value)
    else none

end TokenNet
