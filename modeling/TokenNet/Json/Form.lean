import TokenNet.Json.Basic
import TokenNet.SortedMap.Basic

namespace TokenNet

/-!
# JSON forms

A type with a JSON form can be written as a value and read back.  Records are
written as objects with their fields in a fixed order.  When a record is read the
order of the fields is free and unknown fields are skipped, but no field may occur
twice; a list of the fields in their order is read as well.
-/

/-- Values that can be written as JSON and read back. -/
class JsonForm (α : Type) where
  /-- The JSON value that is written. -/
  toJson : α → Json
  /-- What a JSON value stands for, if it stands for anything. -/
  ofJson? : Json → Option α

namespace Json

/-- An object with the given fields. -/
def record (names : List String) (values : List Json) : Json :=
  .object ((names.map fun name => escape name.toList).zip values)

/-- An object with one member, which names a variant. -/
def variant (name : String) (content : Json) : Json :=
  .object [(escape name.toList, content)]

/-- The text of a key. -/
def keyText? (spelling : List Char) : Option String := (unescape? spelling).map String.ofList

/-- The members of an object under the texts of their keys. -/
def namedMembers? (members : List (List Char × Json)) : Option (List (String × Json)) :=
  members.mapM fun member => (keyText? member.1).map fun key => (key, member.2)

/-- The value of a field, unless the field occurs more than once. -/
def field? (members : List (String × Json)) (name : String) : Option (Option Json) :=
  match members.filter fun member => member.1 = name with
  | [] => some none
  | [member] => some (some member.2)
  | _ => none

/-- The values of the named fields in the order of the names, where a missing field
has no value. -/
def record? (names : List String) : Json → Option (List (Option Json))
  | .object members => do
      let named ← namedMembers? members
      names.mapM (field? named)
  | .array items =>
      -- A short list leaves the last fields out, a long one has no place for the rest.
      if items.length ≤ names.length then
        some (items.map some ++ List.replicate (names.length - items.length) none)
      else none
  | _ => none

/-- The name and the content of a variant. -/
def variant? : Json → Option (String × Json)
  | .object [(key, content)] => (keyText? key).map fun name => (name, content)
  | _ => none

/-- The name of a variant without content. -/
def tag? : Json → Option String
  | .string spelling => keyText? spelling
  | .object [(key, .null)] => keyText? key
  | _ => none

/-- Reads a field that has to be there. -/
def required {α : Type} [JsonForm α] (slot : Option Json) : Option α :=
  slot.bind JsonForm.ofJson?

/-- Reads a field that stands for `usual` when it is missing. -/
def optional {α : Type} [JsonForm α] (usual : α) : Option Json → Option α
  | none => some usual
  | some json => JsonForm.ofJson? json

end Json

namespace JsonForm

/-- A value in one line. -/
def compact {α : Type} [JsonForm α] (value : α) : String := (toJson value).compact

/-- A value spread over lines. -/
def pretty {α : Type} [JsonForm α] (value : α) : String := (toJson value).pretty

instance : JsonForm UInt64 where
  toJson := Json.ofWord
  ofJson? := Json.word?

/-- A count is written as a number and has to fit into a word to be read. -/
instance : JsonForm Nat where
  toJson := Json.ofNat
  ofJson? json := json.word?.map UInt64.toNat

instance : JsonForm String where
  toJson := Json.ofText
  ofJson? := Json.text?

instance {α : Type} [JsonForm α] : JsonForm (List α) where
  toJson values := .array (values.map toJson)
  ofJson?
    | .array items => items.mapM ofJson?
    | _ => none

instance {α : Type} [JsonForm α] : JsonForm (Array α) where
  toJson values := toJson values.toList
  ofJson? json := (ofJson? json).map List.toArray

/-- A set of names is written as a list; a list may hold a name more than once. -/
instance : JsonForm (SortedSet String) where
  toJson set := toJson set.members
  ofJson? json := (ofJson? json).map SortedSet.ofList

/-- Reads the members of an object as entries of a map. -/
def entries? {κ α : Type} [JsonForm α] (key? : List Char → Option κ) :
    Json → Option (List (κ × α))
  | .object members => members.mapM fun member => do
      let key ← key? member.1
      let value ← ofJson? member.2
      return (key, value)
  | _ => none

/-- A map from names is written as an object; of two members with one key the later
counts. -/
instance {α : Type} [JsonForm α] : JsonForm (SortedMap String α) where
  toJson map :=
    .object (map.toList.map fun entry => (Json.escape entry.1.toList, toJson entry.2))
  ofJson? json := (entries? Json.keyText? json).map SortedMap.ofList

/-- The word that a key spells in decimal, without leading zeros. -/
def wordKey? (spelling : List Char) : Option UInt64 := do
  let word ← Text.wordOfDigits? spelling
  -- One word has one key: leading zeros are refused.
  if Text.decimalDigits word.toNat = spelling then some word else none

/-- A map from words is written as an object whose keys are decimal numbers. -/
instance {α : Type} [JsonForm α] : JsonForm (SortedMap UInt64 α) where
  toJson map :=
    .object (map.toList.map fun entry => (Text.decimalDigits entry.1.toNat, toJson entry.2))
  ofJson? json := (entries? wordKey? json).map SortedMap.ofList

end JsonForm

end TokenNet
