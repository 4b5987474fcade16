import TokenNet.SortedMap.Place

namespace TokenNet

/-!
# Maps sorted by key

A `SortedMap κ α` is an array of entries whose keys strictly increase.  The order
of iteration is therefore part of the value, and two maps that answer every look-up
alike are the same array.  A `SortedSet κ` is a map to the one-element type.
-/

universe u v w

/-- Entries whose keys strictly increase. -/
structure SortedMap (κ : Type u) (α : Type v) [LT κ] where
  /-- The entries in increasing order of their keys. -/
  entries : Array (κ × α)
  /-- Every key is below all later ones. -/
  sorted : SortedMap.Increasing entries.toList
deriving DecidableEq, Repr

namespace SortedMap

variable {κ : Type u} {α : Type v} {β : Type w} [LT κ]

/-- The map without entries. -/
def empty : SortedMap κ α := ⟨#[], List.Pairwise.nil⟩

instance : EmptyCollection (SortedMap κ α) := ⟨empty⟩

instance : Inhabited (SortedMap κ α) := ⟨empty⟩

/-- The entries in increasing order of their keys. -/
def toList (map : SortedMap κ α) : List (κ × α) := map.entries.toList

/-- The value stored under a key. -/
def get? [DecidableLT κ] [DecidableEq κ] (map : SortedMap κ α) (key : κ) : Option α :=
  lookupEntry key map.entries

/-- Whether a key has a value. -/
def contains [DecidableLT κ] [DecidableEq κ] (map : SortedMap κ α) (key : κ) : Bool :=
  (map.get? key).isSome

/-- Stores a value under a key, in place of an older one. -/
def insert [DecidableLT κ] [DecidableEq κ] [KeyOrder κ] (map : SortedMap κ α) (key : κ)
    (value : α) : SortedMap κ α :=
  ⟨insertEntry key value map.entries, pairwise_insertEntry key value map.sorted⟩

/-- Keeps the entries that satisfy a test. -/
def filter (keep : κ → α → Bool) (map : SortedMap κ α) : SortedMap κ α :=
  ⟨(map.toList.filter fun entry => keep entry.1 entry.2).toArray, map.sorted.filter _⟩

/-- Forgets a key and its value. -/
def erase [DecidableEq κ] (map : SortedMap κ α) (key : κ) : SortedMap κ α :=
  map.filter fun other _ => other ≠ key

/-- Replaces every value by its image under a function. -/
def mapValues (f : κ → α → β) (map : SortedMap κ α) : SortedMap κ β :=
  ⟨(map.toList.map fun entry => (entry.1, f entry.1 entry.2)).toArray,
    map.sorted.map _ fun _ _ hLess => hLess⟩

/-- The keys in increasing order. -/
def keys (map : SortedMap κ α) : List κ := map.toList.map Prod.fst

/-- The values in the order of their keys. -/
def values (map : SortedMap κ α) : List α := map.toList.map Prod.snd

/-- The number of keys. -/
def size (map : SortedMap κ α) : Nat := map.entries.size

/-- Whether there is no entry. -/
def isEmpty (map : SortedMap κ α) : Bool := map.entries.isEmpty

/-- Stores pairs one after another; of two with the same key the later stays. -/
def ofList [DecidableLT κ] [DecidableEq κ] [KeyOrder κ] (pairs : List (κ × α)) :
    SortedMap κ α :=
  pairs.foldl (fun map pair => map.insert pair.1 pair.2) empty

end SortedMap

/-- A set of keys, held in increasing order. -/
abbrev SortedSet (κ : Type u) [LT κ] : Type u := SortedMap κ Unit

namespace SortedSet

variable {κ : Type u} [LT κ]

/-- Adds a member. -/
def add [DecidableLT κ] [DecidableEq κ] [KeyOrder κ] (set : SortedSet κ) (key : κ) :
    SortedSet κ :=
  SortedMap.insert set key ()

/-- The members in increasing order. -/
def members (set : SortedSet κ) : List κ := SortedMap.keys set

/-- The set of the members of a list. -/
def ofList [DecidableLT κ] [DecidableEq κ] [KeyOrder κ] (members : List κ) : SortedSet κ :=
  members.foldl add SortedMap.empty

/-- The keys of a map. -/
def ofKeys {α : Type v} (map : SortedMap κ α) : SortedSet κ :=
  map.mapValues fun _ _ => ()

end SortedSet

end TokenNet
