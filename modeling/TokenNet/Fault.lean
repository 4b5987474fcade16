import TokenNet.Text.Decimal
import TokenNet.Text.Quoted

namespace TokenNet

/-!
# Faults

A fault cuts a computation short: there is neither a result nor a later state.
Sums of 64-bit words that do not fit are faults, and so are a parcel put on a
channel between other nodes than its own and an array asked for an entry that it
does not have.  Errors that a caller can act upon are not faults; each part of the
library names its own.
-/

/-- What cuts a computation short. -/
inductive Fault where
  /-- A sum does not fit into 64 bits. -/
  | overflow
  /-- A parcel from `parcel` was put on a channel that starts at `channel`. -/
  | foreignSource (parcel channel : String)
  /-- A parcel to `parcel` was put on a channel that ends at `channel`. -/
  | foreignDestination (parcel channel : String)
  /-- An array of `size` entries has none at `index`. -/
  | outOfRange (index size : Nat)
deriving DecidableEq, Repr

/-- The text of two names that should be equal and are not. -/
def Fault.disagreement (subject parcel channel : String) : String :=
  "assertion \x60left == right\x60 failed: event " ++ subject ++ " does not match channel\n" ++
    "  left: " ++ Text.quote parcel ++ "\n right: " ++ Text.quote channel

/-- The text that announces a fault. -/
def Fault.message : Fault → String
  | overflow => "attempt to add with overflow"
  | foreignSource parcel channel => disagreement "source" parcel channel
  | foreignDestination parcel channel => disagreement "destination" parcel channel
  | outOfRange index size =>
      "index out of bounds: the len is " ++ Text.decimal size ++ " but the index is " ++
        Text.decimal index

/-- The sum of two words, unless it does not fit. -/
def checkedAdd (a b : UInt64) : Except Fault UInt64 :=
  if a.toNat + b.toNat < UInt64.size then .ok (a + b) else .error .overflow

/-- The sum of words taken from left to right, unless one of the partial sums
does not fit. -/
def checkedSum (words : List UInt64) : Except Fault UInt64 :=
  words.foldlM checkedAdd 0

/-- The sum of words as a natural number, which always exists. -/
def naturalSum (words : List UInt64) : Nat :=
  (words.map UInt64.toNat).foldr (· + ·) 0

/-- A checked sum of two words succeeds exactly when the sum fits, and then it
is the sum of the numbers. -/
theorem checkedAdd_eq_ok_iff {a b c : UInt64} :
    checkedAdd a b = .ok c ↔ a.toNat + b.toNat = c.toNat := by
  unfold checkedAdd
  split
  · rename_i hFits
    have hSum : (a + b).toNat = a.toNat + b.toNat := by
      rw [UInt64.toNat_add]
      exact Nat.mod_eq_of_lt hFits
    constructor
    · intro hEqual
      cases hEqual
      exact hSum.symm
    · intro hEqual
      exact congrArg Except.ok (UInt64.toNat_inj.mp (hSum.trans hEqual))
  · rename_i hTooLarge
    constructor
    · intro hEqual
      cases hEqual
    · intro hEqual
      exact absurd (hEqual ▸ c.toNat_lt) hTooLarge

/-- The only fault of a checked sum is overflow, and it arises exactly when the
sum does not fit. -/
theorem checkedAdd_eq_error_iff {a b : UInt64} {fault : Fault} :
    checkedAdd a b = .error fault ↔
      fault = .overflow ∧ UInt64.size ≤ a.toNat + b.toNat := by
  unfold checkedAdd
  split
  · rename_i hFits
    constructor
    · intro hEqual
      cases hEqual
    · intro hBoth
      exact absurd hFits (Nat.not_lt.mpr hBoth.2)
  · rename_i hTooLarge
    constructor
    · intro hEqual
      cases hEqual
      exact ⟨rfl, Nat.le_of_not_lt hTooLarge⟩
    · intro hBoth
      rw [hBoth.1]

/-- A sum that goes on from a word succeeds exactly when the whole sum fits. -/
theorem foldlM_checkedAdd_eq_ok_iff {words : List UInt64} {start total : UInt64} :
    words.foldlM checkedAdd start = .ok total ↔
      start.toNat + naturalSum words = total.toNat := by
  induction words generalizing start with
  | nil =>
      show Except.ok start = Except.ok total ↔ start.toNat + 0 = total.toNat
      rw [Except.ok.injEq, Nat.add_zero, UInt64.toNat_inj]
  | cons word rest ih =>
      have hCons : naturalSum (word :: rest) = word.toNat + naturalSum rest := rfl
      rw [List.foldlM_cons, hCons, ← Nat.add_assoc]
      cases hStep : checkedAdd start word with
      | ok middle =>
          rw [checkedAdd_eq_ok_iff.mp hStep]
          exact ih
      | error fault =>
          have hTooLarge := (checkedAdd_eq_error_iff.mp hStep).2
          constructor
          · intro hEqual
            cases hEqual
          · intro hEqual
            have hFits : total.toNat < UInt64.size := total.toNat_lt
            omega

/-- Words have a checked sum exactly when their sum fits, and then it is the sum of
the numbers. -/
theorem checkedSum_eq_ok_iff {words : List UInt64} {total : UInt64} :
    checkedSum words = .ok total ↔ naturalSum words = total.toNat := by
  unfold checkedSum
  rw [foldlM_checkedAdd_eq_ok_iff]
  simp

end TokenNet
