import Mathlib.Data.Fintype.EquivFin
import TokenNet.Generator

namespace TokenNet

/-!
# No state is lost

A step of the generator folds a shifted state into the state three times.  Each fold can be undone
bit by bit, beginning at the end at which the shift lets zeros in, and the odd constant has an inverse
among the words.  So a step permutes the states and leaves zero where it is, and the word drawn tells
which state it was drawn from (`Generator.step_permutes`).
-/

namespace Generator

/-! ### Folds can be undone -/

theorem injective_xor_shiftRight {width shift : Nat} (hShift : 0 < shift) :
    Function.Injective fun x : BitVec width => x ^^^ (x >>> shift) := by
  intro x y hSame
  -- Bits from the top down: the bit that is folded into another one stands above it.
  have hBits : ∀ below bit, width ≤ bit + below → x.getLsbD bit = y.getLsbD bit := by
    intro below
    induction below using Nat.strongRecOn with
    | ind below ih =>
        intro bit hBit
        by_cases hInside : bit < width
        · have hHigher := ih (below - shift) (by omega) (shift + bit) (by omega)
          have hFolded := congrArg (BitVec.getLsbD · bit) hSame
          simp only [BitVec.getLsbD_xor, BitVec.getLsbD_ushiftRight, hHigher] at hFolded
          exact Bool.xor_left_inj.mp hFolded
        · rw [BitVec.getLsbD_of_ge x bit (by omega), BitVec.getLsbD_of_ge y bit (by omega)]
  exact BitVec.eq_of_getLsbD_eq fun bit _ => hBits width bit (Nat.le_add_left width bit)

theorem injective_xor_shiftLeft {width shift : Nat} (hShift : 0 < shift) :
    Function.Injective fun x : BitVec width => x ^^^ (x <<< shift) := by
  intro x y hSame
  -- Bits from the bottom up: the bit that is folded into another one stands below it.
  have hBits : ∀ bit, x.getLsbD bit = y.getLsbD bit := by
    intro bit
    induction bit using Nat.strongRecOn with
    | ind bit ih =>
        have hFolded := congrArg (BitVec.getLsbD · bit) hSame
        simp only [BitVec.getLsbD_xor, BitVec.getLsbD_shiftLeft] at hFolded
        by_cases hShifted : bit < shift
        · simpa [hShifted] using hFolded
        · rw [ih (bit - shift) (by omega)] at hFolded
          exact Bool.xor_left_inj.mp hFolded
  exact BitVec.eq_of_getLsbD_eq fun bit _ => hBits bit

/-- What is injective on the bits of words is injective on words. -/
theorem injective_of_toBitVec {fold : UInt64 → UInt64} {onBits : BitVec 64 → BitVec 64}
    (hBits : ∀ word, (fold word).toBitVec = onBits word.toBitVec)
    (hInjective : Function.Injective onBits) : Function.Injective fold := by
  intro x y hSame
  have hFolded : onBits x.toBitVec = onBits y.toBitVec := by
    rw [← hBits x, ← hBits y, hSame]
  exact UInt64.toBitVec_inj.mp (hInjective hFolded)

theorem injective_foldRight12 : Function.Injective foldRight12 :=
  injective_of_toBitVec (fun _ => rfl) (@injective_xor_shiftRight 64 12 (by decide))

theorem injective_foldLeft25 : Function.Injective foldLeft25 :=
  injective_of_toBitVec (fun _ => rfl) (@injective_xor_shiftLeft 64 25 (by decide))

theorem injective_foldRight27 : Function.Injective foldRight27 :=
  injective_of_toBitVec (fun _ => rfl) (@injective_xor_shiftRight 64 27 (by decide))

/-! ### Steps -/

theorem injective_stepState : Function.Injective stepState :=
  injective_foldRight27.comp (injective_foldLeft25.comp injective_foldRight12)

theorem bijective_stepState : Function.Bijective stepState :=
  have : Finite UInt64 := Finite.of_injective UInt64.toFin fun _ _ => UInt64.toFin_inj.mp
  Finite.injective_iff_bijective.mp injective_stepState

theorem stepState_zero : stepState 0 = 0 := by decide

/-- The word by which a product with the multiplier is undone. -/
def divisor : UInt64 := 0x59071D96D81ECD35

theorem multiplier_mul_divisor : multiplier * divisor = 1 := by decide

theorem injective_mul_multiplier : Function.Injective fun word : UInt64 => word * multiplier := by
  have hUndone : Function.LeftInverse (· * divisor) fun word : UInt64 => word * multiplier := by
    intro word
    show word * multiplier * divisor = word
    rw [UInt64.mul_assoc, multiplier_mul_divisor, UInt64.mul_one]
  exact hUndone.injective

/-- The word that is drawn tells the state. -/
theorem injective_next_word : Function.Injective fun state => (next ⟨state⟩).1 :=
  injective_mul_multiplier.comp injective_stepState

theorem next_word_zero : (next ⟨0⟩).1 = 0 := by decide

theorem next_word_eq_zero_iff {state : UInt64} : (next ⟨state⟩).1 = 0 ↔ state = 0 := by
  rw [← next_word_zero]
  exact injective_next_word.eq_iff

/-! ### Calls one after another -/

/-- A call on a generator. -/
inductive Draw where
  /-- Draw a word. -/
  | word
  /-- Draw a word below a bound. -/
  | below (bound : UInt64)

/-- The generator after a call. -/
def drawn (generator : Generator) : Draw → Generator
  | .word => generator.next.2
  | .below bound => (generator.below bound).2

/-- The generator after calls one after another. -/
def after (draws : List Draw) (generator : Generator) : Generator := draws.foldl drawn generator

/-- A call makes a step or leaves the state alone. -/
theorem drawn_eq (draw : Draw) :
    (fun generator => drawn generator draw) = (fun generator => generator.next.2) ∨
      (fun generator => drawn generator draw) = id := by
  cases draw with
  | word => exact Or.inl rfl
  | below bound =>
      by_cases hBound : bound = 0
      · exact Or.inr (funext fun generator => by simp [drawn, Generator.below, hBound])
      · exact Or.inl (funext fun generator => by simp [drawn, Generator.below, hBound])

theorem injective_drawn (draw : Draw) : Function.Injective fun generator => drawn generator draw := by
  rcases drawn_eq draw with hStep | hIdle
  · rw [hStep]
    rintro ⟨left⟩ ⟨right⟩ hSame
    exact congrArg Generator.mk (injective_stepState (congrArg state hSame))
  · rw [hIdle]
    exact Function.injective_id

theorem injective_after (draws : List Draw) : Function.Injective (after draws) := by
  induction draws with
  | nil => exact Function.injective_id
  | cons draw rest ih => exact ih.comp (injective_drawn draw)

/-- No calls lead away from the state zero. -/
theorem after_zero (draws : List Draw) : after draws ⟨0⟩ = ⟨0⟩ := by
  induction draws with
  | nil => rfl
  | cons draw rest ih =>
      have hStays : drawn ⟨0⟩ draw = ⟨0⟩ := by
        rcases drawn_eq draw with hStep | hIdle
        · exact (congrFun hStep ⟨0⟩).trans (congrArg Generator.mk stepState_zero)
        · exact congrFun hIdle ⟨0⟩
      show after rest (drawn ⟨0⟩ draw) = ⟨0⟩
      rw [hStays, ih]

/-- No calls lead to the state zero. -/
theorem state_after_ne_zero {generator : Generator} (hState : generator.state ≠ 0)
    (draws : List Draw) : (generator.after draws).state ≠ 0 := by
  intro hZero
  have hSame : generator.after draws = after draws ⟨0⟩ := by
    rw [after_zero]
    exact congrArg Generator.mk hZero
  exact hState (congrArg state (injective_after draws hSame))

theorem state_ofSeed_ne_zero (seed : UInt64) : (ofSeed seed).state ≠ 0 := by
  unfold ofSeed
  by_cases hSeed : seed = 0
  · rw [if_pos hSeed]
    decide
  · rwa [if_neg hSeed]

/-- A step permutes the states and leaves zero alone; different states give different words, and only
zero gives zero.  So no calls lead from a seed to the state zero or to the word zero, and generators
in different states stay in different states. -/
theorem step_permutes :
    Function.Bijective (fun state => (next ⟨state⟩).2.state) ∧ (next ⟨0⟩).2.state = 0 ∧
      Function.Injective (fun state => (next ⟨state⟩).1) ∧
      (∀ state, (next ⟨state⟩).1 = 0 ↔ state = 0) ∧
      (∀ seed draws, ((ofSeed seed).after draws).state ≠ 0 ∧
        ((ofSeed seed).after draws).next.1 ≠ 0) ∧
      ∀ draws, Function.Injective (after draws) := by
  refine ⟨bijective_stepState, stepState_zero, injective_next_word, fun _ => next_word_eq_zero_iff,
    fun seed draws => ?_, injective_after⟩
  have hState := state_after_ne_zero (state_ofSeed_ne_zero seed) draws
  exact ⟨hState, fun hWord => hState (next_word_eq_zero_iff.mp hWord)⟩

end Generator

end TokenNet
