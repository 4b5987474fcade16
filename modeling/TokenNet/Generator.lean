namespace TokenNet

/-!
# The generator of delays

The delays of messages are drawn from a generator with one word of state.  A
step folds the state into itself by three shifts, and the word drawn is the new
state times an odd constant.  The state zero would never be left, so the seed
zero stands for one.
-/

/-- A generator of words, given by its state. -/
structure Generator where
  /-- The word that the next step starts from. -/
  state : UInt64
deriving DecidableEq, Repr

namespace Generator

/-- Folds the twelve-fold right shift of a word into it. -/
def foldRight12 (x : UInt64) : UInt64 := x ^^^ (x >>> 12)

/-- Folds the twenty-five-fold left shift of a word into it. -/
def foldLeft25 (x : UInt64) : UInt64 := x ^^^ (x <<< 25)

/-- Folds the twenty-seven-fold right shift of a word into it. -/
def foldRight27 (x : UInt64) : UInt64 := x ^^^ (x >>> 27)

/-- The state after a step. -/
def stepState (x : UInt64) : UInt64 := foldRight27 (foldLeft25 (foldRight12 x))

/-- The odd constant that scrambles a state into the word drawn. -/
def multiplier : UInt64 := 0x2545F4914F6CDD1D

/-- The generator of a seed; the seed zero stands for one. -/
def ofSeed (seed : UInt64) : Generator := ⟨if seed = 0 then 1 else seed⟩

/-- Draws a word. -/
def next (generator : Generator) : UInt64 × Generator :=
  (stepState generator.state * multiplier, ⟨stepState generator.state⟩)

/-- Draws a word below `bound`.  The bound zero yields zero and draws nothing. -/
def below (generator : Generator) (bound : UInt64) : UInt64 × Generator :=
  if bound = 0 then (0, generator)
  else (generator.next.1 % bound, generator.next.2)

end Generator

end TokenNet
