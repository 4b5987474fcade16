import TokenNet.SortedMap.Basic

namespace TokenNet

/-!
# Links

A link leads from one node to another.  Links are ordered by their source first
and by their target second, both by code points.
-/

/-- A directed link between two nodes, given by their names. -/
structure Link where
  /-- The node that sends on the link. -/
  source : String
  /-- The node that receives from the link. -/
  target : String
deriving DecidableEq, Repr

namespace Link

instance : LT Link where
  lt a b := a.source < b.source ∨ (a.source = b.source ∧ a.target < b.target)

theorem lt_iff {a b : Link} :
    a < b ↔ a.source < b.source ∨ (a.source = b.source ∧ a.target < b.target) :=
  Iff.rfl

instance : DecidableLT Link := fun a b =>
  inferInstanceAs (Decidable
    (a.source < b.source ∨ (a.source = b.source ∧ a.target < b.target)))

instance : KeyOrder Link where
  irrefl a hLess := by
    rcases lt_iff.mp hLess with hSource | ⟨_, hTarget⟩
    · exact KeyOrder.irrefl _ hSource
    · exact KeyOrder.irrefl _ hTarget
  trans {a b c} hFirst hSecond := by
    rcases lt_iff.mp hFirst with hFirst | ⟨hFirst, hFirstTarget⟩
    · rcases lt_iff.mp hSecond with hSecond | ⟨hSecond, _⟩
      · exact Or.inl (KeyOrder.trans hFirst hSecond)
      · exact Or.inl (hSecond ▸ hFirst)
    · rcases lt_iff.mp hSecond with hSecond | ⟨hSecond, hSecondTarget⟩
      · exact Or.inl (hFirst ▸ hSecond)
      · exact Or.inr ⟨hFirst.trans hSecond, KeyOrder.trans hFirstTarget hSecondTarget⟩
  trichotomy a b := by
    rcases KeyOrder.trichotomy a.source b.source with hLess | hSource | hLess
    · exact Or.inl (Or.inl hLess)
    · rcases KeyOrder.trichotomy a.target b.target with hLess | hTarget | hLess
      · exact Or.inl (Or.inr ⟨hSource, hLess⟩)
      · refine Or.inr (Or.inl ?_)
        cases a
        cases b
        simp_all
      · exact Or.inr (Or.inr (Or.inr ⟨hSource.symm, hLess⟩))
    · exact Or.inr (Or.inr (Or.inl hLess))

end Link

end TokenNet
