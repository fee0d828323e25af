/-
  Orders by a part.

  Keys of tables are compared by their parts.  Comparing by
  parts that determine the whole keeps the laws that a table
  needs of its order.

  Main declarations:
    * `lawfulEqCmp_compareOn`
    * `lawfulEqCmp_compareLex`
-/

------------------------------------------------------------
-- Lawful Equality
------------------------------------------------------------

namespace Interchain

/- Equal by a part that determines the whole is equal. -/
theorem lawfulEqCmp_compareOn
    {α β : Type}
    [Ord β]
    [Std.LawfulEqOrd β]
    {part : α → β}
    (inj : ∀ a b, part a = part b → a = b) :
    Std.LawfulEqCmp (compareOn part) where
  compare_self := by
    intro a
    exact Std.ReflCmp.compare_self
  eq_of_compare := by
    intro a b h
    exact inj a b (Std.LawfulEqCmp.eq_of_compare h)

/- Equal by two parts that determine the whole is equal. -/
theorem lawfulEqCmp_compareLex
    {α β γ : Type}
    [Ord β]
    [Std.LawfulEqOrd β]
    [Ord γ]
    [Std.LawfulEqOrd γ]
    {first : α → β}
    {second : α → γ}
    (inj :
      ∀ a b, first a = first b → second a = second b →
        a = b) :
    Std.LawfulEqCmp
      (compareLex (compareOn first) (compareOn second)) where
  compare_self := by
    intro a
    simp [compareLex, compareOn]
  eq_of_compare := by
    intro a b h
    simp only [compareLex, compareOn,
      Ordering.then_eq_eq] at h
    exact inj a b
      (Std.LawfulEqCmp.eq_of_compare h.1)
      (Std.LawfulEqCmp.eq_of_compare h.2)

end Interchain
