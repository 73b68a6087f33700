import Mathlib.Order.Bounds.Basic

/-!
# Tests that open at a bound

A test with a good part and a bound: it admits `w` at `t` when `w` is good and `t` has reached the
bound of `w`. Time locks, rate limits and version gates are of this form.

What such a test is usually for is that the bound *binds*: once one admissible `w` says when, no
other `w'` gets in earlier. The bound being part of what is tested, that is a relation between two
candidates, and `binds_iff` says which. Bounds come from any linear order, machine words among them.

## Main definitions

* `Threshold.Admits`, `Threshold.Binds`

## Main results

* `Threshold.isLeast_admits`: a good candidate is first admitted at its bound
* `Threshold.binds_iff`
-/

namespace Threshold

variable {α T : Type*} [LE T]

/-- Good, and the bound has been reached. -/
def Admits (good : α → Prop) (bound : α → T) (w : α) (t : T) : Prop := good w ∧ bound w ≤ t

/-- If `w` is ever admitted, `w'` is not admitted before the bound of `w`. -/
def Binds [LT T] (admits : α → T → Prop) (bound : α → T) (w w' : α) : Prop :=
  ∀ t, admits w t → ∀ t' < bound w, ¬ admits w' t'

variable {good : α → Prop} {bound : α → T} {w w' : α}

theorem isLeast_admits [Std.IsLinearOrder T] (hw : good w) :
    IsLeast {t | Admits good bound w t} (bound w) :=
  ⟨⟨hw, Std.le_refl _⟩, fun _ h => h.2⟩

/-- **When the bound binds.** Apart from candidates that are never admitted, the second candidate
has to carry a bound at least as late. -/
theorem binds_iff [LT T] [Std.IsLinearOrder T] [Std.LawfulOrderLT T] :
    Binds (Admits good bound) bound w w' ↔ ¬ good w ∨ ¬ good w' ∨ bound w ≤ bound w' := by
  constructor
  · intro h
    by_cases hw : good w
    · by_cases hw' : good w'
      · -- otherwise `w'` gets in at its own, earlier bound
        refine Or.inr (Or.inr (Std.not_lt.mp fun hlt => ?_))
        exact h _ (isLeast_admits hw).1 _ hlt (isLeast_admits hw').1
      · exact Or.inr (Or.inl hw')
    · exact Or.inl hw
  · rintro (hw | hw' | hle) t ht t' hlt ht'
    · exact hw ht.1
    · exact hw' ht'.1
    · exact absurd (Std.lt_of_lt_of_le hlt hle) (Std.not_lt.mpr ht'.2)

end Threshold
