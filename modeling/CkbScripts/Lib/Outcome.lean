import Mathlib.Data.List.Forall2

/-!
# Fallible computations

What it takes for a computation in `Except` to have returned a value. Each lemma peels one layer
off a `do` block from the outside, so a block that returned is taken apart step by step and never
unfolded; the `simp` lemmas run a block forward once the outcome of its next step is known.

The last section is the same for a list of lookups: looking every item of a list up succeeds
exactly when the results match the items one by one.
-/

namespace Outcome

universe u v

variable {α β : Type u} {ε ε' : Type v}

/-- The value, or the error when there is none. -/
def okOr (o : Option α) (e : ε) : Except ε α := o.elim (.error e) .ok

@[simp] theorem okOr_some (a : α) (e : ε) : okOr (some a) e = .ok a := rfl

@[simp] theorem okOr_none (e : ε) : okOr (none : Option α) e = .error e := rfl

@[simp] theorem ok_bind (a : α) (f : α → Except ε β) : (Except.ok a >>= f) = f a := by
  -- a tactic proof makes `simp` rewrite with the equation, where a bare `rfl` would have it change
  -- the goal by unfolding, and the kernel unfold whatever `f` computes
  exact rfl

@[simp] theorem error_bind (e : ε) (f : α → Except ε β) : (Except.error e >>= f) = .error e := rfl

@[simp] theorem pure_eq_ok (a : α) : (pure a : Except ε α) = .ok a := rfl

@[simp] theorem mapError_ok (a : α) (f : ε → ε') : (Except.ok a).mapError f = .ok a := rfl

@[simp] theorem mapError_error (e : ε) (f : ε → ε') :
    (Except.error e : Except ε α).mapError f = .error (f e) := rfl

theorem okOr_eq_ok_iff {o : Option α} {e : ε} {a : α} : okOr o e = .ok a ↔ o = some a := by
  cases o <;> simp

theorem mapError_eq_ok_iff {x : Except ε α} {f : ε → ε'} {a : α} :
    x.mapError f = .ok a ↔ x = .ok a := by
  cases x <;> simp

/-- A computation returns one value. -/
theorem ok_unique {x : Except ε α} {a b : α} (ha : x = .ok a) (hb : x = .ok b) : a = b :=
  Except.ok.inj (ha.symm.trans hb)

/-- **A block that returned a value** got a value from its first step and returned from the rest. -/
theorem bind_eq_ok_iff {x : Except ε α} {f : α → Except ε β} {b : β} :
    (x >>= f) = .ok b ↔ ∃ a, x = .ok a ∧ f a = .ok b := by
  cases x <;> simp

/-- A block that failed did so in its first step, or got a value from it and failed later. -/
theorem bind_eq_error_iff {x : Except ε α} {f : α → Except ε β} {e : ε} :
    (x >>= f) = .error e ↔ x = .error e ∨ ∃ a, x = .ok a ∧ f a = .error e := by
  cases x <;> simp

theorem okOr_eq_error_iff {o : Option α} {e e' : ε} :
    okOr o e = .error e' ↔ o = none ∧ e = e' := by
  cases o <;> simp

/-- A guard that bails out was passed. -/
theorem guard_eq_ok_iff {p : Prop} [Decidable p] {e : ε} {x : Except ε α} {a : α} :
    (if p then .error e else x) = .ok a ↔ ¬ p ∧ x = .ok a := by
  by_cases h : p <;> simp [h]

/-! ### Lists of lookups -/

theorem mapM_eq_some_iff {f : α → Option β} {l : List α} {r : List β} :
    l.mapM f = some r ↔ List.Forall₂ (fun a b => f a = some b) l r := by
  induction l generalizing r with
  | nil => simp [eq_comm]
  | cons a l ih =>
    cases r with
    | nil => cases ha : f a <;> cases hl : l.mapM f <;> simp [ha, hl]
    | cons b r =>
      rw [List.forall₂_cons, ← ih]
      cases ha : f a <;> cases hl : l.mapM f <;> simp [ha, hl]

/-- Items that can all be looked up have a list of results. -/
theorem exists_forall₂_of_forall {R : α → β → Prop} {l : List α} (h : ∀ a ∈ l, ∃ b, R a b) :
    ∃ r, List.Forall₂ R l r := by
  induction l with
  | nil => exact ⟨[], .nil⟩
  | cons a l ih =>
    obtain ⟨⟨b, hb⟩, hl⟩ := List.forall_mem_cons.mp h
    obtain ⟨r, hr⟩ := ih hl
    exact ⟨b :: r, .cons hb hr⟩

/-- Every result is the result of some item. -/
theorem exists_mem_of_forall₂ {R : α → β → Prop} {l : List α} {r : List β} {b : β}
    (h : List.Forall₂ R l r) (hb : b ∈ r) : ∃ a ∈ l, R a b := by
  induction h with
  | nil => simp at hb
  | cons hab _ ih =>
    rcases List.mem_cons.mp hb with rfl | hb
    · exact ⟨_, List.mem_cons_self, hab⟩
    · obtain ⟨a, ha, hab⟩ := ih hb
      exact ⟨a, List.mem_cons_of_mem _ ha, hab⟩

end Outcome
