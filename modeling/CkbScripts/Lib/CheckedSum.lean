import CkbScripts.Lib.Outcome
import Mathlib.Algebra.Order.Ring.Nat
import Mathlib.Tactic.Common

/-!
# Checked sums of fixed-width words

A loop that reads a word off each item of a list and adds it to a running total, stopping at the
first item that cannot be read and at the first addition that would wrap. The loop computes in
`BitVec w`; everything said about it is said about the exact sum in `ℕ`.

The point of `sumFrom_eq_ok_iff` is that the bound disappears from the statement. A total `t` that
came back *is* the exact sum, and since `t` is a word the sum fits by itself; there is no side
condition on the partial sums, which are smaller.

## Main definitions

* `CheckedSum.checkedAdd`: addition that refuses to wrap
* `CheckedSum.step`, `sumFrom`: one iteration and the loop, from any running total
* `CheckedSum.weight`: what an item adds to the exact sum, `0` when it cannot be read

## Main results

* `CheckedSum.checkedAdd_eq_some_iff`, `checkedAdd_eq_none_iff`
* `CheckedSum.sumFrom_eq_ok_iff`: the loop returns exactly the exact sum of readable items
* `CheckedSum.sumFrom_eq_error_iff`: it stops with the error of the first item that fails
-/

namespace CheckedSum

open Outcome

variable {w : ℕ} {α ε : Type*}

/-- The sum of two words, when it is one. -/
def checkedAdd (x y : BitVec w) : Option (BitVec w) :=
  if x.toNat + y.toNat < 2 ^ w then some (x + y) else none

theorem checkedAdd_eq_some_iff {x y z : BitVec w} :
    checkedAdd x y = some z ↔ x.toNat + y.toNat = z.toNat := by
  by_cases h : x.toNat + y.toNat < 2 ^ w
  · rw [checkedAdd, if_pos h, Option.some_inj, ← BitVec.toNat_inj, BitVec.toNat_add,
      Nat.mod_eq_of_lt h]
  · have hz : z.toNat < 2 ^ w := z.isLt
    simp only [checkedAdd, if_neg h, reduceCtorEq, false_iff]
    omega

theorem checkedAdd_eq_none_iff {x y : BitVec w} :
    checkedAdd x y = none ↔ 2 ^ w ≤ x.toNat + y.toNat := by
  rw [checkedAdd, ite_eq_right_iff, ← Nat.not_lt]
  simp

/-! ### The loop -/

/-- One iteration: read the item, then add it to the running total. -/
def step (value : α → Except ε (BitVec w)) (overflow : ε) (total : BitVec w) (a : α) :
    Except ε (BitVec w) := do
  let v ← value a
  okOr (checkedAdd total v) overflow

/-- The loop from a running total. -/
def sumFrom (value : α → Except ε (BitVec w)) (overflow : ε) (total : BitVec w) (as : List α) :
    Except ε (BitVec w) :=
  as.foldlM (step value overflow) total

/-- What an item adds to the exact sum. -/
def weight (value : α → Except ε (BitVec w)) (a : α) : ℕ :=
  match value a with
  | .ok v => v.toNat
  | .error _ => 0

variable {value : α → Except ε (BitVec w)} {overflow : ε}

theorem weight_of_ok {a : α} {v : BitVec w} (h : value a = .ok v) : weight value a = v.toNat := by
  simp [weight, h]

@[simp] theorem sumFrom_nil (total : BitVec w) : sumFrom value overflow total [] = .ok total := rfl

theorem sumFrom_cons (total : BitVec w) (a : α) (as : List α) :
    sumFrom value overflow total (a :: as) =
      (step value overflow total a >>= fun t => sumFrom value overflow t as) := rfl

/-- The step lemma: an iteration that goes through has read its item and added it exactly. -/
theorem step_eq_ok_iff {total t : BitVec w} {a : α} :
    step value overflow total a = .ok t ↔
      (∃ v, value a = .ok v) ∧ total.toNat + weight value a = t.toNat := by
  cases hv : value a with
  | error e => simp [step, hv]
  | ok v =>
    rw [weight_of_ok hv, ← checkedAdd_eq_some_iff]
    simp [step, hv, okOr_eq_ok_iff]

/-- **The run lemma.** The loop returns `t` exactly when every item can be read and `t` is the
exact sum. -/
theorem sumFrom_eq_ok_iff {total t : BitVec w} {as : List α} :
    sumFrom value overflow total as = .ok t ↔
      (∀ a ∈ as, ∃ v, value a = .ok v) ∧ total.toNat + (as.map (weight value)).sum = t.toNat := by
  induction as generalizing total with
  | nil => simp [BitVec.toNat_inj]
  | cons a as ih =>
    rw [sumFrom_cons]
    constructor
    · intro h
      obtain ⟨mid, hs, hrest⟩ := bind_eq_ok_iff.mp h
      obtain ⟨hread, hmid⟩ := step_eq_ok_iff.mp hs
      obtain ⟨hall, hsum⟩ := ih.mp hrest
      refine ⟨List.forall_mem_cons.mpr ⟨hread, hall⟩, ?_⟩
      rw [List.map_cons, List.sum_cons]
      omega
    · rintro ⟨hall, hsum⟩
      obtain ⟨hread, hrest⟩ := List.forall_mem_cons.mp hall
      rw [List.map_cons, List.sum_cons] at hsum
      -- the running total is below the final one, so it is a word
      have hlt : total.toNat + weight value a < 2 ^ w := by have := t.isLt; omega
      have hs : step value overflow total a = .ok (BitVec.ofNat w (total.toNat + weight value a)) :=
        step_eq_ok_iff.mpr ⟨hread, by rw [BitVec.toNat_ofNat, Nat.mod_eq_of_lt hlt]⟩
      refine bind_eq_ok_iff.mpr ⟨_, hs, ih.mpr ⟨hrest, ?_⟩⟩
      rw [BitVec.toNat_ofNat, Nat.mod_eq_of_lt hlt]
      omega

/-! ### The item it stops at -/

/-- An iteration fails on an item that cannot be read, or when the exact total is no word. -/
theorem step_eq_error_iff {total : BitVec w} {a : α} {e : ε} :
    step value overflow total a = .error e ↔
      value a = .error e ∨
        (∃ v, value a = .ok v) ∧ 2 ^ w ≤ total.toNat + weight value a ∧ overflow = e := by
  cases hv : value a with
  | error e' => simp [step, hv]
  | ok v =>
    rw [weight_of_ok hv, ← checkedAdd_eq_none_iff]
    simp [step, hv, okOr_eq_error_iff]

/-- **Where the loop stops.** It fails exactly when some item fails from the total of those before
it, all of which went through. -/
theorem sumFrom_eq_error_iff {total : BitVec w} {as : List α} {e : ε} :
    sumFrom value overflow total as = .error e ↔
      ∃ before a after t, as = before ++ a :: after ∧
        sumFrom value overflow total before = .ok t ∧ step value overflow t a = .error e := by
  constructor
  · intro h
    induction as generalizing total with
    | nil => simp at h
    | cons a as ih =>
      rw [sumFrom_cons] at h
      rcases bind_eq_error_iff.mp h with hstep | ⟨mid, hstep, hrest⟩
      · exact ⟨[], a, as, total, rfl, rfl, hstep⟩
      · obtain ⟨before, b, after, t, rfl, hbefore, hb⟩ := ih hrest
        refine ⟨a :: before, b, after, t, rfl, ?_, hb⟩
        rw [sumFrom_cons, hstep]
        exact hbefore
  · rintro ⟨before, a, after, t, rfl, hbefore, hstep⟩
    rw [sumFrom, List.foldlM_append, ← sumFrom, hbefore, ok_bind, ← sumFrom, sumFrom_cons, hstep,
      error_bind]

end CheckedSum
