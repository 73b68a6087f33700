import Mathlib.Algebra.BigOperators.Group.List.Basic
import Mathlib.Algebra.Order.Ring.Nat
import Mathlib.Data.List.Basic
import Mathlib.Tactic.Common

/-!
# Leading runs that reach a target

Take items off the front of a list until their weights add up to a target, and at least one if
there is any. Coin selection, batching and reading up to a quota are of this form.

`leadingRun` says how; `IsShortest` says what it is for, and `isShortest_leadingRun` that it is that
whenever the whole list is enough. How far the run goes can also be said without it:
`append_prefix_leadingRun_iff` asks of an item only what comes before it.

The total the run starts from is a parameter, so that the lemmas fit a loop at any point of its way.

## Main definitions

* `LeadingRun.leadingRun`, `LeadingRun.IsShortest`

## Main results

* `LeadingRun.leadingRun_isPrefix`, `leadingRun_shortest`, `leadingRun_of_not_reaches`
* `LeadingRun.append_prefix_leadingRun_iff`, `forall_mem_leadingRun_iff`, `sum_leadingRun_lt_iff`
* `LeadingRun.isShortest_leadingRun`
-/

namespace LeadingRun

variable {α : Type*} (f : α → ℕ) (target : ℕ)

/-- Take items until the total, counted from `start`, reaches the target; at least one. -/
def leadingRun (start : ℕ) : List α → List α
  | [] => []
  | a :: as => a :: if target ≤ start + f a then [] else leadingRun (start + f a) as

/-- The shortest leading part of a list, and not the empty one unless the list is, whose weights
add up to the target. -/
structure IsShortest (l run : List α) : Prop where
  leading : run <+: l
  nonempty : run = [] → l = []
  reaches : target ≤ (run.map f).sum
  shortest : ∀ p, p <+: l → (p = [] → l = []) → target ≤ (p.map f).sum → run <+: p

@[simp] theorem leadingRun_nil (start : ℕ) : leadingRun f target start [] = [] := rfl

variable {f target} {start : ℕ} {a : α} {l : List α}

theorem leadingRun_cons_of_le (h : target ≤ start + f a) :
    leadingRun f target start (a :: l) = [a] := by
  rw [leadingRun, if_pos h]

theorem leadingRun_cons_of_lt (h : start + f a < target) :
    leadingRun f target start (a :: l) = a :: leadingRun f target (start + f a) l := by
  rw [leadingRun, if_neg (Nat.not_le.mpr h)]

theorem leadingRun_eq_nil_iff : leadingRun f target start l = [] ↔ l = [] := by
  cases l <;> simp [leadingRun]

theorem leadingRun_isPrefix (f : α → ℕ) (target start : ℕ) (l : List α) :
    leadingRun f target start l <+: l := by
  induction l generalizing start with
  | nil => exact List.prefix_rfl
  | cons a l ih =>
    by_cases h : target ≤ start + f a
    · rw [leadingRun_cons_of_le h]
      exact ⟨l, rfl⟩
    · rw [leadingRun_cons_of_lt (Nat.not_le.mp h)]
      exact List.cons_prefix_cons.mpr ⟨rfl, ih _⟩

/-- A list that does not add up to the target is taken whole. -/
theorem leadingRun_of_not_reaches (h : start + (l.map f).sum < target) :
    leadingRun f target start l = l := by
  induction l generalizing start with
  | nil => rfl
  | cons a l ih =>
    rw [List.map_cons, List.sum_cons] at h
    rw [leadingRun_cons_of_lt (by omega), ih (by omega)]

/-- The run adds up to the target if the list does. -/
theorem leadingRun_reaches (h : target ≤ start + (l.map f).sum) :
    target ≤ start + ((leadingRun f target start l).map f).sum := by
  induction l generalizing start with
  | nil => exact h
  | cons a l ih =>
    by_cases ha : target ≤ start + f a
    · simpa [leadingRun_cons_of_le ha] using ha
    · rw [List.map_cons, List.sum_cons] at h
      have hrest : target ≤
          start + f a + ((leadingRun f target (start + f a) l).map f).sum := ih (by omega)
      rw [leadingRun_cons_of_lt (Nat.not_le.mp ha), List.map_cons, List.sum_cons]
      omega

/-- No other leading part that adds up to the target is shorter. -/
theorem leadingRun_shortest {p : List α} (hp : p <+: l) (hne : p ≠ [])
    (hreach : target ≤ start + (p.map f).sum) : leadingRun f target start l <+: p := by
  induction p generalizing start l with
  | nil => exact absurd rfl hne
  | cons b p ih =>
    obtain ⟨rest, rfl⟩ := hp
    rw [List.cons_append]
    by_cases hb : target ≤ start + f b
    · rw [leadingRun_cons_of_le hb]
      exact ⟨p, rfl⟩
    · rw [List.map_cons, List.sum_cons] at hreach
      rw [leadingRun_cons_of_lt (Nat.not_le.mp hb)]
      refine List.cons_prefix_cons.mpr ⟨rfl, ih ⟨rest, rfl⟩ ?_ (by omega)⟩
      rintro rfl
      simp at hreach
      omega

/-- **Where the run goes on.** It takes an item exactly when it is the first, or when those before
it do not reach the target. -/
theorem append_prefix_leadingRun_iff {before : List α} {c : α} :
    before ++ [c] <+: leadingRun f target start l ↔
      before ++ [c] <+: l ∧ (before = [] ∨ start + (before.map f).sum < target) := by
  induction l generalizing start before with
  | nil => simp
  | cons a l ih =>
    cases before with
    | nil =>
      by_cases ha : target ≤ start + f a
      · simp [leadingRun_cons_of_le ha]
      · simp [leadingRun_cons_of_lt (Nat.not_le.mp ha)]
    | cons b before =>
      rw [List.cons_append, List.cons_prefix_cons, List.map_cons, List.sum_cons]
      by_cases ha : target ≤ start + f a
      · rw [leadingRun_cons_of_le ha, List.cons_prefix_cons]
        constructor
        · rintro ⟨-, h⟩
          simp at h
        · rintro ⟨⟨rfl, -⟩, h | h⟩
          · cases h
          · omega
      · rw [leadingRun_cons_of_lt (Nat.not_le.mp ha), List.cons_prefix_cons, ih]
        constructor
        · rintro ⟨rfl, hl, hbefore⟩
          refine ⟨⟨rfl, hl⟩, Or.inr ?_⟩
          rcases hbefore with rfl | h
          · simpa using ha
          · omega
        · rintro ⟨⟨rfl, hl⟩, h | h⟩
          · cases h
          · exact ⟨rfl, hl, Or.inr (by omega)⟩

/-- So a property of the items the run takes is one of those before which it goes on. -/
theorem forall_mem_leadingRun_iff {P : α → Prop} :
    (∀ c ∈ leadingRun f target start l, P c) ↔
      ∀ before c, before ++ [c] <+: l → (before = [] ∨ start + (before.map f).sum < target) →
        P c := by
  constructor
  · intro h before c hl hbefore
    have hrun := append_prefix_leadingRun_iff.mpr ⟨hl, hbefore⟩
    exact h c (hrun.subset (by simp))
  · intro h c hc
    obtain ⟨before, after, hsplit⟩ := List.append_of_mem hc
    have hrun : before ++ [c] <+: leadingRun f target start l := ⟨after, by simp [hsplit]⟩
    obtain ⟨hl, hbefore⟩ := append_prefix_leadingRun_iff.mp hrun
    exact h before c hl hbefore

/-- And a bound on its weight is one on the weight up to each of them. -/
theorem sum_leadingRun_lt_iff {bound : ℕ} (hstart : start < bound) :
    start + ((leadingRun f target start l).map f).sum < bound ↔
      ∀ before c, before ++ [c] <+: l → (before = [] ∨ start + (before.map f).sum < target) →
        start + ((before ++ [c]).map f).sum < bound := by
  constructor
  · intro h before c hl hbefore
    obtain ⟨after, hafter⟩ := append_prefix_leadingRun_iff.mpr ⟨hl, hbefore⟩
    rw [← hafter, List.map_append, List.sum_append] at h
    omega
  · intro h
    rcases List.eq_nil_or_concat (leadingRun f target start l) with hnil | ⟨before, c, hrun⟩
    · simpa [hnil] using hstart
    · rw [List.concat_eq_append] at hrun
      have hprefix : before ++ [c] <+: leadingRun f target start l := hrun ▸ List.prefix_rfl
      obtain ⟨hl, hbefore⟩ := append_prefix_leadingRun_iff.mp hprefix
      rw [hrun]
      exact h before c hl hbefore

/-- **The run is the shortest** if the list is enough. -/
theorem isShortest_leadingRun (h : target ≤ (l.map f).sum) :
    IsShortest f target l (leadingRun f target 0 l) where
  leading := leadingRun_isPrefix f target 0 l
  nonempty := leadingRun_eq_nil_iff.mp
  reaches := by
    have hreach : target ≤ 0 + (l.map f).sum := by simpa using h
    simpa using leadingRun_reaches hreach
  shortest := by
    intro p hp hnil hreach
    by_cases hne : p = []
    · rw [hnil hne]
      exact List.nil_prefix
    · exact leadingRun_shortest hp hne (by simpa using hreach)

end LeadingRun
