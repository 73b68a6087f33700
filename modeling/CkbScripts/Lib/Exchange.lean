import Mathlib.Algebra.BigOperators.Group.Multiset.Basic
import Mathlib.Algebra.Order.Group.Multiset
import Mathlib.Algebra.Order.Ring.Nat
import Mathlib.Tactic.Common

/-!
# Exchange systems

A store is a multiset of items, and a transition takes some items out and puts others in. What an
observer measures is a weight of the items, summed. The only bookkeeping fact needed is
`total_of_exchange`: the total moves by exactly what was put in less what was taken out, whatever
else the store holds. It is stated without subtraction.

Runs are kept apart from stores. `run` iterates any partial transition function, and
`run_induction` is its one induction: a reflexive and transitive relation that holds across each
allowed step holds across each run of allowed steps. `foldl_induction` is the same for a total
transition function whose allowed steps depend on the state.

## Main results

* `Exchange.total_of_exchange`: the accounting identity of one exchange
* `Exchange.run_induction`, `Exchange.foldl_induction`: from one step to a whole run
* `Exchange.exists_step_of_run`: from a whole run to one step
-/

namespace Exchange

variable {α σ τ : Type*}

/-- The summed weight of a store. -/
def total (f : α → ℕ) (s : Multiset α) : ℕ := (s.map f).sum

@[simp] theorem total_add (f : α → ℕ) (s t : Multiset α) :
    total f (s + t) = total f s + total f t := by
  rw [total, Multiset.map_add, Multiset.sum_add, total, total]

@[simp] theorem total_coe (f : α → ℕ) (l : List α) : total f (l : Multiset α) = (l.map f).sum := by
  rw [total, Multiset.map_coe, Multiset.sum_coe]

@[simp] theorem total_singleton (f : α → ℕ) (a : α) : total f {a} = f a := by
  rw [total, Multiset.map_singleton, Multiset.sum_singleton]

/-! ### One exchange -/

section Exchange

variable [DecidableEq α]

/-- Take `consumed` out and put `created` in; refused unless all of `consumed` is there. -/
def exchange (s consumed created : Multiset α) : Option (Multiset α) :=
  if consumed ≤ s then some (s - consumed + created) else none

theorem exchange_eq_some_iff {s s' consumed created : Multiset α} :
    exchange s consumed created = some s' ↔ consumed ≤ s ∧ s - consumed + created = s' := by
  by_cases h : consumed ≤ s <;> simp [exchange, h]

theorem total_of_exchange {s s' consumed created : Multiset α} (f : α → ℕ)
    (h : exchange s consumed created = some s') :
    total f s' + total f consumed = total f s + total f created := by
  obtain ⟨hle, rfl⟩ := exchange_eq_some_iff.mp h
  have hs : s - consumed + consumed = s := tsub_add_cancel_of_le hle
  calc total f (s - consumed + created) + total f consumed
      = total f (s - consumed + consumed) + total f created := by
        rw [total_add, total_add, Nat.add_right_comm]
    _ = total f s + total f created := by rw [hs]

/-- What is not taken out stays. -/
theorem mem_of_exchange {s s' consumed created : Multiset α} {a : α}
    (h : exchange s consumed created = some s') (ha : a ∈ s) (hnot : a ∉ consumed) : a ∈ s' := by
  obtain ⟨hle, rfl⟩ := exchange_eq_some_iff.mp h
  rw [← tsub_add_cancel_of_le hle, Multiset.mem_add] at ha
  exact Multiset.mem_add.mpr (Or.inl (ha.resolve_right hnot))

/-- What is new was put in. -/
theorem mem_created_of_exchange {s s' consumed created : Multiset α} {a : α}
    (h : exchange s consumed created = some s') (hnew : a ∉ s) (ha : a ∈ s') : a ∈ created := by
  obtain ⟨-, rfl⟩ := exchange_eq_some_iff.mp h
  exact (Multiset.mem_add.mp ha).resolve_left fun hkept =>
    hnew (Multiset.mem_of_le (Multiset.sub_le_self _ _) hkept)

/-- One item can be exchanged for another. -/
theorem exists_exchange_singleton {s : Multiset α} {a : α} (b : α) (ha : a ∈ s) :
    ∃ s', exchange s {a} {b} = some s' ∧ b ∈ s' :=
  ⟨_, exchange_eq_some_iff.mpr ⟨Multiset.singleton_le.mpr ha, rfl⟩, by simp⟩

/-- A property of all items is kept by an exchange that does not lose it on the way. -/
theorem forall_mem_of_exchange {s s' consumed created : Multiset α} {p : α → Prop}
    (h : exchange s consumed created = some s') (hs : ∀ a ∈ s, p a)
    (hkeep : (∀ a ∈ consumed, p a) → ∀ a ∈ created, p a) : ∀ a ∈ s', p a := by
  obtain ⟨hle, rfl⟩ := exchange_eq_some_iff.mp h
  intro a ha
  rcases Multiset.mem_add.mp ha with hkept | hnew
  · exact hs a (Multiset.mem_of_le (Multiset.sub_le_self _ _) hkept)
  · exact hkeep (fun b hb => hs b (Multiset.mem_of_le hle hb)) a hnew

end Exchange

/-! ### Runs -/

/-- Iterate a partial transition function along a list of transitions. -/
def run (step : σ → τ → Option σ) (s : σ) (ts : List τ) : Option σ := ts.foldlM step s

@[simp] theorem run_nil (step : σ → τ → Option σ) (s : σ) : run step s [] = some s := rfl

theorem run_cons_eq_some_iff {step : σ → τ → Option σ} {s s' : σ} {t : τ} {ts : List τ} :
    run step s (t :: ts) = some s' ↔ ∃ mid, step s t = some mid ∧ run step mid ts = some s' := by
  simp [run, Option.bind_eq_some_iff]

/-- **From one step to a run.** `P` says which transitions are allowed. -/
theorem run_induction {step : σ → τ → Option σ} {P : τ → Prop} {R : σ → σ → Prop}
    (hrefl : ∀ s, R s s) (htrans : ∀ {a b c}, R a b → R b c → R a c)
    (hstep : ∀ {s t s'}, P t → step s t = some s' → R s s') {s s' : σ} {ts : List τ}
    (hts : ∀ t ∈ ts, P t) (hrun : run step s ts = some s') : R s s' := by
  induction ts generalizing s with
  | nil =>
    obtain rfl : s = s' := by simpa using hrun
    exact hrefl s
  | cons t ts ih =>
    obtain ⟨mid, hmid, hrest⟩ := run_cons_eq_some_iff.mp hrun
    obtain ⟨ht, hts'⟩ := List.forall_mem_cons.mp hts
    exact htrans (hstep ht hmid) (ih hts' hrest)

/-- What a run has lost was lost at one of its steps. -/
theorem exists_step_of_run {step : σ → τ → Option σ} {P : σ → Prop} {s s' : σ} {ts : List τ}
    (hrun : run step s ts = some s') (hs : P s) (hs' : ¬ P s') :
    ∃ before t after mid mid', ts = before ++ t :: after ∧ run step s before = some mid ∧
      step mid t = some mid' ∧ P mid ∧ ¬ P mid' := by
  induction ts generalizing s with
  | nil =>
    obtain rfl : s = s' := by simpa using hrun
    exact absurd hs hs'
  | cons t ts ih =>
    obtain ⟨mid, hmid, hrest⟩ := run_cons_eq_some_iff.mp hrun
    by_cases hP : P mid
    · obtain ⟨before, t', after, a, b, rfl, hbefore, hstep, ha, hb⟩ := ih hrest hP
      exact ⟨t :: before, t', after, a, b, rfl, run_cons_eq_some_iff.mpr ⟨mid, hmid, hbefore⟩,
        hstep, ha, hb⟩
    · exact ⟨[], t, ts, s, mid, rfl, rfl, hmid, hs, hP⟩

/-- The same for a total transition function, with an invariant of states and a guard that depends
on the state a transition starts from. -/
theorem foldl_induction {step : σ → τ → σ} {Inv : σ → Prop} {P : σ → τ → Prop}
    (hstep : ∀ {s t}, Inv s → P s t → Inv (step s t)) {s : σ} {ts : List τ} (hs : Inv s)
    (hts : ∀ before t, before ++ [t] <+: ts → P (before.foldl step s) t) :
    Inv (ts.foldl step s) := by
  induction ts using List.reverseRecOn with
  | nil => exact hs
  | append_singleton ts t ih =>
    rw [List.foldl_append]
    exact hstep (ih fun before t' h => hts before t' (h.trans (List.prefix_append ts [t])))
      (hts ts t List.prefix_rfl)

end Exchange
