import Mathlib.Data.Finsupp.Order
import Mathlib.Order.CompletePartialOrder

/-!
# Books of holdings

What a token is, with everything about its carrier taken away: a book says who holds how much, and
a movement takes some holdings from those who signed it and gives others to whomever it likes. It
gives no more than it took, unless it is allowed to issue.

Three things follow for runs of movements, whoever signs and in whatever order. The total grows by
what is issued and by nothing else; nobody who never signs loses anything; and so a coalition can
get hold of what the others gave and of what was issued, but of nothing that belonged to holders
who did not sign.

Holders are any type. Amounts are any canonically ordered monoid, so that there is neither a
negative holding nor a need to subtract.

## Main definitions

* `Book.total`, `Book.held`
* `Book.Move`, `Book.Moves`

## Main results

* `Book.Moves.total_le`, `Book.Moves.le_of_not_signed`
* `Book.Moves.held_add_held_le`: the bound on a coalition
-/

namespace Book

variable {α M : Type*} [AddCommMonoid M]

/-! ### Books -/

/-- Everything that is held. -/
def total (b : α →₀ M) : M := b.sum fun _ m => m

theorem total_add (b b' : α →₀ M) : total (b + b') = total b + total b' :=
  Finsupp.sum_add_index' (fun _ => rfl) fun _ _ _ => rfl

open Classical in
/-- What the holders in `S` hold. -/
noncomputable def held (S : Set α) (b : α →₀ M) : M := total (b.filter (· ∈ S))

variable [PartialOrder M]

theorem total_mono [IsOrderedAddMonoid M] {b b' : α →₀ M} (h : b ≤ b') : total b ≤ total b' := by
  classical
  exact Finsupp.sum_le_sum_index h (fun _ _ _ _ hle => hle) fun _ _ => rfl

theorem held_mono [IsOrderedAddMonoid M] {S : Set α} {b b' : α →₀ M}
    (h : ∀ a ∈ S, b a ≤ b' a) : held S b ≤ held S b' := by
  refine total_mono fun a => ?_
  by_cases ha : a ∈ S
  · simpa [ha] using h a ha
  · simp [ha]

/-- Two sets of holders share nothing of what they hold. -/
theorem held_add_held_le_total [IsOrderedAddMonoid M] [CanonicallyOrderedAdd M] {S U : Set α}
    (hdisj : Disjoint S U) (b : α →₀ M) : held S b + held U b ≤ total b := by
  rw [held, held, ← total_add]
  refine total_mono fun a => ?_
  by_cases hS : a ∈ S
  · simp [hS, Set.disjoint_left.mp hdisj hS]
  · by_cases hU : a ∈ U <;> simp [hS, hU]

/-! ### Movements -/

/-- Some holdings of those who signed are taken, and others given: no more than was taken and
issued together. -/
def Move (signed : Set α) (issued : M) (b b' : α →₀ M) : Prop :=
  ∃ kept taken given : α →₀ M, kept + taken = b ∧ kept + given = b' ∧
    (∀ a ∉ signed, taken a = 0) ∧ total given ≤ total taken + issued

variable {signed : Set α} {issued : M} {b b' : α →₀ M}

theorem Move.total_le [IsOrderedAddMonoid M] (h : Move signed issued b b') :
    total b' ≤ total b + issued := by
  obtain ⟨kept, taken, given, rfl, rfl, -, hle⟩ := h
  rw [total_add, total_add, add_assoc]
  gcongr

theorem Move.le_of_not_signed [CanonicallyOrderedAdd M] (h : Move signed issued b b') {a : α}
    (ha : a ∉ signed) : b a ≤ b' a := by
  obtain ⟨kept, taken, given, rfl, rfl, htaken, -⟩ := h
  rw [Finsupp.add_apply, Finsupp.add_apply, htaken a ha, add_zero]
  exact le_self_add

/-! ### Runs of movements -/

/-- One movement after the other; each comes with its signers and with what it issues. -/
inductive Moves : List (Set α × M) → (α →₀ M) → (α →₀ M) → Prop
  | nil (b : α →₀ M) : Moves [] b b
  | cons {signed : Set α} {issued : M} {moves : List (Set α × M)} {b b' b'' : α →₀ M}
      (move : Move signed issued b b') (rest : Moves moves b' b'') :
      Moves ((signed, issued) :: moves) b b''

variable {moves : List (Set α × M)}

/-- The total grows by what is issued. -/
theorem Moves.total_le [IsOrderedAddMonoid M] (h : Moves moves b b') :
    total b' ≤ total b + (moves.map Prod.snd).sum := by
  induction h with
  | nil b => simp
  | @cons signed issued moves b b' b'' move rest ih =>
    calc total b'' ≤ total b' + (moves.map Prod.snd).sum := ih
      _ ≤ total b + issued + (moves.map Prod.snd).sum := by gcongr; exact move.total_le
      _ = total b + (((signed, issued) :: moves).map Prod.snd).sum := by
        rw [List.map_cons, List.sum_cons, add_assoc]

/-- Who never signs loses nothing. -/
theorem Moves.le_of_not_signed [CanonicallyOrderedAdd M] (h : Moves moves b b') {a : α}
    (ha : ∀ m ∈ moves, a ∉ m.1) : b a ≤ b' a := by
  induction h with
  | nil b => exact le_rfl
  | cons move _ ih =>
    obtain ⟨hmove, hrest⟩ := List.forall_mem_cons.mp ha
    exact (move.le_of_not_signed hmove).trans (ih hrest)

/-- **What a coalition can get.** However the movements are arranged, the holders in `S` do not get
what the holders in `U`, none of whom signs, had. -/
theorem Moves.held_add_held_le [IsOrderedAddMonoid M] [CanonicallyOrderedAdd M]
    (h : Moves moves b b') {S U : Set α} (hdisj : Disjoint S U)
    (hU : ∀ m ∈ moves, Disjoint U m.1) :
    held S b' + held U b ≤ total b + (moves.map Prod.snd).sum := by
  have hkeep : held U b ≤ held U b' := held_mono fun a ha =>
    h.le_of_not_signed fun m hm => Set.disjoint_left.mp (hU m hm) ha
  calc held S b' + held U b ≤ held S b' + held U b' := by gcongr
    _ ≤ total b' := held_add_held_le_total hdisj b'
    _ ≤ total b + (moves.map Prod.snd).sum := h.total_le

end Book
