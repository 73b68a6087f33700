import CkbScripts.Lib.Book
import CkbScripts.SudtLedger

/-!
# The token a ledger implements

Seen from far enough away, the live cells of one type script are a book: the lock scripts are the
holders, and a holder has what the cells under that lock hold. A transaction is then a movement of
the book. It is signed by the locks of its inputs, because those are the scripts that have to run,
and it issues something only in owner mode.

`ledger_refines_book` is the simulation: every run of the ledger is a run of movements of the book,
whatever the transactions do besides. What the library proves of runs of movements is then true of
the token.

## Main definitions

* `Sudt.book`: who holds how much of a token
* `Sudt.signers`, `Sudt.issued`: how a transaction moves it

## Main results

* `Sudt.ledger_refines_book`
* `Sudt.coalition_bound`: what the holders of some locks can get without the others'
-/

namespace CkbScripts

namespace Sudt

open Exchange

/-- Who holds how much of `T`. -/
noncomputable def book (T : Script) (L : Ledger) : Script →₀ ℕ :=
  (L.map fun c => Finsupp.single c.lock (tokenWeight T c.toCell)).sum

/-- The locks that have to run. -/
def signers (tx : ResolvedTx) : Set Script := {s | ∃ c ∈ tx.inputs, c.lock = s}

open Classical in
/-- What a transaction adds to the supply of `T` in owner mode. -/
noncomputable def issued (H : Hashing) (T : Script) (tx : ResolvedTx) : ℕ :=
  if (Loads.ofTx H tx T).OwnerMode then
    total (tokenWeight T ∘ LiveCell.toCell) tx.created -
      total (tokenWeight T ∘ LiveCell.toCell) tx.inputs
  else 0

variable {H : Hashing} {isSudt : Script → Bool} {T : Script} {tx : ResolvedTx} {L L' : Ledger}

/-! ### Reading the book -/

theorem book_add (T : Script) (L L' : Ledger) : book T (L + L') = book T L + book T L' := by
  rw [book, Multiset.map_add, Multiset.sum_add, book, book]

theorem book_cons (T : Script) (c : LiveCell) (L : Ledger) :
    book T (c ::ₘ L) = Finsupp.single c.lock (tokenWeight T c.toCell) + book T L := by
  rw [book, Multiset.map_cons, Multiset.sum_cons, book]

/-- A holder has what the cells under that lock hold. -/
theorem book_apply (T : Script) (L : Ledger) (s : Script) :
    book T L s = total (fun c => if c.lock = s then tokenWeight T c.toCell else 0) L := by
  induction L using Multiset.induction_on with
  | empty => rfl
  | cons c L ih =>
    rw [book_cons, Finsupp.add_apply, Finsupp.single_apply, ih, total, total, Multiset.map_cons,
      Multiset.sum_cons]

theorem total_book (T : Script) (L : Ledger) : Book.total (book T L) = supply T L := by
  induction L using Multiset.induction_on with
  | empty => rfl
  | cons c L ih =>
    rw [book_cons, Book.total_add, ih, supply, supply, total, total, Multiset.map_cons,
      Multiset.sum_cons]
    congr 1
    simp [Book.total]

/-- Whose lock is on none of the cells has nothing. -/
theorem book_apply_eq_zero {s : Script} (h : ∀ c ∈ L, c.lock ≠ s) : book T L s = 0 := by
  rw [book_apply, total]
  refine Multiset.sum_eq_zero fun n hn => ?_
  obtain ⟨c, hc, rfl⟩ := Multiset.mem_map.mp hn
  exact if_neg (h c hc)

/-! ### A transaction moves the book -/

/-- What is created is covered by what is consumed and what is issued. -/
theorem created_le_inputs_add_issued (hT : isSudt T = true) (hver : Verified H isSudt tx) :
    total (tokenWeight T ∘ LiveCell.toCell) tx.created ≤
      total (tokenWeight T ∘ LiveCell.toCell) tx.inputs + issued H T tx := by
  by_cases hmode : (Loads.ofTx H tx T).OwnerMode
  · rw [issued, if_pos hmode]
    omega
  · rw [issued, if_neg hmode]
    exact created_le_inputs hT hver (noOwnerInput_iff.mpr hmode)

/-- **The step.** What was taken is what the inputs held, and only their locks have lost it. -/
theorem move_of_applyTx (hT : isSudt T = true) (h : applyTx H isSudt L tx = some L') :
    Book.Move (signers tx) (issued H T tx) (book T L) (book T L') := by
  obtain ⟨hver, hexchange⟩ := applyTx_eq_some_iff.mp h
  obtain ⟨hle, rfl⟩ := exchange_eq_some_iff.mp hexchange
  refine ⟨book T (L - tx.inputs), book T tx.inputs, book T tx.created, ?_, (book_add _ _ _).symm,
    fun s hs => ?_, ?_⟩
  · rw [← book_add, tsub_add_cancel_of_le hle]
  · exact book_apply_eq_zero fun c hc heq => hs ⟨c, hc, heq⟩
  · rw [total_book, total_book]
    exact created_le_inputs_add_issued hT hver

/-- The run. -/
theorem moves_of_run (hT : isSudt T = true) {txs : List ResolvedTx}
    (hrun : run (applyTx H isSudt) L txs = some L') :
    Book.Moves (txs.map fun tx => (signers tx, issued H T tx)) (book T L) (book T L') := by
  induction txs generalizing L with
  | nil =>
    obtain rfl : L = L' := by simpa using hrun
    exact .nil _
  | cons tx txs ih =>
    obtain ⟨mid, hmid, hrest⟩ := run_cons_eq_some_iff.mp hrun
    exact .cons (move_of_applyTx hT hmid) (ih hrest)

/-- **The ledger implements the token.** Every run of verified transactions, of any kind and with
any signers, is a run of movements of the book. -/
theorem ledger_refines_book (H : Hashing) (isSudt : Script → Bool) (T : Script)
    (hT : isSudt T = true) (L L' : Ledger) (txs : List ResolvedTx)
    (hrun : run (applyTx H isSudt) L txs = some L') :
    Book.Moves (txs.map fun tx => (signers tx, issued H T tx)) (book T L) (book T L') :=
  moves_of_run hT hrun

/-- A holder of five tokens who takes no part, beside one who splits a hundred. -/
def sharedBefore : Ledger :=
  ↑[(⟨tokenCell 100, Byte32.ofNat 7, 0⟩ : LiveCell),
    ⟨⟨⟨14200000000, ownerLock, some token⟩, (tokenCell 5).data⟩, Byte32.ofNat 7, 1⟩]

/-- The holder's hundred are two cells now, and the owner's five are where they were. -/
def sharedAfter : Ledger :=
  ↑[(⟨⟨⟨14200000000, ownerLock, some token⟩, (tokenCell 5).data⟩, Byte32.ofNat 7, 1⟩ : LiveCell),
    ⟨tokenCell 60, Byte32.ofNat 8, 0⟩, ⟨tokenCell 40, Byte32.ofNat 8, 1⟩]

theorem ledger_refines_book_shared :
    Book.Moves [(signers splitTx, issued tokenHashing token splitTx)] (book token sharedBefore)
      (book token sharedAfter) :=
  ledger_refines_book tokenHashing (· = token) token (by decide) sharedBefore sharedAfter
    [splitTx] (by decide)

/-! ### What a coalition can get -/

theorem held_add_held_le (hT : isSudt T = true) {txs : List ResolvedTx}
    (hrun : run (applyTx H isSudt) L txs = some L') {S U : Set Script} (hdisj : Disjoint S U)
    (hU : ∀ tx ∈ txs, ∀ c ∈ tx.inputs, c.lock ∉ U) :
    Book.held S (book T L') + Book.held U (book T L) ≤
      supply T L + (txs.map (issued H T)).sum := by
  have hsigned : ∀ m ∈ txs.map (fun tx => (signers tx, issued H T tx)), Disjoint U m.1 := by
    intro m hm
    obtain ⟨tx, htx, rfl⟩ := List.mem_map.mp hm
    refine Set.disjoint_left.mpr fun s hs => ?_
    rintro ⟨c, hc, rfl⟩
    exact hU tx htx c hc hs
  have hle := (moves_of_run hT hrun).held_add_held_le hdisj hsigned
  rwa [total_book, List.map_map] at hle

/-- **Nobody takes what its holder does not sign away.** Whatever transactions are made, the cells
under the locks `S` never hold what the cells under the locks `U` held, if no lock of `U` ran: not
by minting, not by merging and splitting, not through any other script. -/
theorem coalition_bound (H : Hashing) (isSudt : Script → Bool) (T : Script)
    (hT : isSudt T = true) (L L' : Ledger) (txs : List ResolvedTx)
    (hrun : run (applyTx H isSudt) L txs = some L') (S U : Set Script) (hdisj : Disjoint S U)
    (hU : ∀ tx ∈ txs, ∀ c ∈ tx.inputs, c.lock ∉ U) :
    Book.held S (book T L') + Book.held U (book T L) ≤
      supply T L + (txs.map (issued H T)).sum :=
  held_add_held_le hT hrun hdisj hU

theorem coalition_bound_shared :
    Book.held {holderLock} (book token sharedAfter) +
        Book.held {ownerLock} (book token sharedBefore) ≤
      supply token sharedBefore + ([splitTx].map (issued tokenHashing token)).sum := by
  refine coalition_bound tokenHashing (· = token) token (by decide) sharedBefore sharedAfter
    [splitTx] (by decide) {holderLock} {ownerLock} ?_ ?_
  · rw [Set.disjoint_singleton]
    decide
  · intro tx htx c hc hlock
    obtain rfl : tx = splitTx := by simpa using htx
    obtain rfl : c = ⟨tokenCell 100, Byte32.ofNat 7, 0⟩ := by simpa [splitTx] using hc
    have hne : holderLock ≠ ownerLock := by decide
    exact hne hlock

end Sudt

end CkbScripts
