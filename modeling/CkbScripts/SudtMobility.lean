import CkbScripts.SudtLedger

/-!
# Which token cells the script lets move

A token cell is spent together with others, and the script looks at all of them: one that cannot be
read, or a total that is no word, and nothing in the transaction moves. In owner mode the script
looks at nothing. This module says which token cells it lets through at all without the owner, and
what becomes of the others.

Only the sUDT scripts run here. What the script lets through the locks may still refuse, so for
spending a cell the condition is necessary; a cell that fails it stays whatever its lock does. A
transaction that puts its own inputs back as outputs is what shows that the script asks no more.

## Main definitions

* `Sudt.AllowedTogether`: the sUDT scripts allow some transaction without the owner to spend these
  cells

## Main results

* `Sudt.allowedTogether_iff`
* `Sudt.unreadable_stays`: over whole runs
-/

namespace CkbScripts

namespace Sudt

open Exchange

variable {H : Hashing} {isSudt : Script → Bool} {T : Script} {tx : ResolvedTx} {L L' : Ledger}
  {cells : List LiveCell}

/-! ### What the script asks of its inputs -/

/-- The inputs of a token that moves without its owner conserve it. -/
theorem conserving_of_applyTx (hT : isSudt T = true) (howner : NoOwnerInput H T tx)
    (h : applyTx H isSudt L tx = some L') {c : LiveCell} (hc : c ∈ tx.inputs)
    (htype : c.type_ = some T) : T.args.length = 32 ∧ (Loads.ofTx H tx T).Conserving := by
  obtain ⟨hver, -⟩ := applyTx_eq_some_iff.mp h
  have hmem : T ∈ typeScripts tx :=
    List.mem_filterMap.mpr ⟨c.toCell, List.mem_append_left _ (List.mem_map_of_mem hc), htype⟩
  obtain ⟨hargs, hmode | hcons⟩ := (sudtMain_eq_ok_iff _).mp (hver T hmem hT)
  · exact absurd hmode (not_ownerMode howner)
  · exact ⟨hargs, hcons⟩

theorem data_mem_groupInputData {c : LiveCell} (hc : c ∈ tx.inputs) (htype : c.type_ = some T) :
    c.data ∈ (Loads.ofTx H tx T).groupInputData := by
  rw [Loads.groupInputData_ofTx]
  refine List.mem_map_of_mem (List.mem_filter.mpr ⟨List.mem_map_of_mem hc, ?_⟩)
  simpa using htype

/-! ### Moving cells together -/

/-- As far as the sUDT scripts are concerned, some transaction without an owner-typed input spends
these cells, among others. No lock runs. -/
def AllowedTogether (H : Hashing) (isSudt : Script → Bool) (T : Script) (L : Ledger)
    (cells : List LiveCell) : Prop :=
  ∃ tx L', NoOwnerInput H T tx ∧ (cells : Multiset LiveCell) ≤ tx.inputs ∧
    applyTx H isSudt L tx = some L'

/-- The transaction that puts some cells back where they were. -/
def keepTx (cells : List LiveCell) : ResolvedTx where
  hash := zeros 32
  inputs := cells
  outputs := cells.map LiveCell.toCell
  headerDeps := []
  witnesses := []

theorem filter_eq_self_of_types (htypes : ∀ c ∈ cells, c.type_ = some T) :
    (cells.map LiveCell.toCell).filter (fun c => c.type_ = some T) =
      cells.map LiveCell.toCell := by
  refine List.filter_eq_self.mpr fun c hc => ?_
  obtain ⟨l, hl, rfl⟩ := List.mem_map.mp hc
  simpa using htypes l hl

theorem groupInputData_keepTx (htypes : ∀ c ∈ cells, c.type_ = some T) :
    (Loads.ofTx H (keepTx cells) T).groupInputData = cells.map fun c => c.data := by
  rw [Loads.groupInputData_ofTx, keepTx, filter_eq_self_of_types htypes, List.map_map]
  rfl

theorem groupOutputData_keepTx (htypes : ∀ c ∈ cells, c.type_ = some T) :
    (Loads.ofTx H (keepTx cells) T).groupOutputData = cells.map fun c => c.data := by
  rw [Loads.groupOutputData_ofTx, keepTx, filter_eq_self_of_types htypes, List.map_map]
  rfl

/-- Cells that can be read and whose total is a word are put back. -/
theorem verified_keepTx (htypes : ∀ c ∈ cells, c.type_ = some T) (hargs : T.args.length = 32)
    (hread : ∀ c ∈ cells, 16 ≤ c.data.length)
    (hword : (cells.map fun c => amountOf c.data).sum < 2 ^ 128) :
    Verified H isSudt (keepTx cells) := by
  intro s hs _
  obtain ⟨c, hc, htype⟩ := List.mem_filterMap.mp hs
  obtain ⟨l, hl, rfl⟩ : ∃ l ∈ cells, l.toCell = c := by simpa [keepTx] using hc
  obtain rfl : s = T := Option.some.inj (htype.symm.trans (htypes l hl))
  refine (sudtMain_eq_ok_iff _).mpr ⟨hargs, Or.inr ?_⟩
  have hin := groupInputData_keepTx (H := H) htypes
  have hout := groupOutputData_keepTx (H := H) htypes
  have hall : ∀ data ∈ cells.map fun c => c.data, 16 ≤ data.length := by
    intro data hdata
    obtain ⟨l, hl, rfl⟩ := List.mem_map.mp hdata
    exact hread l hl
  refine ⟨hin ▸ hall, hout ▸ hall, ?_, by rw [hin, hout]⟩
  rw [hin, List.map_map]
  exact hword

/-- **Which cells the script lets move together without the owner.** Cells of a token that is not
its own owner's: its args have to be a hash, every one of the cells has to hold an amount, and the
exact total has to be a word. The script asks nothing else. -/
theorem allowedTogether_iff (H : Hashing) (isSudt : Script → Bool) (T : Script)
    (hT : isSudt T = true) (L : Ledger) (cells : List LiveCell) (hne : cells ≠ [])
    (hlive : (cells : Multiset LiveCell) ≤ L) (htypes : ∀ c ∈ cells, c.type_ = some T) :
    AllowedTogether H isSudt T L cells ↔
      (H.scriptHash T).toList ≠ T.args ∧ T.args.length = 32 ∧
        (∀ c ∈ cells, 16 ≤ c.data.length) ∧
        (cells.map fun c => amountOf c.data).sum < 2 ^ 128 := by
  obtain ⟨c, hc⟩ := List.exists_mem_of_ne_nil cells hne
  constructor
  · rintro ⟨tx, L', howner, hsub, happly⟩
    have hinputs : ∀ c ∈ cells, c ∈ tx.inputs := fun c hc =>
      Multiset.mem_coe.mp (Multiset.mem_of_le hsub (Multiset.mem_coe.mpr hc))
    obtain ⟨hargs, hcons⟩ := conserving_of_applyTx hT howner happly (hinputs c hc) (htypes c hc)
    refine ⟨howner c (hinputs c hc) T (htypes c hc), hargs, fun c hc => ?_, ?_⟩
    · exact hcons.inputs_decode _ (data_mem_groupInputData (hinputs c hc) (htypes c hc))
    · -- the cells are some of the inputs, and the inputs' total is a word
      have hle : total (tokenWeight T ∘ LiveCell.toCell) (cells : Multiset LiveCell) ≤
          total (tokenWeight T ∘ LiveCell.toCell) tx.inputs := by
        rw [← tsub_add_cancel_of_le hsub, total_add]
        exact Nat.le_add_left _ _
      have hweight : total (tokenWeight T ∘ LiveCell.toCell) (cells : Multiset LiveCell) =
          (cells.map fun c => amountOf c.data).sum := by
        rw [total_coe]
        congr 1
        exact List.map_congr_left fun c hc => if_pos (htypes c hc)
      rw [← hweight]
      exact Nat.lt_of_le_of_lt hle (total_inputs H tx T ▸ hcons.input_lt)
  · rintro ⟨hself, hargs, hread, hword⟩
    have howner : NoOwnerInput H T (keepTx cells) := by
      intro l hl s hs
      obtain rfl : T = s := Option.some.inj ((htypes l hl).symm.trans hs)
      exact hself
    exact ⟨keepTx cells, _, howner, le_rfl, applyTx_eq_some_iff.mpr
      ⟨verified_keepTx htypes hargs hread hword, exchange_eq_some_iff.mpr ⟨hlive, rfl⟩⟩⟩

/-- The script lets two cells of the holder move together, of a hundred and of five tokens. -/
theorem allowedTogether_iff_split :
    AllowedTogether tokenHashing (· = token) token splitBefore
        [⟨tokenCell 100, Byte32.ofNat 7, 0⟩, ⟨tokenCell 5, Byte32.ofNat 7, 1⟩] ↔
      (tokenHashing.scriptHash token).toList ≠ token.args ∧ token.args.length = 32 ∧
        (∀ c ∈ [(⟨tokenCell 100, Byte32.ofNat 7, 0⟩ : LiveCell),
          ⟨tokenCell 5, Byte32.ofNat 7, 1⟩], 16 ≤ c.data.length) ∧
        ([(⟨tokenCell 100, Byte32.ofNat 7, 0⟩ : LiveCell), ⟨tokenCell 5, Byte32.ofNat 7, 1⟩].map
          fun c => amountOf c.data).sum < 2 ^ 128 :=
  allowedTogether_iff tokenHashing (· = token) token (by decide) splitBefore
    [⟨tokenCell 100, Byte32.ofNat 7, 0⟩, ⟨tokenCell 5, Byte32.ofNat 7, 1⟩] (by simp)
    (by decide) (by decide)

/-! ### Cells that stay -/

/-- A cell of the token that cannot be read is not among the inputs. -/
theorem not_mem_inputs_of_unreadable (hT : isSudt T = true) (howner : NoOwnerInput H T tx)
    (h : applyTx H isSudt L tx = some L') {c : LiveCell} (htype : c.type_ = some T)
    (hdata : c.data.length < 16) : c ∉ tx.inputs := by
  intro hc
  obtain ⟨-, hcons⟩ := conserving_of_applyTx hT howner h hc htype
  exact Nat.not_le.mpr hdata (hcons.inputs_decode _ (data_mem_groupInputData hc htype))

/-- **A token cell without an amount is there to stay.** Once it is live, and as long as no
transaction has an owner-typed input, no transaction spends it, whatever lock it has. -/
theorem unreadable_stays (H : Hashing) (isSudt : Script → Bool) (T : Script)
    (hT : isSudt T = true) (L L' : Ledger) (txs : List ResolvedTx)
    (howner : ∀ tx ∈ txs, NoOwnerInput H T tx)
    (hrun : run (applyTx H isSudt) L txs = some L') (c : LiveCell) (hc : c ∈ L)
    (htype : c.type_ = some T) (hdata : c.data.length < 16) : c ∈ L' := by
  refine run_induction (R := fun L L' => c ∈ L → c ∈ L') (fun _ => id)
    (fun hab hbc hc => hbc (hab hc)) (fun {L tx L'} howner happly hc => ?_) howner hrun hc
  have hnot := not_mem_inputs_of_unreadable hT howner happly htype hdata
  obtain ⟨-, hexchange⟩ := applyTx_eq_some_iff.mp happly
  exact mem_of_exchange hexchange hc fun hmem => hnot (Multiset.mem_coe.mp hmem)

/-- A cell of the token with one byte of data. -/
def shortCell : LiveCell :=
  ⟨⟨⟨14200000000, holderLock, some token⟩, [1]⟩, Byte32.ofNat 7, 2⟩

theorem unreadable_stays_split :
    run (applyTx tokenHashing (· = token)) (shortCell ::ₘ splitBefore) [splitTx] =
        some (shortCell ::ₘ splitAfter) ∧
      shortCell ∈ shortCell ::ₘ splitAfter := by
  have hrun : run (applyTx tokenHashing (· = token)) (shortCell ::ₘ splitBefore) [splitTx] =
      some (shortCell ::ₘ splitAfter) := by
    decide
  have howner : ∀ tx ∈ [splitTx], NoOwnerInput tokenHashing token tx := by
    intro tx htx
    obtain rfl : tx = splitTx := by simpa using htx
    rw [noOwnerInput_iff, Loads.OwnerMode]
    rintro ⟨h, hmem, hargs⟩
    obtain rfl : h = ownerLockHash := ByteVec.ext hargs
    revert hmem
    decide
  exact ⟨hrun, unreadable_stays tokenHashing (· = token) token (by decide) _ _ [splitTx]
    howner hrun shortCell (Multiset.mem_cons_self _ _) (by decide) (by decide)⟩

end Sudt

end CkbScripts
