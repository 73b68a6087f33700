import CkbScripts.Lib.Exchange
import CkbScripts.Sudt

/-!
# The supply of a token over whole runs

A ledger is the multiset of live cells. A transaction takes its input cells out and puts its
output cells in, and it goes through only if `sudtMain` accepts for every sUDT type script that
occurs on one of its cells. The script sees one token's group in one transaction and computes in
`u128`; the supply is an exact sum over everything that is live.

The bridge between the two is `sum_tokenWeight`: the weight of a list of cells, as the ledger
measures it, is the exact sum over the group the script loads. After that the step lemma is the
accounting identity of `Exchange.total_of_exchange`, and the run lemma is `Exchange.run_induction`
at the order of `ℕ`.

## Main definitions

* `Sudt.Ledger`, `Sudt.applyTx`: the ledger and its transition function
* `Sudt.supply`: the exact amount of a token that is live

## Main results

* `Sudt.supply_step`: one accepted transaction without an owner-typed input
* `Sudt.supply_run`: any sequence of them
-/

namespace CkbScripts

namespace Sudt

open Exchange

variable (H : Hashing) (isSudt : Script → Bool)

/-- The script accepts the transaction, run as a type script. -/
def Accepts (tx : ResolvedTx) (script : Script) : Prop :=
  sudtMain (Loads.ofTx H tx script) = .ok ()

instance (tx : ResolvedTx) (script : Script) : Decidable (Accepts H tx script) :=
  inferInstanceAs (Decidable (_ = _))

/-- Every type script on an input or output cell. -/
def typeScripts (tx : ResolvedTx) : List Script :=
  (tx.inputs.map LiveCell.toCell ++ tx.outputs).filterMap Cell.type_

/-- Every sUDT type script that occurs in the transaction accepts it. -/
def Verified (tx : ResolvedTx) : Prop := ∀ s ∈ typeScripts tx, isSudt s = true → Accepts H tx s

instance (tx : ResolvedTx) : Decidable (Verified H isSudt tx) :=
  inferInstanceAs (Decidable (∀ s ∈ typeScripts tx, isSudt s = true → Accepts H tx s))

/-- The live cells. -/
abbrev Ledger := Multiset LiveCell

/-- Consume the inputs and create the outputs of a verified transaction whose inputs are live. -/
def applyTx (L : Ledger) (tx : ResolvedTx) : Option Ledger :=
  if Verified H isSudt tx then exchange L tx.inputs tx.created else none

/-- What a cell counts towards the supply of `T`. -/
def tokenWeight (T : Script) (c : Cell) : ℕ := if c.type_ = some T then amountOf c.data else 0

/-- The exact amount of `T` that is live. -/
def supply (T : Script) (L : Ledger) : ℕ := total (tokenWeight T ∘ LiveCell.toCell) L

/-! ### The group of a token is its part of the ledger -/

theorem sum_tokenWeight (T : Script) (cs : List Cell) :
    (cs.map (tokenWeight T)).sum =
      ((cs.filter fun c => c.type_ = some T).map fun c => amountOf c.data).sum := by
  induction cs with
  | nil => rfl
  | cons c cs ih => by_cases h : c.type_ = some T <;> simp [tokenWeight, h, ih]

/-- The exact input sum of the script is what the inputs weigh. -/
theorem total_inputs (tx : ResolvedTx) (T : Script) :
    total (tokenWeight T ∘ LiveCell.toCell) tx.inputs =
      ((Loads.ofTx H tx T).groupInputData.map amountOf).sum := by
  have h := sum_tokenWeight T (tx.inputs.map LiveCell.toCell)
  rw [List.map_map] at h
  rw [total_coe, Loads.groupInputData_ofTx, List.map_map]
  exact h

/-- The exact output sum of the script is what the created cells weigh. -/
theorem total_created (tx : ResolvedTx) (T : Script) :
    total (tokenWeight T ∘ LiveCell.toCell) tx.created =
      ((Loads.ofTx H tx T).groupOutputData.map amountOf).sum := by
  have h := sum_tokenWeight T (tx.created.map LiveCell.toCell)
  rw [List.map_map, tx.created_map_toCell] at h
  rw [total_coe, Loads.groupOutputData_ofTx, List.map_map]
  exact h

/-- A token no cell of the transaction carries has an empty output group. -/
theorem total_created_of_not_mem {tx : ResolvedTx} {T : Script} (hT : T ∉ typeScripts tx) :
    total (tokenWeight T ∘ LiveCell.toCell) tx.created = 0 := by
  rw [total_coe]
  refine List.sum_eq_zero fun n hn => ?_
  obtain ⟨c, hc, rfl⟩ := List.mem_map.mp hn
  have hout : c.toCell ∈ tx.outputs := by
    rw [← tx.created_map_toCell]
    exact List.mem_map_of_mem hc
  refine if_neg fun htype => hT ?_
  exact List.mem_filterMap.mpr ⟨c.toCell, List.mem_append_right _ hout, htype⟩

/-! ### Supply -/

/-- No input carries a type script whose hash is the args of `T`. -/
def NoOwnerInput (T : Script) (tx : ResolvedTx) : Prop :=
  ∀ c ∈ tx.inputs, ∀ s, c.type_ = some s → (H.scriptHash s).toList ≠ T.args

variable {H isSudt}

theorem not_ownerMode {tx : ResolvedTx} {T : Script} (h : NoOwnerInput H T tx) :
    ¬ (Loads.ofTx H tx T).OwnerMode := by
  rintro ⟨x, hmem, hargs⟩
  obtain ⟨c, hc, hx⟩ := List.mem_map.mp hmem
  obtain ⟨l, hl, rfl⟩ := List.mem_map.mp hc
  obtain ⟨s, hs, rfl⟩ := Option.map_eq_some_iff.mp hx
  exact h l hl s hs hargs

/-- An owner-typed input is the only way into owner mode. -/
theorem noOwnerInput_iff {tx : ResolvedTx} {T : Script} :
    NoOwnerInput H T tx ↔ ¬ (Loads.ofTx H tx T).OwnerMode := by
  refine ⟨not_ownerMode, fun hmode c hc s hs hargs => hmode ⟨H.scriptHash s, ?_, hargs⟩⟩
  refine List.mem_map.mpr ⟨c.toCell, List.mem_map_of_mem hc, ?_⟩
  rw [hs]
  rfl

/-- The outputs of a verified transaction weigh no more than its inputs. -/
theorem created_le_inputs {tx : ResolvedTx} {T : Script} (hT : isSudt T = true)
    (hver : Verified H isSudt tx) (howner : NoOwnerInput H T tx) :
    total (tokenWeight T ∘ LiveCell.toCell) tx.created ≤
      total (tokenWeight T ∘ LiveCell.toCell) tx.inputs := by
  by_cases hmem : T ∈ typeScripts tx
  · obtain ⟨-, hmode | hcons⟩ := (sudtMain_eq_ok_iff _).mp (hver T hmem hT)
    · exact absurd hmode (not_ownerMode howner)
    · rw [total_created H, total_inputs H]
      exact hcons.output_le
  · rw [total_created_of_not_mem hmem]
    exact Nat.zero_le _

theorem applyTx_eq_some_iff {L L' : Ledger} {tx : ResolvedTx} :
    applyTx H isSudt L tx = some L' ↔
      Verified H isSudt tx ∧ exchange L tx.inputs tx.created = some L' := by
  by_cases h : Verified H isSudt tx <;> simp [applyTx, h]

/-- **One step.** -/
theorem supply_step {T : Script} {tx : ResolvedTx} {L L' : Ledger} (hT : isSudt T = true)
    (howner : NoOwnerInput H T tx) (h : applyTx H isSudt L tx = some L') :
    supply T L' ≤ supply T L := by
  obtain ⟨hver, hexchange⟩ := applyTx_eq_some_iff.mp h
  have hacc := total_of_exchange (tokenWeight T ∘ LiveCell.toCell) hexchange
  have hle := created_le_inputs hT hver howner
  rw [supply, supply]
  omega

/-- **The supply of a token never grows without owner mode**, over any run of transactions of any
size and any mix of tokens. -/
theorem supply_run (H : Hashing) (isSudt : Script → Bool) (T : Script) (hT : isSudt T = true)
    (L L' : Ledger) (txs : List ResolvedTx) (howner : ∀ tx ∈ txs, NoOwnerInput H T tx)
    (hrun : run (applyTx H isSudt) L txs = some L') : supply T L' ≤ supply T L :=
  run_induction (R := fun a b => supply T b ≤ supply T a) (fun _ => Nat.le_refl _)
    (fun hab hbc => Nat.le_trans hbc hab) (fun howner h => supply_step hT howner h) howner hrun

/-- Two cells of one token, of which a transaction splits the first. -/
def splitBefore : Ledger :=
  ↑[(⟨tokenCell 100, Byte32.ofNat 7, 0⟩ : LiveCell), ⟨tokenCell 5, Byte32.ofNat 7, 1⟩]

/-- The transaction that turns the hundred into sixty and forty. -/
def splitTx : ResolvedTx where
  hash := Byte32.ofNat 8
  inputs := [⟨tokenCell 100, Byte32.ofNat 7, 0⟩]
  outputs := [tokenCell 60, tokenCell 40]
  headerDeps := []
  witnesses := []

/-- The five tokens it does not touch, and the two cells it makes. -/
def splitAfter : Ledger :=
  ↑[(⟨tokenCell 5, Byte32.ofNat 7, 1⟩ : LiveCell), ⟨tokenCell 60, Byte32.ofNat 8, 0⟩,
    ⟨tokenCell 40, Byte32.ofNat 8, 1⟩]

theorem supply_run_split :
    run (applyTx tokenHashing (· = token)) splitBefore [splitTx] = some splitAfter ∧
      supply token splitAfter ≤ supply token splitBefore := by
  have hrun : run (applyTx tokenHashing (· = token)) splitBefore [splitTx] = some splitAfter := by
    decide +kernel
  have howner : ∀ tx ∈ [splitTx], NoOwnerInput tokenHashing token tx := by
    intro tx htx c hc s hs
    obtain rfl : tx = splitTx := by simpa using htx
    obtain rfl : c = ⟨tokenCell 100, Byte32.ofNat 7, 0⟩ := by simpa [splitTx] using hc
    obtain rfl : s = token := by simpa [tokenCell, Cell.type_, eq_comm] using hs
    decide +kernel
  exact ⟨hrun, supply_run tokenHashing (· = token) token (by decide +kernel) _ _ _ howner hrun⟩

end Sudt

end CkbScripts
