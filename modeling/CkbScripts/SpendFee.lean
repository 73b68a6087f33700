import CkbScripts.Spend
import CkbScripts.Wallet

/-!
# What a spend pays

`spend_locked_cell` balances a transaction, puts the locked cell in front of its inputs and does
not balance again. The accounting follows the three steps: the fee of the balanced transaction is
`f`, the injection adds the capacity of the locked cell to the inputs and nothing to the outputs,
and signing leaves both alone.

## Main results

* `Spend.fee_injectLocked`: step B adds the locked capacity to the fee
* `Spend.fee_spendLockedCellTx`: so the submitted transaction pays `f` and that capacity
* `Spend.fee_spend_wallet`: the same for a wallet, whose fee is known
* `Spend.spend_fee_eq_iff`
-/

namespace CkbScripts

namespace Spend

variable {chain : ChainView} {crates : Crates} {node : Node}

/-- **Step B.** One input more, the same outputs. -/
theorem fee_injectLocked {balanced : Transaction} {lockedCellOutpoint : OutPoint} {c : Cell} {f : ℤ}
    (witnessBytes : Bytes) (codeCellDep : CellDep) (extraCellDeps : List CellDep)
    (hfee : chain.fee balanced.toRawTransaction = some f)
    (hcell : chain.cells lockedCellOutpoint = some c) :
    chain.fee (injectLocked balanced lockedCellOutpoint witnessBytes codeCellDep
      extraCellDeps).toRawTransaction = some (f + c.output.capacity.toNat) := by
  obtain ⟨capacities, hin, hf⟩ := Option.map_eq_some_iff.mp hfee
  have hcap : chain.inputCapacity (.new lockedCellOutpoint) = some c.output.capacity.toNat := by
    simp [ChainView.inputCapacity, CellInput.new, hcell]
  have hins : (injectLocked balanced lockedCellOutpoint witnessBytes codeCellDep
      extraCellDeps).inputs.mapM chain.inputCapacity =
        some (c.output.capacity.toNat :: capacities) := by
    simp [injectLocked, List.mapM_cons, hcap, hin]
  have houts : (injectLocked balanced lockedCellOutpoint witnessBytes codeCellDep
      extraCellDeps).outputs = balanced.outputs := rfl
  rw [ChainView.fee, hins, houts, Option.map_some, List.sum_cons, ← hf]
  push_cast
  congr 1
  omega

/-- The whole locked capacity goes to the fee. -/
theorem fee_spendLockedCellTx {spenderAddress : String} {spenderKey : ByteVec 32}
    {codeCellOutpoint lockedCellOutpoint : OutPoint} {witnessBytes : Bytes}
    {extraCellDeps : List CellDep} {balanced tx : Transaction} {c : Cell} {f : ℤ}
    (hunlock : node.UnlockKeepsRaw)
    (hbal : balanceSpend crates node spenderAddress spenderKey codeCellOutpoint = .ok balanced)
    (hfee : chain.fee balanced.toRawTransaction = some f)
    (hcell : chain.cells lockedCellOutpoint = some c)
    (hrun : spendLockedCellTx crates node spenderAddress spenderKey codeCellOutpoint
      lockedCellOutpoint witnessBytes extraCellDeps = .ok tx) :
    chain.fee tx.toRawTransaction = some (f + c.output.capacity.toNat) := by
  obtain ⟨balanced', unlockers, hbal', hsigned⟩ := spendLockedCellTx_eq_ok hrun
  obtain rfl : balanced = balanced' := Outcome.ok_unique hbal hbal'
  rw [hunlock hsigned]
  exact fee_injectLocked witnessBytes _ extraCellDeps hfee hcell

/-- A wallet that spends a locked cell pays the fee for the size of the balanced transaction, and
the cell. -/
theorem fee_spend_wallet {w : Wallet} {others : OutPoint → Option Cell}
    {headers : Byte32 → Option Header} {spenderAddress : String} {spenderKey : ByteVec 32}
    {codeCellOutpoint lockedCellOutpoint : OutPoint} {witnessBytes : Bytes}
    {extraCellDeps : List CellDep} {req : BuildRequest} {balanced tx : Transaction} {c : Cell}
    (hreq : spendRequest crates w.node spenderAddress spenderKey codeCellOutpoint = .ok req)
    (hbuild : w.build req = .ok balanced)
    (hcell : (w.chain others headers).cells lockedCellOutpoint = some c)
    (hrun : spendLockedCellTx crates w.node spenderAddress spenderKey codeCellOutpoint
      lockedCellOutpoint witnessBytes extraCellDeps = .ok tx) :
    (w.chain others headers).fee tx.toRawTransaction =
      some (w.fee req balanced.cellDeps + c.output.capacity.toNat : ℤ) := by
  have hbal : balanceSpend crates w.node spenderAddress spenderKey codeCellOutpoint =
      .ok balanced := by
    rw [balanceSpend, hreq, Outcome.ok_bind]
    exact orError_eq_ok_iff.mpr hbuild
  have hfee := Wallet.fee_build others headers hbuild
  exact fee_spendLockedCellTx Wallet.unlockKeepsRaw hbal hfee hcell hrun

/-- **What a spend pays.** The submitted transaction pays the fee of the balanced one exactly when
the locked cell was worth nothing. -/
theorem spend_fee_eq_iff (chain : ChainView) (crates : Crates) (node : Node)
    (hunlock : node.UnlockKeepsRaw) (spenderAddress : String) (spenderKey : ByteVec 32)
    (codeCellOutpoint lockedCellOutpoint : OutPoint) (witnessBytes : Bytes)
    (extraCellDeps : List CellDep) (balanced tx : Transaction) (c : Cell) (f : ℤ)
    (hbal : balanceSpend crates node spenderAddress spenderKey codeCellOutpoint = .ok balanced)
    (hfee : chain.fee balanced.toRawTransaction = some f)
    (hcell : chain.cells lockedCellOutpoint = some c)
    (hrun : spendLockedCellTx crates node spenderAddress spenderKey codeCellOutpoint
      lockedCellOutpoint witnessBytes extraCellDeps = .ok tx) :
    chain.fee tx.toRawTransaction = some f ↔ c.output.capacity = 0 := by
  rw [fee_spendLockedCellTx hunlock hbal hfee hcell hrun, Option.some.injEq, ← BitVec.toNat_inj]
  simp

/-! ### One spend

The sample wallet spends a simple-lock cell that `create_locked_cell` made. -/

/-- Where the code of the lock has been deployed. -/
def sampleCodeOutPoint : OutPoint := ⟨Byte32.ofNat 6, 0⟩

/-- A cell that is locked by the hash of `hello`. -/
def sampleLockedCell : Cell :=
  ⟨DeployScript.lockedOutput sampleCodeHash samplePreimageHash.toList 70464, []⟩

/-- Where the locked cell is: the first output of its transaction, as the command assumes. -/
def sampleLockedOutPoint : OutPoint := ⟨Byte32.ofNat 7, 0⟩

/-- The two cells that are live: the one that pays, and the locked one. -/
def sampleChain : ChainView :=
  (sampleWallet 0 []).chain
    (fun o => if o = sampleLockedOutPoint then some sampleLockedCell else none) fun _ => none

/-- What step A makes of the one output of 61 CKB: the wallet's cell pays for it and a fee of 464
shannons, one a byte. -/
def sampleBalanced : Transaction where
  version := 0
  cellDeps := [⟨⟨Byte32.ofNat 1, 0⟩, .depGroup⟩]
  headerDeps := []
  inputs := [.new ⟨Byte32.ofNat 5, 0⟩]
  outputs := [⟨6100000000, sampleLock, none⟩, ⟨9993899999536, sampleLock, none⟩]
  outputsData := [[], []]
  witnesses := [.args (.ofLock (List.replicate 65 1))]

/-- What is submitted: the same outputs, with the locked cell as one more input. -/
def sampleSpend : Transaction :=
  injectLocked sampleBalanced sampleLockedOutPoint (encodeBytesField samplePreimage)
    ⟨sampleCodeOutPoint, .code⟩ []

theorem balanceSpend_sample : balanceSpend (sampleCrates 0 (0, zeros 64)) (sampleWallet 0 []).node
    "ckt1sample" sampleKey sampleCodeOutPoint = .ok sampleBalanced := by
  decide +kernel

theorem spendLockedCellTx_sample : spendLockedCellTx (sampleCrates 0 (0, zeros 64))
    (sampleWallet 0 []).node "ckt1sample" sampleKey sampleCodeOutPoint sampleLockedOutPoint
    (encodeBytesField samplePreimage) [] = .ok sampleSpend := by
  decide +kernel

theorem spend_fee_eq_iff_sample :
    sampleChain.fee sampleSpend.toRawTransaction = some 464 ↔
      sampleLockedCell.output.capacity = 0 :=
  spend_fee_eq_iff sampleChain (sampleCrates 0 (0, zeros 64)) (sampleWallet 0 []).node
    Wallet.unlockKeepsRaw "ckt1sample" sampleKey sampleCodeOutPoint sampleLockedOutPoint
    (encodeBytesField samplePreimage) [] sampleBalanced sampleSpend sampleLockedCell 464
    balanceSpend_sample (by decide +kernel) (by decide +kernel) spendLockedCellTx_sample

/-- The balanced transaction pays a shannon a byte; what is submitted pays 70464 CKB more. -/
theorem spend_fee_ne_sample :
    balanceSpend (sampleCrates 0 (0, zeros 64)) (sampleWallet 0 []).node "ckt1sample" sampleKey
      sampleCodeOutPoint = .ok sampleBalanced ∧
    sampleChain.fee sampleBalanced.toRawTransaction = some 464 ∧
    spendLockedCellTx (sampleCrates 0 (0, zeros 64)) (sampleWallet 0 []).node "ckt1sample" sampleKey
      sampleCodeOutPoint sampleLockedOutPoint (encodeBytesField samplePreimage) [] =
        .ok sampleSpend ∧
    sampleChain.fee sampleSpend.toRawTransaction = some 7046400000464 ∧
    sampleChain.fee sampleSpend.toRawTransaction ≠ some 464 :=
  ⟨balanceSpend_sample, by decide +kernel, spendLockedCellTx_sample, by decide +kernel,
    by decide +kernel⟩

end Spend

end CkbScripts
