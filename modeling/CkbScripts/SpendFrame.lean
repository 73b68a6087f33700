import CkbScripts.SpendFee

/-!
# What putting the locked cell in front leaves alone

Inputs and witnesses are two parallel lists, and `spend_locked_cell` puts one item in front of
each. They need not be of one length, and they are read back by script group and not by index: a
lock script loads the witness at the first input of its group, and the signer rewrites the witness
at the first input of each sighash group. So both readings have to move up together.

`Injected` says that they do: input `i + 1` is the balanced input `i`, with the witness it had, the
groups that are signed again are those that were signed before, and nothing else has changed. Of an
input without a witness it says nothing, because the signer may add one; how many there can be is a
bound of its own.

## Main definitions

* `ChainView.sighashHead`: an input is the first of a sighash group
* `Node.UnlockGroupHeads`: what is assumed of `unlock_tx`
* `Spend.Injected`

## Main results

* `ChainView.sighashHead_cons_succ`: a cell that is not sighash-locked moves the heads up by one
* `Spend.injected_spend`
* `Spend.length_witnesses_spend`: where there is no witness to keep
-/

namespace CkbScripts

/-! ### The inputs that are signed -/

/-- The lock of the cell an input consumes. -/
def ChainView.inputLock (chain : ChainView) (i : CellInput) : Option Script :=
  (chain.cells i.previousOutput).map Cell.lock

/-- The position of the first input that is locked by `s`. -/
def ChainView.groupHead (chain : ChainView) (inputs : List CellInput) (s : Script) : Option ℕ :=
  inputs.findIdx? fun i => chain.inputLock i = some s

/-- Whether the input at a position is the first of a sighash group. -/
def ChainView.sighashHead (chain : ChainView) (inputs : List CellInput) (i : ℕ) : Bool :=
  (inputs[i]?.bind chain.inputLock).any fun s =>
    decide (s.IsSighash ∧ chain.groupHead inputs s = some i)

/-- `unlock_tx` rewrites the witness of the first input of each sighash group, and nothing else.
Where there is no witness yet it may add one. -/
def Node.UnlockGroupHeads (node : Node) (chain : ChainView) : Prop :=
  ∀ {tx unlockers tx'}, node.unlockTx tx unlockers = .ok tx' →
    tx'.toRawTransaction = tx.toRawTransaction ∧
      ∀ {i w}, tx.witnesses[i]? = some w → chain.sighashHead tx.inputs i = false →
        tx'.witnesses[i]? = some w

section heads

variable {chain : ChainView} {a : CellInput} {inputs : List CellInput} {s : Script}

theorem ChainView.groupHead_cons_of_eq (h : chain.inputLock a = some s) :
    chain.groupHead (a :: inputs) s = some 0 := by
  simp [groupHead, List.findIdx?_cons, h]

theorem ChainView.groupHead_cons_of_ne (h : chain.inputLock a ≠ some s) :
    chain.groupHead (a :: inputs) s = (chain.groupHead inputs s).map (· + 1) := by
  simp [groupHead, List.findIdx?_cons, h]

/-- The first input is no head when it is not sighash-locked. -/
theorem ChainView.sighashHead_zero (h : chain.inputLock a = some s) (hs : ¬ s.IsSighash) :
    chain.sighashHead (a :: inputs) 0 = false := by
  simp [sighashHead, h, hs]

/-- **The heads move up by one**, behind a cell that is in none of the groups. -/
theorem ChainView.sighashHead_cons_succ (h : chain.inputLock a = some s) (hs : ¬ s.IsSighash)
    (i : ℕ) : chain.sighashHead (a :: inputs) (i + 1) = chain.sighashHead inputs i := by
  rw [sighashHead, sighashHead, List.getElem?_cons_succ]
  cases inputs[i]?.bind chain.inputLock with
  | none => rfl
  | some r =>
    by_cases hr : r.IsSighash
    · have hne : chain.inputLock a ≠ some r := by
        rw [h]
        rintro ⟨⟩
        exact hs hr
      simp [groupHead_cons_of_ne hne, hr]
    · simp [hr]

end heads

namespace Spend

/-! ### The frame -/

/-- How a submitted spend differs from the balanced transaction: by the locked cell in front, with
its witness, and by the two kinds of deps. -/
structure Injected (chain : ChainView) (H : Hashing) (locked : Cell)
    (codeCellOutpoint lockedCellOutpoint : OutPoint) (witnessBytes : Bytes)
    (extraCellDeps : List CellDep) (balanced tx : Transaction) : Prop where
  input_zero : tx.inputs[0]? = some (.new lockedCellOutpoint)
  /-- The locked cell is the first of its group, whatever locks the other inputs have. -/
  first_of_group : chain.groupHead tx.inputs locked.lock = some 0
  witness_zero : tx.witnesses[0]? = some (.args (.ofLock witnessBytes))
  /-- So this is the witness its lock script loads. -/
  loads_witness : ∀ rtx, chain.resolve H tx = some rtx →
    Vm.loadWitnessArgs ⟨rtx, .lock, locked.lock⟩ = .ok (.ofLock witnessBytes)
  input_succ : ∀ i, tx.inputs[i + 1]? = balanced.inputs[i]?
  /-- The inputs that are signed again are those that were signed before. -/
  resigned_succ : ∀ i, chain.sighashHead tx.inputs (i + 1) = chain.sighashHead balanced.inputs i
  witness_succ : ∀ i w, balanced.witnesses[i]? = some w →
    chain.sighashHead balanced.inputs i = false → tx.witnesses[i + 1]? = some w
  version_eq : tx.version = balanced.version
  outputs_eq : tx.outputs = balanced.outputs
  outputsData_eq : tx.outputsData = balanced.outputsData
  headerDeps_eq : tx.headerDeps = balanced.headerDeps
  cellDeps_eq : tx.cellDeps = balanced.cellDeps ++ ⟨codeCellOutpoint, .code⟩ :: extraCellDeps

/-- **Every input keeps its own witness.** For any balanced transaction, any witness of the locked
cell and any extra deps. -/
theorem injected_spend (chain : ChainView) (crates : Crates) (node : Node)
    (hunlock : node.UnlockGroupHeads chain) (spenderAddress : String) (spenderKey : ByteVec 32)
    (codeCellOutpoint lockedCellOutpoint : OutPoint) (witnessBytes : Bytes)
    (extraCellDeps : List CellDep) (balanced tx : Transaction) (locked : Cell)
    (hbal : balanceSpend crates node spenderAddress spenderKey codeCellOutpoint = .ok balanced)
    (hlive : chain.cells lockedCellOutpoint = some locked) (hnot : ¬ locked.lock.IsSighash)
    (hrun : spendLockedCellTx crates node spenderAddress spenderKey codeCellOutpoint
      lockedCellOutpoint witnessBytes extraCellDeps = .ok tx) :
    Injected chain crates.toHashing locked codeCellOutpoint lockedCellOutpoint witnessBytes
      extraCellDeps balanced tx := by
  obtain ⟨balanced', unlockers, hbal', hsigned⟩ := spendLockedCellTx_eq_ok hrun
  obtain rfl : balanced = balanced' := Outcome.ok_unique hbal hbal'
  obtain ⟨hraw, hwitness⟩ := hunlock hsigned
  have hlock : chain.inputLock (.new lockedCellOutpoint) = some locked.lock := by
    simp [ChainView.inputLock, CellInput.new, hlive]
  have hinputs : tx.inputs = .new lockedCellOutpoint :: balanced.inputs :=
    congrArg RawTransaction.inputs hraw
  -- the signer leaves slot `0` alone, because the locked cell is in no sighash group
  have hzero : tx.witnesses[0]? = some (.args (.ofLock witnessBytes)) :=
    hwitness rfl (ChainView.sighashHead_zero hlock hnot)
  refine
    { input_zero := by rw [hinputs]; rfl
      first_of_group := by rw [hinputs]; exact ChainView.groupHead_cons_of_eq hlock
      witness_zero := hzero
      loads_witness := fun rtx hres => ?_
      input_succ := fun i => by rw [hinputs, List.getElem?_cons_succ]
      resigned_succ := fun i => by rw [hinputs]; exact ChainView.sighashHead_cons_succ hlock hnot i
      witness_succ := fun i w hw hhead => ?_
      version_eq := (congrArg RawTransaction.version hraw).trans rfl
      outputs_eq := (congrArg RawTransaction.outputs hraw).trans rfl
      outputsData_eq := (congrArg RawTransaction.outputsData hraw).trans rfl
      headerDeps_eq := (congrArg RawTransaction.headerDeps hraw).trans rfl
      cellDeps_eq := (congrArg RawTransaction.cellDeps hraw).trans rfl }
  · have hresolved := ChainView.resolved hres
    obtain ⟨rest, hrest⟩ := hresolved.exists_inputs_eq_cons hinputs hlive
    obtain ⟨ws, hws⟩ := hresolved.exists_witnesses_eq_cons hzero
    exact Vm.loadWitnessArgs_of_head hrest (by simp [Vm.inGroup]) hws
  · refine hwitness (i := i + 1) hw ?_
    exact (ChainView.sighashHead_cons_succ hlock hnot i).trans hhead

/-! ### How many witnesses there are -/

/-- Where `unlock_tx` adds witnesses it fills up to the input it signs: it removes none, and
afterwards there are at most as many as before, or as inputs. -/
def PadsWitnesses (node : Node) : Prop :=
  ∀ {tx unlockers tx'}, node.unlockTx tx unlockers = .ok tx' →
    tx.witnesses.length ≤ tx'.witnesses.length ∧
      tx'.witnesses.length ≤ max tx.witnesses.length tx.inputs.length

/-- **No witness is lost, and none is made up.** Where the balanced transaction has a witness for
each of its inputs, the submitted one has exactly one more. -/
theorem length_witnesses_spend {crates : Crates} {node : Node} {spenderAddress : String}
    {spenderKey : ByteVec 32} {codeCellOutpoint lockedCellOutpoint : OutPoint}
    {witnessBytes : Bytes} {extraCellDeps : List CellDep} {balanced tx : Transaction}
    (hpads : PadsWitnesses node)
    (hbal : balanceSpend crates node spenderAddress spenderKey codeCellOutpoint = .ok balanced)
    (hrun : spendLockedCellTx crates node spenderAddress spenderKey codeCellOutpoint
      lockedCellOutpoint witnessBytes extraCellDeps = .ok tx) :
    balanced.witnesses.length + 1 ≤ tx.witnesses.length ∧
      tx.witnesses.length ≤ max balanced.witnesses.length balanced.inputs.length + 1 := by
  obtain ⟨balanced', unlockers, hbal', hsigned⟩ := spendLockedCellTx_eq_ok hrun
  obtain rfl : balanced = balanced' := Outcome.ok_unique hbal hbal'
  obtain ⟨hmore, hless⟩ := hpads hsigned
  simp only [injectLocked, List.length_cons] at hmore hless
  omega

/-! ### A signer that looks its inputs up -/

/-- Sign the first input of each sighash group. -/
def signHeads (chain : ChainView) (sign : RawTransaction → ByteVec 65) (tx : Transaction) :
    Transaction :=
  { tx with
    witnesses := tx.witnesses.mapIdx fun i witness =>
      if chain.sighashHead tx.inputs i then .args (.ofLock (sign tx.toRawTransaction).toList)
      else witness }

/-- The sample wallet behind a signer that looks up which inputs are its own. -/
def headNode : Node :=
  { (sampleWallet 0 []).node with
    unlockTx := fun tx _ => .ok (signHeads sampleChain (fun _ => .replicate 65 1) tx) }

theorem unlockGroupHeads_headNode : headNode.UnlockGroupHeads sampleChain := by
  intro tx unlockers tx' hunlock
  obtain rfl : signHeads sampleChain (fun _ => .replicate 65 1) tx = tx' := Except.ok.inj hunlock
  refine ⟨rfl, fun hw hhead => ?_⟩
  simp [signHeads, List.getElem?_mapIdx, hw, hhead]

theorem injected_spend_sample :
    Injected sampleChain (sampleHashing 0) sampleLockedCell sampleCodeOutPoint sampleLockedOutPoint
      (encodeBytesField samplePreimage) [] sampleBalanced sampleSpend :=
  injected_spend sampleChain (sampleCrates 0 (0, zeros 64)) headNode unlockGroupHeads_headNode
    "ckt1sample" sampleKey sampleCodeOutPoint sampleLockedOutPoint
    (encodeBytesField samplePreimage) [] sampleBalanced sampleSpend sampleLockedCell
    (by decide +kernel) (by decide +kernel) (by decide +kernel) (by decide +kernel)

end Spend

end CkbScripts
