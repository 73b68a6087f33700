import CkbScripts.SudtSelect

/-!
# What the deployer transfers

`transfer_tokens` counts the sender's token cells until they cover the amount, and computes the
change from the count. The cells themselves go no further: the transaction is balanced from
outputs alone, so its inputs are plain cells and the tokens of its outputs come from nowhere.

## Main definitions

* `Sudt.TransferConserves`: the inputs are the selected cells, the amounts add up, and the script
  accepts

## Main results

* `Sudt.transfer_conserves_iff`
-/

namespace CkbScripts

namespace Sudt

open DeployScript LeadingRun Outcome

/-! ### The transfer -/

/-- The token cells of a transfer are everything it was asked to create. -/
theorem requestedData_transferOutputs (script senderLock recipientLock : Script)
    (a change : U128) :
    requestedData (transferOutputs script senderLock recipientLock a change) script =
      (transferOutputs script senderLock recipientLock a change).map Prod.snd := by
  rw [requestedData, List.filter_eq_self.mpr]
  intro o ho
  simpa using type_of_transferOutputs ho

/-- What a transfer is meant to be: it consumes what was selected, its token inputs are worth the
amount and the change, and the script accepts it without owner mode. -/
structure TransferConserves (H : Hashing) (tx : Transaction) (rtx : ResolvedTx) (script : Script)
    (selection : Selection) (transferAmount : U128) : Prop where
  consumed : ∀ cell ∈ selection.inputs, .new cell.outPoint ∈ tx.inputs
  amounts : ((Loads.ofTx H rtx script).groupInputData.map amountOf).sum =
    transferAmount.toNat + (selection.inputTotal - transferAmount).toNat
  accepted : Accepts H rtx script
  not_owner : ¬ (Loads.ofTx H rtx script).OwnerMode

/-- **When a transfer conserves.** Only when the sender has no cell of the token at all, and so
transfers nothing: with any token cell to select, the cell is left out of the transaction. -/
theorem transfer_conserves_iff (chain : ChainView) (crates : Crates) (node : Node)
    (hinputs : node.PlainInputs chain) (houtputs : node.PlainOutputs) (sudtTypeScript : Script)
    (codeCellOutpoint : OutPoint) (senderAddress senderKeyHex recipientAddress : String)
    (transferAmount : U128) (senderLock : Script) (udtCells : List IndexerCell)
    (selection : Selection) (tx : Transaction) (rtx : ResolvedTx)
    (hsender : crates.addressLock senderAddress = .ok senderLock)
    (hcells : node.getCells (transferSearchKey senderLock sudtTypeScript) .asc 1000 none =
      .ok udtCells)
    (hlive : ∀ cell ∈ udtCells, ∃ data, chain.cells cell.outPoint = some ⟨cell.output, data⟩)
    (hselect : selectCells crates.toHashing (crates.scriptHash sudtTypeScript) transferAmount
      udtCells ⟨[], 0⟩ = .ok selection)
    (hrun : transferTokensTx crates node sudtTypeScript codeCellOutpoint senderAddress senderKeyHex
      recipientAddress transferAmount = .ok tx)
    (hres : chain.resolve crates.toHashing tx = some rtx) :
    TransferConserves crates.toHashing tx rtx sudtTypeScript selection transferAmount ↔
      (∀ cell ∈ udtCells,
          ¬ Matches crates.toHashing (crates.scriptHash sudtTypeScript) cell) ∧
        sudtTypeScript.args.length = 32 := by
  obtain ⟨lock', recipientLock, key, cells', selection', codeHash, genesis, hsender', hcells',
    hselect', henough, -, -, hbuild⟩ := transferTokensTx_eq_ok hrun
  obtain rfl : senderLock = lock' := ok_unique hsender hsender'
  obtain rfl : udtCells = cells' := ok_unique hcells hcells'
  obtain rfl : selection = selection' := ok_unique hselect hselect'
  have hresolved := ChainView.resolved hres
  have huntyped := untyped_of_plainInputs hinputs hbuild hresolved
  constructor
  · intro h
    refine ⟨fun cell hcell hmatch => ?_, ((accepts_of_untyped_inputs_iff huntyped).mp h.accepted).1⟩
    -- something matches, so something was selected, and it would have to be a plain cell
    obtain ⟨hsel, -⟩ := selection_of_ok hselect
    have hmem : cell ∈ matchingCells crates.toHashing (crates.scriptHash sudtTypeScript) udtCells :=
      List.mem_filter.mpr ⟨hcell, by simpa using hmatch⟩
    obtain ⟨first, hfirst⟩ := List.exists_mem_of_ne_nil selection.inputs fun hnil =>
      List.ne_nil_of_mem hmem (leadingRun_eq_nil_iff.mp (hsel.symm.trans hnil))
    obtain ⟨hfirstmem, hfirstmatch⟩ := List.mem_filter.mp
      ((leadingRun_isPrefix _ _ _ _).subset (hsel ▸ hfirst))
    obtain ⟨data, hdata⟩ := hlive first hfirstmem
    obtain ⟨d, hd, hplain⟩ := hinputs hbuild _ (h.consumed first hfirst)
    obtain rfl : ⟨first.output, data⟩ = d := Option.some.inj (hdata.symm.trans hd)
    have htype : first.output.type_ = none := hplain.type_eq
    simp [Matches, htype] at hfirstmatch
  · rintro ⟨hnone, hargs⟩
    obtain rfl : ⟨[], 0⟩ = selection :=
      ok_unique (selectCells_of_forall_not hnone) hselect
    obtain rfl : transferAmount = 0 := by simpa using henough
    refine ⟨by simp, ?_, ?_, not_ownerMode_of_untyped huntyped⟩
    · simp [groupInputData_of_untyped _ _ huntyped]
    · rw [balanced_accepts_iff hinputs houtputs hbuild hresolved, requestedData_transferOutputs,
        List.map_map]
      refine ⟨hargs, ?_, sum_transferOutputs sudtTypeScript senderLock recipientLock 0 _⟩
      simp [transferOutputs, transferData]

/-! ### One transfer

A holder of a hundred tokens transfers sixty. The token is one of hash type `Data`: what
`transfer_tokens` registers is found for such a script and for no other, so these are the transfers
that get as far as submitting. -/

/-- The token, with the hash of the sample lock for its owner. -/
def sampleToken : Script := { mintTypeScript mintCrates sampleCodeHash sampleLock with
  hashType := .data }

/-- The holder's one cell of it, as the indexer returns it. -/
def sampleTokenCell : IndexerCell :=
  ⟨⟨14200000000, sampleLock, some sampleToken⟩, some (transferData 100), ⟨Byte32.ofNat 8, 0⟩⟩

/-- The two live cells: the one that pays, and the one that is counted. -/
def transferChain : ChainView :=
  (sampleWallet 0 [sampleTokenCell]).chain
    (fun o => if o = sampleTokenCell.outPoint then some ⟨sampleTokenCell.output, transferData 100⟩
      else none) fun _ => none

/-- The cell covers the amount, so the loop stops behind it. -/
def sampleSelection : Selection := ⟨[sampleTokenCell], 100⟩

/-- The transaction that is submitted. Sixty tokens and forty back are asked for, and the cell that
holds the hundred is not among the inputs. -/
def sampleTransferTx : Transaction where
  version := 0
  cellDeps := [⟨⟨Byte32.ofNat 6, 0⟩, .code⟩, ⟨⟨Byte32.ofNat 1, 0⟩, .depGroup⟩]
  headerDeps := []
  inputs := [.new ⟨Byte32.ofNat 5, 0⟩]
  outputs := [⟨14200000000, sampleLock, some sampleToken⟩,
    ⟨14200000000, sampleLock, some sampleToken⟩, ⟨9971599999188, sampleLock, none⟩]
  outputsData := [transferData 60, transferData 40, []]
  witnesses := [.args (.ofLock (List.replicate 65 1))]

theorem selectCells_sample : selectCells mintCrates.toHashing (mintCrates.scriptHash sampleToken) 60
    [sampleTokenCell] ⟨[], 0⟩ = .ok sampleSelection := by
  decide +kernel

theorem transferTokensTx_sample :
    transferTokensTx mintCrates (sampleWallet 0 [sampleTokenCell]).node sampleToken
        ⟨Byte32.ofNat 6, 0⟩ "ckt1sample" sampleKeyHex "ckt1sample" 60 =
      .ok sampleTransferTx := by
  decide +kernel

theorem transfer_conserves_iff_sample :
    TransferConserves mintCrates.toHashing sampleTransferTx (sampleResolved sampleTransferTx)
        sampleToken sampleSelection 60 ↔
      (∀ cell ∈ [sampleTokenCell],
          ¬ Matches mintCrates.toHashing (mintCrates.scriptHash sampleToken) cell) ∧
        sampleToken.args.length = 32 :=
  transfer_conserves_iff transferChain mintCrates (sampleWallet 0 [sampleTokenCell]).node
    (Wallet.plainInputs _ _) Wallet.plainOutputs sampleToken ⟨Byte32.ofNat 6, 0⟩ "ckt1sample"
    sampleKeyHex "ckt1sample" 60 sampleLock [sampleTokenCell] sampleSelection sampleTransferTx
    (sampleResolved sampleTransferTx) (by decide) (by decide)
    (fun cell hcell => ⟨transferData 100, by
      obtain rfl := List.mem_singleton.mp hcell
      decide⟩)
    selectCells_sample transferTokensTx_sample (by decide)

/-- The selected cell is not consumed, the token inputs are worth nothing, and the script
refuses. -/
theorem not_transferConserves_sample :
    transferTokensTx mintCrates (sampleWallet 0 [sampleTokenCell]).node sampleToken
      ⟨Byte32.ofNat 6, 0⟩ "ckt1sample" sampleKeyHex "ckt1sample" 60 = .ok sampleTransferTx ∧
    transferChain.resolve mintCrates.toHashing sampleTransferTx =
      some (sampleResolved sampleTransferTx) ∧
    ¬ TransferConserves mintCrates.toHashing sampleTransferTx (sampleResolved sampleTransferTx)
      sampleToken sampleSelection 60 := by
  refine ⟨transferTokensTx_sample, by decide, fun h => ?_⟩
  have hrefused : ¬ Accepts mintCrates.toHashing (sampleResolved sampleTransferTx) sampleToken := by
    decide
  exact hrefused h.accepted

end Sudt

end CkbScripts
