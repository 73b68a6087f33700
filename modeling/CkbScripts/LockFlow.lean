import CkbScripts.SimpleLock
import CkbScripts.SpendFee
import CkbScripts.Timelock

/-!
# From a created cell to the script that guards it

The deployer creates a locked cell in one run and spends it in another, and what decides is the
script on chain. Between the two lie the args the cell was given, the encoding of the witness, the
place the cell gets in the transaction and what re-signing does to the witnesses; each has its own
lemma, and the two theorems put them together.

* A simple-lock cell opens exactly to a preimage of its hash.
* A timelock cell does not open. The script takes the time from header dep `0`, and the transaction
  the deployer submits has no header deps.

## Main definitions

* `Spend.firstOutput`: the cell a creating transaction leaves at index `0`

## Main results

* `Spend.resolved_spend`: what the scripts of a submitted spend get to see
* `Spend.wire_round_trips`: the encoders of the deployer against the documented formats
* `Spend.simple_lock_flow`, `Spend.timelock_flow`
-/

namespace CkbScripts

namespace Spend

open DeployScript Outcome PrefixCodec

variable {chain : ChainView} {crates : Crates} {node : Node} {tx : Transaction} {rtx : ResolvedTx}

/-! ### The locked cell in the submitted transaction -/

/-- **Where the locked cell ends up.** It is the first input, its witness is still the one it was
injected with, and the header deps are those of the balanced transaction. -/
theorem resolved_spend {spenderAddress : String} {spenderKey : ByteVec 32}
    {codeCellOutpoint lockedCellOutpoint : OutPoint} {witnessBytes : Bytes}
    {extraCellDeps : List CellDep} {locked : Cell}
    (hraw : node.UnlockKeepsRaw) (hsighash : node.UnlockOnlySighash chain)
    (hlive : chain.cells lockedCellOutpoint = some locked) (hnot : ¬ locked.lock.IsSighash)
    (hrun : spendLockedCellTx crates node spenderAddress spenderKey codeCellOutpoint
      lockedCellOutpoint witnessBytes extraCellDeps = .ok tx)
    (hres : chain.Resolved crates.toHashing tx rtx) :
    (∃ rest, rtx.inputs = ⟨locked, lockedCellOutpoint⟩ :: rest) ∧
      ∃ ws, rtx.witnesses = .args (.ofLock witnessBytes) :: ws := by
  obtain ⟨balanced, unlockers, -, hsigned⟩ := spendLockedCellTx_eq_ok hrun
  have hinputs : tx.inputs = .new lockedCellOutpoint :: balanced.inputs :=
    congrArg RawTransaction.inputs (hraw hsigned)
  have hfirst : tx.witnesses[0]? = some (.args (.ofLock witnessBytes)) :=
    hsighash hsigned (i := 0) rfl hlive hnot
  exact ⟨hres.exists_inputs_eq_cons hinputs hlive, hres.exists_witnesses_eq_cons hfirst⟩

/-- So the lock script of that cell decodes the bytes the deployer encoded. -/
theorem fromWitnessArgs_spend {α : Type} {spenderAddress : String} {spenderKey : ByteVec 32}
    {codeCellOutpoint lockedCellOutpoint : OutPoint} {witnessBytes : Bytes}
    {extraCellDeps : List CellDep} {locked : Cell} (decode : Bytes → Option α)
    (hraw : node.UnlockKeepsRaw) (hsighash : node.UnlockOnlySighash chain)
    (hlive : chain.cells lockedCellOutpoint = some locked) (hnot : ¬ locked.lock.IsSighash)
    (hrun : spendLockedCellTx crates node spenderAddress spenderKey codeCellOutpoint
      lockedCellOutpoint witnessBytes extraCellDeps = .ok tx)
    (hres : chain.Resolved crates.toHashing tx rtx) :
    Vm.fromWitnessArgs ⟨rtx, .lock, locked.lock⟩ decode = decode witnessBytes := by
  obtain ⟨⟨rest, hinputs⟩, ws, hwitnesses⟩ := resolved_spend hraw hsighash hlive hnot hrun hres
  exact Vm.fromWitnessArgs_of_head hinputs (by simp [Vm.inGroup]) hwitnesses

/-- The header deps of a submitted spend are those the balancer put there: none. -/
theorem headerDeps_spend {spenderAddress : String} {spenderKey : ByteVec 32}
    {codeCellOutpoint lockedCellOutpoint : OutPoint} {witnessBytes : Bytes}
    {extraCellDeps : List CellDep} (hraw : node.UnlockKeepsRaw) (hheaders : node.NoHeaderDeps)
    (hrun : spendLockedCellTx crates node spenderAddress spenderKey codeCellOutpoint
      lockedCellOutpoint witnessBytes extraCellDeps = .ok tx)
    (hres : chain.Resolved crates.toHashing tx rtx) : rtx.headerDeps = [] := by
  obtain ⟨balanced, unlockers, hbal, hsigned⟩ := spendLockedCellTx_eq_ok hrun
  obtain ⟨_, _, _, -, hbuild⟩ := balanceSpend_eq_ok hbal
  have hkeep := congrArg RawTransaction.headerDeps (hraw hsigned)
  have hbalanced : balanced.headerDeps = [] := hheaders hbuild
  have hnone : tx.headerDeps = [] := hkeep.trans hbalanced
  have hforall := hres.headerDeps
  rw [hnone] at hforall
  exact List.forall₂_nil_left_iff.mp hforall

/-! ### The created cell -/

/-- The cell at index `0` of a transaction. -/
def firstOutput (tx : Transaction) : Option Cell :=
  (List.zipWith Cell.mk tx.outputs tx.outputsData).head?

theorem firstOutput_of_request {req : BuildRequest} {output : CellOutput} {data : Bytes}
    (houtputs : node.EmitsOutputs) (hbuild : node.buildUnlocked req = .ok tx)
    (hreq : req.outputs = [(output, data)]) : firstOutput tx = some ⟨output, data⟩ := by
  obtain ⟨_, _, hout, hdata⟩ := houtputs hbuild
  simp [firstOutput, hout, hdata, hreq]

/-- A created cell has the lock it was asked for. -/
theorem lock_of_created {req : BuildRequest} {codeHash : Byte32} {lockArgs : Bytes}
    {capacityCkb : U64} {locked : Cell} (houtputs : node.EmitsOutputs)
    (hbuild : node.buildUnlocked req = .ok tx)
    (hreq : req.outputs = [(lockedOutput codeHash lockArgs capacityCkb, [])])
    (hlocked : firstOutput tx = some locked) : locked.lock = ⟨codeHash, .data1, lockArgs⟩ := by
  have hfirst := firstOutput_of_request houtputs hbuild hreq
  obtain rfl : _ = locked := Option.some.inj (hfirst.symm.trans hlocked)
  rfl

/-- Deployed code under `Data1` is not the sighash lock. -/
theorem not_isSighash_data1 (codeHash : Byte32) (args : Bytes) :
    ¬ Script.IsSighash ⟨codeHash, .data1, args⟩ := by
  rintro ⟨-, htype⟩
  cases htype

/-! ### The wire formats -/

theorem inverts_simpleLock_format :
    Inverts (fun w : SimpleLock.Witness => w.preimage.length < 2 ^ 32)
      (fun w => encodeBytesField w.preimage) SimpleLock.format :=
  inverts_decodeBytesField.mapped (fun _ hw => ⟨hw, rfl⟩) fun _ hp => ⟨hp, rfl⟩

/-- **The two wire formats.** What the deployer encodes is read back whatever follows it, a
truncated encoding is refused at every length, and bytes that are all one witness are the encoding
of it. Payloads are shorter than `2 ^ 32`, the range of the length prefix. -/
theorem wire_round_trips :
    RoundTrips (fun w : TimelockWitness => w.extra.length < 2 ^ 32)
        (fun w => encodeTimelockWitness w.signature w.unlockAfterMs w.extra)
        decodeTimelockWitness ∧
      RoundTrips (fun w : SimpleLock.Witness => w.preimage.length < 2 ^ 32)
        (fun w => encodeBytesField w.preimage) SimpleLock.format :=
  ⟨inverts_decodeTimelockWitness.roundTrips, inverts_simpleLock_format.roundTrips⟩

/-! ### simple-lock -/

/-- **Create and spend agree, and only a preimage opens the lock.** For any preimage the cell was
made with, any byte string it is spent with and any way of paying the fee, the script on chain
compares the two hashes and decides nothing else. -/
theorem simple_lock_flow (chain : ChainView) (crates : Crates) (createNode spendNode : Node)
    (houtputs : createNode.EmitsOutputs) (hraw : spendNode.UnlockKeepsRaw)
    (hsighash : spendNode.UnlockOnlySighash chain) (decode : Bytes → Option SimpleLock.Witness)
    (hdecode : Reads decode SimpleLock.format) (config : Config) (process : Process)
    (codeCell preimageHex codeCell' preimageHex' idlPath lockedCell : String)
    (createRest spendRest : List String) (preimage preimage' : Bytes) (lockedHash : Byte32)
    (created tx : Transaction) (rtx : ResolvedTx) (locked : Cell)
    (hpreimage : crates.hexDecode preimageHex = .ok preimage)
    (hpreimage' : crates.hexDecode preimageHex' = .ok preimage')
    (hlockedHash : crates.hexDecode lockedCell = .ok lockedHash.toList)
    (hlen : preimage'.length < 2 ^ 32)
    (hcreate : createLockedCellTx crates createNode (codeCell :: preimageHex :: createRest) config =
      .ok created)
    (hlocked : firstOutput created = some locked)
    (hlive : chain.cells ⟨lockedHash, 0⟩ = some locked)
    (hspend : spendSimpleLockTx crates process spendNode
      (codeCell' :: preimageHex' :: idlPath :: lockedCell :: spendRest) = .ok tx)
    (hres : chain.resolve crates.toHashing tx = some rtx) :
    SimpleLock.checkHash crates.toHashing (.ofVm decode ⟨rtx, .lock, locked.lock⟩) =
      if crates.blake2b256 preimage' = crates.blake2b256 preimage then .ok ()
      else .error .hashMismatch := by
  obtain ⟨codeHash, req, hbuild, hreq⟩ := createLockedCellTx_eq_ok hpreimage hcreate
  obtain ⟨address, key, codeHash', -, hrun⟩ :=
    spendSimpleLockTx_eq_ok hpreimage' hlockedHash hspend
  have hlock := lock_of_created houtputs hbuild hreq hlocked
  -- the script decodes the encoding of the byte string it is spent with
  have hwitness : Vm.fromWitnessArgs ⟨rtx, .lock, locked.lock⟩ decode = some ⟨preimage'⟩ := by
    rw [fromWitnessArgs_spend decode hraw hsighash hlive (hlock ▸ not_isSighash_data1 _ _) hrun
      (ChainView.resolved hres)]
    exact hdecode (inverts_simpleLock_format.decode_exact (a := ⟨preimage'⟩) hlen)
  rw [SimpleLock.Loads.ofVm, hwitness, hlock]
  exact SimpleLock.checkHash_of_witness crates.toHashing (crates.blake2b256 preimage) ⟨preimage'⟩

/-- The configuration of the sample wallet, with the node that is the default. -/
def sampleConfig : Config := ⟨sampleKey, "ckt1sample", "https://testnet.ckb.dev:8114"⟩

/-- The environment it is read from, and the two IDL files. -/
def sampleProcess : Process where
  var name :=
    if name = "PRIVATE_KEY" then
      some "0x0000000000000000000000000000000000000000000000000000000000000001"
    else if name = "TESTNET_ADDRESS" then some "ckt1sample"
    else none
  readFile path := .ok (if path = "simple-lock-idl.deployed.json" then [0] else [1])

/-- The argument that names the locked cell, in a transaction whose hash is the number seven. -/
def sampleLockedHex : String := "0000000000000000000000000000000000000000000000000000000000000007"

/-- The transaction that creates a locked cell. Its fee is a shannon a byte, so the change depends
on how long the args are. -/
def sampleCreate (lockArgs : Bytes) : Transaction where
  version := 0
  cellDeps := [⟨⟨Byte32.ofNat 1, 0⟩, .depGroup⟩]
  headerDeps := []
  inputs := [.new ⟨Byte32.ofNat 5, 0⟩]
  outputs := [lockedOutput sampleCodeHash lockArgs 70464,
    ⟨BitVec.ofNat 64 (2953599999556 - lockArgs.length), sampleLock, none⟩]
  outputsData := [[], []]
  witnesses := [.args (.ofLock (List.replicate 65 1))]

/-- What the scripts see of a spend of the locked cell by the sample wallet. -/
def sampleSpendResolved (txHash : ℕ) (locked : Cell) (witnessBytes : Bytes) : ResolvedTx where
  hash := Byte32.ofNat txHash
  inputs := [⟨locked, sampleLockedOutPoint⟩,
    ⟨(sampleWallet 0 []).cell, (sampleWallet 0 []).outPoint⟩]
  outputs := List.zipWith Cell.mk sampleBalanced.outputs sampleBalanced.outputsData
  headerDeps := []
  witnesses := .args (.ofLock witnessBytes) :: sampleBalanced.witnesses

/-- The derived decoder, as the reference decoder with nothing left over. -/
def decodeAll {α : Type} (format : Decoder UInt8 α) (b : Bytes) : Option α :=
  match format b with
  | some (a, []) => some a
  | _ => none

theorem reads_decodeAll {α : Type} (format : Decoder UInt8 α) :
    Reads (decodeAll format) format := by
  intro s a h
  simp [decodeAll, h]

theorem simple_lock_flow_hello :
    SimpleLock.checkHash (sampleHashing 0) (.ofVm (decodeAll SimpleLock.format)
      ⟨sampleSpendResolved 0 sampleLockedCell (encodeBytesField samplePreimage), .lock,
        sampleLockedCell.lock⟩) =
      if (sampleHashing 0).blake2b256 samplePreimage = (sampleHashing 0).blake2b256 samplePreimage
        then .ok () else .error .hashMismatch :=
  simple_lock_flow sampleChain (sampleCrates 0 (0, zeros 64)) (sampleWallet 0 []).node
    (sampleWallet 0 []).node Wallet.plainOutputs.emitsOutputs Wallet.unlockKeepsRaw
    (Wallet.unlockOnlySighash _ _) _ (reads_decodeAll _) sampleConfig sampleProcess sampleCodeHex
    "68656c6c6f" sampleCodeHex "68656c6c6f" "simple-lock-idl.deployed.json" sampleLockedHex [] []
    samplePreimage samplePreimage (Byte32.ofNat 7) (sampleCreate samplePreimageHash.toList)
    sampleSpend _ sampleLockedCell (by decide +kernel) (by decide +kernel) (by decide +kernel)
    (by decide) (by decide +kernel) (by decide +kernel) (by decide +kernel) (by decide +kernel)
    (by decide +kernel)

/-! ### timelock-lock -/

/-- **A timelock cell cannot be spent by the deployer.** Whatever key, unlock time, payload and
fee-payer cells, the script refuses the submitted transaction; and as soon as the payload is short
enough to be encoded, the reason is the missing header dep. -/
theorem timelock_flow (chain : ChainView) (crates : Crates) (createNode draft submit : Node)
    (houtputs : createNode.EmitsOutputs) (hheaders : submit.NoHeaderDeps)
    (hraw : submit.UnlockKeepsRaw) (hsighash : submit.UnlockOnlySighash chain)
    (decode : Bytes → Option TimelockWitness) (hdecode : Reads decode decodeTimelockWitness)
    (config : Config) (process : Process) (createArgs : List String)
    (codeCell signingKeyHex unlockArg extraHex idlPath lockedCell : String)
    (spendRest : List String) (extra : Bytes) (lockedHash : Byte32) (created tx : Transaction)
    (rtx : ResolvedTx) (locked : Cell)
    (hextra : extraArg crates extraHex = .ok extra)
    (hlockedHash : crates.hexDecode lockedCell = .ok lockedHash.toList)
    (hcreate : createTimelockCellTx crates createNode createArgs config = .ok created)
    (hlocked : firstOutput created = some locked)
    (hlive : chain.cells ⟨lockedHash, 0⟩ = some locked)
    (hspend : spendTimelockLockTx crates process draft submit
      (codeCell :: signingKeyHex :: unlockArg :: extraHex :: idlPath :: lockedCell :: spendRest) =
        .ok tx)
    (hres : chain.resolve crates.toHashing tx = some rtx) :
    Timelock.checkTimelock crates.toHashing (.ofVm decode ⟨rtx, .lock, locked.lock⟩) ≠ .ok () ∧
      (extra.length < 2 ^ 32 →
        Timelock.checkTimelock crates.toHashing (.ofVm decode ⟨rtx, .lock, locked.lock⟩) =
          .error (.std .indexOutOfBound)) := by
  obtain ⟨codeHash, req, pubkey, commitment, hbuild, hpub, hcom, hreq⟩ :=
    createTimelockCellTx_eq_ok hcreate
  obtain ⟨address, key, codeCellOutpoint, signature, unlockAfterMs, extra', -, hextra', hrun⟩ :=
    spendTimelockLockTx_eq_ok hlockedHash hspend
  obtain rfl : extra = extra' := ok_unique hextra hextra'
  have hlock := lock_of_created houtputs hbuild hreq hlocked
  have hargs : ¬ (pubkey ++ commitment).length < 33 := by
    rw [List.length_append]
    omega
  have hresolved := ChainView.resolved hres
  have hheader : Vm.loadHeader ⟨rtx, .lock, locked.lock⟩ 0 = .error .indexOutOfBound := by
    simp [Vm.loadHeader, headerDeps_spend hraw hheaders hrun hresolved]
  refine ⟨fun hok => ?_, fun hlen => ?_⟩
  · obtain ⟨_, _, -, hclock, -⟩ := (Timelock.accepts_loads_iff _ _).mp hok
    cases hheader.symm.trans hclock
  have hwitness : Vm.fromWitnessArgs ⟨rtx, .lock, locked.lock⟩ decode =
      some ⟨signature, unlockAfterMs, extra⟩ := by
    rw [fromWitnessArgs_spend decode hraw hsighash hlive (hlock ▸ not_isSighash_data1 _ _) hrun
      hresolved]
    exact hdecode (inverts_decodeTimelockWitness.decode_exact
      (a := ⟨signature, unlockAfterMs, extra⟩) hlen)
  rw [Timelock.Loads.ofVm, hheader, Timelock.checkTimelock_header_error, hwitness, hlock,
    if_neg hargs, if_neg (by simp)]
  rfl

/-- The hash of the time lock's spend, and of its draft: nothing moves between the two builds. The
signature is over it. -/
def sampleTxHash : ℕ := 0x7269eac4414fff53c76d1605a53795cae379a60d8572ea3ee3a8f31f9af432d9

/-- `r || s` of its signature under the sample key. -/
def sampleSignature : ByteVec 64 :=
  ⟨(LittleEndian.ofNat 32
      0xa172c59e3090a61ae54d11cd5d376517ad2f938cd4af299a7642bd1e9146ff1a).reverse ++
    (LittleEndian.ofNat 32
      0x19b7b97c4b96d67d80697a840580545d2c40048cd327dbb3788e3b3a299888d7).reverse, by simp⟩

/-- The crates that answer with this signature, and with recovery id `0`. -/
def timelockCrates : Crates := sampleCrates sampleTxHash (0, sampleSignature)

/-- The sample wallet, with a node that knows that hash. -/
def timelockWallet : Wallet := sampleWallet sampleTxHash []

/-- A timelock cell of the sample key, with the zeros that stand for no commitment. -/
def sampleTimelockCell : Cell :=
  ⟨lockedOutput sampleCodeHash (samplePublicKey.toList ++ (zeros 32).toList) 70464, []⟩

/-- The wallet's cell, the timelock cell, and a block from two thousand seconds after the epoch. -/
def timelockChain : ChainView :=
  timelockWallet.chain
    (fun o => if o = sampleLockedOutPoint then some sampleTimelockCell else none)
    fun h => if h = Byte32.ofNat 11 then some ⟨2000000⟩ else none

/-- What the deployer signs and asks for: a wait until the millionth millisecond, and no payload. -/
def sampleTimelockWitness : TimelockWitness :=
  ⟨⟨sampleSignature.toList ++ [0], by simp⟩, 1000000, []⟩

/-- The bytes that are shown to the lock. -/
def sampleTimelockWire : Bytes :=
  encodeTimelockWitness sampleTimelockWitness.signature sampleTimelockWitness.unlockAfterMs
    sampleTimelockWitness.extra

/-- The spend the deployer submits: the timelock cell in front of the wallet's, and no header dep.
-/
def sampleTimelockSpend : Transaction :=
  injectLocked sampleBalanced sampleLockedOutPoint sampleTimelockWire ⟨sampleCodeOutPoint, .code⟩ []

/-- The arguments of `create-timelock-cell`: the key's public key, and no commitment. -/
def sampleCreateArgs : List String :=
  [sampleCodeHex, "0279be667ef9dcbbac55a06295ce870b07029bfcdb2dce28d959f2815b16f81798", ""]

theorem createTimelockCellTx_sample : createTimelockCellTx timelockCrates timelockWallet.node
    sampleCreateArgs sampleConfig =
      .ok (sampleCreate (samplePublicKey.toList ++ (zeros 32).toList)) := by
  decide +kernel

theorem spendTimelockLockTx_sample : spendTimelockLockTx timelockCrates sampleProcess
    timelockWallet.node timelockWallet.node [sampleCodeHex, sampleKeyHex, "1000000", "",
      "timelock-lock-idl.deployed.json", sampleLockedHex] = .ok sampleTimelockSpend := by
  decide +kernel

theorem resolve_sampleTimelockSpend :
    timelockChain.resolve timelockCrates.toHashing sampleTimelockSpend =
      some (sampleSpendResolved sampleTxHash sampleTimelockCell sampleTimelockWire) := by
  decide +kernel

theorem timelock_flow_sample :
    Timelock.checkTimelock timelockCrates.toHashing (.ofVm (decodeAll decodeTimelockWitness)
      ⟨sampleSpendResolved sampleTxHash sampleTimelockCell sampleTimelockWire, .lock,
        sampleTimelockCell.lock⟩) ≠ .ok () ∧
      (([] : Bytes).length < 2 ^ 32 →
        Timelock.checkTimelock timelockCrates.toHashing (.ofVm (decodeAll decodeTimelockWitness)
          ⟨sampleSpendResolved sampleTxHash sampleTimelockCell sampleTimelockWire, .lock,
            sampleTimelockCell.lock⟩) = .error (.std .indexOutOfBound)) :=
  timelock_flow timelockChain timelockCrates timelockWallet.node timelockWallet.node
    timelockWallet.node Wallet.plainOutputs.emitsOutputs Wallet.noHeaderDeps Wallet.unlockKeepsRaw
    (Wallet.unlockOnlySighash _ _) _ (reads_decodeAll _) sampleConfig sampleProcess sampleCreateArgs
    sampleCodeHex sampleKeyHex "1000000" "" "timelock-lock-idl.deployed.json" sampleLockedHex [] []
    (Byte32.ofNat 7) _ sampleTimelockSpend _ sampleTimelockCell (by decide +kernel)
    (by decide +kernel) createTimelockCellTx_sample (by decide +kernel) (by decide +kernel)
    spendTimelockLockTx_sample resolve_sampleTimelockSpend

/-- The unlock time has passed, and with the block as header dep the script would accept this very
witness; without one it refuses. -/
theorem not_accepted_timelock_spend :
    createTimelockCellTx timelockCrates timelockWallet.node sampleCreateArgs sampleConfig =
      .ok (sampleCreate (samplePublicKey.toList ++ (zeros 32).toList)) ∧
    spendTimelockLockTx timelockCrates sampleProcess timelockWallet.node timelockWallet.node
      [sampleCodeHex, sampleKeyHex, "1000000", "", "timelock-lock-idl.deployed.json",
        sampleLockedHex] = .ok sampleTimelockSpend ∧
    timelockChain.resolve timelockCrates.toHashing sampleTimelockSpend =
      some (sampleSpendResolved sampleTxHash sampleTimelockCell sampleTimelockWire) ∧
    timelockChain.headers (Byte32.ofNat 11) = some ⟨2000000⟩ ∧
    Timelock.AcceptsAt timelockCrates.toHashing sampleTimelockCell.lock.args sampleTimelockWitness
      2000000 ∧
    Timelock.checkTimelock timelockCrates.toHashing (.ofVm (decodeAll decodeTimelockWitness)
      ⟨sampleSpendResolved sampleTxHash sampleTimelockCell sampleTimelockWire, .lock,
        sampleTimelockCell.lock⟩) ≠ .ok () :=
  ⟨createTimelockCellTx_sample, spendTimelockLockTx_sample, resolve_sampleTimelockSpend,
    by decide +kernel, by decide +kernel, by decide +kernel⟩

end Spend

end CkbScripts
