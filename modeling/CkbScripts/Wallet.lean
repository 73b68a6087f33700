import CkbScripts.Lib.Hex
import CkbScripts.Sdk
import Mathlib.Data.List.Dedup

/-!
# A wallet with one cell

The smallest node the deployer can talk to: it balances every request out of one sighash-locked
cell, signs the inputs that consume that cell and touches no other witness. It has each of the
properties the theorems about the deployer ask of a node, for every choice of its data, so those
hypotheses can be met together; the concrete instances run on wallets.

What it does with a request is what the SDK's builder does where one cell is enough. A dep is looked
up for the type script of each output and for the lock that pays, and a request fails when one is
not found. The fee is the balancer's rate for the size the transaction has in a block, which is why
sizes of serialised transactions come first.

## Main definitions

* `Transaction.sizeInBlock`
* `Wallet`, `Wallet.node`, `Wallet.chain`

## Main results

* `Wallet.plainInputs`, `plainOutputs`, `noHeaderDeps`, `needsDeps`, `funds`, `unlockKeepsRaw`,
  `unlockOnlySighash`
* `Wallet.fee_build`: what a balanced transaction pays
-/

namespace CkbScripts

open Outcome

/-! ### Serialised sizes

Molecule writes a table as its size, one offset for each field, and the fields; a vector of items of
one size as their number and the items; a vector of other items as its size, and for each item its
offset and itself. Sizes and offsets take four bytes. -/

/-- A vector of items of these sizes. -/
def dynvecSize (sizes : List ℕ) : ℕ := 4 + (sizes.map (4 + ·)).sum

/-- A script: three offsets, and the length of the args in front of them. -/
def Script.size (s : Script) : ℕ := 16 + 32 + 1 + (4 + s.args.length)

/-- An output. Without a type script its third field is empty. -/
def CellOutput.size (o : CellOutput) : ℕ := 16 + 8 + o.lock.size + o.type_.elim 0 Script.size

/-- A witness, which the transaction stores as bytes in any case. -/
def Witness.size : Witness → ℕ
  | .args w => 16 + ([w.lock, w.inputType, w.outputType].map fun field =>
      field.elim 0 fun b => 4 + b.length).sum
  | .raw b => b.length

/-- `serialized_size_in_block`: the two parts of the transaction, and the offset of it in the
block. -/
def Transaction.sizeInBlock (tx : Transaction) : ℕ :=
  let raw := 28 + 4 + (4 + 37 * tx.cellDeps.length) + (4 + 32 * tx.headerDeps.length) +
    (4 + 44 * tx.inputs.length) + dynvecSize (tx.outputs.map CellOutput.size) +
    dynvecSize (tx.outputsData.map fun data => 4 + data.length)
  4 + (12 + raw + dynvecSize (tx.witnesses.map fun witness => 4 + witness.size))

/-! ### The wallet -/

/-- A sighash-locked cell, and what the node behind it answers. -/
structure Wallet where
  hashing : Hashing
  lock : Script
  isSighash : lock.IsSighash
  outPoint : OutPoint
  capacity : U64
  /-- The owner's signature of a transaction. -/
  sign : RawTransaction → ByteVec 65
  /-- The transactions that can be fetched. -/
  deployed : Byte32 → Option Transaction
  genesis : Block
  /-- What the indexer returns. -/
  indexed : List IndexerCell

namespace Wallet

variable (w : Wallet)

/-- The one cell the wallet pays with: capacity under its lock and nothing else. -/
def cell : Cell := ⟨⟨w.capacity, w.lock, none⟩, []⟩

/-- The chain with the wallet's cell and some others. -/
def chain (others : OutPoint → Option Cell) (headers : Byte32 → Option Header) : ChainView where
  cells o := if o = w.outPoint then some w.cell else others o
  headers := headers

/-- The capacity of the requested outputs. -/
def requested (req : BuildRequest) : ℕ := outputCapacity (req.outputs.map Prod.fst)

/-- The deps of a request, each of them once: those of the type scripts on the outputs, and that of
the lock that pays; `none` when one of them is not found. -/
def deps (req : BuildRequest) : Option (List CellDep) := do
  let types ← (req.outputs.filterMap fun o => o.1.type_).mapM req.cellDepResolver.get
  let payer ← req.cellDepResolver.get req.balancer.capacityProvider
  return (types ++ [payer]).dedup

/-- The balanced transaction, before it is signed. -/
def balanced (req : BuildRequest) (cellDeps : List CellDep) (change : U64) : Transaction where
  version := 0
  cellDeps := cellDeps
  headerDeps := []
  inputs := [.new w.outPoint]
  outputs := req.outputs.map Prod.fst ++ [⟨change, w.lock, none⟩]
  outputsData := req.outputs.map Prod.snd ++ [[]]
  witnesses := [.args req.balancer.placeholderWitness]

/-- The fee, by size. How much is left as change makes no difference to the size. -/
def fee (req : BuildRequest) (cellDeps : List CellDep) : ℕ :=
  req.balancer.feeRate.toNat * (w.balanced req cellDeps 0).sizeInBlock / 1000

/-- What is left for the change output. -/
def changeCapacity (req : BuildRequest) (cellDeps : List CellDep) : U64 :=
  BitVec.ofNat 64 (w.capacity.toNat - (requested req + w.fee req cellDeps))

/-- The least capacity a change output can have: what it takes up. -/
def changeMinimum : ℕ := occupiedBytes (⟨0, w.lock, none⟩, []) * 100000000

/-- The witness of an input that consumes the wallet's cell is replaced by a signature. -/
def unlock (tx : Transaction) : Transaction :=
  { tx with
    witnesses := tx.witnesses.mapIdx fun i witness =>
      if tx.inputs[i]?.map CellInput.previousOutput = some w.outPoint then
        .args (.ofLock (w.sign tx.toRawTransaction).toList)
      else witness }

/-- The builder: the deps have to be found, and the cell has to cover the outputs, the fee and a
change output. -/
def build (req : BuildRequest) : Except String Transaction := do
  let cellDeps ← okOr (deps req) "resolve cell dep failed"
  if req.balancer.capacityProvider ≠ w.lock then .error "no cell of the capacity provider"
  else if w.capacity.toNat < requested req + w.fee req cellDeps + w.changeMinimum then
    .error "capacity not enough"
  else .ok (w.unlock (w.balanced req cellDeps (w.changeCapacity req cellDeps)))

/-- The node the owner talks to. -/
def node : Node where
  getTransaction h := .ok ((w.deployed h).map fun tx => some (.json tx))
  getBlockByNumber n := .ok (if n = 0 then some w.genesis else none)
  getCells _ _ limit _ := .ok (w.indexed.take limit.toNat)
  buildUnlocked := w.build
  unlockTx tx _ := .ok (w.unlock tx)
  sendTransaction tx := .ok (w.hashing.txHash tx.toRawTransaction)

variable {w}

@[simp] theorem unlock_toRawTransaction (tx : Transaction) :
    (w.unlock tx).toRawTransaction = tx.toRawTransaction := rfl

theorem deps_eq_some_iff {req : BuildRequest} {cellDeps : List CellDep} :
    deps req = some cellDeps ↔ ∃ types payer,
      List.Forall₂ (fun s dep => req.cellDepResolver.get s = some dep)
        (req.outputs.filterMap fun o => o.1.type_) types ∧
      req.cellDepResolver.get req.balancer.capacityProvider = some payer ∧
      (types ++ [payer]).dedup = cellDeps := by
  simp only [deps, Option.bind_eq_bind, Option.bind_eq_some_iff, mapM_eq_some_iff, Option.pure_def,
    Option.some.injEq]
  constructor
  · rintro ⟨types, htypes, payer, hpayer, rfl⟩
    exact ⟨types, payer, htypes, hpayer, rfl⟩
  · rintro ⟨types, payer, htypes, hpayer, rfl⟩
    exact ⟨types, htypes, payer, hpayer, rfl⟩

theorem build_eq_ok_iff {req : BuildRequest} {tx : Transaction} : w.build req = .ok tx ↔
    ∃ cellDeps, deps req = some cellDeps ∧ req.balancer.capacityProvider = w.lock ∧
      requested req + w.fee req cellDeps + w.changeMinimum ≤ w.capacity.toNat ∧
      w.unlock (w.balanced req cellDeps (w.changeCapacity req cellDeps)) = tx := by
  simp only [build, bind_eq_ok_iff, okOr_eq_ok_iff, guard_eq_ok_iff, Except.ok.injEq, not_not,
    Nat.not_lt]

/-! ### The properties of its node -/

/-- On any chain where the wallet's cell is live. -/
theorem plainInputs_of_cell {chain : ChainView} (hcell : chain.cells w.outPoint = some w.cell) :
    w.node.PlainInputs chain := by
  intro req tx hbuild i hi
  obtain ⟨cellDeps, -, hprovider, -, rfl⟩ := build_eq_ok_iff.mp hbuild
  obtain rfl : i = .new w.outPoint := List.mem_singleton.mp hi
  exact ⟨w.cell, hcell, hprovider.symm, rfl, rfl⟩

theorem plainInputs (others : OutPoint → Option Cell) (headers : Byte32 → Option Header) :
    w.node.PlainInputs (w.chain others headers) :=
  plainInputs_of_cell (if_pos rfl)

theorem plainOutputs : w.node.PlainOutputs := by
  intro req tx hbuild
  obtain ⟨cellDeps, -, hprovider, -, rfl⟩ := build_eq_ok_iff.mp hbuild
  exact ⟨⟨⟨w.changeCapacity req cellDeps, w.lock, none⟩, []⟩, ⟨hprovider.symm, rfl, rfl⟩, rfl, rfl⟩

theorem noHeaderDeps : w.node.NoHeaderDeps := by
  intro req tx hbuild
  obtain ⟨cellDeps, -, -, -, rfl⟩ := build_eq_ok_iff.mp hbuild
  rfl

theorem needsDeps : w.node.NeedsDeps := by
  intro req tx hbuild
  obtain ⟨cellDeps, hdeps, -⟩ := build_eq_ok_iff.mp hbuild
  obtain ⟨types, payer, htypes, hpayer, -⟩ := deps_eq_some_iff.mp hdeps
  refine ⟨by simp [hpayer], fun o ho s hs _ => ?_⟩
  have hmem : s ∈ req.outputs.filterMap fun o => o.1.type_ := List.mem_filterMap.mpr ⟨o, ho, hs⟩
  obtain ⟨dep, -, hdep⟩ := exists_mem_of_forall₂ htypes.flip hmem
  simp [hdep]

/-- A request whose deps are found has at most one of them for each output, and the payer's. -/
theorem exists_deps {req : BuildRequest} (h : req.Resolvable) :
    ∃ cellDeps, deps req = some cellDeps ∧ cellDeps.length ≤ req.outputs.length + 1 := by
  obtain ⟨payer, hpayer⟩ := Option.isSome_iff_exists.mp h.payer
  have hfound : ∀ s ∈ req.outputs.filterMap fun o => o.1.type_,
      ∃ dep, req.cellDepResolver.get s = some dep := by
    intro s hs
    obtain ⟨o, ho, hos⟩ := List.mem_filterMap.mp hs
    exact Option.isSome_iff_exists.mp (h.types o ho s hos)
  obtain ⟨types, htypes⟩ := exists_forall₂_of_forall hfound
  refine ⟨_, deps_eq_some_iff.mpr ⟨types, payer, htypes, hpayer, rfl⟩, ?_⟩
  calc (types ++ [payer]).dedup.length
      ≤ (types ++ [payer]).length := (List.dedup_sublist _).length_le
    _ = (req.outputs.filterMap fun o => o.1.type_).length + 1 := by
        rw [List.length_append, htypes.length_eq, List.length_singleton]
    _ ≤ req.outputs.length + 1 := Nat.add_le_add_right (List.length_filterMap_le _ _) 1

/-- More deps cost more. -/
theorem fee_mono {req : BuildRequest} {cellDeps cellDeps' : List CellDep}
    (h : cellDeps.length ≤ cellDeps'.length) : w.fee req cellDeps ≤ w.fee req cellDeps' := by
  refine Nat.div_le_div_right (Nat.mul_le_mul_left _ ?_)
  have hdeps : 37 * cellDeps.length ≤ 37 * cellDeps'.length := Nat.mul_le_mul_left 37 h
  simp only [Transaction.sizeInBlock, balanced, Nat.add_le_add_iff_left, Nat.add_le_add_iff_right]
  exact hdeps

/-- A cell of enough capacity funds the outputs, with as many deps as they can ask for. -/
theorem funds {outputs : List (CellOutput × Bytes)}
    (h : outputCapacity (outputs.map Prod.fst) + w.fee ⟨outputs, ⟨[]⟩, .newSimple w.lock, []⟩
        (List.replicate (outputs.length + 1) ⟨w.outPoint, .code⟩) + w.changeMinimum ≤
          w.capacity.toNat) : w.node.Funds w.lock outputs := by
  intro req houtputs hbalancer hfound
  obtain ⟨cellDeps, hdeps, hlen⟩ := exists_deps hfound
  have hfee : w.fee req cellDeps ≤ w.fee ⟨outputs, ⟨[]⟩, .newSimple w.lock, []⟩
      (List.replicate (outputs.length + 1) ⟨w.outPoint, .code⟩) := by
    have hsame : w.fee ⟨outputs, ⟨[]⟩, .newSimple w.lock, []⟩ =
        w.fee req := by
      funext deps
      rw [fee, fee, balanced, balanced, houtputs, hbalancer]
    rw [hsame]
    exact fee_mono (by rw [List.length_replicate, ← houtputs]; exact hlen)
  refine ⟨_, build_eq_ok_iff.mpr ⟨cellDeps, hdeps, by rw [hbalancer]; rfl, ?_, rfl⟩⟩
  rw [requested, houtputs]
  omega

theorem unlockKeepsRaw : w.node.UnlockKeepsRaw := by
  intro tx unlockers tx' hunlock
  obtain rfl : w.unlock tx = tx' := Except.ok.inj hunlock
  rfl

theorem unlockOnlySighash (others : OutPoint → Option Cell) (headers : Byte32 → Option Header) :
    w.node.UnlockOnlySighash (w.chain others headers) := by
  intro tx unlockers tx' hunlock i input c hinput hc hnot
  obtain rfl : w.unlock tx = tx' := Except.ok.inj hunlock
  -- an input that consumes the wallet's cell is sighash-locked
  have hne : input.previousOutput ≠ w.outPoint := by
    intro heq
    obtain rfl : w.cell = c := by simpa [chain, heq] using hc
    exact hnot w.isSighash
  simp [unlock, List.getElem?_mapIdx, hinput, hne]

/-- **The wallet balances.** A transaction it builds pays the fee for its size. -/
theorem fee_build (others : OutPoint → Option Cell) (headers : Byte32 → Option Header)
    {req : BuildRequest} {tx : Transaction} (hbuild : w.build req = .ok tx) :
    (w.chain others headers).fee tx.toRawTransaction = some (w.fee req tx.cellDeps : ℤ) := by
  obtain ⟨cellDeps, -, -, hle, rfl⟩ := build_eq_ok_iff.mp hbuild
  have hchange : (w.changeCapacity req cellDeps).toNat =
      w.capacity.toNat - (requested req + w.fee req cellDeps) := by
    rw [changeCapacity, BitVec.toNat_ofNat, Nat.mod_eq_of_lt]
    have := w.capacity.isLt
    omega
  have hin : [CellInput.new w.outPoint].mapM (w.chain others headers).inputCapacity =
      some [w.capacity.toNat] := by
    simp [ChainView.inputCapacity, chain, CellInput.new, cell]
  have hout : outputCapacity (w.balanced req cellDeps (w.changeCapacity req cellDeps)).outputs =
      requested req + (w.capacity.toNat - (requested req + w.fee req cellDeps)) := by
    simp [balanced, outputCapacity, requested, hchange]
  have hdeps : (w.unlock (w.balanced req cellDeps (w.changeCapacity req cellDeps))).cellDeps =
      cellDeps := rfl
  rw [hdeps, unlock_toRawTransaction, ChainView.fee, hout]
  simp only [balanced, hin, Option.map_some, Option.some.injEq, List.sum_singleton]
  omega

end Wallet

/-! ### One wallet

The wallet the concrete instances run on, whose key is the number one, and the crates it uses: hex
decoding, the hashes of what the instances hash, the public key, and one signature. -/

/-- The secret key of the wallet, the number one. -/
def sampleKey : ByteVec 32 := Byte32.ofNat 1

/-- The key as the commands take it, without a prefix. -/
def sampleKeyHex : String := "0000000000000000000000000000000000000000000000000000000000000001"

/-- The public key of the number one, the generator of the curve in its compressed form. -/
def samplePublicKey : ByteVec 33 :=
  ⟨(LittleEndian.ofNat 33
    0x0279be667ef9dcbbac55a06295ce870b07029bfcdb2dce28d959f2815b16f81798).reverse, by simp⟩

/-- blake2b-256 of the public key, whose first twenty bytes are the args of the lock. -/
def samplePublicKeyHash : Byte32 :=
  Byte32.ofNat 0x75178f34549c5fe9cd1a0c57aebd01e7ddf9249e6fd9e01b25d6fe9108534dae

/-- The sighash lock of the key, which guards what the wallet holds. -/
def sampleLock : Script := ⟨sighashTypeHash, .type, samplePublicKeyHash.toList.take 20⟩

/-- The data of a code cell: the first bytes of an executable. -/
def sampleCode : Bytes := [0x7f, 0x45, 0x4c, 0x46]

/-- blake2b-256 of the four bytes, by which scripts name the code. -/
def sampleCodeHash : Byte32 :=
  Byte32.ofNat 0xcdc37742694a36ea623c77c8744f50b2fb8e583b0831872f4d6a7a4e4200acb6

/-- The argument that names the cell with the code, in a transaction whose hash is the number
six. -/
def sampleCodeHex : String := "0000000000000000000000000000000000000000000000000000000000000006"

/-- The preimage of the README's walk through, `hello`. -/
def samplePreimage : Bytes := [104, 101, 108, 108, 111]

/-- blake2b-256 of the preimage, which a simple-lock cell has for args. -/
def samplePreimageHash : Byte32 :=
  Byte32.ofNat 0x2da1289373a9f6b7ed21db948f4dc5d942cf4023eaef1d5a2b1a45b9d12d1036

/-- blake2b-256 at what the instances hash, and the hash of the one transaction they build. -/
def sampleHashing (txHash : ℕ) : Hashing :=
  Hashing.ofTable
    [(samplePublicKey.toList,
        0x75178f34549c5fe9cd1a0c57aebd01e7ddf9249e6fd9e01b25d6fe9108534dae),
      (sampleLock.molecule, 0x0b1bae4beaf456349c63c3ce67491fc75a1276d7f9eedd7ea84d6a77f9f3f5f7),
      (sampleCode, 0xcdc37742694a36ea623c77c8744f50b2fb8e583b0831872f4d6a7a4e4200acb6),
      (samplePreimage, 0x2da1289373a9f6b7ed21db948f4dc5d942cf4023eaef1d5a2b1a45b9d12d1036),
      (Script.molecule ⟨sampleCodeHash, .data1, []⟩,
        0x79f283cfc1a4ed37391c05e062fcfb004ffb40974b0badee8cd18b0a4f5b9334),
      (Script.molecule ⟨sampleCodeHash, .data1, samplePreimageHash.toList⟩,
        0x895f29687791e896c4a0722c0b61f3fb436f813b77eabc2b3df86a645db80780),
      (Script.molecule ⟨sampleCodeHash, .data1, samplePublicKeyHash.toList⟩,
        0xa86d31995f95e69142c7a4efb739e974f060d1573caf176d42eb75e1f8010268),
      (Script.molecule ⟨sampleCodeHash, .data1, samplePublicKey.toList ++ (zeros 32).toList⟩,
        0xa540358e3491e2a2b2b51919bd3936e0083a0adb81c5fc95c5d5829f5a52cb8a),
      (Script.molecule ⟨sampleCodeHash, .data1, (Byte32.ofNat
          0x0b1bae4beaf456349c63c3ce67491fc75a1276d7f9eedd7ea84d6a77f9f3f5f7).toList⟩,
        0x72d6d78615684fcace083795e0bf0257f943fed299601783856b3830b451c417),
      (Script.molecule ⟨sampleCodeHash, .data, (Byte32.ofNat
          0x0b1bae4beaf456349c63c3ce67491fc75a1276d7f9eedd7ea84d6a77f9f3f5f7).toList⟩,
        0x6fa1d3acdab57acb8f61de9685e23a846b955af5d2c1f1c990728e227cb1b030)] txHash

/-- The crates of the instances. The JSON of the simple-lock IDL is written as the byte `0`. -/
def sampleCrates (txHash : ℕ) (signature : UInt8 × ByteVec 64) : Crates where
  toHashing := sampleHashing txHash
  hexDecode s := okOr (Hex.decode s.toList) "Invalid hex"
  addressLock s := if s = "ckt1sample" then .ok sampleLock else .error "invalid address"
  secretKey key := .ok ⟨key⟩
  publicKey _ := samplePublicKey
  signRecoverable _ _ := signature
  transactionFromSlice _ := .error "not a transaction"
  fromGenesis block := okOr (block.transactions[1]?.map fun _ =>
    ⟨[(ScriptId.newType sighashTypeHash, ⟨⟨Byte32.ofNat 1, 0⟩, .depGroup⟩, "sighash")]⟩)
    "no dep groups in the genesis block"
  idlVerify _ _ _ := .ok ()
  idlDocument json := .ok (if json = [0] then ⟨[⟨"preimage", "bytes", true, ""⟩]⟩
    else ⟨[⟨"signature", "secp256k1_sig", true, ""⟩, ⟨"unlock_after_ms", "uint64", true, ""⟩,
      ⟨"extra", "bytes", false, ""⟩]⟩)
  validateWitnessBytes fields _ := .ok (fields.map fun f => ⟨f.name, f.type_, ""⟩)

/-- The deps they find in the genesis block: the group of the secp256k1 lock and no other. -/
def sampleGenesis : CellDepResolver :=
  ⟨[(ScriptId.newType sighashTypeHash, ⟨⟨Byte32.ofNat 1, 0⟩, .depGroup⟩, "sighash")]⟩

/-- A transaction with nothing in it but one output's data. -/
def dataTx (data : Bytes) : Transaction where
  version := 0
  cellDeps := []
  headerDeps := []
  inputs := []
  outputs := [⟨0, sampleLock, none⟩]
  outputsData := [data]
  witnesses := []

/-- A hundred thousand CKB, and code under every transaction hash. -/
def sampleWallet (txHash : ℕ) (indexed : List IndexerCell) : Wallet where
  hashing := sampleHashing txHash
  lock := sampleLock
  isSighash := by decide +kernel
  outPoint := ⟨Byte32.ofNat 5, 0⟩
  capacity := 10000000000000
  sign _ := .replicate 65 1
  deployed _ := some (dataTx sampleCode)
  genesis := ⟨[dataTx [], dataTx []]⟩
  indexed := indexed

/-- What the scripts see of a transaction that consumes the wallet's cell alone. -/
def sampleResolved (tx : Transaction) : ResolvedTx where
  hash := Byte32.ofNat 0
  inputs := [⟨(sampleWallet 0 []).cell, (sampleWallet 0 []).outPoint⟩]
  outputs := List.zipWith Cell.mk tx.outputs tx.outputsData
  headerDeps := []
  witnesses := tx.witnesses

end CkbScripts
