import CkbScripts.Deploy
import CkbScripts.Spend
import CkbScripts.SudtTransfer

/-!
# Whether outputs pay for their storage

A cell has to hold as many CKB as it has bytes: 8 for the capacity itself, 33 and the args for each
of its scripts, and its data. The deployer computes the capacity of a code cell from the size of the
binary; every other output gets a constant that was chosen for the 20-byte args of the secp256k1
lock, while the lock of an output is that of an address the user passes in. For each request a
command makes of `build_unlocked` this module gives the longest args its capacities are enough for.

## Main definitions

* `Pays`: the capacity of an output is enough for `occupiedBytes`
* `PaysAll`: so it is for the outputs of a request

## Main results

* `outputs_pay_iff`
-/

namespace CkbScripts

open DeployScript Outcome

/-! ### Occupied capacity -/

/-- The capacity of an output is enough for its bytes, at one CKB each. -/
def Pays (o : CellOutput × Bytes) : Prop := occupiedBytes o * 100000000 ≤ o.1.capacity.toNat

/-- Every output of a request pays for its storage. -/
def PaysAll (outputs : List (CellOutput × Bytes)) : Prop := ∀ o ∈ outputs, Pays o

instance (o : CellOutput × Bytes) : Decidable (Pays o) := inferInstanceAs (Decidable (_ ≤ _))

instance (outputs : List (CellOutput × Bytes)) : Decidable (PaysAll outputs) :=
  inferInstanceAs (Decidable (∀ o ∈ outputs, Pays o))

/-- A number of CKB that is a word in shannons. -/
theorem toNat_ckb {n : ℕ} (h : n * 100000000 < 2 ^ 64) :
    (ckb (BitVec.ofNat 64 n)).toNat = n * 100000000 := by
  have hn : n % 2 ^ 64 = n := Nat.mod_eq_of_lt (by omega)
  rw [ckb, BitVec.toNat_mul, BitVec.toNat_ofNat, hn]
  exact Nat.mod_eq_of_lt h

/-- Enough CKB are at least as many as the cell has bytes. -/
theorem pays_ckb_iff {n : ℕ} (h : n * 100000000 < 2 ^ 64) {lock : Script} {type_ : Option Script}
    {data : Bytes} : Pays (⟨ckb (BitVec.ofNat 64 n), lock, type_⟩, data) ↔
      8 + lock.occupied + type_.elim 0 Script.occupied + data.length ≤ n := by
  rw [Pays, toNat_ckb h, Nat.mul_le_mul_right_iff (by decide)]
  rfl

/-! ### The outputs of each command -/

theorem paysAll_singleton {o : CellOutput × Bytes} : PaysAll [o] ↔ Pays o :=
  List.forall_mem_singleton

/-- A code cell has a hundred CKB for everything but its data. -/
theorem paysAll_deployOutputs_iff {capacity : U64} {deployerLock : Script} {scriptBinary : Bytes}
    (hcap : requiredCapacity scriptBinary.length = some capacity) :
    PaysAll (deployOutputs capacity deployerLock scriptBinary) ↔
      deployerLock.args.length ≤ 59 := by
  rw [deployOutputs, paysAll_singleton, Pays, ← requiredCapacity_eq_some_iff.mp hcap,
    Nat.mul_le_mul_right_iff (by decide)]
  simp only [occupiedBytes, Script.occupied, Option.elim_none]
  omega

/-- A token cell of 142 CKB. -/
theorem pays_tokenOutput_iff {lock type_ : Script} {data : Bytes} (hdata : data.length = 16) :
    Pays (⟨ckb 142, lock, some type_⟩, data) ↔ lock.args.length + type_.args.length ≤ 52 := by
  refine (pays_ckb_iff (n := 142) (by decide)).trans ?_
  simp only [Script.occupied, Option.elim_some, hdata]
  omega

theorem paysAll_mintOutputs_iff {sudtTypeScript recipientLock : Script} {amount : U128} :
    PaysAll (mintOutputs sudtTypeScript recipientLock amount) ↔
      recipientLock.args.length + sudtTypeScript.args.length ≤ 52 := by
  rw [mintOutputs, paysAll_singleton, pays_tokenOutput_iff (by simp [mintData])]

theorem paysAll_transferOutputs_iff {sudtTypeScript senderLock recipientLock : Script}
    {transferAmount changeAmount : U128} :
    PaysAll (transferOutputs sudtTypeScript senderLock recipientLock transferAmount changeAmount) ↔
      recipientLock.args.length + sudtTypeScript.args.length ≤ 52 ∧
        (changeAmount > 0 → senderLock.args.length + sudtTypeScript.args.length ≤ 52) := by
  rw [PaysAll, transferOutputs, List.forall_mem_cons,
    pays_tokenOutput_iff (by simp [transferData])]
  refine and_congr_right fun _ => ?_
  by_cases hpos : changeAmount > 0
  · rw [if_pos hpos, List.forall_mem_singleton, pays_tokenOutput_iff (by simp [transferData])]
    exact ⟨fun h _ => h, fun h => h hpos⟩
  · rw [if_neg hpos]
    exact ⟨fun _ h => absurd h hpos, fun _ => List.forall_mem_nil _⟩

/-- A locked cell of 70464 CKB has room for any args its callers pass. -/
theorem pays_lockedOutput_iff {codeHash : Byte32} {lockArgs : Bytes} :
    Pays (lockedOutput codeHash lockArgs 70464, []) ↔ lockArgs.length ≤ 70423 := by
  refine (pays_ckb_iff (n := 70464) (by decide)).trans ?_
  simp only [Script.occupied, Option.elim_none, List.length_nil]
  omega

theorem pays_spendOutput_iff {spenderLock : Script} :
    Pays (Spend.spendOutput spenderLock, []) ↔ spenderLock.args.length ≤ 20 := by
  refine (pays_ckb_iff (n := 61) (by decide)).trans ?_
  simp only [Script.occupied, Option.elim_none, List.length_nil]
  omega

/-- The args of a simple-lock cell are a hash. -/
theorem length_of_simpleLockArgs {crates : Crates} {args : List String} {codeCell : String}
    {lockArgs : Bytes} (h : simpleLockArgs crates args = .ok (codeCell, lockArgs)) :
    lockArgs.length = 32 := by
  rcases args with _ | ⟨a, _ | ⟨preimageHex, rest⟩⟩
  · cases h
  · cases h
  · simp only [simpleLockArgs, bind_eq_ok_iff, pure_eq_ok, Except.ok.injEq, Prod.mk.injEq] at h
    obtain ⟨preimage, -, -, rfl⟩ := h
    simp

theorem length_of_timelockArgs {crates : Crates} {args : List String} {codeCell : String}
    {lockArgs : Bytes} (h : timelockArgs crates args = .ok (codeCell, lockArgs)) :
    lockArgs.length = 65 := by
  obtain ⟨pubkey, commitment, hpubkey, hcommitment, rfl⟩ := timelockArgs_eq_ok h
  rw [List.length_append, hpubkey, hcommitment]

/-- The code cell is given a capacity: a binary shorter than 2^32 bytes is far from the bound. -/
theorem exists_requiredCapacity {scriptSize : ℕ} (h : scriptSize < 2 ^ 33) :
    ∃ capacity, requiredCapacity scriptSize = some capacity :=
  ⟨_, if_pos (by omega)⟩

/-! ### What each command asks for -/

section requests

variable {crates : Crates} {node : Node} {req : BuildRequest} {lock : Script}

/-- A code cell is in the deployer's hands. -/
theorem paysAll_deployRequest_iff {address : String} {key : SecretKey} {scriptBinary : Bytes}
    (haddress : crates.addressLock address = .ok lock)
    (h : deployRequest crates node address key scriptBinary = .ok req) :
    PaysAll req.outputs ↔ lock.args.length ≤ 59 := by
  obtain ⟨capacity, deployerLock, genesis, hcap, hdeployer, -, rfl⟩ :=
    deployRequest_eq_ok_iff.mp h
  obtain rfl : lock = deployerLock := ok_unique haddress hdeployer
  exact paysAll_deployOutputs_iff hcap

/-- A minted cell is in the recipient's, and the args of its type script are a hash. -/
theorem paysAll_mintRequest_iff {codeCellOutpoint : OutPoint} {issuerAddress : String}
    {issuerKey : SecretKey} {recipientAddress : String} {amount : U128}
    (haddress : crates.addressLock recipientAddress = .ok lock)
    (h : mintRequest crates node codeCellOutpoint issuerAddress issuerKey recipientAddress amount =
      .ok req) : PaysAll req.outputs ↔ lock.args.length ≤ 20 := by
  obtain ⟨issuerLock, recipientLock, codeHash, genesis, -, hrecipient, -, -, rfl⟩ :=
    mintRequest_eq_ok_iff.mp h
  obtain rfl : lock = recipientLock := ok_unique haddress hrecipient
  rw [paysAll_mintOutputs_iff, mintTypeScript, ByteVec.length_toList]
  omega

/-- A transfer leaves change when more was selected than is transferred. -/
theorem paysAll_transferRequest_iff {sudtTypeScript : Script} {codeCellOutpoint : OutPoint}
    {senderAddress senderKeyHex recipientAddress : String} {transferAmount : U128}
    {senderLock : Script} {udtCells : List IndexerCell} {selection : Selection}
    (hsender : crates.addressLock senderAddress = .ok senderLock)
    (hrecipient : crates.addressLock recipientAddress = .ok lock)
    (hcells : node.getCells (transferSearchKey senderLock sudtTypeScript) .asc 1000 none =
      .ok udtCells)
    (hselect : selectCells crates.toHashing (crates.scriptHash sudtTypeScript) transferAmount
      udtCells ⟨[], 0⟩ = .ok selection)
    (h : transferRequest crates node sudtTypeScript codeCellOutpoint senderAddress senderKeyHex
      recipientAddress transferAmount = .ok req) :
    PaysAll req.outputs ↔ lock.args.length + sudtTypeScript.args.length ≤ 52 ∧
      (transferAmount < selection.inputTotal →
        senderLock.args.length + sudtTypeScript.args.length ≤ 52) := by
  obtain ⟨senderLock', _, _, recipientLock, udtCells', selection', _, _, hsender', -, hrecipient',
    hcells', hselect', henough, -, -, rfl⟩ := transferRequest_eq_ok_iff.mp h
  obtain rfl : senderLock = senderLock' := ok_unique hsender hsender'
  obtain rfl : lock = recipientLock := ok_unique hrecipient hrecipient'
  obtain rfl : udtCells = udtCells' := ok_unique hcells hcells'
  obtain rfl : selection = selection' := ok_unique hselect hselect'
  have hchange : selection.inputTotal - transferAmount > 0 ↔
      transferAmount < selection.inputTotal := by
    bv_omega
  rw [paysAll_transferOutputs_iff, hchange]

/-- A locked cell has the args of one of the two commands. -/
theorem paysAll_createRequest {args : List String} {address codeCell label : String}
    {key : SecretKey} {lockArgs : Bytes}
    (hargs : simpleLockArgs crates args = .ok (codeCell, lockArgs) ∨
      timelockArgs crates args = .ok (codeCell, lockArgs))
    (h : createRequest crates node address key codeCell lockArgs 70464 label = .ok req) :
    PaysAll req.outputs := by
  obtain ⟨_, codeHash, _, _, -, -, -, houtputs, -⟩ := createRequest_eq_ok h
  have hlen : lockArgs.length ≤ 65 := by
    rcases hargs with h | h
    · rw [length_of_simpleLockArgs h]
      decide
    · rw [length_of_timelockArgs h]
  rw [houtputs, paysAll_singleton, pays_lockedOutput_iff]
  omega

/-- The one output of a spend is the spender's, in the transaction that is submitted... -/
theorem paysAll_spendRequest_iff {address : String} {key : ByteVec 32} {codeCell : OutPoint}
    (haddress : crates.addressLock address = .ok lock)
    (h : Spend.spendRequest crates node address key codeCell = .ok req) :
    PaysAll req.outputs ↔ lock.args.length ≤ 20 := by
  obtain ⟨spenderLock, _, _, _, _, hspender, -, -, -, rfl⟩ := Spend.spendRequest_eq_ok_iff.mp h
  obtain rfl : lock = spenderLock := ok_unique haddress hspender
  exact paysAll_singleton.trans pays_spendOutput_iff

/-- ... and in the draft that the time lock's signature is made over. -/
theorem paysAll_draftRequest_iff {config : Config} {codeCell : OutPoint}
    {codeHash lockArgsHash : Byte32} (haddress : crates.addressLock config.address = .ok lock)
    (h : Spend.draftRequest crates node config codeCell codeHash lockArgsHash = .ok req) :
    PaysAll req.outputs ↔ lock.args.length ≤ 20 := by
  obtain ⟨spenderLock, _, _, hspender, -, -, rfl⟩ := Spend.draftRequest_eq_ok_iff.mp h
  obtain rfl : lock = spenderLock := ok_unique haddress hspender
  exact paysAll_singleton.trans pays_spendOutput_iff

end requests

/-! ### All of them -/

/-- **When the outputs pay**, for what each command asks `build_unlocked` for. A code cell always
does for a deployer whose lock has at most 59 bytes of args, and its capacity is a word. A locked
cell always does, and the others do up to the 20 bytes of the secp256k1 lock. -/
theorem outputs_pay_iff (crates : Crates) (sha256 : Bytes → Byte32) (node : Node) :
    (∀ env scriptPath idlPath disk idlHash scriptBinary,
      (freezeIdl sha256 env scriptPath idlPath disk).2 = .ok idlHash →
      scriptBinary.length < 2 ^ 32 →
      (∃ capacity, requiredCapacity (scriptBinary ++ idlHash).length = some capacity) ∧
        ∀ address key deployerLock req, crates.addressLock address = .ok deployerLock →
          deployRequest crates node address key (scriptBinary ++ idlHash) = .ok req →
          (PaysAll req.outputs ↔ deployerLock.args.length ≤ 59)) ∧
    (∀ codeCell issuer key recipient amount recipientLock req,
      crates.addressLock recipient = .ok recipientLock →
      mintRequest crates node codeCell issuer key recipient amount = .ok req →
      (PaysAll req.outputs ↔ recipientLock.args.length ≤ 20)) ∧
    (∀ sudtTypeScript codeCell sender keyHex recipient amount senderLock recipientLock udtCells
        selection req,
      crates.addressLock sender = .ok senderLock →
      crates.addressLock recipient = .ok recipientLock →
      node.getCells (transferSearchKey senderLock sudtTypeScript) .asc 1000 none = .ok udtCells →
      selectCells crates.toHashing (crates.scriptHash sudtTypeScript) amount udtCells ⟨[], 0⟩ =
        .ok selection →
      transferRequest crates node sudtTypeScript codeCell sender keyHex recipient amount =
        .ok req →
      (PaysAll req.outputs ↔ recipientLock.args.length + sudtTypeScript.args.length ≤ 52 ∧
        (amount < selection.inputTotal →
          senderLock.args.length + sudtTypeScript.args.length ≤ 52))) ∧
    (∀ args address key codeCell lockArgs label req,
      simpleLockArgs crates args = .ok (codeCell, lockArgs) ∨
        timelockArgs crates args = .ok (codeCell, lockArgs) →
      createRequest crates node address key codeCell lockArgs 70464 label = .ok req →
      PaysAll req.outputs) ∧
    (∀ address key codeCell spenderLock req, crates.addressLock address = .ok spenderLock →
      Spend.spendRequest crates node address key codeCell = .ok req →
      (PaysAll req.outputs ↔ spenderLock.args.length ≤ 20)) ∧
    ∀ config codeCell codeHash lockArgsHash spenderLock req,
      crates.addressLock config.address = .ok spenderLock →
      Spend.draftRequest crates node config codeCell codeHash lockArgsHash = .ok req →
      (PaysAll req.outputs ↔ spenderLock.args.length ≤ 20) := by
  refine ⟨?_, ?_, ?_, ?_, ?_, ?_⟩
  · intro env scriptPath idlPath disk idlHash scriptBinary hidl hlen
    have hhash := length_le_of_freezeIdl hidl
    exact ⟨exists_requiredCapacity (by rw [List.length_append]; omega),
      fun _ _ _ _ haddress hreq => paysAll_deployRequest_iff haddress hreq⟩
  · exact fun _ _ _ _ _ _ _ haddress hreq => paysAll_mintRequest_iff haddress hreq
  · exact fun _ _ _ _ _ _ _ _ _ _ _ hsender hrecipient hcells hselect hreq =>
      paysAll_transferRequest_iff hsender hrecipient hcells hselect hreq
  · exact fun _ _ _ _ _ _ _ hargs hreq => paysAll_createRequest hargs hreq
  · exact fun _ _ _ _ _ haddress hreq => paysAll_spendRequest_iff haddress hreq
  · exact fun _ _ _ _ _ _ haddress hreq => paysAll_draftRequest_iff haddress hreq

/-- The plain key's lock is fine, for the token cell of a transfer and for its change, and so is a
simple-lock cell. -/
theorem outputs_pay_iff_sample :
    (∃ req, transferRequest Sudt.mintCrates (sampleWallet 0 [Sudt.sampleTokenCell]).node
        Sudt.sampleToken ⟨Byte32.ofNat 6, 0⟩ "ckt1sample" sampleKeyHex "ckt1sample" 60 = .ok req ∧
      PaysAll req.outputs) ∧
    ∃ req, createRequest Sudt.mintCrates (sampleWallet 0 [Sudt.sampleTokenCell]).node "ckt1sample"
        ⟨sampleKey⟩ sampleCodeHex samplePreimageHash.toList 70464 "simple-lock" = .ok req ∧
      PaysAll req.outputs := by
  obtain ⟨-, -, htransfer, hlocked, -, -⟩ := outputs_pay_iff Sudt.mintCrates (fun _ => zeros 32)
    (sampleWallet 0 [Sudt.sampleTokenCell]).node
  obtain ⟨req, hreq, -⟩ := bind_eq_ok_iff.mp Sudt.transferTokensTx_sample
  refine ⟨⟨req, hreq, ?_⟩, ⟨_, rfl, ?_⟩⟩
  · exact (htransfer Sudt.sampleToken ⟨Byte32.ofNat 6, 0⟩ "ckt1sample" sampleKeyHex "ckt1sample" 60
      sampleLock sampleLock [Sudt.sampleTokenCell] Sudt.sampleSelection req (by decide) (by decide)
      (by decide) Sudt.selectCells_sample hreq).mpr ⟨by decide, fun _ => by decide⟩
  · exact hlocked [sampleCodeHex, "68656c6c6f"] "ckt1sample" ⟨sampleKey⟩ sampleCodeHex
      samplePreimageHash.toList "simple-lock" _ (Or.inl (by decide)) rfl

/-! ### A recipient with a longer lock

A lock with 22 bytes of args, such as that of an account that is not a plain key, gets all the
sample holder has of the token of `SudtTransfer`, which is one the deployer can submit transfers
of. -/

/-- Two bytes of args more than the cells of 142 CKB have room for. -/
def longLock : Script := ⟨Byte32.ofNat 7, .type, List.replicate 22 0⟩

/-- The crates of the transfer, with an address for that lock. -/
def longCrates : Crates :=
  { Sudt.mintCrates with
    addressLock := fun s => if s = "ckt1long" then .ok longLock else Sudt.mintCrates.addressLock s }

/-- The whole hundred, so there is no change to ask for. -/
def longTransferTx : Transaction where
  version := 0
  cellDeps := [⟨⟨Byte32.ofNat 6, 0⟩, .code⟩, ⟨⟨Byte32.ofNat 1, 0⟩, .depGroup⟩]
  headerDeps := []
  inputs := [.new ⟨Byte32.ofNat 5, 0⟩]
  outputs := [⟨14200000000, longLock, some Sudt.sampleToken⟩, ⟨9985799999396, sampleLock, none⟩]
  outputsData := [transferData 100, []]
  witnesses := [.args (.ofLock (List.replicate 65 1))]

/-- What is transferred to it is submitted two CKB short. What would be minted to it is as short,
and so is what would be returned to it. -/
theorem not_paysAll_longLock :
    (transferTokensTx longCrates (sampleWallet 0 [Sudt.sampleTokenCell]).node Sudt.sampleToken
        ⟨Byte32.ofNat 6, 0⟩ "ckt1sample" sampleKeyHex "ckt1long" 100 = .ok longTransferTx ∧
      ¬ PaysAll (List.zip longTransferTx.outputs longTransferTx.outputsData)) ∧
    (∃ req, mintRequest longCrates (sampleWallet 0 []).node ⟨Byte32.ofNat 6, 0⟩ "ckt1sample"
        ⟨sampleKey⟩ "ckt1long" 1000000 = .ok req ∧ ¬ PaysAll req.outputs) ∧
    ∃ req, Spend.spendRequest longCrates (sampleWallet 0 []).node "ckt1long" sampleKey
        ⟨Byte32.ofNat 6, 0⟩ = .ok req ∧ ¬ PaysAll req.outputs := by
  refine ⟨⟨by decide +kernel, by decide⟩, ⟨_, rfl, by decide⟩, ⟨_, rfl, by decide⟩⟩

end CkbScripts
