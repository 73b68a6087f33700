import CkbScripts.SudtLedger
import CkbScripts.Wallet
import CkbScripts.DeployScript

/-!
# What the deployer mints

A mint fails twice over. It does not get built: the code cell is registered under hash type `Data`
and the minted cell asks for `Data1`, so `build_unlocked` finds no dep for it. And where a genesis
block happens to have such a dep, the script refuses: `mint_tokens` names the issuer by a lock hash
and spends cells of that lock, while `isOwnerMode` looks for the hash among *type* hashes. The
inputs the balancer adds have no type script, so a mint is never in owner mode, and what it creates
has to be covered by an input group that is empty.

The second half is about the bytes. There are three writers of token cell data, of which one writes
most significant byte first, and two readers, which agree with each other.

## Main definitions

* `Sudt.MintAccepted`: the mint is built, and the script takes it
* `Sudt.ReadAs`: both readers get this amount
* `Sudt.CellDataAgreement`: what every writer writes, every reader reads

## Main results

* `Sudt.accepts_of_untyped_inputs_iff`: a transaction without typed inputs can create no tokens
* `Sudt.exists_mintTokensTx_iff`: the genesis block has to have a dep for the token's code
* `Sudt.mint_accepted_iff`
* `Sudt.cellDataAgreement_iff`
-/

namespace CkbScripts

namespace Sudt

open DeployScript Outcome

/-! ### Transactions without typed inputs -/

section untyped

variable {H : Hashing} {rtx : ResolvedTx} {script : Script}

theorem not_ownerMode_of_untyped (huntyped : ∀ c ∈ rtx.inputs, c.type_ = none) :
    ¬ (Loads.ofTx H rtx script).OwnerMode :=
  not_ownerMode fun c hc s hs => by rw [huntyped c hc] at hs; cases hs

theorem groupInputData_of_untyped (H : Hashing) (script : Script)
    (huntyped : ∀ c ∈ rtx.inputs, c.type_ = none) :
    (Loads.ofTx H rtx script).groupInputData = [] := by
  rw [Loads.groupInputData_ofTx, List.map_eq_nil_iff, List.filter_eq_nil_iff]
  intro c hc
  obtain ⟨l, hl, rfl⟩ := List.mem_map.mp hc
  simp [show l.toCell.type_ = none from huntyped l hl]

/-- **Nothing comes from nothing.** Without typed inputs the script accepts exactly the output
groups whose cells all hold the amount zero. -/
theorem accepts_of_untyped_inputs_iff (huntyped : ∀ c ∈ rtx.inputs, c.type_ = none) :
    Accepts H rtx script ↔ script.args.length = 32 ∧
      (∀ data ∈ (Loads.ofTx H rtx script).groupOutputData, 16 ≤ data.length) ∧
      ((Loads.ofTx H rtx script).groupOutputData.map amountOf).sum = 0 := by
  have hin := groupInputData_of_untyped H script huntyped
  rw [Accepts, sudtMain_eq_ok_iff, or_iff_right (not_ownerMode_of_untyped huntyped)]
  refine and_congr_right fun _ => ⟨fun h => ⟨h.outputs_decode, ?_⟩, fun h => ?_⟩
  · have hle := h.output_le
    simpa [hin] using hle
  · exact ⟨by simp [hin], h.1, by simp [hin], by simp [hin, h.2]⟩

/-- The data of the requested outputs that carry a type script. -/
def requestedData (outputs : List (CellOutput × Bytes)) (script : Script) : List Bytes :=
  (outputs.filter fun o => o.1.type_ = some script).map Prod.snd

/-- The output group of a balanced transaction is what was requested with its type script. -/
theorem groupOutputData_of_outputs (H : Hashing) (script : Script)
    {outputs : List (CellOutput × Bytes)} {change : Cell}
    (hout : rtx.outputs = outputs.map (fun o => ⟨o.1, o.2⟩) ++ [change])
    (hchange : change.type_ = none) :
    (Loads.ofTx H rtx script).groupOutputData = requestedData outputs script := by
  have hnone : [change].filter (fun c => c.type_ = some script) = [] := by simp [hchange]
  rw [Loads.groupOutputData_ofTx, hout, List.filter_append, hnone, List.append_nil, List.filter_map,
    List.map_map]
  rfl

variable {chain : ChainView} {node : Node} {req : BuildRequest} {tx : Transaction}

/-- Plain fee-payer cells have no type script. -/
theorem untyped_of_plainInputs (hinputs : node.PlainInputs chain)
    (hbuild : node.buildUnlocked req = .ok tx) (hres : chain.Resolved H tx rtx) :
    ∀ c ∈ rtx.inputs, c.type_ = none :=
  fun c hc => (hinputs.resolved hbuild hres c hc).type_eq

/-- **What a balanced transaction can create.** Plain cells in, so the requested cells of a token
have to hold nothing. -/
theorem balanced_accepts_iff (hinputs : node.PlainInputs chain) (houtputs : node.PlainOutputs)
    (hbuild : node.buildUnlocked req = .ok tx) (hres : chain.Resolved H tx rtx) :
    Accepts H rtx script ↔ script.args.length = 32 ∧
      (∀ data ∈ requestedData req.outputs script, 16 ≤ data.length) ∧
      ((requestedData req.outputs script).map amountOf).sum = 0 := by
  obtain ⟨change, hchange, hout⟩ := houtputs.resolved hbuild hres
  rw [accepts_of_untyped_inputs_iff (untyped_of_plainInputs hinputs hbuild hres),
    groupOutputData_of_outputs H script hout hchange.type_eq]

end untyped

/-! ### Reading and writing amounts -/

theorem readAmount_eq_ok_iff {data : Bytes} {a : U128} :
    readAmount data = .ok a ↔ decodeAmount data = some a := by
  by_cases h : 16 ≤ data.length
  · simp [readAmount, tryInto, h, decodeAmount_of_le h]
  · simp [readAmount, tryInto, h, decodeAmount_eq_none_iff.mpr (Nat.not_le.mp h)]

/-- Both readers of cell data get the amount `a`. -/
def ReadAs (data : Bytes) (a : U128) : Prop := decodeAmount data = some a ∧ readAmount data = .ok a

theorem readAs_iff {data : Bytes} {a : U128} : ReadAs data a ↔ decodeAmount data = some a := by
  rw [ReadAs, readAmount_eq_ok_iff, and_self]

theorem readAs_transferData (a : U128) : ReadAs (transferData a) a := by
  rw [readAs_iff, transferData, decodeAmount_toList]
  exact congrArg some (fromLeBytes_toLeBytes (n := 16) a)

theorem readAs_mintData_iff (a : U128) :
    ReadAs (mintData a) a ↔ LittleEndian.Palindrome 16 a.toNat := by
  rw [readAs_iff, mintData, decodeAmount_toList, Option.some_inj]
  exact fromLeBytes_toBeBytes_eq_iff (n := 16) a

/-! ### The mint is not built, or refused -/

section mint

variable {chain : ChainView} {crates : Crates} {node : Node} {codeCellOutpoint : OutPoint}
  {issuerAddress : String} {issuerKey : SecretKey} {recipientAddress : String} {amount : U128}
  {codeHash : Byte32} {genesis : CellDepResolver} {tx : Transaction}

/-- **What it takes to build a mint**, whoever mints what for whom: the genesis block has a dep for
the token's code under `Data1`, and the issuer's lock is found. -/
theorem exists_mintTokensTx_iff {issuerLock recipientLock : Script} (hdeps : node.NeedsDeps)
    (hissuer : crates.addressLock issuerAddress = .ok issuerLock)
    (hrecipient : crates.addressLock recipientAddress = .ok recipientLock)
    (hcode : computeCodeHash crates node codeCellOutpoint = .ok codeHash)
    (hgenesis : genesisCellDeps crates node = .ok genesis)
    (hfunds : node.Funds issuerLock
      (mintOutputs (mintTypeScript crates codeHash issuerLock) recipientLock amount)) :
    (∃ tx, mintTokensTx crates node codeCellOutpoint issuerAddress issuerKey recipientAddress
        amount = .ok tx) ↔
      (genesis.get ⟨codeHash, .data1, []⟩).isSome ∧
        ((tokenResolver genesis codeHash codeCellOutpoint).get issuerLock).isSome := by
  simp only [mintTokensTx_eq_ok_iff hissuer hrecipient hcode hgenesis]
  refine exists_build_token_iff hdeps hfunds _ (fun o ho => ?_) (by simp [mintOutputs])
  obtain rfl := List.mem_singleton.mp ho
  exact ⟨_, rfl⟩

/-- Without that dep a mint is not built, funded or not. -/
theorem mintTokensTx_ne_ok (hdeps : node.NeedsDeps)
    (hcode : computeCodeHash crates node codeCellOutpoint = .ok codeHash)
    (hgenesis : genesisCellDeps crates node = .ok genesis)
    (hnone : genesis.get ⟨codeHash, .data1, []⟩ = none) :
    mintTokensTx crates node codeCellOutpoint issuerAddress issuerKey recipientAddress amount ≠
      .ok tx := by
  intro hrun
  obtain ⟨issuerLock, recipientLock, codeHash', genesis', -, -, hcode', hgenesis', hbuild⟩ :=
    mintTokensTx_eq_ok hrun
  obtain rfl : codeHash = codeHash' := ok_unique hcode hcode'
  obtain rfl : genesis = genesis' := ok_unique hgenesis hgenesis'
  have hfound := (hdeps hbuild).2 _ List.mem_cons_self _ rfl (by simp [mintTypeScript])
  rw [mintTypeScript, get_tokenResolver_data1, hnone] at hfound
  cases hfound

theorem amountOf_mintData_eq_zero_iff (a : U128) : amountOf (mintData a) = 0 ↔ a = 0 := by
  have hlt : a.toNat < 256 ^ 16 := a.isLt
  rw [amountOf, mintData, decodeAmount_toList, Option.elim_some, toNat_fromLeBytes, toBeBytes,
    LittleEndian.toNat_reverse_eq_zero_iff, LittleEndian.toNat_ofNat_of_lt hlt, ← BitVec.toNat_inj]
  rfl

/-- A mint that was built is accepted only if it mints nothing, whatever the issuer's lock and
whichever of its cells pay. -/
theorem accepts_mint_iff (hinputs : node.PlainInputs chain) (houtputs : node.PlainOutputs)
    {rtx : ResolvedTx} {script : Script}
    (hrun : mintTokensTx crates node codeCellOutpoint issuerAddress issuerKey recipientAddress
      amount = .ok tx)
    (hres : chain.resolve crates.toHashing tx = some rtx)
    (hscript : rtx.outputs.head?.bind Cell.type_ = some script) :
    Accepts crates.toHashing rtx script ↔ amount = 0 := by
  obtain ⟨issuerLock, recipientLock, codeHash, genesis, -, -, -, -, hbuild⟩ :=
    mintTokensTx_eq_ok hrun
  have hresolved := ChainView.resolved hres
  obtain ⟨change, -, hout⟩ := houtputs.resolved hbuild hresolved
  -- the minted cell is the first output, and the only one of its type
  obtain rfl : mintTypeScript crates codeHash issuerLock = script := by
    simpa [hout, mintOutputs, Cell.type_] using hscript
  have hdata : requestedData (mintOutputs (mintTypeScript crates codeHash issuerLock) recipientLock
      amount) (mintTypeScript crates codeHash issuerLock) = [mintData amount] := by
    simp [requestedData, mintOutputs]
  have hargs : (mintTypeScript crates codeHash issuerLock).args.length = 32 := by
    simp [mintTypeScript]
  have hlen : (mintData amount).length = 16 := by simp [mintData]
  rw [balanced_accepts_iff hinputs houtputs hbuild hresolved, hdata,
    ← amountOf_mintData_eq_zero_iff]
  simp [hargs, hlen]

/-- The minted cell is the first output of what the scripts see. -/
theorem exists_type_of_mint (houtputs : node.PlainOutputs) {rtx : ResolvedTx}
    (hrun : mintTokensTx crates node codeCellOutpoint issuerAddress issuerKey recipientAddress
      amount = .ok tx)
    (hres : chain.resolve crates.toHashing tx = some rtx) :
    ∃ script, rtx.outputs.head?.bind Cell.type_ = some script := by
  obtain ⟨issuerLock, recipientLock, codeHash, genesis, -, -, -, -, hbuild⟩ :=
    mintTokensTx_eq_ok hrun
  obtain ⟨change, -, hout⟩ := houtputs.resolved hbuild (ChainView.resolved hres)
  exact ⟨mintTypeScript crates codeHash issuerLock, by simp [hout, mintOutputs, Cell.type_]⟩

end mint

/-- What a mint is for: a transaction is built, and the sUDT script, run for the type script of the
minted cell, accepts it. -/
def MintAccepted (chain : ChainView) (crates : Crates) (node : Node) (codeCellOutpoint : OutPoint)
    (issuerAddress : String) (issuerKey : SecretKey) (recipientAddress : String) (amount : U128) :
    Prop :=
  ∃ tx rtx script,
    mintTokensTx crates node codeCellOutpoint issuerAddress issuerKey recipientAddress amount =
      .ok tx ∧
    chain.resolve crates.toHashing tx = some rtx ∧
    rtx.outputs.head?.bind Cell.type_ = some script ∧ Accepts crates.toHashing rtx script

/-- **When a mint is accepted.** Only the amount zero is, and only where the genesis block has a dep
for the token's code under `Data1`; the issuer's lock has to be found as well. -/
theorem mint_accepted_iff (chain : ChainView) (crates : Crates) (node : Node)
    (hinputs : node.PlainInputs chain) (houtputs : node.PlainOutputs)
    (hheaders : node.NoHeaderDeps) (hdeps : node.NeedsDeps) (codeCellOutpoint : OutPoint)
    (issuerAddress : String) (issuerKey : SecretKey) (recipientAddress : String) (amount : U128)
    (issuerLock recipientLock : Script) (codeHash : Byte32) (genesis : CellDepResolver)
    (hissuer : crates.addressLock issuerAddress = .ok issuerLock)
    (hrecipient : crates.addressLock recipientAddress = .ok recipientLock)
    (hcode : computeCodeHash crates node codeCellOutpoint = .ok codeHash)
    (hgenesis : genesisCellDeps crates node = .ok genesis)
    (hfunds : node.Funds issuerLock
      (mintOutputs (mintTypeScript crates codeHash issuerLock) recipientLock amount)) :
    MintAccepted chain crates node codeCellOutpoint issuerAddress issuerKey recipientAddress
        amount ↔
      amount = 0 ∧ (genesis.get ⟨codeHash, .data1, []⟩).isSome ∧
        ((tokenResolver genesis codeHash codeCellOutpoint).get issuerLock).isSome := by
  have hbuilt : (∃ tx, mintTokensTx crates node codeCellOutpoint issuerAddress issuerKey
      recipientAddress amount = .ok tx) ↔ _ :=
    exists_mintTokensTx_iff hdeps hissuer hrecipient hcode hgenesis hfunds
  constructor
  · rintro ⟨tx, rtx, script, hrun, hres, hscript, haccepts⟩
    exact ⟨(accepts_mint_iff hinputs houtputs hrun hres hscript).mp haccepts,
      hbuilt.mp ⟨tx, hrun⟩⟩
  · rintro ⟨hzero, hfound⟩
    obtain ⟨tx, hrun⟩ := hbuilt.mpr hfound
    have hbuild := (mintTokensTx_eq_ok_iff hissuer hrecipient hcode hgenesis).mp hrun
    obtain ⟨rtx, hres⟩ := ChainView.exists_resolve crates.toHashing
      (fun i hi => (hinputs hbuild i hi).imp fun _ h => h.1) (hheaders hbuild)
    obtain ⟨script, hscript⟩ := exists_type_of_mint houtputs hrun hres
    exact ⟨tx, rtx, script, hrun, hres, hscript,
      (accepts_mint_iff hinputs houtputs hrun hres hscript).mpr hzero⟩

/-- The crates of the instance. The deployer itself signs nothing in it. -/
def mintCrates : Crates := sampleCrates 0 (0, zeros 64)

/-- A genesis block with a dep under `Data1` for the code, which the real one has not: the way to
see what becomes of a mint that does get built. -/
def registeredGenesis : CellDepResolver :=
  ⟨(⟨sampleCodeHash, .data1⟩, ⟨⟨Byte32.ofNat 6, 0⟩, .code⟩, "sudt") :: sampleGenesis.items⟩

/-- The crates of the instance, which read that genesis block from the chain. -/
def registeredCrates : Crates := { mintCrates with fromGenesis := fun _ => .ok registeredGenesis }

/-- A mint of the amount `deploy-sudt` mints, to the issuer. -/
def sampleMint (crates : Crates) : Except Failure Transaction :=
  mintTokensTx crates (sampleWallet 0 []).node ⟨Byte32.ofNat 6, 0⟩ "ckt1sample"
    ⟨Byte32.ofNat 1⟩ "ckt1sample" 1000000

/-- What is built where the code is registered in the genesis block. -/
def sampleMintTx : Transaction where
  version := 0
  cellDeps := [⟨⟨Byte32.ofNat 6, 0⟩, .code⟩, ⟨⟨Byte32.ofNat 1, 0⟩, .depGroup⟩]
  headerDeps := []
  inputs := [.new ⟨Byte32.ofNat 5, 0⟩]
  outputs := [⟨14200000000, sampleLock, some (mintTypeScript mintCrates sampleCodeHash sampleLock)⟩,
    ⟨9985799999398, sampleLock, none⟩]
  outputsData := [mintData 1000000, []]
  witnesses := [.args (.ofLock (List.replicate 65 1))]

/-- The chain with nothing live but the wallet's plain cell. -/
def mintChain : ChainView := (sampleWallet 0 []).chain (fun _ => none) fun _ => none

theorem sampleMint_registered : sampleMint registeredCrates = .ok sampleMintTx := by
  decide

/-- On an ordinary chain the mint is not built. Where it is, the script refuses it. -/
theorem not_mintAccepted_million :
    sampleMint mintCrates = .error (.error "resolve cell dep failed") ∧
    ¬ MintAccepted mintChain mintCrates (sampleWallet 0 []).node ⟨Byte32.ofNat 6, 0⟩ "ckt1sample"
      ⟨Byte32.ofNat 1⟩ "ckt1sample" 1000000 ∧
    sampleMint registeredCrates = .ok sampleMintTx ∧
    mintChain.resolve registeredCrates.toHashing sampleMintTx =
      some (sampleResolved sampleMintTx) ∧
    ¬ Accepts registeredCrates.toHashing (sampleResolved sampleMintTx)
      (mintTypeScript mintCrates sampleCodeHash sampleLock) := by
  have hunbuilt : sampleMint mintCrates = .error (.error "resolve cell dep failed") := by decide
  refine ⟨hunbuilt, ?_, sampleMint_registered, by decide, by decide⟩
  rintro ⟨tx, rtx, script, hrun, -⟩
  cases hunbuilt.symm.trans hrun

/-- Where the genesis block has the dep, a mint of nothing goes through and one of a million does
not. -/
theorem mint_accepted_iff_registered :
    MintAccepted mintChain registeredCrates (sampleWallet 0 []).node ⟨Byte32.ofNat 6, 0⟩
        "ckt1sample" ⟨Byte32.ofNat 1⟩ "ckt1sample" 0 ∧
      ¬ MintAccepted mintChain registeredCrates (sampleWallet 0 []).node ⟨Byte32.ofNat 6, 0⟩
        "ckt1sample" ⟨Byte32.ofNat 1⟩ "ckt1sample" 1000000 := by
  have hmint (amount : U128) := mint_accepted_iff mintChain registeredCrates
    (sampleWallet 0 []).node (Wallet.plainInputs _ _) Wallet.plainOutputs Wallet.noHeaderDeps
    Wallet.needsDeps ⟨Byte32.ofNat 6, 0⟩ "ckt1sample" ⟨Byte32.ofNat 1⟩ "ckt1sample" amount
    sampleLock sampleLock sampleCodeHash registeredGenesis (by decide) (by decide) (by decide)
    (by decide)
  refine ⟨(hmint 0 (Wallet.funds (by decide))).mpr ⟨rfl, by decide, by decide⟩, fun h => ?_⟩
  have hzero := ((hmint 1000000 (Wallet.funds (by decide))).mp h).1
  exact absurd hzero (by decide)

/-! ### The bytes of an amount -/

/-- Every writer's data for the amount `a` is read as `a` by every reader, and the readers agree on
whatever is long enough to be read. -/
structure CellDataAgreement (a : U128) : Prop where
  minted : ∀ script recipientLock, ∀ o ∈ mintOutputs script recipientLock a, ReadAs o.2 a
  recipient : ∀ script senderLock recipientLock change,
    ∀ o ∈ (transferOutputs script senderLock recipientLock a change).head?, ReadAs o.2 a
  change : ∀ script senderLock recipientLock transferAmount,
    ∀ o ∈ (transferOutputs script senderLock recipientLock transferAmount a).tail, ReadAs o.2 a
  readers : ∀ data : Bytes, 16 ≤ data.length → ∃ x, ReadAs data x

/-- **The amounts all agree on.** The minted cell is written in the other byte order, so the writers
and readers agree exactly on the amounts whose sixteen bytes are a palindrome. -/
theorem cellDataAgreement_iff (a : U128) :
    CellDataAgreement a ↔ LittleEndian.Palindrome 16 a.toNat := by
  rw [← readAs_mintData_iff]
  constructor
  · intro h
    exact h.minted ⟨zeros 32, .data1, []⟩ ⟨zeros 32, .data1, []⟩ _ (List.mem_singleton.mpr rfl)
  · intro hmint
    refine ⟨?_, ?_, ?_, ?_⟩
    · intro script recipientLock o ho
      obtain rfl := List.mem_singleton.mp ho
      exact hmint
    · intro script senderLock recipientLock change o ho
      obtain rfl := Option.mem_some.mp ho
      exact readAs_transferData a
    · intro script senderLock recipientLock transferAmount o ho
      obtain ⟨-, rfl⟩ : 0 < a ∧ o = (⟨ckb 142, senderLock, some script⟩, transferData a) := by
        simpa [transferOutputs] using ho
      exact readAs_transferData a
    · intro data hlen
      exact ⟨_, readAs_iff.mpr (decodeAmount_of_le hlen)⟩

/-- The amount `deploy-sudt` mints. -/
theorem not_cellDataAgreement_million : ¬ CellDataAgreement 1000000 := by
  intro h
  have hmint := h.minted token holderLock _ (List.mem_singleton.mpr rfl)
  exact absurd hmint.1 (by decide +kernel)

end Sudt

end CkbScripts
