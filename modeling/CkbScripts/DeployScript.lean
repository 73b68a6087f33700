import CkbScripts.Cli
import CkbScripts.Lib.CheckedSum

/-!
# Issuing, transferring and locking: the deployer's first half

`deploy_script.rs`, but for `deploy_script` itself. Every command builds one transaction and hands
it to the node, and is cut in two places, so that a theorem can speak of what passes there. What
comes before `build_unlocked` is named after the command with `Request`, what comes before
`send_transaction` with `Tx`; the command itself is the latter and the call.

The inversion lemmas at the end say what is known of a transaction a command got to submit: which
request `build_unlocked` answered with it. Everything later uses them and unfolds nothing.

## Main definitions

* `DeployScript.mintRequest`, `mintTokensTx`, `mintTokens`
* `DeployScript.selectCells`, `transferRequest`, `transferTokensTx`, `transferTokens`
* `DeployScript.createRequest`, `createLockedCellTx`, `createTimelockCellTx`

## Main results

* `DeployScript.get_tokenResolver_data1`: what is registered is not found for a `Data1` script
* `DeployScript.exists_build_token_iff`: so the genesis block has to have it
* `DeployScript.mintTokensTx_eq_ok`, `transferTokensTx_eq_ok`
* `DeployScript.createLockedCellTx_eq_ok`, `createTimelockCellTx_eq_ok`
-/

namespace CkbScripts

namespace DeployScript

open CheckedSum Outcome

/-! ### Shared steps -/

/-- `n * 100_000_000`: CKB in shannons. -/
def ckb (n : U64) : U64 := n * 100000000

/-- `fetch_code_cell_data`: the data of a deployed code cell, after its hash. -/
def fetchCodeCellData (crates : Crates) (node : Node) (codeCellOutpoint : OutPoint) :
    Except Failure (Byte32 × Bytes) := do
  let response ← orError (node.getTransaction codeCellOutpoint.txHash)
  let status ← okOr response (.expect "deployment tx not found")
  let tx ← okOr status (.expect "tx data missing")
  let packedTx ← match tx with
    | .json tx => .ok tx
    | .bytes b => orErrorWith "failed to decode tx bytes" (crates.transactionFromSlice b)
  let raw ← okOr packedTx.outputsData[codeCellOutpoint.index.toNat]? (.expect "output data missing")
  return (crates.blake2b256 raw, raw)

/-- `compute_code_hash` -/
def computeCodeHash (crates : Crates) (node : Node) (codeCellOutpoint : OutPoint) :
    Except Failure Byte32 := do
  let (hash, _) ← fetchCodeCellData crates node codeCellOutpoint
  return hash

/-- The dep resolver every command starts from. -/
def genesisCellDeps (crates : Crates) (node : Node) : Except Failure CellDepResolver := do
  let response ← orError (node.getBlockByNumber 0)
  let block ← okOr response .panic
  orError (crates.fromGenesis block)

/-- The resolver of a token command: the genesis deps, and the code cell under the `Data` script id
of its hash. -/
def tokenResolver (genesis : CellDepResolver) (codeHash : Byte32) (codeCellOutpoint : OutPoint) :
    CellDepResolver :=
  genesis.insert (ScriptId.newData codeHash) ⟨codeCellOutpoint, .code⟩ "sudt"

/-- The resolver of a command that locks or spends: the genesis deps, and the code cell under the
hash of a whole script, where a script id has a code hash. -/
def lockResolver (crates : Crates) (genesis : CellDepResolver) (script : Script)
    (codeCellOutpoint : OutPoint) (label : String) : CellDepResolver :=
  genesis.insert (ScriptId.newData (crates.scriptHash script)) ⟨codeCellOutpoint, .code⟩ label

/-- Submit, and take the first output. -/
def sendFirst (node : Node) (tx : Transaction) : Except Failure OutPoint := do
  let txHash ← orError (node.sendTransaction tx)
  return ⟨txHash, 0⟩

/-! ### `mint_tokens` -/

/-- The type script of the token an issuer mints. -/
def mintTypeScript (crates : Crates) (codeHash : Byte32) (issuerLock : Script) : Script :=
  ⟨codeHash, .data1, (crates.blake2b256 (crates.scriptSlice issuerLock)).toList⟩

/-- The data of the minted cell. The amount is written most significant byte first. -/
def mintData (amount : U128) : Bytes := (toBeBytes (n := 16) amount).toList

/-- The minted cell. -/
def mintOutputs (sudtTypeScript recipientLock : Script) (amount : U128) :
    List (CellOutput × Bytes) :=
  [(⟨ckb 142, recipientLock, some sudtTypeScript⟩, mintData amount)]

/-- What `mint_tokens` asks for. The code is fetched and hashed twice. -/
def mintRequest (crates : Crates) (node : Node) (codeCellOutpoint : OutPoint)
    (issuerAddress : String) (issuerKey : SecretKey) (recipientAddress : String) (amount : U128) :
    Except Failure BuildRequest := do
  let issuerLock ← orPanic (crates.addressLock issuerAddress)
  let recipientLock ← orPanic (crates.addressLock recipientAddress)
  let codeHash ← computeCodeHash crates node codeCellOutpoint
  let scriptCodeHash ← computeCodeHash crates node codeCellOutpoint
  let sudtTypeScript := mintTypeScript crates scriptCodeHash issuerLock
  let genesis ← genesisCellDeps crates node
  return {
    outputs := mintOutputs sudtTypeScript recipientLock amount
    cellDepResolver := tokenResolver genesis codeHash codeCellOutpoint
    balancer := .newSimple issuerLock
    unlockers := sighashUnlockers issuerKey }

/-- The transaction `mint_tokens` submits. -/
def mintTokensTx (crates : Crates) (node : Node) (codeCellOutpoint : OutPoint)
    (issuerAddress : String) (issuerKey : SecretKey) (recipientAddress : String) (amount : U128) :
    Except Failure Transaction := do
  let req ←
    mintRequest crates node codeCellOutpoint issuerAddress issuerKey recipientAddress amount
  orError (node.buildUnlocked req)

/-- `mint_tokens` -/
def mintTokens (crates : Crates) (node : Node) (codeCellOutpoint : OutPoint)
    (issuerAddress : String) (issuerKey : SecretKey) (recipientAddress : String) (amount : U128) :
    Except Failure Unit := do
  let tx ← mintTokensTx crates node codeCellOutpoint issuerAddress issuerKey recipientAddress amount
  let _ ← orError (node.sendTransaction tx)
  return ()

/-! ### `transfer_tokens` -/

/-- `u128::from_le_bytes(data[..16].try_into().unwrap())` -/
def readAmount (data : Bytes) : Except Failure U128 := do
  let b ← okOr (tryInto 16 (data.take 16)) .panic
  return fromLeBytes b

/-- The cells taken so far and their total. -/
structure Selection where
  inputs : List IndexerCell
  inputTotal : U128
  deriving DecidableEq

/-- One iteration's `Some(hash) if hash == sudt_type_hash` branch. -/
def takeCell (acc : Selection) (cell : IndexerCell) : Except Failure Selection := do
  let outputData ← okOr cell.outputData (.expect "output data not found")
  let amount ← readAmount outputData
  let inputTotal ← okOr (checkedAdd acc.inputTotal amount) (.expect "overflow")
  return ⟨acc.inputs ++ [cell], inputTotal⟩

/-- The selection loop. A cell of another type `continue`s past the check at the end of the
body. -/
def selectCells (H : Hashing) (sudtTypeHash : Byte32) (transferAmount : U128) :
    List IndexerCell → Selection → Except Failure Selection
  | [], acc => .ok acc
  | cell :: rest, acc =>
    if cell.output.type_.map H.scriptHash = some sudtTypeHash then do
      let acc ← takeCell acc cell
      if acc.inputTotal ≥ transferAmount then return acc
      else selectCells H sudtTypeHash transferAmount rest acc
    else selectCells H sudtTypeHash transferAmount rest acc

/-- The query for the sender's cells of the token. -/
def transferSearchKey (senderLock sudtTypeScript : Script) : SearchKey where
  script := senderLock
  scriptType := .lock
  filterScript := some sudtTypeScript
  scriptSearchMode := some .partialMode
  withData := some true
  groupByTransaction := some true

/-- The data of a transferred cell, and of the change. -/
def transferData (amount : U128) : Bytes := (toLeBytes (n := 16) amount).toList

/-- The recipient's cell, and the sender's change if there is any. -/
def transferOutputs (sudtTypeScript senderLock recipientLock : Script)
    (transferAmount changeAmount : U128) : List (CellOutput × Bytes) :=
  let capacityPerCell := ckb 142
  (⟨capacityPerCell, recipientLock, some sudtTypeScript⟩, transferData transferAmount) ::
    if changeAmount > 0 then
      [(⟨capacityPerCell, senderLock, some sudtTypeScript⟩, transferData changeAmount)]
    else []

/-- The `bail!` on a balance that does not suffice. -/
def insufficient (inputTotal transferAmount : U128) : Failure :=
  .error s!"Insufficient UDT balance: have {inputTotal.toNat}, need {transferAmount.toNat}"

/-- What `transfer_tokens` asks for. The selected cells are counted, and the count is all that is
used of them. -/
def transferRequest (crates : Crates) (node : Node) (sudtTypeScript : Script)
    (codeCellOutpoint : OutPoint) (senderAddress senderKeyHex recipientAddress : String)
    (transferAmount : U128) : Except Failure BuildRequest := do
  let senderLock ← orPanic (crates.addressLock senderAddress)
  let senderKeyBytes ← orError (crates.hexDecode senderKeyHex)
  let cleanSenderKey ← okOr (tryInto 32 senderKeyBytes) .panic
  let senderKey ← orError (crates.secretKey cleanSenderKey)
  let recipientLock ← orPanic (crates.addressLock recipientAddress)
  let udtCells ←
    orError (node.getCells (transferSearchKey senderLock sudtTypeScript) .asc 1000 none)
  let selection ←
    selectCells crates.toHashing (crates.scriptHash sudtTypeScript) transferAmount udtCells ⟨[], 0⟩
  if selection.inputTotal < transferAmount then
    .error (insufficient selection.inputTotal transferAmount)
  else do
    let changeAmount := selection.inputTotal - transferAmount
    let codeHash ← computeCodeHash crates node codeCellOutpoint
    let genesis ← genesisCellDeps crates node
    return {
      outputs := transferOutputs sudtTypeScript senderLock recipientLock transferAmount changeAmount
      cellDepResolver := tokenResolver genesis codeHash codeCellOutpoint
      balancer := .newSimple senderLock
      unlockers := sighashUnlockers senderKey }

/-- The transaction `transfer_tokens` submits. -/
def transferTokensTx (crates : Crates) (node : Node) (sudtTypeScript : Script)
    (codeCellOutpoint : OutPoint) (senderAddress senderKeyHex recipientAddress : String)
    (transferAmount : U128) : Except Failure Transaction := do
  let req ← transferRequest crates node sudtTypeScript codeCellOutpoint senderAddress senderKeyHex
    recipientAddress transferAmount
  orError (node.buildUnlocked req)

/-- `transfer_tokens` -/
def transferTokens (crates : Crates) (node : Node) (sudtTypeScript : Script)
    (codeCellOutpoint : OutPoint) (senderAddress senderKeyHex recipientAddress : String)
    (transferAmount : U128) : Except Failure Unit := do
  let tx ← transferTokensTx crates node sudtTypeScript codeCellOutpoint senderAddress senderKeyHex
    recipientAddress transferAmount
  let _ ← orError (node.sendTransaction tx)
  return ()

/-! ### `create_locked_cell_generic` and its callers -/

/-- The output that is locked. -/
def lockedOutput (codeHash : Byte32) (lockArgs : Bytes) (capacityCkb : U64) : CellOutput :=
  ⟨ckb capacityCkb, ⟨codeHash, .data1, lockArgs⟩, none⟩

/-- What `create_locked_cell_generic` asks for. -/
def createRequest (crates : Crates) (node : Node) (funderAddress : String) (funderKey : SecretKey)
    (codeCellTxHashHex : String) (lockArgs : Bytes) (capacityCkb : U64) (scriptLabel : String) :
    Except Failure BuildRequest := do
  let bytesCode ← txHashArg crates codeCellTxHashHex
  let codeCellOutpoint : OutPoint := ⟨bytesCode, 0⟩
  let (codeHash, _) ← fetchCodeCellData crates node codeCellOutpoint
  let output := lockedOutput codeHash lockArgs capacityCkb
  let funderLock ← orErrorWith "invalid funder address" (crates.addressLock funderAddress)
  let genesis ← genesisCellDeps crates node
  return {
    outputs := [(output, [])]
    cellDepResolver := lockResolver crates genesis output.lock codeCellOutpoint scriptLabel
    balancer := .newSimple funderLock
    unlockers := sighashUnlockers funderKey }

/-- The transaction `create_locked_cell_generic` submits. -/
def createLockedCellGenericTx (crates : Crates) (node : Node) (funderAddress : String)
    (funderKey : SecretKey) (codeCellTxHashHex : String) (lockArgs : Bytes) (capacityCkb : U64)
    (scriptLabel : String) : Except Failure Transaction := do
  let req ← createRequest crates node funderAddress funderKey codeCellTxHashHex lockArgs capacityCkb
    scriptLabel
  orError (node.buildUnlocked req)

/-- `create_locked_cell_generic` -/
def createLockedCellGeneric (crates : Crates) (node : Node) (funderAddress : String)
    (funderKey : SecretKey) (codeCellTxHashHex : String) (lockArgs : Bytes) (capacityCkb : U64)
    (scriptLabel : String) : Except Failure OutPoint := do
  let tx ← createLockedCellGenericTx crates node funderAddress funderKey codeCellTxHashHex lockArgs
    capacityCkb scriptLabel
  sendFirst node tx

/-- The args and the code cell of a simple-lock cell: the hash of the preimage. -/
def simpleLockArgs (crates : Crates) : List String → Except Failure (String × Bytes)
  | codeCell :: preimageHex :: _ => do
    let preimageBytes ← orError (crates.hexDecode preimageHex)
    return (codeCell, (crates.blake2b256 preimageBytes).toList)
  | _ => .error missingArg

/-- The commitment of a timelock cell: zeros if none is given. -/
def commitmentArg (crates : Crates) (extraCommitmentHex : String) : Except Failure Bytes :=
  if extraCommitmentHex = "" then .ok (zeros 32).toList
  else do
    let b ← orError (crates.hexDecode extraCommitmentHex)
    if b.length ≠ 32 then .error (.error s!"extra_commitment must be 32 bytes, got {b.length}")
    else return b

/-- The args and the code cell of a timelock cell: a public key and a commitment. -/
def timelockArgs (crates : Crates) : List String → Except Failure (String × Bytes)
  | codeCell :: pubkeyHex :: extraCommitmentHex :: _ => do
    let pubkeyBytes ← orError (crates.hexDecode pubkeyHex)
    if pubkeyBytes.length ≠ 33 then
      .error (.error
        s!"pubkey must be 33 bytes (compressed secp256k1), got {pubkeyBytes.length}")
    else do
      let commitmentBytes ← commitmentArg crates extraCommitmentHex
      return (codeCell, pubkeyBytes ++ commitmentBytes)
  | _ => .error missingArg

/-- The transaction `create_locked_cell` submits. -/
def createLockedCellTx (crates : Crates) (node : Node) (args : List String) (config : Config) :
    Except Failure Transaction := do
  let (codeCell, lockArgs) ← simpleLockArgs crates args
  let key ← config.secretKey crates
  createLockedCellGenericTx crates node config.address key codeCell lockArgs 70464 "simple-lock"

/-- The transaction `create_timelock_cell` submits. -/
def createTimelockCellTx (crates : Crates) (node : Node) (args : List String) (config : Config) :
    Except Failure Transaction := do
  let (codeCell, lockArgs) ← timelockArgs crates args
  let key ← config.secretKey crates
  createLockedCellGenericTx crates node config.address key codeCell lockArgs 70464 "timelock-lock"

/-- `create_locked_cell` -/
def createLockedCell (crates : Crates) (node : Node) (args : List String) (config : Config) :
    Except Failure Unit := do
  let tx ← createLockedCellTx crates node args config
  let _ ← sendFirst node tx
  return ()

/-- `create_timelock_cell` -/
def createTimelockCell (crates : Crates) (node : Node) (args : List String) (config : Config) :
    Except Failure Unit := do
  let tx ← createTimelockCellTx crates node args config
  let _ ← sendFirst node tx
  return ()

/-! ### What is known of a submitted transaction -/

variable {crates : Crates} {node : Node} {tx : Transaction}

/-- What the token commands register is found for no script of hash type `Data1`: whatever is found
comes from the genesis block, and does not depend on the args. -/
theorem get_tokenResolver_data1 (genesis : CellDepResolver) (codeHash : Byte32)
    (codeCellOutpoint : OutPoint) (c : Byte32) (args : Bytes) :
    (tokenResolver genesis codeHash codeCellOutpoint).get ⟨c, .data1, args⟩ =
      genesis.get ⟨c, .data1, []⟩ := by
  have hne : (⟨c, .data1⟩ : ScriptId) ≠ ScriptId.newData codeHash := by simp [ScriptId.newData]
  rw [tokenResolver, CellDepResolver.get_insert, if_neg hne]
  rfl

/-- **What a token request needs.** For outputs of the token of hash type `Data1` that the payer can
pay for, a transaction is built exactly when the genesis block has a dep for the token's code, and
one is found for the lock that pays. -/
theorem exists_build_token_iff {codeHash : Byte32} {codeCellOutpoint : OutPoint}
    {genesis : CellDepResolver} {payer : Script} {outputs : List (CellOutput × Bytes)}
    (hdeps : node.NeedsDeps) (hfunds : node.Funds payer outputs) (unlockers : Unlockers)
    (htypes : ∀ o ∈ outputs, ∃ args, o.1.type_ = some ⟨codeHash, .data1, args⟩)
    (hsome : outputs ≠ []) :
    (∃ tx, node.buildUnlocked ⟨outputs, tokenResolver genesis codeHash codeCellOutpoint,
        .newSimple payer, unlockers⟩ = .ok tx) ↔
      (genesis.get ⟨codeHash, .data1, []⟩).isSome ∧
        ((tokenResolver genesis codeHash codeCellOutpoint).get payer).isSome := by
  constructor
  · rintro ⟨tx, hbuild⟩
    obtain ⟨hpayer, hfound⟩ := hdeps hbuild
    obtain ⟨o, ho⟩ := List.exists_mem_of_ne_nil _ hsome
    obtain ⟨args, hargs⟩ := htypes o ho
    have htype := hfound o ho _ hargs (by simp)
    rw [get_tokenResolver_data1] at htype
    exact ⟨htype, hpayer⟩
  · rintro ⟨htype, hpayer⟩
    refine hfunds _ rfl rfl ⟨hpayer, fun o ho s hs => ?_⟩
    obtain ⟨args, hargs⟩ := htypes o ho
    obtain rfl : (⟨codeHash, .data1, args⟩ : Script) = s := Option.some.inj (hargs.symm.trans hs)
    rwa [get_tokenResolver_data1]

/-- A mint gets as far as asking when the addresses and the code cell can be read. Nothing happens
between the two fetches, so both give one hash. -/
theorem mintRequest_eq_ok_iff {codeCellOutpoint : OutPoint} {issuerAddress : String}
    {issuerKey : SecretKey} {recipientAddress : String} {amount : U128} {req : BuildRequest} :
    mintRequest crates node codeCellOutpoint issuerAddress issuerKey recipientAddress amount =
        .ok req ↔
      ∃ issuerLock recipientLock codeHash genesis,
        crates.addressLock issuerAddress = .ok issuerLock ∧
        crates.addressLock recipientAddress = .ok recipientLock ∧
        computeCodeHash crates node codeCellOutpoint = .ok codeHash ∧
        genesisCellDeps crates node = .ok genesis ∧
        ⟨mintOutputs (mintTypeScript crates codeHash issuerLock) recipientLock amount,
          tokenResolver genesis codeHash codeCellOutpoint, .newSimple issuerLock,
          sighashUnlockers issuerKey⟩ = req := by
  simp only [mintRequest, bind_eq_ok_iff, orPanic_eq_ok_iff, pure_eq_ok, Except.ok.injEq]
  constructor
  · rintro ⟨issuerLock, hissuer, recipientLock, hrecipient, codeHash, hcode, scriptCodeHash,
      hscript, genesis, hgenesis, hreq⟩
    obtain rfl : codeHash = scriptCodeHash := ok_unique hcode hscript
    exact ⟨issuerLock, recipientLock, codeHash, genesis, hissuer, hrecipient, hcode, hgenesis, hreq⟩
  · rintro ⟨issuerLock, recipientLock, codeHash, genesis, hissuer, hrecipient, hcode, hgenesis,
      hreq⟩
    exact ⟨issuerLock, hissuer, recipientLock, hrecipient, codeHash, hcode, codeHash, hcode,
      genesis, hgenesis, hreq⟩

/-- Once it asks, a mint is what the builder answers. -/
theorem mintTokensTx_eq_ok_iff {codeCellOutpoint : OutPoint} {issuerAddress : String}
    {issuerKey : SecretKey} {recipientAddress : String} {amount : U128}
    {issuerLock recipientLock : Script} {codeHash : Byte32} {genesis : CellDepResolver}
    (hissuer : crates.addressLock issuerAddress = .ok issuerLock)
    (hrecipient : crates.addressLock recipientAddress = .ok recipientLock)
    (hcode : computeCodeHash crates node codeCellOutpoint = .ok codeHash)
    (hgenesis : genesisCellDeps crates node = .ok genesis) :
    mintTokensTx crates node codeCellOutpoint issuerAddress issuerKey recipientAddress amount =
        .ok tx ↔
      node.buildUnlocked
        ⟨mintOutputs (mintTypeScript crates codeHash issuerLock) recipientLock amount,
          tokenResolver genesis codeHash codeCellOutpoint, .newSimple issuerLock,
          sighashUnlockers issuerKey⟩ = .ok tx := by
  rw [mintTokensTx, mintRequest_eq_ok_iff.mpr ⟨issuerLock, recipientLock, codeHash, genesis,
    hissuer, hrecipient, hcode, hgenesis, rfl⟩, ok_bind, orError_eq_ok_iff]

/-- A mint that got as far as submitting. -/
theorem mintTokensTx_eq_ok {codeCellOutpoint : OutPoint} {issuerAddress : String}
    {issuerKey : SecretKey} {recipientAddress : String} {amount : U128}
    (h : mintTokensTx crates node codeCellOutpoint issuerAddress issuerKey recipientAddress amount =
      .ok tx) :
    ∃ issuerLock recipientLock codeHash genesis,
      crates.addressLock issuerAddress = .ok issuerLock ∧
      crates.addressLock recipientAddress = .ok recipientLock ∧
      computeCodeHash crates node codeCellOutpoint = .ok codeHash ∧
      genesisCellDeps crates node = .ok genesis ∧
      node.buildUnlocked
        ⟨mintOutputs (mintTypeScript crates codeHash issuerLock) recipientLock amount,
          tokenResolver genesis codeHash codeCellOutpoint, .newSimple issuerLock,
          sighashUnlockers issuerKey⟩ = .ok tx := by
  simp only [mintTokensTx, bind_eq_ok_iff, orError_eq_ok_iff] at h
  obtain ⟨_, hreq, hbuild⟩ := h
  obtain ⟨issuerLock, recipientLock, codeHash, genesis,
    hissuer, hrecipient, hcode, hgenesis, rfl⟩ := mintRequest_eq_ok_iff.mp hreq
  exact ⟨issuerLock, recipientLock, codeHash, genesis, hissuer, hrecipient, hcode, hgenesis, hbuild⟩

/-- A transfer gets as far as asking when the arguments, the sender's cells and the code cell can be
read and the balance suffices. -/
theorem transferRequest_eq_ok_iff {sudtTypeScript : Script} {codeCellOutpoint : OutPoint}
    {senderAddress senderKeyHex recipientAddress : String} {transferAmount : U128}
    {req : BuildRequest} :
    transferRequest crates node sudtTypeScript codeCellOutpoint senderAddress senderKeyHex
        recipientAddress transferAmount = .ok req ↔
      ∃ senderLock keyBytes key recipientLock udtCells selection codeHash genesis,
        crates.addressLock senderAddress = .ok senderLock ∧
        (crates.hexDecode senderKeyHex = .ok keyBytes.toList ∧
          crates.secretKey keyBytes = .ok key) ∧
        crates.addressLock recipientAddress = .ok recipientLock ∧
        node.getCells (transferSearchKey senderLock sudtTypeScript) .asc 1000 none = .ok udtCells ∧
        selectCells crates.toHashing (crates.scriptHash sudtTypeScript) transferAmount udtCells
          ⟨[], 0⟩ = .ok selection ∧
        transferAmount ≤ selection.inputTotal ∧
        computeCodeHash crates node codeCellOutpoint = .ok codeHash ∧
        genesisCellDeps crates node = .ok genesis ∧
        ⟨transferOutputs sudtTypeScript senderLock recipientLock transferAmount
            (selection.inputTotal - transferAmount),
          tokenResolver genesis codeHash codeCellOutpoint, .newSimple senderLock,
          sighashUnlockers key⟩ = req := by
  simp only [transferRequest, bind_eq_ok_iff, orPanic_eq_ok_iff, orError_eq_ok_iff, okOr_eq_ok_iff,
    guard_eq_ok_iff, BitVec.not_lt, pure_eq_ok, Except.ok.injEq, tryInto_eq_some_iff]
  constructor
  · rintro ⟨senderLock, hsender, _, hhex, keyBytes, rfl, key, hkey, recipientLock, hrecipient,
      udtCells, hcells, selection, hselect, henough, codeHash, hcode, genesis, hgenesis, hreq⟩
    exact ⟨senderLock, keyBytes, key, recipientLock, udtCells, selection, codeHash, genesis,
      hsender, ⟨hhex, hkey⟩, hrecipient, hcells, hselect, henough, hcode, hgenesis, hreq⟩
  · rintro ⟨senderLock, keyBytes, key, recipientLock, udtCells, selection, codeHash, genesis,
      hsender, ⟨hhex, hkey⟩, hrecipient, hcells, hselect, henough, hcode, hgenesis, hreq⟩
    exact ⟨senderLock, hsender, _, hhex, keyBytes, rfl, key, hkey, recipientLock, hrecipient,
      udtCells, hcells, selection, hselect, henough, codeHash, hcode, genesis, hgenesis, hreq⟩

/-- A transfer that got as far as submitting. -/
theorem transferTokensTx_eq_ok {sudtTypeScript : Script} {codeCellOutpoint : OutPoint}
    {senderAddress senderKeyHex recipientAddress : String} {transferAmount : U128}
    (h : transferTokensTx crates node sudtTypeScript codeCellOutpoint senderAddress senderKeyHex
      recipientAddress transferAmount = .ok tx) :
    ∃ senderLock recipientLock key udtCells selection codeHash genesis,
      crates.addressLock senderAddress = .ok senderLock ∧
      node.getCells (transferSearchKey senderLock sudtTypeScript) .asc 1000 none = .ok udtCells ∧
      selectCells crates.toHashing (crates.scriptHash sudtTypeScript) transferAmount udtCells
        ⟨[], 0⟩ = .ok selection ∧
      transferAmount ≤ selection.inputTotal ∧
      computeCodeHash crates node codeCellOutpoint = .ok codeHash ∧
      genesisCellDeps crates node = .ok genesis ∧
      node.buildUnlocked
        ⟨transferOutputs sudtTypeScript senderLock recipientLock transferAmount
            (selection.inputTotal - transferAmount),
          tokenResolver genesis codeHash codeCellOutpoint, .newSimple senderLock,
          sighashUnlockers key⟩ = .ok tx := by
  simp only [transferTokensTx, bind_eq_ok_iff, orError_eq_ok_iff] at h
  obtain ⟨_, hreq, hbuild⟩ := h
  obtain ⟨senderLock, _, key, recipientLock, udtCells, selection, codeHash, genesis, hsender, -, -,
    hcells, hselect, henough, hcode, hgenesis, rfl⟩ := transferRequest_eq_ok_iff.mp hreq
  exact ⟨senderLock, recipientLock, key, udtCells, selection, codeHash, genesis, hsender, hcells,
    hselect, henough, hcode, hgenesis, hbuild⟩

/-- A cell is locked with the hash of the code that was fetched. -/
theorem createRequest_eq_ok {funderAddress : String} {funderKey : SecretKey} {codeCell : String}
    {lockArgs : Bytes} {capacityCkb : U64} {scriptLabel : String} {req : BuildRequest}
    (h : createRequest crates node funderAddress funderKey codeCell lockArgs capacityCkb
      scriptLabel = .ok req) :
    ∃ bytesCode codeHash codeCellData funderLock, txHashArg crates codeCell = .ok bytesCode ∧
      fetchCodeCellData crates node ⟨bytesCode, 0⟩ = .ok (codeHash, codeCellData) ∧
      crates.addressLock funderAddress = .ok funderLock ∧
      req.outputs = [(lockedOutput codeHash lockArgs capacityCkb, [])] ∧
      req.balancer = .newSimple funderLock := by
  simp only [createRequest, bind_eq_ok_iff, orErrorWith_eq_ok_iff, pure_eq_ok,
    Except.ok.injEq] at h
  obtain ⟨bytesCode, hbytes, ⟨codeHash, codeCellData⟩, hfetch, funderLock, hfunder, genesis, -,
    rfl⟩ := h
  exact ⟨bytesCode, codeHash, codeCellData, funderLock, hbytes, hfetch, hfunder, rfl, rfl⟩

theorem createLockedCellGenericTx_eq_ok {funderAddress : String} {funderKey : SecretKey}
    {codeCell : String} {lockArgs : Bytes} {capacityCkb : U64} {scriptLabel : String}
    (h : createLockedCellGenericTx crates node funderAddress funderKey codeCell lockArgs capacityCkb
      scriptLabel = .ok tx) :
    ∃ codeHash req, node.buildUnlocked req = .ok tx ∧
      req.outputs = [(lockedOutput codeHash lockArgs capacityCkb, [])] := by
  simp only [createLockedCellGenericTx, bind_eq_ok_iff, orError_eq_ok_iff] at h
  obtain ⟨req, hreq, hbuild⟩ := h
  obtain ⟨_, codeHash, _, _, -, -, -, houtputs, -⟩ := createRequest_eq_ok hreq
  exact ⟨codeHash, req, hbuild, houtputs⟩

/-- Both commands are their arguments, the key and `create_locked_cell_generic`. -/
theorem createLockedCell_eq (args : List String) (config : Config) :
    createLockedCell crates node args config = (do
      let (codeCell, lockArgs) ← simpleLockArgs crates args
      let key ← config.secretKey crates
      let _ ← createLockedCellGeneric crates node config.address key codeCell lockArgs 70464
        "simple-lock"
      return ()) ∧
    createTimelockCell crates node args config = (do
      let (codeCell, lockArgs) ← timelockArgs crates args
      let key ← config.secretKey crates
      let _ ← createLockedCellGeneric crates node config.address key codeCell lockArgs 70464
        "timelock-lock"
      return ()) := by
  simp only [createLockedCell, createTimelockCell, createLockedCellTx, createTimelockCellTx,
    createLockedCellGeneric, bind_assoc, and_self]

/-- A simple-lock cell that was created: its args are the hash of the preimage. -/
theorem createLockedCellTx_eq_ok {codeCell preimageHex : String} {rest : List String}
    {config : Config} {preimage : Bytes} (hhex : crates.hexDecode preimageHex = .ok preimage)
    (h : createLockedCellTx crates node (codeCell :: preimageHex :: rest) config = .ok tx) :
    ∃ codeHash req, node.buildUnlocked req = .ok tx ∧
      req.outputs = [(lockedOutput codeHash (crates.blake2b256 preimage).toList 70464, [])] := by
  simp only [createLockedCellTx, simpleLockArgs, hhex, orError, mapError_ok, ok_bind, pure_eq_ok,
    bind_eq_ok_iff] at h
  obtain ⟨_, -, hgen⟩ := h
  exact createLockedCellGenericTx_eq_ok hgen

theorem length_of_commitmentArg {extraCommitmentHex : String} {commitment : Bytes}
    (h : commitmentArg crates extraCommitmentHex = .ok commitment) : commitment.length = 32 := by
  by_cases hempty : extraCommitmentHex = ""
  · obtain rfl : (zeros 32).toList = commitment := by simpa [commitmentArg, hempty] using h
    simp
  · simp only [commitmentArg, hempty, if_false, bind_eq_ok_iff, guard_eq_ok_iff, pure_eq_ok,
      Except.ok.injEq] at h
    obtain ⟨b, -, hb, rfl⟩ := h
    exact not_not.mp hb

/-- The args of a timelock cell are a key and a commitment, 65 bytes in all. -/
theorem timelockArgs_eq_ok {args : List String} {codeCell : String} {lockArgs : Bytes}
    (h : timelockArgs crates args = .ok (codeCell, lockArgs)) :
    ∃ pubkey commitment : Bytes, pubkey.length = 33 ∧ commitment.length = 32 ∧
      lockArgs = pubkey ++ commitment := by
  match args, h with
  | _ :: _ :: _ :: _, h =>
    simp only [timelockArgs, bind_eq_ok_iff, guard_eq_ok_iff, pure_eq_ok, Except.ok.injEq,
      Prod.mk.injEq] at h
    obtain ⟨pubkey, -, hlen, commitment, hcommit, -, rfl⟩ := h
    exact ⟨pubkey, commitment, not_not.mp hlen, length_of_commitmentArg hcommit, rfl⟩
  | [], h => simp [timelockArgs] at h
  | [_], h => simp [timelockArgs] at h
  | [_, _], h => simp [timelockArgs] at h

/-- A timelock cell that was created. -/
theorem createTimelockCellTx_eq_ok {args : List String} {config : Config}
    (h : createTimelockCellTx crates node args config = .ok tx) :
    ∃ codeHash req, ∃ pubkey commitment : Bytes, node.buildUnlocked req = .ok tx ∧
      pubkey.length = 33 ∧ commitment.length = 32 ∧
      req.outputs = [(lockedOutput codeHash (pubkey ++ commitment) 70464, [])] := by
  simp only [createTimelockCellTx, bind_eq_ok_iff] at h
  obtain ⟨⟨codeCell, lockArgs⟩, hargs, _, -, hgen⟩ := h
  obtain ⟨pubkey, commitment, hpub, hcom, rfl⟩ := timelockArgs_eq_ok hargs
  obtain ⟨codeHash, req, hbuild, hout⟩ := createLockedCellGenericTx_eq_ok hgen
  exact ⟨codeHash, req, pubkey, commitment, hbuild, hpub, hcom, hout⟩

end DeployScript

end CkbScripts
