import CkbScripts.DeployScript
import CkbScripts.Wire

/-!
# Spending locked cells: the deployer's second half

`spend.rs`. A spend is made in three steps: balance a transaction of fee-payer cells (A), put the
locked cell in front of its inputs (B), sign the fee-payer inputs again (C). Balancing is not
repeated after B.

`timelockSpend` needs a signature over the transaction hash before it can write the witness,
so it builds a draft and signs the hash of that, and `spendLockedCellTx` then builds the transaction
from new queries. The two builds ask the node at different moments, hence its two `Node` arguments.

## Main definitions

* `Spend.spendRequest`, `Spend.balanceSpend`, `Spend.injectLocked`, `Spend.spendLockedCellTx`
* `Spend.simpleLockSpend`, `Spend.timelockSpend`: the two commands up to `spend_locked_cell`
* `Spend.spendSimpleLockTx`, `Spend.spendTimelockLockTx`

## Main results

* `Spend.spendLockedCellTx_eq_ok`: what is known of a submitted spend
* `Spend.simpleLockSpend_eq_ok`, `Spend.timelockSpend_eq_ok`: which cell is spent, and with which
  witness
-/

namespace CkbScripts

namespace Spend

open DeployScript Outcome

/-! ### `spend_locked_cell` -/

/-- "Return capacity to the spender". -/
def spendOutput (spenderLock : Script) : CellOutput := ⟨ckb 61, spenderLock, none⟩

/-- The request of step A. -/
def balanceRequest (spenderLock : Script) (resolver : CellDepResolver) (key : SecretKey) :
    BuildRequest where
  outputs := [(spendOutput spenderLock, [])]
  cellDepResolver := resolver
  balancer := .newSimple spenderLock
  unlockers := sighashUnlockers key

/-- What step A asks for. The code cell is registered for a lock without args. -/
def spendRequest (crates : Crates) (node : Node) (spenderAddress : String)
    (spenderKey : ByteVec 32) (codeCellOutpoint : OutPoint) : Except Failure BuildRequest := do
  let spenderLock ← orErrorWith "invalid spender address" (crates.addressLock spenderAddress)
  let (codeHash, _) ← fetchCodeCellData crates node codeCellOutpoint
  let genesis ← genesisCellDeps crates node
  let placeholderScript : Script := ⟨codeHash, .data1, []⟩
  let resolver := lockResolver crates genesis placeholderScript codeCellOutpoint "locked-script"
  let key ← orError (crates.secretKey spenderKey)
  return balanceRequest spenderLock resolver key

/-- Step A: a balanced transaction of fee-payer cells. -/
def balanceSpend (crates : Crates) (node : Node) (spenderAddress : String)
    (spenderKey : ByteVec 32) (codeCellOutpoint : OutPoint) : Except Failure Transaction := do
  let req ← spendRequest crates node spenderAddress spenderKey codeCellOutpoint
  orError (node.buildUnlocked req)

/-- Step B: the locked cell becomes input `0`, with its witness; the fee-payer inputs move up. -/
def injectLocked (balanced : Transaction) (lockedCellOutpoint : OutPoint) (witnessBytes : Bytes)
    (codeCellDep : CellDep) (extraCellDeps : List CellDep) : Transaction :=
  { balanced with
    inputs := .new lockedCellOutpoint :: balanced.inputs
    witnesses := .args (.ofLock witnessBytes) :: balanced.witnesses
    cellDeps := balanced.cellDeps ++ codeCellDep :: extraCellDeps }

/-- The transaction `spend_locked_cell` submits. -/
def spendLockedCellTx (crates : Crates) (node : Node) (spenderAddress : String)
    (spenderKey : ByteVec 32) (codeCellOutpoint lockedCellOutpoint : OutPoint)
    (witnessBytes : Bytes) (extraCellDeps : List CellDep) : Except Failure Transaction := do
  let balanced ← balanceSpend crates node spenderAddress spenderKey codeCellOutpoint
  let unsigned := injectLocked balanced lockedCellOutpoint witnessBytes ⟨codeCellOutpoint, .code⟩
    extraCellDeps
  -- step C
  let key ← orError (crates.secretKey spenderKey)
  orError (node.unlockTx unsigned (sighashUnlockers key))

/-- `spend_locked_cell` -/
def spendLockedCell (crates : Crates) (node : Node) (spenderAddress : String)
    (spenderKey : ByteVec 32) (codeCellOutpoint lockedCellOutpoint : OutPoint)
    (witnessBytes : Bytes) (extraCellDeps : List CellDep) : Except Failure Unit := do
  let tx ← spendLockedCellTx crates node spenderAddress spenderKey codeCellOutpoint
    lockedCellOutpoint witnessBytes extraCellDeps
  let _ ← orError (node.sendTransaction tx)
  return ()

/-! ### `verify_and_validate` -/

def verifyAndValidate (crates : Crates) (process : Process) (codeHash : Byte32)
    (codeCellData : Bytes) (idlPath : String) (wireBytes : Bytes) :
    Except Failure (List ValidatedField) := do
  let idlJsonBytes ←
    orErrorWith ("failed to read IDL file at " ++ idlPath) (process.readFile idlPath)
  orErrorWith "IDL commitment verification failed"
    (crates.idlVerify codeHash idlJsonBytes codeCellData)
  let idlDoc ← orErrorWith "failed to parse IDL JSON" (crates.idlDocument idlJsonBytes)
  orErrorWith "witness validation failed" (crates.validateWitnessBytes idlDoc.witness wireBytes)

/-! ### `spend_simple_lock` -/

/-- What the two commands pass to `spend_locked_cell`, once the witness has been validated. The
address and the key are those of the configuration, and there are no extra deps. -/
structure LockedSpend where
  config : Config
  codeCellOutpoint : OutPoint
  lockedCellOutpoint : OutPoint
  witnessBytes : Bytes

/-- `spend_simple_lock`, up to its call of `spend_locked_cell`. -/
def simpleLockSpend (crates : Crates) (process : Process) (node : Node) (args : List String) :
    Except Failure LockedSpend := do
  let config ← Config.fromEnv crates process
  match args with
  | codeCell :: preimageHex :: idlPath :: lockedCell :: _ => do
    let bytesCode ← txHashArg crates codeCell
    let codeCellOutpoint : OutPoint := ⟨bytesCode, 0⟩
    let bytesLocked ← txHashArg crates lockedCell
    let lockedCellOutpoint : OutPoint := ⟨bytesLocked, 0⟩
    let preimage ← orError (crates.hexDecode preimageHex)
    let (codeHash, codeCellData) ← fetchCodeCellData crates node codeCellOutpoint
    let wire := encodeBytesField preimage
    let _ ← verifyAndValidate crates process codeHash codeCellData idlPath wire
    return ⟨config, codeCellOutpoint, lockedCellOutpoint, wire⟩
  | _ => .error missingArg

/-- The transaction `spend_simple_lock` submits. -/
def spendSimpleLockTx (crates : Crates) (process : Process) (node : Node) (args : List String) :
    Except Failure Transaction := do
  let c ← simpleLockSpend crates process node args
  spendLockedCellTx crates node c.config.address c.config.privateKeyBytes c.codeCellOutpoint
    c.lockedCellOutpoint c.witnessBytes []

/-- `spend_simple_lock` -/
def spendSimpleLock (crates : Crates) (process : Process) (node : Node) (args : List String) :
    Except Failure Unit := do
  let c ← simpleLockSpend crates process node args
  spendLockedCell crates node c.config.address c.config.privateKeyBytes c.codeCellOutpoint
    c.lockedCellOutpoint c.witnessBytes []

/-! ### `spend_timelock_lock` -/

/-- The payload argument: empty, or hex. -/
def extraArg (crates : Crates) (extraHex : String) : Except Failure Bytes :=
  if extraHex = "" then .ok [] else orError (crates.hexDecode extraHex)

/-- The signing key argument. -/
def signingKeyArg (crates : Crates) (signingKeyHex : String) : Except Failure SecretKey := do
  let bytes ← orError (crates.hexDecode (trimHexPrefix signingKeyHex))
  let keyBytes ← okOr (tryInto 32 bytes) (.error "signing key must be 32 bytes")
  orError (crates.secretKey keyBytes)

/-- What the draft asks for. The code cell is registered for a lock whose args are a key hash. -/
def draftRequest (crates : Crates) (node : Node) (config : Config) (codeCellOutpoint : OutPoint)
    (codeHash lockArgsHash : Byte32) : Except Failure BuildRequest := do
  let spenderLock ← orErrorWith "invalid spender address" (crates.addressLock config.address)
  let genesis ← genesisCellDeps crates node
  let placeholderScript : Script := ⟨codeHash, .data1, lockArgsHash.toList⟩
  let resolver := lockResolver crates genesis placeholderScript codeCellOutpoint "timelock-lock"
  let key ← orError (crates.secretKey config.privateKeyBytes)
  return balanceRequest spenderLock resolver key

/-- The transaction whose hash is signed, with a witness that stands in for the real one. -/
def draftTx (crates : Crates) (node : Node) (config : Config)
    (codeCellOutpoint lockedCellOutpoint : OutPoint) (codeHash lockArgsHash : Byte32)
    (tempWire : Bytes) : Except Failure Transaction := do
  let req ← draftRequest crates node config codeCellOutpoint codeHash lockArgsHash
  let balanced ← orError (node.buildUnlocked req)
  return injectLocked balanced lockedCellOutpoint tempWire ⟨codeCellOutpoint, .code⟩ []

/-- The 65 bytes of a recoverable signature over a transaction hash. -/
def signTxHash (crates : Crates) (signingKey : SecretKey) (txHash : Byte32) : ByteVec 65 :=
  let (recId, sigBytes) := crates.signRecoverable signingKey txHash
  ⟨sigBytes.toList ++ [recId], by simp⟩

/-- `spend_timelock_lock`, up to its call of `spend_locked_cell`. The signature is over the hash of
the draft. -/
def timelockSpend (crates : Crates) (process : Process) (draft : Node) (args : List String) :
    Except Failure LockedSpend := do
  let config ← Config.fromEnv crates process
  match args with
  | codeCell :: signingKeyHex :: unlockArg :: extraHex :: idlPath :: lockedCell :: _ => do
    let bytesCode ← txHashArg crates codeCell
    let codeCellOutpoint : OutPoint := ⟨bytesCode, 0⟩
    let bytesLocked ← txHashArg crates lockedCell
    let lockedCellOutpoint : OutPoint := ⟨bytesLocked, 0⟩
    let unlockAfterMs ← okOr (parseU64 unlockArg) (.error "unlock_after_ms must be a u64")
    let extra ← extraArg crates extraHex
    let signingKey ← signingKeyArg crates signingKeyHex
    let (codeHash, codeCellData) ← fetchCodeCellData crates draft codeCellOutpoint
    let wireUnsigned := encodeTimelockWitness (zeros 65) unlockAfterMs extra
    let _ ← verifyAndValidate crates process codeHash codeCellData idlPath wireUnsigned
    let lockArgsHash := crates.blake2b256 (crates.publicKey signingKey).toList
    let draftTx ← draftTx crates draft config codeCellOutpoint lockedCellOutpoint codeHash
      lockArgsHash wireUnsigned
    let signature := signTxHash crates signingKey (crates.txHash draftTx.toRawTransaction)
    let signedWire := encodeTimelockWitness signature unlockAfterMs extra
    return ⟨config, codeCellOutpoint, lockedCellOutpoint, signedWire⟩
  | _ => .error missingArg

/-- The transaction `spend_timelock_lock` submits. `draft` is the node while the transaction that
is signed is built, `submit` the node afterwards. -/
def spendTimelockLockTx (crates : Crates) (process : Process) (draft submit : Node)
    (args : List String) : Except Failure Transaction := do
  let c ← timelockSpend crates process draft args
  -- no extra deps: "header dep would go here if the contract loaded headers"
  spendLockedCellTx crates submit c.config.address c.config.privateKeyBytes c.codeCellOutpoint
    c.lockedCellOutpoint c.witnessBytes []

/-- `spend_timelock_lock` -/
def spendTimelockLock (crates : Crates) (process : Process) (draft submit : Node)
    (args : List String) : Except Failure Unit := do
  let c ← timelockSpend crates process draft args
  spendLockedCell crates submit c.config.address c.config.privateKeyBytes c.codeCellOutpoint
    c.lockedCellOutpoint c.witnessBytes []

/-! ### What is known of a submitted spend -/

variable {crates : Crates} {node : Node} {tx : Transaction}

theorem spendRequest_eq_ok_iff {spenderAddress : String} {spenderKey : ByteVec 32}
    {codeCellOutpoint : OutPoint} {req : BuildRequest} :
    spendRequest crates node spenderAddress spenderKey codeCellOutpoint = .ok req ↔
      ∃ spenderLock codeHash codeCellData genesis key,
        crates.addressLock spenderAddress = .ok spenderLock ∧
        fetchCodeCellData crates node codeCellOutpoint = .ok (codeHash, codeCellData) ∧
        genesisCellDeps crates node = .ok genesis ∧ crates.secretKey spenderKey = .ok key ∧
        balanceRequest spenderLock (lockResolver crates genesis ⟨codeHash, .data1, []⟩
          codeCellOutpoint "locked-script") key = req := by
  simp only [spendRequest, bind_eq_ok_iff, orErrorWith_eq_ok_iff, orError_eq_ok_iff, pure_eq_ok,
    Except.ok.injEq, Prod.exists]
  constructor
  · rintro ⟨lock, hlock, codeHash, data, hfetch, genesis, hgenesis, key, hkey, hreq⟩
    exact ⟨lock, codeHash, data, genesis, key, hlock, hfetch, hgenesis, hkey, hreq⟩
  · rintro ⟨lock, codeHash, data, genesis, key, hlock, hfetch, hgenesis, hkey, hreq⟩
    exact ⟨lock, hlock, codeHash, data, hfetch, genesis, hgenesis, key, hkey, hreq⟩

theorem draftRequest_eq_ok_iff {config : Config} {codeCellOutpoint : OutPoint}
    {codeHash lockArgsHash : Byte32} {req : BuildRequest} :
    draftRequest crates node config codeCellOutpoint codeHash lockArgsHash = .ok req ↔
      ∃ spenderLock genesis key, crates.addressLock config.address = .ok spenderLock ∧
        genesisCellDeps crates node = .ok genesis ∧
        crates.secretKey config.privateKeyBytes = .ok key ∧
        balanceRequest spenderLock (lockResolver crates genesis
          ⟨codeHash, .data1, lockArgsHash.toList⟩ codeCellOutpoint "timelock-lock") key = req := by
  simp only [draftRequest, bind_eq_ok_iff, orErrorWith_eq_ok_iff, orError_eq_ok_iff, pure_eq_ok,
    Except.ok.injEq]
  constructor
  · rintro ⟨lock, hlock, genesis, hgenesis, key, hkey, hreq⟩
    exact ⟨lock, genesis, key, hlock, hgenesis, hkey, hreq⟩
  · rintro ⟨lock, genesis, key, hlock, hgenesis, hkey, hreq⟩
    exact ⟨lock, hlock, genesis, hgenesis, key, hkey, hreq⟩

/-- The balanced transaction is the answer to a request for the one output to the spender. -/
theorem balanceSpend_eq_ok {spenderAddress : String} {spenderKey : ByteVec 32}
    {codeCellOutpoint : OutPoint} {balanced : Transaction}
    (h : balanceSpend crates node spenderAddress spenderKey codeCellOutpoint = .ok balanced) :
    ∃ spenderLock resolver key, crates.addressLock spenderAddress = .ok spenderLock ∧
      node.buildUnlocked (balanceRequest spenderLock resolver key) = .ok balanced := by
  simp only [balanceSpend, bind_eq_ok_iff, orError_eq_ok_iff] at h
  obtain ⟨_, hreq, hbuild⟩ := h
  obtain ⟨spenderLock, _, _, _, key, haddr, -, -, -, rfl⟩ := spendRequest_eq_ok_iff.mp hreq
  exact ⟨spenderLock, _, key, haddr, hbuild⟩

/-- **A submitted spend** is what `unlock_tx` made of the balanced transaction with the locked cell
in front. -/
theorem spendLockedCellTx_eq_ok {spenderAddress : String} {spenderKey : ByteVec 32}
    {codeCellOutpoint lockedCellOutpoint : OutPoint} {witnessBytes : Bytes}
    {extraCellDeps : List CellDep}
    (h : spendLockedCellTx crates node spenderAddress spenderKey codeCellOutpoint lockedCellOutpoint
      witnessBytes extraCellDeps = .ok tx) :
    ∃ balanced unlockers,
      balanceSpend crates node spenderAddress spenderKey codeCellOutpoint = .ok balanced ∧
      node.unlockTx (injectLocked balanced lockedCellOutpoint witnessBytes ⟨codeCellOutpoint, .code⟩
        extraCellDeps) unlockers = .ok tx := by
  simp only [spendLockedCellTx, bind_eq_ok_iff, orError_eq_ok_iff] at h
  obtain ⟨balanced, hbal, key, -, hunlock⟩ := h
  exact ⟨balanced, _, hbal, hunlock⟩

/-- The bytes passed the commitment check and the validation, with some IDL, for the code at this
out point. -/
def Validated (crates : Crates) (process : Process) (node : Node) (codeCellOutpoint : OutPoint)
    (wireBytes : Bytes) : Prop :=
  ∃ codeHash codeCellData idlPath fields,
    fetchCodeCellData crates node codeCellOutpoint = .ok (codeHash, codeCellData) ∧
    verifyAndValidate crates process codeHash codeCellData idlPath wireBytes = .ok fields

/-- **What `spend_simple_lock` passes on**: cells that its arguments name, and the preimage of its
arguments, encoded and validated. -/
theorem simpleLockSpend_eq_ok {process : Process} {args : List String} {c : LockedSpend}
    (h : simpleLockSpend crates process node args = .ok c) :
    ∃ preimageHex preimage, Config.fromEnv crates process = .ok c.config ∧
      NamesCell crates args 0 c.codeCellOutpoint ∧ NamesCell crates args 3 c.lockedCellOutpoint ∧
      args[1]? = some preimageHex ∧ crates.hexDecode preimageHex = .ok preimage ∧
      c.witnessBytes = encodeBytesField preimage ∧
      Validated crates process node c.codeCellOutpoint c.witnessBytes := by
  match args, h with
  | codeCell :: preimageHex :: idlPath :: lockedCell :: _, h =>
    simp only [simpleLockSpend, bind_eq_ok_iff, orError_eq_ok_iff, pure_eq_ok, Except.ok.injEq] at h
    obtain ⟨config, hconfig, bytesCode, hcode, bytesLocked, hlocked, preimage, hpreimage,
      ⟨codeHash, codeCellData⟩, hfetch, fields, hvalidate, rfl⟩ := h
    exact ⟨preimageHex, preimage, hconfig, ⟨codeCell, bytesCode, rfl, hcode, rfl⟩,
      ⟨lockedCell, bytesLocked, rfl, hlocked, rfl⟩, rfl, hpreimage, rfl,
      codeHash, codeCellData, idlPath, fields, hfetch, hvalidate⟩
  | [], h | [_], h | [_, _], h | [_, _, _], h =>
    simp only [simpleLockSpend, bind_eq_ok_iff, reduceCtorEq, and_false, exists_false] at h

/-- **What `spend_timelock_lock` passes on**: the same, and the unlock time and the payload of its
arguments behind some signature. What was validated has zeros for the signature. -/
theorem timelockSpend_eq_ok {process : Process} {args : List String} {c : LockedSpend}
    (h : timelockSpend crates process node args = .ok c) :
    ∃ unlockArg extraHex signature unlockAfterMs extra,
      Config.fromEnv crates process = .ok c.config ∧
      NamesCell crates args 0 c.codeCellOutpoint ∧ NamesCell crates args 5 c.lockedCellOutpoint ∧
      (args[2]? = some unlockArg ∧ parseU64 unlockArg = some unlockAfterMs) ∧
      (args[3]? = some extraHex ∧ extraArg crates extraHex = .ok extra) ∧
      c.witnessBytes = encodeTimelockWitness signature unlockAfterMs extra ∧
      Validated crates process node c.codeCellOutpoint
        (encodeTimelockWitness (zeros 65) unlockAfterMs extra) := by
  match args, h with
  | codeCell :: _ :: unlockArg :: extraHex :: idlPath :: lockedCell :: _, h =>
    simp only [timelockSpend, bind_eq_ok_iff, okOr_eq_ok_iff, pure_eq_ok, Except.ok.injEq] at h
    obtain ⟨config, hconfig, bytesCode, hcode, bytesLocked, hlocked, unlockAfterMs, hunlock, extra,
      hextra, signingKey, -, ⟨codeHash, codeCellData⟩, hfetch, fields, hvalidate, draftTx, -,
      rfl⟩ := h
    exact ⟨unlockArg, extraHex, _, unlockAfterMs, extra, hconfig,
      ⟨codeCell, bytesCode, rfl, hcode, rfl⟩, ⟨lockedCell, bytesLocked, rfl, hlocked, rfl⟩,
      ⟨rfl, hunlock⟩, ⟨rfl, hextra⟩, rfl,
      codeHash, codeCellData, idlPath, fields, hfetch, hvalidate⟩
  | [], h | [_], h | [_, _], h | [_, _, _], h | [_, _, _, _], h | [_, _, _, _, _], h =>
    simp only [timelockSpend, bind_eq_ok_iff, reduceCtorEq, and_false, exists_false] at h

/-- Both commands are the transaction and its submission. -/
theorem spendSimpleLock_eq (process : Process) (args : List String) :
    spendSimpleLock crates process node args = (do
      let tx ← spendSimpleLockTx crates process node args
      let _ ← orError (node.sendTransaction tx)
      return ()) := by
  simp only [spendSimpleLock, spendSimpleLockTx, spendLockedCell, bind_assoc]

theorem spendTimelockLock_eq (process : Process) (draft submit : Node) (args : List String) :
    spendTimelockLock crates process draft submit args = (do
      let tx ← spendTimelockLockTx crates process draft submit args
      let _ ← orError (submit.sendTransaction tx)
      return ()) := by
  simp only [spendTimelockLock, spendTimelockLockTx, spendLockedCell, bind_assoc]

/-- The witness of a simple-lock spend is the encoded preimage, and its code the deployed one. -/
theorem spendSimpleLockTx_eq_ok {process : Process}
    {codeCell preimageHex idlPath lockedCell : String} {rest : List String} {preimage : Bytes}
    {lockedHash : Byte32}
    (hpreimage : crates.hexDecode preimageHex = .ok preimage)
    (hlocked : crates.hexDecode lockedCell = .ok lockedHash.toList)
    (h : spendSimpleLockTx crates process node
      (codeCell :: preimageHex :: idlPath :: lockedCell :: rest) = .ok tx) :
    ∃ address key codeHash, txHashArg crates codeCell = .ok codeHash ∧
      spendLockedCellTx crates node address key ⟨codeHash, 0⟩ ⟨lockedHash, 0⟩
        (encodeBytesField preimage) [] = .ok tx := by
  simp only [spendSimpleLockTx, bind_eq_ok_iff] at h
  obtain ⟨⟨config, codeCellOutpoint, lockedCellOutpoint, wire⟩, hspend, hrun⟩ := h
  obtain ⟨_, _, -, ⟨_, codeHash, ⟨⟩, hcode, rfl⟩, ⟨_, _, ⟨⟩, hlocked', rfl⟩, ⟨⟩, hpreimage', rfl,
    -⟩ := simpleLockSpend_eq_ok hspend
  obtain rfl := ok_unique hpreimage hpreimage'
  obtain rfl := ok_unique (txHashArg_eq_ok hlocked) hlocked'
  exact ⟨config.address, config.privateKeyBytes, codeHash, hcode, hrun⟩

/-- The witness of a timelock spend is the encoding of some signature, of the unlock time that was
asked for and of the payload. -/
theorem spendTimelockLockTx_eq_ok {process : Process} {draft : Node}
    {codeCell signingKeyHex unlockArg extraHex idlPath lockedCell : String} {rest : List String}
    {lockedHash : Byte32} (hlocked : crates.hexDecode lockedCell = .ok lockedHash.toList)
    (h : spendTimelockLockTx crates process draft node
      (codeCell :: signingKeyHex :: unlockArg :: extraHex :: idlPath :: lockedCell :: rest) =
        .ok tx) :
    ∃ address key codeCellOutpoint signature unlockAfterMs extra,
      parseU64 unlockArg = some unlockAfterMs ∧ extraArg crates extraHex = .ok extra ∧
      spendLockedCellTx crates node address key codeCellOutpoint ⟨lockedHash, 0⟩
        (encodeTimelockWitness signature unlockAfterMs extra) [] = .ok tx := by
  simp only [spendTimelockLockTx, bind_eq_ok_iff] at h
  obtain ⟨⟨config, codeCellOutpoint, lockedCellOutpoint, wire⟩, hspend, hrun⟩ := h
  obtain ⟨_, _, signature, unlockAfterMs, extra, -, -, ⟨_, _, ⟨⟩, hlocked', rfl⟩, ⟨⟨⟩, hunlock⟩,
    ⟨⟨⟩, hextra⟩, rfl, -⟩ := timelockSpend_eq_ok hspend
  obtain rfl := ok_unique (txHashArg_eq_ok hlocked) hlocked'
  exact ⟨config.address, config.privateKeyBytes, codeCellOutpoint, signature, unlockAfterMs, extra,
    hunlock, hextra, hrun⟩

end Spend

end CkbScripts
