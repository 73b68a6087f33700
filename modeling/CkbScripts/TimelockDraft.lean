import CkbScripts.LockFlow

/-!
# What the timelock signature covers

`spend_timelock_lock` needs the hash of the transaction before it can sign, and the signature before
it can submit. It builds a draft, signs the hash of that, and has `spend_locked_cell` build the
transaction over again. Both builds balance, each against the cells that are live at its moment, and
nothing carries the balanced transaction from one to the other.

`spendTimelockLockTx_eq` takes the command apart at the signature. Everything before it is a
function of the node at the first moment, everything after it of the node at the second. The node is
the same but for the cells the indexer shows it, so the question is about two views: the signature
covers the transaction exactly when the balancer takes the same cells from both. The only other
thing that could differ is the dep of the payer's lock, because the two builds register the code
cell under different script ids; a lock that is not of hash type `Data` is never looked up there.

## Main definitions

* `Spend.SignedDraft`, `Spend.signedDraft`: the command up to its signature
* `Node.seeing`, `Collects`: a builder that picks its inputs from the live cells
* `Spend.payingCells`, `Spend.FoundAlike`: what the two builds have to agree in
* `Spend.SignatureCovers`

## Main results

* `Spend.spendTimelockLockTx_eq`
* `Spend.foundAlike_of_ne_data`: for other payers the two registrations make no difference
* `Spend.rawTransaction_eq_iff`: when two builds from two views agree
* `Spend.signatureCovers_iff`
-/

namespace CkbScripts

open DeployScript Outcome

/-! ### Two views of the live cells -/

/-- A node whose builder sees these cells. -/
def Node.seeing (node : Node)
    (build : List LiveCell → BuildRequest → Except String Transaction) (live : List LiveCell) :
    Node :=
  { node with buildUnlocked := build live }

/-- How a builder uses what it sees, for requests without type scripts. It collects cells for the
outputs and the balancer of a request, and everything else in the transaction follows from these,
the request and the deps. There is one dep then, and whichever it is, it takes up the same room in
the transaction, so that neither the fee nor the number of cells depends on it. -/
structure Collects (build : List LiveCell → BuildRequest → Except String Transaction)
    (collect : List (CellOutput × Bytes) → CapacityBalancer → List LiveCell → List LiveCell) :
    Prop where
  /-- Only cells that it sees. -/
  subset : ∀ outputs balancer live, collect outputs balancer live ⊆ live
  /-- They are the inputs, in the order they were collected. -/
  inputs_eq : ∀ {live req tx}, build live req = .ok tx →
    (∀ o ∈ req.outputs, o.1.type_ = none) →
      tx.inputs = (collect req.outputs req.balancer live).map fun c => .new c.outPoint
  /-- Outputs without type scripts add no deps, so what is left is the dep of the payer's lock. -/
  cellDeps_eq : ∀ {live req tx}, build live req = .ok tx →
    (∀ o ∈ req.outputs, o.1.type_ = none) →
      tx.cellDeps = (req.cellDepResolver.get req.balancer.capacityProvider).toList
  /-- The change is what the collected cells have too much, and no header deps are added. -/
  rest_eq : ∀ {live live' req req' tx tx'}, build live req = .ok tx → build live' req' = .ok tx' →
    (∀ o ∈ req.outputs, o.1.type_ = none) → req.outputs = req'.outputs →
    req.balancer = req'.balancer → req.unlockers = req'.unlockers →
    collect req.outputs req.balancer live = collect req.outputs req.balancer live' →
    tx.cellDeps = tx'.cellDeps →
      tx.version = tx'.version ∧ tx.headerDeps = tx'.headerDeps ∧ tx.outputs = tx'.outputs ∧
        tx.outputsData = tx'.outputsData

/-- Two lists of cells with the same out points are the same, when an out point stands for one cell
only. -/
theorem eq_of_map_outPoint_eq {l l' live live' : List LiveCell}
    (honce : ∀ c ∈ live, ∀ c' ∈ live', c.outPoint = c'.outPoint → c = c') (hl : l ⊆ live)
    (hl' : l' ⊆ live') (h : l.map LiveCell.outPoint = l'.map LiveCell.outPoint) : l = l' := by
  have hlen : l.length = l'.length := by simpa using congrArg List.length h
  refine List.ext_getElem hlen fun i hi hi' => ?_
  refine honce _ (hl (List.getElem_mem hi)) _ (hl' (List.getElem_mem hi')) ?_
  simpa [hi, hi'] using congrArg (·[i]?) h

namespace Spend

/-! ### What the two builds have to agree in -/

/-- The cells that pay for the one output of a spend. -/
def payingCells
    (collect : List (CellOutput × Bytes) → CapacityBalancer → List LiveCell → List LiveCell)
    (payer : Script) (live : List LiveCell) : List LiveCell :=
  collect [(spendOutput payer, [])] (.newSimple payer) live

/-- The draft registers the code cell for a lock whose args are a key hash, the spend for a lock
without args. Either way the payer's lock finds the same dep. -/
def FoundAlike (crates : Crates) (genesis : CellDepResolver) (payer : Script)
    (codeCellOutpoint : OutPoint) (codeHash lockArgsHash : Byte32) : Prop :=
  (lockResolver crates genesis ⟨codeHash, .data1, lockArgsHash.toList⟩ codeCellOutpoint
    "timelock-lock").get payer =
  (lockResolver crates genesis ⟨codeHash, .data1, []⟩ codeCellOutpoint "locked-script").get payer

/-- What is registered has hash type `Data`, so other locks do not find it. -/
theorem foundAlike_of_ne_data (crates : Crates) (genesis : CellDepResolver) {payer : Script}
    (hpayer : payer.hashType ≠ .data) (codeCellOutpoint : OutPoint)
    (codeHash lockArgsHash : Byte32) :
    FoundAlike crates genesis payer codeCellOutpoint codeHash lockArgsHash := by
  have hne (id : Byte32) : (⟨payer.codeHash, payer.hashType⟩ : ScriptId) ≠ ScriptId.newData id := by
    simp [ScriptId.newData, hpayer]
  rw [FoundAlike, lockResolver, lockResolver, CellDepResolver.get_insert,
    CellDepResolver.get_insert, if_neg (hne _), if_neg (hne _)]

/-- **Two builds from two views.** Requests for the one output of the same payer are answered with
the same inputs, outputs and deps exactly when the same cells are collected and the payer's lock
finds the same dep. -/
theorem rawTransaction_eq_iff
    {build : List LiveCell → BuildRequest → Except String Transaction}
    {collect : List (CellOutput × Bytes) → CapacityBalancer → List LiveCell → List LiveCell}
    (hcollects : Collects build collect) {live live' : List LiveCell}
    (honce : ∀ c ∈ live, ∀ c' ∈ live', c.outPoint = c'.outPoint → c = c') {payer : Script}
    {resolver resolver' : CellDepResolver} {key : SecretKey} {tx tx' : Transaction}
    (hbuild : build live (balanceRequest payer resolver key) = .ok tx)
    (hbuild' : build live' (balanceRequest payer resolver' key) = .ok tx') :
    tx.toRawTransaction = tx'.toRawTransaction ↔
      payingCells collect payer live = payingCells collect payer live' ∧
        resolver.get payer = resolver'.get payer := by
  have huntyped (r : CellDepResolver) :
      ∀ o ∈ (balanceRequest payer r key).outputs, o.1.type_ = none :=
    List.forall_mem_singleton.mpr rfl
  have hdeps : tx.cellDeps = (resolver.get payer).toList :=
    hcollects.cellDeps_eq hbuild (huntyped resolver)
  have hdeps' : tx'.cellDeps = (resolver'.get payer).toList :=
    hcollects.cellDeps_eq hbuild' (huntyped resolver')
  have hinputs := hcollects.inputs_eq hbuild (huntyped resolver)
  have hinputs' := hcollects.inputs_eq hbuild' (huntyped resolver')
  constructor
  · intro hraw
    have hcells := hinputs.symm.trans ((congrArg RawTransaction.inputs hraw).trans hinputs')
    have houtPoints := congrArg (List.map CellInput.previousOutput) hcells
    rw [List.map_map, List.map_map] at houtPoints
    have hget := hdeps.symm.trans ((congrArg RawTransaction.cellDeps hraw).trans hdeps')
    exact ⟨eq_of_map_outPoint_eq honce (hcollects.subset _ _ _) (hcollects.subset _ _ _) houtPoints,
      by simpa using congrArg List.head? hget⟩
  · rintro ⟨hcells, hget⟩
    have hcellDeps : tx.cellDeps = tx'.cellDeps := by rw [hdeps, hdeps', hget]
    obtain ⟨hversion, hheaders, houtputs, hdata⟩ :=
      hcollects.rest_eq hbuild hbuild' (huntyped resolver) rfl rfl rfl hcells hcellDeps
    have hsame : tx.inputs = tx'.inputs :=
      hinputs.trans ((congrArg (List.map fun c => CellInput.new c.outPoint) hcells).trans
        hinputs'.symm)
    obtain ⟨⟨_, _, _, _, _, _⟩, _⟩ := tx
    obtain ⟨⟨_, _, _, _, _, _⟩, _⟩ := tx'
    exact RawTransaction.mk.injEq .. |>.mpr
      ⟨hversion, hcellDeps, hheaders, hsame, houtputs, hdata⟩

/-! ### The command at its signature -/

/-- What `spend_timelock_lock` has when it signs. -/
structure SignedDraft where
  config : Config
  codeCellOutpoint : OutPoint
  lockedCellOutpoint : OutPoint
  unlockAfterMs : U64
  extra : Bytes
  signingKey : SecretKey
  /-- What the draft asked the balancer. -/
  request : BuildRequest
  /-- The transaction whose hash is signed. -/
  tx : Transaction
  deriving DecidableEq

/-- The bytes the signature is made over. -/
def SignedDraft.hash (d : SignedDraft) (crates : Crates) : Byte32 :=
  crates.txHash d.tx.toRawTransaction

/-- The signed wire bytes. -/
def SignedDraft.signedWire (d : SignedDraft) (crates : Crates) : Bytes :=
  encodeTimelockWitness (signTxHash crates d.signingKey (d.hash crates)) d.unlockAfterMs d.extra

/-- The command up to its signature. -/
def signedDraft (crates : Crates) (process : Process) (draft : Node) (args : List String) :
    Except Failure SignedDraft := do
  let config ← Config.fromEnv crates process
  match args with
  | codeCell :: signingKeyHex :: unlockArg :: extraHex :: idlPath :: lockedCell :: _ => do
    let bytesCode ← txHashArg crates codeCell
    let codeCellOutpoint : OutPoint := ⟨bytesCode, 0⟩
    let bytesLocked ← txHashArg crates lockedCell
    let lockedCellOutpoint : OutPoint := ⟨bytesLocked, 0⟩
    let unlockAfterMs ← okOr (parseU64 unlockArg) (.error "unlock_after_ms must be a u64")
    let extra ← extraArg crates extraHex
    let signingKey ← signingKeyArg crates signingKeyHex
    let (codeHash, codeCellData) ← fetchCodeCellData crates draft codeCellOutpoint
    let wireUnsigned := encodeTimelockWitness (zeros 65) unlockAfterMs extra
    let _ ← verifyAndValidate crates process codeHash codeCellData idlPath wireUnsigned
    let lockArgsHash := crates.blake2b256 (crates.publicKey signingKey).toList
    let request ← draftRequest crates draft config codeCellOutpoint codeHash lockArgsHash
    let balanced ← orError (draft.buildUnlocked request)
    let tx := injectLocked balanced lockedCellOutpoint wireUnsigned ⟨codeCellOutpoint, .code⟩ []
    return { config, codeCellOutpoint, lockedCellOutpoint, unlockAfterMs, extra, signingKey,
             request, tx }
  | _ => .error missingArg

/-- **The command is the draft, and then a spend with the signature.** The draft's transaction goes
no further than its hash. -/
theorem spendTimelockLockTx_eq (crates : Crates) (process : Process) (draft submit : Node)
    (args : List String) :
    spendTimelockLockTx crates process draft submit args = (do
      let d ← signedDraft crates process draft args
      spendLockedCellTx crates submit d.config.address d.config.privateKeyBytes d.codeCellOutpoint
        d.lockedCellOutpoint (d.signedWire crates) []) := by
  simp only [spendTimelockLockTx, timelockSpend, signedDraft, bind_assoc]
  congr 1
  funext config
  rcases args with _ | ⟨_, _ | ⟨_, _ | ⟨_, _ | ⟨_, _ | ⟨_, _ | ⟨_, _⟩⟩⟩⟩⟩⟩
  -- with fewer than six arguments both sides stop here
  iterate 6 rfl
  simp only [draftTx, bind_assoc, pure_bind]
  rfl

/-- The draft is what the balancer answered, with the locked cell in front. -/
theorem signedDraft_eq_ok {crates : Crates} {process : Process} {draft : Node} {args : List String}
    {d : SignedDraft} (h : signedDraft crates process draft args = .ok d) :
    ∃ codeHash codeCellData balanced wire,
      fetchCodeCellData crates draft d.codeCellOutpoint = .ok (codeHash, codeCellData) ∧
      draftRequest crates draft d.config d.codeCellOutpoint codeHash
        (crates.blake2b256 (crates.publicKey d.signingKey).toList) = .ok d.request ∧
      draft.buildUnlocked d.request = .ok balanced ∧
      d.tx = injectLocked balanced d.lockedCellOutpoint wire ⟨d.codeCellOutpoint, .code⟩ [] := by
  match args, h with
  | _ :: _ :: _ :: _ :: _ :: _ :: _, h =>
    simp only [signedDraft, bind_eq_ok_iff, orError_eq_ok_iff, pure_eq_ok, Except.ok.injEq] at h
    obtain ⟨_, -, _, -, _, -, _, -, _, -, _, -, ⟨codeHash, codeCellData⟩, hfetch, _, -, request,
      hrequest, balanced, hbuild, rfl⟩ := h
    exact ⟨codeHash, codeCellData, balanced, _, hfetch, hrequest, hbuild, rfl⟩
  | [], h | [_], h | [_, _], h | [_, _, _], h | [_, _, _, _], h | [_, _, _, _, _], h =>
    simp only [signedDraft, bind_eq_ok_iff, reduceCtorEq, and_false, exists_false] at h

/-! ### When the signature covers what is submitted -/

/-- The hash that was signed is the hash of the transaction that is submitted. -/
def SignatureCovers (crates : Crates) (d : SignedDraft) (tx : Transaction) : Prop :=
  d.hash crates = crates.txHash tx.toRawTransaction

/-- Putting the same locked cell in front of two transactions, with whatever witnesses, gives the
same hashed part exactly when they had the same. -/
theorem injectLocked_raw_eq_iff {balanced balanced' : Transaction} {lockedCellOutpoint : OutPoint}
    {wire wire' : Bytes} {dep : CellDep} {deps : List CellDep} :
    (injectLocked balanced lockedCellOutpoint wire dep deps).toRawTransaction =
        (injectLocked balanced' lockedCellOutpoint wire' dep deps).toRawTransaction ↔
      balanced.toRawTransaction = balanced'.toRawTransaction := by
  obtain ⟨⟨version, cellDeps, headerDeps, inputs, outputs, outputsData⟩, witnesses⟩ := balanced
  obtain ⟨⟨version', cellDeps', headerDeps', inputs', outputs', outputsData'⟩, witnesses'⟩ :=
    balanced'
  simp [injectLocked]

/-- **When the signature covers the transaction.** Exactly when the balancer takes the same cells
from the two views, and the payer's lock finds the same dep. `honce` says that an out point stands
for one cell at both moments, `hcollision` that the two transactions at hand, if they differ, have
different hashes. -/
theorem signatureCovers_iff (crates : Crates) (process : Process) (node : Node)
    (build : List LiveCell → BuildRequest → Except String Transaction)
    (collect : List (CellOutput × Bytes) → CapacityBalancer → List LiveCell → List LiveCell)
    (hcollects : Collects build collect) (hunlock : node.UnlockKeepsRaw)
    (live live' : List LiveCell)
    (honce : ∀ c ∈ live, ∀ c' ∈ live', c.outPoint = c'.outPoint → c = c') (args : List String)
    (d : SignedDraft) (tx : Transaction) (payer : Script) (genesis : CellDepResolver)
    (codeHash : Byte32) (codeCellData : Bytes)
    (hdraft : signedDraft crates process (node.seeing build live) args = .ok d)
    (hrun : spendTimelockLockTx crates process (node.seeing build live) (node.seeing build live')
      args = .ok tx)
    (hpayer : crates.addressLock d.config.address = .ok payer)
    (hgenesis : genesisCellDeps crates node = .ok genesis)
    (hcode : fetchCodeCellData crates node d.codeCellOutpoint = .ok (codeHash, codeCellData))
    (hcollision : crates.txHash d.tx.toRawTransaction = crates.txHash tx.toRawTransaction →
      d.tx.toRawTransaction = tx.toRawTransaction) :
    SignatureCovers crates d tx ↔
      payingCells collect payer live = payingCells collect payer live' ∧
        FoundAlike crates genesis payer d.codeCellOutpoint codeHash
          (crates.blake2b256 (crates.publicKey d.signingKey).toList) := by
  rw [spendTimelockLockTx_eq, hdraft, ok_bind] at hrun
  -- the first build
  obtain ⟨codeHash₁, _, balanced, wire, hcode₁, hreq, hbuild, hd⟩ := signedDraft_eq_ok hdraft
  obtain ⟨rfl, -⟩ := Prod.mk.inj (ok_unique hcode hcode₁)
  obtain ⟨payer₁, genesis₁, key, hpayer₁, hgenesis₁, hkey, hrequest⟩ :=
    draftRequest_eq_ok_iff.mp hreq
  obtain rfl : payer = payer₁ := ok_unique hpayer hpayer₁
  obtain rfl : genesis = genesis₁ := ok_unique hgenesis hgenesis₁
  -- the second
  obtain ⟨balanced', unlockers, hbal, hsigned⟩ := spendLockedCellTx_eq_ok hrun
  simp only [balanceSpend, bind_eq_ok_iff, orError_eq_ok_iff] at hbal
  obtain ⟨_, hreq', hbuild'⟩ := hbal
  obtain ⟨payer₂, codeHash₂, _, genesis₂, key₂, hpayer₂, hcode₂, hgenesis₂, hkey₂, rfl⟩ :=
    spendRequest_eq_ok_iff.mp hreq'
  obtain rfl : payer = payer₂ := ok_unique hpayer hpayer₂
  obtain ⟨rfl, -⟩ := Prod.mk.inj (ok_unique hcode hcode₂)
  obtain rfl : genesis = genesis₂ := ok_unique hgenesis hgenesis₂
  obtain rfl : key = key₂ := ok_unique hkey hkey₂
  have hraw : tx.toRawTransaction =
      (injectLocked balanced' d.lockedCellOutpoint (d.signedWire crates)
        ⟨d.codeCellOutpoint, .code⟩ []).toRawTransaction := hunlock hsigned
  have hcovers : SignatureCovers crates d tx ↔ d.tx.toRawTransaction = tx.toRawTransaction :=
    ⟨hcollision, fun h => congrArg crates.txHash h⟩
  rw [← hrequest] at hbuild
  rw [hcovers, hraw, hd, injectLocked_raw_eq_iff]
  exact rawTransaction_eq_iff hcollects honce hbuild hbuild'

/-! ### A cell that is gone at the second moment

The sample wallet pays the draft with one cell; by the time the transaction is built again, that
cell has been spent and another one of the same capacity is there. -/

/-- The first live cell that holds capacity under the payer's lock and nothing else. -/
def firstPlain (payer : Script) (live : List LiveCell) : Option LiveCell :=
  live.find? fun c => c.lock = payer ∧ c.type_ = none ∧ c.data = []

/-- A wallet that pays with the first plain cell it sees. -/
def buildFrom (w : Wallet) (live : List LiveCell) (req : BuildRequest) :
    Except String Transaction := do
  let c ← okOr (firstPlain req.balancer.capacityProvider live) "no live cell"
  { w with outPoint := c.outPoint, capacity := c.output.capacity }.build req

/-- The cells it collects: one, or none. -/
def collectFirst (_ : List (CellOutput × Bytes)) (balancer : CapacityBalancer)
    (live : List LiveCell) : List LiveCell :=
  (firstPlain balancer.capacityProvider live).toList

theorem buildFrom_eq_ok {w : Wallet} {live : List LiveCell} {req : BuildRequest} {tx : Transaction}
    (h : buildFrom w live req = .ok tx) :
    ∃ c, firstPlain req.balancer.capacityProvider live = some c ∧
      { w with outPoint := c.outPoint, capacity := c.output.capacity }.build req = .ok tx := by
  simpa only [buildFrom, bind_eq_ok_iff, okOr_eq_ok_iff] using h

theorem collects_buildFrom (w : Wallet) : Collects (buildFrom w) collectFirst where
  subset outputs balancer live := by
    intro c hc
    exact List.mem_of_find?_eq_some (Option.mem_toList.mp hc)
  inputs_eq := by
    intro live req tx hbuild _
    obtain ⟨c, hc, hbuild⟩ := buildFrom_eq_ok hbuild
    obtain ⟨cellDeps, -, -, -, rfl⟩ := Wallet.build_eq_ok_iff.mp hbuild
    rw [collectFirst, hc]
    rfl
  cellDeps_eq := by
    intro live req tx hbuild huntyped
    obtain ⟨c, -, hbuild⟩ := buildFrom_eq_ok hbuild
    obtain ⟨cellDeps, hdeps, -, -, rfl⟩ := Wallet.build_eq_ok_iff.mp hbuild
    obtain ⟨types, payer, htypes, hpayer, rfl⟩ := Wallet.deps_eq_some_iff.mp hdeps
    have hnone : (req.outputs.filterMap fun o => o.1.type_) = [] :=
      List.filterMap_eq_nil_iff.mpr huntyped
    rw [hnone, List.forall₂_nil_left_iff] at htypes
    rw [hpayer, htypes]
    rfl
  rest_eq := by
    rintro live live' ⟨outputs, resolver, balancer, unlockers⟩ ⟨_, resolver', _, _⟩ tx tx' hbuild
      hbuild' _ rfl rfl rfl hcells hdeps
    obtain ⟨c, hc, hbuild⟩ := buildFrom_eq_ok hbuild
    obtain ⟨c', hc', hbuild'⟩ := buildFrom_eq_ok hbuild'
    obtain rfl : c = c' := by
      simpa [collectFirst, hc, hc'] using hcells
    obtain ⟨cellDeps, -, -, -, rfl⟩ := Wallet.build_eq_ok_iff.mp hbuild
    obtain ⟨cellDeps', -, -, -, rfl⟩ := Wallet.build_eq_ok_iff.mp hbuild'
    obtain rfl : cellDeps = cellDeps' := hdeps
    exact ⟨rfl, rfl, rfl, rfl⟩

/-- What the indexer shows at the first moment: one cell of the wallet. -/
def sampleView : List LiveCell := [⟨timelockWallet.cell, ⟨Byte32.ofNat 5, 0⟩⟩]

/-- What it shows at the second, with the same capacity at another out point. -/
def movedView : List LiveCell := [⟨timelockWallet.cell, ⟨Byte32.ofNat 9, 0⟩⟩]

/-- The node at a moment. -/
def nodeSeeing (live : List LiveCell) : Node :=
  timelockWallet.node.seeing (buildFrom timelockWallet) live

/-- What is submitted after the second: the cell from there pays, and the witness in front carries
the signature that was made before. -/
def movedSpend : Transaction :=
  injectLocked { sampleBalanced with inputs := [.new ⟨Byte32.ofNat 9, 0⟩] } sampleLockedOutPoint
    sampleTimelockWire ⟨sampleCodeOutPoint, .code⟩ []

/-- The crates of the instance: the hashes of the draft and of `movedSpend`. -/
def movedCrates : Crates :=
  { timelockCrates with
    txHash := fun raw =>
      if raw = movedSpend.toRawTransaction then
        Byte32.ofNat 0x6913711450e7e96f2b49415a90e800ce76b18a90f2f76f5a5ea0dbb09ade6780
      else Byte32.ofNat sampleTxHash }

/-- The arguments of `spend-timelock-lock`, which are the same for both builds. -/
def sampleSpendArgs : List String :=
  [sampleCodeHex, sampleKeyHex, "1000000", "", "timelock-lock-idl.deployed.json", sampleLockedHex]

/-- What has been signed: a transaction that the cell of the first moment pays for. -/
def sampleDraft : SignedDraft where
  config := sampleConfig
  codeCellOutpoint := sampleCodeOutPoint
  lockedCellOutpoint := sampleLockedOutPoint
  unlockAfterMs := 1000000
  extra := []
  signingKey := ⟨sampleKey⟩
  request := balanceRequest sampleLock (lockResolver timelockCrates sampleGenesis
    ⟨sampleCodeHash, .data1, samplePublicKeyHash.toList⟩ sampleCodeOutPoint "timelock-lock")
    ⟨sampleKey⟩
  tx := injectLocked sampleBalanced sampleLockedOutPoint
    (encodeTimelockWitness (zeros 65) 1000000 []) ⟨sampleCodeOutPoint, .code⟩ []

theorem signedDraft_sample : signedDraft movedCrates sampleProcess (nodeSeeing sampleView)
    sampleSpendArgs = .ok sampleDraft := by
  decide +kernel

theorem spendTimelockLockTx_moved : spendTimelockLockTx movedCrates sampleProcess
    (nodeSeeing sampleView) (nodeSeeing movedView) sampleSpendArgs = .ok movedSpend := by
  decide +kernel

theorem not_signatureCovers_moved :
    signedDraft movedCrates sampleProcess (nodeSeeing sampleView) sampleSpendArgs =
      .ok sampleDraft ∧
    spendTimelockLockTx movedCrates sampleProcess (nodeSeeing sampleView) (nodeSeeing movedView)
      sampleSpendArgs = .ok movedSpend ∧
    ¬ SignatureCovers movedCrates sampleDraft movedSpend := by
  refine ⟨signedDraft_sample, spendTimelockLockTx_moved, fun hcovers => ?_⟩
  have hne : sampleDraft.hash movedCrates ≠ movedCrates.txHash movedSpend.toRawTransaction := by
    decide +kernel
  exact hne hcovers

theorem spendTimelockLockTx_quiet : spendTimelockLockTx movedCrates sampleProcess
    (nodeSeeing sampleView) (nodeSeeing sampleView) sampleSpendArgs = .ok sampleTimelockSpend := by
  decide +kernel

/-- With nothing moved in between, the same draft and what is submitted agree. -/
theorem signatureCovers_iff_quiet :
    SignatureCovers movedCrates sampleDraft sampleTimelockSpend :=
  (signatureCovers_iff movedCrates sampleProcess timelockWallet.node (buildFrom timelockWallet)
    collectFirst (collects_buildFrom timelockWallet) Wallet.unlockKeepsRaw sampleView sampleView
    (by decide) sampleSpendArgs sampleDraft sampleTimelockSpend sampleLock sampleGenesis
    sampleCodeHash sampleCode signedDraft_sample spendTimelockLockTx_quiet (by decide) (by decide)
    (by decide) (fun _ => by decide +kernel)).mpr
      ⟨rfl, foundAlike_of_ne_data _ _ (by decide) _ _ _⟩

end Spend

end CkbScripts
