import CkbScripts.LockLedger
import CkbScripts.Submission
import CkbScripts.SudtMint

/-!
# The deployer among others

A chain sees the transactions of many programs in some order, and those of the deployer are a few of
them. The theorems are about runs of the ledger in which any other transactions occur before,
between and after the deployer's. `Submits` says of a transaction that some run of the deployer,
with any arguments and at any moment, submits it.

Two things the deployer is for, it never does. It has no way to add a header dep, so no transaction
of its own unlocks a timelock cell. And it mints nothing: the dep of the code it has deployed is not
found, so the default command stops after the deployment, and a mint that did get built would not be
in owner mode. Tokens that others have put under the hash lock it burns, because it pays back
nothing but capacity. The third thing, the hash lock of the README, works: deployed, created and
spent by three runs, the cell is unlocked by its preimage and by nothing else.

## Main definitions

* `Deployer.Submits`
* `Deployer.Remembers`: a node that finds what another one took
* `Deployer.SendsOne`: a log that grows by one transaction at most

## Main results

* `Deployer.timelock_cells_stay`
* `Deployer.unlocks_burn`, `Deployer.never_mints`, `Deployer.deploy_sudt_fails`
* `Deployer.simple_lock_session`
-/

namespace CkbScripts

open Effects Exchange Outcome PrefixCodec

namespace Deployer

open DeployScript Spend

/-- Some run of the deployer submits the transaction that the scripts see as `rtx`. -/
def Submits (crates : Crates) (sha256 : Bytes → Byte32) (rtx : ResolvedTx) : Prop :=
  ∃ (env : Env) (chain : ChainView) (argv : List String) (disk : Disk) (tx : Transaction),
    env.Sound chain ∧ tx ∈ (after (main crates sha256 env argv) ⟨disk, []⟩).sent ∧
    chain.resolve crates.toHashing tx = some rtx

variable {P : Programs} {crates : Crates} {sha256 : Bytes → Byte32} {env : Env}
  {argv : List String} {rtx : ResolvedTx} {T : Script}

theorem Submits.shape (h : Submits crates sha256 rtx) :
    ∃ env argv lock, Nonempty (Shape crates env argv lock rtx) := by
  obtain ⟨env, chain, argv, disk, tx, hsound, hsent, hres⟩ := h
  obtain ⟨-, lock, -, -, hshape⟩ :=
    (origin_of_mem_sent hsent).shape hsound (ChainView.resolved hres)
  exact ⟨env, argv, lock, hshape⟩

/-! ### Timelock cells -/

/-- The time lock has no clock in a transaction of the deployer. -/
theorem Shape.not_exit_timelockLock {H : Hashing} {lock : Script}
    (S : Shape crates env argv lock rtx) {script : Script}
    (hlock : P.contract script.id = .timelockLock) :
    P.exit H ⟨rtx, .lock, script⟩ ≠ 0 := by
  intro hexit
  obtain ⟨_, header, -, hheader, -⟩ := (Programs.exit_timelockLock_eq_zero_iff hlock).mp hexit
  simp [Vm.loadHeader, S.headerDeps_eq] at hheader

/-- **The deployer takes no timelock cell off the chain.** Whatever else happens, a timelock cell
that nobody but the deployer tries to spend stays live. -/
theorem timelock_cells_stay (P : Programs) (crates : Crates) (sha256 : Bytes → Byte32)
    (L L' : Sudt.Ledger) (txs : List ResolvedTx)
    (hrun : run (P.applyTx crates.toHashing) L txs = some L') (c : LiveCell) (hc : c ∈ L)
    (hlock : P.contract c.lock.id = .timelockLock)
    (hspent : ∀ tx ∈ txs, c ∈ tx.inputs → Submits crates sha256 tx) : c ∈ L' := by
  by_contra hgone
  obtain ⟨before, tx, after, mid, mid', rfl, -, hstep, hmid, hmid'⟩ :=
    exists_step_of_run (P := (c ∈ ·)) hrun hc hgone
  have hinput := Programs.mem_inputs_of_gone hstep hmid hmid'
  obtain ⟨env, argv, lock, ⟨S⟩⟩ := (hspent tx (by simp) hinput).shape
  have hver := (Programs.applyTx_eq_some_iff.mp hstep).1
  exact S.not_exit_timelockLock hlock ((Programs.verifies_iff.mp hver).1 c hinput)

/-- The sample wallet makes a hash-locked cell, beside a timelock cell. -/
def sampleCreateSeen : ResolvedTx := sampleResolved (sampleCreate samplePreimageHash.toList)

theorem timelock_cells_stay_sample :
    Programs.sampleTimelockLive ∈
      (Programs.sampleTimelockLive ::ₘ (sampleCreateSeen.created : Sudt.Ledger)) :=
  timelock_cells_stay (samplePrograms .timelockLock) sampleRunCrates (fun _ => zeros 32)
    (Programs.sampleTimelockLive ::ₘ (sampleCreateSeen.inputs : Sudt.Ledger)) _ [sampleCreateSeen]
    (by decide) Programs.sampleTimelockLive (by decide) (by decide)
    fun tx htx hc => by
      obtain rfl := List.mem_singleton.mp htx
      exact absurd hc (by decide)

/-! ### Tokens -/

/-- A mint of the deployer does not verify. -/
theorem not_verifies_mint {H : Hashing} {lock : Script} {change : Cell}
    (hver : P.Verifies H rtx) (hT : P.contract T.id = .sudt)
    (huntyped : ∀ c ∈ rtx.inputs, c.type_ = none) (hchange : change.type_ = none) :
    rtx.outputs ≠ (mintOutputs T lock 1000000).map (fun o => ⟨o.1, o.2⟩) ++ [change] := by
  intro hout
  have hmem : T ∈ Sudt.typeScripts rtx := by
    simp [Sudt.typeScripts, hout, mintOutputs, Cell.type_]
  have haccepts := hver.sudt T hmem (by simpa [Programs.isSudt] using hT)
  obtain ⟨-, -, hsum⟩ := (Sudt.accepts_of_untyped_inputs_iff huntyped).mp haccepts
  have hdata : Sudt.requestedData (mintOutputs T lock 1000000) T = [mintData 1000000] := by
    simp [Sudt.requestedData, mintOutputs]
  rw [Sudt.groupOutputData_of_outputs H T hout hchange, hdata] at hsum
  have hzero : (1000000 : U128) = 0 :=
    (Sudt.amountOf_mintData_eq_zero_iff 1000000).mp (by simpa using hsum)
  exact absurd hzero (by decide)

/-- What is asked for is untyped, or a mint. -/
theorem type_of_requested {lock : Script} {requested : List (CellOutput × Bytes)}
    (h : Requested crates env argv lock requested) :
    (∀ o ∈ requested, o.1.type_ = none) ∨ ∃ T, requested = mintOutputs T lock 1000000 := by
  cases h with
  | code capacity data => exact Or.inl (List.forall_mem_singleton.mpr rfl)
  | token codeHash => exact Or.inr ⟨_, rfl⟩
  | locked hasked =>
    obtain ⟨_, _, _, _, _, -, -, -, rfl⟩ := hasked
    exact Or.inl (List.forall_mem_singleton.mpr rfl)

/-- **No output of the deployer's is a token cell**, or the transaction does not verify. -/
theorem Shape.type_ne {H : Hashing} {lock : Script} (S : Shape crates env argv lock rtx)
    (hver : P.Verifies H rtx) (hT : P.contract T.id = .sudt) :
    ∀ o ∈ rtx.outputs, o.type_ ≠ some T := by
  have huntyped : ∀ {o : Cell}, o.type_ = none → o.type_ ≠ some T := fun h => by simp [h]
  refine S.forall_outputs (fun o ho => ?_) (huntyped S.change_plain.type_eq)
  rcases hinjected : S.injected with _ | c
  · rcases type_of_requested (S.requested_of_none hinjected) with hnone | ⟨T', hmint⟩
    · exact huntyped (hnone o ho)
    · rw [hmint] at ho
      obtain rfl := List.mem_singleton.mp ho
      rintro ⟨⟩
      have hinputs : ∀ c ∈ rtx.inputs, c.type_ = none := by
        rw [S.inputs_eq, hinjected]
        exact fun c hc => (S.fee_plain c hc).type_eq
      exact not_verifies_mint hver hT hinputs S.change_plain.type_eq (hmint ▸ S.outputs_eq)
  · exact huntyped (plain_of_returned (S.returned_of_some (by simp [hinjected])) ho).type_eq

theorem Submits.type_ne {H : Hashing} (h : Submits crates sha256 rtx)
    (hver : P.Verifies H rtx) (hT : P.contract T.id = .sudt) {c : LiveCell}
    (hc : c ∈ rtx.created) : c.type_ ≠ some T := by
  obtain ⟨_, _, lock, ⟨S⟩⟩ := h.shape
  refine S.type_ne hver hT c.toCell ?_
  rw [← rtx.created_map_toCell]
  exact List.mem_map_of_mem hc

/-- **The step.** What the inputs of the deployer's hold of a token is gone. -/
theorem supply_of_submits {H : Hashing} {L L' : Sudt.Ledger} (h : Submits crates sha256 rtx)
    (hT : P.contract T.id = .sudt) (hstep : P.applyTx H L rtx = some L') :
    Sudt.supply T L' + total (Sudt.tokenWeight T ∘ LiveCell.toCell) rtx.inputs =
      Sudt.supply T L := by
  obtain ⟨hver, hexchange⟩ := Programs.applyTx_eq_some_iff.mp hstep
  have hzero : total (Sudt.tokenWeight T ∘ LiveCell.toCell) rtx.created = 0 := by
    rw [total_coe]
    refine List.sum_eq_zero fun n hn => ?_
    obtain ⟨c, hc, rfl⟩ := List.mem_map.mp hn
    exact if_neg (h.type_ne hver hT hc)
  have haccount := total_of_exchange (Sudt.tokenWeight T ∘ LiveCell.toCell) hexchange
  rw [Sudt.supply, Sudt.supply]
  omega

theorem supply_le_of_submits_or {H : Hashing} {L L' : Sudt.Ledger}
    (h : Submits crates sha256 rtx ∨ Sudt.NoOwnerInput H T rtx) (hT : P.contract T.id = .sudt)
    (hstep : P.applyTx H L rtx = some L') : Sudt.supply T L' ≤ Sudt.supply T L := by
  rcases h with hsubmits | howner
  · exact Nat.le.intro (supply_of_submits hsubmits hT hstep)
  · exact Sudt.supply_step (by simpa [Programs.isSudt] using hT) howner
      (Programs.sudt_applyTx hstep)

/-- **What the deployer unlocks it burns.** In a run in which nobody but the deployer gets into
owner mode, the supply of a token falls at least by what the cells hold that the deployer spends:
those cells are not paid back in tokens, whatever else the run does. -/
theorem unlocks_burn (P : Programs) (crates : Crates) (sha256 : Bytes → Byte32) (T : Script)
    (hT : P.contract T.id = .sudt) (L L' : Sudt.Ledger) (txs : List ResolvedTx)
    (hrun : run (P.applyTx crates.toHashing) L txs = some L')
    (hothers : ∀ tx ∈ txs, Submits crates sha256 tx ∨ Sudt.NoOwnerInput crates.toHashing T tx)
    (own : List ResolvedTx) (hown : own.Sublist txs)
    (hsubmits : ∀ tx ∈ own, Submits crates sha256 tx) :
    Sudt.supply T L' +
        (own.map fun tx => total (Sudt.tokenWeight T ∘ LiveCell.toCell) tx.inputs).sum ≤
      Sudt.supply T L := by
  induction txs generalizing L own with
  | nil =>
    obtain rfl : L = L' := by simpa using hrun
    obtain rfl := List.sublist_nil.mp hown
    simp
  | cons tx txs ih =>
    obtain ⟨mid, hmid, hrest⟩ := run_cons_eq_some_iff.mp hrun
    obtain ⟨htx, htxs⟩ := List.forall_mem_cons.mp hothers
    cases hown with
    | cons _ hown =>
      exact (ih mid hrest htxs own hown hsubmits).trans (supply_le_of_submits_or htx hT hmid)
    | @cons_cons own' _ _ hown =>
      obtain ⟨hfirst, hlater⟩ := List.forall_mem_cons.mp hsubmits
      have hstep := supply_of_submits hfirst hT hmid
      have hle := ih mid hrest htxs own' hown hlater
      rw [List.map_cons, List.sum_cons]
      omega

/-- A hash-locked cell of the sample wallet with a hundred tokens. -/
def sampleLockedTokens : Cell :=
  ⟨⟨14200000000, sampleLockedCell.lock, some Sudt.token⟩, (Sudt.tokenCell 100).data⟩

/-- The cell where the sample spend expects its locked cell, beside the wallet's own. -/
def sampleTokensChain : ChainView :=
  (sampleWallet 0 []).chain
    (fun o => if o = sampleLockedOutPoint then some sampleLockedTokens else none) fun _ => none

/-- The spend of that cell with the preimage. What it pays back is capacity. -/
def sampleBurnSeen : ResolvedTx :=
  sampleSpendResolved 0 sampleLockedTokens (encodeBytesField samplePreimage)

theorem submits_sampleBurnSeen : Submits sampleRunCrates (fun _ => zeros 32) sampleBurnSeen :=
  ⟨sampleEnv, sampleTokensChain, sampleSpendArgv, fun _ => none, sampleSpend,
    ⟨Wallet.sound (by decide), Wallet.sound (by decide)⟩, sent_sampleSpend, by decide⟩

theorem unlocks_burn_hundred :
    Sudt.supply Sudt.token sampleBurnSeen.created + 100 ≤
      Sudt.supply Sudt.token sampleBurnSeen.inputs := by
  have hsubmits : ∀ tx ∈ [sampleBurnSeen], Submits sampleRunCrates (fun _ => zeros 32) tx :=
    List.forall_mem_singleton.mpr submits_sampleBurnSeen
  exact unlocks_burn (samplePrograms .simpleLock) sampleRunCrates (fun _ => zeros 32) Sudt.token
    (by decide) sampleBurnSeen.inputs sampleBurnSeen.created [sampleBurnSeen] (by decide)
    (fun tx htx => Or.inl (hsubmits tx htx)) [sampleBurnSeen] (List.Sublist.refl _) hsubmits

/-- **The deployer makes no tokens.** Whatever the others do, a token cell that appears on the chain
was made by one of them. -/
theorem never_mints (P : Programs) (crates : Crates) (sha256 : Bytes → Byte32) (T : Script)
    (hT : P.contract T.id = .sudt) (L L' : Sudt.Ledger) (txs : List ResolvedTx)
    (hrun : run (P.applyTx crates.toHashing) L txs = some L') (c : LiveCell) (hc : c ∈ L')
    (hnew : c ∉ L) (htype : c.type_ = some T) :
    ∃ tx ∈ txs, c ∈ tx.created ∧ ¬ Submits crates sha256 tx := by
  obtain ⟨before, tx, after, mid, mid', rfl, -, hstep, hmid, hmid'⟩ :=
    exists_step_of_run (P := (c ∉ ·)) hrun hnew (not_not.mpr hc)
  obtain ⟨hver, hexchange⟩ := Programs.applyTx_eq_some_iff.mp hstep
  have hcreated := mem_created_of_exchange hexchange hmid (not_not.mp hmid')
  exact ⟨tx, by simp, hcreated, fun hsubmits => hsubmits.type_ne hver hT hcreated htype⟩

/-- Of two cells that a split leaves, the first. -/
theorem never_mints_split : ∃ tx ∈ [Sudt.splitTx],
    (⟨Sudt.tokenCell 60, Byte32.ofNat 8, 0⟩ : LiveCell) ∈ tx.created ∧
      ¬ Submits sampleRunCrates (fun _ => zeros 32) tx :=
  never_mints (samplePrograms .simpleLock) sampleRunCrates (fun _ => zeros 32) Sudt.token
    (by decide) Sudt.splitBefore Sudt.splitAfter [Sudt.splitTx] (by decide)
    ⟨Sudt.tokenCell 60, Byte32.ofNat 8, 0⟩ (by decide) (by decide) (by decide)

/-! ### Nodes -/

/-- What is found under the hash of a transaction that was sent is that transaction. -/
def Remembers (crates : Crates) (node later : Node) : Prop :=
  ∀ {tx txHash response}, node.sendTransaction tx = .ok txHash →
    later.getTransaction txHash = .ok (some (some response)) →
    match response with
    | .json found => found = tx
    | .bytes b => ∀ found, crates.transactionFromSlice b = .ok found → found = tx

/-- A node that takes one transaction. -/
def taking (node : Node) (tx : Transaction) (txHash : Byte32) : Node :=
  { node with sendTransaction := fun sent => if sent = tx then .ok txHash else .error "refused" }

/-- A node that has heard of one transaction. -/
def finding (node : Node) (tx : Transaction) (txHash : Byte32) : Node :=
  { node with
    getTransaction := fun h => .ok (if h = txHash then some (some (.json tx)) else none) }

theorem remembers_taking {node later : Node} {tx : Transaction} {txHash : Byte32}
    (hfound : later.getTransaction txHash = .ok (some (some (.json tx)))) :
    Remembers crates (taking node tx txHash) later := by
  intro tx' txHash' response hsend hget
  by_cases htx : tx' = tx
  · obtain rfl : txHash = txHash' := by simpa [taking, htx] using hsend
    obtain rfl : TxFormat.json tx = response := by simpa [hfound] using hget
    exact htx.symm
  · simp [taking, htx] at hsend

/-- The data that is fetched for an output is what was sent as its data. -/
theorem Remembers.data_of_fetch {node later : Node} (h : Remembers crates node later)
    {tx : Transaction} {txHash codeHash : Byte32} {index : U32} {data : Bytes}
    (hsend : node.sendTransaction tx = .ok txHash)
    (hfetch : fetchCodeCellData crates later ⟨txHash, index⟩ = .ok (codeHash, data)) :
    tx.outputsData[index.toNat]? = some data ∧ codeHash = crates.blake2b256 data := by
  simp only [fetchCodeCellData, bind_eq_ok_iff, orError_eq_ok_iff, okOr_eq_ok_iff] at hfetch
  obtain ⟨_, hget, _, rfl, response, rfl, hfetch⟩ := hfetch
  have hsame := h hsend hget
  cases response with
  | json found =>
    simp only [bind_eq_ok_iff, okOr_eq_ok_iff, pure_eq_ok, Except.ok.injEq, Prod.mk.injEq,
      exists_eq_left'] at hfetch
    obtain ⟨raw, hraw, rfl, rfl⟩ := hfetch
    exact ⟨hsame ▸ hraw, rfl⟩
  | bytes b =>
    simp only [bind_eq_ok_iff, orErrorWith_eq_ok_iff, okOr_eq_ok_iff, pure_eq_ok, Except.ok.injEq,
      Prod.mk.injEq] at hfetch
    obtain ⟨found, hfound, raw, hraw, rfl, rfl⟩ := hfetch
    exact ⟨hsame found hfound ▸ hraw, rfl⟩

/-! ### Runs of one command -/

variable {s : State}

/-- A deployment that a node took. -/
theorem deployScript_eq_ok {address : String} {key : SecretKey} {scriptPath : String}
    {idlPath : Option String} {outPoint : OutPoint}
    (h : outcome (deployScript crates sha256 env address key scriptPath idlPath) s =
      .ok outPoint) :
    ∃ tx txHash,
      (deployScriptTx crates sha256 env.toDeployEnv address key scriptPath idlPath s.disk).2 =
        .ok tx ∧
      env.node.sendTransaction tx = .ok txHash ∧ outPoint = ⟨txHash, 0⟩ := by
  simp only [deployScript, outcome_bind_eq_ok_iff, outcome_onDisk, outcome_submit,
    orError_eq_ok_iff, outcome_pure, Except.ok.injEq] at h
  obtain ⟨tx, htx, txHash, hsend, rfl⟩ := h
  exact ⟨tx, txHash, htx, hsend, rfl⟩

/-- The data of a code cell. -/
theorem data_of_deployScriptTx {address : String} {key : SecretKey} {scriptPath : String}
    {idlPath : Option String} {disk : Disk} {tx : Transaction}
    (hemits : env.node.EmitsOutputs)
    (h : (deployScriptTx crates sha256 env.toDeployEnv address key scriptPath idlPath disk).2 =
      .ok tx) :
    ∃ scriptBinary idlHash, env.readFile scriptPath = .ok scriptBinary ∧
      (freezeIdl sha256 env.toDeployEnv scriptPath idlPath disk).2 = .ok idlHash ∧
      tx.outputsData[0]? = some (scriptBinary ++ idlHash) := by
  obtain ⟨scriptBinary, idlHash, hread, hfreeze, hdeploy⟩ := deployScriptTx_eq_ok h
  obtain ⟨capacity, lock, genesis, -, -, -, hbuild⟩ := deployTx_eq_ok_iff.mp hdeploy
  obtain ⟨-, data, -, hdata⟩ := hemits hbuild
  exact ⟨scriptBinary, idlHash, hread, hfreeze, by rw [hdata]; rfl⟩

/-- The log has grown by one transaction at most, and by one with a property. -/
def SendsOne (Q : Transaction → Prop) (s t : State) : Prop :=
  ∃ sent : Option Transaction, t.sent = s.sent ++ sent.toList ∧ ∀ tx ∈ sent, Q tx

instance (Q : Transaction → Prop) : Std.Refl (SendsOne Q) :=
  ⟨fun _ => ⟨none, by simp⟩⟩

/-- A deployment submits one transaction at most. -/
theorem sendsOne_deployScript (address : String) (key : SecretKey) (scriptPath : String)
    (idlPath : Option String) :
    Goes (SendsOne fun tx => ∃ disk, (deployScriptTx crates sha256 env.toDeployEnv address key
        scriptPath idlPath disk).2 = .ok tx)
      (deployScript crates sha256 env address key scriptPath idlPath) := by
  intro s
  rcases htx : outcome (onDisk (deployScriptTx crates sha256 env.toDeployEnv address key scriptPath
    idlPath)) s with e | tx
  · rw [deployScript, after_bind_of_error htx, after_onDisk]
    exact ⟨none, by simp⟩
  · have hsent : Goes (fun s t : State => t.sent = s.sent ++ [tx]) (do
        let txHash ← submit env.node tx
        return (⟨txHash, 0⟩ : OutPoint) : Program OutPoint) := by
      intro t
      rcases hout : outcome (submit env.node tx) t with e | txHash
      · rw [after_bind_of_error hout, after_submit]
        rfl
      · rw [after_bind_of_ok hout, after_pure, after_submit]
        rfl
    rw [deployScript, after_bind_of_ok htx, after_onDisk]
    rw [outcome_onDisk] at htx
    exact ⟨some tx, hsent _, fun _ h => ⟨s.disk, Option.mem_some.mp h ▸ htx⟩⟩

/-- What is minted after a deployment is under the hash of the binary that was deployed. -/
theorem computeCodeHash_of_deployed (hemits : env.node.EmitsOutputs)
    (hremembers : Remembers crates env.node env.later) {scriptBinary : Bytes} {scriptPath : String}
    (hbinary : env.readFile scriptPath = .ok scriptBinary) {address : String} {key : SecretKey}
    {outPoint : OutPoint} {codeHash : Byte32}
    (hdeploy : outcome (deployScript crates sha256 env address key scriptPath none) s =
      .ok outPoint)
    (hcode : computeCodeHash crates env.later outPoint = .ok codeHash) :
    codeHash = crates.blake2b256 scriptBinary := by
  obtain ⟨codeTx, codeTxHash, hcodeTx, hcodeSend, rfl⟩ := deployScript_eq_ok hdeploy
  obtain ⟨binary, idlHash, hread, hfreeze, hdata⟩ := data_of_deployScriptTx hemits hcodeTx
  obtain rfl : scriptBinary = binary := ok_unique hbinary hread
  obtain rfl : [] = idlHash := Except.ok.inj hfreeze
  simp only [computeCodeHash, bind_eq_ok_iff, pure_eq_ok, Except.ok.injEq] at hcode
  obtain ⟨⟨_, data⟩, hfetch, rfl⟩ := hcode
  obtain ⟨hfound, rfl⟩ := hremembers.data_of_fetch hcodeSend hfetch
  obtain rfl : data = scriptBinary := by simpa [hdata] using hfound.symm
  rfl

/-- **The default command never gets to its end.** It deploys the token and then asks for a million
of them, under the hash of the binary it has just deployed and hash type `Data1`. What it registers
is not found for that, and a genesis block has no dep for it either, so the mint is not built: when
the command ends it has submitted the deployment and nothing else, if as much. -/
theorem deploy_sudt_fails (crates : Crates) (sha256 : Bytes → Byte32) (env : Env)
    (hemits : env.node.EmitsOutputs) (hdeps : env.later.NeedsDeps)
    (hremembers : Remembers crates env.node env.later) (scriptBinary : Bytes)
    (hbinary : env.readFile "./build/release/ckb_sudt_script" = .ok scriptBinary)
    (hgenesis : ∀ genesis, genesisCellDeps crates env.later = .ok genesis →
      genesis.get ⟨crates.blake2b256 scriptBinary, .data1, []⟩ = none) (argv : List String)
    (hargv : argv[1]?.getD "deploy-sudt" = "deploy-sudt") :
    Fails (SendsOne fun tx => ∃ address key,
        deployTx crates env.node address key scriptBinary = .ok tx)
      (main crates sha256 env argv) := by
  have hmain : main crates sha256 env argv = (do
      let _ ← (Config.fromEnv crates env.toProcess : Program Config)
      deployAndMintSudt crates sha256 env) := by
    rw [main, hargv]
    rfl
  rw [hmain]
  refine fails_lift_bind fun _ _ => fails_lift_bind fun config _ => fails_lift_bind fun key _ => ?_
  refine Goes.fails_bind_lift ((sendsOne_deployScript config.address key _ none).mono ?_) ?_ _
  · rintro s t ⟨sent, hsent, hbuilt⟩
    refine ⟨sent, hsent, fun tx htx => ?_⟩
    obtain ⟨disk, hcodeTx⟩ := hbuilt tx htx
    obtain ⟨binary, idlHash, hread, hfreeze, hdeploy⟩ := deployScriptTx_eq_ok hcodeTx
    obtain rfl : scriptBinary = binary := ok_unique hbinary hread
    obtain rfl : [] = idlHash := Except.ok.inj hfreeze
    rw [List.append_nil] at hdeploy
    exact ⟨config.address, key, hdeploy⟩
  · -- the mint is not built
    intro s outPoint hdeploy
    rcases hmint : mintTokensTx crates env.later outPoint config.address key config.address 1000000
      with e | tx
    · exact ⟨e, rfl⟩
    · obtain ⟨_, _, codeHash, genesis, -, -, hcode, hfound, -⟩ := mintTokensTx_eq_ok hmint
      have hnone := hgenesis genesis hfound
      rw [← computeCodeHash_of_deployed hemits hremembers hbinary hdeploy hcode] at hnone
      exact absurd hmint (Sudt.mintTokensTx_ne_ok hdeps hcode hfound hnone)

/-- The sample wallet after a transaction: its cell is the change. -/
def sampleWalletAfter (txHash : Byte32) (capacity : U64) : Wallet :=
  { sampleWallet 0 [] with outPoint := ⟨txHash, 1⟩, capacity := capacity }

/-- The transaction that deploys the token: four bytes of code take 104 CKB. -/
def sampleTokenTx : Transaction where
  version := 0
  cellDeps := [⟨⟨Byte32.ofNat 1, 0⟩, .depGroup⟩]
  headerDeps := []
  inputs := [.new ⟨Byte32.ofNat 5, 0⟩]
  outputs := [⟨10400000000, sampleLock, none⟩, ⟨9989599999532, sampleLock, none⟩]
  outputsData := [sampleCode, []]
  witnesses := [.args (.ofLock (List.replicate 65 1))]

/-- The hash the node answers with, under which the mint looks for the code. -/
def sampleTokenTxHash : Byte32 :=
  Byte32.ofNat 0xcea4878ea8d38a56408dda56e4d2e460ccac1f6ee56f07e4949c273e9c8ae5d4

/-- A run of the default command, at a node that takes the deployment and finds it later. -/
def sampleTokenEnv : Env where
  var := sampleProcess.var
  readFile _ := .ok sampleCode
  writeFile _ _ := .done
  node := taking (sampleWallet 0 []).node sampleTokenTx sampleTokenTxHash
  later := finding (sampleWalletAfter sampleTokenTxHash 9989599999532).node sampleTokenTx
    sampleTokenTxHash

/-- The deployment is taken, and the run ends with an error all the same. -/
theorem deploy_sudt_fails_sample :
    (after (main sampleRunCrates (fun _ => zeros 32) sampleTokenEnv ["deployer"])
      ⟨fun _ => none, []⟩).sent = [sampleTokenTx] ∧
    Fails (SendsOne fun tx => ∃ address key,
        deployTx sampleRunCrates sampleTokenEnv.node address key sampleCode = .ok tx)
      (main sampleRunCrates (fun _ => zeros 32) sampleTokenEnv ["deployer"]) := by
  have hemits : sampleTokenEnv.node.EmitsOutputs :=
    @Node.PlainOutputs.emitsOutputs (sampleWallet 0 []).node Wallet.plainOutputs
  have hdeps : sampleTokenEnv.later.NeedsDeps :=
    @Wallet.needsDeps (sampleWalletAfter sampleTokenTxHash 9989599999532)
  refine ⟨by decide, deploy_sudt_fails sampleRunCrates (fun _ => zeros 32) sampleTokenEnv hemits
    hdeps (remembers_taking (by decide)) sampleCode rfl (fun genesis hgenesis => ?_) ["deployer"]
    rfl⟩
  obtain rfl : sampleGenesis = genesis := ok_unique (by decide) hgenesis
  decide

/-! ### The hash lock, from deployment to spending -/

/-- One transaction, built and submitted. -/
theorem sends_submitTx (node : Node) (build : Except Failure Transaction) :
    Goes (Sends fun tx => build = .ok tx) (do
      let tx ← build
      let _ ← submit node tx : Program Unit) := by
  refine goes_lift_bind fun tx htx => Goes.andThen (fun s => ?_) fun _ => goes_pure _
  rw [after_submit]
  exact ⟨[tx], rfl, by simpa using htx⟩

/-- What a deployment submits. -/
theorem sends_deployLock (scriptPath idlPath : String) :
    Goes (Sends fun tx => ∃ address key disk, (deployScriptTx crates sha256 env.toDeployEnv address
      key scriptPath (some idlPath) disk).2 = .ok tx)
      (deployLock crates sha256 env scriptPath idlPath) := by
  refine goes_lift_bind fun config _ => goes_lift_bind fun key _ => Goes.bind (fun s => ?_) ?_
  · rw [after_onDisk]
    exact ⟨[], by simp⟩
  · intro s tx htx
    rw [outcome_onDisk] at htx
    refine Goes.andThen (fun t => ?_) (fun _ => goes_pure _) _
    rw [after_submit]
    exact ⟨[tx], rfl, by simpa using ⟨config.address, key, s.disk, htx⟩⟩

theorem eq_sha256_of_freezeIdl {scriptPath idlPath : String} {disk : Disk} {idl idlHash : Bytes}
    (hidl : env.readFile idlPath = .ok idl)
    (h : (freezeIdl sha256 env.toDeployEnv scriptPath (some idlPath) disk).2 = .ok idlHash) :
    idlHash = (sha256 idl).toList := by
  rcases hwrite : env.writeFile (frozenPath scriptPath) idl with _ | ⟨msg, left⟩
  · simpa [freezeIdl, hidl, orError, hwrite, eq_comm] using h
  · simp [freezeIdl, hidl, orError, hwrite] at h

/-- The lock of a cell that was made for code that can be fetched. -/
theorem lock_of_createLockedCellTx {node later : Node} (hremembers : Remembers crates node later)
    (hemits : later.EmitsOutputs) {codeTx lockedTx : Transaction} {codeTxHash : Byte32}
    {codeCell preimageHex : String} {rest : List String} {config : Config} {data preimage : Bytes}
    (hsend : node.sendTransaction codeTx = .ok codeTxHash)
    (hdata : codeTx.outputsData[0]? = some data)
    (hcodeCell : crates.hexDecode codeCell = .ok codeTxHash.toList)
    (hpreimage : crates.hexDecode preimageHex = .ok preimage)
    (h : createLockedCellTx crates later (codeCell :: preimageHex :: rest) config = .ok lockedTx) :
    firstOutput lockedTx = some ⟨lockedOutput (crates.blake2b256 data)
      (crates.blake2b256 preimage).toList 70464, []⟩ := by
  simp only [createLockedCellTx, simpleLockArgs, hpreimage, orError, mapError_ok, ok_bind,
    pure_eq_ok, createLockedCellGenericTx, bind_eq_ok_iff, mapError_eq_ok_iff] at h
  obtain ⟨key, -, req, hreq, hbuild⟩ := h
  obtain ⟨bytesCode, codeHash, found, _, hbytes, hfetch, -, houtputs, -⟩ := createRequest_eq_ok hreq
  obtain rfl : codeTxHash = bytesCode := ok_unique (txHashArg_eq_ok hcodeCell) hbytes
  obtain ⟨hfound, rfl⟩ := hremembers.data_of_fetch hsend hfetch
  obtain rfl : data = found := Option.some.inj (hdata.symm.trans hfound)
  exact firstOutput_of_request hemits hbuild houtputs

/-- **The README's round trip.** Three runs deploy the hash lock, make a cell with it and spend the
cell, each with any files and any node of its own. The last transaction has the deployed code among
its deps. If the locks of the wallet's cells accept, it verifies exactly when it shows a preimage of
the hash the cell was made with: the script that runs is the binary that was deployed, and the bytes
it loads are those of the command line. -/
theorem simple_lock_session (P : Programs) (crates : Crates) (sha256 : Bytes → Byte32)
    (deployEnv createEnv spendEnv : Env) (chain : ChainView)
    (hdeployNode : deployEnv.node.EmitsOutputs) (hcreateNode : createEnv.node.EmitsOutputs)
    (hspendNode : spendEnv.node.Sound chain) (honly : spendEnv.node.UnlockOnlySighash chain)
    (hremembers : Remembers crates deployEnv.node createEnv.node)
    (hdecode : Reads P.decodeSimpleLock SimpleLock.format) (scriptBinary idl : Bytes)
    (hbinary : deployEnv.readFile "./build/release/simple-lock" = .ok scriptBinary)
    (hidl : deployEnv.readFile "./contracts/simple-lock/idl.json" = .ok idl)
    (hcode : P.contract ⟨crates.blake2b256 (scriptBinary ++ (sha256 idl).toList), .data1⟩ =
      .simpleLock)
    (program codeCell preimageHex codeCell' preimageHex' idlPath lockedCell : String)
    (deployRest createRest spendRest : List String) (deployDisk createDisk spendDisk : Disk)
    (codeTx lockedTx spendTx : Transaction) (codeTxHash lockedTxHash : Byte32)
    (preimage preimage' : Bytes) (rtx : ResolvedTx) (hlen : preimage'.length < 2 ^ 32)
    (hdeploy : codeTx ∈ (after (main crates sha256 deployEnv
      (program :: "deploy-simple-lock" :: deployRest)) ⟨deployDisk, []⟩).sent)
    (hcodeTxHash : deployEnv.node.sendTransaction codeTx = .ok codeTxHash)
    (hcodeCell : crates.hexDecode codeCell = .ok codeTxHash.toList)
    (hpreimage : crates.hexDecode preimageHex = .ok preimage)
    (hcreate : lockedTx ∈ (after (main crates sha256 createEnv
      (program :: "create-locked-cell" :: codeCell :: preimageHex :: createRest))
      ⟨createDisk, []⟩).sent)
    (hlockedCell : crates.hexDecode lockedCell = .ok lockedTxHash.toList)
    (hlive : chain.cells ⟨lockedTxHash, 0⟩ = firstOutput lockedTx)
    (hcodeCell' : crates.hexDecode codeCell' = .ok codeTxHash.toList)
    (hpreimage' : crates.hexDecode preimageHex' = .ok preimage')
    (hspend : spendTx ∈ (after (main crates sha256 spendEnv (program :: "spend-simple-lock" ::
      codeCell' :: preimageHex' :: idlPath :: lockedCell :: spendRest)) ⟨spendDisk, []⟩).sent)
    (hres : chain.resolve crates.toHashing spendTx = some rtx)
    (hpayers : ∀ c ∈ rtx.inputs.tail, P.exit crates.toHashing ⟨rtx, .lock, c.lock⟩ = 0) :
    ⟨⟨codeTxHash, 0⟩, .code⟩ ∈ spendTx.cellDeps ∧
      (P.Verifies crates.toHashing rtx ↔
        crates.blake2b256 preimage' = crates.blake2b256 preimage) := by
  have hresolved := ChainView.resolved hres
  -- step one: the code cell holds the binary and its commitment
  obtain ⟨_, _, _, hcodeTx⟩ := mem_sent_of_goes (goes_lift_bind fun _ _ =>
    (sends_deployLock _ _).andThen fun _ => goes_pure _) hdeploy
  obtain ⟨binary, idlHash, hread, hfreeze, hdata⟩ := data_of_deployScriptTx hdeployNode hcodeTx
  obtain rfl : scriptBinary = binary := ok_unique hbinary hread
  obtain rfl := eq_sha256_of_freezeIdl hidl hfreeze
  -- step two: the cell is locked by that code
  obtain ⟨config, hlockedTx⟩ : ∃ config, createLockedCellTx crates createEnv.node
      (codeCell :: preimageHex :: createRest) config = .ok lockedTx :=
    mem_sent_of_goes (Q := fun tx => ∃ config, createLockedCellTx crates createEnv.node
      (codeCell :: preimageHex :: createRest) config = .ok tx) (goes_lift_bind fun config _ =>
        (sends_submitTx _ _).mono fun s t h => h.mono fun tx htx => ⟨config, htx⟩) hcreate
  rw [lock_of_createLockedCellTx hremembers hcreateNode hcodeTxHash hdata hcodeCell hpreimage
    hlockedTx] at hlive
  -- step three: it is the first input, and its script loads the preimage
  have hspendTx : spendSimpleLockTx crates spendEnv.toProcess spendEnv.node
      (codeCell' :: preimageHex' :: idlPath :: lockedCell :: spendRest) = .ok spendTx :=
    mem_sent_of_goes (goes_lift_bind fun _ _ => sends_submitTx _ _) hspend
  obtain ⟨address, key, codeHash', hnamed, hrun⟩ :=
    spendSimpleLockTx_eq_ok hpreimage' hlockedCell hspendTx
  obtain rfl : codeTxHash = codeHash' := ok_unique (txHashArg_eq_ok hcodeCell') hnamed
  have hnot := not_isSighash_data1 (crates.blake2b256 (scriptBinary ++ (sha256 idl).toList))
    (crates.blake2b256 preimage).toList
  have hraw : spendEnv.node.UnlockKeepsRaw := hspendNode.unlockKeepsRaw
  obtain ⟨⟨rest, hinputs⟩, -⟩ := resolved_spend hraw honly hlive hnot hrun hresolved
  have hwitness := fromWitnessArgs_spend P.decodeSimpleLock hraw honly hlive hnot hrun hresolved
  rw [hdecode (inverts_simpleLock_format.decode_exact (a := ⟨preimage'⟩) hlen)] at hwitness
  -- there is no type script to run
  obtain ⟨balanced, unlockers, hbal, hsigned⟩ := spendLockedCellTx_eq_ok hrun
  obtain ⟨lock, _, _, -, hbuild⟩ := balanceSpend_eq_ok hbal
  have hasked : AsksToSpend crates (program :: "spend-simple-lock" :: codeCell' :: preimageHex' ::
      idlPath :: lockedCell :: spendRest) ⟨codeTxHash, 0⟩ ⟨lockedTxHash, 0⟩ :=
    ⟨⟨codeCell', codeTxHash, rfl, hnamed, rfl⟩,
      Or.inl ⟨rfl, lockedCell, lockedTxHash, rfl, txHashArg_eq_ok hlockedCell, rfl⟩⟩
  obtain ⟨S, hsome⟩ : ∃ S : Shape crates spendEnv _ lock rtx, S.injected.isSome :=
    shape_of_injected hspendNode rfl rfl hasked hbuild hsigned hresolved
  have hfee : ∀ c ∈ rest, c.type_ = none := by
    obtain ⟨c, hc⟩ := Option.isSome_iff_exists.mp hsome
    have hcons := hinputs.symm.trans S.inputs_eq
    rw [hc] at hcons
    obtain ⟨-, rfl⟩ := List.cons.inj hcons
    exact fun d hd => (S.fee_plain d hd).type_eq
  have hnone : Sudt.typeScripts rtx = [] := by
    refine Programs.typeScripts_eq_nil ?_ fun o ho => (S.plain_of_isSome hsome o ho).type_eq
    rw [hinputs]
    exact List.forall_mem_cons.mpr ⟨rfl, hfee⟩
  have hdeps : spendTx.cellDeps = balanced.cellDeps ++ [⟨⟨codeTxHash, 0⟩, .code⟩] :=
    congrArg RawTransaction.cellDeps (hraw hsigned)
  refine ⟨by simp [hdeps], ?_⟩
  rw [Programs.verifies_iff, hnone, hinputs]
  rw [hinputs] at hpayers
  constructor
  · rintro ⟨hlocks, -⟩
    obtain ⟨w, hw, hargs⟩ := (Programs.exit_simpleLock_eq_zero_iff hcode).mp
      (hlocks _ List.mem_cons_self)
    obtain rfl := Option.some.inj (hwitness.symm.trans hw)
    exact ByteVec.ext hargs
  · intro hhash
    refine ⟨List.forall_mem_cons.mpr ⟨?_, hpayers⟩, by simp⟩
    exact (Programs.exit_simpleLock_eq_zero_iff hcode).mpr
      ⟨_, hwitness, congrArg ByteVec.toList hhash⟩

/-- sha256 of the zero byte, which stands for the IDL in the session's files. -/
def sessionSha256 : Byte32 :=
  Byte32.ofNat 0x6e340b9cffb37a989ca544e6bb780a2c78901d3fb33738768511a30617afa01d

/-- The data of the code cell: the binary and the commitment to its IDL behind it. -/
def sessionCode : Bytes := sampleCode ++ sessionSha256.toList

/-- blake2b-256 of the two together, which is the code hash of the lock. -/
def sessionCodeHash : Byte32 :=
  Byte32.ofNat 0x44928cbec145f17288a3f966e3ef84d94449de404d1f6ee0333d64f8539b2ded

/-- blake2b-256 at what the three runs hash, and at the last transaction. -/
def sessionHashing : Hashing :=
  Hashing.ofTable
    [(sessionCode, 0x44928cbec145f17288a3f966e3ef84d94449de404d1f6ee0333d64f8539b2ded),
      (samplePreimage, 0x2da1289373a9f6b7ed21db948f4dc5d942cf4023eaef1d5a2b1a45b9d12d1036),
      (Script.molecule ⟨sessionCodeHash, .data1, []⟩,
        0xaf4ad74e7cb8aeef9a7ef6a7fe1bed2b2195db12cdba933fd2341300205c0ace),
      (Script.molecule ⟨sessionCodeHash, .data1, samplePreimageHash.toList⟩,
        0x1604d33e4ceb994e946376426dfda4dbc0753c88e3c990aca45479d98baf8417)]
    0x717fcdfb88ec543eebc42aa47d9ad3dc3ea59bd31b3ff919113c327414015760

/-- The crates of the three runs: those of the other instances, with these hashes. -/
def sessionCrates : Crates := { sampleRunCrates with toHashing := sessionHashing }

/-- The hash lock is the deployed code, and nobody else's lock refuses. -/
def sessionPrograms : Programs where
  contract id := if id = ⟨sessionCodeHash, .data1⟩ then .simpleLock else .foreign
  decodeSimpleLock := decodeAll SimpleLock.format
  decodeTimelock := decodeAll decodeTimelockWitness
  foreign _ := 0

/-- The transaction of the first run: 136 CKB for 36 bytes of code and commitment. -/
def sessionCodeTx : Transaction where
  version := 0
  cellDeps := [⟨⟨Byte32.ofNat 1, 0⟩, .depGroup⟩]
  headerDeps := []
  inputs := [.new ⟨Byte32.ofNat 5, 0⟩]
  outputs := [⟨13600000000, sampleLock, none⟩, ⟨9986399999500, sampleLock, none⟩]
  outputsData := [sessionCode, []]
  witnesses := [.args (.ofLock (List.replicate 65 1))]

/-- The hash the node answers with, which the user notes down. -/
def sessionCodeTxHash : Byte32 :=
  Byte32.ofNat 0x1e3266a8b0f809b26f38164371ef48d27afd55e0f9b202c6dc77aab120f738e7

/-- The argument that names the code cell in the second run and the third, without a prefix. -/
def sessionCodeHex : String := "1e3266a8b0f809b26f38164371ef48d27afd55e0f9b202c6dc77aab120f738e7"

/-- The cell the second run makes: its lock is the deployed code, and its args the hash of `hello`.
-/
def sessionLockedCell : Cell :=
  ⟨lockedOutput sessionCodeHash samplePreimageHash.toList 70464, []⟩

/-- The transaction of the second run, paid for with the change of the first. -/
def sessionLockedTx : Transaction where
  version := 0
  cellDeps := [⟨⟨Byte32.ofNat 1, 0⟩, .depGroup⟩]
  headerDeps := []
  inputs := [.new ⟨sessionCodeTxHash, 1⟩]
  outputs := [sessionLockedCell.output, ⟨2939999999024, sampleLock, none⟩]
  outputsData := [[], []]
  witnesses := [.args (.ofLock (List.replicate 65 1))]

/-- The hash under which the locked cell is found. -/
def sessionLockedTxHash : Byte32 :=
  Byte32.ofNat 0x628a387db945bcf6cb357a1d4b68840e798045cb055dc8202de32e56ba38b53d

/-- The argument that names the locked cell in the third run. -/
def sessionLockedHex : String := "628a387db945bcf6cb357a1d4b68840e798045cb055dc8202de32e56ba38b53d"

/-- The transaction of the third run. The code cell is its second dep. -/
def sessionSpendTx : Transaction where
  version := 0
  cellDeps := [⟨⟨Byte32.ofNat 1, 0⟩, .depGroup⟩, ⟨⟨sessionCodeTxHash, 0⟩, .code⟩]
  headerDeps := []
  inputs := [.new ⟨sessionLockedTxHash, 0⟩, .new ⟨sessionLockedTxHash, 1⟩]
  outputs := [⟨6100000000, sampleLock, none⟩, ⟨2933899998560, sampleLock, none⟩]
  outputsData := [[], []]
  witnesses := [.args (.ofLock (encodeBytesField samplePreimage)),
    .args (.ofLock (List.replicate 65 1))]

/-- The wallet at the time of the third run, with the change of the second. -/
def sessionWallet : Wallet := sampleWalletAfter sessionLockedTxHash 2939999999024

/-- What is live then, as far as the third run looks: the wallet's cell and the locked one. -/
def sessionChain : ChainView :=
  sessionWallet.chain
    (fun o => if o = ⟨sessionLockedTxHash, 0⟩ then some sessionLockedCell else none) fun _ => none

/-- What the scripts see of the last transaction. -/
def sessionSeen : ResolvedTx where
  hash := sessionHashing.txHash sessionSpendTx.toRawTransaction
  inputs := [⟨sessionLockedCell, ⟨sessionLockedTxHash, 0⟩⟩,
    ⟨sessionWallet.cell, ⟨sessionLockedTxHash, 1⟩⟩]
  outputs := [⟨⟨6100000000, sampleLock, none⟩, []⟩, ⟨⟨2933899998560, sampleLock, none⟩, []⟩]
  headerDeps := []
  witnesses := sessionSpendTx.witnesses

/-- The configuration of the sample wallet, the binary, and one IDL for all three runs. -/
def sessionProcess : Process where
  var := sampleProcess.var
  readFile path := .ok (if path = "./build/release/simple-lock" then sampleCode else [0])

/-- A run of the session, which meets the same node at both its moments. -/
def sessionEnv (node : Node) : Env where
  toProcess := sessionProcess
  writeFile _ _ := .done
  node := node
  later := node

/-- The node of the first run, which takes the code. -/
def sessionDeployNode : Node := taking (sampleWallet 0 []).node sessionCodeTx sessionCodeTxHash

/-- The node of the second run, which finds the code by its transaction. -/
def sessionCreateNode : Node :=
  finding (sampleWalletAfter sessionCodeTxHash 9986399999500).node sessionCodeTx sessionCodeTxHash

/-- The node of the third run, which still finds it. -/
def sessionSpendNode : Node := finding sessionWallet.node sessionCodeTx sessionCodeTxHash

theorem sound_sessionSpendNode : sessionSpendNode.Sound sessionChain := by
  obtain ⟨hin, hout, hheaders, hraw⟩ : sessionWallet.node.Sound sessionChain :=
    Wallet.sound (by decide)
  exact ⟨@hin, @hout, @hheaders, @hraw⟩

theorem simple_lock_session_hello :
    ⟨⟨sessionCodeTxHash, 0⟩, .code⟩ ∈ sessionSpendTx.cellDeps ∧
      sessionPrograms.Verifies sessionHashing sessionSeen := by
  have hdeploy : sessionDeployNode.EmitsOutputs :=
    @Node.PlainOutputs.emitsOutputs (sampleWallet 0 []).node Wallet.plainOutputs
  have hcreate : sessionCreateNode.EmitsOutputs :=
    @Node.PlainOutputs.emitsOutputs (sampleWalletAfter sessionCodeTxHash 9986399999500).node
      Wallet.plainOutputs
  have honly : sessionSpendNode.UnlockOnlySighash sessionChain :=
    @Wallet.unlockOnlySighash sessionWallet _ _
  obtain ⟨hdep, hverifies⟩ := simple_lock_session sessionPrograms sessionCrates
    (fun _ => sessionSha256) (sessionEnv sessionDeployNode) (sessionEnv sessionCreateNode)
    (sessionEnv sessionSpendNode) sessionChain hdeploy hcreate sound_sessionSpendNode honly
    (remembers_taking (by decide)) (reads_decodeAll _) sampleCode [0] (by decide) (by decide)
    (by decide) "deployer" sessionCodeHex "68656c6c6f" sessionCodeHex "68656c6c6f"
    "./simple-lock-idl.deployed.json" sessionLockedHex [] [] [] (fun _ => none) (fun _ => none)
    (fun _ => none) sessionCodeTx sessionLockedTx sessionSpendTx sessionCodeTxHash
    sessionLockedTxHash samplePreimage samplePreimage sessionSeen (by decide) (by decide)
    (by decide) (by decide) (by decide) (by decide) (by decide) (by decide) (by decide) (by decide)
    (by decide) (by decide) (by decide)
  exact ⟨hdep, hverifies.mpr rfl⟩

end Deployer

end CkbScripts
