import CkbScripts.LockFlow
import CkbScripts.Main

/-!
# What a submitted transaction looks like

The commands build their transactions in five ways, and what the scripts on chain get to see of them
has one shape: cells of the wallet that pay, at most one other cell in front of them, the outputs
the command asked for, and change. `Shape` is that shape, with the properties of its parts as
fields. Every theorem about what the deployer can do on chain starts from one.

## Main definitions

* `Node.Sound`, `Env.Sound`: what is assumed of the SDK
* `Deployer.Asked`: the output a command line asks to lock
* `Deployer.Requested`: the outputs a command asks for
* `Deployer.Shape`

## Main results

* `Deployer.Origin.shape`
* `Deployer.wallet_frame`: whose cells a run spends, and whom it pays
* `Deployer.witness_validated`: nothing unvalidated is shown to a lock
-/

namespace CkbScripts

open Effects Outcome

/-! ### The SDK -/

/-- `build_unlocked` and `unlock_tx` as the deployer relies on them. -/
structure Node.Sound (node : Node) (chain : ChainView) : Prop where
  plainInputs : node.PlainInputs chain
  plainOutputs : node.PlainOutputs
  noHeaderDeps : node.NoHeaderDeps
  unlockKeepsRaw : node.UnlockKeepsRaw

theorem Node.NoHeaderDeps.resolved {node : Node} {chain : ChainView} {H : Hashing}
    {req : BuildRequest} {tx : Transaction} {rtx : ResolvedTx} (hnone : node.NoHeaderDeps)
    (hbuild : node.buildUnlocked req = .ok tx) (hres : chain.Resolved H tx rtx) :
    rtx.headerDeps = [] := by
  have hheaders := hres.headerDeps
  rw [hnone hbuild] at hheaders
  exact List.forall₂_nil_left_iff.mp hheaders

theorem Wallet.sound {w : Wallet} {chain : ChainView}
    (hcell : chain.cells w.outPoint = some w.cell) : w.node.Sound chain where
  plainInputs := Wallet.plainInputs_of_cell hcell
  plainOutputs := Wallet.plainOutputs
  noHeaderDeps := Wallet.noHeaderDeps
  unlockKeepsRaw := Wallet.unlockKeepsRaw

namespace Deployer

open DeployScript Spend

/-- Both moments of a run. Out points are not used twice, so one view holds the cells of both. -/
structure Env.Sound (env : Env) (chain : ChainView) : Prop where
  node : env.node.Sound chain
  later : env.later.Sound chain

theorem Env.Sound.of_eq {env : Env} {chain : ChainView} {node : Node} (h : env.Sound chain)
    (hnode : node = env.node ∨ node = env.later) : node.Sound chain := by
  rcases hnode with rfl | rfl
  exacts [h.node, h.later]

/-! ### Requests -/

/-- The output a command line asks to lock: its lock runs the code in the cell that the first
argument names, and has the args that the others give. -/
def Asked (crates : Crates) (env : Env) (argv : List String) (output : CellOutput) : Prop :=
  ∃ codeCell lockArgs bytesCode codeHash codeCellData, AsksToLock crates argv codeCell lockArgs ∧
    txHashArg crates codeCell = .ok bytesCode ∧
    fetchCodeCellData crates env.node ⟨bytesCode, 0⟩ = .ok (codeHash, codeCellData) ∧
    output = lockedOutput codeHash lockArgs 70464

/-- The outputs a command line asks `build_unlocked` for, when `lock` is the wallet's. -/
inductive Requested (crates : Crates) (env : Env) (argv : List String) (lock : Script) :
    List (CellOutput × Bytes) → Prop
  | code (capacity : U64) (data : Bytes) :
      Requested crates env argv lock (deployOutputs capacity lock data)
  | token (codeHash : Byte32) : Requested crates env argv lock
      (mintOutputs (mintTypeScript crates codeHash lock) lock 1000000)
  | locked {output : CellOutput} (hasked : Asked crates env argv output) :
      Requested crates env argv lock [(output, [])]

variable {crates : Crates} {sha256 : Bytes → Byte32} {env : Env} {chain : ChainView}
  {tx : Transaction} {rtx : ResolvedTx} {lock : Script} {argv : List String} {disk : Disk}

/-- A transaction for the wallet `lock`, from the request or from the balanced transaction on. -/
inductive Built (crates : Crates) (env : Env) (argv : List String) (lock : Script) :
    Transaction → Prop
  | balanced {node : Node} {req : BuildRequest} {tx : Transaction}
      (hnode : node = env.node ∨ node = env.later) (hpayer : req.balancer.capacityProvider = lock)
      (hrequested : Requested crates env argv lock req.outputs)
      (hbuild : node.buildUnlocked req = .ok tx) : Built crates env argv lock tx
  | injected {node : Node} {req : BuildRequest} {balanced tx : Transaction}
      {codeCell lockedCell : OutPoint} {validated wire : Bytes} {unlockers : Unlockers}
      (hnode : node = env.node ∨ node = env.later) (hpayer : req.balancer.capacityProvider = lock)
      (hreturned : req.outputs = [(spendOutput lock, [])])
      (hasked : AsksToSpend crates argv codeCell lockedCell)
      (hgate : Validated crates env.toProcess env.node codeCell validated)
      (hwire : UpToSignature argv validated wire)
      (hbuild : node.buildUnlocked req = .ok balanced)
      (hsigned : node.unlockTx (injectLocked balanced lockedCell wire ⟨codeCell, .code⟩ [])
        unlockers = .ok tx) : Built crates env argv lock tx

/-- Five commands, and two kinds of transaction. -/
theorem Origin.built (h : Origin crates env argv tx) :
    ∃ config lock, Config.fromEnv crates env.toProcess = .ok config ∧
      crates.addressLock config.address = .ok lock ∧ Built crates env argv lock tx := by
  cases h with
  | @deployed config _ _ _ hconfig hbuild =>
    obtain ⟨capacity, lock, genesis, -, haddress, -, hbuild⟩ := deployTx_eq_ok_iff.mp hbuild
    exact ⟨config, lock, hconfig, haddress, .balanced (.inl rfl) rfl (.code capacity _) hbuild⟩
  | @minted config _ _ _ hconfig hbuild =>
    obtain ⟨lock, recipientLock, codeHash, genesis, hissuer, hrecipient, -, -, hbuild⟩ :=
      mintTokensTx_eq_ok hbuild
    obtain rfl : lock = recipientLock := ok_unique hissuer hrecipient
    exact ⟨config, lock, hconfig, hissuer, .balanced (.inr rfl) rfl (.token codeHash) hbuild⟩
  | @locked config _ codeCell lockArgs _ _ hconfig hasked hbuild =>
    simp only [createLockedCellGenericTx, bind_eq_ok_iff, orError_eq_ok_iff] at hbuild
    obtain ⟨req, hreq, hbuild⟩ := hbuild
    obtain ⟨bytesCode, codeHash, codeCellData, lock, hbytes, hfetch, haddress, houtputs,
      hbalancer⟩ := createRequest_eq_ok hreq
    refine ⟨config, lock, hconfig, haddress, .balanced (.inl rfl) (by rw [hbalancer]; rfl) ?_
      hbuild⟩
    rw [houtputs]
    exact .locked ⟨codeCell, lockArgs, bytesCode, codeHash, codeCellData, hasked, hbytes, hfetch,
      rfl⟩
  | @spent config _ _ _ _ _ _ hconfig hnode hasked hgate hwire hbuild =>
    obtain ⟨balanced, unlockers, hbal, hsigned⟩ := spendLockedCellTx_eq_ok hbuild
    obtain ⟨lock, resolver, key, haddress, hbuild⟩ := balanceSpend_eq_ok hbal
    exact ⟨config, lock, hconfig, haddress,
      .injected hnode rfl rfl hasked hgate hwire hbuild hsigned⟩

/-! ### Shapes -/

/-- What the scripts see of a submitted transaction. A cell that is not the wallet's is spent only
where the command line names it and everything is returned to the wallet. -/
structure Shape (crates : Crates) (env : Env) (argv : List String) (lock : Script)
    (rtx : ResolvedTx) where
  injected : Option LiveCell
  fee : List LiveCell
  requested : List (CellOutput × Bytes)
  change : Cell
  inputs_eq : rtx.inputs = injected.toList ++ fee
  outputs_eq : rtx.outputs = requested.map (fun o => ⟨o.1, o.2⟩) ++ [change]
  headerDeps_eq : rtx.headerDeps = []
  fee_plain : ∀ c ∈ fee, c.toCell.Plain lock
  change_plain : change.Plain lock
  requested_of_none : injected = none → Requested crates env argv lock requested
  asked_of_some : ∀ c, injected = some c → ∃ codeCell, AsksToSpend crates argv codeCell c.outPoint
  returned_of_some : injected.isSome → requested = [(spendOutput lock, [])]

/-- What is resolved of a spend is what is resolved of the balanced transaction, behind the cell it
was injected in front of. -/
theorem resolved_balanced {balanced : Transaction} {lockedCell : OutPoint} {wire : Bytes}
    {dep : CellDep} (hraw : tx.toRawTransaction =
      (injectLocked balanced lockedCell wire dep []).toRawTransaction)
    (hres : chain.Resolved crates.toHashing tx rtx) :
    ∃ c brtx, chain.Resolved crates.toHashing balanced brtx ∧ rtx.inputs = c :: brtx.inputs ∧
      c.outPoint = lockedCell ∧ rtx.outputs = brtx.outputs ∧
      rtx.headerDeps = brtx.headerDeps := by
  have hinputs := hres.inputs
  have hheaders := hres.headerDeps
  rw [show tx.inputs = (injectLocked balanced lockedCell wire dep []).inputs from
    congrArg RawTransaction.inputs hraw] at hinputs
  rw [show tx.headerDeps = (injectLocked balanced lockedCell wire dep []).headerDeps from
    congrArg RawTransaction.headerDeps hraw] at hheaders
  obtain ⟨c, rest, hlive, hrest, hcons⟩ := List.forall₂_cons_left_iff.mp hinputs
  refine ⟨c, ⟨crates.txHash balanced.toRawTransaction, rest, rtx.outputs, rtx.headerDeps,
    balanced.witnesses⟩, ⟨rfl, hrest, ?_, hheaders, rfl⟩, hcons,
    (ChainView.liveCell_eq_some_iff.mp hlive).2, rfl, rfl⟩
  have houtputs := congrArg RawTransaction.outputs hraw
  have hdata := congrArg RawTransaction.outputsData hraw
  exact hres.outputs_eq.trans (congrArg₂ (List.zipWith Cell.mk) houtputs hdata)

theorem shape_of_balanced {node : Node} {req : BuildRequest} (hsound : node.Sound chain)
    (hpayer : req.balancer.capacityProvider = lock)
    (hrequested : Requested crates env argv lock req.outputs)
    (hbuild : node.buildUnlocked req = .ok tx) (hres : chain.Resolved crates.toHashing tx rtx) :
    Nonempty (Shape crates env argv lock rtx) := by
  obtain ⟨hin, hplain, hnone, -⟩ := hsound
  obtain ⟨change, hchange, hout⟩ := hplain.resolved hbuild hres
  exact ⟨{
    injected := none, fee := rtx.inputs, requested := req.outputs, change := change
    inputs_eq := rfl
    outputs_eq := hout
    headerDeps_eq := hnone.resolved hbuild hres
    fee_plain := by rw [← hpayer]; exact hin.resolved hbuild hres
    change_plain := by rw [← hpayer]; exact hchange
    requested_of_none := fun _ => hrequested
    asked_of_some := by simp
    returned_of_some := by simp }⟩

theorem shape_of_injected {node : Node} {req : BuildRequest} {balanced : Transaction}
    {codeCell lockedCell : OutPoint} {wire : Bytes} {unlockers : Unlockers}
    (hsound : node.Sound chain) (hpayer : req.balancer.capacityProvider = lock)
    (hreturned : req.outputs = [(spendOutput lock, [])])
    (hasked : AsksToSpend crates argv codeCell lockedCell)
    (hbuild : node.buildUnlocked req = .ok balanced)
    (hsigned : node.unlockTx (injectLocked balanced lockedCell wire ⟨codeCell, .code⟩ [])
      unlockers = .ok tx)
    (hres : chain.Resolved crates.toHashing tx rtx) :
    ∃ S : Shape crates env argv lock rtx, S.injected.isSome := by
  obtain ⟨hin, hplain, hnone, hraw⟩ := hsound
  obtain ⟨c, brtx, hbres, hinputs, hpoint, houtputs, hheaders⟩ :=
    resolved_balanced (hraw hsigned) hres
  obtain ⟨change, hchange, hout⟩ := hplain.resolved hbuild hbres
  exact ⟨{
    injected := some c, fee := brtx.inputs, requested := req.outputs, change := change
    inputs_eq := hinputs
    outputs_eq := houtputs.trans hout
    headerDeps_eq := hheaders.trans (hnone.resolved hbuild hbres)
    fee_plain := by rw [← hpayer]; exact hin.resolved hbuild hbres
    change_plain := by rw [← hpayer]; exact hchange
    requested_of_none := by simp
    asked_of_some := fun d hd => ⟨codeCell, by rw [← Option.some.inj hd, hpoint]; exact hasked⟩
    returned_of_some := fun _ => hreturned }, rfl⟩

theorem Built.shape (hsound : env.Sound chain) (h : Built crates env argv lock tx)
    (hres : chain.Resolved crates.toHashing tx rtx) :
    Nonempty (Shape crates env argv lock rtx) := by
  cases h with
  | balanced hnode hpayer hrequested hbuild =>
    exact shape_of_balanced (hsound.of_eq hnode) hpayer hrequested hbuild hres
  | injected hnode hpayer hreturned hasked _ _ hbuild hsigned =>
    obtain ⟨S, -⟩ :=
      shape_of_injected (hsound.of_eq hnode) hpayer hreturned hasked hbuild hsigned hres
    exact ⟨S⟩

/-- The wallet is the one that is configured. -/
theorem Origin.shape (hsound : env.Sound chain) (h : Origin crates env argv tx)
    (hres : chain.Resolved crates.toHashing tx rtx) :
    ∃ config lock, Config.fromEnv crates env.toProcess = .ok config ∧
      crates.addressLock config.address = .ok lock ∧
      Nonempty (Shape crates env argv lock rtx) := by
  obtain ⟨config, lock, hconfig, haddress, hbuilt⟩ := h.built
  exact ⟨config, lock, hconfig, haddress, hbuilt.shape hsound hres⟩

/-! ### The wallet -/

/-- What is asked for is the wallet's, or the one cell that the command line asks to lock. -/
theorem lock_eq_of_requested {requested : List (CellOutput × Bytes)}
    (h : Requested crates env argv lock requested) :
    (∀ o ∈ requested, o.1.lock = lock) ∨
      ∃ output, Asked crates env argv output ∧ requested = [(output, [])] := by
  cases h with
  | code capacity data => exact Or.inl (List.forall_mem_singleton.mpr rfl)
  | token codeHash => exact Or.inl (List.forall_mem_singleton.mpr rfl)
  | locked hasked => exact Or.inr ⟨_, hasked, rfl⟩

/-- The output of a spend is plain. -/
theorem plain_of_returned {requested : List (CellOutput × Bytes)} {o : CellOutput × Bytes}
    (h : requested = [(spendOutput lock, [])]) (ho : o ∈ requested) :
    (⟨o.1, o.2⟩ : Cell).Plain lock := by
  subst h
  obtain rfl := List.mem_singleton.mp ho
  exact ⟨rfl, rfl, rfl⟩

theorem Shape.forall_outputs {p : Cell → Prop} (S : Shape crates env argv lock rtx)
    (hrequested : ∀ o ∈ S.requested, p ⟨o.1, o.2⟩) (hchange : p S.change) :
    ∀ o ∈ rtx.outputs, p o := by
  rw [S.outputs_eq]
  exact List.forall_mem_append.mpr
    ⟨List.forall_mem_map.mpr hrequested, List.forall_mem_singleton.mpr hchange⟩

/-- Where a cell was unlocked everything is returned. -/
theorem Shape.plain_of_isSome (S : Shape crates env argv lock rtx) (h : S.injected.isSome) :
    ∀ o ∈ rtx.outputs, o.Plain lock :=
  S.forall_outputs (fun _ ho => plain_of_returned (S.returned_of_some h) ho) S.change_plain

/-- Where none was, the outputs are all the wallet's, or one was asked for and the other is
change. -/
theorem Shape.outputs_of_none (S : Shape crates env argv lock rtx) (h : S.injected = none) :
    (∀ o ∈ rtx.outputs, o.lock = lock) ∨ ∃ output change, Asked crates env argv output ∧
      Cell.Plain lock change ∧ rtx.outputs = [⟨output, []⟩, change] := by
  rcases lock_eq_of_requested (S.requested_of_none h) with hlock | ⟨output, hasked, hrequested⟩
  · exact Or.inl (S.forall_outputs hlock S.change_plain.lock_eq)
  · exact Or.inr ⟨output, S.change, hasked, S.change_plain, by rw [S.outputs_eq, hrequested]; rfl⟩

/-- **What a run can do to a wallet.** Whatever the command and its arguments, what a run submits is
of one of two kinds. Either it spends plain cells of the configured address only, and pays that
address only, but for the one cell the command line asks to lock. Or its first input is the cell
the command line asks to spend, the others are plain cells of that address, and everything is paid
back to it in plain cells. -/
theorem wallet_frame (crates : Crates) (sha256 : Bytes → Byte32) (env : Env) (chain : ChainView)
    (hsound : env.Sound chain) (argv : List String) (disk : Disk) (tx : Transaction)
    (hsent : tx ∈ (after (main crates sha256 env argv) ⟨disk, []⟩).sent) (rtx : ResolvedTx)
    (hres : chain.resolve crates.toHashing tx = some rtx) :
    ∃ config lock, Config.fromEnv crates env.toProcess = .ok config ∧
      crates.addressLock config.address = .ok lock ∧
      ((∀ c ∈ rtx.inputs, c.toCell.Plain lock) ∧
          ((∀ o ∈ rtx.outputs, o.lock = lock) ∨
            ∃ output change, Asked crates env argv output ∧ Cell.Plain lock change ∧
              rtx.outputs = [⟨output, []⟩, change]) ∨
        ∃ c fee codeCell, rtx.inputs = c :: fee ∧ AsksToSpend crates argv codeCell c.outPoint ∧
          (∀ d ∈ fee, d.toCell.Plain lock) ∧ ∀ o ∈ rtx.outputs, o.Plain lock) := by
  obtain ⟨config, lock, hconfig, haddress, ⟨S⟩⟩ :=
    (origin_of_mem_sent hsent).shape hsound (ChainView.resolved hres)
  refine ⟨config, lock, hconfig, haddress, ?_⟩
  rcases hinjected : S.injected with _ | c
  · have hinputs : rtx.inputs = S.fee := by rw [S.inputs_eq, hinjected]; rfl
    exact Or.inl ⟨hinputs ▸ S.fee_plain, S.outputs_of_none hinjected⟩
  · obtain ⟨codeCell, hasked⟩ := S.asked_of_some c hinjected
    exact Or.inr ⟨c, S.fee, codeCell, by rw [S.inputs_eq, hinjected]; rfl, hasked, S.fee_plain,
      S.plain_of_isSome (by simp [hinjected])⟩

/-- The sample wallet, which talks to one node throughout and can write files. -/
def sampleEnv : Env where
  toProcess := sampleProcess
  writeFile _ _ := .done
  node := (sampleWallet 0 []).node
  later := (sampleWallet 0 []).node

theorem sound_sampleEnv : sampleEnv.Sound sampleChain :=
  ⟨Wallet.sound (by decide), Wallet.sound (by decide)⟩

/-- The crates of the runs of the sample wallet. No hash of a transaction matters to them. -/
def sampleRunCrates : Crates := sampleCrates 0 (0, zeros 64)

/-- The command line of the README's last step: the code, the preimage in hex, the IDL and the
locked cell. -/
def sampleSpendArgv : List String :=
  ["deployer", "spend-simple-lock", sampleCodeHex, "68656c6c6f", "simple-lock-idl.deployed.json",
    sampleLockedHex]

/-- What the scripts see of the transaction that step submits. -/
def sampleSpendSeen : ResolvedTx :=
  sampleSpendResolved 0 sampleLockedCell (encodeBytesField samplePreimage)

theorem sent_sampleSpend :
    sampleSpend ∈ (after (main sampleRunCrates (fun _ => zeros 32) sampleEnv sampleSpendArgv)
      ⟨fun _ => none, []⟩).sent := by
  decide

theorem fromEnv_sample : Config.fromEnv sampleRunCrates sampleProcess = .ok sampleConfig := by
  decide

theorem wallet_frame_sample :
    ∃ config lock, Config.fromEnv sampleRunCrates sampleEnv.toProcess = .ok config ∧
      sampleRunCrates.addressLock config.address = .ok lock ∧
      ((∀ c ∈ sampleSpendSeen.inputs, c.toCell.Plain lock) ∧
          ((∀ o ∈ sampleSpendSeen.outputs, o.lock = lock) ∨
            ∃ output change, Asked sampleRunCrates sampleEnv sampleSpendArgv output ∧
              Cell.Plain lock change ∧ sampleSpendSeen.outputs = [⟨output, []⟩, change]) ∨
        ∃ c fee codeCell, sampleSpendSeen.inputs = c :: fee ∧
          AsksToSpend sampleRunCrates sampleSpendArgv codeCell c.outPoint ∧
          (∀ d ∈ fee, d.toCell.Plain lock) ∧ ∀ o ∈ sampleSpendSeen.outputs, o.Plain lock) :=
  wallet_frame sampleRunCrates (fun _ => zeros 32) sampleEnv sampleChain sound_sampleEnv
    sampleSpendArgv (fun _ => none) sampleSpend sent_sampleSpend sampleSpendSeen (by decide)

/-! ### The gate -/

/-- **A lock is shown nothing that was not validated.** Whatever the command, if a lock script that
is not the wallet's gets to run, then the bytes it loads were validated before, against an IDL that
the code cell of the command line commits to. Only for the time lock are they not the same bytes:
what was validated has zeros for the signature. -/
theorem witness_validated (crates : Crates) (sha256 : Bytes → Byte32) (env : Env)
    (chain : ChainView) (hsound : env.Sound chain) (hnode : env.node.UnlockOnlySighash chain)
    (hlater : env.later.UnlockOnlySighash chain) (argv : List String) (disk : Disk)
    (tx : Transaction) (hsent : tx ∈ (after (main crates sha256 env argv) ⟨disk, []⟩).sent)
    (rtx : ResolvedTx) (hres : chain.resolve crates.toHashing tx = some rtx) (c : LiveCell)
    (hc : c ∈ rtx.inputs) (hsighash : ¬ c.lock.IsSighash)
    (hforeign : ∀ config lock, Config.fromEnv crates env.toProcess = .ok config →
      crates.addressLock config.address = .ok lock → c.lock ≠ lock) :
    ∃ codeCell validated wire,
      Vm.loadWitnessArgs ⟨rtx, .lock, c.lock⟩ = .ok (.ofLock wire) ∧
      AsksToSpend crates argv codeCell c.outPoint ∧
      Validated crates env.toProcess env.node codeCell validated ∧
      UpToSignature argv validated wire := by
  have hresolved := ChainView.resolved hres
  obtain ⟨config, lock, hconfig, haddress, hbuilt⟩ := (origin_of_mem_sent hsent).built
  have hne := hforeign config lock hconfig haddress
  cases hbuilt with
  | @balanced node req _ hmoment hpayer _ hbuild =>
    obtain ⟨hin, -, -, -⟩ := hsound.of_eq hmoment
    have hplain := hin.resolved hbuild hresolved c hc
    exact absurd (hplain.lock_eq.trans hpayer) hne
  | @injected node req balanced _ codeCell lockedCell validated wire _ hmoment hpayer _ hasked
      hgate hwire hbuild hsigned =>
    obtain ⟨hin, -, -, hraw⟩ := hsound.of_eq hmoment
    obtain ⟨d, brtx, hbres, hinputs, hpoint, -, -⟩ := resolved_balanced (hraw hsigned) hresolved
    -- behind the first input they are the wallet's
    obtain rfl : c = d := by
      rw [hinputs] at hc
      refine (List.mem_cons.mp hc).resolve_right fun hfee => ?_
      exact hne ((hin.resolved hbuild hbres c hfee).lock_eq.trans hpayer)
    have hfirst : tx.inputs = .new lockedCell :: balanced.inputs :=
      congrArg RawTransaction.inputs (hraw hsigned)
    have hlive : chain.cells lockedCell = some c.toCell := by
      have hforall := hresolved.inputs
      rw [hfirst, hinputs] at hforall
      exact (ChainView.liveCell_eq_some_iff.mp (List.forall₂_cons.mp hforall).1).1
    have honly : node.UnlockOnlySighash chain := by
      rcases hmoment with rfl | rfl
      exacts [hnode, hlater]
    have hwitness : tx.witnesses[0]? = some (.args (.ofLock wire)) :=
      honly hsigned (i := 0) rfl hlive hsighash
    obtain ⟨ws, hws⟩ := hresolved.exists_witnesses_eq_cons hwitness
    exact ⟨codeCell, validated, wire,
      Vm.loadWitnessArgs_of_head hinputs (by simp [Vm.inGroup]) hws, by rwa [hpoint], hgate, hwire⟩

theorem witness_validated_sample :
    ∃ codeCell validated wire,
      Vm.loadWitnessArgs ⟨sampleSpendSeen, .lock, sampleLockedCell.lock⟩ = .ok (.ofLock wire) ∧
      AsksToSpend sampleRunCrates sampleSpendArgv codeCell sampleLockedOutPoint ∧
      Validated sampleRunCrates sampleEnv.toProcess sampleEnv.node codeCell validated ∧
      UpToSignature sampleSpendArgv validated wire := by
  refine witness_validated sampleRunCrates (fun _ => zeros 32) sampleEnv sampleChain sound_sampleEnv
    (Wallet.unlockOnlySighash _ _) (Wallet.unlockOnlySighash _ _) sampleSpendArgv (fun _ => none)
    sampleSpend sent_sampleSpend sampleSpendSeen (by decide)
    ⟨sampleLockedCell, sampleLockedOutPoint⟩ (by decide) (by decide) ?_
  intro config lock hconfig haddress
  obtain rfl : sampleConfig = config := ok_unique fromEnv_sample hconfig
  have hlock : sampleRunCrates.addressLock sampleConfig.address = .ok sampleLock := by decide
  obtain rfl : sampleLock = lock := ok_unique hlock haddress
  decide

end Deployer

end CkbScripts
