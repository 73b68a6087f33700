import CkbScripts.Deploy
import CkbScripts.Lib.Effects
import CkbScripts.Spend

/-!
# The deployer

`main.rs`, and the commands of `spend.rs` that are called from nowhere else. A run reads its
environment and its arguments, asks the node, writes at most one file and submits at most two
transactions. It may stop at any step, so the state keeps what has been written and submitted up to
there.

The commands are put together from the functions of the earlier modules; `submit` is the call that
follows each of them. The printed lines are left out.

## Main definitions

* `Deployer.Env`, `State`, `Program`
* `Deployer.main`
* `Deployer.AsksToLock`, `AsksToSpend`: what a command line asks for
* `Deployer.Origin`: how a submitted transaction was built

## Main results

* `Deployer.outcome_main_create`, `outcome_main_spend`, `outcome_main_deploySudt`: a run ends as the
  functions of the earlier modules do
* `Deployer.goes_main`: what a run can do
* `Deployer.filesAfter_frame`: which files any number of runs change
-/

namespace CkbScripts

open Effects Outcome

namespace Deployer

open DeployScript Spend

/-! ### Runs -/

/-- What a run meets. A command that builds two transactions builds the second one `later`. -/
structure Env extends DeployEnv where
  later : Node

/-- The files, and the transactions `send_transaction` was called with, in order. -/
structure State where
  disk : Disk
  sent : List Transaction

/-- A run: a `State` to start with, and a `Failure` unless it gets to its end. -/
abbrev Program := EStateM Failure State

/-- Log a transaction. -/
def State.send (s : State) (tx : Transaction) : State := { s with sent := s.sent ++ [tx] }

/-- `send_transaction(tx, None)?`. The node may refuse the transaction. -/
def submit (node : Node) (tx : Transaction) : Program Byte32 := do
  modify (·.send tx)
  orError (node.sendTransaction tx)

/-- A step that reads and writes files. -/
def onDisk {α : Type} (f : Disk → Disk × Except Failure α) : Program α := do
  let s ← get
  set { s with disk := (f s.disk).1 }
  (f s.disk).2

variable (crates : Crates) (sha256 : Bytes → Byte32) (env : Env)

/-! ### The commands -/

/-- `deploy_script`, as a step of a run. -/
def deployScript (deployerAddress : String) (senderKey : SecretKey) (scriptPath : String)
    (idlPath : Option String) : Program OutPoint := do
  let tx ← onDisk
    (deployScriptTx crates sha256 env.toDeployEnv deployerAddress senderKey scriptPath idlPath)
  let txHash ← submit env.node tx
  return ⟨txHash, 0⟩

/-- `deploy_and_mint_sudt` -/
def deployAndMintSudt : Program Unit := do
  let cfg ← Config.fromEnv crates env.toProcess
  let secretKey ← cfg.secretKey crates
  let codeOutpoint ←
    deployScript crates sha256 env cfg.address secretKey "./build/release/ckb_sudt_script" none
  let tx ←
    mintTokensTx crates env.later codeOutpoint cfg.address secretKey cfg.address 1000000
  let _ ← submit env.later tx

/-- `deploy_simple_lock` and `deploy_timelock_lock`, which differ in two paths. -/
def deployLock (scriptPath idlPath : String) : Program OutPoint := do
  let cfg ← Config.fromEnv crates env.toProcess
  let secretKey ← cfg.secretKey crates
  deployScript crates sha256 env cfg.address secretKey scriptPath (some idlPath)

/-- `deploy_simple_lock` -/
def deploySimpleLock : Program OutPoint :=
  deployLock crates sha256 env "./build/release/simple-lock" "./contracts/simple-lock/idl.json"

/-- `deploy_timelock_lock` -/
def deployTimelockLock : Program OutPoint :=
  deployLock crates sha256 env "./build/release/timelock-lock" "./contracts/timelock-lock/idl.json"

/-- `main`, on `std::env::args()`. -/
def main (argv : List String) : Program Unit := do
  let command := argv[1]?.getD "deploy-sudt"
  let args := argv.drop 2
  let config ← Config.fromEnv crates env.toProcess
  match command with
  | "deploy-sudt" => deployAndMintSudt crates sha256 env
  | "deploy-simple-lock" => do
    let _ ← deploySimpleLock crates sha256 env
  | "create-locked-cell" => do
    let tx ← createLockedCellTx crates env.node args config
    let _ ← submit env.node tx
  | "spend-simple-lock" => do
    let tx ← spendSimpleLockTx crates env.toProcess env.node args
    let _ ← submit env.node tx
  | "deploy-timelock-lock" => do
    let _ ← deployTimelockLock crates sha256 env
  | "create-timelock-cell" => do
    let tx ← createTimelockCellTx crates env.node args config
    let _ ← submit env.node tx
  | "spend-timelock-lock" => do
    let tx ← spendTimelockLockTx crates env.toProcess env.node env.later args
    let _ ← submit env.later tx
  | other => throw (.error ("unknown command: " ++ other))

/-! ### The steps -/

variable {crates sha256 env} {R : State → State → Prop} {s : State}

@[simp] theorem outcome_submit (node : Node) (tx : Transaction) (s : State) :
    outcome (submit node tx) s = orError (node.sendTransaction tx) := by
  rw [submit, outcome_bind]
  simp

/-- Refused or not, it has been submitted. -/
@[simp] theorem after_submit (node : Node) (tx : Transaction) (s : State) :
    after (submit node tx) s = s.send tx := by
  rw [submit, after_bind_of_ok (outcome_modify _ s)]
  simp

@[simp] theorem outcome_onDisk {α : Type} (f : Disk → Disk × Except Failure α) (s : State) :
    outcome (onDisk f) s = (f s.disk).2 :=
  outcome_lift (f s.disk).2 _

@[simp] theorem after_onDisk {α : Type} (f : Disk → Disk × Except Failure α) (s : State) :
    after (onDisk f) s = { s with disk := (f s.disk).1 } :=
  after_lift (f s.disk).2 _

/-- As a step of a run, `deploy_script` does to the files what it does, and ends as it does. -/
theorem deployScript_step (deployerAddress : String) (senderKey : SecretKey) (scriptPath : String)
    (idlPath : Option String) (s : State) :
    ((after (deployScript crates sha256 env deployerAddress senderKey scriptPath idlPath) s).disk,
      outcome (deployScript crates sha256 env deployerAddress senderKey scriptPath idlPath) s) =
    DeployScript.deployScript crates sha256 env.toDeployEnv deployerAddress senderKey scriptPath
      idlPath s.disk := by
  rcases htx : deployScriptTx crates sha256 env.toDeployEnv deployerAddress senderKey scriptPath
    idlPath s.disk with ⟨disk, f | tx⟩
  · have hfail : outcome (onDisk (deployScriptTx crates sha256 env.toDeployEnv deployerAddress
        senderKey scriptPath idlPath)) s = .error f := by
      simp [htx]
    rw [deployScript, after_bind_of_error hfail, outcome_bind, hfail]
    simp [DeployScript.deployScript, htx]
  · have hok : outcome (onDisk (deployScriptTx crates sha256 env.toDeployEnv deployerAddress
        senderKey scriptPath idlPath)) s = .ok tx := by
      simp [htx]
    rw [deployScript, after_bind_of_ok hok, outcome_bind, hok]
    rcases hsend : env.node.sendTransaction tx with e | txHash
    · have hrefused : outcome (submit env.node tx) (after (onDisk (deployScriptTx crates sha256
          env.toDeployEnv deployerAddress senderKey scriptPath idlPath)) s) =
            .error (.error e) := by
        simp [hsend, orError]
      rw [after_bind_of_error hrefused, ok_bind, outcome_bind, hrefused]
      simp [DeployScript.deployScript, sendFirst, htx, hsend, orError, State.send]
    · have hsent : outcome (submit env.node tx) (after (onDisk (deployScriptTx crates sha256
          env.toDeployEnv deployerAddress senderKey scriptPath idlPath)) s) = .ok txHash := by
        simp [hsend, orError]
      rw [after_bind_of_ok hsent, ok_bind, outcome_bind, hsent]
      simp [DeployScript.deployScript, sendFirst, htx, hsend, orError, State.send]

/-- A command that builds one transaction ends as if it had nothing to log. -/
theorem outcome_lift_submitTx {α : Type} (node : Node) (r : Except Failure α)
    (build : α → Except Failure Transaction) (s : State) :
    outcome (do
      let a ← r
      let tx ← build a
      let _ ← submit node tx : Program Unit) s =
    (do
      let a ← r
      let tx ← build a
      let _ ← orError (node.sendTransaction tx)
      return ()) := by
  rw [outcome_bind, outcome_lift, after_lift]
  refine congrArg (r >>= ·) (funext fun a => ?_)
  rw [outcome_bind, outcome_lift, after_lift]
  refine congrArg (build a >>= ·) (funext fun tx => ?_)
  rw [outcome_bind, outcome_submit]
  rfl

/-- The commands that make a cell end as their functions do. -/
theorem outcome_main_create (program : String) (args : List String) (s : State) :
    outcome (main crates sha256 env (program :: "create-locked-cell" :: args)) s =
      (do
        let config ← Config.fromEnv crates env.toProcess
        createLockedCell crates env.node args config) ∧
    outcome (main crates sha256 env (program :: "create-timelock-cell" :: args)) s =
      (do
        let config ← Config.fromEnv crates env.toProcess
        createTimelockCell crates env.node args config) := by
  constructor
  · refine (outcome_lift_submitTx env.node (Config.fromEnv crates env.toProcess)
      (createLockedCellTx crates env.node args) s).trans ?_
    simp [createLockedCell, sendFirst]
  · refine (outcome_lift_submitTx env.node (Config.fromEnv crates env.toProcess)
      (createTimelockCellTx crates env.node args) s).trans ?_
    simp [createTimelockCell, sendFirst]

/-- So do the commands that spend one. The time lock's asks two moments of the node. -/
theorem outcome_main_spend (program : String) (args : List String) (s : State) :
    outcome (main crates sha256 env (program :: "spend-simple-lock" :: args)) s =
      (do
        let _ ← Config.fromEnv crates env.toProcess
        spendSimpleLock crates env.toProcess env.node args) ∧
    outcome (main crates sha256 env (program :: "spend-timelock-lock" :: args)) s =
      (do
        let _ ← Config.fromEnv crates env.toProcess
        spendTimelockLock crates env.toProcess env.node env.later args) := by
  constructor
  · refine (outcome_lift_submitTx env.node (Config.fromEnv crates env.toProcess)
      (fun _ => spendSimpleLockTx crates env.toProcess env.node args) s).trans ?_
    simp only [spendSimpleLock_eq]
  · refine (outcome_lift_submitTx env.later (Config.fromEnv crates env.toProcess)
      (fun _ => spendTimelockLockTx crates env.toProcess env.node env.later args) s).trans ?_
    simp only [spendTimelockLock_eq]

/-- The default command deploys and then mints, at a later moment. -/
theorem outcome_main_deploySudt {argv : List String}
    (hcommand : argv[1]?.getD "deploy-sudt" = "deploy-sudt") (s : State) :
    outcome (main crates sha256 env argv) s = (do
      let _ ← Config.fromEnv crates env.toProcess
      let cfg ← Config.fromEnv crates env.toProcess
      let secretKey ← cfg.secretKey crates
      let codeOutpoint ← (DeployScript.deployScript crates sha256 env.toDeployEnv cfg.address
        secretKey "./build/release/ckb_sudt_script" none s.disk).2
      mintTokens crates env.later codeOutpoint cfg.address secretKey cfg.address 1000000) := by
  simp only [main, hcommand, deployAndMintSudt, outcome_bind, outcome_lift, after_lift]
  refine congrArg (_ >>= ·) (funext fun _ => congrArg (_ >>= ·) (funext fun cfg =>
    congrArg (_ >>= ·) (funext fun secretKey => ?_)))
  rw [← deployScript_step]
  refine congrArg (_ >>= ·) (funext fun codeOutpoint => ?_)
  rw [mintTokens]
  refine congrArg (_ >>= ·) (funext fun tx => ?_)
  rw [outcome_submit]
  rfl

/-! ### What is submitted, and what is written -/

/-- The command line asks for a lock with these args, and `codeCell` is the argument that names its
code. -/
def AsksToLock (crates : Crates) (argv : List String) (codeCell : String) (lockArgs : Bytes) :
    Prop :=
  argv[1]? = some "create-locked-cell" ∧
      simpleLockArgs crates (argv.drop 2) = .ok (codeCell, lockArgs) ∨
    argv[1]? = some "create-timelock-cell" ∧
      timelockArgs crates (argv.drop 2) = .ok (codeCell, lockArgs)

/-- The command line asks to spend this cell, and names the cell of its code. -/
def AsksToSpend (crates : Crates) (argv : List String) (codeCell lockedCell : OutPoint) : Prop :=
  NamesCell crates (argv.drop 2) 0 codeCell ∧
    (argv[1]? = some "spend-simple-lock" ∧ NamesCell crates (argv.drop 2) 3 lockedCell ∨
      argv[1]? = some "spend-timelock-lock" ∧ NamesCell crates (argv.drop 2) 5 lockedCell)

/-- How the witness a lock is shown relates to the one that was validated. The hash lock's is the
same; the time lock's has a signature where the validated one has zeros. -/
def UpToSignature (argv : List String) (validated wire : Bytes) : Prop :=
  argv[1]? = some "spend-simple-lock" ∧ validated = wire ∨
    argv[1]? = some "spend-timelock-lock" ∧ ∃ signature unlockAfterMs extra,
      validated = encodeTimelockWitness (zeros 65) unlockAfterMs extra ∧
      wire = encodeTimelockWitness signature unlockAfterMs extra

/-- **How a submitted transaction was built**, by which command and with which checks before. -/
inductive Origin (crates : Crates) (env : Env) (argv : List String) : Transaction → Prop
  | deployed {config : Config} {key : SecretKey} {data : Bytes} {tx : Transaction}
      (hconfig : Config.fromEnv crates env.toProcess = .ok config)
      (hbuild : deployTx crates env.node config.address key data = .ok tx) :
      Origin crates env argv tx
  | minted {config : Config} {key : SecretKey} {codeOutpoint : OutPoint} {tx : Transaction}
      (hconfig : Config.fromEnv crates env.toProcess = .ok config)
      (hbuild : mintTokensTx crates env.later codeOutpoint config.address key config.address
        1000000 = .ok tx) : Origin crates env argv tx
  | locked {config : Config} {key : SecretKey} {codeCell : String} {lockArgs : Bytes}
      {label : String} {tx : Transaction}
      (hconfig : Config.fromEnv crates env.toProcess = .ok config)
      (hasked : AsksToLock crates argv codeCell lockArgs)
      (hbuild : createLockedCellGenericTx crates env.node config.address key codeCell lockArgs 70464
        label = .ok tx) : Origin crates env argv tx
  | spent {config : Config} {node : Node} {codeCell lockedCell : OutPoint} {validated wire : Bytes}
      {tx : Transaction} (hconfig : Config.fromEnv crates env.toProcess = .ok config)
      (hnode : node = env.node ∨ node = env.later)
      (hasked : AsksToSpend crates argv codeCell lockedCell)
      (hgate : Validated crates env.toProcess env.node codeCell validated)
      (hwire : UpToSignature argv validated wire)
      (hbuild : spendLockedCellTx crates node config.address config.privateKeyBytes codeCell
        lockedCell wire [] = .ok tx) : Origin crates env argv tx

/-- The file a run may write to: the frozen IDL of the script it deploys. -/
def frozenFiles (argv : List String) : List String :=
  if argv[1]? = some "deploy-simple-lock" then [frozenPath "./build/release/simple-lock"]
  else if argv[1]? = some "deploy-timelock-lock" then [frozenPath "./build/release/timelock-lock"]
  else []

/-- A relation that the writes and the submissions of a run stay in. -/
structure Allows (crates : Crates) (env : Env) (argv : List String) (R : State → State → Prop) :
    Prop where
  write : ∀ s path content, path ∈ frozenFiles argv →
    R s { s with disk := Function.update s.disk path content }
  send : ∀ s tx, Origin crates env argv tx → R s (s.send tx)

variable {argv : List String}

theorem Allows.goes_submit (h : Allows crates env argv R) {node : Node} {tx : Transaction}
    (horigin : Origin crates env argv tx) : Goes R (submit node tx) := by
  intro s
  rw [after_submit]
  exact h.send s tx horigin

/-- A hash lock is shown what was validated. -/
theorem origin_of_spendSimpleLockTx {tx : Transaction}
    (hcommand : argv[1]? = some "spend-simple-lock")
    (h : spendSimpleLockTx crates env.toProcess env.node (argv.drop 2) = .ok tx) :
    Origin crates env argv tx := by
  simp only [spendSimpleLockTx, bind_eq_ok_iff] at h
  obtain ⟨c, hspend, hbuild⟩ := h
  obtain ⟨_, _, hconfig, hcode, hlocked, -, -, -, hgate⟩ := simpleLockSpend_eq_ok hspend
  exact .spent hconfig (Or.inl rfl) ⟨hcode, Or.inl ⟨hcommand, hlocked⟩⟩ hgate
    (Or.inl ⟨hcommand, rfl⟩) hbuild

/-- A time lock is shown a signature, which was made after the validation. -/
theorem origin_of_spendTimelockLockTx {tx : Transaction}
    (hcommand : argv[1]? = some "spend-timelock-lock")
    (h : spendTimelockLockTx crates env.toProcess env.node env.later (argv.drop 2) = .ok tx) :
    Origin crates env argv tx := by
  simp only [spendTimelockLockTx, bind_eq_ok_iff] at h
  obtain ⟨c, hspend, hbuild⟩ := h
  obtain ⟨_, _, signature, unlockAfterMs, extra, hconfig, hcode, hlocked, -, -, hwire, hgate⟩ :=
    timelockSpend_eq_ok hspend
  exact .spent hconfig (Or.inr rfl) ⟨hcode, Or.inr ⟨hcommand, hlocked⟩⟩ hgate
    (Or.inr ⟨hcommand, signature, unlockAfterMs, extra, rfl, hwire⟩) hbuild

variable [IsPreorder State R]

theorem Allows.goes_deployScript (h : Allows crates env argv R) {config : Config}
    (hconfig : Config.fromEnv crates env.toProcess = .ok config) (senderKey : SecretKey)
    (scriptPath : String) (idlPath : Option String)
    (hpath : idlPath.isSome → frozenPath scriptPath ∈ frozenFiles argv) :
    Goes R (deployScript crates sha256 env config.address senderKey scriptPath idlPath) := by
  have hdisk : Goes R (onDisk (deployScriptTx crates sha256 env.toDeployEnv config.address senderKey
      scriptPath idlPath)) := by
    intro s
    rw [after_onDisk]
    rcases deployScriptTx_disk crates sha256 env.toDeployEnv config.address senderKey scriptPath
      idlPath s.disk with hsame | ⟨hsome, content, hupdate⟩
    · rw [hsame]
      exact refl s
    · rw [hupdate]
      exact h.write s _ content (hpath hsome)
  refine hdisk.bind fun s tx htx => ?_
  rw [outcome_onDisk] at htx
  obtain ⟨_, _, -, -, hbuild⟩ := deployScriptTx_eq_ok htx
  exact (h.goes_submit (.deployed hconfig hbuild)).andThen (fun _ => goes_pure _) _

theorem Allows.goes_deployLock (h : Allows crates env argv R) (scriptPath idlPath : String)
    (hpath : frozenPath scriptPath ∈ frozenFiles argv) :
    Goes R (deployLock crates sha256 env scriptPath idlPath) :=
  goes_lift_bind fun _ hconfig => goes_lift_bind fun key _ =>
    h.goes_deployScript hconfig key scriptPath (some idlPath) fun _ => hpath

theorem Allows.goes_deployAndMintSudt (h : Allows crates env argv R) :
    Goes R (deployAndMintSudt crates sha256 env) := by
  refine goes_lift_bind fun config hconfig => goes_lift_bind fun key _ => ?_
  refine (h.goes_deployScript hconfig key _ none (by simp)).andThen fun codeOutpoint => ?_
  exact goes_lift_bind fun tx hmint =>
    (h.goes_submit (.minted hconfig hmint)).andThen fun _ => goes_pure _

/-- A command that builds one transaction and submits it. -/
theorem Allows.goes_submitTx (h : Allows crates env argv R) {node : Node}
    {build : Except Failure Transaction}
    (horigin : ∀ tx, build = .ok tx → Origin crates env argv tx) :
    Goes R (do
      let tx ← build
      let _ ← submit node tx : Program Unit) :=
  goes_lift_bind fun tx htx => (h.goes_submit (horigin tx htx)).andThen fun _ => goes_pure _

/-- A command other than the default was named. -/
theorem eq_some_of_getD {α : Type} {o : Option α} {a d : α} (hne : a ≠ d) (h : o.getD d = a) :
    o = some a := by
  cases o with
  | none => exact absurd h.symm hne
  | some b => exact congrArg some h

/-- **What a run can do.** Whatever the arguments and however the run ends, it writes to its
frozen file and submits transactions that were built by one of the commands, and does nothing else.
-/
theorem goes_main (h : Allows crates env argv R) :
    Goes R (main crates sha256 env argv) := by
  refine goes_lift_bind fun config hconfig => ?_
  split
  · exact h.goes_deployAndMintSudt
  · have hcommand : argv[1]?.getD "deploy-sudt" = "deploy-simple-lock" := ‹_›
    have hfile := eq_some_of_getD (by decide) hcommand
    exact (h.goes_deployLock _ _ (by simp [frozenFiles, hfile])).andThen fun _ => goes_pure _
  · have hcommand : argv[1]?.getD "deploy-sudt" = "create-locked-cell" := ‹_›
    refine h.goes_submitTx fun tx htx => ?_
    simp only [createLockedCellTx, bind_eq_ok_iff] at htx
    obtain ⟨⟨codeCell, lockArgs⟩, hargs, key, -, hbuild⟩ := htx
    exact .locked hconfig (Or.inl ⟨eq_some_of_getD (by decide) hcommand, hargs⟩) hbuild
  · have hcommand : argv[1]?.getD "deploy-sudt" = "spend-simple-lock" := ‹_›
    exact h.goes_submitTx fun tx htx =>
      origin_of_spendSimpleLockTx (eq_some_of_getD (by decide) hcommand) htx
  · have hcommand : argv[1]?.getD "deploy-sudt" = "deploy-timelock-lock" := ‹_›
    have hfile := eq_some_of_getD (by decide) hcommand
    exact (h.goes_deployLock _ _ (by simp [frozenFiles, hfile])).andThen fun _ => goes_pure _
  · have hcommand : argv[1]?.getD "deploy-sudt" = "create-timelock-cell" := ‹_›
    refine h.goes_submitTx fun tx htx => ?_
    simp only [createTimelockCellTx, bind_eq_ok_iff] at htx
    obtain ⟨⟨codeCell, lockArgs⟩, hargs, key, -, hbuild⟩ := htx
    exact .locked hconfig (Or.inr ⟨eq_some_of_getD (by decide) hcommand, hargs⟩) hbuild
  · have hcommand : argv[1]?.getD "deploy-sudt" = "spend-timelock-lock" := ‹_›
    exact h.goes_submitTx fun tx htx =>
      origin_of_spendTimelockLockTx (eq_some_of_getD (by decide) hcommand) htx
  · exact goes_throw _

/-! ### The log and the files -/

/-- The log has grown by transactions with a property. -/
def Sends (Q : Transaction → Prop) (s t : State) : Prop :=
  ∃ txs, t.sent = s.sent ++ txs ∧ ∀ tx ∈ txs, Q tx

instance (Q : Transaction → Prop) : IsPreorder State (Sends Q) where
  refl s := ⟨[], by simp⟩
  trans := by
    rintro s t u ⟨txs, ht, htxs⟩ ⟨txs', hu, htxs'⟩
    exact ⟨txs ++ txs', by rw [hu, ht, List.append_assoc],
      List.forall_mem_append.mpr ⟨htxs, htxs'⟩⟩

theorem Sends.mono {Q Q' : Transaction → Prop} {s t : State} (h : Sends Q s t)
    (hQ : ∀ tx, Q tx → Q' tx) : Sends Q' s t := by
  obtain ⟨txs, hsent, htxs⟩ := h
  exact ⟨txs, hsent, fun tx htx => hQ tx (htxs tx htx)⟩

/-- No file has changed but these. -/
def Keeps (files : List String) (s t : State) : Prop := ∀ path ∉ files, t.disk path = s.disk path

instance (files : List String) : IsPreorder State (Keeps files) where
  refl _ _ _ := rfl
  trans _ _ _ hst htu path hpath := (htu path hpath).trans (hst path hpath)

theorem sends_main : Goes (Sends (Origin crates env argv)) (main crates sha256 env argv) :=
  goes_main ⟨fun _ _ _ _ => ⟨[], by simp⟩, fun _ tx horigin => ⟨[tx], rfl, by simpa using horigin⟩⟩

theorem keeps_main : Goes (Keeps (frozenFiles argv)) (main crates sha256 env argv) := by
  refine goes_main ⟨fun s path content hpath other hother => ?_, fun _ _ _ _ _ => rfl⟩
  have hne : other ≠ path := fun heq => hother (heq ▸ hpath)
  simp [hne]

/-- What is in the log of a run was put there by the run. -/
theorem mem_sent_of_goes {α : Type} {x : Program α} {Q : Transaction → Prop} {disk : Disk}
    {tx : Transaction} (hx : Goes (Sends Q) x) (h : tx ∈ (after x ⟨disk, []⟩).sent) : Q tx := by
  obtain ⟨txs, hsent, htxs⟩ := hx ⟨disk, []⟩
  rw [hsent] at h
  exact htxs tx (by simpa using h)

/-- Whatever a run submits was built by one of its commands. -/
theorem origin_of_mem_sent {disk : Disk} {tx : Transaction}
    (h : tx ∈ (after (main crates sha256 env argv) ⟨disk, []⟩).sent) : Origin crates env argv tx :=
  mem_sent_of_goes sends_main h

/-! ### Many runs -/

/-- The files after a number of runs, each with its own environment and arguments. -/
def filesAfter (crates : Crates) (sha256 : Bytes → Byte32) (disk : Disk)
    (calls : List (Env × List String)) : Disk :=
  calls.foldl (fun disk call => (after (main crates sha256 call.1 call.2) ⟨disk, []⟩).disk) disk

theorem mem_frozenFiles_iff {argv : List String} {path : String} : path ∈ frozenFiles argv ↔
    argv[1]? = some "deploy-simple-lock" ∧ path = "simple-lock-idl.deployed.json" ∨
      argv[1]? = some "deploy-timelock-lock" ∧ path = "timelock-lock-idl.deployed.json" := by
  have hsimple : frozenPath "./build/release/simple-lock" = "simple-lock-idl.deployed.json" := by
    decide +kernel
  have htimelock : frozenPath "./build/release/timelock-lock" =
      "timelock-lock-idl.deployed.json" := by
    decide +kernel
  by_cases hs : argv[1]? = some "deploy-simple-lock"
  · simp [frozenFiles, hs, hsimple]
  · by_cases ht : argv[1]? = some "deploy-timelock-lock" <;> simp [frozenFiles, hs, ht, htimelock]

/-- **Which files the deployer changes.** In any number of runs, whatever they are asked to do and
wherever they stop, a file is changed only if it is the frozen IDL of one of the two locks, and only
if one of the runs was asked to deploy that lock. -/
theorem filesAfter_frame (crates : Crates) (sha256 : Bytes → Byte32) (disk : Disk)
    (calls : List (Env × List String)) (path : String) :
    filesAfter crates sha256 disk calls path = disk path ∨
      path = "simple-lock-idl.deployed.json" ∧
        (∃ call ∈ calls, call.2[1]? = some "deploy-simple-lock") ∨
      path = "timelock-lock-idl.deployed.json" ∧
        ∃ call ∈ calls, call.2[1]? = some "deploy-timelock-lock" := by
  by_cases h : ∃ call ∈ calls, path ∈ frozenFiles call.2
  · obtain ⟨call, hcall, hpath⟩ := h
    rcases mem_frozenFiles_iff.mp hpath with ⟨hcommand, rfl⟩ | ⟨hcommand, rfl⟩
    · exact Or.inr (Or.inl ⟨rfl, call, hcall, hcommand⟩)
    · exact Or.inr (Or.inr ⟨rfl, call, hcall, hcommand⟩)
  · refine Or.inl ?_
    -- no run of the list may write to it
    induction calls generalizing disk with
    | nil => rfl
    | cons call calls ih =>
      have hkeep := @keeps_main crates sha256 call.1 call.2 ⟨disk, []⟩ path fun hmem =>
        h ⟨call, List.mem_cons_self, hmem⟩
      exact (ih _ fun ⟨c, hc, hmem⟩ => h ⟨c, List.mem_cons_of_mem _ hc, hmem⟩).trans hkeep

end Deployer

end CkbScripts
