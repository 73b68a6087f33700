import CkbScripts.Deploy
import CkbScripts.Lib.Exchange
import CkbScripts.Spend
import CkbScripts.Wallet

/-!
# The frozen IDL and the deployed script

A deployment with an IDL leaves its mark in two places: the IDL bytes in a file, and their hash at
the end of the code cell. The file is written first, and everything that can fail at the node comes
after. This module follows the two through a run of deployments, of any scripts, each with whatever
environment it meets, and says of which runs it is true that after every call the file belongs to
the last successful deployment and a failed call has changed no file.

## Main definitions

* `Frozen.DeployCall`, `World`, `step`: calls, and what they leave behind
* `Frozen.BelongsTo`: the IDL is the one the code cell commits to
* `Frozen.KeepsFrozen`: a call does what it should
* `Frozen.DeployCall.Careful`: the condition on a call

## Main results

* `Frozen.keepsFrozen_iff`: one call
* `Frozen.keepsFrozen_run_iff`: a run
-/

namespace CkbScripts

namespace Frozen

open DeployScript Outcome Spend

/-! ### Calls -/

/-- A call of `deploy_script`, with what it meets. -/
structure DeployCall where
  env : DeployEnv
  deployerAddress : String
  senderKey : SecretKey
  scriptPath : String
  idlPath : Option String

/-- A code cell, and the transaction that created it. -/
structure Deployment where
  outPoint : OutPoint
  tx : Transaction
  deriving DecidableEq

/-- The files, and by the name of its frozen IDL the last script deployed successfully with one. -/
structure World where
  disk : Disk
  live : String → Option Deployment

/-- The world before the first call. -/
def World.start (disk : Disk) : World := ⟨disk, fun _ => none⟩

variable (crates : Crates) (sha256 : Bytes → Byte32)

namespace DeployCall

variable (c : DeployCall)

/-- What a call does at the node with the binary and its commitment. -/
def send (data : Bytes) : Except Failure Deployment := do
  let tx ← deployTx crates c.env.node c.deployerAddress c.senderKey data
  let outPoint ← sendFirst c.env.node tx
  return ⟨outPoint, tx⟩

/-- The files and the outcome of a call; `deploy_script` returns the out point of it. -/
def outcome (disk : Disk) : Disk × Except Failure Deployment :=
  let (disk, tx) := deployScriptTx crates sha256 c.env c.deployerAddress c.senderKey c.scriptPath
    c.idlPath disk
  (disk, do
    let tx ← tx
    let outPoint ← sendFirst c.env.node tx
    return ⟨outPoint, tx⟩)

/-- The call gets to the write, with this binary and this IDL. -/
def Freezes (scriptBinary idl : Bytes) : Prop :=
  c.env.readFile c.scriptPath = .ok scriptBinary ∧
    ∃ path, c.idlPath = some path ∧ c.env.readFile path = .ok idl

/-- The file it writes. -/
def frozen : String := frozenPath c.scriptPath

/-- Everything after the write succeeds: the capacity is a word, the address is one, and the node
answers, balances and accepts. -/
def Submits (data : Bytes) : Prop :=
  ∃ capacity deployerLock genesis tx txHash, requiredCapacity data.length = some capacity ∧
    crates.addressLock c.deployerAddress = .ok deployerLock ∧
    genesisCellDeps crates c.env.node = .ok genesis ∧
    c.env.node.buildUnlocked ⟨deployOutputs capacity deployerLock data, genesis,
      .newSimple deployerLock, sighashUnlockers c.senderKey⟩ = .ok tx ∧
    c.env.node.sendTransaction tx = .ok txHash

/-- The call does not put an IDL in the file that its deployment does not follow: a write that
fails leaves the file as it was, and one that succeeds changes nothing or everything after it
succeeds. -/
def Careful (disk : Disk) : Prop :=
  ∀ scriptBinary idl, c.Freezes scriptBinary idl →
    match c.env.writeFile c.frozen idl with
    | .failed _ left => left = disk c.frozen
    | .done => disk c.frozen = some idl ∨
        c.Submits crates (scriptBinary ++ (sha256 idl).toList)

end DeployCall

/-- One call. A deployment without an IDL is not one to compare a frozen IDL with. -/
def step (w : World) (c : DeployCall) : World :=
  match c.outcome crates sha256 w.disk with
  | (disk, .error _) => { w with disk := disk }
  | (disk, .ok d) =>
    ⟨disk, if c.idlPath.isSome then Function.update w.live c.frozen (some d) else w.live⟩

/-- A run of calls. -/
def run (w : World) (calls : List DeployCall) : World := calls.foldl (step crates sha256) w

/-! ### What a call should do -/

/-- The last 32 bytes of the code cell are the hash of the IDL. -/
def BelongsTo (idl : Bytes) (d : Deployment) : Prop :=
  ∃ data, d.tx.outputsData[d.outPoint.index.toNat]? = some data ∧
    data.drop (data.length - 32) = (sha256 idl).toList

/-- Every frozen IDL belongs to the last deployment. -/
def FrozenMatches (w : World) : Prop :=
  ∀ path d, w.live path = some d → ∃ idl, w.disk path = some idl ∧ BelongsTo sha256 idl d

/-- `verify_and_validate` after its commitment check. -/
def validateIdl (idl wireBytes : Bytes) : Except Failure (List ValidatedField) := do
  let idlDoc ← orErrorWith "failed to parse IDL JSON" (crates.idlDocument idl)
  orErrorWith "witness validation failed" (crates.validateWitnessBytes idlDoc.witness wireBytes)

/-- Whoever fetches the code cell of the last deployment and has the frozen file passes the
commitment check with them. -/
def FrozenVerifies (w : World) : Prop :=
  ∀ path d, w.live path = some d → ∀ (process : Process) (node : Node) (wireBytes : Bytes),
    process.readFile path = okOr (w.disk path) "No such file or directory" →
    node.getTransaction d.outPoint.txHash = .ok (some (some (.json d.tx))) →
    ∃ codeHash data idl, fetchCodeCellData crates node d.outPoint = .ok (codeHash, data) ∧
      w.disk path = some idl ∧
      verifyAndValidate crates process codeHash data path wireBytes =
        validateIdl crates idl wireBytes

/-- A call after which the frozen IDL is that of the last deployment, and which has changed no file
if it failed. -/
structure KeepsFrozen (w : World) (c : DeployCall) : Prop where
  belongs : FrozenMatches sha256 (step crates sha256 w c)
  verifies : FrozenVerifies crates (step crates sha256 w c)
  unchanged : ∀ f, (c.outcome crates sha256 w.disk).2 = .error f →
    (step crates sha256 w c).disk = w.disk

variable {crates sha256} {c : DeployCall} {w : World} {disk : Disk} {scriptBinary idl data : Bytes}
  {d : Deployment}

/-! ### How a call ends -/

/-- The outcome is that of `deploy_script`, which returns the out point of it. -/
theorem deployScript_eq :
    deployScript crates sha256 c.env c.deployerAddress c.senderKey c.scriptPath c.idlPath disk =
      ((c.outcome crates sha256 disk).1,
        (c.outcome crates sha256 disk).2.map Deployment.outPoint) := by
  rcases htx : deployScriptTx crates sha256 c.env c.deployerAddress c.senderKey c.scriptPath
    c.idlPath disk with ⟨disk', _ | tx⟩
  · simp [deployScript, DeployCall.outcome, htx, Except.map]
  · rcases hsend : sendFirst c.env.node tx with _ | outPoint <;>
      simp [deployScript, DeployCall.outcome, htx, hsend, Except.map]

/-- A call that does not get to the write changes no file, and does not succeed with an IDL. -/
theorem outcome_of_not_freezes (h : ∀ scriptBinary idl, ¬ c.Freezes scriptBinary idl) :
    (c.outcome crates sha256 disk).1 = disk ∧
      ∀ d, (c.outcome crates sha256 disk).2 = .ok d → c.idlPath = none := by
  rcases hscript : c.env.readFile c.scriptPath with e | scriptBinary
  · simp [DeployCall.outcome, deployScriptTx, hscript, orError]
  · rcases hidlPath : c.idlPath with _ | path
    · simp [DeployCall.outcome, deployScriptTx, freezeIdl, hscript, orError, hidlPath]
    · rcases hidl : c.env.readFile path with e | idl
      · simp [DeployCall.outcome, deployScriptTx, freezeIdl, hscript, orError, hidlPath, hidl]
      · exact absurd ⟨hscript, path, hidlPath, hidl⟩ (h scriptBinary idl)

/-- A write that fails ends the call. -/
theorem outcome_of_failed {msg : String} {left : Option Bytes} (h : c.Freezes scriptBinary idl)
    (hwrite : c.env.writeFile c.frozen idl = .failed msg left) :
    ∃ f, c.outcome crates sha256 disk = (Function.update disk c.frozen left, .error f) := by
  obtain ⟨hscript, path, hidlPath, hidl⟩ := h
  rw [DeployCall.frozen] at hwrite
  simp [DeployCall.outcome, DeployCall.frozen, deployScriptTx, freezeIdl, hscript, orError,
    hidlPath, hidl, hwrite]

/-- After a write that succeeds the call depends on the node. -/
theorem outcome_of_done (h : c.Freezes scriptBinary idl)
    (hwrite : c.env.writeFile c.frozen idl = .done) :
    c.outcome crates sha256 disk = (Function.update disk c.frozen (some idl),
      c.send crates (scriptBinary ++ (sha256 idl).toList)) := by
  obtain ⟨hscript, path, hidlPath, hidl⟩ := h
  rw [DeployCall.frozen] at hwrite
  simp [DeployCall.outcome, DeployCall.frozen, DeployCall.send, deployScriptTx, freezeIdl, hscript,
    orError, hidlPath, hidl, hwrite]

theorem exists_send_iff : (∃ d, c.send crates data = .ok d) ↔ c.Submits crates data := by
  simp only [DeployCall.send, sendFirst, bind_eq_ok_iff, deployTx_eq_ok_iff, orError_eq_ok_iff,
    pure_eq_ok, Except.ok.injEq]
  constructor
  · rintro ⟨_, tx, ⟨capacity, lock, genesis, hcap, hlock, hgenesis, hbuild⟩, _,
      ⟨txHash, hsend, -⟩, -⟩
    exact ⟨capacity, lock, genesis, tx, txHash, hcap, hlock, hgenesis, hbuild, hsend⟩
  · rintro ⟨capacity, lock, genesis, tx, txHash, hcap, hlock, hgenesis, hbuild, hsend⟩
    exact ⟨_, tx, ⟨capacity, lock, genesis, hcap, hlock, hgenesis, hbuild⟩, _, ⟨txHash, hsend, rfl⟩,
      rfl⟩

/-- The code cell of a deployment with an IDL ends with its hash. -/
theorem belongsTo_of_send (hemits : c.env.node.EmitsOutputs)
    (h : c.send crates (scriptBinary ++ (sha256 idl).toList) = .ok d) :
    BelongsTo sha256 idl d := by
  simp only [DeployCall.send, sendFirst, bind_eq_ok_iff, deployTx_eq_ok_iff, pure_eq_ok,
    Except.ok.injEq] at h
  obtain ⟨tx, ⟨capacity, lock, genesis, -, -, -, hbuild⟩, _, ⟨txHash, -, rfl⟩, rfl⟩ := h
  obtain ⟨-, data, -, hdata⟩ := hemits hbuild
  refine ⟨scriptBinary ++ (sha256 idl).toList, ?_, ?_⟩
  · rw [hdata]
    rfl
  · rw [List.length_append, ByteVec.length_toList, Nat.add_sub_cancel, List.drop_left]

/-! ### The step -/

theorem step_eq_of_error {disk' : Disk} {f : Failure}
    (h : c.outcome crates sha256 w.disk = (disk', .error f)) :
    step crates sha256 w c = { w with disk := disk' } := by
  rw [step, h]

theorem step_eq_of_ok {disk' : Disk} (h : c.outcome crates sha256 w.disk = (disk', .ok d)) :
    step crates sha256 w c =
      ⟨disk', if c.idlPath.isSome then Function.update w.live c.frozen (some d) else w.live⟩ := by
  rw [step, h]

/-- A call that changes no file, and does not succeed with an IDL, changes nothing. -/
theorem step_eq_self (hdisk : (c.outcome crates sha256 w.disk).1 = w.disk)
    (hidl : ∀ d, (c.outcome crates sha256 w.disk).2 = .ok d → c.idlPath = none) :
    step crates sha256 w c = w := by
  rcases hout : c.outcome crates sha256 w.disk with ⟨disk', f | d⟩
  · obtain rfl : disk' = w.disk := by simpa [hout] using hdisk
    exact step_eq_of_error hout
  · obtain rfl : disk' = w.disk := by simpa [hout] using hdisk
    rw [step_eq_of_ok hout, hidl d (by rw [hout])]
    rfl

/-- What a careful call does: it changes no file, or it gets to its end. -/
theorem outcome_of_careful (h : c.Careful crates sha256 disk) :
    ((c.outcome crates sha256 disk).1 = disk ∧
      ∀ d, (c.outcome crates sha256 disk).2 = .ok d → c.idlPath = none) ∨
    ∃ scriptBinary idl d, c.idlPath.isSome ∧
      c.send crates (scriptBinary ++ (sha256 idl).toList) = .ok d ∧
      c.outcome crates sha256 disk = (Function.update disk c.frozen (some idl), .ok d) := by
  by_cases hfreezes : ∃ scriptBinary idl, c.Freezes scriptBinary idl
  · obtain ⟨scriptBinary, idl, hfreezes⟩ := hfreezes
    have hcareful := h scriptBinary idl hfreezes
    rcases hwrite : c.env.writeFile c.frozen idl with _ | ⟨msg, left⟩
    · rw [hwrite] at hcareful
      have hout : c.outcome crates sha256 disk = _ := outcome_of_done hfreezes hwrite
      rcases hsend : c.send crates (scriptBinary ++ (sha256 idl).toList) with f | d
      · rcases hcareful with hsame | hsubmits
        · refine Or.inl ⟨?_, by simp [hout, hsend]⟩
          rw [hout, ← hsame, Function.update_eq_self]
        · obtain ⟨d, hd⟩ := exists_send_iff.mpr hsubmits
          cases hsend.symm.trans hd
      · obtain ⟨-, path, hpath, -⟩ := hfreezes
        exact Or.inr ⟨scriptBinary, idl, d, by simp [hpath], hsend, by rw [hout, hsend]⟩
    · rw [hwrite] at hcareful
      obtain ⟨f, hout⟩ : ∃ f, c.outcome crates sha256 disk = (_, .error f) :=
        outcome_of_failed hfreezes hwrite
      refine Or.inl ⟨?_, by simp [hout]⟩
      rw [hout, hcareful, Function.update_eq_self]
  · exact Or.inl (outcome_of_not_freezes fun scriptBinary idl h => hfreezes ⟨scriptBinary, idl, h⟩)

/-- Both marks of a deployment are made under the same name. -/
theorem frozenMatches_update (h : FrozenMatches sha256 w) (path : String)
    (hd : BelongsTo sha256 idl d) :
    FrozenMatches sha256
      ⟨Function.update w.disk path (some idl), Function.update w.live path (some d)⟩ := by
  intro path' d' hlive
  by_cases hpath : path' = path
  · subst hpath
    obtain rfl : d = d' := by simpa using hlive
    exact ⟨idl, by simp, hd⟩
  · have hlive' : w.live path' = some d' := by simpa [hpath] using hlive
    obtain ⟨idl', hdisk, hbelongs⟩ := h path' d' hlive'
    exact ⟨idl', by simpa [hpath] using hdisk, hbelongs⟩

/-- **The step lemma.** -/
theorem frozenMatches_step (hemits : c.env.node.EmitsOutputs)
    (hcareful : c.Careful crates sha256 w.disk) (h : FrozenMatches sha256 w) :
    FrozenMatches sha256 (step crates sha256 w c) := by
  rcases outcome_of_careful hcareful with ⟨hdisk, hidl⟩ | ⟨scriptBinary, idl, d, hidl, hsend, hout⟩
  · rw [step_eq_self hdisk hidl]
    exact h
  · rw [step_eq_of_ok hout, if_pos hidl]
    exact frozenMatches_update h c.frozen (belongsTo_of_send hemits hsend)

/-! ### What the frozen IDL is good for -/

/-- What is assumed of `IdlClient::verify`. -/
def VerifiesCommitment (crates : Crates) (sha256 : Bytes → Byte32) : Prop :=
  ∀ codeHash idl data, crates.idlVerify codeHash idl data = .ok () ↔
    crates.blake2b256 data = codeHash ∧ data.drop (data.length - 32) = (sha256 idl).toList

/-- The commitment check of a code cell that was fetched passes with an IDL that belongs to it. -/
theorem frozenVerifies_of_matches (hverify : VerifiesCommitment crates sha256)
    (h : FrozenMatches sha256 w) : FrozenVerifies crates w := by
  intro path d hlive process node wireBytes hread hfetch
  obtain ⟨idl, hdisk, data, hdata, hlast⟩ := h path d hlive
  refine ⟨crates.blake2b256 data, data, idl, ?_, hdisk, ?_⟩
  · simp [fetchCodeCellData, orError, hfetch, hdata]
  · have hok := (hverify (crates.blake2b256 data) idl data).mpr ⟨rfl, hlast⟩
    rw [hdisk] at hread
    simp [verifyAndValidate, validateIdl, orErrorWith, hread, hok]

/-! ### When a call keeps the frozen IDL -/

theorem step_disk : (step crates sha256 w c).disk = (c.outcome crates sha256 w.disk).1 := by
  rcases hout : c.outcome crates sha256 w.disk with ⟨disk', f | d⟩
  · rw [step_eq_of_error hout]
  · rw [step_eq_of_ok hout]

/-- Only a careful call leaves the files alone when it fails. -/
theorem careful_of_keepsFrozen (h : KeepsFrozen crates sha256 w c) :
    c.Careful crates sha256 w.disk := by
  intro scriptBinary idl hfreezes
  have hunchanged := h.unchanged
  rw [step_disk] at hunchanged
  rcases hwrite : c.env.writeFile c.frozen idl with _ | ⟨msg, left⟩
  · rw [outcome_of_done hfreezes hwrite] at hunchanged
    rcases hsend : c.send crates (scriptBinary ++ (sha256 idl).toList) with f | d
    · have hsame := congrFun (hunchanged f hsend) c.frozen
      exact Or.inl (by simpa using hsame.symm)
    · exact Or.inr (exists_send_iff.mp ⟨d, hsend⟩)
  · obtain ⟨f, hout⟩ : ∃ f, c.outcome crates sha256 w.disk = (_, .error f) :=
      outcome_of_failed hfreezes hwrite
    rw [hout] at hunchanged
    simpa using congrFun (hunchanged f rfl) c.frozen

/-- **One call** keeps the frozen IDL exactly when it is careful. -/
theorem keepsFrozen_iff (hverify : VerifiesCommitment crates sha256)
    (hemits : c.env.node.EmitsOutputs) (h : FrozenMatches sha256 w) :
    KeepsFrozen crates sha256 w c ↔ c.Careful crates sha256 w.disk := by
  refine ⟨careful_of_keepsFrozen, fun hcareful => ?_⟩
  have hmatches := frozenMatches_step hemits hcareful h
  refine ⟨hmatches, frozenVerifies_of_matches hverify hmatches, fun f hf => ?_⟩
  rw [step_disk]
  rcases outcome_of_careful hcareful with ⟨hdisk, -⟩ | ⟨_, _, _, -, -, hout⟩
  · exact hdisk
  · rw [hout] at hf
    cases hf

/-! ### Runs -/

/-- The run lemma: careful calls keep the frozen files and the deployments together. -/
theorem frozenMatches_run {calls : List DeployCall} (h : FrozenMatches sha256 w)
    (hemits : ∀ c ∈ calls, c.env.node.EmitsOutputs)
    (hcareful : ∀ before c, before ++ [c] <+: calls →
      c.Careful crates sha256 (run crates sha256 w before).disk) :
    FrozenMatches sha256 (run crates sha256 w calls) :=
  Exchange.foldl_induction
    (P := fun w c => c.env.node.EmitsOutputs ∧ c.Careful crates sha256 w.disk)
    (fun h ⟨hnode, hcareful⟩ => frozenMatches_step hnode hcareful h) h
    fun before c hbefore => ⟨@hemits c (hbefore.subset (by simp)), hcareful before c hbefore⟩

/-- **A run** keeps the frozen IDL at every call exactly when every call of it is careful. -/
theorem keepsFrozen_run_iff (crates : Crates) (sha256 : Bytes → Byte32)
    (hverify : VerifiesCommitment crates sha256) (disk : Disk) (calls : List DeployCall)
    (hemits : ∀ c ∈ calls, c.env.node.EmitsOutputs) :
    (∀ before c, before ++ [c] <+: calls →
        KeepsFrozen crates sha256 (run crates sha256 (.start disk) before) c) ↔
      ∀ before c, before ++ [c] <+: calls →
        c.Careful crates sha256 (run crates sha256 (.start disk) before).disk := by
  constructor
  · intro h before c hbefore
    exact careful_of_keepsFrozen (h before c hbefore)
  · intro h before c hbefore
    have hstart : FrozenMatches sha256 (.start disk) := by
      intro path d hlive
      cases hlive
    have hcalls : before <+: calls := (List.prefix_append before [c]).trans hbefore
    have hmatches := frozenMatches_run hstart
      (fun c' hc' => @hemits c' (hcalls.subset hc'))
      (fun before' c' hbefore' => h before' c' (hbefore'.trans hcalls))
    exact (keepsFrozen_iff hverify (@hemits c (hbefore.subset (by simp))) hmatches).mpr
      (h before c hbefore)

/-! ### A deployment that fails after another one

The sample wallet deploys a script with one IDL, and tries again with another; the node accepts the
first transaction and refuses the second. -/

/-- sha256 of the two IDLs that are deployed, the empty JSON object and the empty array. -/
def sampleSha256 (b : Bytes) : Byte32 :=
  Byte32.ofNat
    (if b = [123, 125] then 0x44136fa355b3678a1146ad16f7e8649e94fb4fc21fe77e8310c060f61caaff8a
      else if b = [91, 93] then 0x4f53cda18c2baa0c0354bb5f9a3ecbe5ed12ab4d8e11ba873c2f11161202b945
      else 0)

/-- The sample crates with an IDL client that verifies. -/
def idlCrates : Crates :=
  { sampleCrates 0 (0, .replicate 64 0) with
    idlVerify := fun codeHash idl data =>
      if (sampleHashing 0).blake2b256 data = codeHash ∧
          data.drop (data.length - 32) = (sampleSha256 idl).toList then .ok ()
      else .error "commitment mismatch" }

/-- A deployment of the same script by the same wallet, with this IDL and at this node. -/
def sampleCall (idl : Bytes) (node : Node) : DeployCall where
  env :=
    { var := fun _ => none
      readFile := fun path => .ok (if path = "simple-lock.json" then idl else sampleCode)
      writeFile := fun _ _ => .done
      node := node }
  deployerAddress := "ckt1sample"
  senderKey := ⟨sampleKey⟩
  scriptPath := "build/release/simple-lock"
  idlPath := some "simple-lock.json"

/-- The deployment with the IDL `{}`, which the node accepts. -/
def firstCall : DeployCall := sampleCall [123, 125] (sampleWallet 0 []).node

/-- The one with the IDL `[]`, which the node refuses because its pool is full. By then the file has
been written. -/
def secondCall : DeployCall :=
  sampleCall [91, 93]
    { (sampleWallet 0 []).node with sendTransaction := fun _ => .error "PoolIsFull" }

/-- What the first call leaves on the chain: four bytes of code and the commitment to `{}`. -/
def firstDeployment : Deployment where
  outPoint := ⟨Byte32.ofNat 0, 0⟩
  tx :=
    { version := 0
      cellDeps := [⟨⟨Byte32.ofNat 1, 0⟩, .depGroup⟩]
      headerDeps := []
      inputs := [.new ⟨Byte32.ofNat 5, 0⟩]
      outputs := [⟨13600000000, sampleLock, none⟩, ⟨9986399999500, sampleLock, none⟩]
      outputsData := [sampleCode ++ (sampleSha256 [123, 125]).toList, []]
      witnesses := [.args (.ofLock (List.replicate 65 1))] }

/-- The file both calls freeze their IDL to, since they deploy one script. -/
def sampleFrozenPath : String := "simple-lock-idl.deployed.json"

/-- After the second call the file holds the second IDL, while the code cell that is there commits
to the first. -/
theorem not_keepsFrozen_second :
    (run idlCrates sampleSha256 (.start fun _ => none) [firstCall, secondCall]).live
        sampleFrozenPath = some firstDeployment ∧
      (run idlCrates sampleSha256 (.start fun _ => none) [firstCall, secondCall]).disk
        sampleFrozenPath = some [91, 93] ∧
      ¬ KeepsFrozen idlCrates sampleSha256
        (run idlCrates sampleSha256 (.start fun _ => none) [firstCall]) secondCall := by
  have hlive : (run idlCrates sampleSha256 (.start fun _ => none) [firstCall, secondCall]).live
      sampleFrozenPath = some firstDeployment := by
    decide +kernel
  have hdisk : (run idlCrates sampleSha256 (.start fun _ => none) [firstCall, secondCall]).disk
      sampleFrozenPath = some [91, 93] := by
    decide +kernel
  refine ⟨hlive, hdisk, fun h => ?_⟩
  obtain ⟨idl, hidl, data, hdata, hlast⟩ := h.belongs sampleFrozenPath firstDeployment hlive
  obtain rfl : [91, 93] = idl := Option.some.inj (hdisk.symm.trans hidl)
  obtain rfl : sampleCode ++ (sampleSha256 [123, 125]).toList = data := Option.some.inj hdata
  have hne : (sampleCode ++ (sampleSha256 [123, 125]).toList).drop 4 ≠
      (sampleSha256 [91, 93]).toList := by
    decide +kernel
  exact hne hlast

theorem verifiesCommitment_idlCrates : VerifiesCommitment idlCrates sampleSha256 := by
  intro codeHash idl data
  by_cases h : (sampleHashing 0).blake2b256 data = codeHash ∧
      data.drop (data.length - 32) = (sampleSha256 idl).toList
  · exact ⟨fun _ => h, fun _ => if_pos h⟩
  · refine ⟨fun hok => ?_, fun hh => absurd hh h⟩
    cases (if_neg h).symm.trans hok

/-- A wallet's node emits the outputs, whatever it does with the transaction. -/
theorem emitsOutputs_sample {idl : Bytes} {send : Transaction → Except String Byte32} :
    (sampleCall idl { (sampleWallet 0 []).node with sendTransaction := send }).env.node.EmitsOutputs
    := by
  intro req tx hbuild
  have hplain : (sampleWallet 0 []).node.PlainOutputs := Wallet.plainOutputs
  exact hplain.emitsOutputs hbuild

theorem keepsFrozen_run_iff_sample :
    (∀ before c, before ++ [c] <+: [firstCall, secondCall] →
        KeepsFrozen idlCrates sampleSha256
          (run idlCrates sampleSha256 (.start fun _ => none) before) c) ↔
      ∀ before c, before ++ [c] <+: [firstCall, secondCall] →
        c.Careful idlCrates sampleSha256
          (run idlCrates sampleSha256 (.start fun _ => none) before).disk :=
  keepsFrozen_run_iff idlCrates sampleSha256 verifiesCommitment_idlCrates (fun _ => none)
    [firstCall, secondCall] (by
      intro c hc
      rcases List.mem_cons.mp hc with rfl | hc
      · exact emitsOutputs_sample
      · obtain rfl := List.mem_singleton.mp hc
        exact emitsOutputs_sample)

end Frozen

end CkbScripts
