import CkbScripts.DeployScript

/-!
# Deploying a script

`deploy_script`: the code cell holds the script binary and, if there is an IDL, the sha256 of its
bytes behind it. The IDL bytes are written to a file named after the script as well, and this
happens before anything is asked of the node. The files are explicit here, so that a theorem can
speak of what a call leaves behind when it fails after the write.

sha256 comes from a crate of its own and is a parameter.

## Main definitions

* `Disk`, `WriteResult`, `DeployEnv`: what a call meets
* `DeployScript.frozenPath`, `freezeIdl`: the frozen IDL
* `DeployScript.deployRequest`, `deployTx`, `deployScript`

## Main results

* `DeployScript.deployTx_eq_ok_iff`
* `DeployScript.deployScript_writes`: what a call does to the files
-/

namespace CkbScripts

open Outcome

/-! ### Files -/

/-- The contents of the files of the working directory. -/
abbrev Disk := String → Option Bytes

/-- How a call of `std::fs::write` ends. One that fails may have created, emptied or partly written
the file. -/
inductive WriteResult
  | done
  | failed (msg : String) (left : Option Bytes)

/-- What a call of `deploy_script` meets: its process, how its write ends, and the node. -/
structure DeployEnv extends Process where
  writeFile : String → Bytes → WriteResult
  node : Node

namespace DeployScript

/-! ### The frozen IDL -/

/-- `Path::file_name` on a path of `/`-separated components. -/
def fileName (path : String) : Option String :=
  match ((path.toList.splitOn '/').filter fun c => c ≠ [] ∧ c ≠ ['.']).getLast? with
  | none => none
  | some c => if c = ['.', '.'] then none else some (String.ofList c)

/-- The name of the file the IDL of a script is frozen to. -/
def frozenPath (scriptPath : String) : String :=
  (fileName scriptPath).getD "script" ++ "-idl.deployed.json"

/-- Read the IDL, if there is one, hash it and freeze it. -/
def freezeIdl (sha256 : Bytes → Byte32) (env : DeployEnv) (scriptPath : String)
    (idlPath : Option String) (disk : Disk) : Disk × Except Failure Bytes :=
  match idlPath with
  | none => (disk, .ok [])
  | some path =>
    match orError (env.readFile path) with
    | .error f => (disk, .error f)
    | .ok idlJsonBytes =>
      let path := frozenPath scriptPath
      match env.writeFile path idlJsonBytes with
      | .failed e left => (Function.update disk path left,
          .error (.error ("Failed to write frozen IDL to " ++ path ++ ": " ++ e)))
      | .done => (Function.update disk path (some idlJsonBytes), .ok (sha256 idlJsonBytes).toList)

/-! ### The code cell -/

/-- `(script_size as u64 + 100) * 100_000_000`; overflow checks are on in every profile. -/
def requiredCapacity (scriptSize : ℕ) : Option U64 :=
  if (scriptSize + 100) * 100000000 < 2 ^ 64 then
    some (BitVec.ofNat 64 ((scriptSize + 100) * 100000000))
  else none

/-- The code cell. -/
def deployOutputs (capacity : U64) (deployerLock : Script) (scriptBinary : Bytes) :
    List (CellOutput × Bytes) :=
  [(⟨capacity, deployerLock, none⟩, scriptBinary)]

/-- What `deploy_script` asks for, from the binary and its commitment on. -/
def deployRequest (crates : Crates) (node : Node) (deployerAddress : String)
    (senderKey : SecretKey) (scriptBinary : Bytes) : Except Failure BuildRequest := do
  let capacity ← okOr (requiredCapacity scriptBinary.length) .panic
  let deployerLock ← orPanic (crates.addressLock deployerAddress)
  let genesis ← genesisCellDeps crates node
  return {
    outputs := deployOutputs capacity deployerLock scriptBinary
    cellDepResolver := genesis
    balancer := .newSimple deployerLock
    unlockers := sighashUnlockers senderKey }

/-- The transaction it submits. -/
def deployTx (crates : Crates) (node : Node) (deployerAddress : String) (senderKey : SecretKey)
    (scriptBinary : Bytes) : Except Failure Transaction := do
  let req ← deployRequest crates node deployerAddress senderKey scriptBinary
  orError (node.buildUnlocked req)

/-- `deploy_script`, up to the submission. -/
def deployScriptTx (crates : Crates) (sha256 : Bytes → Byte32) (env : DeployEnv)
    (deployerAddress : String) (senderKey : SecretKey) (scriptPath : String)
    (idlPath : Option String) (disk : Disk) : Disk × Except Failure Transaction :=
  match orError (env.readFile scriptPath) with
  | .error f => (disk, .error f)
  | .ok scriptBinary =>
    let (disk, idlHash) := freezeIdl sha256 env scriptPath idlPath disk
    (disk, do
      let idlHash ← idlHash
      deployTx crates env.node deployerAddress senderKey (scriptBinary ++ idlHash))

/-- `deploy_script` -/
def deployScript (crates : Crates) (sha256 : Bytes → Byte32) (env : DeployEnv)
    (deployerAddress : String) (senderKey : SecretKey) (scriptPath : String)
    (idlPath : Option String) (disk : Disk) : Disk × Except Failure OutPoint :=
  let (disk, tx) :=
    deployScriptTx crates sha256 env deployerAddress senderKey scriptPath idlPath disk
  (disk, do
    let tx ← tx
    sendFirst env.node tx)

example : frozenPath "./build/release/simple-lock" = "simple-lock-idl.deployed.json" := by
  decide +kernel

example : frozenPath "contracts/../" = "script-idl.deployed.json" := by
  decide +kernel

/-! ### The name of the frozen IDL -/

theorem not_mem_of_mem_splitOn {α : Type} [DecidableEq α] {a : α} {l part : List α}
    (h : part ∈ l.splitOn a) : a ∉ part := by
  induction l generalizing part with
  | nil =>
    obtain rfl : part = [] := by simpa using h
    simp
  | cons x l ih =>
    rw [List.splitOn_cons_eq_if_modifyHead] at h
    by_cases hx : x = a
    · rcases List.mem_cons.mp (by simpa [hx] using h) with rfl | hmem
      · simp
      · exact ih hmem
    · obtain ⟨first, rest, hsplit⟩ := List.exists_cons_of_ne_nil (List.splitOn_ne_nil a l)
      rw [hsplit] at ih
      rcases List.mem_cons.mp (by simpa [hx, hsplit] using h) with rfl | hmem
      · simp [Ne.symm hx, ih List.mem_cons_self]
      · exact ih (List.mem_cons_of_mem _ hmem)

/-- A file name is one component. -/
theorem slash_notMem_of_fileName {path name : String} (h : fileName path = some name) :
    '/' ∉ name.toList := by
  rcases hlast : ((path.toList.splitOn '/').filter fun c => c ≠ [] ∧ c ≠ ['.']).getLast? with _ | c
  · rw [fileName, hlast] at h
    cases h
  · have hmem := (List.mem_filter.mp (List.mem_of_getLast? hlast)).1
    rw [fileName, hlast] at h
    by_cases hup : c = ['.', '.']
    · simp [hup] at h
    · obtain rfl : String.ofList c = name := by simpa [hup] using h
      simpa using not_mem_of_mem_splitOn hmem

/-- A component that means something is its own file name. -/
theorem fileName_of_slash_notMem {path : String} (h : '/' ∉ path.toList)
    (hlen : 2 < path.toList.length) : fileName path = some path := by
  have hne : ∀ {c : List Char}, c.length ≤ 2 → path.toList ≠ c := by
    rintro c hc rfl
    omega
  simp [fileName, List.splitOn_eq_singleton h, hne (c := []), hne (c := ['.']),
    hne (c := ['.', '.'])]

/-- The name an IDL is frozen under. -/
def scriptName (scriptPath : String) : String := (fileName scriptPath).getD "script"

theorem slash_notMem_scriptName (scriptPath : String) : '/' ∉ (scriptName scriptPath).toList := by
  rcases hname : fileName scriptPath with _ | name
  · rw [scriptName, hname]
    decide
  · rw [scriptName, hname]
    exact slash_notMem_of_fileName hname

theorem toList_frozenPath (scriptPath : String) : (frozenPath scriptPath).toList =
    (scriptName scriptPath).toList ++ "-idl.deployed.json".toList := by
  rw [frozenPath, scriptName, String.toList_append]

theorem frozenPath_eq_iff {scriptPath scriptPath' : String} :
    frozenPath scriptPath = frozenPath scriptPath' ↔
      scriptName scriptPath = scriptName scriptPath' := by
  rw [← String.toList_inj, toList_frozenPath, toList_frozenPath, List.append_left_inj,
    String.toList_inj]

/-- **The frozen IDL lies beside nothing it could overwrite.** It is a file of the working
directory, whatever the script's path, and its name is not the script's. -/
theorem fileName_frozenPath (scriptPath : String) :
    '/' ∉ (frozenPath scriptPath).toList ∧
      fileName (frozenPath scriptPath) = some (frozenPath scriptPath) ∧
      fileName scriptPath ≠ some (frozenPath scriptPath) := by
  have hslash : '/' ∉ (frozenPath scriptPath).toList := by
    rw [toList_frozenPath, List.mem_append, not_or]
    exact ⟨slash_notMem_scriptName scriptPath, by decide⟩
  have hlen : (frozenPath scriptPath).toList.length =
      (scriptName scriptPath).toList.length + 18 := by
    rw [toList_frozenPath, List.length_append]
    rfl
  refine ⟨hslash, fileName_of_slash_notMem hslash (by omega), fun hname => ?_⟩
  have hsame : scriptName scriptPath = frozenPath scriptPath := by rw [scriptName, hname]; rfl
  rw [← hsame] at hlen
  omega

/-! ### What is known of a deployment -/

theorem requiredCapacity_eq_some_iff {scriptSize : ℕ} {capacity : U64} :
    requiredCapacity scriptSize = some capacity ↔
      (scriptSize + 100) * 100000000 = capacity.toNat := by
  by_cases h : (scriptSize + 100) * 100000000 < 2 ^ 64
  · rw [requiredCapacity, if_pos h, Option.some.injEq, ← BitVec.toNat_inj, BitVec.toNat_ofNat,
      Nat.mod_eq_of_lt h]
  · have hne : (scriptSize + 100) * 100000000 ≠ capacity.toNat := by
      have := capacity.isLt
      omega
    rw [requiredCapacity, if_neg h]
    simp [hne]

/-- What is appended to the binary: nothing, or a sha256. -/
theorem length_le_of_freezeIdl {sha256 : Bytes → Byte32} {env : DeployEnv} {scriptPath : String}
    {idlPath : Option String} {disk : Disk} {idlHash : Bytes}
    (h : (freezeIdl sha256 env scriptPath idlPath disk).2 = .ok idlHash) : idlHash.length ≤ 32 := by
  cases idlPath with
  | none =>
    obtain rfl : [] = idlHash := Except.ok.inj h
    exact Nat.zero_le _
  | some path =>
    rcases hread : orError (env.readFile path) with f | idlJsonBytes
    · simp [freezeIdl, hread] at h
    · rcases hwrite : env.writeFile (frozenPath scriptPath) idlJsonBytes with _ | ⟨msg, left⟩
      · obtain rfl : (sha256 idlJsonBytes).toList = idlHash := by
          simpa [freezeIdl, hread, hwrite] using h
        simp
      · simp [freezeIdl, hread, hwrite] at h

/-- Freezing touches the file named after the script and no other. -/
theorem freezeIdl_disk (sha256 : Bytes → Byte32) (env : DeployEnv) (scriptPath : String)
    (idlPath : Option String) (disk : Disk) :
    (freezeIdl sha256 env scriptPath idlPath disk).1 = disk ∨ idlPath.isSome ∧
      ∃ content, (freezeIdl sha256 env scriptPath idlPath disk).1 =
        Function.update disk (frozenPath scriptPath) content := by
  cases idlPath with
  | none => exact Or.inl rfl
  | some path =>
    rcases hread : orError (env.readFile path) with f | idlJsonBytes
    · exact Or.inl (by simp [freezeIdl, hread])
    · refine Or.inr ⟨rfl, ?_⟩
      rcases hwrite : env.writeFile (frozenPath scriptPath) idlJsonBytes with _ | ⟨msg, left⟩
      · exact ⟨some idlJsonBytes, by simp [freezeIdl, hread, hwrite]⟩
      · exact ⟨left, by simp [freezeIdl, hread, hwrite]⟩

/-- So does a deployment. -/
theorem deployScriptTx_disk (crates : Crates) (sha256 : Bytes → Byte32) (env : DeployEnv)
    (deployerAddress : String) (senderKey : SecretKey) (scriptPath : String)
    (idlPath : Option String) (disk : Disk) :
    (deployScriptTx crates sha256 env deployerAddress senderKey scriptPath idlPath disk).1 = disk ∨
      idlPath.isSome ∧ ∃ content,
        (deployScriptTx crates sha256 env deployerAddress senderKey scriptPath idlPath disk).1 =
          Function.update disk (frozenPath scriptPath) content := by
  rcases hread : orError (env.readFile scriptPath) with f | scriptBinary
  · exact Or.inl (by simp [deployScriptTx, hread])
  · simp only [deployScriptTx, hread]
    exact freezeIdl_disk sha256 env scriptPath idlPath disk

/-- **What a deployment does to the files.** However it ends, it has changed one file at most: one
of the working directory, whose name is made from the script's file name, or from `script` where the
path has none, and is not the script's. Paths for which that name is the same share the file, and no
others do. -/
theorem deployScript_writes (crates : Crates) (sha256 : Bytes → Byte32) (env : DeployEnv)
    (deployerAddress : String) (senderKey : SecretKey) (scriptPath : String)
    (idlPath : Option String) (disk : Disk) :
    ((deployScript crates sha256 env deployerAddress senderKey scriptPath idlPath disk).1 = disk ∨
      idlPath.isSome ∧ ∃ content,
        (deployScript crates sha256 env deployerAddress senderKey scriptPath idlPath disk).1 =
          Function.update disk (frozenPath scriptPath) content) ∧
    '/' ∉ (frozenPath scriptPath).toList ∧
    fileName (frozenPath scriptPath) = some (frozenPath scriptPath) ∧
    fileName scriptPath ≠ some (frozenPath scriptPath) ∧
    ∀ scriptPath', frozenPath scriptPath' = frozenPath scriptPath ↔
      scriptName scriptPath' = scriptName scriptPath := by
  obtain ⟨hslash, hname, hscript⟩ := fileName_frozenPath scriptPath
  exact ⟨deployScriptTx_disk crates sha256 env deployerAddress senderKey scriptPath idlPath disk,
    hslash, hname, hscript, fun _ => frozenPath_eq_iff⟩

/-- What is deployed is the binary, and its commitment behind it. -/
theorem deployScriptTx_eq_ok {crates : Crates} {sha256 : Bytes → Byte32} {env : DeployEnv}
    {deployerAddress : String} {senderKey : SecretKey} {scriptPath : String}
    {idlPath : Option String} {disk : Disk} {tx : Transaction}
    (h : (deployScriptTx crates sha256 env deployerAddress senderKey scriptPath idlPath disk).2 =
      .ok tx) :
    ∃ scriptBinary idlHash, env.readFile scriptPath = .ok scriptBinary ∧
      (freezeIdl sha256 env scriptPath idlPath disk).2 = .ok idlHash ∧
      deployTx crates env.node deployerAddress senderKey (scriptBinary ++ idlHash) = .ok tx := by
  rcases hread : env.readFile scriptPath with e | scriptBinary
  · simp [deployScriptTx, hread, orError] at h
  · simp only [deployScriptTx, hread, orError, mapError_ok, bind_eq_ok_iff] at h
    obtain ⟨idlHash, hfreeze, hbuild⟩ := h
    exact ⟨scriptBinary, idlHash, rfl, hfreeze, hbuild⟩

theorem deployRequest_eq_ok_iff {crates : Crates} {node : Node} {deployerAddress : String}
    {senderKey : SecretKey} {scriptBinary : Bytes} {req : BuildRequest} :
    deployRequest crates node deployerAddress senderKey scriptBinary = .ok req ↔
      ∃ capacity deployerLock genesis, requiredCapacity scriptBinary.length = some capacity ∧
        crates.addressLock deployerAddress = .ok deployerLock ∧
        genesisCellDeps crates node = .ok genesis ∧
        ⟨deployOutputs capacity deployerLock scriptBinary, genesis, .newSimple deployerLock,
          sighashUnlockers senderKey⟩ = req := by
  simp only [deployRequest, bind_eq_ok_iff, okOr_eq_ok_iff, orPanic_eq_ok_iff, pure_eq_ok,
    Except.ok.injEq]
  constructor
  · rintro ⟨capacity, hcap, lock, hlock, genesis, hgenesis, hreq⟩
    exact ⟨capacity, lock, genesis, hcap, hlock, hgenesis, hreq⟩
  · rintro ⟨capacity, lock, genesis, hcap, hlock, hgenesis, hreq⟩
    exact ⟨capacity, hcap, lock, hlock, genesis, hgenesis, hreq⟩

/-- A deployment that got as far as submitting. -/
theorem deployTx_eq_ok_iff {crates : Crates} {node : Node} {deployerAddress : String}
    {senderKey : SecretKey} {scriptBinary : Bytes} {tx : Transaction} :
    deployTx crates node deployerAddress senderKey scriptBinary = .ok tx ↔
      ∃ capacity deployerLock genesis, requiredCapacity scriptBinary.length = some capacity ∧
        crates.addressLock deployerAddress = .ok deployerLock ∧
        genesisCellDeps crates node = .ok genesis ∧
        node.buildUnlocked ⟨deployOutputs capacity deployerLock scriptBinary, genesis,
          .newSimple deployerLock, sighashUnlockers senderKey⟩ = .ok tx := by
  simp only [deployTx, bind_eq_ok_iff, deployRequest_eq_ok_iff, orError_eq_ok_iff]
  constructor
  · rintro ⟨_, ⟨capacity, lock, genesis, hcap, hlock, hgenesis, rfl⟩, hbuild⟩
    exact ⟨capacity, lock, genesis, hcap, hlock, hgenesis, hbuild⟩
  · rintro ⟨capacity, lock, genesis, hcap, hlock, hgenesis, hbuild⟩
    exact ⟨_, ⟨capacity, lock, genesis, hcap, hlock, hgenesis, rfl⟩, hbuild⟩

end DeployScript

end CkbScripts
