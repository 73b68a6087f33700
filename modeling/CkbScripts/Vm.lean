import CkbScripts.Chain

/-!
# What a running script can load

CKB runs a script once for each group of cells that carry it. A lock script's group is the inputs
it locks; a type script's group is the inputs and the outputs it is the type of. `Vm` is one such
run, and the functions below are the loads of `ckb_std::high_level` the contracts make.

`QueryIter::new(load, source)` yields the loads at index `0, 1, …` until the source is exhausted,
so it is the list of them. `SysError::Unknown`, the one error the contracts turn into a panic, is
returned by none of these loads and has no constructor here.
-/

namespace CkbScripts

/-! ### Errors of a load -/

/-- `ckb_std::error::SysError`. -/
inductive SysError
  | indexOutOfBound
  | itemMissing
  | lengthNotEnough (actual : ℕ)
  | encoding
  | invalidFd
  | waitFailure
  | otherEndClosed
  | maxVmsSpawned
  | maxFdsCreated
  deriving DecidableEq, Repr

/-- The part of `Error` the three contracts share: the errors a `SysError` converts to. -/
inductive StdError
  | indexOutOfBound
  | itemMissing
  | lengthNotEnough
  | encoding
  | invalidFd
  | waitFailure
  | otherEndClosed
  | maxVmsSpawned
  | maxFdsCreated
  deriving DecidableEq, Repr

/-- `impl From<SysError> for Error`, word for word the same in each contract. -/
def StdError.ofSysError : SysError → StdError
  | .indexOutOfBound => .indexOutOfBound
  | .itemMissing => .itemMissing
  | .lengthNotEnough _ => .lengthNotEnough
  | .encoding => .encoding
  | .invalidFd => .invalidFd
  | .waitFailure => .waitFailure
  | .otherEndClosed => .otherEndClosed
  | .maxVmsSpawned => .maxVmsSpawned
  | .maxFdsCreated => .maxFdsCreated

/-- The discriminant, which is the exit code of the script. -/
def StdError.code : StdError → ℤ
  | .indexOutOfBound => 1
  | .itemMissing => 2
  | .lengthNotEnough => 3
  | .encoding => 4
  | .invalidFd => 5
  | .waitFailure => 6
  | .otherEndClosed => 7
  | .maxVmsSpawned => 8
  | .maxFdsCreated => 9

theorem StdError.code_pos (e : StdError) : 0 < e.code := by
  cases e <;> simp [code]

/-- What `program_entry` makes of the result of a check: `0`, or the error's discriminant. -/
def exitCode {ε : Type} (code : ε → ℤ) : Except ε Unit → ℤ
  | .ok () => 0
  | .error e => code e

/-- The chain accepts a script that exits with `0`, and no error has that code. -/
theorem exitCode_eq_zero_iff {ε : Type} {code : ε → ℤ} (hpos : ∀ e, 0 < code e)
    {r : Except ε Unit} : exitCode code r = 0 ↔ r = .ok () := by
  cases r with
  | ok u => simp [exitCode]
  | error e => simpa [exitCode] using (hpos e).ne'

/-! ### Script groups -/

/-- Whether the script runs as a lock or as a type script. -/
inductive ScriptRole
  | lock
  | type
  deriving DecidableEq, Repr

/-- One run of a script over a transaction. -/
structure Vm where
  tx : ResolvedTx
  role : ScriptRole
  script : Script

/-- The cell sources the contracts load from. -/
inductive Source
  | input
  | groupInput
  | groupOutput
  deriving DecidableEq, Repr

namespace Vm

/-- Whether a cell carries the running script in the running role. -/
def inGroup (vm : Vm) (c : Cell) : Bool :=
  match vm.role with
  | .lock => c.lock = vm.script
  | .type => c.type_ = some vm.script

/-- The cells of a source, in index order. A lock script has no output group. -/
def cells (vm : Vm) : Source → List Cell
  | .input => vm.tx.inputs.map LiveCell.toCell
  | .groupInput => (vm.tx.inputs.map LiveCell.toCell).filter vm.inGroup
  | .groupOutput =>
    match vm.role with
    | .lock => []
    | .type => vm.tx.outputs.filter vm.inGroup

/-- `QueryIter::new(load_cell_data, source)`. -/
def cellData (vm : Vm) (source : Source) : List Bytes := (vm.cells source).map Cell.data

/-- `QueryIter::new(load_cell_type_hash, source)`. -/
def cellTypeHashes (vm : Vm) (H : Hashing) (source : Source) : List (Option Byte32) :=
  (vm.cells source).map fun c => c.type_.map H.scriptHash

/-- `load_witness_args(0, Source::GroupInput)`: the witness in the slot of the first input of the
group. -/
def loadWitnessArgs (vm : Vm) : Except SysError WitnessArgs :=
  match vm.tx.inputs.findIdx? fun c => vm.inGroup c.toCell with
  | none => .error .indexOutOfBound
  | some i =>
    match vm.tx.witnesses[i]? with
    | none => .error .indexOutOfBound
    | some (.raw _) => .error .encoding
    | some (.args w) => .ok w

/-- `load_header(index, Source::HeaderDep)`. -/
def loadHeader (vm : Vm) (index : ℕ) : Except SysError Header :=
  match vm.tx.headerDeps[index]? with
  | none => .error .indexOutOfBound
  | some h => .ok h

/-- The generated `Witness::from_witness_args(0, Source::GroupInput)`: the lock field of the group's
first witness, decoded. `decode` comes from outside the repository, and both callers throw its
error away. -/
def fromWitnessArgs {α : Type} (vm : Vm) (decode : Bytes → Option α) : Option α :=
  match vm.loadWitnessArgs with
  | .error _ => none
  | .ok w => w.lock.bind decode

/-- A decoded witness was in the lock field of a witness of the transaction. -/
theorem exists_witness_of_fromWitnessArgs {α : Type} {vm : Vm} {decode : Bytes → Option α} {a : α}
    (h : vm.fromWitnessArgs decode = some a) :
    ∃ w b, Witness.args w ∈ vm.tx.witnesses ∧ w.lock = some b ∧ decode b = some a := by
  rcases hload : vm.loadWitnessArgs with e | w
  · simp [fromWitnessArgs, hload] at h
  · obtain ⟨b, hb, hdecode⟩ : ∃ b, w.lock = some b ∧ decode b = some a := by
      simpa [fromWitnessArgs, hload, Option.bind_eq_some_iff] using h
    refine ⟨w, b, ?_, hb, hdecode⟩
    unfold loadWitnessArgs at hload
    split at hload
    · cases hload
    · split at hload
      · cases hload
      · cases hload
      · obtain rfl := Except.ok.inj hload
        exact List.mem_of_getElem? ‹_›

/-! ### The group that starts at input `0` -/

theorem loadWitnessArgs_of_head {vm : Vm} {c : LiveCell} {rest : List LiveCell} {w : WitnessArgs}
    {ws : List Witness} (hin : vm.tx.inputs = c :: rest) (hgroup : vm.inGroup c.toCell = true)
    (hwit : vm.tx.witnesses = .args w :: ws) : vm.loadWitnessArgs = .ok w := by
  simp [loadWitnessArgs, hin, hgroup, hwit, List.findIdx?_cons]

theorem fromWitnessArgs_of_head {α : Type} {vm : Vm} {decode : Bytes → Option α} {c : LiveCell}
    {rest : List LiveCell} {b : Bytes} {ws : List Witness} (hin : vm.tx.inputs = c :: rest)
    (hgroup : vm.inGroup c.toCell = true) (hwit : vm.tx.witnesses = .args (.ofLock b) :: ws) :
    vm.fromWitnessArgs decode = decode b := by
  rw [fromWitnessArgs, loadWitnessArgs_of_head hin hgroup hwit]
  rfl

end Vm

end CkbScripts
