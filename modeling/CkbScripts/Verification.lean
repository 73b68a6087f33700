import CkbScripts.Sdk
import CkbScripts.SimpleLock
import CkbScripts.SudtLedger
import CkbScripts.Timelock

/-!
# Verifying a whole transaction

The chain runs every script of a transaction once: each lock of an input, each type script of an
input or an output. It takes the transaction if all of them exit with `0`. Which code a script is,
its code hash and hash type say; scripts that are none of the repository's are code we know nothing
of, with an exit code of their own.

The ledger of `applyTx` asks the scripts and nothing else. The chain has further rules, on
capacities and cell deps for example, so it has fewer runs than this ledger, and what holds of every
run here holds of every run there. Where a result says that some transaction goes through, it says
so of the scripts, and whoever sends the transaction has to see to the further rules: outputs that
carry no more capacity than the inputs, and enough of it for their own bytes.

## Main definitions

* `Contract`, `Programs`: the code behind the scripts
* `ResolvedTx.groups`, `Programs.Verifies`, `Programs.applyTx`

## Main results

* `Programs.exit_sudt_eq_zero_iff`, `exit_simpleLock_eq_zero_iff`, `exit_timelockLock_eq_zero_iff`
* `Programs.sudt_run`: its runs are runs of the token ledger
-/

namespace CkbScripts

open Exchange

/-! ### Code -/

/-- The code of a script. -/
inductive Contract
  | sudt
  | simpleLock
  | timelockLock
  | foreign
  deriving DecidableEq, Repr

/-- A script without its args. -/
def Script.id (s : Script) : ScriptId := ⟨s.codeHash, s.hashType⟩

/-- What is deployed: which code a script id names, the generated witness decoders, and the exit
codes of everybody else's scripts. -/
structure Programs where
  contract : ScriptId → Contract
  decodeSimpleLock : Bytes → Option SimpleLock.Witness
  decodeTimelock : Bytes → Option TimelockWitness
  foreign : Vm → ℤ

/-- The scripts of a transaction, each once in each of its roles. -/
def ResolvedTx.groups (tx : ResolvedTx) : List Vm :=
  ((tx.inputs.map fun c => c.lock).dedup.map fun s => ⟨tx, .lock, s⟩) ++
    (Sudt.typeScripts tx).dedup.map fun s => ⟨tx, .type, s⟩

namespace Programs

variable (P : Programs) (H : Hashing)

/-- The exit code of one run. -/
def exit (vm : Vm) : ℤ :=
  match P.contract vm.script.id with
  | .sudt => Sudt.programEntry (.ofVm H vm)
  | .simpleLock => SimpleLock.programEntry H (.ofVm P.decodeSimpleLock vm)
  | .timelockLock => Timelock.programEntry H (.ofVm P.decodeTimelock vm)
  | .foreign => P.foreign vm

/-- Every script exits with `0`. -/
def Verifies (tx : ResolvedTx) : Prop := ∀ vm ∈ tx.groups, P.exit H vm = 0

instance (tx : ResolvedTx) : Decidable (P.Verifies H tx) :=
  inferInstanceAs (Decidable (∀ vm ∈ tx.groups, _))

/-- Consume the inputs and create the outputs of a transaction that verifies. -/
def applyTx (L : Sudt.Ledger) (tx : ResolvedTx) : Option Sudt.Ledger :=
  if P.Verifies H tx then exchange L tx.inputs tx.created else none

/-- The scripts that are the repository's token. -/
def isSudt (s : Script) : Bool := P.contract s.id = .sudt

variable {P H} {tx : ResolvedTx} {vm : Vm} {L L' : Sudt.Ledger}

/-! ### One run -/

/-- The token, as a type script. -/
theorem exit_sudt_eq_zero_iff {s : Script} (h : P.contract s.id = .sudt) :
    P.exit H ⟨tx, .type, s⟩ = 0 ↔ Sudt.Accepts H tx s := by
  rw [exit, h]
  exact Sudt.programEntry_eq_zero_iff _

/-- The hash lock: its witness is a preimage. -/
theorem exit_simpleLock_eq_zero_iff (h : P.contract vm.script.id = .simpleLock) :
    P.exit H vm = 0 ↔ ∃ w, vm.fromWitnessArgs P.decodeSimpleLock = some w ∧
      (H.blake2b256 w.preimage).toList = vm.script.args := by
  rw [exit, h]
  exact (SimpleLock.programEntry_eq_zero_iff H _).trans (SimpleLock.checkHash_eq_ok_iff H _)

/-- The time lock: it has a witness, and a clock that lets the witness pass. -/
theorem exit_timelockLock_eq_zero_iff (h : P.contract vm.script.id = .timelockLock) :
    P.exit H vm = 0 ↔ ∃ w header, vm.fromWitnessArgs P.decodeTimelock = some w ∧
      vm.loadHeader 0 = .ok header ∧ Timelock.AcceptsAt H vm.script.args w header.timestamp := by
  rw [exit, h]
  exact (Timelock.programEntry_eq_zero_iff H _).trans (Timelock.accepts_loads_iff H _)

/-- Everybody else's scripts. -/
theorem exit_of_foreign (h : P.contract vm.script.id = .foreign) : P.exit H vm = P.foreign vm := by
  rw [exit, h]

/-! ### A whole transaction -/

theorem verifies_iff : P.Verifies H tx ↔ (∀ c ∈ tx.inputs, P.exit H ⟨tx, .lock, c.lock⟩ = 0) ∧
    ∀ s ∈ Sudt.typeScripts tx, P.exit H ⟨tx, .type, s⟩ = 0 := by
  simp only [Verifies, ResolvedTx.groups, List.forall_mem_append, List.forall_mem_map,
    List.mem_dedup]

/-- Where nothing has a type script, none runs. -/
theorem typeScripts_eq_nil (hinputs : ∀ c ∈ tx.inputs, c.type_ = none)
    (houtputs : ∀ o ∈ tx.outputs, o.type_ = none) : Sudt.typeScripts tx = [] := by
  refine List.filterMap_eq_nil_iff.mpr fun d hd => ?_
  rcases List.mem_append.mp hd with hd | hd
  · obtain ⟨c, hc, rfl⟩ := List.mem_map.mp hd
    exact hinputs c hc
  · exact houtputs d hd

theorem applyTx_eq_some_iff : P.applyTx H L tx = some L' ↔
    P.Verifies H tx ∧ exchange L tx.inputs tx.created = some L' := by
  by_cases h : P.Verifies H tx <;> simp [applyTx, h]

/-- The token scripts are among those that have run. -/
theorem Verifies.sudt (h : P.Verifies H tx) : Sudt.Verified H P.isSudt tx := by
  intro s hs hsudt
  have hcontract : P.contract s.id = .sudt := by simpa [isSudt] using hsudt
  exact (exit_sudt_eq_zero_iff hcontract).mp ((verifies_iff.mp h).2 s hs)

theorem sudt_applyTx (h : P.applyTx H L tx = some L') :
    Sudt.applyTx H P.isSudt L tx = some L' := by
  obtain ⟨hver, hexchange⟩ := applyTx_eq_some_iff.mp h
  exact Sudt.applyTx_eq_some_iff.mpr ⟨hver.sudt, hexchange⟩

/-- A run of the chain is a run of the token ledger. -/
theorem sudt_run {txs : List ResolvedTx} (hrun : run (P.applyTx H) L txs = some L') :
    run (Sudt.applyTx H P.isSudt) L txs = some L' := by
  induction txs generalizing L with
  | nil => exact hrun
  | cons tx txs ih =>
    obtain ⟨mid, hmid, hrest⟩ := run_cons_eq_some_iff.mp hrun
    exact run_cons_eq_some_iff.mpr ⟨mid, sudt_applyTx hmid, ih hrest⟩

/-- Every step of a run verified its transaction. -/
theorem verifies_of_run {txs : List ResolvedTx}
    (hrun : run (P.applyTx H) L txs = some L') : ∀ tx ∈ txs, P.Verifies H tx := by
  induction txs generalizing L with
  | nil => simp
  | cons tx txs ih =>
    obtain ⟨mid, hmid, hrest⟩ := run_cons_eq_some_iff.mp hrun
    exact List.forall_mem_cons.mpr ⟨(applyTx_eq_some_iff.mp hmid).1, ih hrest⟩

end Programs

end CkbScripts
