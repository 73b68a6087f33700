import CkbScripts.Lib.Outcome
import CkbScripts.Lib.Threshold
import CkbScripts.Vm
import CkbScripts.Wire

/-!
# The timelock-lock script

`contracts/timelock-lock`. The args are a compressed public key and a 32-byte commitment. The
witness brings a signature, the time from which the cell may be spent, and an optional payload;
header dep `0` is the clock.

The unlock time is a field of the *witness*. The check compares it with the clock and with nothing
else, so whoever spends the cell says when it opens: `checkTimelock_eq_ok_iff` puts acceptance in
the form of `Threshold.Admits`, and `unlock_time_binds_iff` is what is left of the time lock.

The signature check is the placeholder of the source: any signature but the all-zero one passes.

## Main definitions

* `Timelock.checkTimelock`, `Timelock.programEntry`
* `Timelock.Spendable`: what the check asks of args and witness apart from the time
* `Timelock.AcceptsAt`: acceptance at a header timestamp
* `Timelock.Committed`: args with a commitment in them

## Main results

* `Timelock.checkTimelock_eq_ok_iff`, `Timelock.accepts_loads_iff`
* `Timelock.unlock_time_binds_iff`: when one witness' unlock time constrains another
* `Timelock.commitment_of_acceptsAt`: what the commitment enforces
* `Timelock.noCommitmentAgrees_iff`: when the two ways to carry no commitment are one
-/

namespace CkbScripts

namespace Timelock

open Outcome

inductive Error
  | std (e : StdError)
  | invalidArgsLength
  | signatureInvalid
  | timelockNotMet
  | missingWitness
  deriving DecidableEq, Repr

def Error.code : Error → ℤ
  | .std e => e.code
  | .invalidArgsLength => 10
  | .signatureInvalid => 11
  | .timelockNotMet => 12
  | .missingWitness => 13

theorem Error.code_pos (e : Error) : 0 < e.code := by
  cases e with
  | std e => exact e.code_pos
  | _ => simp [code]

/-- Everything the script loads. -/
structure Loads where
  /-- `load_script()?.args().unpack()` -/
  args : Bytes
  /-- `Witness::from_witness_args(0, Source::GroupInput).ok()` -/
  witness : Option TimelockWitness
  /-- `load_header(0, Source::HeaderDep)` -/
  header : Except SysError Header

/-- What a run of the script loads. -/
def Loads.ofVm (decode : Bytes → Option TimelockWitness) (vm : Vm) : Loads where
  args := vm.script.args
  witness := vm.fromWitnessArgs decode
  header := vm.loadHeader 0

/-! ### The contract -/

def checkTimelock (H : Hashing) (l : Loads) : Except Error Unit :=
  -- only the lower end of "at least 33 bytes and at most 65" is checked
  if l.args.length < 33 then .error .invalidArgsLength
  else do
    let witness ← okOr l.witness .missingWitness
    let header ← l.header.mapError fun e => .std (.ofSysError e)
    let blockTimestampMs := header.timestamp
    if blockTimestampMs < witness.unlockAfterMs then .error .timelockNotMet
    else if witness.signature = zeros 65 then .error .signatureInvalid
    else if 65 ≤ l.args.length ∧ witness.extra ≠ [] then do
      let commitment ← okOr (tryInto 32 ((l.args.drop 33).take 32)) (.std .encoding)
      let actual := H.blake2b256 witness.extra
      if actual ≠ commitment then .error (.std .encoding) else return ()
    else return ()

/-- The exit code. -/
def programEntry (H : Hashing) (l : Loads) : ℤ := exitCode Error.code (checkTimelock H l)

theorem programEntry_eq_zero_iff (H : Hashing) (l : Loads) :
    programEntry H l = 0 ↔ checkTimelock H l = .ok () :=
  exitCode_eq_zero_iff Error.code_pos

/-! ### The last step

With a witness, a clock and args that hold a key, the time and the signature are looked at first
and the commitment last. -/

/-- `args[33..65]`. -/
def commitmentOf (args : Bytes) : Bytes := (args.drop 33).take 32

theorem length_commitmentOf {args : Bytes} (h : 65 ≤ args.length) :
    (commitmentOf args).length = 32 := by
  rw [commitmentOf, List.length_take, List.length_drop]
  omega

/-- The comparison with the commitment. -/
def extraStep (H : Hashing) (args extra : Bytes) : Except Error Unit :=
  if 65 ≤ args.length ∧ extra ≠ [] then do
    let commitment ← okOr (tryInto 32 ((args.drop 33).take 32)) (.std .encoding)
    if H.blake2b256 extra ≠ commitment then .error (.std .encoding) else return ()
  else return ()

theorem checkTimelock_of_witness (H : Hashing) {args : Bytes} (hlen : 33 ≤ args.length)
    (w : TimelockWitness) (t : U64) : checkTimelock H ⟨args, some w, .ok ⟨t⟩⟩ =
      if t < w.unlockAfterMs then .error .timelockNotMet
      else if w.signature = zeros 65 then .error .signatureInvalid
      else extraStep H args w.extra := by
  simp [checkTimelock, extraStep, Nat.not_lt.mpr hlen]

/-- Args without room for a commitment. -/
theorem extraStep_of_lt (H : Hashing) {args : Bytes} (hlen : args.length < 65) (extra : Bytes) :
    extraStep H args extra = .ok () := by
  simp [extraStep, Nat.not_le.mpr hlen]

/-- Args with one. -/
theorem extraStep_of_commitment (H : Hashing) {args : Bytes} {commitment : Byte32}
    (hlen : 65 ≤ args.length) (hcommitment : commitmentOf args = commitment.toList)
    (extra : Bytes) : extraStep H args extra =
      if extra = [] ∨ H.blake2b256 extra = commitment then .ok () else .error (.std .encoding) := by
  have htry : tryInto 32 ((args.drop 33).take 32) = some commitment :=
    tryInto_eq_some_iff.mpr hcommitment.symm
  by_cases hextra : extra = []
  · simp [extraStep, hextra]
  · by_cases heq : H.blake2b256 extra = commitment <;> simp [extraStep, hlen, hextra, htry, heq]

/-- A payload, if there is one and the args are long enough, is the committed one. -/
theorem extraStep_eq_ok_iff {H : Hashing} {args extra : Bytes} : extraStep H args extra = .ok () ↔
    (65 ≤ args.length → extra ≠ [] → (H.blake2b256 extra).toList = commitmentOf args) := by
  by_cases hlen : 65 ≤ args.length
  · obtain ⟨c, hc⟩ : ∃ c : Byte32, c.toList = commitmentOf args :=
      ⟨⟨_, length_commitmentOf hlen⟩, rfl⟩
    rw [extraStep_of_commitment H hlen hc.symm, ← hc, ← ByteVec.ext_iff]
    by_cases hextra : extra = []
    · simp [hextra]
    · by_cases heq : H.blake2b256 extra = c <;> simp [hlen, hextra, heq]
  · simp [extraStep_of_lt H (Nat.not_le.mp hlen), hlen]

/-! ### Acceptance -/

/-- What the check asks of args and witness apart from the time. -/
structure Spendable (H : Hashing) (args : Bytes) (w : TimelockWitness) : Prop where
  args_length : 33 ≤ args.length
  signature_ne : w.signature ≠ zeros 65
  /-- A payload that is there is the committed one. -/
  extra_eq : 65 ≤ args.length → w.extra ≠ [] → (H.blake2b256 w.extra).toList = commitmentOf args

/-- The check accepts witness `w` when header dep `0` carries timestamp `t`. -/
def AcceptsAt (H : Hashing) (args : Bytes) (w : TimelockWitness) (t : U64) : Prop :=
  checkTimelock H ⟨args, some w, .ok ⟨t⟩⟩ = .ok ()

instance (H : Hashing) (args : Bytes) (w : TimelockWitness) (t : U64) :
    Decidable (AcceptsAt H args w t) := inferInstanceAs (Decidable (_ = _))

/-- Without header dep `0` nothing is accepted. -/
theorem checkTimelock_header_error (H : Hashing) (args : Bytes) (w : Option TimelockWitness)
    (e : SysError) : checkTimelock H ⟨args, w, .error e⟩ =
      if args.length < 33 then .error .invalidArgsLength
      else if w = none then .error .missingWitness
      else .error (.std (.ofSysError e)) := by
  by_cases hlen : args.length < 33
  · simp [checkTimelock, hlen]
  · cases w <;> simp [checkTimelock, hlen]

/-- **Acceptance.** The time enters only through the witness' own bound. -/
theorem checkTimelock_eq_ok_iff (H : Hashing) (args : Bytes) (w : TimelockWitness) (t : U64) :
    AcceptsAt H args w t ↔
      Threshold.Admits (Spendable H args) TimelockWitness.unlockAfterMs w t := by
  have hspend : Spendable H args w ↔
      33 ≤ args.length ∧ w.signature ≠ zeros 65 ∧ extraStep H args w.extra = .ok () := by
    rw [extraStep_eq_ok_iff]
    exact ⟨fun h => ⟨h.1, h.2, h.3⟩, fun h => ⟨h.1, h.2.1, h.2.2⟩⟩
  rw [AcceptsAt, Threshold.Admits, hspend]
  by_cases hlen : args.length < 33
  · simp [checkTimelock, hlen, Nat.not_le.mpr hlen]
  rw [checkTimelock_of_witness H (Nat.not_lt.mp hlen)]
  by_cases htime : t < w.unlockAfterMs
  · simp [htime, BitVec.not_le.mpr htime]
  by_cases hsig : w.signature = zeros 65
  · simp [htime, hsig]
  · simp [htime, hsig, Nat.not_lt.mp hlen, BitVec.not_lt.mp htime]

/-- A run of the script accepts when there is a witness, there is a clock, and the witness passes
at the clock's time. -/
theorem accepts_loads_iff (H : Hashing) (l : Loads) :
    checkTimelock H l = .ok () ↔
      ∃ w h, l.witness = some w ∧ l.header = .ok h ∧ AcceptsAt H l.args w h.timestamp := by
  obtain ⟨args, witness, header⟩ := l
  cases header with
  | error e =>
    rw [checkTimelock_header_error]
    split_ifs <;> simp
  | ok h =>
    cases witness with
    | none => by_cases hlen : args.length < 33 <;> simp [checkTimelock, hlen]
    | some w => simp [AcceptsAt]

/-- The check opens at the witness' own bound and stays open. -/
theorem acceptsAt_eq_admits (H : Hashing) (args : Bytes) : AcceptsAt H args =
    Threshold.Admits (Spendable H args) TimelockWitness.unlockAfterMs := by
  funext w t
  exact propext (checkTimelock_eq_ok_iff H args w t)

/-! ### One lock

The lock the concrete instances run on: a key, the hash of the payload `hello` as commitment, and
the two hashes it takes to check payloads against it. -/

/-- A compressed public key, and behind it a commitment to the payload `hello`. -/
def helloArgs : Bytes :=
  (LittleEndian.ofNat 33
    0x0279be667ef9dcbbac55a06295ce870b07029bfcdb2dce28d959f2815b16f81798).reverse ++
  (Byte32.ofNat 0x2da1289373a9f6b7ed21db948f4dc5d942cf4023eaef1d5a2b1a45b9d12d1036).toList

/-- The payload whose hash the args commit to. -/
def hello : Bytes := [104, 101, 108, 108, 111]

/-- blake2b-256 at the payload and at the empty byte string, which the check would hash if it did
not skip it. -/
def helloHashing : Hashing :=
  Hashing.ofTable
    [([], 0x44f4c69744d5f8c55d642062949dcae49bc4e7ef43d388c5a12f42b5633d163e),
      (hello, 0x2da1289373a9f6b7ed21db948f4dc5d942cf4023eaef1d5a2b1a45b9d12d1036)] 0

/-- A witness with some signature that is not all zeros, which is all that is asked of it. -/
def helloWitness (unlockAfterMs : U64) (extra : Bytes) : TimelockWitness :=
  ⟨.replicate 65 1, unlockAfterMs, extra⟩

/-! ### Whom the time lock binds -/

/-- **What is left of the time lock.** Two witnesses for the same args: the unlock time of the
first keeps the second out exactly when one of them is no witness at all or the second carries an
unlock time at least as late. -/
theorem unlock_time_binds_iff (H : Hashing) (args : Bytes) (w₁ w₂ : TimelockWitness) :
    Threshold.Binds (AcceptsAt H args) TimelockWitness.unlockAfterMs w₁ w₂ ↔
      ¬ Spendable H args w₁ ∨ ¬ Spendable H args w₂ ∨ w₁.unlockAfterMs ≤ w₂.unlockAfterMs := by
  rw [acceptsAt_eq_admits]
  exact Threshold.binds_iff

/-- One witness waits for the millionth millisecond; the other, for the same cell, for nothing. -/
theorem not_binds_earlier_witness : ¬ Threshold.Binds (AcceptsAt helloHashing helloArgs)
    TimelockWitness.unlockAfterMs (helloWitness 1000000 hello) (helloWitness 0 hello) := by
  intro hbinds
  have hlate : AcceptsAt helloHashing helloArgs (helloWitness 1000000 hello) 1000000 := by
    decide +kernel
  have hearly : AcceptsAt helloHashing helloArgs (helloWitness 0 hello) 999999 := by
    decide +kernel
  exact hbinds 1000000 hlate 999999 (by decide) hearly

/-! ### What the commitment enforces -/

/-- An accepted witness shows the committed payload, and the args are a key and a commitment. -/
def CommitmentEnforced (H : Hashing) (args : Bytes) (w : TimelockWitness) (t : U64) : Prop :=
  AcceptsAt H args w t →
    args.length = 65 ∧ (H.blake2b256 w.extra).toList = commitmentOf args

instance (H : Hashing) (args : Bytes) (w : TimelockWitness) (t : U64) :
    Decidable (CommitmentEnforced H args w t) := inferInstanceAs (Decidable (_ → _))

/-- The args carry a commitment behind the key, and not the zeros, which are documented to stand for
none. -/
def Committed (args : Bytes) : Prop := 65 ≤ args.length ∧ args.drop 33 ≠ (zeros 32).toList

instance (args : Bytes) : Decidable (Committed args) := inferInstanceAs (Decidable (_ ∧ _))

/-- **A payload that is shown is the committed one.** Showing none is allowed: the comparison is
skipped for an empty `extra`. What a payload meets where the args say that there is no commitment
is not promised here; `noCommitmentAgrees_iff` is about that. -/
theorem commitment_of_acceptsAt (H : Hashing) (args : Bytes) (w : TimelockWitness) (t : U64)
    (hcommitted : Committed args) (hacc : AcceptsAt H args w t) :
    w.extra = [] ∨ (H.blake2b256 w.extra).toList = commitmentOf args := by
  obtain ⟨hspend, -⟩ := (checkTimelock_eq_ok_iff H args w t).mp hacc
  by_cases hextra : w.extra = []
  · exact Or.inl hextra
  · exact Or.inr (hspend.extra_eq hcommitted.1 hextra)

theorem commitment_of_acceptsAt_hello :
    AcceptsAt helloHashing helloArgs (helloWitness 1000000 hello) 1000000 ∧
      ((helloWitness 1000000 hello).extra = [] ∨
        (helloHashing.blake2b256 (helloWitness 1000000 hello).extra).toList =
          commitmentOf helloArgs) := by
  have hacc : AcceptsAt helloHashing helloArgs (helloWitness 1000000 hello) 1000000 := by
    decide +kernel
  exact ⟨hacc, commitment_of_acceptsAt helloHashing helloArgs _ _ (by decide +kernel) hacc⟩

/-- Args with a commitment that an accepted spend gets past. -/
def Evades (H : Hashing) (args : Bytes) (w : TimelockWitness) (t : U64) : Prop :=
  33 < args.length ∧ args.drop 33 ≠ (zeros 32).toList ∧ ¬ CommitmentEnforced H args w t

instance (H : Hashing) (args : Bytes) (w : TimelockWitness) (t : U64) :
    Decidable (Evades H args w t) := inferInstanceAs (Decidable (_ ∧ _))

/-- Three ways past the commitment to `hello`: no payload at all, some payload against args that
are a byte short, and the right payload against args that are a byte too long. -/
theorem not_commitmentEnforced_hello :
    Evades helloHashing helloArgs (helloWitness 0 []) 0 ∧
      Evades helloHashing (helloArgs.take 64) (helloWitness 0 [0]) 0 ∧
      Evades helloHashing (helloArgs ++ [0]) (helloWitness 0 hello) 0 := by
  refine ⟨?_, ?_, ?_⟩ <;> decide +kernel

/-! ### Saying that there is no commitment

A cell can do without a commitment in two ways: args that end after the key, or 32 zero bytes in
the commitment's place, which is what the deployer writes and what the layout in the source
documents as "all zeros = skip check". The check compares with the zeros like with any other
commitment. -/

/-- The args of a cell without a commitment, as `create_timelock_cell` writes them. -/
def zeroCommitmentArgs (pubkey : ByteVec 33) : Bytes := pubkey.toList ++ (zeros 32).toList

@[simp] theorem length_zeroCommitmentArgs (pubkey : ByteVec 33) :
    (zeroCommitmentArgs pubkey).length = 65 := by
  simp [zeroCommitmentArgs]

theorem commitmentOf_zeroCommitmentArgs (pubkey : ByteVec 33) :
    commitmentOf (zeroCommitmentArgs pubkey) = (zeros 32).toList := by
  rw [commitmentOf, zeroCommitmentArgs, List.drop_left' pubkey.length_toList,
    List.take_of_length_le (by simp)]

/-- The two ways have the same result. -/
def NoCommitmentAgrees (H : Hashing) (pubkey : ByteVec 33) (w : TimelockWitness) (t : U64) : Prop :=
  checkTimelock H ⟨pubkey.toList, some w, .ok ⟨t⟩⟩ =
    checkTimelock H ⟨zeroCommitmentArgs pubkey, some w, .ok ⟨t⟩⟩

instance (H : Hashing) (pubkey : ByteVec 33) (w : TimelockWitness) (t : U64) :
    Decidable (NoCommitmentAgrees H pubkey w t) := inferInstanceAs (Decidable (_ = _))

/-- **When the two agree.** A payload makes the difference, unless the run ends before it is looked
at or the payload hashes to zeros. -/
theorem noCommitmentAgrees_iff (H : Hashing) (pubkey : ByteVec 33) (w : TimelockWitness) (t : U64) :
    NoCommitmentAgrees H pubkey w t ↔ t < w.unlockAfterMs ∨ w.signature = zeros 65 ∨
      w.extra = [] ∨ H.blake2b256 w.extra = zeros 32 := by
  rw [NoCommitmentAgrees, checkTimelock_of_witness H (by simp),
    checkTimelock_of_witness H (by simp), extraStep_of_lt H (by simp),
    extraStep_of_commitment H (by simp) (commitmentOf_zeroCommitmentArgs pubkey)]
  by_cases htime : t < w.unlockAfterMs
  · simp [htime]
  by_cases hsig : w.signature = zeros 65
  · simp [htime, hsig]
  by_cases hextra : w.extra = [] ∨ H.blake2b256 w.extra = zeros 32
  · simp [hextra]
  · simp [htime, hsig, hextra]

/-- The key alone lets the payload `hello` through; the zeros do not. -/
theorem not_noCommitmentAgrees_hello :
    ¬ NoCommitmentAgrees helloHashing (.replicate 33 2) (helloWitness 0 hello) 0 := by
  decide +kernel

end Timelock

end CkbScripts
