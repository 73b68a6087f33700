import CkbScripts.Lib.Outcome
import CkbScripts.Vm
import CkbScripts.Wire

/-!
# The simple-lock script

`contracts/simple-lock`. A hash lock: the args are a blake2b-256 hash, and the spender shows a
preimage of it. The witness decoder is generated by `CkbWitness`, so a run takes it as a parameter.

## Main definitions

* `SimpleLock.checkHash`, `SimpleLock.programEntry`
* `SimpleLock.format`: the documented layout of the one-field witness

## Main results

* `SimpleLock.checkHash_eq_ok_iff`
* `SimpleLock.checkHash_of_witness`: with well-formed args and a witness, the comparison decides
-/

namespace CkbScripts

namespace SimpleLock

open Outcome PrefixCodec

inductive Error
  | std (e : StdError)
  | invalidArgsLength
  | hashMismatch
  | missingWitness
  deriving DecidableEq, Repr

def Error.code : Error → ℤ
  | .std e => e.code
  | .invalidArgsLength => 10
  | .hashMismatch => 11
  | .missingWitness => 12

theorem Error.code_pos (e : Error) : 0 < e.code := by
  cases e with
  | std e => exact e.code_pos
  | _ => simp [code]

/-- The witness fields. -/
structure Witness where
  preimage : Bytes
  deriving DecidableEq

/-- The witness is its one bytes field. -/
def format : Decoder UInt8 Witness := mapped Witness.mk decodeBytesField

/-- Everything the script loads. -/
structure Loads where
  /-- `load_script()?.args().unpack()` -/
  args : Bytes
  /-- `Witness::from_witness_args(0, Source::GroupInput).ok()` -/
  witness : Option Witness
  deriving DecidableEq

/-- What a run of the script loads. -/
def Loads.ofVm (decode : Bytes → Option Witness) (vm : Vm) : Loads where
  args := vm.script.args
  witness := vm.fromWitnessArgs decode

/-! ### The contract -/

def checkHash (H : Hashing) (l : Loads) : Except Error Unit :=
  -- args must be exactly the expected hash
  if l.args.length ≠ 32 then .error .invalidArgsLength
  else do
    let expected ← okOr (tryInto 32 (l.args.take 32)) (.std .encoding)
    let witness ← okOr l.witness .missingWitness
    let actual := H.blake2b256 witness.preimage
    if actual = expected then return () else .error .hashMismatch

/-- The exit code. -/
def programEntry (H : Hashing) (l : Loads) : ℤ := exitCode Error.code (checkHash H l)

/-! ### What opens the lock -/

/-- With a hash for args and a witness that decodes, only the comparison is left. -/
theorem checkHash_of_witness (H : Hashing) (expected : Byte32) (w : Witness) :
    checkHash H ⟨expected.toList, some w⟩ =
      if H.blake2b256 w.preimage = expected then .ok () else .error .hashMismatch := by
  have htake : expected.toList.take 32 = expected.toList := List.take_of_length_le (by simp)
  simp [checkHash, htake]

/-- **Only a preimage opens the lock.** -/
theorem checkHash_eq_ok_iff (H : Hashing) (l : Loads) :
    checkHash H l = .ok () ↔
      ∃ w, l.witness = some w ∧ (H.blake2b256 w.preimage).toList = l.args := by
  obtain ⟨args, witness⟩ := l
  by_cases hlen : args.length = 32
  · obtain ⟨expected, rfl⟩ : ∃ e : Byte32, e.toList = args := ⟨⟨args, hlen⟩, rfl⟩
    cases witness with
    | none =>
      have htake : expected.toList.take 32 = expected.toList := List.take_of_length_le (by simp)
      simp [checkHash, htake]
    | some w => simp [checkHash_of_witness, ByteVec.ext_iff]
  · constructor
    · simp [checkHash, hlen]
    · rintro ⟨w, -, rfl⟩
      simp at hlen

theorem programEntry_eq_zero_iff (H : Hashing) (l : Loads) :
    programEntry H l = 0 ↔ checkHash H l = .ok () :=
  exitCode_eq_zero_iff Error.code_pos

end SimpleLock

end CkbScripts
