import CkbScripts.Lib.CheckedSum
import CkbScripts.Vm

/-!
# The sUDT type script

`contracts/ckb_sudt_script`. The script compares the token amounts of its input and output group
and lets any amount through in owner mode, which it recognises by the *type* hash of an input.

The run sees a transaction only through its loads, so `sudtMain` is a function of those (`Loads`);
`Loads.ofVm` is where they come from. `sudtMain_eq_ok_iff` says what acceptance means in exact
arithmetic and is what every theorem about accepted transactions uses.

## Main definitions

* `Sudt.decodeAmount`, `sumAmounts`, `isOwnerMode`, `sudtMain`: the contract
* `Sudt.amountOf`: the exact amount in a data field, `0` when it is too short
* `Sudt.Loads.OwnerMode`, `Sudt.Loads.Conserving`: the two ways of being accepted

## Main results

* `Sudt.sumAmounts_eq_ok_iff`, `Sudt.isOwnerMode_eq`
* `Sudt.sudtMain_eq_ok_iff`
-/

namespace CkbScripts

namespace Sudt

open CheckedSum Outcome

inductive Error
  | std (e : StdError)
  | argsLength
  | overflow
  | outputOverflow
  deriving DecidableEq, Repr

def Error.code : Error → ℤ
  | .std e => e.code
  | .argsLength => 10
  | .overflow => 11
  | .outputOverflow => 12

theorem Error.code_pos (e : Error) : 0 < e.code := by
  cases e with
  | std e => exact e.code_pos
  | _ => simp [code]

/-- Everything the script loads. -/
structure Loads where
  /-- `load_script()?.args().unpack()` -/
  args : Bytes
  /-- `QueryIter::new(load_cell_type_hash, Source::Input)` -/
  inputTypeHashes : List (Option Byte32)
  /-- `QueryIter::new(load_cell_data, Source::GroupInput)` -/
  groupInputData : List Bytes
  /-- `QueryIter::new(load_cell_data, Source::GroupOutput)` -/
  groupOutputData : List Bytes
  deriving DecidableEq

/-- What a run of the script loads. -/
def Loads.ofVm (H : Hashing) (vm : Vm) : Loads where
  args := vm.script.args
  inputTypeHashes := vm.cellTypeHashes H .input
  groupInputData := vm.cellData .groupInput
  groupOutputData := vm.cellData .groupOutput

/-- The loads of one run of the script, as a type script. -/
def Loads.ofTx (H : Hashing) (tx : ResolvedTx) (script : Script) : Loads :=
  Loads.ofVm H ⟨tx, .type, script⟩

section ofTx

variable (H : Hashing) (tx : ResolvedTx) (script : Script)

theorem Loads.groupInputData_ofTx : (Loads.ofTx H tx script).groupInputData =
    ((tx.inputs.map LiveCell.toCell).filter fun c => c.type_ = some script).map Cell.data := rfl

theorem Loads.groupOutputData_ofTx : (Loads.ofTx H tx script).groupOutputData =
    (tx.outputs.filter fun c => c.type_ = some script).map Cell.data := rfl

end ofTx

/-! ### The contract -/

/-- The amount in the first sixteen bytes of the data. -/
def decodeAmount (data : Bytes) : Option U128 :=
  if h : data.length < 16 then none
  else some (fromLeBytes ⟨data.take 16, List.length_take_of_le (Nat.not_lt.mp h)⟩)

/-- Sum the amounts at a source. -/
def sumAmounts (source : List Bytes) : Except Error U128 :=
  source.foldlM (fun total data => do
    let amount ← okOr (decodeAmount data) (.std .encoding)
    okOr (checkedAdd total amount) .overflow) 0

/-- Scan the type hashes of all inputs for the owner's. -/
def isOwnerMode (ownerLockHash : Byte32) : List (Option Byte32) → Except Error Bool
  | [] => .ok false
  | none :: rest => isOwnerMode ownerLockHash rest
  | some lockHash :: rest =>
    if lockHash = ownerLockHash then .ok true else isOwnerMode ownerLockHash rest

def sudtMain (l : Loads) : Except Error Unit :=
  if l.args.length ≠ 32 then .error .argsLength
  else do
    let ownerLockHash ← okOr (tryInto 32 (l.args.take 32)) (.std .encoding)
    if ← isOwnerMode ownerLockHash l.inputTypeHashes then
      return ()
    else
      let inputSum ← sumAmounts l.groupInputData
      let outputSum ← sumAmounts l.groupOutputData
      if outputSum > inputSum then .error .outputOverflow else return ()

/-- The exit code. -/
def programEntry (l : Loads) : ℤ := exitCode Error.code (sudtMain l)

theorem programEntry_eq_zero_iff (l : Loads) : programEntry l = 0 ↔ sudtMain l = .ok () :=
  exitCode_eq_zero_iff Error.code_pos

/-! ### Amounts -/

/-- The exact amount in a data field; a field too short to hold one counts for nothing. -/
def amountOf (data : Bytes) : ℕ := (decodeAmount data).elim 0 BitVec.toNat

theorem decodeAmount_of_le {data : Bytes} (h : 16 ≤ data.length) :
    decodeAmount data = some (fromLeBytes ⟨data.take 16, List.length_take_of_le h⟩) :=
  dif_neg (Nat.not_lt.mpr h)

theorem decodeAmount_eq_none_iff {data : Bytes} : decodeAmount data = none ↔ data.length < 16 := by
  by_cases h : data.length < 16 <;> simp [decodeAmount, h]

theorem exists_decodeAmount_iff {data : Bytes} :
    (∃ x, decodeAmount data = some x) ↔ 16 ≤ data.length := by
  rw [← Option.isSome_iff_exists, Option.isSome_iff_ne_none, ne_eq, decodeAmount_eq_none_iff,
    Nat.not_lt]

/-- Sixteen bytes decode whatever follows them. -/
theorem decodeAmount_append (b : ByteVec 16) (rest : Bytes) :
    decodeAmount (b.toList ++ rest) = some (fromLeBytes b) := by
  rw [decodeAmount_of_le (by simp)]
  congr 2
  ext1
  simp

theorem decodeAmount_toList (b : ByteVec 16) : decodeAmount b.toList = some (fromLeBytes b) := by
  simpa using decodeAmount_append b []

/-! ### Sums -/

/-- The contract's loop is the checked sum of the decoded amounts. -/
theorem sumAmounts_eq_sumFrom (source : List Bytes) :
    sumAmounts source =
      sumFrom (fun data => okOr (decodeAmount data) (.std .encoding)) .overflow 0 source := rfl

theorem weight_decodeAmount :
    weight (fun data => okOr (decodeAmount data) (Error.std .encoding)) = amountOf := by
  funext data
  cases h : decodeAmount data <;> simp [weight, amountOf, h]

/-- **What a returned sum is.** Every cell holds an amount, and the word is their exact sum. -/
theorem sumAmounts_eq_ok_iff {source : List Bytes} {t : U128} :
    sumAmounts source = .ok t ↔
      (∀ data ∈ source, 16 ≤ data.length) ∧ (source.map amountOf).sum = t.toNat := by
  have hread (data : Bytes) :
      (∃ v, okOr (decodeAmount data) (Error.std .encoding) = .ok v) ↔ 16 ≤ data.length := by
    simp only [okOr_eq_ok_iff, exists_decodeAmount_iff]
  rw [sumAmounts_eq_sumFrom, sumFrom_eq_ok_iff, weight_decodeAmount]
  simp only [hread, BitVec.ofNat_eq_ofNat, BitVec.toNat_ofNat, Nat.zero_mod, Nat.zero_add]

/-! ### Owner mode -/

theorem isOwnerMode_eq (h : Byte32) (hashes : List (Option Byte32)) :
    isOwnerMode h hashes = .ok (decide (some h ∈ hashes)) := by
  induction hashes with
  | nil => simp [isOwnerMode]
  | cons o rest ih =>
    cases o with
    | none => simp [isOwnerMode, ih]
    | some x =>
      by_cases hx : x = h
      · simp [isOwnerMode, hx]
      · simp [isOwnerMode, hx, ih, Ne.symm hx]

/-- Some input's type hash is the args. -/
def Loads.OwnerMode (l : Loads) : Prop := ∃ h, some h ∈ l.inputTypeHashes ∧ h.toList = l.args

/-- Every cell of the group holds an amount, the inputs' exact total is a word, and the outputs'
is no larger. -/
structure Loads.Conserving (l : Loads) : Prop where
  inputs_decode : ∀ data ∈ l.groupInputData, 16 ≤ data.length
  outputs_decode : ∀ data ∈ l.groupOutputData, 16 ≤ data.length
  input_lt : (l.groupInputData.map amountOf).sum < 2 ^ 128
  output_le : (l.groupOutputData.map amountOf).sum ≤ (l.groupInputData.map amountOf).sum

/-! ### Acceptance -/

/-- Outside owner mode the script is the comparison of the two sums. -/
theorem sums_eq_ok_iff (l : Loads) :
    (do
      let inputSum ← sumAmounts l.groupInputData
      let outputSum ← sumAmounts l.groupOutputData
      if outputSum > inputSum then .error .outputOverflow else return ()) = Except.ok () ↔
      l.Conserving := by
  constructor
  · intro h
    obtain ⟨i, hin, h⟩ := bind_eq_ok_iff.mp h
    obtain ⟨o, hout, h⟩ := bind_eq_ok_iff.mp h
    obtain ⟨hiall, hisum⟩ := sumAmounts_eq_ok_iff.mp hin
    obtain ⟨hoall, hosum⟩ := sumAmounts_eq_ok_iff.mp hout
    have hle : o.toNat ≤ i.toNat := Nat.not_lt.mp (guard_eq_ok_iff.mp h).1
    exact ⟨hiall, hoall, hisum ▸ i.isLt, by omega⟩
  · rintro ⟨hiall, hoall, hilt, hle⟩
    have hin : sumAmounts l.groupInputData = .ok (BitVec.ofNat 128 _) :=
      sumAmounts_eq_ok_iff.mpr
        ⟨hiall, by rw [BitVec.toNat_ofNat, Nat.mod_eq_of_lt hilt]⟩
    have hout : sumAmounts l.groupOutputData = .ok (BitVec.ofNat 128 _) :=
      sumAmounts_eq_ok_iff.mpr
        ⟨hoall, by rw [BitVec.toNat_ofNat, Nat.mod_eq_of_lt (Nat.lt_of_le_of_lt hle hilt)]⟩
    have hnot : ¬ BitVec.ofNat 128 (l.groupOutputData.map amountOf).sum >
        BitVec.ofNat 128 (l.groupInputData.map amountOf).sum := by
      rw [gt_iff_lt, BitVec.lt_def, BitVec.toNat_ofNat, BitVec.toNat_ofNat,
        Nat.mod_eq_of_lt hilt, Nat.mod_eq_of_lt (Nat.lt_of_le_of_lt hle hilt)]
      omega
    simp [hin, hout, hnot]

/-- **Acceptance.** Well-formed args, and either owner mode or a conserving group. -/
theorem sudtMain_eq_ok_iff (l : Loads) :
    sudtMain l = .ok () ↔ l.args.length = 32 ∧ (l.OwnerMode ∨ l.Conserving) := by
  by_cases hlen : l.args.length = 32
  · -- the args are a hash, and the conversion cannot fail
    obtain ⟨h, hh⟩ : ∃ h : Byte32, h.toList = l.args := ⟨⟨l.args, hlen⟩, rfl⟩
    have htry : tryInto 32 (l.args.take 32) = some h := by
      rw [tryInto_eq_some_iff, hh, List.take_of_length_le (Nat.le_of_eq hlen)]
    have howner : l.OwnerMode ↔ some h ∈ l.inputTypeHashes := by
      constructor
      · rintro ⟨h', hmem, hargs⟩
        rwa [← ByteVec.ext (hargs.trans hh.symm)]
      · exact fun hmem => ⟨h, hmem, hh⟩
    rw [howner, ← sums_eq_ok_iff]
    by_cases hmem : some h ∈ l.inputTypeHashes
    · simp [sudtMain, hlen, htry, isOwnerMode_eq, hmem]
    · simp [sudtMain, hlen, htry, isOwnerMode_eq, hmem]
  · simp [sudtMain, hlen]

/-! ### One token

The token the concrete instances run on: its owner's lock, the type script that names it, the lock
of somebody else, and the hashes of the three scripts. -/

/-- The lock of the token's owner. Its code does not matter here, since only its hash is looked for.
-/
def ownerLock : Script := ⟨Byte32.ofNat 1, .data1, []⟩

/-- blake2b-256 of the owner's lock, which the args of the token hold. -/
def ownerLockHash : Byte32 :=
  Byte32.ofNat 0xcc13320aec861df9d2619b8f1afbfa106c9909ac303b073002bbf85d1b1491ee

/-- The type script of the token, which names its owner by that hash. -/
def token : Script := ⟨Byte32.ofNat 2, .data1, ownerLockHash.toList⟩

/-- The secp256k1 lock of a holder who is not the owner. -/
def holderLock : Script :=
  ⟨Byte32.ofNat 0x9bd7e06f3ecf4be0f2fcd2188b23f1b9fcc88e5d4b65a8637b17723bbda3cce8, .type,
    List.replicate 20 1⟩

/-- blake2b-256 at the three scripts of the token, and zero everywhere else. -/
def tokenHashing : Hashing :=
  Hashing.ofTable
    [(ownerLock.molecule, 0xcc13320aec861df9d2619b8f1afbfa106c9909ac303b073002bbf85d1b1491ee),
      (token.molecule, 0xdb9a825e5e86bd20be74064eebc9dc18e62d0c11a055c6a3f000bd254d918349),
      (holderLock.molecule, 0xbe1a32103e168e4e382dcaf294c7743c7a482c02a1b3b8656262071333f1cff7)] 0

/-- A cell of the token in the holder's hands, with its amount written as the contract reads it. -/
def tokenCell (amount : U128) : Cell :=
  ⟨⟨14200000000, holderLock, some token⟩, (toLeBytes (n := 16) amount).toList⟩

end Sudt

end CkbScripts
