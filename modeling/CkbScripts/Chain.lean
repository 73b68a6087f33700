import CkbScripts.Lib.LittleEndian
import CkbScripts.Lib.Outcome
import Mathlib.Data.List.Basic
import Mathlib.Algebra.BigOperators.Group.List.Basic
import Mathlib.Tactic.Common

/-!
# Cells, transactions and the chain they are resolved against

The data both halves of the repository talk about: the scripts that run on chain and the deployer
that builds transactions for them. Names follow `ckb_types`, in camel case.

A packed molecule value is represented by what it unpacks to. Only the one place where the bytes
themselves matter is kept as bytes: a witness of a transaction is an arbitrary byte string that may
or may not be a `WitnessArgs`, and `Witness` says which.

Hash functions are a parameter, `Hashing`. The script hash is the blake2b-256 of the script's
serialised bytes, which is how both `calc_script_hash` and the deployer compute it; nothing is
assumed of the functions themselves, and no theorem relies on collision resistance.

## Main definitions

* `Script`, `CellOutput`, `Transaction`: what a transaction is made of
* `Hashing`, `Hashing.scriptHash`
* `ChainView.resolve`, `ChainView.Resolved`: the cells and headers a transaction refers to
-/

namespace CkbScripts

/-! ### Bytes and words -/

/-- `Vec<u8>`, `&[u8]` and `Bytes`. -/
abbrev Bytes := List UInt8

/-- `[u8; n]`. -/
@[ext] structure ByteVec (n : ℕ) where
  toList : Bytes
  length_toList : toList.length = n
  deriving DecidableEq

attribute [simp] ByteVec.length_toList

/-- A 32-byte hash. -/
abbrev Byte32 := ByteVec 32

/-- `u32`. -/
abbrev U32 := BitVec 32

/-- `u64`. -/
abbrev U64 := BitVec 64

/-- `u128`. -/
abbrev U128 := BitVec 128

/-- `slice.try_into()` at an array type: the length has to match. -/
def tryInto (n : ℕ) (b : Bytes) : Option (ByteVec n) :=
  if h : b.length = n then some ⟨b, h⟩ else none

theorem tryInto_eq_some_iff {n : ℕ} {b : Bytes} {v : ByteVec n} :
    tryInto n b = some v ↔ v.toList = b := by
  constructor
  · intro h
    by_cases hn : b.length = n
    · obtain rfl : ⟨b, hn⟩ = v := by simpa [tryInto, hn] using h
      rfl
    · simp [tryInto, hn] at h
  · rintro rfl
    simp [tryInto]

@[simp] theorem tryInto_toList {n : ℕ} (v : ByteVec n) : tryInto n v.toList = some v :=
  tryInto_eq_some_iff.mpr rfl

/-- `[b; n]`. -/
def ByteVec.replicate (n : ℕ) (b : UInt8) : ByteVec n :=
  ⟨List.replicate n b, List.length_replicate⟩

/-- `[0u8; n]`. -/
def zeros (n : ℕ) : ByteVec n := .replicate n 0

/-- A hash written as one big-endian numeral. -/
def Byte32.ofNat (x : ℕ) : Byte32 := ⟨(LittleEndian.ofNat 32 x).reverse, by simp⟩

/-- `u32::to_le_bytes`, `u64::to_le_bytes` and `u128::to_le_bytes`, at the word's own width. -/
def toLeBytes {n : ℕ} (x : BitVec (8 * n)) : ByteVec n :=
  ⟨LittleEndian.ofNat n x.toNat, LittleEndian.length_ofNat n x.toNat⟩

/-- `u128::to_be_bytes`. -/
def toBeBytes {n : ℕ} (x : BitVec (8 * n)) : ByteVec n :=
  ⟨(LittleEndian.ofNat n x.toNat).reverse, by simp⟩

/-- `u128::from_le_bytes`. -/
def fromLeBytes {n : ℕ} (b : ByteVec n) : BitVec (8 * n) :=
  BitVec.ofNat (8 * n) (LittleEndian.toNat b.toList)

theorem two_pow_eight_mul (n : ℕ) : 2 ^ (8 * n) = 256 ^ n := by
  rw [Nat.pow_mul]

theorem toNat_fromLeBytes {n : ℕ} (b : ByteVec n) :
    (fromLeBytes b).toNat = LittleEndian.toNat b.toList := by
  have hlt : LittleEndian.toNat b.toList < 2 ^ (8 * n) := by
    rw [two_pow_eight_mul]
    simpa using LittleEndian.toNat_lt b.toList
  rw [fromLeBytes, BitVec.toNat_ofNat, Nat.mod_eq_of_lt hlt]

@[simp] theorem fromLeBytes_toLeBytes {n : ℕ} (x : BitVec (8 * n)) :
    fromLeBytes (toLeBytes x) = x := by
  rw [← BitVec.toNat_inj, toNat_fromLeBytes]
  exact LittleEndian.toNat_ofNat_of_lt (by rw [← two_pow_eight_mul]; exact x.isLt)

theorem fromLeBytes_toBeBytes_eq_iff {n : ℕ} (x : BitVec (8 * n)) :
    fromLeBytes (toBeBytes x) = x ↔ LittleEndian.Palindrome n x.toNat := by
  rw [← BitVec.toNat_inj, toNat_fromLeBytes]
  exact LittleEndian.toNat_reverse_ofNat_eq_iff (by rw [← two_pow_eight_mul]; exact x.isLt)

/-! ### Scripts and cells -/

/-- How `code_hash` names the code. -/
inductive ScriptHashType
  | data
  | type
  | data1
  | data2
  deriving DecidableEq, Repr

/-- The byte it is packed as, which is part of what is hashed for a script. -/
def ScriptHashType.byte : ScriptHashType → UInt8
  | .data => 0
  | .type => 1
  | .data1 => 2
  | .data2 => 4

/-- A lock or type script. -/
structure Script where
  /-- Which code runs. -/
  codeHash : Byte32
  /-- What `codeHash` is a hash of. -/
  hashType : ScriptHashType
  /-- The arguments the code loads. -/
  args : Bytes
  deriving DecidableEq

/-- The position of an output on chain. -/
structure OutPoint where
  txHash : Byte32
  index : U32
  deriving DecidableEq

/-- A cell without its data. -/
structure CellOutput where
  /-- In shannons. -/
  capacity : U64
  lock : Script
  type_ : Option Script
  deriving DecidableEq

/-- A reference to the cell an input consumes. -/
structure CellInput where
  previousOutput : OutPoint
  since : U64
  deriving DecidableEq

/-- `CellInput::new_builder().previous_output(o).build()`. -/
def CellInput.new (o : OutPoint) : CellInput := ⟨o, 0⟩

inductive DepType
  | code
  | depGroup
  deriving DecidableEq, Repr

structure CellDep where
  outPoint : OutPoint
  depType : DepType
  deriving DecidableEq

/-- The conventional layout of a witness. -/
structure WitnessArgs where
  lock : Option Bytes
  inputType : Option Bytes
  outputType : Option Bytes
  deriving DecidableEq

/-- `WitnessArgs::new_builder().lock(Some(b)).build()`. -/
def WitnessArgs.ofLock (b : Bytes) : WitnessArgs := ⟨some b, none, none⟩

/-- The bytes of a witness: a serialised `WitnessArgs`, or bytes that are none. -/
inductive Witness
  | args (w : WitnessArgs)
  | raw (b : Bytes)
  deriving DecidableEq

/-! ### Transactions -/

/-- The part of a transaction its hash covers. -/
structure RawTransaction where
  version : U32
  cellDeps : List CellDep
  headerDeps : List Byte32
  inputs : List CellInput
  outputs : List CellOutput
  outputsData : List Bytes
  deriving DecidableEq

structure Transaction extends RawTransaction where
  witnesses : List Witness
  deriving DecidableEq

/-- A cell with its data. -/
structure Cell where
  output : CellOutput
  data : Bytes
  deriving DecidableEq

/-- The lock script of a cell. -/
def Cell.lock (c : Cell) : Script := c.output.lock

/-- The type script of a cell, if it has one. -/
def Cell.type_ (c : Cell) : Option Script := c.output.type_

/-- The bytes a script takes up: code hash, hash type and args. -/
def Script.occupied (s : Script) : ℕ := 33 + s.args.length

/-- The bytes a cell takes up. It has to hold as many CKB. -/
def occupiedBytes (o : CellOutput × Bytes) : ℕ :=
  8 + o.1.lock.occupied + o.1.type_.elim 0 Script.occupied + o.2.length

/-- A cell together with where it lives. -/
structure LiveCell extends Cell where
  outPoint : OutPoint
  deriving DecidableEq

/-- What the scripts read of a block header. -/
structure Header where
  /-- In milliseconds. -/
  timestamp : U64
  deriving DecidableEq

/-- The hash functions, which come from outside the repository. -/
structure Hashing where
  /-- `ckb_hash::blake2b_256`. -/
  blake2b256 : Bytes → Byte32
  /-- `Script::as_slice`. -/
  scriptSlice : Script → Bytes
  /-- `TransactionView::hash`: witnesses are not covered. -/
  txHash : RawTransaction → Byte32

/-- `Script::calc_script_hash`, and what `load_cell_type_hash` and `load_cell_lock_hash` load. -/
def Hashing.scriptHash (H : Hashing) (s : Script) : Byte32 := H.blake2b256 (H.scriptSlice s)

/-- The molecule table of a script: its size, the offsets of the three fields, the fields. -/
def Script.molecule (s : Script) : Bytes :=
  LittleEndian.ofNat 4 (53 + s.args.length) ++ LittleEndian.ofNat 4 16 ++
    LittleEndian.ofNat 4 48 ++ LittleEndian.ofNat 4 49 ++ s.codeHash.toList ++
    [s.hashType.byte] ++ LittleEndian.ofNat 4 s.args.length ++ s.args

/-- Hash functions given by their values at the inputs an instance hashes. Only concrete instances
use this; every theorem is about an arbitrary `Hashing`. -/
def Hashing.ofTable (table : List (Bytes × ℕ)) (txHash : ℕ) : Hashing where
  blake2b256 b := Byte32.ofNat ((table.lookup b).getD 0)
  scriptSlice := Script.molecule
  txHash _ := Byte32.ofNat txHash

/-! ### Resolving a transaction -/

/-- A transaction with its references looked up: what the scripts of its cells get to see. -/
structure ResolvedTx where
  hash : Byte32
  inputs : List LiveCell
  outputs : List Cell
  headerDeps : List Header
  witnesses : List Witness
  deriving DecidableEq

/-- The cells a transaction leaves behind. -/
def ResolvedTx.created (tx : ResolvedTx) : List LiveCell :=
  tx.outputs.mapIdx fun i c => ⟨c, tx.hash, BitVec.ofNat 32 i⟩

theorem ResolvedTx.created_map_toCell (tx : ResolvedTx) :
    tx.created.map LiveCell.toCell = tx.outputs := by
  refine List.ext_getElem (by simp [created]) fun i _ _ => ?_
  simp [created]

/-- The live cells and the headers a node knows. -/
structure ChainView where
  cells : OutPoint → Option Cell
  headers : Byte32 → Option Header

/-- The live cell at `o`. -/
def ChainView.liveCell (chain : ChainView) (o : OutPoint) : Option LiveCell :=
  (chain.cells o).map fun c => ⟨c, o⟩

/-- Look up the inputs and the header deps; `none` when one of them is unknown. -/
def ChainView.resolve (chain : ChainView) (H : Hashing) (tx : Transaction) : Option ResolvedTx := do
  let inputs ← tx.inputs.mapM fun i => chain.liveCell i.previousOutput
  let headerDeps ← tx.headerDeps.mapM chain.headers
  return ⟨H.txHash tx.toRawTransaction, inputs, List.zipWith Cell.mk tx.outputs tx.outputsData,
    headerDeps, tx.witnesses⟩

/-- The capacity of the cell an input consumes, as an exact number. -/
def ChainView.inputCapacity (chain : ChainView) (i : CellInput) : Option ℕ :=
  (chain.cells i.previousOutput).map fun c => c.output.capacity.toNat

/-- The exact capacity of a list of outputs. -/
def outputCapacity (outputs : List CellOutput) : ℕ := (outputs.map fun o => o.capacity.toNat).sum

/-- What a transaction leaves to the miner: the capacity of its inputs less that of its outputs,
exactly; `none` when an input is unknown. -/
def ChainView.fee (chain : ChainView) (tx : RawTransaction) : Option ℤ :=
  (tx.inputs.mapM chain.inputCapacity).map fun capacities =>
    (capacities.sum : ℤ) - (outputCapacity tx.outputs : ℤ)

/-- What is known of a resolved transaction. -/
structure ChainView.Resolved (chain : ChainView) (H : Hashing) (tx : Transaction)
    (rtx : ResolvedTx) : Prop where
  hash_eq : rtx.hash = H.txHash tx.toRawTransaction
  inputs : List.Forall₂ (fun i c => chain.liveCell i.previousOutput = some c) tx.inputs rtx.inputs
  outputs_eq : rtx.outputs = List.zipWith Cell.mk tx.outputs tx.outputsData
  headerDeps : List.Forall₂ (fun h x => chain.headers h = some x) tx.headerDeps rtx.headerDeps
  witnesses_eq : rtx.witnesses = tx.witnesses

theorem ChainView.resolved {chain : ChainView} {H : Hashing} {tx : Transaction} {rtx : ResolvedTx}
    (h : chain.resolve H tx = some rtx) : chain.Resolved H tx rtx := by
  simp only [resolve, Option.bind_eq_bind, Option.bind_eq_some_iff, Option.pure_def,
    Option.some.injEq] at h
  obtain ⟨inputs, hin, headerDeps, hhead, rfl⟩ := h
  exact ⟨rfl, Outcome.mapM_eq_some_iff.mp hin, rfl, Outcome.mapM_eq_some_iff.mp hhead, rfl⟩

/-- A transaction is resolved when its inputs are live and it asks for no headers. -/
theorem ChainView.exists_resolve {chain : ChainView} (H : Hashing) {tx : Transaction}
    (hinputs : ∀ i ∈ tx.inputs, ∃ c, chain.cells i.previousOutput = some c)
    (hheaders : tx.headerDeps = []) : ∃ rtx, chain.resolve H tx = some rtx := by
  obtain ⟨inputs, hfound⟩ : ∃ inputs, List.Forall₂
      (fun (i : CellInput) c => chain.liveCell i.previousOutput = some c) tx.inputs inputs := by
    refine Outcome.exists_forall₂_of_forall fun i hi => ?_
    obtain ⟨c, hc⟩ := hinputs i hi
    exact ⟨⟨c, i.previousOutput⟩, by rw [liveCell, hc, Option.map_some]⟩
  refine ⟨⟨H.txHash tx.toRawTransaction, inputs, List.zipWith Cell.mk tx.outputs tx.outputsData, [],
    tx.witnesses⟩, ?_⟩
  rw [resolve, Outcome.mapM_eq_some_iff.mpr hfound, hheaders]
  rfl

theorem ChainView.liveCell_eq_some_iff {chain : ChainView} {o : OutPoint} {c : LiveCell} :
    chain.liveCell o = some c ↔ chain.cells o = some c.toCell ∧ c.outPoint = o := by
  rw [liveCell, Option.map_eq_some_iff]
  constructor
  · rintro ⟨d, hd, rfl⟩
    exact ⟨hd, rfl⟩
  · rintro ⟨hc, rfl⟩
    exact ⟨c.toCell, hc, rfl⟩

/-- The first resolved input is the cell the first input refers to. -/
theorem ChainView.Resolved.exists_inputs_eq_cons {chain : ChainView} {H : Hashing}
    {tx : Transaction} {rtx : ResolvedTx} {i : CellInput} {inputs : List CellInput} {c : Cell}
    (h : chain.Resolved H tx rtx) (hinputs : tx.inputs = i :: inputs)
    (hlive : chain.cells i.previousOutput = some c) :
    ∃ rest, rtx.inputs = ⟨c, i.previousOutput⟩ :: rest := by
  have hforall := h.inputs
  rw [hinputs] at hforall
  obtain ⟨d, rest, hcell, -, hcons⟩ := List.forall₂_cons_left_iff.mp hforall
  obtain ⟨hcells, hout⟩ := ChainView.liveCell_eq_some_iff.mp hcell
  obtain rfl : c = d.toCell := Option.some.inj (hlive.symm.trans hcells)
  exact ⟨rest, by rw [hcons, ← hout]⟩

/-- The witnesses are carried over as they are. -/
theorem ChainView.Resolved.exists_witnesses_eq_cons {chain : ChainView} {H : Hashing}
    {tx : Transaction} {rtx : ResolvedTx} {w : Witness} (h : chain.Resolved H tx rtx)
    (hfirst : tx.witnesses[0]? = some w) : ∃ ws, rtx.witnesses = w :: ws := by
  rw [h.witnesses_eq]
  exact List.head?_eq_some_iff.mp (List.head?_eq_getElem?.trans hfirst)

end CkbScripts
