import CkbScripts.Lib.Outcome
import CkbScripts.Vm

/-!
# What the deployer calls

The deployer is glue between crates that are not part of the repository: the RPC client, the SDK's
transaction builder and unlocker, hex, secp256k1 and the IDL client. They are parameters here, in
two groups. `Crates` holds what computes and nothing else; `Node` holds what asks the node, and one
value of it is one moment of the chain. The structures in between are the arguments the deployer
passes, with the fields it sets.

`build_unlocked` and `unlock_tx` are what the deployer relies on most, and the last section names
the properties of theirs it relies on. Nothing is assumed globally: a theorem takes the ones it
uses as hypotheses.

## Main definitions

* `Failure`: the two ways a command stops early
* `Crates`, `Node`: the code the deployer calls
* `BuildRequest`: what it hands to `build_unlocked`
* `Node.PlainInputs`, `EmitsOutputs`, `PlainOutputs`, `NoHeaderDeps`, `NeedsDeps`, `Funds`:
  properties of `build_unlocked`
* `Node.UnlockKeepsRaw`, `UnlockOnlySighash`: properties of `unlock_tx`
-/

namespace CkbScripts

open Outcome

/-! ### Failures -/

/-- How a command of the deployer stops before its end. -/
inductive Failure
  /-- An `Err`, with its message. -/
  | error (msg : String)
  /-- A failed `expect`, with its message. -/
  | expect (msg : String)
  /-- A failed `unwrap`, or a slice of the wrong length. -/
  | panic
  deriving DecidableEq, Repr

/-- The `?` operator, on an error of some crate. -/
def orError {α : Type} (x : Except String α) : Except Failure α := x.mapError .error

/-- `unwrap` on a result. -/
def orPanic {α : Type} (x : Except String α) : Except Failure α := x.mapError fun _ => .panic

/-- `map_err(|e| anyhow!("{context}: {e}"))` and then `?`. -/
def orErrorWith {α : Type} (context : String) (x : Except String α) : Except Failure α :=
  x.mapError fun e => .error (context ++ ": " ++ e)

theorem orError_eq_ok_iff {α : Type} {x : Except String α} {a : α} :
    orError x = .ok a ↔ x = .ok a := mapError_eq_ok_iff

theorem orPanic_eq_ok_iff {α : Type} {x : Except String α} {a : α} :
    orPanic x = .ok a ↔ x = .ok a := mapError_eq_ok_iff

theorem orErrorWith_eq_ok_iff {α : Type} {context : String} {x : Except String α} {a : α} :
    orErrorWith context x = .ok a ↔ x = .ok a := mapError_eq_ok_iff

/-! ### Keys, script ids and dep resolution -/

/-- `secp256k1::SecretKey`. -/
structure SecretKey where
  bytes : ByteVec 32
  deriving DecidableEq

/-- `ckb_sdk::ScriptId`: a script without its args. -/
structure ScriptId where
  codeHash : Byte32
  hashType : ScriptHashType
  deriving DecidableEq

/-- `ScriptId::new_data`. -/
def ScriptId.newData (codeHash : Byte32) : ScriptId := ⟨codeHash, .data⟩

/-- `ScriptId::new_type`. -/
def ScriptId.newType (codeHash : Byte32) : ScriptId := ⟨codeHash, .type⟩

/-- `ckb_sdk::constants::SIGHASH_TYPE_HASH`. -/
def sighashTypeHash : Byte32 :=
  Byte32.ofNat 0x9bd7e06f3ecf4be0f2fcd2188b23f1b9fcc88e5d4b65a8637b17723bbda3cce8

/-- The secp256k1 lock of the genesis block. -/
def Script.IsSighash (s : Script) : Prop := s.codeHash = sighashTypeHash ∧ s.hashType = .type

instance (s : Script) : Decidable s.IsSighash := inferInstanceAs (Decidable (_ ∧ _))

/-- `DefaultCellDepResolver`: the dep of each known script, with a name. -/
structure CellDepResolver where
  items : List (ScriptId × CellDep × String)
  deriving DecidableEq

/-- `DefaultCellDepResolver::insert`: a later entry replaces an earlier one. -/
def CellDepResolver.insert (r : CellDepResolver) (id : ScriptId) (dep : CellDep) (name : String) :
    CellDepResolver :=
  ⟨(id, dep, name) :: r.items.filter fun item => item.1 ≠ id⟩

/-- The dep of a script, found under its code hash and hash type together. -/
def CellDepResolver.get (r : CellDepResolver) (s : Script) : Option CellDep :=
  (r.items.lookup ⟨s.codeHash, s.hashType⟩).map Prod.fst

theorem lookup_filter_ne {α β : Type} [DecidableEq α] {a k : α} (h : k ≠ a) (l : List (α × β)) :
    (l.filter fun item => item.1 ≠ a).lookup k = l.lookup k := by
  induction l with
  | nil => rfl
  | cons item l ih =>
    obtain ⟨x, b⟩ := item
    by_cases hx : x = a
    · have hk : (k == x) = false := by simpa [hx] using h
      rw [List.filter_cons_of_neg (by simpa using hx), ih, List.lookup_cons, hk]
    · rw [List.filter_cons_of_pos (by simpa using hx), List.lookup_cons, List.lookup_cons, ih]

theorem CellDepResolver.get_insert (r : CellDepResolver) (id : ScriptId) (dep : CellDep)
    (name : String) (s : Script) :
    (r.insert id dep name).get s = if (⟨s.codeHash, s.hashType⟩ : ScriptId) = id then some dep
      else r.get s := by
  by_cases h : (⟨s.codeHash, s.hashType⟩ : ScriptId) = id
  · simp [insert, get, h]
  · have hne : ((⟨s.codeHash, s.hashType⟩ : ScriptId) == id) = false := by simpa using h
    rw [if_neg h, get, insert, List.lookup_cons, hne]
    simp only [lookup_filter_ne h]
    rfl

/-- `HashMap<ScriptId, Box<dyn ScriptUnlocker>>`. Every unlocker of the deployer is a
`SecpSighashUnlocker` over one key. -/
abbrev Unlockers := List (ScriptId × SecretKey)

/-- The one unlocker every command sets up. -/
def sighashUnlockers (key : SecretKey) : Unlockers := [(ScriptId.newType sighashTypeHash, key)]

/-! ### Building a transaction -/

/-- `CapacityBalancer`. -/
structure CapacityBalancer where
  capacityProvider : Script
  placeholderWitness : WitnessArgs
  feeRate : U64
  deriving DecidableEq

/-- The witness every command reserves room with. -/
def placeholderWitness : WitnessArgs := .ofLock (zeros 65).toList

/-- `CapacityBalancer::new_simple(lock, placeholder_witness, 1000)`. -/
def CapacityBalancer.newSimple (lock : Script) : CapacityBalancer :=
  ⟨lock, CkbScripts.placeholderWitness, 1000⟩

/-- `CapacityTransferBuilder::new(outputs)` and the arguments of its `build_unlocked`. The cell
collector, the header dep resolver and the dependency provider only carry the RPC connection. -/
structure BuildRequest where
  outputs : List (CellOutput × Bytes)
  cellDepResolver : CellDepResolver
  balancer : CapacityBalancer
  unlockers : Unlockers
  deriving DecidableEq

/-- Every dep that is looked up for a request is found: that of the lock that pays, and that of each
type script on an output. -/
structure BuildRequest.Resolvable (req : BuildRequest) : Prop where
  payer : (req.cellDepResolver.get req.balancer.capacityProvider).isSome
  types : ∀ o ∈ req.outputs, ∀ s, o.1.type_ = some s → (req.cellDepResolver.get s).isSome

/-! ### Asking the node -/

/-- The two forms `get_transaction` answers in. -/
inductive TxFormat
  | json (tx : Transaction)
  | bytes (b : Bytes)
  deriving DecidableEq

/-- What `DefaultCellDepResolver::from_genesis` reads of a block. -/
structure Block where
  transactions : List Transaction
  deriving DecidableEq

inductive ScriptType
  | lock
  | type
  deriving DecidableEq, Repr

inductive SearchMode
  | prefixMode
  | exactMode
  | partialMode
  deriving DecidableEq, Repr

inductive Order
  | asc
  | desc
  deriving DecidableEq, Repr

/-- `ckb_indexer::SearchKey`, with the one filter the deployer sets. -/
structure SearchKey where
  script : Script
  scriptType : ScriptType
  filterScript : Option Script
  scriptSearchMode : Option SearchMode
  withData : Option Bool
  groupByTransaction : Option Bool
  deriving DecidableEq

/-- A cell as the indexer returns it. -/
structure IndexerCell where
  output : CellOutput
  outputData : Option Bytes
  outPoint : OutPoint
  deriving DecidableEq

/-! ### The IDL client -/

/-- A witness field in an IDL document. -/
structure IdlField where
  name : String
  type_ : String
  required : Bool
  description : String
  deriving DecidableEq

/-- `ckb_idl_client::IdlDocument`. -/
structure IdlDocument where
  witness : List IdlField
  deriving DecidableEq

/-- `ckb_idl_client::ValidatedField`, with its value as it is printed. -/
structure ValidatedField where
  name : String
  type_ : String
  value : String
  deriving DecidableEq

/-! ### The two interfaces -/

/-- The crates that only compute. -/
structure Crates extends Hashing where
  /-- `hex::decode` -/
  hexDecode : String → Except String Bytes
  /-- `Script::from(Address::from_str(s)?.payload())` -/
  addressLock : String → Except String Script
  /-- `SecretKey::from_byte_array` -/
  secretKey : ByteVec 32 → Except String SecretKey
  /-- `PublicKey::from_secret_key(..).serialize()` -/
  publicKey : SecretKey → ByteVec 33
  /-- `sign_ecdsa_recoverable(message, key).serialize_compact()`: the recovery id and `r || s`. -/
  signRecoverable : SecretKey → Byte32 → UInt8 × ByteVec 64
  /-- `packed::Transaction::from_slice` -/
  transactionFromSlice : Bytes → Except String Transaction
  /-- `DefaultCellDepResolver::from_genesis` -/
  fromGenesis : Block → Except String CellDepResolver
  /-- `IdlClient::verify(code_hash, idl_json_bytes, code_cell_data)` -/
  idlVerify : Byte32 → Bytes → Bytes → Except String Unit
  /-- `serde_json::from_slice::<IdlDocument>` -/
  idlDocument : Bytes → Except String IdlDocument
  /-- `IdlClient::validate_witness_bytes` -/
  validateWitnessBytes : List IdlField → Bytes → Except String (List ValidatedField)

/-- The calls that reach the node, at one moment. -/
structure Node where
  /-- `get_transaction(hash)?`; a transaction the node has heard of may still lack its data. -/
  getTransaction : Byte32 → Except String (Option (Option TxFormat))
  /-- `get_block_by_number(number)?` -/
  getBlockByNumber : U64 → Except String (Option Block)
  /-- `get_cells(search_key, order, limit, after)?.objects` -/
  getCells : SearchKey → Order → U32 → Option Bytes → Except String (List IndexerCell)
  /-- `build_unlocked`, without the groups it could not unlock. -/
  buildUnlocked : BuildRequest → Except String Transaction
  /-- `unlock_tx`, likewise. -/
  unlockTx : Transaction → Unlockers → Except String Transaction
  /-- `send_transaction(tx, None)` -/
  sendTransaction : Transaction → Except String Byte32

/-! ### What the deployer relies on -/

/-- A cell of `lock` that holds capacity and nothing else. -/
structure Cell.Plain (lock : Script) (c : Cell) : Prop where
  lock_eq : c.lock = lock
  type_eq : c.type_ = none
  data_eq : c.data = []

namespace Node

variable (node : Node) (chain : ChainView)

/-- Every input `build_unlocked` adds is a live plain cell of the capacity provider. -/
def PlainInputs : Prop :=
  ∀ {req tx}, node.buildUnlocked req = .ok tx → ∀ i ∈ tx.inputs,
    ∃ c, chain.cells i.previousOutput = some c ∧ c.Plain req.balancer.capacityProvider

/-- `build_unlocked` emits the outputs it was given, in order, before any of its own. -/
def EmitsOutputs : Prop :=
  ∀ {req tx}, node.buildUnlocked req = .ok tx →
    ∃ outputs data, tx.outputs = req.outputs.map Prod.fst ++ outputs ∧
      tx.outputsData = req.outputs.map Prod.snd ++ data

/-- What it adds is one plain change output. -/
def PlainOutputs : Prop :=
  ∀ {req tx}, node.buildUnlocked req = .ok tx →
    ∃ change : Cell, change.Plain req.balancer.capacityProvider ∧
      tx.outputs = req.outputs.map Prod.fst ++ [change.output] ∧
      tx.outputsData = req.outputs.map Prod.snd ++ [change.data]

/-- `build_unlocked` answers only when it finds a dep for the payer's lock and one for the type
script of every output; otherwise it ends in `ResolveCellDepFailed`. The built-in type id, which
needs none, has hash type `Type`. -/
def NeedsDeps : Prop :=
  ∀ {req tx}, node.buildUnlocked req = .ok tx →
    (req.cellDepResolver.get req.balancer.capacityProvider).isSome ∧
      ∀ o ∈ req.outputs, ∀ s, o.1.type_ = some s → s.hashType ≠ .type →
        (req.cellDepResolver.get s).isSome

/-- The payer's cells cover these outputs: a request for them is answered as soon as the deps are
found, whatever else the resolver holds and whoever signs. -/
def Funds (payer : Script) (outputs : List (CellOutput × Bytes)) : Prop :=
  ∀ req : BuildRequest, req.outputs = outputs → req.balancer = .newSimple payer →
    req.Resolvable → ∃ tx, node.buildUnlocked req = .ok tx

/-- `build_unlocked` adds no header deps. -/
def NoHeaderDeps : Prop := ∀ {req tx}, node.buildUnlocked req = .ok tx → tx.headerDeps = []

/-- `unlock_tx` changes witnesses only. -/
def UnlockKeepsRaw : Prop :=
  ∀ {tx unlockers tx'}, node.unlockTx tx unlockers = .ok tx' →
    tx'.toRawTransaction = tx.toRawTransaction

/-- `unlock_tx` rewrites a witness only where the input at its position is sighash-locked. -/
def UnlockOnlySighash : Prop :=
  ∀ {tx unlockers tx'}, node.unlockTx tx unlockers = .ok tx' →
    ∀ {i : ℕ} {input c}, tx.inputs[i]? = some input → chain.cells input.previousOutput = some c →
      ¬ c.lock.IsSighash → tx'.witnesses[i]? = tx.witnesses[i]?

end Node

/-! ### What a balanced transaction resolves to -/

variable {node : Node} {chain : ChainView} {H : Hashing} {req : BuildRequest} {tx : Transaction}
  {rtx : ResolvedTx}

theorem Node.PlainInputs.resolved (hplain : node.PlainInputs chain)
    (hbuild : node.buildUnlocked req = .ok tx) (hres : chain.Resolved H tx rtx) :
    ∀ c ∈ rtx.inputs, c.toCell.Plain req.balancer.capacityProvider := by
  intro c hc
  obtain ⟨i, hi, hlive⟩ := exists_mem_of_forall₂ hres.inputs hc
  obtain ⟨d, hd, hdplain⟩ := hplain hbuild i hi
  have hcell := (ChainView.liveCell_eq_some_iff.mp hlive).1
  obtain rfl : d = c.toCell := Option.some.inj (hd.symm.trans hcell)
  exact hdplain

theorem Node.PlainOutputs.emitsOutputs (hplain : node.PlainOutputs) : node.EmitsOutputs := by
  intro req tx hbuild
  obtain ⟨change, -, hout, hdata⟩ := hplain hbuild
  exact ⟨_, _, hout, hdata⟩

theorem Node.PlainOutputs.resolved (hplain : node.PlainOutputs)
    (hbuild : node.buildUnlocked req = .ok tx) (hres : chain.Resolved H tx rtx) :
    ∃ change : Cell, change.Plain req.balancer.capacityProvider ∧
      rtx.outputs = req.outputs.map (fun o => ⟨o.1, o.2⟩) ++ [change] := by
  obtain ⟨change, hchange, hout, hdata⟩ := hplain hbuild
  refine ⟨change, hchange, ?_⟩
  rw [hres.outputs_eq, hout, hdata, List.zipWith_append (by simp), List.zipWith_map,
    List.zipWith_self]
  rfl

end CkbScripts
