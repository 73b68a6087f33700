import CkbScripts.Sdk

/-!
# Configuration and command line arguments

`config.rs`, and how the commands read their positional arguments. A command takes its arguments
from an iterator and asks for all of them before it looks at the first, so a missing one panics
whatever the others are.

## Main definitions

* `Process`, `Config`, `Config.fromEnv`
* `txHashArg`, `NamesCell`, `parseU64`, `trimHexPrefix`
-/

namespace CkbScripts

open Outcome

/-- What a command sees of its process. -/
structure Process where
  /-- `std::env::var`, once `.env` has been loaded. -/
  var : String → Option String
  /-- `std::fs::read` -/
  readFile : String → Except String Bytes

/-! ### Arguments -/

/-- The panic of a command that runs out of arguments. -/
def missingArg : Failure := .expect "Missing arg"

/-- `s.trim_start_matches("0x")` on characters: every leading `0x` goes. -/
def trimHexChars : List Char → List Char
  | '0' :: 'x' :: rest => trimHexChars rest
  | cs => cs

/-- `s.trim_start_matches("0x")`. -/
def trimHexPrefix (s : String) : String := String.ofList (trimHexChars s.toList)

/-- The value of a run of decimal digits. -/
def digitsValue (cs : List Char) : ℕ := cs.foldl (fun n c => 10 * n + (c.toNat - 48)) 0

/-- `s.parse::<u64>()`: an optional plus sign, then digits, and a value that fits. -/
def parseU64 (s : String) : Option U64 :=
  let digits := match s.toList with
    | '+' :: rest => rest
    | cs => cs
  if digits ≠ [] ∧ digits.all Char.isDigit ∧ digitsValue digits < 2 ^ 64 then
    some (BitVec.ofNat 64 (digitsValue digits))
  else none

/-- A transaction hash argument: hex, and exactly 32 bytes or a panic. -/
def txHashArg (crates : Crates) (s : String) : Except Failure Byte32 := do
  let bytes ← orError (crates.hexDecode s)
  okOr (tryInto 32 bytes) .panic

/-- The argument at this place names the cell: it is the hash of a transaction, and the cell its
first output. -/
def NamesCell (crates : Crates) (args : List String) (place : ℕ) (cell : OutPoint) : Prop :=
  ∃ arg txHash, args[place]? = some arg ∧ txHashArg crates arg = .ok txHash ∧ cell = ⟨txHash, 0⟩

theorem txHashArg_eq_ok {crates : Crates} {s : String} {v : Byte32}
    (h : crates.hexDecode s = .ok v.toList) : txHashArg crates s = .ok v := by
  simp [txHashArg, orError, h]

/-! ### Configuration -/

/-- The node at `ckbRpc` is passed to the commands as a `Node`. -/
structure Config where
  privateKeyBytes : ByteVec 32
  address : String
  ckbRpc : String
  deriving DecidableEq

/-- `Config::from_env` -/
def Config.fromEnv (crates : Crates) (process : Process) : Except Failure Config := do
  let privateKeyHex ← okOr (process.var "PRIVATE_KEY") (.error "PRIVATE_KEY not set in .env")
  let address ← okOr (process.var "TESTNET_ADDRESS") (.error "TESTNET_ADDRESS not set in .env")
  let ckbRpc := (process.var "CKB_RPC").getD "https://testnet.ckb.dev:8114"
  let keyBytes ← (crates.hexDecode (trimHexPrefix privateKeyHex)).mapError
    fun _ => .error "PRIVATE_KEY is not valid hex"
  let privateKeyBytes ← okOr (tryInto 32 keyBytes)
    (.error "PRIVATE_KEY must be exactly 32 bytes (64 hex chars)")
  return { privateKeyBytes, address, ckbRpc }

/-- `Config::secret_key`. -/
def Config.secretKey (crates : Crates) (config : Config) : Except Failure SecretKey :=
  (crates.secretKey config.privateKeyBytes).mapError fun _ => .error "Invalid private key bytes"

end CkbScripts
