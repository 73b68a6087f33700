import CkbScripts.Lib.Hex
import CkbScripts.Submission

/-!
# What is printed and typed in again

The programs of the repository hand values to each other through a person: `keygen` prints lines
that are pasted into `.env`, and the hashes the deployer prints are arguments of later commands. So
a value goes through text twice, and the two readers do not read alike. The configuration reader
strips a leading `0x`, which is why what `keygen` prints can be pasted as it is. The argument
readers strip nothing: of the hashes that are printed with `0x` in front, only the digits can be
typed in.

How bytes are printed and how `.env` is loaded is for crates that are not part of the repository.
Both are hypotheses, on what is printed and on the variables that are pasted.

## Main definitions

* `Crates.HexDecodes`: `hex::decode`
* `keygen`, `Pasted`
* `IsTxHash`: an argument that stands for the hash of a transaction

## Main results

* `keygen_round_trip`
* `Deployer.tx_hash_args_checked`
-/

namespace CkbScripts

open Effects Outcome

/-! ### Hex -/

/-- What `hex::decode` reads: digits of either case, two to a byte. -/
def Crates.HexDecodes (crates : Crates) : Prop :=
  ∀ s b, crates.hexDecode s = .ok b ↔ Hex.decode s.toList = some b

/-- The argument is 64 digits. -/
def IsTxHash (arg : String) : Prop :=
  arg.toList.length = 64 ∧ ∀ c ∈ arg.toList, (Hex.value c).isSome

instance (arg : String) : Decidable (IsTxHash arg) := inferInstanceAs (Decidable (_ ∧ _))

variable {crates : Crates}

/-- **Which arguments stand for a hash.** -/
theorem exists_txHashArg_iff (hhex : crates.HexDecodes) (arg : String) :
    (∃ h, txHashArg crates arg = .ok h) ↔ IsTxHash arg := by
  simp only [txHashArg, bind_eq_ok_iff, orError_eq_ok_iff, okOr_eq_ok_iff, tryInto_eq_some_iff,
    hhex arg]
  constructor
  · rintro ⟨h, _, hdecode, rfl⟩
    have hdigits := Hex.isSome_decode_iff.mp (by rw [hdecode]; rfl)
    exact ⟨by rw [Hex.length_of_decode hdecode, ByteVec.length_toList], hdigits.2⟩
  · rintro ⟨hlen, hdigits⟩
    have hsome := Hex.isSome_decode_iff.mpr ⟨by rw [hlen]; decide, hdigits⟩
    obtain ⟨b, hdecode⟩ := Option.isSome_iff_exists.mp hsome
    have hbytes := Hex.length_of_decode hdecode
    exact ⟨⟨b, by omega⟩, b, hdecode, rfl⟩

/-- A hash with the prefix is none: `x` is no digit. -/
theorem not_isTxHash_prefixed (digits : String) : ¬ IsTxHash ("0x" ++ digits) :=
  fun h => absurd (h.2 'x' (by simp)) (by decide)

/-- Encoded bytes do not start with the prefix, so it is stripped once. -/
theorem trimHexPrefix_encoded {s : String} {b : Bytes} (h : s.toList = Hex.encode b) :
    trimHexPrefix ("0x" ++ s) = s := by
  have hlist : ("0x" ++ s).toList = '0' :: 'x' :: s.toList := by simp
  have hx : 'x' ∉ s.toList := fun hmem =>
    absurd (Hex.isSome_value_of_mem_encode (h ▸ hmem)) (by decide)
  have htrim : ∀ {cs : List Char}, 'x' ∉ cs → trimHexChars cs = cs := by
    intro cs hcs
    unfold trimHexChars
    split
    · simp at hcs
    · rfl
  rw [trimHexPrefix, hlist, trimHexChars, htrim hx, String.ofList_toList]

/-! ### `keygen` -/

/-- The networks an address can be for. -/
inductive NetworkType
  | mainnet
  | testnet
  deriving DecidableEq, Repr

/-- The lock script of a new key: blake160 of the public key under the genesis lock. -/
def keygenLock (crates : Crates) (key : SecretKey) : Script :=
  ⟨sighashTypeHash, .type, (crates.blake2b256 (crates.publicKey key).toList).toList.take 20⟩

/-- The lines `keygen` prints. `hexEncode` is `hex::encode`, and `showAddress` is
`Address::new(network, payload, true)` as it is displayed. -/
def keygen (crates : Crates) (hexEncode : Bytes → String)
    (showAddress : NetworkType → Script → String) (key : SecretKey) : List String :=
  let lock := keygenLock crates key
  let testnetAddress := showAddress .testnet lock
  let mainnetAddress := showAddress .mainnet lock
  let privateKeyHex := "0x" ++ hexEncode key.bytes.toList
  ["─── Save these securely ───────────────────────────────",
    "PRIVATE_KEY=" ++ privateKeyHex,
    "TESTNET_ADDRESS=" ++ testnetAddress,
    "MAINNET_ADDRESS=" ++ mainnetAddress,
    "───────────────────────────────────────────────────────",
    "",
    "Fund your testnet address at:",
    "https://faucet.nervos.org/?address=" ++ testnetAddress,
    "",
    "Paste into your .env file:",
    "PRIVATE_KEY=" ++ privateKeyHex,
    "TESTNET_ADDRESS=" ++ testnetAddress,
    "CKB_RPC=https://testnet.ckb.dev:8114"]

/-- The lines after `Paste into your .env file:`. -/
def pasted (lines : List String) : List String := lines.drop 10

/-- `.env` has these `NAME=value` lines, and none of the names was set otherwise, since
`dotenvy::dotenv` leaves a variable alone that is set. About every other variable nothing is
said. -/
def Pasted (process : Process) (lines : List String) : Prop :=
  ∀ name value, '=' ∉ name.toList → name ++ "=" ++ value ∈ lines →
    process.var name = some value

/-- What stands before the first `=` of a line. -/
theorem takeWhile_line {name : String} (value : String) (hname : '=' ∉ name.toList) :
    (name ++ "=" ++ value).toList.takeWhile (· ≠ '=') = name.toList := by
  have hlist : (name ++ "=" ++ value).toList = name.toList ++ '=' :: value.toList := by simp
  have hall : ∀ c ∈ name.toList, decide (c ≠ '=') = true := by
    intro c hc
    exact decide_eq_true fun heq => hname (heq ▸ hc)
  rw [hlist, List.takeWhile_append_of_pos hall]
  simp

/-- A line has one name and one value. -/
theorem line_inj {name name' value value' : String} (hname : '=' ∉ name.toList)
    (hname' : '=' ∉ name'.toList) (h : name ++ "=" ++ value = name' ++ "=" ++ value') :
    name = name' ∧ value = value' := by
  have htake := takeWhile_line value hname
  rw [h, takeWhile_line value' hname'] at htake
  obtain rfl := String.toList_inj.mp htake
  exact ⟨rfl, String.toList_inj.mp (by simpa using congrArg String.toList h)⟩

theorem pasted_keygen (crates : Crates) (hexEncode : Bytes → String)
    (showAddress : NetworkType → Script → String) (key : SecretKey) :
    pasted (keygen crates hexEncode showAddress key) =
      ["PRIVATE_KEY" ++ "=" ++ ("0x" ++ hexEncode key.bytes.toList),
        "TESTNET_ADDRESS" ++ "=" ++ showAddress .testnet (keygenLock crates key),
        "CKB_RPC" ++ "=" ++ "https://testnet.ckb.dev:8114"] := by
  rfl

/-- **From `keygen` to the configuration.** Whoever pastes what `keygen` prints into `.env` gets a
configuration with that key, the address of its lock, and the node of the last line. -/
theorem keygen_round_trip (crates : Crates) (hexEncode : Bytes → String)
    (showAddress : NetworkType → Script → String) (hhex : crates.HexDecodes)
    (hencode : ∀ b, (hexEncode b).toList = Hex.encode b) (key : SecretKey)
    (hkey : crates.secretKey key.bytes = .ok key)
    (haddress : crates.addressLock (showAddress .testnet (keygenLock crates key)) =
      .ok (keygenLock crates key)) (process : Process)
    (hpasted : Pasted process (pasted (keygen crates hexEncode showAddress key))) :
    ∃ config, Config.fromEnv crates process = .ok config ∧ config.secretKey crates = .ok key ∧
      config.ckbRpc = "https://testnet.ckb.dev:8114" ∧
      ∃ lock, crates.addressLock config.address = .ok lock ∧ lock.IsSighash ∧
        lock.args = (crates.blake2b256 (crates.publicKey key).toList).toList.take 20 := by
  rw [pasted_keygen] at hpasted
  have hprivate := hpasted "PRIVATE_KEY" _ (by decide) List.mem_cons_self
  have htestnet := hpasted "TESTNET_ADDRESS" _ (by decide)
    (List.mem_cons_of_mem _ List.mem_cons_self)
  have hrpc := hpasted "CKB_RPC" "https://testnet.ckb.dev:8114" (by decide)
    (List.mem_cons_of_mem _ (List.mem_cons_of_mem _ List.mem_cons_self))
  -- the prefix is stripped, and the digits are read back as the key
  have hdecode : crates.hexDecode (hexEncode key.bytes.toList) = .ok key.bytes.toList := by
    rw [hhex, hencode, Hex.decode_encode]
  have hbytes : tryInto 32 key.bytes.toList = some key.bytes := by simp [tryInto]
  refine ⟨⟨key.bytes, showAddress .testnet (keygenLock crates key), "https://testnet.ckb.dev:8114"⟩,
    ?_, ?_, rfl, keygenLock crates key, haddress, ⟨rfl, rfl⟩, rfl⟩
  · simp [Config.fromEnv, hprivate, htestnet, hrpc, trimHexPrefix_encoded (hencode _), hdecode,
      hbytes]
  · simp [Config.secretKey, hkey]

/-- The sample crates read hex, whatever they hash and sign. -/
theorem hexDecodes_sampleCrates (txHash : ℕ) (signature : UInt8 × ByteVec 64) :
    (sampleCrates txHash signature).HexDecodes := by
  intro s b
  change okOr (Hex.decode s.toList) "Invalid hex" = .ok b ↔ _
  rw [okOr_eq_ok_iff]

/-- Lower case, two digits to a byte, as `hex::encode` writes it. -/
def sampleHexEncode (b : Bytes) : String := String.ofList (Hex.encode b)

/-- The addresses of the sample wallet, whose crates read the testnet's back. -/
def sampleAddress : NetworkType → Script → String
  | .mainnet, _ => "ckb1sample"
  | .testnet, _ => "ckt1sample"

/-- A shell with a `PATH`, and with the three lines of a `keygen` run in its `.env`. -/
def pastedProcess : Process where
  var name :=
    if name = "PATH" then some "/usr/bin"
    else if name = "PRIVATE_KEY" then some ("0x" ++ sampleHexEncode sampleKey.toList)
    else if name = "TESTNET_ADDRESS" then some "ckt1sample"
    else if name = "CKB_RPC" then some "https://testnet.ckb.dev:8114"
    else none
  readFile _ := .error "No such file or directory"

theorem pasted_pastedProcess : Pasted pastedProcess
    (pasted (keygen (sampleCrates 0 (0, zeros 64)) sampleHexEncode sampleAddress ⟨sampleKey⟩)) := by
  intro name value hname hline
  rw [pasted_keygen] at hline
  simp only [List.mem_cons, List.not_mem_nil, or_false] at hline
  rcases hline with h | h | h
  all_goals
    obtain ⟨rfl, rfl⟩ := line_inj hname (by decide) h
    rfl

theorem keygen_round_trip_sample :
    ∃ config, Config.fromEnv (sampleCrates 0 (0, zeros 64)) pastedProcess = .ok config ∧
      config.secretKey (sampleCrates 0 (0, zeros 64)) = .ok ⟨sampleKey⟩ ∧
      config.ckbRpc = "https://testnet.ckb.dev:8114" ∧
      ∃ lock, (sampleCrates 0 (0, zeros 64)).addressLock config.address = .ok lock ∧
        lock.IsSighash ∧ lock.args = samplePublicKeyHash.toList.take 20 :=
  keygen_round_trip (sampleCrates 0 (0, zeros 64)) sampleHexEncode sampleAddress
    (hexDecodes_sampleCrates 0 _) (fun b => String.toList_ofList) ⟨sampleKey⟩ rfl (by decide)
    pastedProcess pasted_pastedProcess

/-! ### Arguments that are hashes -/

namespace Deployer

open DeployScript Spend

/-- The places where a command expects the hash of a transaction. -/
def txHashPlaces : List (String × ℕ) :=
  [("create-locked-cell", 0), ("spend-simple-lock", 0), ("spend-simple-lock", 3),
    ("create-timelock-cell", 0), ("spend-timelock-lock", 0), ("spend-timelock-lock", 5)]

variable {node : Node} {process : Process} {config : Config} {args : List String} {tx : Transaction}

/-- The first argument of a command that makes a cell is the hash of the code. -/
theorem first_of_simpleLockArgs {codeCell : String} {lockArgs : Bytes}
    (h : simpleLockArgs crates args = .ok (codeCell, lockArgs)) : args[0]? = some codeCell := by
  rcases args with _ | ⟨c, _ | ⟨_, _⟩⟩
  · simp [simpleLockArgs] at h
  · simp [simpleLockArgs] at h
  · simp only [simpleLockArgs, bind_eq_ok_iff, pure_eq_ok, Except.ok.injEq, Prod.mk.injEq] at h
    obtain ⟨_, -, rfl, -⟩ := h
    rfl

theorem first_of_timelockArgs {codeCell : String} {lockArgs : Bytes}
    (h : timelockArgs crates args = .ok (codeCell, lockArgs)) : args[0]? = some codeCell := by
  rcases args with _ | ⟨c, _ | ⟨_, _ | ⟨_, _⟩⟩⟩
  · simp [timelockArgs] at h
  · simp [timelockArgs] at h
  · simp [timelockArgs] at h
  · simp only [timelockArgs, bind_eq_ok_iff, guard_eq_ok_iff, pure_eq_ok, Except.ok.injEq,
      Prod.mk.injEq] at h
    obtain ⟨_, -, -, _, -, rfl, -⟩ := h
    rfl

theorem namesCell_of_createLockedCellGenericTx {address codeCell label : String} {key : SecretKey}
    {lockArgs : Bytes} {capacityCkb : U64} (hfirst : args[0]? = some codeCell)
    (h : createLockedCellGenericTx crates node address key codeCell lockArgs capacityCkb label =
      .ok tx) : ∃ cell, NamesCell crates args 0 cell := by
  simp only [createLockedCellGenericTx, bind_eq_ok_iff] at h
  obtain ⟨req, hreq, -⟩ := h
  obtain ⟨v, _, _, _, hv, -⟩ := createRequest_eq_ok hreq
  exact ⟨⟨v, 0⟩, codeCell, v, hfirst, hv, rfl⟩

theorem namesCell_of_createLockedCellTx
    (h : createLockedCellTx crates node args config = .ok tx) :
    ∃ cell, NamesCell crates args 0 cell := by
  simp only [createLockedCellTx, bind_eq_ok_iff] at h
  obtain ⟨⟨codeCell, lockArgs⟩, hargs, key, -, hbuild⟩ := h
  exact namesCell_of_createLockedCellGenericTx (first_of_simpleLockArgs hargs) hbuild

theorem namesCell_of_createTimelockCellTx
    (h : createTimelockCellTx crates node args config = .ok tx) :
    ∃ cell, NamesCell crates args 0 cell := by
  simp only [createTimelockCellTx, bind_eq_ok_iff] at h
  obtain ⟨⟨codeCell, lockArgs⟩, hargs, key, -, hbuild⟩ := h
  exact namesCell_of_createLockedCellGenericTx (first_of_timelockArgs hargs) hbuild

theorem namesCell_of_spendSimpleLockTx
    (h : spendSimpleLockTx crates process node args = .ok tx) :
    (∃ cell, NamesCell crates args 0 cell) ∧ ∃ cell, NamesCell crates args 3 cell := by
  simp only [spendSimpleLockTx, bind_eq_ok_iff] at h
  obtain ⟨c, hspend, -⟩ := h
  obtain ⟨_, _, -, hcode, hlocked, -⟩ := simpleLockSpend_eq_ok hspend
  exact ⟨⟨_, hcode⟩, _, hlocked⟩

theorem namesCell_of_spendTimelockLockTx {draft : Node}
    (h : spendTimelockLockTx crates process draft node args = .ok tx) :
    (∃ cell, NamesCell crates args 0 cell) ∧ ∃ cell, NamesCell crates args 5 cell := by
  simp only [spendTimelockLockTx, bind_eq_ok_iff] at h
  obtain ⟨c, hspend, -⟩ := h
  obtain ⟨_, _, _, _, _, -, hcode, hlocked, -⟩ := timelockSpend_eq_ok hspend
  exact ⟨⟨_, hcode⟩, _, hlocked⟩

/-- **Hashes are 64 digits and nothing else.** In each place where a command expects the hash of a
transaction, 64 hex digits are read as one. Anything else, a hash with `0x` in front included, makes
the command fail before it has written or submitted anything. -/
theorem tx_hash_args_checked (crates : Crates) (sha256 : Bytes → Byte32) (env : Env)
    (hhex : crates.HexDecodes) (program command : String) (args : List String) (i : ℕ)
    (arg : String) (hplace : (command, i) ∈ txHashPlaces) (harg : args[i]? = some arg) :
    ((∃ h, txHashArg crates arg = .ok h) ↔ IsTxHash arg) ∧
      (¬ IsTxHash arg → Refuses (main crates sha256 env (program :: command :: args))) := by
  refine ⟨exists_txHashArg_iff hhex arg, fun hnot => ?_⟩
  have hbad : ¬ ∃ cell, NamesCell crates args i cell := by
    rintro ⟨_, c, v, hc, hv, -⟩
    obtain rfl : arg = c := Option.some.inj (harg.symm.trans hc)
    exact hnot ((exists_txHashArg_iff hhex arg).mp ⟨v, hv⟩)
  simp only [txHashPlaces, List.mem_cons, Prod.mk.injEq, List.not_mem_nil, or_false] at hplace
  rcases hplace with ⟨rfl, rfl⟩ | ⟨rfl, rfl⟩ | ⟨rfl, rfl⟩ | ⟨rfl, rfl⟩ | ⟨rfl, rfl⟩ | ⟨rfl, rfl⟩
  · exact refuses_lift_bind fun _ _ => refuses_lift_bind fun tx htx =>
      absurd (namesCell_of_createLockedCellTx htx) hbad
  · exact refuses_lift_bind fun _ _ => refuses_lift_bind fun tx htx =>
      absurd (namesCell_of_spendSimpleLockTx htx).1 hbad
  · exact refuses_lift_bind fun _ _ => refuses_lift_bind fun tx htx =>
      absurd (namesCell_of_spendSimpleLockTx htx).2 hbad
  · exact refuses_lift_bind fun _ _ => refuses_lift_bind fun tx htx =>
      absurd (namesCell_of_createTimelockCellTx htx) hbad
  · exact refuses_lift_bind fun _ _ => refuses_lift_bind fun tx htx =>
      absurd (namesCell_of_spendTimelockLockTx htx).1 hbad
  · exact refuses_lift_bind fun _ _ => refuses_lift_bind fun tx htx =>
      absurd (namesCell_of_spendTimelockLockTx htx).2 hbad

/-- The hash of the sample's code cell, as `{:#x}` prints it. -/
theorem tx_hash_args_checked_prefixed :
    Refuses (main sampleRunCrates (fun _ => zeros 32) sampleEnv
      ["deployer", "create-locked-cell", "0x" ++ sampleCodeHex, "68656c6c6f"]) :=
  (tx_hash_args_checked sampleRunCrates (fun _ => zeros 32) sampleEnv (hexDecodes_sampleCrates 0 _)
    "deployer" "create-locked-cell" ["0x" ++ sampleCodeHex, "68656c6c6f"] 0 ("0x" ++ sampleCodeHex)
    (by decide) rfl).2 (not_isTxHash_prefixed sampleCodeHex)

end Deployer

end CkbScripts
