import CkbScripts.SudtSelect
import Mathlib.Algebra.Order.BigOperators.Group.List

/-!
# What a transfer takes for the sender's balance

`transfer_tokens` learns what the sender owns from one query of the indexer: the first thousand
live cells whose lock has the sender's code hash and hash type, and args that contain the sender's
args. The real balance is the total of all live cells that have the sender's lock and the token's
type, wherever they are in the list. This module says when the one is taken for the other rightly.

The indexer is described as far as it is documented: it searches by the mode and cuts the answer off
at the limit. How it filters by the type script is a parameter, and the list of live cells it
searches is arbitrary.

## Main definitions

* `SearchKey.Finds`, `indexerAnswer`, `Node.Indexes`: the indexer
* `Sudt.balance`: what the sender really has
* `Sudt.balanceCheck`, `Sudt.JudgesBalance`: what the command computes of it, and what it should
* `Sudt.BalanceVisible`: the condition on the cells

## Main results

* `Sudt.judgesBalance_iff`
* `Sudt.cellTotal_window_le`, `Sudt.le_cellTotal_window`, `Sudt.balanceVisible_iff_of_onlyOwn`: the
  causes one by one
-/

namespace CkbScripts

open DeployScript Outcome

/-! ### The indexer -/

/-- Whether the given args find a script's args. -/
def SearchMode.Finds : SearchMode → Bytes → Bytes → Prop
  | .prefixMode, given, args => given <+: args
  | .exactMode, given, args => given = args
  | .partialMode, given, args => given <:+: args

instance (mode : SearchMode) (given : Bytes) : DecidablePred (mode.Finds given) := fun args =>
  match mode with
  | .prefixMode => inferInstanceAs (Decidable (given <+: args))
  | .exactMode => inferInstanceAs (Decidable (given = args))
  | .partialMode => inferInstanceAs (Decidable (given <:+: args))

/-- Whether a script is one the search is for. Without a mode, it is by prefix. -/
def SearchKey.Finds (key : SearchKey) (s : Script) : Prop :=
  s.codeHash = key.script.codeHash ∧ s.hashType = key.script.hashType ∧
    (key.scriptSearchMode.getD .prefixMode).Finds key.script.args s.args

instance (key : SearchKey) : DecidablePred key.Finds := fun _ => inferInstanceAs (Decidable (_ ∧ _))

/-- A live cell as the indexer returns it. -/
def SearchKey.entry (key : SearchKey) (c : LiveCell) : IndexerCell :=
  ⟨c.output, if key.withData = some false then none else some c.data, c.outPoint⟩

/-- The answer to a search by lock: the cells found, in order, up to the limit. The filter `keep`
compares the script asked for with the type of the cell. -/
def indexerAnswer (live : List LiveCell) (keep : Script → Option Script → Bool) (key : SearchKey)
    (limit : ℕ) : List IndexerCell :=
  ((live.filter fun c => key.Finds c.lock ∧ key.filterScript.all (keep · c.type_)).map
    key.entry).take limit

/-- The node answers searches by lock from these live cells. -/
def Node.Indexes (node : Node) (live : List LiveCell) (keep : Script → Option Script → Bool) :
    Prop :=
  ∀ key limit, key.scriptType = .lock →
    node.getCells key .asc limit none = .ok (indexerAnswer live keep key limit.toNat)

namespace Sudt

open LeadingRun

/-! ### The balance, and what the command makes of it -/

/-- An output with this lock, of this token. -/
def Own (senderLock sudtTypeScript : Script) (o : CellOutput) : Prop :=
  o.lock = senderLock ∧ o.type_ = some sudtTypeScript

instance (senderLock sudtTypeScript : Script) : DecidablePred (Own senderLock sudtTypeScript) :=
  fun _ => inferInstanceAs (Decidable (_ ∧ _))

/-- What the sender has of the token; a cell that cannot be decoded counts for nothing. -/
def balance (live : List LiveCell) (senderLock sudtTypeScript : Script) : ℕ :=
  ((live.filter (Own senderLock sudtTypeScript ·.output)).map fun c => amountOf c.data).sum

/-- `transfer_tokens` from its query to the outputs. -/
def balanceCheck (H : Hashing) (node : Node) (sudtTypeScript senderLock recipientLock : Script)
    (transferAmount : U128) : Except Failure (Selection × List (CellOutput × Bytes)) := do
  let udtCells ←
    orError (node.getCells (transferSearchKey senderLock sudtTypeScript) .asc 1000 none)
  planTransfer H sudtTypeScript senderLock recipientLock transferAmount udtCells

/-- The balance check is passed with cells of the sender if the sender has enough, and is the error
for it if not. -/
structure JudgesBalance (H : Hashing) (node : Node) (live : List LiveCell)
    (sudtTypeScript senderLock recipientLock : Script) (transferAmount : U128) : Prop where
  passes : transferAmount.toNat ≤ balance live senderLock sudtTypeScript →
    ∃ selection outputs,
      balanceCheck H node sudtTypeScript senderLock recipientLock transferAmount =
        .ok (selection, outputs) ∧
      ∀ cell ∈ selection.inputs, Own senderLock sudtTypeScript cell.output
  refuses : balance live senderLock sudtTypeScript < transferAmount.toNat →
    ∃ available, balanceCheck H node sudtTypeScript senderLock recipientLock transferAmount =
      .error (insufficientBalance available transferAmount.toNat)

variable {H : Hashing} {node : Node} {live : List LiveCell}
  {sudtTypeScript senderLock recipientLock : Script} {transferAmount : U128}

/-- The command around its balance check. -/
theorem transferRequest_eq_balanceCheck (crates : Crates) (node : Node) (sudtTypeScript : Script)
    (codeCellOutpoint : OutPoint) (senderAddress senderKeyHex recipientAddress : String)
    (transferAmount : U128) :
    transferRequest crates node sudtTypeScript codeCellOutpoint senderAddress senderKeyHex
      recipientAddress transferAmount = (do
        let senderLock ← orPanic (crates.addressLock senderAddress)
        let senderKeyBytes ← orError (crates.hexDecode senderKeyHex)
        let cleanSenderKey ← okOr (tryInto 32 senderKeyBytes) .panic
        let senderKey ← orError (crates.secretKey cleanSenderKey)
        let recipientLock ← orPanic (crates.addressLock recipientAddress)
        let (_, outputs) ← balanceCheck crates.toHashing node sudtTypeScript senderLock
          recipientLock transferAmount
        let codeHash ← computeCodeHash crates node codeCellOutpoint
        let genesis ← genesisCellDeps crates node
        return {
          outputs := outputs
          cellDepResolver := tokenResolver genesis codeHash codeCellOutpoint
          balancer := .newSimple senderLock
          unlockers := sighashUnlockers senderKey }) := by
  simp only [transferRequest_eq, balanceCheck, bind_assoc]

/-- A check that judges the balance does not panic. -/
theorem JudgesBalance.not_panics {f : Failure}
    (h : JudgesBalance H node live sudtTypeScript senderLock recipientLock transferAmount)
    (hf : balanceCheck H node sudtTypeScript senderLock recipientLock transferAmount = .error f) :
    ¬ f.Panics := by
  rcases Nat.lt_or_ge (balance live senderLock sudtTypeScript) transferAmount.toNat with hlt | hle
  · obtain ⟨available, herr⟩ := h.refuses hlt
    obtain rfl := Except.error.inj (hf.symm.trans herr)
    exact id
  · obtain ⟨selection, outputs, hok, -⟩ := h.passes hle
    cases hf.symm.trans hok

/-! ### When the balance is judged rightly -/

/-- The token cells among those the indexer returns. -/
def window (H : Hashing) (live : List LiveCell) (keep : Script → Option Script → Bool)
    (sudtTypeScript senderLock : Script) : List IndexerCell :=
  matchingCells H (H.scriptHash sudtTypeScript)
    (indexerAnswer live keep (transferSearchKey senderLock sudtTypeScript) 1000)

/-- What the indexer returns shows enough of the sender's balance: its token cells are worth the
amount when the balance is, and those that come before they are worth it, and the one that makes
them so, can be decoded, add up to a word, and are the sender's. -/
structure BalanceVisible (H : Hashing) (live : List LiveCell) (keep : Script → Option Script → Bool)
    (sudtTypeScript senderLock : Script) (transferAmount : U128) : Prop where
  worth : transferAmount.toNat ≤ cellTotal (window H live keep sudtTypeScript senderLock) ↔
    transferAmount.toNat ≤ balance live senderLock sudtTypeScript
  readable : ∀ before c, before ++ [c] <+: window H live keep sudtTypeScript senderLock →
    (before = [] ∨ cellTotal before < transferAmount.toNat) →
      Readable c ∧ cellTotal (before ++ [c]) < 2 ^ 128
  own : transferAmount.toNat ≤ balance live senderLock sudtTypeScript →
    ∀ before c, before ++ [c] <+: window H live keep sudtTypeScript senderLock →
      (before = [] ∨ cellTotal before < transferAmount.toNat) →
        Own senderLock sudtTypeScript c.output

/-- **When the balance is judged rightly.** Exactly when what the indexer returns shows enough
of it. -/
theorem judgesBalance_iff (H : Hashing) (node : Node) (live : List LiveCell)
    (keep : Script → Option Script → Bool) (hindex : node.Indexes live keep)
    (sudtTypeScript senderLock recipientLock : Script) (transferAmount : U128) :
    JudgesBalance H node live sudtTypeScript senderLock recipientLock transferAmount ↔
      BalanceVisible H live keep sudtTypeScript senderLock transferAmount := by
  have hcheck : balanceCheck H node sudtTypeScript senderLock recipientLock transferAmount =
      planTransfer H sudtTypeScript senderLock recipientLock transferAmount
        (indexerAnswer live keep (transferSearchKey senderLock sudtTypeScript) 1000) := by
    rw [balanceCheck, hindex _ _ rfl]
    rfl
  constructor
  · intro h
    -- no panic, so the loop goes through
    obtain ⟨sel, hsel⟩ : ∃ sel, selectCells H (H.scriptHash sudtTypeScript) transferAmount
        (indexerAnswer live keep (transferSearchKey senderLock sudtTypeScript) 1000) ⟨[], 0⟩ =
          .ok sel :=
      exists_selectCells_of_not_panics fun f hf => h.not_panics (hcheck.trans hf)
    have hplan := hcheck.trans (planTransfer_eq_ite hsel)
    refine ⟨⟨fun hle => ?_, fun hle => ?_⟩, exists_selectCells_iff.mp ⟨sel, hsel⟩, fun hle => ?_⟩
    · by_contra hlt
      obtain ⟨available, herr⟩ := h.refuses (Nat.not_le.mp hlt)
      cases herr.symm.trans (hplan.trans (if_pos hle))
    · by_contra hlt
      obtain ⟨selection, outputs, hok, -⟩ := h.passes hle
      cases hok.symm.trans (hplan.trans (if_neg hlt))
    · obtain ⟨selection, outputs, hok, hown⟩ := h.passes hle
      obtain rfl : selection = sel := by
        by_cases hcovered : transferAmount.toNat ≤
            cellTotal (window H live keep sudtTypeScript senderLock)
        · exact congrArg Prod.fst (Except.ok.inj (hok.symm.trans (hplan.trans (if_pos hcovered))))
        · cases hok.symm.trans (hplan.trans (if_neg hcovered))
      exact (forall_mem_inputs_iff hsel).mp hown
  · intro h
    obtain ⟨sel, hsel⟩ := exists_selectCells_iff.mpr h.readable
    have hplan := hcheck.trans (planTransfer_eq_ite hsel)
    constructor
    · intro hle
      exact ⟨sel, _, hplan.trans (if_pos (h.worth.mpr hle)),
        (forall_mem_inputs_iff hsel).mpr (h.own hle)⟩
    · intro hlt
      exact ⟨_, hplan.trans (if_neg (mt h.worth.mp (Nat.not_le.mpr hlt)))⟩

/-! ### The causes, one by one

`worth` can fail in two ways. A lock that contains the sender's args, or a type script of the same
hash, makes the window worth more; the limit of a thousand cells makes it worth less. -/

/-- The live cells the window is cut from. -/
def windowCells (H : Hashing) (live : List LiveCell) (keep : Script → Option Script → Bool)
    (sudtTypeScript senderLock : Script) : List LiveCell :=
  live.filter fun c => ((transferSearchKey senderLock sudtTypeScript).Finds c.lock ∧
    keep sudtTypeScript c.type_) ∧ c.type_.map H.scriptHash = some (H.scriptHash sudtTypeScript)

/-- The number of cells the query finds. -/
def hits (live : List LiveCell) (keep : Script → Option Script → Bool)
    (sudtTypeScript senderLock : Script) : ℕ :=
  live.countP fun c => (transferSearchKey senderLock sudtTypeScript).Finds c.lock ∧
    keep sudtTypeScript c.type_

/-- No cell but the sender's own counts. -/
def OnlyOwn (H : Hashing) (live : List LiveCell) (keep : Script → Option Script → Bool)
    (sudtTypeScript senderLock : Script) : Prop :=
  ∀ c ∈ windowCells H live keep sudtTypeScript senderLock, Own senderLock sudtTypeScript c.output

variable {keep : Script → Option Script → Bool}

/-- The query finds every cell of the sender. -/
theorem finds_self (senderLock sudtTypeScript : Script) :
    (transferSearchKey senderLock sudtTypeScript).Finds senderLock :=
  ⟨rfl, rfl, List.infix_rfl⟩

/-- The window is a sublist of what it is cut from, and all of it when there is nothing to cut. -/
theorem window_sublist (H : Hashing) (live : List LiveCell)
    (keep : Script → Option Script → Bool) (sudtTypeScript senderLock : Script) :
    (window H live keep sudtTypeScript senderLock).Sublist
      ((windowCells H live keep sudtTypeScript senderLock).map
        (transferSearchKey senderLock sudtTypeScript).entry) ∧
    (hits live keep sudtTypeScript senderLock ≤ 1000 →
      window H live keep sudtTypeScript senderLock =
        (windowCells H live keep sudtTypeScript senderLock).map
          (transferSearchKey senderLock sudtTypeScript).entry) := by
  have hall : matchingCells H (H.scriptHash sudtTypeScript)
      ((live.filter fun c => (transferSearchKey senderLock sudtTypeScript).Finds c.lock ∧
        keep sudtTypeScript c.type_).map (transferSearchKey senderLock sudtTypeScript).entry) =
      (windowCells H live keep sudtTypeScript senderLock).map
        (transferSearchKey senderLock sudtTypeScript).entry := by
    rw [matchingCells, List.filter_map, List.filter_filter, windowCells]
    refine congrArg _ (List.filter_congr fun c _ => ?_)
    rw [Bool.and_comm, Bool.eq_iff_iff]
    simp only [Bool.and_eq_true, decide_eq_true_eq, Function.comp_apply]
    rfl
  constructor
  · rw [← hall]
    exact (List.take_sublist _ _).filter _
  · intro hfew
    rw [← hall, window, indexerAnswer, List.take_of_length_le]
    · rfl
    · rw [List.length_map, ← List.countP_eq_length_filter]
      exact hfew

theorem cellTotal_entries (cells : List LiveCell) (senderLock sudtTypeScript : Script) :
    cellTotal (cells.map (transferSearchKey senderLock sudtTypeScript).entry) =
      (cells.map fun c => amountOf c.data).sum := by
  rw [cellTotal, List.map_map]
  rfl

/-- **Foreign cells are the only way to seem richer.** -/
theorem cellTotal_window_le (hown : OnlyOwn H live keep sudtTypeScript senderLock) :
    cellTotal (window H live keep sudtTypeScript senderLock) ≤
      balance live senderLock sudtTypeScript := by
  have hsub : (windowCells H live keep sudtTypeScript senderLock).Sublist
      (live.filter (Own senderLock sudtTypeScript ·.output)) := by
    rw [← List.filter_eq_self.mpr fun c hc => decide_eq_true (hown c hc)]
    exact List.filter_sublist.filter _
  calc cellTotal (window H live keep sudtTypeScript senderLock)
      ≤ cellTotal ((windowCells H live keep sudtTypeScript senderLock).map
          (transferSearchKey senderLock sudtTypeScript).entry) :=
        ((window_sublist H live keep sudtTypeScript senderLock).1.map _).sum_le_sum
          fun _ _ => Nat.zero_le _
    _ = ((windowCells H live keep sudtTypeScript senderLock).map fun c => amountOf c.data).sum :=
        cellTotal_entries _ _ _
    _ ≤ balance live senderLock sudtTypeScript :=
        (hsub.map _).sum_le_sum fun _ _ => Nat.zero_le _

/-- **The limit is the only way to seem poorer**, if the type filter keeps the token itself. -/
theorem le_cellTotal_window (hkeep : keep sudtTypeScript (some sudtTypeScript))
    (hfew : hits live keep sudtTypeScript senderLock ≤ 1000) :
    balance live senderLock sudtTypeScript ≤
      cellTotal (window H live keep sudtTypeScript senderLock) := by
  have hsub : (live.filter (Own senderLock sudtTypeScript ·.output)).Sublist
      (windowCells H live keep sudtTypeScript senderLock) := by
    refine List.monotone_filter_right live fun c hc => ?_
    obtain ⟨hlock, htype⟩ : Own senderLock sudtTypeScript c.output := by simpa using hc
    have hlock' : c.lock = senderLock := hlock
    have htype' : c.type_ = some sudtTypeScript := htype
    simp [hlock', htype', finds_self, hkeep]
  rw [(window_sublist H live keep sudtTypeScript senderLock).2 hfew, cellTotal_entries]
  exact (hsub.map _).sum_le_sum fun _ _ => Nat.zero_le _

/-- **What is left.** With no foreign cells and at most a thousand hits the balance is judged
rightly as long as the loop can read the cells and add them up. -/
theorem balanceVisible_iff_of_onlyOwn (hkeep : keep sudtTypeScript (some sudtTypeScript))
    (hown : OnlyOwn H live keep sudtTypeScript senderLock)
    (hfew : hits live keep sudtTypeScript senderLock ≤ 1000) :
    BalanceVisible H live keep sudtTypeScript senderLock transferAmount ↔
      ∀ before c, before ++ [c] <+: window H live keep sudtTypeScript senderLock →
        (before = [] ∨ cellTotal before < transferAmount.toNat) →
          Readable c ∧ cellTotal (before ++ [c]) < 2 ^ 128 := by
  have htotal : cellTotal (window H live keep sudtTypeScript senderLock) =
      balance live senderLock sudtTypeScript :=
    le_antisymm (cellTotal_window_le hown) (le_cellTotal_window hkeep hfew)
  refine ⟨fun h => h.readable, fun h => ⟨by rw [htotal], h, fun _ before c hl _ => ?_⟩⟩
  have hmem : c ∈ window H live keep sudtTypeScript senderLock := hl.subset (by simp)
  rw [(window_sublist H live keep sudtTypeScript senderLock).2 hfew] at hmem
  obtain ⟨l, hmemLive, rfl⟩ := List.mem_map.mp hmem
  exact hown l hmemLive

/-! ### Some states of the chain

The indexer of the instances filters by prefix. -/

/-- The type filter by prefix. -/
def prefixFilter (s : Script) (type_ : Option Script) : Bool :=
  type_.any fun t => t.codeHash = s.codeHash ∧ t.hashType = s.hashType ∧ s.args <+: t.args

/-- A node with these live cells. -/
def indexNode (live : List LiveCell) : Node :=
  { (sampleWallet 0 []).node with
    getCells := fun key _ limit _ => .ok (indexerAnswer live prefixFilter key limit.toNat) }

theorem indexes_indexNode (live : List LiveCell) : (indexNode live).Indexes live prefixFilter :=
  fun _ _ _ => rfl

/-- A cell at an out point of its own. -/
def liveAt (n : ℕ) (c : Cell) : LiveCell := ⟨c, ⟨Byte32.ofNat n, 0⟩⟩

/-- The holder's lock with a byte more in its args. -/
def strangerLock : Script := { holderLock with args := holderLock.args ++ [0] }

/-- A hundred tokens of the same type script that are not the holder's. -/
def strangerCells : List LiveCell :=
  [liveAt 1 ⟨⟨14200000000, strangerLock, some token⟩, transferData 100⟩]

/-- A token cell of the holder with one byte of data, which only the owner can make, and a hundred
tokens. -/
def shortCells : List LiveCell :=
  [liveAt 1 ⟨⟨14200000000, holderLock, some token⟩, [1]⟩, liveAt 2 (tokenCell 100)]

/-- Two cells whose amounts add up to more than a word can count. -/
def richCells : List LiveCell := [liveAt 1 (tokenCell 1), liveAt 2 (tokenCell (-1))]

/-- Sixty tokens behind a thousand empty token cells, which is as many as one query returns. -/
def dustyCells : List LiveCell :=
  ((List.range 1000).map fun n => liveAt n (tokenCell 0)) ++ [liveAt 1000 (tokenCell 60)]

/-- The holder has a hundred and twenty tokens, and transfers sixty. -/
def plentyCells : List LiveCell := [liveAt 1 (tokenCell 50), liveAt 2 (tokenCell 70)]

/-- The stranger's tokens are selected, two checks panic, and one finds nothing. -/
theorem not_judgesBalance :
    ¬ JudgesBalance tokenHashing (indexNode strangerCells) strangerCells token holderLock ownerLock
        60 ∧
      ¬ JudgesBalance tokenHashing (indexNode shortCells) shortCells token holderLock ownerLock
        60 ∧
      ¬ JudgesBalance tokenHashing (indexNode richCells) richCells token holderLock ownerLock 2 ∧
      ¬ JudgesBalance tokenHashing (indexNode dustyCells) dustyCells token holderLock ownerLock
        60 := by
  refine ⟨fun h => ?_, fun h => ?_, fun h => ?_, fun h => ?_⟩
  · have hpassed : balanceCheck tokenHashing (indexNode strangerCells) token holderLock ownerLock
        60 = .ok (⟨[⟨⟨14200000000, strangerLock, some token⟩, some (transferData 100),
          ⟨Byte32.ofNat 1, 0⟩⟩], 100⟩, transferOutputs token holderLock ownerLock 60 40) := by
      decide +kernel
    obtain ⟨available, herr⟩ := h.refuses (by decide +kernel)
    cases hpassed.symm.trans herr
  · have hpanic : balanceCheck tokenHashing (indexNode shortCells) token holderLock ownerLock
        60 = .error .panic := by
      decide +kernel
    exact h.not_panics hpanic trivial
  · have hpanic : balanceCheck tokenHashing (indexNode richCells) token holderLock ownerLock
        2 = .error (.expect "overflow") := by
      decide +kernel
    exact h.not_panics hpanic trivial
  · have hrefused : balanceCheck tokenHashing (indexNode dustyCells) token holderLock ownerLock
        60 = .error (insufficientBalance 0 60) := by
      decide +kernel
    obtain ⟨selection, outputs, hok, -⟩ := h.passes (by decide +kernel)
    cases hrefused.symm.trans hok

theorem judgesBalance_iff_plenty :
    JudgesBalance tokenHashing (indexNode plentyCells) plentyCells token holderLock ownerLock 60 ↔
      BalanceVisible tokenHashing plentyCells prefixFilter token holderLock 60 :=
  judgesBalance_iff tokenHashing (indexNode plentyCells) plentyCells prefixFilter
    (indexes_indexNode plentyCells) token holderLock ownerLock 60

end Sudt

end CkbScripts
