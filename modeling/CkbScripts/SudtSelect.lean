import CkbScripts.Lib.LeadingRun
import CkbScripts.SudtMint

/-!
# Which cells a transfer selects

The loop of `transfer_tokens` over the cells the indexer returned. It skips cells of other types,
adds up the amounts of the rest, and stops at the first that carries the total to the amount. In
terms of the matching cells alone that is a leading run that reaches a target, so the loop is
compared with `LeadingRun.leadingRun` once and for all: a step lemma for one matching cell, and by
induction over the cells the run lemma `selectCells_eq_ok_iff`. The loop goes through exactly when
every cell of the run can be read and the exact total of the run is a word, and every other way it
ends is a panic.

`planTransfer` is the part of `transfer_tokens` between the query and the first thing it does with
the outputs. `coin_selection` says what it computes, in exact numbers, and
`transferTokens_of_selection` what the command does with it.

## Main definitions

* `Sudt.Matches`, `Sudt.Readable`: the loop takes this cell, and does not panic on it
* `Sudt.planTransfer`: from the indexer's cells to the outputs

## Main results

* `Sudt.selectCells_eq_ok_iff`, `Sudt.exists_selectCells_iff`, `Sudt.panics_of_selectCells`
* `Sudt.transferRequest_eq`: the plan inside the command
* `Sudt.coin_selection`, `Sudt.transferTokens_of_selection`
-/

namespace CkbScripts

/-- A failure that is not an `Err`. -/
def Failure.Panics : Failure → Prop
  | .error _ => False
  | .expect _ => True
  | .panic => True

namespace Sudt

open CheckedSum DeployScript LeadingRun Outcome

/-! ### One cell -/

/-- The cell's type hash is the token's. -/
def Matches (H : Hashing) (sudtTypeHash : Byte32) (cell : IndexerCell) : Prop :=
  cell.output.type_.map H.scriptHash = some sudtTypeHash

instance (H : Hashing) (sudtTypeHash : Byte32) : DecidablePred (Matches H sudtTypeHash) :=
  fun _ => inferInstanceAs (Decidable (_ = _))

/-- The cells the loop does not skip. -/
def matchingCells (H : Hashing) (sudtTypeHash : Byte32) (cells : List IndexerCell) :
    List IndexerCell :=
  cells.filter (Matches H sudtTypeHash ·)

/-- The exact amount of a cell the indexer returned. -/
def cellAmount (cell : IndexerCell) : ℕ := amountOf (cell.outputData.getD [])

/-- The cell came with its data, and they are long enough to hold an amount. -/
def Readable (cell : IndexerCell) : Prop := ∃ data, cell.outputData = some data ∧ 16 ≤ data.length

variable {H : Hashing} {sudtTypeHash : Byte32} {transferAmount : U128}

/-- The step lemma: the cell is appended and its amount added, exactly. -/
theorem takeCell_eq_ok_iff {acc acc' : Selection} {cell : IndexerCell} :
    takeCell acc cell = .ok acc' ↔ Readable cell ∧ acc'.inputs = acc.inputs ++ [cell] ∧
      acc.inputTotal.toNat + cellAmount cell = acc'.inputTotal.toNat := by
  constructor
  · intro h
    simp only [takeCell, bind_eq_ok_iff, okOr_eq_ok_iff, pure_eq_ok, Except.ok.injEq] at h
    obtain ⟨data, hdata, a, ha, total, htotal, rfl⟩ := h
    have hdecode := readAmount_eq_ok_iff.mp ha
    have hamount : cellAmount cell = a.toNat := by simp [cellAmount, hdata, amountOf, hdecode]
    exact ⟨⟨data, hdata, exists_decodeAmount_iff.mp ⟨a, hdecode⟩⟩, rfl,
      by rw [hamount, checkedAdd_eq_some_iff.mp htotal]⟩
  · rintro ⟨⟨data, hdata, hlen⟩, hinputs, htotal⟩
    obtain ⟨a, ha⟩ := exists_decodeAmount_iff.mpr hlen
    have hamount : cellAmount cell = a.toNat := by simp [cellAmount, hdata, amountOf, ha]
    rw [hamount, ← checkedAdd_eq_some_iff] at htotal
    obtain ⟨inputs', total'⟩ := acc'
    obtain rfl : inputs' = acc.inputs ++ [cell] := hinputs
    simp [takeCell, hdata, readAmount_eq_ok_iff.mpr ha, htotal]

theorem panics_of_takeCell {acc : Selection} {cell : IndexerCell} {f : Failure}
    (h : takeCell acc cell = .error f) : f.Panics := by
  simp only [takeCell, bind_eq_error_iff, okOr_eq_error_iff, readAmount, pure_eq_ok, reduceCtorEq,
    and_false, exists_false, or_false] at h
  rcases h with ⟨-, rfl⟩ | ⟨_, -, ⟨-, rfl⟩ | ⟨_, -, -, rfl⟩⟩ <;> exact trivial

/-! ### The loop -/

theorem selectCells_of_matches {acc : Selection} {cell : IndexerCell} {rest : List IndexerCell}
    (h : Matches H sudtTypeHash cell) :
    selectCells H sudtTypeHash transferAmount (cell :: rest) acc = (do
      let acc ← takeCell acc cell
      if acc.inputTotal ≥ transferAmount then return acc
      else selectCells H sudtTypeHash transferAmount rest acc) := if_pos h

theorem selectCells_of_not_matches {acc : Selection} {cell : IndexerCell} {rest : List IndexerCell}
    (h : ¬ Matches H sudtTypeHash cell) :
    selectCells H sudtTypeHash transferAmount (cell :: rest) acc =
      selectCells H sudtTypeHash transferAmount rest acc := if_neg h

theorem matchingCells_cons_of_matches {cell : IndexerCell} {rest : List IndexerCell}
    (h : Matches H sudtTypeHash cell) :
    matchingCells H sudtTypeHash (cell :: rest) = cell :: matchingCells H sudtTypeHash rest :=
  List.filter_cons_of_pos (by simpa using h)

theorem matchingCells_cons_of_not_matches {cell : IndexerCell} {rest : List IndexerCell}
    (h : ¬ Matches H sudtTypeHash cell) :
    matchingCells H sudtTypeHash (cell :: rest) = matchingCells H sudtTypeHash rest :=
  List.filter_cons_of_neg (by simpa using h)

/-- The loop stops at the cell that carries the total to the amount. -/
theorem selectCells_cons_of_le {acc sel : Selection} {cell : IndexerCell}
    {rest : List IndexerCell} (hmatch : Matches H sudtTypeHash cell)
    (henough : transferAmount.toNat ≤ acc.inputTotal.toNat + cellAmount cell) :
    selectCells H sudtTypeHash transferAmount (cell :: rest) acc = .ok sel ↔
      takeCell acc cell = .ok sel := by
  have hstop {mid : Selection} (htake : takeCell acc cell = .ok mid) :
      mid.inputTotal ≥ transferAmount :=
    BitVec.le_def.mpr (by rw [← (takeCell_eq_ok_iff.mp htake).2.2]; exact henough)
  rw [selectCells_of_matches hmatch, bind_eq_ok_iff]
  constructor
  · rintro ⟨mid, htake, h⟩
    obtain rfl : mid = sel := by simpa [hstop htake] using h
    exact htake
  · intro htake
    exact ⟨sel, htake, by simp [hstop htake]⟩

/-- Before that it goes on from the new total. -/
theorem selectCells_cons_of_lt {acc sel : Selection} {cell : IndexerCell}
    {rest : List IndexerCell} (hmatch : Matches H sudtTypeHash cell)
    (hlt : acc.inputTotal.toNat + cellAmount cell < transferAmount.toNat) :
    selectCells H sudtTypeHash transferAmount (cell :: rest) acc = .ok sel ↔
      Readable cell ∧ ∃ total : U128, acc.inputTotal.toNat + cellAmount cell = total.toNat ∧
        selectCells H sudtTypeHash transferAmount rest ⟨acc.inputs ++ [cell], total⟩ =
          .ok sel := by
  have hgoes {mid : Selection} (htake : takeCell acc cell = .ok mid) :
      ¬ mid.inputTotal ≥ transferAmount := by
    intro hle
    have hreach := BitVec.le_def.mp hle
    rw [← (takeCell_eq_ok_iff.mp htake).2.2] at hreach
    exact Nat.not_le.mpr hlt hreach
  rw [selectCells_of_matches hmatch, bind_eq_ok_iff]
  constructor
  · rintro ⟨⟨inputs, total⟩, htake, h⟩
    rw [if_neg (hgoes htake)] at h
    obtain ⟨hread, rfl, htotal⟩ := takeCell_eq_ok_iff.mp htake
    exact ⟨hread, total, htotal, h⟩
  · rintro ⟨hread, total, htotal, h⟩
    have htake : takeCell acc cell = .ok ⟨acc.inputs ++ [cell], total⟩ :=
      takeCell_eq_ok_iff.mpr ⟨hread, rfl, htotal⟩
    exact ⟨_, htake, by rw [if_neg (hgoes htake)]; exact h⟩

/-- What the loop takes from a total on. -/
def selectionRun (H : Hashing) (sudtTypeHash : Byte32) (transferAmount : U128) (start : ℕ)
    (cells : List IndexerCell) : List IndexerCell :=
  leadingRun cellAmount transferAmount.toNat start (matchingCells H sudtTypeHash cells)

/-- **The run lemma.** The loop takes the leading run of the matching cells that reaches the amount,
provided it can read each of them, and its total is the exact one. -/
theorem selectCells_eq_ok_iff {cells : List IndexerCell} {acc sel : Selection} :
    selectCells H sudtTypeHash transferAmount cells acc = .ok sel ↔
      (∀ cell ∈ selectionRun H sudtTypeHash transferAmount acc.inputTotal.toNat cells,
        Readable cell) ∧
      sel.inputs =
        acc.inputs ++ selectionRun H sudtTypeHash transferAmount acc.inputTotal.toNat cells ∧
      acc.inputTotal.toNat +
          ((selectionRun H sudtTypeHash transferAmount acc.inputTotal.toNat cells).map
            cellAmount).sum = sel.inputTotal.toNat := by
  induction cells generalizing acc with
  | nil =>
    obtain ⟨inputs, total⟩ := acc
    obtain ⟨inputs', total'⟩ := sel
    simp [selectCells, selectionRun, matchingCells, BitVec.toNat_inj, eq_comm]
  | cons cell rest ih =>
    by_cases hmatch : Matches H sudtTypeHash cell
    · rw [selectionRun, matchingCells_cons_of_matches hmatch]
      by_cases henough : transferAmount.toNat ≤ acc.inputTotal.toNat + cellAmount cell
      · rw [selectCells_cons_of_le hmatch henough, leadingRun_cons_of_le henough,
          List.forall_mem_singleton, List.map_singleton, List.sum_singleton, takeCell_eq_ok_iff]
      · have hlt := Nat.not_le.mp henough
        rw [selectCells_cons_of_lt hmatch hlt, leadingRun_cons_of_lt hlt, List.forall_mem_cons,
          List.map_cons, List.sum_cons, and_assoc, ← Nat.add_assoc]
        refine and_congr_right fun _ => ?_
        constructor
        · rintro ⟨total, htotal, h⟩
          obtain ⟨hall, hsel, hsum⟩ := ih.mp h
          rw [htotal]
          exact ⟨hall, by simpa [selectionRun] using hsel, hsum⟩
        · rintro ⟨hall, hsel, hsum⟩
          -- the total is a word because the final one is, and it is no larger
          have hword : acc.inputTotal.toNat + cellAmount cell < 2 ^ 128 := by
            have := sel.inputTotal.isLt
            omega
          have htotal : acc.inputTotal.toNat + cellAmount cell =
              (BitVec.ofNat 128 (acc.inputTotal.toNat + cellAmount cell)).toNat := by
            rw [BitVec.toNat_ofNat, Nat.mod_eq_of_lt hword]
          refine ⟨_, htotal, ih.mpr ?_⟩
          rw [htotal] at hall hsel hsum
          exact ⟨hall, by simpa [selectionRun] using hsel, hsum⟩
    · rw [selectCells_of_not_matches hmatch, selectionRun, matchingCells_cons_of_not_matches hmatch]
      exact ih

/-- Every other end of the loop is a panic. -/
theorem panics_of_selectCells {cells : List IndexerCell} {acc : Selection} {f : Failure}
    (h : selectCells H sudtTypeHash transferAmount cells acc = .error f) : f.Panics := by
  induction cells generalizing acc with
  | nil => cases h
  | cons cell rest ih =>
    by_cases hmatch : Matches H sudtTypeHash cell
    · rw [selectCells_of_matches hmatch] at h
      rcases bind_eq_error_iff.mp h with htake | ⟨mid, -, h⟩
      · exact panics_of_takeCell htake
      · by_cases henough : mid.inputTotal ≥ transferAmount
        · simp [henough] at h
        · exact ih (by simpa [henough] using h)
    · rw [selectCells_of_not_matches hmatch] at h
      exact ih h

/-- A loop that meets no matching cell changes nothing. -/
theorem selectCells_of_forall_not {cells : List IndexerCell} {acc : Selection}
    (h : ∀ cell ∈ cells, ¬ Matches H sudtTypeHash cell) :
    selectCells H sudtTypeHash transferAmount cells acc = .ok acc := by
  have hnone : matchingCells H sudtTypeHash cells = [] :=
    List.filter_eq_nil_iff.mpr fun cell hcell => by simpa using h cell hcell
  rw [selectCells_eq_ok_iff, selectionRun, hnone]
  simp

/-! ### From the cells to the outputs -/

/-- The amounts of the transferred cells. -/
theorem amountOf_transferData (a : U128) : amountOf (transferData a) = a.toNat := by
  simp [amountOf, (readAs_transferData a).1]

/-- Both outputs are of the token. -/
theorem type_of_transferOutputs {script senderLock recipientLock : Script} {a change : U128}
    {o : CellOutput × Bytes} (ho : o ∈ transferOutputs script senderLock recipientLock a change) :
    o.1.type_ = some script := by
  rcases List.mem_cons.mp ho with rfl | ho
  · rfl
  · obtain ⟨-, rfl⟩ : 0 < change ∧
        o = (⟨ckb 142, senderLock, some script⟩, transferData change) := by simpa using ho
    rfl

/-- The outputs carry the amount and the change. -/
theorem sum_transferOutputs (script senderLock recipientLock : Script) (a change : U128) :
    ((transferOutputs script senderLock recipientLock a change).map
      fun o => amountOf o.2).sum = a.toNat + change.toNat := by
  by_cases hpos : change > 0
  · simp only [transferOutputs, if_pos hpos, List.map_cons, List.map_nil, List.sum_cons,
      List.sum_nil, amountOf_transferData, Nat.add_zero]
  · obtain rfl : change = 0 := by simpa using hpos
    simp [transferOutputs, amountOf_transferData]

/-- What `transfer_tokens` makes of the cells the indexer returned: the selection, and the outputs
it will ask for. -/
def planTransfer (H : Hashing) (sudtTypeScript senderLock recipientLock : Script)
    (transferAmount : U128) (udtCells : List IndexerCell) :
    Except Failure (Selection × List (CellOutput × Bytes)) := do
  let selection ←
    selectCells H (H.scriptHash sudtTypeScript) transferAmount udtCells ⟨[], 0⟩
  if selection.inputTotal < transferAmount then
    .error (insufficient selection.inputTotal transferAmount)
  else
    return (selection, transferOutputs sudtTypeScript senderLock recipientLock transferAmount
      (selection.inputTotal - transferAmount))

theorem planTransfer_of_ok {sudtTypeScript senderLock recipientLock : Script}
    {udtCells : List IndexerCell} {selection : Selection}
    (hselect : selectCells H (H.scriptHash sudtTypeScript) transferAmount udtCells ⟨[], 0⟩ =
      .ok selection) :
    planTransfer H sudtTypeScript senderLock recipientLock transferAmount udtCells =
      if selection.inputTotal < transferAmount then
        .error (insufficient selection.inputTotal transferAmount)
      else .ok (selection, transferOutputs sudtTypeScript senderLock recipientLock transferAmount
        (selection.inputTotal - transferAmount)) := by
  rw [planTransfer, hselect]
  rfl

/-- A plan that does not panic went through the loop. -/
theorem exists_selectCells_of_not_panics {sudtTypeScript senderLock recipientLock : Script}
    {udtCells : List IndexerCell}
    (h : ∀ f, planTransfer H sudtTypeScript senderLock recipientLock transferAmount udtCells =
      .error f → ¬ f.Panics) :
    ∃ selection, selectCells H (H.scriptHash sudtTypeScript) transferAmount udtCells ⟨[], 0⟩ =
      .ok selection := by
  rcases hselect : selectCells H (H.scriptHash sudtTypeScript) transferAmount udtCells ⟨[], 0⟩ with
    f | selection
  · refine absurd (panics_of_selectCells hselect) (h f ?_)
    rw [planTransfer, hselect]
    rfl
  · exact ⟨selection, rfl⟩

/-- **The command around its plan.** The arguments are read first, then the plan is made, and with
the code and the genesis block it becomes a request. -/
theorem transferRequest_eq (crates : Crates) (node : Node) (sudtTypeScript : Script)
    (codeCellOutpoint : OutPoint) (senderAddress senderKeyHex recipientAddress : String)
    (transferAmount : U128) :
    transferRequest crates node sudtTypeScript codeCellOutpoint senderAddress senderKeyHex
      recipientAddress transferAmount = (do
        let senderLock ← orPanic (crates.addressLock senderAddress)
        let senderKeyBytes ← orError (crates.hexDecode senderKeyHex)
        let cleanSenderKey ← okOr (tryInto 32 senderKeyBytes) .panic
        let senderKey ← orError (crates.secretKey cleanSenderKey)
        let recipientLock ← orPanic (crates.addressLock recipientAddress)
        let udtCells ←
          orError (node.getCells (transferSearchKey senderLock sudtTypeScript) .asc 1000 none)
        let (_, outputs) ← planTransfer crates.toHashing sudtTypeScript senderLock recipientLock
          transferAmount udtCells
        let codeHash ← computeCodeHash crates node codeCellOutpoint
        let genesis ← genesisCellDeps crates node
        return {
          outputs := outputs
          cellDepResolver := tokenResolver genesis codeHash codeCellOutpoint
          balancer := .newSimple senderLock
          unlockers := sighashUnlockers senderKey }) := by
  simp only [transferRequest, planTransfer, bind_assoc]
  refine bind_congr fun senderLock => bind_congr fun _ => bind_congr fun _ => bind_congr fun _ =>
    bind_congr fun recipientLock => bind_congr fun udtCells => bind_congr fun selection => ?_
  split_ifs <;> rfl

/-! ### What is selected -/

/-- The exact total of some cells. -/
def cellTotal (cells : List IndexerCell) : ℕ := (cells.map cellAmount).sum

/-- The error of a sender who has too little. -/
def insufficientBalance (available needed : ℕ) : Failure :=
  .error s!"Insufficient UDT balance: have {available}, need {needed}"

/-- Who gets how much of which token. -/
def payments (outputs : List (CellOutput × Bytes)) : List (Script × Option Script × ℕ) :=
  outputs.map fun o => (o.1.lock, o.1.type_, amountOf o.2)

theorem payments_transferOutputs (script senderLock recipientLock : Script) (a change : U128) :
    payments (transferOutputs script senderLock recipientLock a change) =
      (recipientLock, some script, a.toNat) ::
        if 0 < change.toNat then [(senderLock, some script, change.toNat)] else [] := by
  have hpos : change > 0 ↔ 0 < change.toNat := BitVec.lt_def
  by_cases h : change > 0
  · simp only [payments, transferOutputs, if_pos h, if_pos (hpos.mp h), List.map_cons,
      List.map_nil, amountOf_transferData]
  · simp only [payments, transferOutputs, if_neg h, if_neg (mt hpos.mpr h), List.map_cons,
      List.map_nil, amountOf_transferData]

/-- What a loop that went through has selected, from the start. -/
theorem selection_of_ok {cells : List IndexerCell} {sel : Selection}
    (h : selectCells H sudtTypeHash transferAmount cells ⟨[], 0⟩ = .ok sel) :
    sel.inputs =
        leadingRun cellAmount transferAmount.toNat 0 (matchingCells H sudtTypeHash cells) ∧
      cellTotal sel.inputs = sel.inputTotal.toNat := by
  obtain ⟨-, hinputs, htotal⟩ := selectCells_eq_ok_iff.mp h
  have hsel : sel.inputs =
      leadingRun cellAmount transferAmount.toNat 0 (matchingCells H sudtTypeHash cells) := by
    simpa [selectionRun] using hinputs
  refine ⟨hsel, ?_⟩
  rw [cellTotal, hsel, ← htotal]
  simp [selectionRun]

/-- A property of the selected cells, in terms of what comes before them. -/
theorem forall_mem_inputs_iff {cells : List IndexerCell} {selection : Selection}
    {P : IndexerCell → Prop}
    (h : selectCells H sudtTypeHash transferAmount cells ⟨[], 0⟩ = .ok selection) :
    (∀ c ∈ selection.inputs, P c) ↔
      ∀ before c, before ++ [c] <+: matchingCells H sudtTypeHash cells →
        (before = [] ∨ cellTotal before < transferAmount.toNat) → P c := by
  rw [(selection_of_ok h).1, forall_mem_leadingRun_iff]
  simp only [Nat.zero_add]
  rfl

/-- The balance check compares the amount with what all the matching cells are worth. -/
theorem planTransfer_eq_ite {sudtTypeScript senderLock recipientLock : Script}
    {cells : List IndexerCell} {selection : Selection}
    (h : selectCells H (H.scriptHash sudtTypeScript) transferAmount cells ⟨[], 0⟩ =
      .ok selection) :
    planTransfer H sudtTypeScript senderLock recipientLock transferAmount cells =
      if transferAmount.toNat ≤ cellTotal (matchingCells H (H.scriptHash sudtTypeScript) cells) then
        .ok (selection, transferOutputs sudtTypeScript senderLock recipientLock transferAmount
          (selection.inputTotal - transferAmount))
      else .error (insufficientBalance
        (cellTotal (matchingCells H (H.scriptHash sudtTypeScript) cells))
        transferAmount.toNat) := by
  obtain ⟨hsel, htotal⟩ := selection_of_ok h
  by_cases hcovered :
    transferAmount.toNat ≤ cellTotal (matchingCells H (H.scriptHash sudtTypeScript) cells)
  · -- the run of cells worth the amount is worth it too
    have hreach := (isShortest_leadingRun (f := cellAmount) hcovered).reaches
    rw [← hsel] at hreach
    have hnot : ¬ selection.inputTotal < transferAmount := by
      rw [BitVec.lt_def, ← htotal]
      exact Nat.not_lt.mpr hreach
    rw [planTransfer_of_ok h, if_neg hnot, if_pos hcovered]
  · -- the run of the others is all of them
    have hall : selection.inputs = matchingCells H (H.scriptHash sudtTypeScript) cells :=
      hsel.trans (leadingRun_of_not_reaches (by simpa [cellTotal] using hcovered))
    rw [← hall, htotal] at hcovered ⊢
    rw [planTransfer_of_ok h, if_pos (BitVec.lt_def.mpr (Nat.not_le.mp hcovered)),
      if_neg hcovered]
    rfl

/-- When the loop goes through: up to the cell that carries the total to the amount, it can read
each cell, and the exact total stays a word. -/
theorem exists_selectCells_iff {cells : List IndexerCell} :
    (∃ sel, selectCells H sudtTypeHash transferAmount cells ⟨[], 0⟩ = .ok sel) ↔
      ∀ before c, before ++ [c] <+: matchingCells H sudtTypeHash cells →
        (before = [] ∨ cellTotal before < transferAmount.toNat) →
          Readable c ∧ cellTotal (before ++ [c]) < 2 ^ 128 := by
  have hread : (∀ c ∈ selectionRun H sudtTypeHash transferAmount 0 cells, Readable c) ↔
      ∀ before c, before ++ [c] <+: matchingCells H sudtTypeHash cells →
        (before = [] ∨ 0 + cellTotal before < transferAmount.toNat) → Readable c :=
    forall_mem_leadingRun_iff
  have hword : 0 + cellTotal (selectionRun H sudtTypeHash transferAmount 0 cells) < 2 ^ 128 ↔
      ∀ before c, before ++ [c] <+: matchingCells H sudtTypeHash cells →
        (before = [] ∨ 0 + cellTotal before < transferAmount.toNat) →
          0 + cellTotal (before ++ [c]) < 2 ^ 128 :=
    sum_leadingRun_lt_iff (by decide)
  simp only [Nat.zero_add] at hread hword
  constructor
  · rintro ⟨sel, hsel⟩ before c hl hbefore
    obtain ⟨hall, hinputs, -⟩ := selectCells_eq_ok_iff.mp hsel
    have htotal := (selection_of_ok hsel).2
    rw [hinputs] at htotal
    have hlt := sel.inputTotal.isLt
    rw [← htotal] at hlt
    exact ⟨hread.mp hall before c hl hbefore, hword.mp hlt before c hl hbefore⟩
  · intro h
    have hlt := hword.mpr fun before c hl hbefore => (h before c hl hbefore).2
    have hall := hread.mpr fun before c hl hbefore => (h before c hl hbefore).1
    refine ⟨⟨selectionRun H sudtTypeHash transferAmount 0 cells, BitVec.ofNat 128
      (cellTotal (selectionRun H sudtTypeHash transferAmount 0 cells))⟩,
      selectCells_eq_ok_iff.mpr ⟨hall, rfl, ?_⟩⟩
    rw [BitVec.toNat_ofNat, Nat.mod_eq_of_lt hlt]
    exact Nat.zero_add _

/-- The plan of a sender with enough: the shortest leading run of the matching cells that is worth
the amount, and what the run has too much back to the sender. -/
theorem plan_of_covered {sudtTypeScript senderLock recipientLock : Script}
    {udtCells : List IndexerCell} {selection : Selection}
    (hselect : selectCells H (H.scriptHash sudtTypeScript) transferAmount udtCells ⟨[], 0⟩ =
      .ok selection)
    (hcovered : transferAmount.toNat ≤
      cellTotal (matchingCells H (H.scriptHash sudtTypeScript) udtCells)) :
    IsShortest cellAmount transferAmount.toNat
        (matchingCells H (H.scriptHash sudtTypeScript) udtCells) selection.inputs ∧
      ∃ outputs,
        planTransfer H sudtTypeScript senderLock recipientLock transferAmount udtCells =
          .ok (selection, outputs) ∧
        payments outputs = (recipientLock, some sudtTypeScript, transferAmount.toNat) ::
          (if transferAmount.toNat < cellTotal selection.inputs then
            [(senderLock, some sudtTypeScript,
              cellTotal selection.inputs - transferAmount.toNat)] else []) ∧
        (outputs.map fun o => amountOf o.2).sum = cellTotal selection.inputs := by
  obtain ⟨hsel, htotal⟩ := selection_of_ok hselect
  have hshortest := isShortest_leadingRun (f := cellAmount) hcovered
  rw [← hsel] at hshortest
  have hreach : transferAmount.toNat ≤ selection.inputTotal.toNat := htotal ▸ hshortest.reaches
  -- the subtraction does not wrap
  have hchange : (selection.inputTotal - transferAmount).toNat =
      cellTotal selection.inputs - transferAmount.toNat := by
    rw [htotal, BitVec.toNat_sub_of_le (BitVec.le_def.mpr hreach)]
  refine ⟨hshortest, _, (planTransfer_eq_ite hselect).trans (if_pos hcovered), ?_, ?_⟩
  · rw [payments_transferOutputs, hchange]
    congr 1
    simp only [Nat.sub_pos_iff_lt]
  · rw [sum_transferOutputs, hchange, htotal]
    omega

/-- The plan of a sender with too little is the error, with what the matching cells are worth. -/
theorem plan_of_short {sudtTypeScript senderLock recipientLock : Script}
    {udtCells : List IndexerCell} {selection : Selection}
    (hselect : selectCells H (H.scriptHash sudtTypeScript) transferAmount udtCells ⟨[], 0⟩ =
      .ok selection)
    (hshort : cellTotal (matchingCells H (H.scriptHash sudtTypeScript) udtCells) <
      transferAmount.toNat) :
    planTransfer H sudtTypeScript senderLock recipientLock transferAmount udtCells =
      .error (insufficientBalance
        (cellTotal (matchingCells H (H.scriptHash sudtTypeScript) udtCells))
        transferAmount.toNat) :=
  (planTransfer_eq_ite hselect).trans (if_neg (Nat.not_le.mpr hshort))

/-- **Coin selection is exact.** If the matching cells are worth the amount, the shortest leading
run of them that is gets selected, and the outputs are the amount to the recipient and the
difference, if there is one, back to the sender; if not, the command stops with what they are
worth. -/
theorem coin_selection (H : Hashing) (sudtTypeScript senderLock recipientLock : Script)
    (transferAmount : U128) (udtCells : List IndexerCell) (selection : Selection)
    (hselect : selectCells H (H.scriptHash sudtTypeScript) transferAmount udtCells ⟨[], 0⟩ =
      .ok selection) :
    (transferAmount.toNat ≤ cellTotal (matchingCells H (H.scriptHash sudtTypeScript) udtCells) →
      IsShortest cellAmount transferAmount.toNat
          (matchingCells H (H.scriptHash sudtTypeScript) udtCells) selection.inputs ∧
        ∃ outputs,
          planTransfer H sudtTypeScript senderLock recipientLock transferAmount udtCells =
            .ok (selection, outputs) ∧
          payments outputs = (recipientLock, some sudtTypeScript, transferAmount.toNat) ::
            (if transferAmount.toNat < cellTotal selection.inputs then
              [(senderLock, some sudtTypeScript,
                cellTotal selection.inputs - transferAmount.toNat)] else []) ∧
          (outputs.map fun o => amountOf o.2).sum = cellTotal selection.inputs) ∧
    (cellTotal (matchingCells H (H.scriptHash sudtTypeScript) udtCells) < transferAmount.toNat →
      planTransfer H sudtTypeScript senderLock recipientLock transferAmount udtCells =
        .error (insufficientBalance
          (cellTotal (matchingCells H (H.scriptHash sudtTypeScript) udtCells))
          transferAmount.toNat)) := by
  exact ⟨plan_of_covered hselect, plan_of_short hselect⟩

/-- **The selection inside the command.** A transfer whose arguments can be read asks for outputs
that pay the amount to the recipient and the rest of the selected cells back, or it ends with the
error before anything is built. -/
theorem transferTokens_of_selection {crates : Crates} {node : Node}
    {sudtTypeScript senderLock recipientLock : Script} {codeCellOutpoint : OutPoint}
    {senderAddress senderKeyHex recipientAddress : String} {keyBytes : ByteVec 32} {key : SecretKey}
    {udtCells : List IndexerCell} {selection : Selection}
    (hsender : crates.addressLock senderAddress = .ok senderLock)
    (hhex : crates.hexDecode senderKeyHex = .ok keyBytes.toList)
    (hkey : crates.secretKey keyBytes = .ok key)
    (hrecipient : crates.addressLock recipientAddress = .ok recipientLock)
    (hcells : node.getCells (transferSearchKey senderLock sudtTypeScript) .asc 1000 none =
      .ok udtCells)
    (hselect : selectCells crates.toHashing (crates.scriptHash sudtTypeScript) transferAmount
      udtCells ⟨[], 0⟩ = .ok selection) :
    (∀ req, transferRequest crates node sudtTypeScript codeCellOutpoint senderAddress senderKeyHex
        recipientAddress transferAmount = .ok req →
      IsShortest cellAmount transferAmount.toNat
          (matchingCells crates.toHashing (crates.scriptHash sudtTypeScript) udtCells)
          selection.inputs ∧
        payments req.outputs = (recipientLock, some sudtTypeScript, transferAmount.toNat) ::
          (if transferAmount.toNat < cellTotal selection.inputs then
            [(senderLock, some sudtTypeScript,
              cellTotal selection.inputs - transferAmount.toNat)] else [])) ∧
    (cellTotal (matchingCells crates.toHashing (crates.scriptHash sudtTypeScript) udtCells) <
        transferAmount.toNat →
      transferTokens crates node sudtTypeScript codeCellOutpoint senderAddress senderKeyHex
        recipientAddress transferAmount = .error (insufficientBalance
          (cellTotal (matchingCells crates.toHashing (crates.scriptHash sudtTypeScript) udtCells))
          transferAmount.toNat)) := by
  have hbytes : tryInto 32 keyBytes.toList = some keyBytes := tryInto_toList keyBytes
  constructor
  · intro req hreq
    simp only [transferRequest_eq, hsender, hhex, hbytes, hkey, hrecipient, hcells, orPanic,
      orError, mapError_ok, okOr_some, ok_bind, bind_eq_ok_iff, pure_eq_ok, Except.ok.injEq] at hreq
    obtain ⟨⟨_, outputs⟩, hplan, codeHash, -, genesis, -, rfl⟩ := hreq
    rcases Nat.lt_or_ge (cellTotal (matchingCells crates.toHashing
      (crates.scriptHash sudtTypeScript) udtCells)) transferAmount.toNat with hshort | hcovered
    · cases (plan_of_short hselect hshort).symm.trans hplan
    · obtain ⟨hshortest, outputs', hplan', hpayments, -⟩ := plan_of_covered hselect hcovered
      obtain ⟨-, rfl⟩ := Prod.mk.inj (ok_unique hplan' hplan)
      exact ⟨hshortest, hpayments⟩
  · intro hshort
    simp only [transferTokens, transferTokensTx, transferRequest_eq, hsender, hhex, hbytes, hkey,
      hrecipient, hcells, orPanic, orError, mapError_ok, okOr_some, ok_bind,
      plan_of_short hselect hshort, error_bind]

/-- A cell as the indexer returns it. -/
def indexed (c : Cell) (n : ℕ) : IndexerCell := ⟨c.output, some c.data, ⟨Byte32.ofNat n, 0⟩⟩

/-- Three cells of the token, and a plain one after the first. -/
def holderCells : List IndexerCell :=
  [indexed (tokenCell 30) 1, indexed ⟨⟨6100000000, holderLock, none⟩, []⟩ 2,
    indexed (tokenCell 50) 3, indexed (tokenCell 70) 4]

/-- A transfer of sixty takes the first two of them, and returns twenty. -/
theorem coin_selection_sixty : ∃ outputs,
    planTransfer tokenHashing token holderLock ownerLock 60 holderCells =
      .ok (⟨[indexed (tokenCell 30) 1, indexed (tokenCell 50) 3], 80⟩, outputs) ∧
    payments outputs = [(ownerLock, some token, 60), (holderLock, some token, 20)] := by
  have hselect : selectCells tokenHashing (tokenHashing.scriptHash token) 60 holderCells ⟨[], 0⟩ =
      .ok ⟨[indexed (tokenCell 30) 1, indexed (tokenCell 50) 3], 80⟩ := by decide +kernel
  obtain ⟨-, outputs, hplan, hpayments, -⟩ :=
    (coin_selection tokenHashing token holderLock ownerLock 60 holderCells _ hselect).1
      (by decide +kernel)
  refine ⟨outputs, hplan, hpayments.trans ?_⟩
  decide +kernel

end Sudt

end CkbScripts
