import CkbScripts.SudtLedger

/-!
# The sUDT script and its specification

What `sudt_main` returns on every transaction, said without loops: in exact sums, and by the first
cell that fails. The code scans the group's inputs and then its outputs, each with an early exit
and a `u128` that must not wrap, so the cell that decides is the first that is too short or at
which the exact sum of its own list is no longer a word.

`Verdict` is that specification, one constructor for each way a run ends. It is a relation, and
`sudtMain_eq_iff` says it is the graph of the code: every run has a verdict, and only one.

Acceptance looks at the lists as multisets, so the order of a transaction's cells does not matter;
which error a refused transaction gets does depend on it.

## Main definitions

* `Sudt.FailsFirst`: the error of the first cell that fails
* `Sudt.Verdict`: the specification

## Main results

* `Sudt.sumAmounts_eq_error_iff`: where the loop stops
* `Sudt.sudtMain_eq_iff`, `Sudt.accepts_iff_of_perm`
* `Sudt.sudtMain_specification`
-/

namespace CkbScripts

namespace Sudt

open CheckedSum Outcome

/-! ### The first cell that fails -/

/-- The exact amount in a list of data fields. -/
def exactSum (source : List Bytes) : ℕ := (source.map amountOf).sum

/-- No cell of the list fails: each holds an amount, and their exact sum is a word. As amounts are
not negative, the sum of any leading part is then a word too. -/
structure Sound (source : List Bytes) : Prop where
  decode : ∀ data ∈ source, 16 ≤ data.length
  sum_lt : exactSum source < 2 ^ 128

/-- The first cell that fails is too short, or carries the exact sum to `2 ^ 128`. -/
inductive FailsFirst : List Bytes → Error → Prop
  | encoding {before after : List Bytes} {data : Bytes} (hbefore : Sound before)
    (hshort : data.length < 16) : FailsFirst (before ++ data :: after) (.std .encoding)
  | overflow {before after : List Bytes} {data : Bytes} (hbefore : Sound before)
    (hlen : 16 ≤ data.length) (hsum : 2 ^ 128 ≤ exactSum (before ++ [data])) :
    FailsFirst (before ++ data :: after) .overflow

/-- A loop that returned a total has met no failing cell. -/
theorem sumAmounts_eq_ok_iff_sound {source : List Bytes} {t : U128} :
    sumAmounts source = .ok t ↔ Sound source ∧ exactSum source = t.toNat := by
  rw [sumAmounts_eq_ok_iff]
  constructor
  · rintro ⟨hall, hsum⟩
    exact ⟨⟨hall, hsum.trans_lt t.isLt⟩, hsum⟩
  · rintro ⟨⟨hall, -⟩, hsum⟩
    exact ⟨hall, hsum⟩

theorem exists_sumAmounts_of_sound {source : List Bytes} (h : Sound source) :
    ∃ t, sumAmounts source = .ok t ∧ exactSum source = t.toNat := by
  have hword : exactSum source = (BitVec.ofNat 128 (exactSum source)).toNat := by
    rw [BitVec.toNat_ofNat, Nat.mod_eq_of_lt h.sum_lt]
  exact ⟨_, sumAmounts_eq_ok_iff_sound.mpr ⟨h, hword⟩, hword⟩

/-- One iteration fails on a short cell, or when the exact sum is no word. -/
theorem step_decodeAmount_eq_error_iff {total : U128} {data : Bytes} {e : Error} :
    step (fun data => okOr (decodeAmount data) (.std .encoding)) .overflow total data = .error e ↔
      data.length < 16 ∧ .std .encoding = e ∨
        16 ≤ data.length ∧ 2 ^ 128 ≤ total.toNat + amountOf data ∧ .overflow = e := by
  rw [step_eq_error_iff, weight_decodeAmount]
  simp only [okOr_eq_error_iff, okOr_eq_ok_iff, decodeAmount_eq_none_iff, exists_decodeAmount_iff]

/-- **Where the loop stops.** -/
theorem sumAmounts_eq_error_iff {source : List Bytes} {e : Error} :
    sumAmounts source = .error e ↔ FailsFirst source e := by
  rw [sumAmounts_eq_sumFrom, sumFrom_eq_error_iff]
  constructor
  · rintro ⟨before, data, after, t, rfl, hbefore, hstep⟩
    obtain ⟨hsound, hsum⟩ := sumAmounts_eq_ok_iff_sound.mp hbefore
    rcases step_decodeAmount_eq_error_iff.mp hstep with ⟨hshort, rfl⟩ | ⟨hlen, hover, rfl⟩
    · exact .encoding hsound hshort
    · refine .overflow hsound hlen ?_
      rw [exactSum, List.map_append, List.sum_append, ← exactSum, hsum]
      simpa using hover
  · intro h
    cases h with
    | @encoding before after data hbefore hshort =>
      obtain ⟨t, ht, -⟩ := exists_sumAmounts_of_sound hbefore
      exact ⟨before, data, after, t, rfl, ht,
        step_decodeAmount_eq_error_iff.mpr (Or.inl ⟨hshort, rfl⟩)⟩
    | @overflow before after data hbefore hlen hsum =>
      obtain ⟨t, ht, hexact⟩ := exists_sumAmounts_of_sound hbefore
      have hover : 2 ^ 128 ≤ t.toNat + amountOf data := by
        rw [exactSum, List.map_append, List.sum_append, ← exactSum, hexact] at hsum
        simpa using hsum
      exact ⟨before, data, after, t, rfl, ht,
        step_decodeAmount_eq_error_iff.mpr (Or.inr ⟨hlen, hover, rfl⟩)⟩

/-! ### The specification -/

/-- How a run of the script ends. -/
inductive Verdict (l : Loads) : Except Error Unit → Prop
  /-- The args are no hash. -/
  | argsLength (hargs : l.args.length ≠ 32) : Verdict l (.error .argsLength)
  /-- Some input's type hash is the args. -/
  | owner (hargs : l.args.length = 32) (howner : l.OwnerMode) : Verdict l (.ok ())
  /-- The scan of the group's inputs fails. -/
  | input {e : Error} (hargs : l.args.length = 32) (howner : ¬ l.OwnerMode)
    (hin : FailsFirst l.groupInputData e) : Verdict l (.error e)
  /-- That of its outputs does. -/
  | output {e : Error} (hargs : l.args.length = 32) (howner : ¬ l.OwnerMode)
    (hin : Sound l.groupInputData) (hout : FailsFirst l.groupOutputData e) : Verdict l (.error e)
  /-- No cell fails, and the outputs hold more than the inputs. -/
  | exceeds (hargs : l.args.length = 32) (howner : ¬ l.OwnerMode) (hin : Sound l.groupInputData)
    (hout : Sound l.groupOutputData)
    (hlt : exactSum l.groupInputData < exactSum l.groupOutputData) :
    Verdict l (.error .outputOverflow)
  /-- No cell fails, and they do not. -/
  | conserves (hargs : l.args.length = 32) (howner : ¬ l.OwnerMode) (hin : Sound l.groupInputData)
    (hout : Sound l.groupOutputData)
    (hle : exactSum l.groupOutputData ≤ exactSum l.groupInputData) : Verdict l (.ok ())

/-- With args of 32 bytes a run looks at the owner first and then at the two sums. -/
theorem sudtMain_of_args {l : Loads} (hargs : l.args.length = 32) :
    (l.OwnerMode → sudtMain l = .ok ()) ∧
      (¬ l.OwnerMode → sudtMain l = do
        let inputSum ← sumAmounts l.groupInputData
        let outputSum ← sumAmounts l.groupOutputData
        if outputSum > inputSum then .error .outputOverflow else return ()) := by
  refine ⟨fun howner => (sudtMain_eq_ok_iff l).mpr ⟨hargs, Or.inl howner⟩, fun howner => ?_⟩
  obtain ⟨h, hh⟩ : ∃ h : Byte32, h.toList = l.args := ⟨⟨l.args, hargs⟩, rfl⟩
  have htry : tryInto 32 (l.args.take 32) = some h := by
    rw [tryInto_eq_some_iff, hh, List.take_of_length_le (Nat.le_of_eq hargs)]
  have hmem : some h ∉ l.inputTypeHashes := fun hmem => howner ⟨h, hmem, hh⟩
  simp [sudtMain, hargs, htry, isOwnerMode_eq, hmem]

/-- What the code returns is the verdict. -/
theorem sudtMain_eq_of_verdict {l : Loads} {r : Except Error Unit} (h : Verdict l r) :
    sudtMain l = r := by
  cases h with
  | argsLength hargs => simp [sudtMain, hargs]
  | owner hargs howner => exact (sudtMain_of_args hargs).1 howner
  | input hargs howner hin =>
    rw [(sudtMain_of_args hargs).2 howner, sumAmounts_eq_error_iff.mpr hin, error_bind]
  | output hargs howner hin hout =>
    obtain ⟨i, hi, -⟩ := exists_sumAmounts_of_sound hin
    rw [(sudtMain_of_args hargs).2 howner, hi, ok_bind, sumAmounts_eq_error_iff.mpr hout,
      error_bind]
  | exceeds hargs howner hin hout hlt =>
    obtain ⟨i, hi, hisum⟩ := exists_sumAmounts_of_sound hin
    obtain ⟨o, ho, hosum⟩ := exists_sumAmounts_of_sound hout
    have hgt : o > i := BitVec.lt_def.mpr (by omega)
    rw [(sudtMain_of_args hargs).2 howner, hi, ok_bind, ho, ok_bind, if_pos hgt]
  | conserves hargs howner hin hout hle =>
    exact (sudtMain_eq_ok_iff l).mpr ⟨hargs, Or.inr ⟨hin.decode, hout.decode, hin.sum_lt, hle⟩⟩

/-- Every run has a verdict. -/
theorem exists_verdict (l : Loads) : ∃ r, Verdict l r := by
  by_cases hargs : l.args.length = 32
  · by_cases howner : l.OwnerMode
    · exact ⟨_, .owner hargs howner⟩
    · cases hi : sumAmounts l.groupInputData with
      | error e => exact ⟨_, .input hargs howner (sumAmounts_eq_error_iff.mp hi)⟩
      | ok i =>
        obtain ⟨hin, -⟩ := sumAmounts_eq_ok_iff_sound.mp hi
        cases ho : sumAmounts l.groupOutputData with
        | error e => exact ⟨_, .output hargs howner hin (sumAmounts_eq_error_iff.mp ho)⟩
        | ok o =>
          obtain ⟨hout, -⟩ := sumAmounts_eq_ok_iff_sound.mp ho
          rcases Nat.lt_or_ge (exactSum l.groupInputData) (exactSum l.groupOutputData) with
            hlt | hle
          · exact ⟨_, .exceeds hargs howner hin hout hlt⟩
          · exact ⟨_, .conserves hargs howner hin hout hle⟩
  · exact ⟨_, .argsLength hargs⟩

theorem sudtMain_eq_iff (l : Loads) (r : Except Error Unit) : sudtMain l = r ↔ Verdict l r := by
  constructor
  · rintro rfl
    obtain ⟨r, hr⟩ := exists_verdict l
    rwa [sudtMain_eq_of_verdict hr]
  · exact sudtMain_eq_of_verdict

/-! ### The order of the cells -/

theorem exactSum_perm {s t : List Bytes} (h : s.Perm t) : exactSum s = exactSum t :=
  (h.map amountOf).sum_eq

/-- Whether the cells conserve is a question about their multisets. -/
theorem Loads.Conserving.of_perm {l l' : Loads} (h : l.Conserving)
    (hin : l.groupInputData.Perm l'.groupInputData)
    (hout : l.groupOutputData.Perm l'.groupOutputData) : l'.Conserving where
  inputs_decode data hdata := h.inputs_decode data (hin.mem_iff.mpr hdata)
  outputs_decode data hdata := h.outputs_decode data (hout.mem_iff.mpr hdata)
  input_lt := by
    have heq := exactSum_perm hin
    have hlt := h.input_lt
    rwa [← exactSum, heq] at hlt
  output_le := by
    have hi := exactSum_perm hin
    have ho := exactSum_perm hout
    have hle := h.output_le
    rwa [← exactSum, ← exactSum, hi, ho] at hle

theorem accepts_of_perm {H : Hashing} {tx tx' : ResolvedTx} {script : Script}
    (hin : tx.inputs.Perm tx'.inputs) (hout : tx.outputs.Perm tx'.outputs)
    (h : Accepts H tx script) : Accepts H tx' script := by
  obtain ⟨hargs, hmode⟩ := (sudtMain_eq_ok_iff _).mp h
  refine (sudtMain_eq_ok_iff _).mpr ⟨hargs, ?_⟩
  rcases hmode with ⟨x, hx, heq⟩ | hcons
  · have hhashes : (Loads.ofTx H tx script).inputTypeHashes.Perm
        (Loads.ofTx H tx' script).inputTypeHashes := (hin.map _).map _
    exact Or.inl ⟨x, hhashes.mem_iff.mp hx, heq⟩
  · exact Or.inr (hcons.of_perm (((hin.map _).filter _).map _) ((hout.filter _).map _))

/-- A transaction with its cells in another order is accepted if and only if it was. -/
theorem accepts_iff_of_perm {H : Hashing} {tx tx' : ResolvedTx} {script : Script}
    (hin : tx.inputs.Perm tx'.inputs) (hout : tx.outputs.Perm tx'.outputs) :
    Accepts H tx script ↔ Accepts H tx' script :=
  ⟨accepts_of_perm hin hout, accepts_of_perm hin.symm hout.symm⟩

/-- **The script is its specification**, on every input; and what it accepts, it accepts in any
order of the cells. -/
theorem sudtMain_specification :
    (∀ (l : Loads) (r : Except Error Unit), sudtMain l = r ↔ Verdict l r) ∧
      ∀ (H : Hashing) (tx tx' : ResolvedTx) (script : Script), tx.inputs.Perm tx'.inputs →
        tx.outputs.Perm tx'.outputs → (Accepts H tx script ↔ Accepts H tx' script) :=
  ⟨sudtMain_eq_iff, fun _ _ _ _ => accepts_iff_of_perm⟩

/-- `splitTx`, with its outputs the other way round. -/
theorem sudtMain_specification_split :
    (sudtMain (Loads.ofTx tokenHashing splitTx token) = .ok () ↔
        Verdict (Loads.ofTx tokenHashing splitTx token) (.ok ())) ∧
      (Accepts tokenHashing splitTx token ↔
        Accepts tokenHashing { splitTx with outputs := splitTx.outputs.reverse } token) :=
  ⟨sudtMain_specification.1 _ _,
    sudtMain_specification.2 tokenHashing splitTx _ token (List.Perm.refl _)
      (List.reverse_perm _).symm⟩

end Sudt

end CkbScripts
