import CkbScripts.SudtLedger

/-!
# Who can inflate a token

The args of an sUDT are the hash of the owner's *lock* script, and the intended rule is that a
transaction which inflates the token has an input that is locked by the owner. `isOwnerMode` scans
the *type* hashes of the inputs instead, which is how the tests set owner mode up, while the names
of the deployer (`lock_hash`) and its mint, which spends plain cells of the issuer, go by the lock.

A cell can carry any script as its type, and none of the owner's cells need be spent for that. The
owner's script does run then, but as a type script, over the cells that carry it: one that accepts
there, such as an always-success script, lets anybody make such a cell and spend it.

`ownerRule_iff` is the exact boundary: the rule can only fail through such a cell.

## Main definitions

* `Sudt.Inflates`: the outputs of the group carry more than the inputs, or a cell is unreadable
* `Sudt.OwnerLocked`, `Sudt.OwnerTyped`: the two readings of "the owner takes part"
* `Sudt.OwnerRule`: an accepted inflation spends a cell that the owner locks

## Main results

* `Sudt.ownerRule_iff`
-/

namespace CkbScripts

namespace Sudt

variable (H : Hashing) (tx : ResolvedTx)

/-- The group's outputs exceed its inputs in exact arithmetic, or one of its cells holds no
amount. -/
def Inflates (script : Script) : Prop :=
  ((Loads.ofTx H tx script).groupInputData.map amountOf).sum <
      ((Loads.ofTx H tx script).groupOutputData.map amountOf).sum ∨
    ∃ data ∈ (Loads.ofTx H tx script).groupInputData ++ (Loads.ofTx H tx script).groupOutputData,
      decodeAmount data = none

instance (script : Script) : Decidable (Inflates H tx script) := inferInstanceAs (Decidable (_ ∨ _))

/-- Some input is locked by a script whose hash is `h`, so that script has run as a lock. -/
def OwnerLocked (h : Byte32) : Prop := ∃ c ∈ tx.inputs, H.scriptHash c.lock = h

instance (h : Byte32) : Decidable (OwnerLocked H tx h) :=
  inferInstanceAs (Decidable (∃ c ∈ tx.inputs, _))

/-- Some input carries a type script whose hash is `h`. -/
def OwnerTyped (h : Byte32) : Prop := ∃ c ∈ tx.inputs, ∃ s, c.type_ = some s ∧ H.scriptHash s = h

/-- **The rule.** An accepted transaction that inflates the token of owner `h` has an input locked
by the owner. -/
def OwnerRule (script : Script) (h : Byte32) : Prop :=
  Accepts H tx script → Inflates H tx script → OwnerLocked H tx h

variable {H tx}

theorem ownerMode_iff_ownerTyped {script : Script} {h : Byte32} (hargs : script.args = h.toList) :
    (Loads.ofTx H tx script).OwnerMode ↔ OwnerTyped H tx h := by
  constructor
  · rintro ⟨x, hmem, hx⟩
    obtain ⟨c, hc, hopt⟩ := List.mem_map.mp hmem
    obtain ⟨l, hl, rfl⟩ := List.mem_map.mp hc
    obtain ⟨s, hs, hsx⟩ := Option.map_eq_some_iff.mp hopt
    exact ⟨l, hl, s, hs, hsx.trans (ByteVec.ext (hx.trans hargs))⟩
  · rintro ⟨l, hl, s, hs, rfl⟩
    refine ⟨H.scriptHash s, List.mem_map.mpr ⟨l.toCell, List.mem_map_of_mem hl, ?_⟩, hargs.symm⟩
    rw [hs]
    rfl

/-- A conserving group does not inflate. -/
theorem not_inflates_of_conserving {script : Script}
    (h : (Loads.ofTx H tx script).Conserving) : ¬ Inflates H tx script := by
  rintro (hlt | ⟨data, hdata, hnone⟩)
  · have := h.output_le
    omega
  · have hlen : 16 ≤ data.length := by
      rcases List.mem_append.mp hdata with hin | hout
      · exact h.inputs_decode data hin
      · exact h.outputs_decode data hout
    rw [decodeAmount_eq_none_iff] at hnone
    omega

/-- **Exactly when the rule holds.** It fails only when the owner's script hash is met in type
position while no input has it as the hash of its lock. -/
theorem ownerRule_iff (H : Hashing) (tx : ResolvedTx) (codeHash : Byte32)
    (hashType : ScriptHashType) (h : Byte32) :
    OwnerRule H tx ⟨codeHash, hashType, h.toList⟩ h ↔
      ¬ OwnerTyped H tx h ∨ OwnerLocked H tx h ∨
        ¬ Inflates H tx ⟨codeHash, hashType, h.toList⟩ := by
  have hmode : (Loads.ofTx H tx ⟨codeHash, hashType, h.toList⟩).OwnerMode ↔ OwnerTyped H tx h :=
    ownerMode_iff_ownerTyped rfl
  constructor
  · intro hrule
    by_cases htyped : OwnerTyped H tx h
    · have hacc : Accepts H tx ⟨codeHash, hashType, h.toList⟩ :=
        (sudtMain_eq_ok_iff _).mpr ⟨h.length_toList, Or.inl (hmode.mpr htyped)⟩
      by_cases hinf : Inflates H tx ⟨codeHash, hashType, h.toList⟩
      · exact Or.inr (Or.inl (hrule hacc hinf))
      · exact Or.inr (Or.inr hinf)
    · exact Or.inl htyped
  · rintro hcond hacc hinf
    obtain ⟨-, hm | hcons⟩ := (sudtMain_eq_ok_iff _).mp hacc
    · rcases hcond with htyped | hlocked | hnot
      · exact absurd (hmode.mp hm) htyped
      · exact hlocked
      · exact absurd hinf hnot
    · exact absurd hinf (not_inflates_of_conserving hcons)

/-- A holder spends a cell of their own that carries the owner's script as its type, and creates a
thousand tokens. Where that script accepts in type position, as an always-success script does, the
chain takes the transaction, and the one that made the cell. -/
def forgedTx : ResolvedTx where
  hash := Byte32.ofNat 9
  inputs := [⟨⟨⟨50000000000, holderLock, some ownerLock⟩, []⟩, Byte32.ofNat 7, 0⟩]
  outputs := [tokenCell 1000]
  headerDeps := []
  witnesses := []

theorem not_ownerRule_forgedTx : ¬ OwnerRule tokenHashing forgedTx token ownerLockHash := by
  intro hrule
  have hacc : Accepts tokenHashing forgedTx token := by decide +kernel
  have hinf : Inflates tokenHashing forgedTx token := by decide +kernel
  have hlocked : ¬ OwnerLocked tokenHashing forgedTx ownerLockHash := by decide +kernel
  exact hlocked (hrule hacc hinf)

end Sudt

end CkbScripts
