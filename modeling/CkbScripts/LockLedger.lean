import CkbScripts.LockFlow
import CkbScripts.SudtBook
import CkbScripts.Verification

/-!
# Locked cells over whole runs

What a lock script is for is a statement about runs: its cell stays live until somebody does what
the lock asks for. For the hash lock this is so, and everything that is held under it is as safe,
tokens included. But a witness is not bound to the transaction it appears in: once a preimage has
been shown, the bytes that showed it open every other cell with the same hash.

The time lock asks for a signature it does not check, for a time the witness itself names, and for
nothing at all where the payload is empty. So one byte string, the same for all keys and all times,
opens every timelock cell, and whatever its owner can spend everybody can.

## Main definitions

* `Programs.ShowsPreimage`
* `sweepTx`: spending cells with one and the same witness
* `anyoneWire`: the bytes that open every timelock cell

## Main results

* `Programs.preimage_shown`: how a hash-locked cell is lost
* `Programs.hashLocked_bound`: tokens under hash locks
* `Programs.preimage_replays`
* `Programs.timelock_spendable_iff`
-/

namespace CkbScripts

open Exchange PrefixCodec

/-! ### The hash lock over a run -/

/-- The sample code behind a lock, the token, and locks of others that accept. -/
def samplePrograms (locked : Contract) : Programs where
  contract id :=
    if id = ⟨sampleCodeHash, .data1⟩ then locked else if id = Sudt.token.id then .sudt else .foreign
  decodeSimpleLock := Spend.decodeAll SimpleLock.format
  decodeTimelock := Spend.decodeAll decodeTimelockWitness
  foreign _ := 0

namespace Programs

variable (P : Programs) (H : Hashing)

/-- The witness of a lock's group shows a preimage of its args. -/
def ShowsPreimage (tx : ResolvedTx) (s : Script) : Prop :=
  ∃ w, Vm.fromWitnessArgs ⟨tx, .lock, s⟩ P.decodeSimpleLock = some w ∧
    (H.blake2b256 w.preimage).toList = s.args

variable {P H} {tx : ResolvedTx} {L L' : Sudt.Ledger} {c : LiveCell}

theorem Verifies.showsPreimage (h : P.Verifies H tx) (hc : c ∈ tx.inputs)
    (hlock : P.contract c.lock.id = .simpleLock) : P.ShowsPreimage H tx c.lock :=
  (exit_simpleLock_eq_zero_iff hlock).mp ((verifies_iff.mp h).1 c hc)

/-- A cell that is gone after a step was an input. -/
theorem mem_inputs_of_gone (h : P.applyTx H L tx = some L') (hc : c ∈ L) (hgone : c ∉ L') :
    c ∈ tx.inputs := by
  obtain ⟨-, hexchange⟩ := applyTx_eq_some_iff.mp h
  by_contra hnot
  exact hgone (mem_of_exchange hexchange hc fun hmem => hnot (Multiset.mem_coe.mp hmem))

/-- **A hash-locked cell is safe until its preimage is shown.** Whatever transactions are made, by
whomever, if the cell is gone then one of them spent it and its witness had a preimage. -/
theorem preimage_shown (P : Programs) (H : Hashing) (L L' : Sudt.Ledger) (txs : List ResolvedTx)
    (hrun : run (P.applyTx H) L txs = some L') (c : LiveCell) (hc : c ∈ L)
    (hlock : P.contract c.lock.id = .simpleLock) (hgone : c ∉ L') :
    ∃ before tx after, txs = before ++ tx :: after ∧ c ∈ tx.inputs ∧
      P.ShowsPreimage H tx c.lock := by
  obtain ⟨before, tx, after, mid, mid', rfl, -, hstep, hmid, hmid'⟩ :=
    exists_step_of_run (P := (c ∈ ·)) hrun hc hgone
  have hinput := mem_inputs_of_gone hstep hmid hmid'
  have hver := (applyTx_eq_some_iff.mp hstep).1
  exact ⟨before, tx, after, rfl, hinput, hver.showsPreimage hinput hlock⟩

/-- The hash-locked cell of the README's walk through, which waits for the preimage `hello`. -/
def sampleLockedLive : LiveCell := ⟨Spend.sampleLockedCell, Spend.sampleLockedOutPoint⟩

/-- The spend that shows the preimage, as the scripts see it. -/
def sampleReveal : ResolvedTx :=
  Spend.sampleSpendResolved 0 Spend.sampleLockedCell (encodeBytesField samplePreimage)

theorem preimage_shown_hello :
    ∃ before tx after, [sampleReveal] = before ++ tx :: after ∧ sampleLockedLive ∈ tx.inputs ∧
      (samplePrograms .simpleLock).ShowsPreimage (sampleHashing 0) tx sampleLockedLive.lock :=
  preimage_shown (samplePrograms .simpleLock) (sampleHashing 0) sampleReveal.inputs
    sampleReveal.created [sampleReveal] (by decide) sampleLockedLive (by decide) (by decide)
    (by decide)

/-- **Tokens under hash locks are as safe.** Whatever is minted, moved or spent, the cells under the
locks `S` never hold what was held under the hash locks `U`, if the preimage of none of these has
been shown. -/
theorem hashLocked_bound (P : Programs) (H : Hashing) (T : Script)
    (hT : P.contract T.id = .sudt) (L L' : Sudt.Ledger) (txs : List ResolvedTx)
    (hrun : run (P.applyTx H) L txs = some L') (S U : Set Script) (hdisj : Disjoint S U)
    (hU : ∀ s ∈ U, P.contract s.id = .simpleLock)
    (hunshown : ∀ tx ∈ txs, ∀ s ∈ U, ¬ P.ShowsPreimage H tx s) :
    Book.held S (Sudt.book T L') + Book.held U (Sudt.book T L) ≤
      Sudt.supply T L + (txs.map (Sudt.issued H T)).sum := by
  have hsudt : P.isSudt T = true := by simpa [isSudt] using hT
  refine Sudt.held_add_held_le hsudt (sudt_run hrun) hdisj fun tx htx c hc hlock => ?_
  exact hunshown tx htx c.lock hlock
    ((verifies_of_run hrun tx htx).showsPreimage hc (hU c.lock hlock))

/-- The hash lock that `hello` opens. -/
def sampleHashLock : Script := ⟨sampleCodeHash, .data1, samplePreimageHash.toList⟩

/-- Five tokens under a hash lock, beside a hundred that are split. -/
def hashLockedBefore : Sudt.Ledger :=
  ↑[(⟨Sudt.tokenCell 100, Byte32.ofNat 7, 0⟩ : LiveCell),
    ⟨⟨⟨14200000000, sampleHashLock, some Sudt.token⟩, (Sudt.tokenCell 5).data⟩, Byte32.ofNat 7, 1⟩]

/-- The five tokens are where they were, and the hundred are sixty and forty. -/
def hashLockedAfter : Sudt.Ledger :=
  ↑[(⟨⟨⟨14200000000, sampleHashLock, some Sudt.token⟩, (Sudt.tokenCell 5).data⟩,
      Byte32.ofNat 7, 1⟩ : LiveCell),
    ⟨Sudt.tokenCell 60, Byte32.ofNat 8, 0⟩, ⟨Sudt.tokenCell 40, Byte32.ofNat 8, 1⟩]

theorem hashLocked_bound_split :
    Book.held {Sudt.holderLock} (Sudt.book Sudt.token hashLockedAfter) +
        Book.held {sampleHashLock} (Sudt.book Sudt.token hashLockedBefore) ≤
      Sudt.supply Sudt.token hashLockedBefore +
        ([Sudt.splitTx].map (Sudt.issued Sudt.tokenHashing Sudt.token)).sum := by
  refine hashLocked_bound (samplePrograms .simpleLock) Sudt.tokenHashing Sudt.token (by decide)
    hashLockedBefore hashLockedAfter [Sudt.splitTx] (by decide) {Sudt.holderLock}
    {sampleHashLock} ?_ ?_ ?_
  · rw [Set.disjoint_singleton]
    decide
  · rintro s rfl
    decide
  · rintro tx htx s rfl ⟨w, hw, -⟩
    obtain rfl : tx = Sudt.splitTx := by simpa using htx
    have hnone : Vm.fromWitnessArgs ⟨Sudt.splitTx, .lock, sampleHashLock⟩
        (samplePrograms .simpleLock).decodeSimpleLock = none := by decide
    cases hnone.symm.trans hw

end Programs

/-! ### One witness for many cells -/

/-- Spend some cells, with the same bytes in the lock field of every witness. -/
def sweepTx (hash : Byte32) (cells : List LiveCell) (outputs : List Cell) (headers : List Header)
    (b : Bytes) : ResolvedTx where
  hash := hash
  inputs := cells
  outputs := outputs
  headerDeps := headers
  witnesses := cells.map fun _ => .args (.ofLock b)

section sweep

variable {P : Programs} {H : Hashing} {L : Sudt.Ledger} {hash : Byte32} {cells : List LiveCell}
  {outputs : List Cell} {headers : List Header} {b : Bytes}

/-- Whichever input a group starts at, those are the bytes its lock loads. -/
theorem fromWitnessArgs_sweepTx {α : Type} {decode : Bytes → Option α} {c : LiveCell}
    (hc : c ∈ cells) :
    Vm.fromWitnessArgs ⟨sweepTx hash cells outputs headers b, .lock, c.lock⟩ decode = decode b := by
  rcases hfirst : cells.findIdx? fun d => decide (d.lock = c.lock) with _ | i
  · have hnone := List.findIdx?_eq_none_iff.mp hfirst c hc
    simp at hnone
  · obtain ⟨hi, -⟩ := List.findIdx?_eq_some_iff_findIdx_eq.mp hfirst
    have hload : Vm.loadWitnessArgs ⟨sweepTx hash cells outputs headers b, .lock, c.lock⟩ =
        .ok (.ofLock b) := by
      simp [Vm.loadWitnessArgs, Vm.inGroup, sweepTx, hfirst, hi]
    rw [Vm.fromWitnessArgs, hload]
    rfl

/-- Cells without type scripts are swept if their locks accept the bytes. -/
theorem exists_applyTx_sweepTx (hlive : (cells : Multiset LiveCell) ≤ L)
    (htypes : ∀ c ∈ cells, c.type_ = none) (houtputs : ∀ o ∈ outputs, o.type_ = none)
    (hlocks : ∀ c ∈ cells, P.exit H ⟨sweepTx hash cells outputs headers b, .lock, c.lock⟩ = 0) :
    ∃ L', P.applyTx H L (sweepTx hash cells outputs headers b) = some L' := by
  have hnone : Sudt.typeScripts (sweepTx hash cells outputs headers b) = [] :=
    Programs.typeScripts_eq_nil htypes houtputs
  refine ⟨_, Programs.applyTx_eq_some_iff.mpr ⟨Programs.verifies_iff.mpr ⟨hlocks, ?_⟩,
    exchange_eq_some_iff.mpr ⟨hlive, rfl⟩⟩⟩
  simp [hnone]

end sweep

/-! ### The hash lock, after a preimage was shown -/

namespace Programs

/-- **A preimage that was shown opens every cell with its hash.** The bytes can be read off the
witnesses of the transaction that showed it. With them the lock lets all the other cells under it be
spent, whatever the outputs are: it does not look at them, so where the capacity goes, within the
chain's own rule on how much of it there is, is up to whoever spends. -/
theorem preimage_replays (P : Programs) (H : Hashing) (tx : ResolvedTx) (hver : P.Verifies H tx)
    (c : LiveCell) (hc : c ∈ tx.inputs) (hlock : P.contract c.lock.id = .simpleLock) :
    ∃ b, (∃ w, Witness.args w ∈ tx.witnesses ∧ w.lock = some b) ∧
      ∀ (L : Sudt.Ledger) (hash : Byte32) (cells : List LiveCell) (outputs : List Cell)
        (headers : List Header), (cells : Multiset LiveCell) ≤ L →
        (∀ d ∈ cells, d.lock = c.lock ∧ d.type_ = none) → (∀ o ∈ outputs, o.type_ = none) →
        ∃ L', P.applyTx H L (sweepTx hash cells outputs headers b) = some L' := by
  obtain ⟨w, hw, hargs⟩ := hver.showsPreimage hc hlock
  obtain ⟨wa, b, hmem, hb, hdecode⟩ := Vm.exists_witness_of_fromWitnessArgs hw
  refine ⟨b, ⟨wa, hmem, hb⟩, fun L hash cells outputs headers hlive hcells houtputs => ?_⟩
  refine exists_applyTx_sweepTx hlive (fun d hd => (hcells d hd).2) houtputs fun d hd => ?_
  have hsame := (hcells d hd).1
  refine (exit_simpleLock_eq_zero_iff (by rw [hsame]; exact hlock)).mpr ⟨w, ?_, ?_⟩
  · rw [fromWitnessArgs_sweepTx hd, hdecode]
  · rw [hargs, hsame]

theorem preimage_replays_hello :
    ∃ b, (∃ w, Witness.args w ∈ sampleReveal.witnesses ∧ w.lock = some b) ∧
      ∀ (L : Sudt.Ledger) (hash : Byte32) (cells : List LiveCell) (outputs : List Cell)
        (headers : List Header), (cells : Multiset LiveCell) ≤ L →
        (∀ d ∈ cells, d.lock = sampleLockedLive.lock ∧ d.type_ = none) →
        (∀ o ∈ outputs, o.type_ = none) →
        ∃ L', (samplePrograms .simpleLock).applyTx (sampleHashing 0) L
          (sweepTx hash cells outputs headers b) = some L' :=
  preimage_replays (samplePrograms .simpleLock) (sampleHashing 0) sampleReveal (by decide)
    sampleLockedLive (by decide) (by decide)

/-! ### The time lock -/

/-- A witness that needs no key and no patience: a signature of ones, no waiting, no payload. -/
def anyoneWitness : TimelockWitness := ⟨.replicate 65 1, 0, []⟩

/-- The bytes that decode to it, which open every timelock cell. -/
def anyoneWire : Bytes :=
  encodeTimelockWitness anyoneWitness.signature anyoneWitness.unlockAfterMs anyoneWitness.extra

/-- The witness passes for args of any key and any commitment, at any time. -/
theorem acceptsAt_anyoneWitness {H : Hashing} {args : Bytes} (hlen : 33 ≤ args.length) (t : U64) :
    Timelock.AcceptsAt H args anyoneWitness t := by
  have hspend : Timelock.Spendable H args anyoneWitness :=
    ⟨hlen, by decide, fun _ hextra => absurd rfl hextra⟩
  exact (Timelock.checkTimelock_eq_ok_iff H args anyoneWitness t).mpr
    ⟨hspend, by simp [anyoneWitness, BitVec.le_def]⟩

/-- **Whoever can spend timelock cells, everybody can.** If there is any way at all to spend some
of them, then the same fixed bytes as witness do, for all of them at once, with any block as the
clock and with outputs of any kind: without the keys, before the time, and against the
commitments. The lock does not look at the outputs, and the chain's rule on their capacity is the
same for the owner as for everybody. -/
theorem timelock_spendable_iff (P : Programs) (H : Hashing)
    (hdecode : Reads P.decodeTimelock decodeTimelockWitness) (L : Sudt.Ledger)
    (cells : List LiveCell) (hlive : (cells : Multiset LiveCell) ≤ L)
    (hlocks : ∀ c ∈ cells, P.contract c.lock.id = .timelockLock)
    (htypes : ∀ c ∈ cells, c.type_ = none) :
    (∃ tx L', (∀ c ∈ cells, c ∈ tx.inputs) ∧ P.applyTx H L tx = some L') ↔
      ∀ (hash : Byte32) (outputs : List Cell) (header : Header), (∀ o ∈ outputs, o.type_ = none) →
        ∃ L', P.applyTx H L (sweepTx hash cells outputs [header] anyoneWire) = some L' := by
  constructor
  · rintro ⟨tx, L', hinputs, happly⟩ hash outputs header houtputs
    refine exists_applyTx_sweepTx hlive htypes houtputs fun c hc => ?_
    -- that the cell can be spent at all says that its args are long enough to hold a key
    obtain ⟨w, header', -, -, hacc⟩ := (exit_timelockLock_eq_zero_iff (hlocks c hc)).mp
      ((verifies_iff.mp (applyTx_eq_some_iff.mp happly).1).1 c (hinputs c hc))
    have hlen := ((Timelock.checkTimelock_eq_ok_iff _ _ _ _).mp hacc).1.args_length
    refine (exit_timelockLock_eq_zero_iff (hlocks c hc)).mpr
      ⟨anyoneWitness, header, ?_, rfl, acceptsAt_anyoneWitness hlen _⟩
    rw [fromWitnessArgs_sweepTx hc]
    exact hdecode (inverts_decodeTimelockWitness.decode_exact (a := anyoneWitness) (by decide))
  · intro h
    obtain ⟨L', happly⟩ := h (zeros 32) [] ⟨0⟩ (by simp)
    exact ⟨_, L', fun c hc => hc, happly⟩

/-- The timelock cell of the sample key, where the README's commands would put it. -/
def sampleTimelockLive : LiveCell := ⟨Spend.sampleTimelockCell, Spend.sampleLockedOutPoint⟩

theorem timelock_spendable_iff_sample :
    ∃ L', (samplePrograms .timelockLock).applyTx (sampleHashing 0) [sampleTimelockLive]
      (sweepTx (zeros 32) [sampleTimelockLive] [Spend.sampleLockedCell] [⟨0⟩] anyoneWire) =
        some L' :=
  (timelock_spendable_iff (samplePrograms .timelockLock) (sampleHashing 0)
    (Spend.reads_decodeAll _) [sampleTimelockLive] [sampleTimelockLive] le_rfl (by decide)
    (by decide)).mp
      -- the owner, with a real signature and after the time
      ⟨sweepTx (zeros 32) [sampleTimelockLive] [] [⟨2000000⟩] Spend.sampleTimelockWire,
        (sweepTx (zeros 32) [sampleTimelockLive] [] [⟨2000000⟩] Spend.sampleTimelockWire).created,
        by decide, by decide⟩
      (zeros 32) [Spend.sampleLockedCell] ⟨0⟩ (by decide)

end Programs

end CkbScripts
