import CkbScripts.LockLedger

/-!
# Who can issue a token

The args of a token are the hash of its owner's lock, and what puts a transaction into owner mode
is an input with that script in *type* position. So the question who can issue a token is the
question whose cells carry the script as a type, and that is decided when the first such cell is
made: the script then runs over a group that has no input.

A script that reads a witness has none to read there. Both locks of the repository are such
scripts, and a token that is named by one of them is never issued, by its owner as little as by
anybody else. A token that is named by a token is issued by everybody, since a cell with the amount
zero can be made out of nothing.

## Main definitions

* `Programs.RefusesEntry`, `Programs.AcceptsData`: what a script does in type position
* `Programs.IsOwner`: the scripts a token is named by

## Main results

* `Programs.lock_named_never_issued`: over whole runs
* `Programs.token_named_issued_by_anyone`
-/

namespace CkbScripts

open Exchange Outcome

namespace Programs

variable (P : Programs) (H : Hashing)

/-- As the type script of a group without inputs, the script fails. -/
def RefusesEntry (s : Script) : Prop :=
  ∀ tx : ResolvedTx, (∀ c ∈ tx.inputs, c.type_ ≠ some s) → P.exit H ⟨tx, .type, s⟩ ≠ 0

/-- As a type script, the script does not object to cells with these data, be they made or spent. -/
def AcceptsData (s : Script) (data : Bytes) : Prop :=
  ∀ tx : ResolvedTx, (∀ c ∈ tx.inputs, c.type_ = some s → c.data = data) →
    (∀ o ∈ tx.outputs, o.type_ = some s → o.data = data) → P.exit H ⟨tx, .type, s⟩ = 0

/-- The token is named by the script. -/
def IsOwner (T s : Script) : Prop := (H.scriptHash s).toList = T.args

variable {P H} {T owner s : Script} {tx : ResolvedTx} {L L' : Sudt.Ledger}

/-! ### Locks in type position -/

/-- Without an input in its group a script has no witness. -/
theorem fromWitnessArgs_of_no_inputs {α : Type} {decode : Bytes → Option α}
    (hinputs : ∀ c ∈ tx.inputs, c.type_ ≠ some s) :
    Vm.fromWitnessArgs ⟨tx, .type, s⟩ decode = none := by
  have hnone : tx.inputs.findIdx? (fun c => Vm.inGroup ⟨tx, .type, s⟩ c.toCell) = none := by
    refine List.findIdx?_eq_none_iff.mpr fun c hc => ?_
    simpa [Vm.inGroup] using hinputs c hc
  simp [Vm.fromWitnessArgs, Vm.loadWitnessArgs, hnone]

theorem refusesEntry_of_simpleLock (h : P.contract s.id = .simpleLock) : P.RefusesEntry H s := by
  intro tx hinputs hexit
  obtain ⟨w, hw, -⟩ := (exit_simpleLock_eq_zero_iff h).mp hexit
  rw [fromWitnessArgs_of_no_inputs hinputs] at hw
  cases hw

theorem refusesEntry_of_timelockLock (h : P.contract s.id = .timelockLock) :
    P.RefusesEntry H s := by
  intro tx hinputs hexit
  obtain ⟨w, _, hw, -⟩ := (exit_timelockLock_eq_zero_iff h).mp hexit
  rw [fromWitnessArgs_of_no_inputs hinputs] at hw
  cases hw

/-! ### Tokens that are named by a lock -/

/-- No live cell has an owner for its type. -/
def Ownerless (H : Hashing) (T : Script) (L : Sudt.Ledger) : Prop :=
  ∀ c ∈ L, ∀ s, c.type_ = some s → ¬ IsOwner H T s

theorem Ownerless.noOwnerInput (h : Ownerless H T L) (hle : (tx.inputs : Multiset LiveCell) ≤ L) :
    Sudt.NoOwnerInput H T tx :=
  fun c hc => h c (Multiset.mem_of_le hle (Multiset.mem_coe.mpr hc))

/-- **The step.** The first owner cell would have to be an output of its own group. -/
theorem Ownerless.applyTx (hrefuses : ∀ s, IsOwner H T s → P.RefusesEntry H s)
    (hL : Ownerless H T L) (h : P.applyTx H L tx = some L') : Ownerless H T L' := by
  obtain ⟨hver, hexchange⟩ := applyTx_eq_some_iff.mp h
  refine forall_mem_of_exchange hexchange hL fun hinputs c hc s htype howner => ?_
  refine hrefuses s howner tx (fun d hd hs => hinputs d (Multiset.mem_coe.mpr hd) s hs howner) ?_
  refine (verifies_iff.mp hver).2 s (List.mem_filterMap.mpr ⟨c.toCell, ?_, htype⟩)
  rw [← tx.created_map_toCell]
  exact List.mem_append_right _ (List.mem_map_of_mem (Multiset.mem_coe.mp hc))

/-- **A token that is named by a lock is never issued.** As long as there is no cell with an owner
for its type, no run of transactions makes one, whoever signs what; and so the supply does not
grow. -/
theorem lock_named_never_issued (P : Programs) (H : Hashing) (T : Script)
    (hT : P.contract T.id = .sudt)
    (howner : ∀ s, IsOwner H T s → P.contract s.id = .simpleLock ∨
      P.contract s.id = .timelockLock ∨ P.RefusesEntry H s)
    (L L' : Sudt.Ledger) (txs : List ResolvedTx) (hrun : run (P.applyTx H) L txs = some L')
    (hL : Ownerless H T L) : Ownerless H T L' ∧ Sudt.supply T L' ≤ Sudt.supply T L := by
  have hrefuses : ∀ s, IsOwner H T s → P.RefusesEntry H s := by
    intro s hs
    rcases howner s hs with hsimple | htimelock | hrefuses
    · exact refusesEntry_of_simpleLock hsimple
    · exact refusesEntry_of_timelockLock htimelock
    · exact hrefuses
  refine run_induction (P := fun _ => True)
    (R := fun L L' => Ownerless H T L →
      Ownerless H T L' ∧ Sudt.supply T L' ≤ Sudt.supply T L)
    (fun L hL => ⟨hL, Nat.le_refl _⟩) (fun hab hbc ha => ?_) (fun {L tx L'} _ hstep hL => ?_)
    (fun _ _ => trivial) hrun hL
  · obtain ⟨hb, hle⟩ := hab ha
    obtain ⟨hc, hle'⟩ := hbc hb
    exact ⟨hc, hle'.trans hle⟩
  · refine ⟨hL.applyTx hrefuses hstep, ?_⟩
    have hsub := (exchange_eq_some_iff.mp (applyTx_eq_some_iff.mp hstep).2).1
    exact Sudt.supply_step (by simpa [isSudt] using hT) (hL.noOwnerInput hsub)
      (sudt_applyTx hstep)

/-- The bytes of a script are those of no other. -/
theorem eq_of_molecule_eq {s s' : Script} (h : s.molecule = s'.molecule) : s = s' := by
  obtain ⟨codeHash, hashType, args⟩ := s
  obtain ⟨codeHash', hashType', args'⟩ := s'
  simp only [Script.molecule, List.append_assoc] at h
  obtain ⟨-, h⟩ := List.append_inj h (by simp)
  obtain ⟨hcode, h⟩ := List.append_inj
    (List.append_cancel_left (List.append_cancel_left (List.append_cancel_left h))) (by simp)
  obtain ⟨htype, h⟩ := List.append_inj h (by simp)
  obtain ⟨-, hargs⟩ := List.append_inj h (by simp)
  have hbyte : hashType = hashType' := by
    cases hashType <;> cases hashType' <;> first | rfl | exact absurd htype (by decide)
  rw [ByteVec.ext hcode, hbyte, hargs]

/-- The owner of the sample token is the one script it is named by. -/
theorem eq_ownerLock_of_isOwner (h : IsOwner Sudt.tokenHashing Sudt.token s) :
    s = Sudt.ownerLock := by
  by_contra hne
  have howner : s.molecule ≠ Sudt.ownerLock.molecule := fun heq => hne (eq_of_molecule_eq heq)
  have hhash : Sudt.tokenHashing.scriptHash s = Sudt.ownerLockHash := ByteVec.ext h
  by_cases htoken : s = Sudt.token
  · subst htoken
    exact absurd hhash (by decide)
  by_cases hholder : s = Sudt.holderLock
  · subst hholder
    exact absurd hhash (by decide)
  have htoken' : s.molecule ≠ Sudt.token.molecule := fun heq => htoken (eq_of_molecule_eq heq)
  have hholder' : s.molecule ≠ Sudt.holderLock.molecule := fun heq =>
    hholder (eq_of_molecule_eq heq)
  have hzero : Sudt.tokenHashing.scriptHash s = Byte32.ofNat 0 := by
    simp [Hashing.scriptHash, Sudt.tokenHashing, Hashing.ofTable, List.lookup_cons, List.lookup_nil,
      beq_false_of_ne howner, beq_false_of_ne htoken', beq_false_of_ne hholder']
  exact absurd (hzero.symm.trans hhash) (by decide)

/-- The sample code, where the owner's lock is the hash lock. -/
def lockNamedPrograms : Programs :=
  { samplePrograms .simpleLock with
    contract := fun id => if id = Sudt.ownerLock.id then .simpleLock else
      (samplePrograms .simpleLock).contract id }

theorem lock_named_never_issued_split :
    Ownerless Sudt.tokenHashing Sudt.token Sudt.splitAfter ∧
      Sudt.supply Sudt.token Sudt.splitAfter ≤ Sudt.supply Sudt.token Sudt.splitBefore := by
  refine lock_named_never_issued lockNamedPrograms Sudt.tokenHashing Sudt.token
    (by decide) (fun s hs => Or.inl ?_) Sudt.splitBefore Sudt.splitAfter [Sudt.splitTx] (by decide)
    fun c hc s htype hs => ?_
  · rw [eq_ownerLock_of_isOwner hs]
    decide
  · rw [eq_ownerLock_of_isOwner hs] at htype
    exact absurd htype ((by decide : ∀ c ∈ Sudt.splitBefore, c.type_ ≠ some Sudt.ownerLock)
      c hc)

/-! ### Tokens that are named by a token -/

theorem acceptsData_of_sudt (h : P.contract s.id = .sudt) (hargs : s.args.length = 32) :
    P.AcceptsData H s (zeros 16).toList := by
  intro tx hinputs houtputs
  have hzero : Sudt.amountOf (zeros 16).toList = 0 := by decide
  have hin : ∀ data ∈ (Sudt.Loads.ofTx H tx s).groupInputData, data = (zeros 16).toList := by
    rw [Sudt.Loads.groupInputData_ofTx]
    intro data hdata
    obtain ⟨d, hd, rfl⟩ := List.mem_map.mp hdata
    obtain ⟨hmem, htype⟩ := List.mem_filter.mp hd
    obtain ⟨c, hc, rfl⟩ := List.mem_map.mp hmem
    exact hinputs c hc (by simpa using htype)
  have hout : ∀ data ∈ (Sudt.Loads.ofTx H tx s).groupOutputData, data = (zeros 16).toList := by
    rw [Sudt.Loads.groupOutputData_ofTx]
    intro data hdata
    obtain ⟨o, ho, rfl⟩ := List.mem_map.mp hdata
    obtain ⟨hmem, htype⟩ := List.mem_filter.mp ho
    exact houtputs o hmem (by simpa using htype)
  have hsum : ∀ {datas : List Bytes}, (∀ data ∈ datas, data = (zeros 16).toList) →
      (datas.map Sudt.amountOf).sum = 0 := by
    intro datas hall
    refine List.sum_eq_zero fun n hn => ?_
    obtain ⟨data, hdata, rfl⟩ := List.mem_map.mp hn
    rw [hall data hdata, hzero]
  refine (exit_sudt_eq_zero_iff h).mpr ((Sudt.sudtMain_eq_ok_iff _).mpr ⟨hargs, Or.inr ?_⟩)
  exact ⟨fun data hdata => by rw [hin data hdata]; simp,
    fun data hdata => by rw [hout data hdata]; simp, by rw [hsum hin]; decide,
    by rw [hsum hout]; exact Nat.zero_le _⟩

/-- A plain cell, with a type and data. -/
def typed (hash : Byte32) (c : LiveCell) (s : Script) (data : Bytes) : LiveCell :=
  ⟨⟨⟨c.output.capacity, c.lock, some s⟩, data⟩, hash, 0⟩

/-- The transaction that makes it. -/
def enterTx (hash : Byte32) (c : LiveCell) (s : Script) (data : Bytes) : ResolvedTx where
  hash := hash
  inputs := [c]
  outputs := [(typed hash c s data).toCell]
  headerDeps := []
  witnesses := []

/-- A cell of a token. -/
def issuedCell (hash : Byte32) (c : LiveCell) (T recipient : Script) (amount : U128) : LiveCell :=
  ⟨⟨⟨c.output.capacity, recipient, some T⟩, (toLeBytes (n := 16) amount).toList⟩, hash, 0⟩

theorem tokenWeight_issuedCell (hash : Byte32) (c : LiveCell) (T recipient : Script)
    (amount : U128) : Sudt.tokenWeight T (issuedCell hash c T recipient amount).toCell =
      amount.toNat := by
  have hdecode : Sudt.decodeAmount (toLeBytes (n := 16) amount).toList = some amount := by
    rw [Sudt.decodeAmount_toList]
    exact congrArg some (fromLeBytes_toLeBytes (n := 16) amount)
  have htype : (issuedCell hash c T recipient amount).type_ = some T := rfl
  rw [Sudt.tokenWeight, if_pos htype, Sudt.amountOf, issuedCell, hdecode, Option.elim_some]

/-- The transaction that makes it out of an owner cell. -/
def issueTx (hash : Byte32) (c : LiveCell) (T recipient : Script) (amount : U128) : ResolvedTx where
  hash := hash
  inputs := [c]
  outputs := [(issuedCell hash c T recipient amount).toCell]
  headerDeps := []
  witnesses := []

variable {c : LiveCell} {hash : Byte32} {data : Bytes}

/-- A cell for a cell. -/
theorem supply_of_exchange {d : LiveCell}
    (h : exchange L {c} {d} = some L') : Sudt.supply T L' + Sudt.tokenWeight T c.toCell =
      Sudt.supply T L + Sudt.tokenWeight T d.toCell := by
  simpa [Sudt.supply] using total_of_exchange (Sudt.tokenWeight T ∘ LiveCell.toCell) h

/-- With one input and one output there are two types at most. -/
theorem type_of_mem_typeScripts {o : Cell} (hinputs : tx.inputs = [c]) (houtputs : tx.outputs = [o])
    (hs : s ∈ Sudt.typeScripts tx) : c.type_ = some s ∨ o.type_ = some s := by
  obtain ⟨d, hd, htype⟩ := List.mem_filterMap.mp hs
  rw [hinputs, houtputs] at hd
  rcases List.mem_pair.mp hd with rfl | rfl
  · exact Or.inl htype
  · exact Or.inr htype

theorem verifies_enterTx (hplain : c.type_ = none)
    (hlock : ∀ tx, P.exit H ⟨tx, .lock, c.lock⟩ = 0) (hs : P.AcceptsData H s data) :
    P.Verifies H (enterTx hash c s data) := by
  refine verifies_iff.mpr ⟨List.forall_mem_singleton.mpr (hlock _), fun s' hs' => ?_⟩
  obtain rfl : s = s' := by
    rcases type_of_mem_typeScripts rfl rfl hs' with htype | htype
    · cases hplain.symm.trans htype
    · exact Option.some.inj htype
  exact hs _ (by simp [enterTx, hplain]) (by simp [enterTx, typed])

theorem verifies_issueTx (hT : P.contract T.id = .sudt) (howner : IsOwner H T owner)
    (htype : c.type_ = some owner) (hlock : ∀ tx, P.exit H ⟨tx, .lock, c.lock⟩ = 0)
    (hs : P.AcceptsData H owner c.data)
    (recipient : Script) (amount : U128) :
    P.Verifies H (issueTx hash c T recipient amount) := by
  have htoken : P.exit H ⟨issueTx hash c T recipient amount, .type, T⟩ = 0 := by
    refine (exit_sudt_eq_zero_iff hT).mpr ((Sudt.sudtMain_eq_ok_iff _).mpr ⟨?_, Or.inl ?_⟩)
    · have hargs : (H.scriptHash owner).toList = T.args := howner
      change T.args.length = 32
      rw [← hargs, ByteVec.length_toList]
    · by_contra hmode
      exact Sudt.noOwnerInput_iff.mpr hmode c List.mem_cons_self owner htype howner
  refine verifies_iff.mpr ⟨List.forall_mem_singleton.mpr (hlock _), fun s' hs' => ?_⟩
  by_cases hsame : s' = T
  · rw [hsame]
    exact htoken
  · obtain rfl : owner = s' := by
      rcases type_of_mem_typeScripts rfl rfl hs' with hin | hout
      · exact Option.some.inj (htype.symm.trans hin)
      · exact absurd (Option.some.inj hout).symm hsame
    exact hs _ (by simp [issueTx])
      (by simp [issueTx, issuedCell, Cell.type_, Ne.symm hsame])

/-- **A token that is named by a token is issued by everybody.** One plain cell under a lock that
accepts is enough: a first transaction makes an owner cell out of it, and a second one any amount of
the token, for any recipient. No other lock runs. Both transactions have one input and one output,
which keeps the capacity, and the cell has to carry enough of it for the bytes it gains. -/
theorem token_named_issued_by_anyone (P : Programs) (H : Hashing) (T owner : Script)
    (hT : P.contract T.id = .sudt) (howner : IsOwner H T owner)
    (hfree : P.contract owner.id = .sudt ∧ owner.args.length = 32 ∨
      ∃ data, P.AcceptsData H owner data)
    (L : Sudt.Ledger) (c : LiveCell) (hc : c ∈ L) (hplain : c.type_ = none)
    (hlock : ∀ tx, P.exit H ⟨tx, .lock, c.lock⟩ = 0) (recipient : Script) (amount : U128)
    (h₁ h₂ : Byte32) :
    ∃ data L', run (P.applyTx H) L [enterTx h₁ c owner data,
        issueTx h₂ (typed h₁ c owner data) T recipient amount] = some L' ∧
      Sudt.supply T L' = Sudt.supply T L + amount.toNat ∧
      issuedCell h₂ (typed h₁ c owner data) T recipient amount ∈ L' := by
  obtain ⟨data, hdata⟩ : ∃ data, P.AcceptsData H owner data := by
    rcases hfree with ⟨hsudt, hargs⟩ | hfree
    · exact ⟨_, acceptsData_of_sudt hsudt hargs⟩
    · exact hfree
  obtain ⟨L₁, henter, hmem⟩ := exists_exchange_singleton (typed h₁ c owner data) hc
  obtain ⟨L₂, hissue, hissued⟩ :=
    exists_exchange_singleton (issuedCell h₂ (typed h₁ c owner data) T recipient amount) hmem
  have hfirst : P.applyTx H L (enterTx h₁ c owner data) = some L₁ :=
    applyTx_eq_some_iff.mpr ⟨verifies_enterTx hplain hlock hdata, henter⟩
  have hsecond : P.applyTx H L₁ (issueTx h₂ (typed h₁ c owner data) T recipient amount) = some L₂ :=
    applyTx_eq_some_iff.mpr ⟨verifies_issueTx (c := typed h₁ c owner data) hT howner rfl hlock hdata
      recipient amount, hissue⟩
  refine ⟨data, L₂, run_cons_eq_some_iff.mpr ⟨L₁, hfirst, run_cons_eq_some_iff.mpr
    ⟨L₂, hsecond, rfl⟩⟩, ?_, hissued⟩
  -- the owner cell counts for the same before and after
  have hweight := supply_of_exchange (T := T) henter
  have hweight' := supply_of_exchange (T := T) hissue
  have hplain' : Sudt.tokenWeight T c.toCell = 0 := if_neg (by rw [hplain]; simp)
  rw [tokenWeight_issuedCell] at hweight'
  omega

/-- A cell of the holder with nothing in it but capacity, to start an issue with. -/
def plainCell : LiveCell := ⟨⟨⟨50000000000, Sudt.holderLock, none⟩, []⟩, Byte32.ofNat 7, 0⟩

/-- A token whose owner, by its args, is the type script of the sample token. -/
def tokenNamed : Script :=
  ⟨Sudt.token.codeHash, Sudt.token.hashType, (Sudt.tokenHashing.scriptHash Sudt.token).toList⟩

/-- Its lock is code of somebody else. -/
theorem contract_plainCell :
    (samplePrograms .simpleLock).contract plainCell.lock.id = .foreign := by
  decide

theorem token_named_issued_by_anyone_million :
    ∃ data L', run ((samplePrograms .simpleLock).applyTx Sudt.tokenHashing) {plainCell}
        [enterTx (zeros 32) plainCell Sudt.token data,
          issueTx (zeros 32) (typed (zeros 32) plainCell Sudt.token data) tokenNamed Sudt.holderLock
            1000000] = some L' ∧
      Sudt.supply tokenNamed L' = Sudt.supply tokenNamed {plainCell} + 1000000 ∧
      issuedCell (zeros 32) (typed (zeros 32) plainCell Sudt.token data) tokenNamed Sudt.holderLock
        1000000 ∈ L' :=
  token_named_issued_by_anyone (samplePrograms .simpleLock) Sudt.tokenHashing tokenNamed Sudt.token
    (by decide) rfl (Or.inl ⟨by decide, by decide⟩) {plainCell} plainCell
    (Multiset.mem_singleton_self _) rfl
    (fun _ => exit_of_foreign contract_plainCell) Sudt.holderLock 1000000 (zeros 32) (zeros 32)

end Programs

end CkbScripts
