import CkbScripts.Lib.Outcome
import Mathlib.Order.Defs.Unbundled

/-!
# Programs with effects that may stop early

A program of `EStateM ε σ` changes a state and may fail, and what it has changed by then stays
changed. A run is two things, how it ends and the state it leaves, and both are functions of the
state it starts in. The lemmas of the first part compute the two for a block from those of its
steps.

`Goes R x` is for statements about every run of `x`, also one that fails: whatever `x` does to the
state, it does along the preorder `R`. A frame condition, a log that only grows, and an invariant
are all of this form, and the rules follow the block. `Fails R x` says in addition that no run of
`x` gets to its end.
-/

namespace Effects

open Outcome

universe u

variable {ε σ α β : Type u}

/-- A computation without effects, in a block with effects. -/
instance monadLiftExcept : MonadLift (Except ε) (EStateM ε σ) where
  monadLift x s := match x with
    | .ok a => .ok a s
    | .error e => .error e s

/-- How a run ends. -/
def outcome (x : EStateM ε σ α) (s : σ) : Except ε α :=
  match x s with
  | .ok a _ => .ok a
  | .error e _ => .error e

/-- The state a run leaves. -/
def after (x : EStateM ε σ α) (s : σ) : σ :=
  match x s with
  | .ok _ t => t
  | .error _ t => t

variable {x : EStateM ε σ α} {f : α → EStateM ε σ β} {s : σ}

/-! ### One step -/

@[simp] theorem outcome_pure (a : α) (s : σ) : outcome (pure a : EStateM ε σ α) s = .ok a := rfl

@[simp] theorem after_pure (a : α) (s : σ) : after (pure a : EStateM ε σ α) s = s := rfl

@[simp] theorem outcome_lift (r : Except ε α) (s : σ) :
    outcome (liftM r : EStateM ε σ α) s = r := by
  cases r <;> rfl

@[simp] theorem after_lift (r : Except ε α) (s : σ) : after (liftM r : EStateM ε σ α) s = s := by
  cases r <;> rfl

@[simp] theorem outcome_modify (g : σ → σ) (s : σ) :
    outcome (modify g : EStateM ε σ PUnit) s = .ok ⟨⟩ := rfl

@[simp] theorem after_modify (g : σ → σ) (s : σ) :
    after (modify g : EStateM ε σ PUnit) s = g s := rfl

/-! ### One step after the other -/

theorem outcome_bind :
    outcome (x >>= f) s = outcome x s >>= fun a => outcome (f a) (after x s) := by
  change outcome (EStateM.bind x f) s = _
  rcases hx : x s with ⟨a, t⟩ | ⟨e, t⟩ <;> simp [outcome, after, EStateM.bind, hx]

/-- **A block that returned a value** got one from its first step and returned from the rest. -/
theorem outcome_bind_eq_ok_iff {b : β} : outcome (x >>= f) s = .ok b ↔
    ∃ a, outcome x s = .ok a ∧ outcome (f a) (after x s) = .ok b := by
  rw [outcome_bind, bind_eq_ok_iff]

theorem after_bind_of_ok {a : α} (h : outcome x s = .ok a) :
    after (x >>= f) s = after (f a) (after x s) := by
  change after (EStateM.bind x f) s = _
  rcases hx : x s with ⟨a', t⟩ | ⟨e, t⟩
  · obtain rfl : a' = a := by simpa [outcome, hx] using h
    simp [after, EStateM.bind, hx]
  · simp [outcome, hx] at h

/-- The first failure is the end. -/
theorem after_bind_of_error {e : ε} (h : outcome x s = .error e) :
    after (x >>= f) s = after x s := by
  change after (EStateM.bind x f) s = _
  rcases hx : x s with ⟨a', t⟩ | ⟨e', t⟩
  · simp [outcome, hx] at h
  · simp [after, EStateM.bind, hx]

/-! ### Every run -/

/-- However a run of `x` ends, it has led along `R`. -/
def Goes (R : σ → σ → Prop) (x : EStateM ε σ α) : Prop := ∀ s, R s (after x s)

variable {R R' : σ → σ → Prop}

theorem Goes.mono (h : Goes R x) (hR : ∀ s t, R s t → R' s t) : Goes R' x := fun s => hR _ _ (h s)

theorem goes_pure [Std.Refl R] (a : α) : Goes R (pure a : EStateM ε σ α) := refl

theorem goes_throw [Std.Refl R] (e : ε) : Goes R (throw e : EStateM ε σ α) := refl

theorem goes_lift [Std.Refl R] (r : Except ε α) : Goes R (liftM r : EStateM ε σ α) := by
  intro s
  rw [after_lift]
  exact refl s

/-- The rule for blocks. -/
theorem Goes.bind [IsTrans σ R] (hx : Goes R x)
    (hf : ∀ s a, outcome x s = .ok a → R (after x s) (after (f a) (after x s))) :
    Goes R (x >>= f) := by
  intro s
  rcases hout : outcome x s with e | a
  · rw [after_bind_of_error hout]
    exact hx s
  · rw [after_bind_of_ok hout]
    exact trans_of R (hx s) (hf s a hout)

theorem Goes.andThen [IsTrans σ R] (hx : Goes R x) (hf : ∀ a, Goes R (f a)) : Goes R (x >>= f) :=
  hx.bind fun _ a _ => hf a _

/-- The rule for a first step without effects: the rest may use what it returned. -/
theorem goes_lift_bind [IsPreorder σ R] {r : Except ε α} (hf : ∀ a, r = .ok a → Goes R (f a)) :
    Goes R (liftM r >>= f) :=
  (goes_lift r).bind fun s a ha => hf a (by rwa [outcome_lift] at ha) _

/-! ### Runs that fail -/

/-- No run gets to its end, and what it has done by then it has done along `R`. -/
def Fails (R : σ → σ → Prop) (x : EStateM ε σ α) : Prop :=
  ∀ s, (∃ e, outcome x s = .error e) ∧ R s (after x s)

/-- A first step without effects fails, or the rest does. -/
theorem fails_lift_bind [Std.Refl R] {r : Except ε α} (hf : ∀ a, r = .ok a → Fails R (f a)) :
    Fails R (liftM r >>= f) := by
  intro s
  cases r with
  | error e => exact ⟨⟨e, rfl⟩, refl s⟩
  | ok a => exact hf a rfl s

/-- Whatever the first step returned, the second fails: nothing has been done but by the first. -/
theorem Goes.fails_bind_lift (hx : Goes R x) {r : α → Except ε β}
    (hr : ∀ s a, outcome x s = .ok a → ∃ e, r a = .error e) {γ : Type u}
    (g : β → EStateM ε σ γ) : Fails R (x >>= fun a => liftM (r a) >>= g) := by
  intro s
  rcases hout : outcome x s with e | a
  · rw [outcome_bind, hout, after_bind_of_error hout]
    exact ⟨⟨e, rfl⟩, hx s⟩
  · obtain ⟨e, he⟩ := hr s a hout
    have hfail : outcome (liftM (r a) : EStateM ε σ β) (after x s) = .error e := by
      rw [outcome_lift, he]
    rw [outcome_bind, hout, ok_bind, outcome_bind, hfail, after_bind_of_ok hout,
      after_bind_of_error hfail, after_lift]
    exact ⟨⟨e, rfl⟩, hx s⟩

/-- Every run fails, and has done nothing. -/
def Refuses (x : EStateM ε σ α) : Prop := Fails (fun s t => t = s) x

theorem refuses_lift_bind {r : Except ε α} (hf : ∀ a, r = .ok a → Refuses (f a)) :
    Refuses (liftM r >>= f) :=
  have : Std.Refl fun s t : σ => t = s := ⟨fun _ => rfl⟩
  fails_lift_bind hf

end Effects
