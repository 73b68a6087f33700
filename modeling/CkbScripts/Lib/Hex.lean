import Mathlib.Algebra.Group.Nat.Even

/-!
# Hexadecimal

Bytes as text, two digits to a byte. Both cases are read and lower case is written, so reading
after writing gives the bytes back and not the other way round. Nothing that is not a digit is
skipped: what can be read is an even number of digits and nothing else, so a prefix in front of
them makes the text unreadable.
-/

namespace Hex

/-- The digit with a value below sixteen. -/
def digit (n : ℕ) : Char := if n < 10 then Char.ofNat (48 + n) else Char.ofNat (87 + n)

/-- The value of a digit. -/
def value (c : Char) : Option ℕ :=
  let n := c.toNat
  if 48 ≤ n ∧ n ≤ 57 then some (n - 48)
  else if 97 ≤ n ∧ n ≤ 102 then some (n - 87)
  else if 65 ≤ n ∧ n ≤ 70 then some (n - 55)
  else none

/-- Two digits for each byte, the high one first. -/
def encode : List UInt8 → List Char
  | [] => []
  | b :: bs => digit (b.toNat / 16) :: digit (b.toNat % 16) :: encode bs

/-- The bytes; `none` for an odd digit out or anything that is not a digit. -/
def decode : List Char → Option (List UInt8)
  | [] => some []
  | [_] => none
  | hi :: lo :: rest => do
    let h ← value hi
    let l ← value lo
    let bytes ← decode rest
    return UInt8.ofNat (16 * h + l) :: bytes

variable {cs : List Char} {bs : List UInt8}

theorem value_digit {n : ℕ} (h : n < 16) : value (digit n) = some n := by
  revert n
  decide

/-- **The round trip.** -/
@[simp] theorem decode_encode (bs : List UInt8) : decode (encode bs) = some bs := by
  induction bs with
  | nil => rfl
  | cons b bs ih =>
    have hb := b.toNat_lt
    have hhigh : value (digit (b.toNat / 16)) = some (b.toNat / 16) := value_digit (by omega)
    have hlow : value (digit (b.toNat % 16)) = some (b.toNat % 16) := value_digit (by omega)
    have hbyte : UInt8.ofNat (16 * (b.toNat / 16) + b.toNat % 16) = b := by
      rw [Nat.div_add_mod, UInt8.ofNat_toNat]
    simp only [encode, decode, hhigh, hlow, ih, hbyte, Option.bind_eq_bind, Option.bind_some,
      Option.pure_def]

/-- Two digits were read for each byte. -/
theorem length_of_decode (h : decode cs = some bs) : cs.length = 2 * bs.length := by
  induction cs using decode.induct generalizing bs with
  | case1 =>
    obtain rfl : [] = bs := Option.some.inj h
    rfl
  | case2 c => simp [decode] at h
  | case3 hi lo rest ih =>
    simp only [decode, Option.bind_eq_bind, Option.bind_eq_some_iff, Option.pure_def,
      Option.some.injEq] at h
    obtain ⟨x, -, y, -, bytes, hrest, rfl⟩ := h
    simp only [List.length_cons, ih hrest]
    omega

/-- **What can be read**: digits, in pairs. -/
theorem isSome_decode_iff :
    (decode cs).isSome ↔ Even cs.length ∧ ∀ c ∈ cs, (value c).isSome := by
  induction cs using decode.induct with
  | case1 => simp [decode]
  | case2 c => simp [decode]
  | case3 hi lo rest ih =>
    have heven : Even (hi :: lo :: rest).length ↔ Even rest.length := by
      simp [Nat.even_add_one]
    have hstep : (decode (hi :: lo :: rest)).isSome ↔
        (value hi).isSome ∧ (value lo).isSome ∧ (decode rest).isSome := by
      rcases hhi : value hi with _ | x
      · simp [decode, hhi]
      · rcases hlo : value lo with _ | y
        · simp [decode, hhi, hlo]
        · rcases hrest : decode rest with _ | bytes <;> simp [decode, hhi, hlo, hrest]
    rw [hstep, ih, heven, List.forall_mem_cons, List.forall_mem_cons]
    exact ⟨fun ⟨hhi, hlo, he, hrest⟩ => ⟨he, hhi, hlo, hrest⟩,
      fun ⟨he, hhi, hlo, hrest⟩ => ⟨hhi, hlo, he, hrest⟩⟩

theorem isSome_value_of_mem_encode {c : Char} (h : c ∈ encode bs) : (value c).isSome :=
  (isSome_decode_iff.mp (by rw [decode_encode]; rfl)).2 c h

end Hex
