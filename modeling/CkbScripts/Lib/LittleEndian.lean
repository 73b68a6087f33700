import Mathlib.Data.Nat.Digits.Defs

/-!
# Fixed-width little-endian numerals

A natural number as exactly `n` bytes, least significant byte first, and a byte string as the
natural number it spells. Reading is Mathlib's `Nat.ofDigits` at base `256`; writing pads or
truncates to the width, so both directions are total and the width is the only side condition.

Reversing the bytes gives the big-endian numeral. `toNat_reverse_ofNat_eq_iff` says exactly when
the byte order does not matter: the numeral has to be a palindrome.

## Main definitions

* `LittleEndian.toNat`, `LittleEndian.ofNat`: reading and writing
* `LittleEndian.Palindrome`: byte `i` from the bottom equals byte `i` from the top

## Main results

* `LittleEndian.toNat_ofNat`, `ofNat_toNat`: the inverse pair
* `LittleEndian.toNat_reverse_ofNat_eq_iff`: writing in one order and reading in the other
-/

namespace LittleEndian

/-- The natural number spelled by `bs`, least significant byte first. -/
def toNat (bs : List UInt8) : ℕ := Nat.ofDigits 256 (bs.map UInt8.toNat)

/-- The `n` low bytes of `x`, least significant first. -/
def ofNat : ℕ → ℕ → List UInt8
  | 0, _ => []
  | n + 1, x => UInt8.ofNat x :: ofNat n (x / 256)

@[simp] theorem toNat_nil : toNat [] = 0 := rfl

@[simp] theorem toNat_cons (b : UInt8) (bs : List UInt8) :
    toNat (b :: bs) = b.toNat + 256 * toNat bs := rfl

@[simp] theorem ofNat_zero (x : ℕ) : ofNat 0 x = [] := rfl

@[simp] theorem ofNat_succ (n x : ℕ) : ofNat (n + 1) x = UInt8.ofNat x :: ofNat n (x / 256) := rfl

@[simp] theorem length_ofNat (n x : ℕ) : (ofNat n x).length = n := by
  induction n generalizing x with
  | zero => rfl
  | succ n ih => rw [ofNat_succ, List.length_cons, ih]

/-! ### The inverse pair -/

theorem toNat_lt (bs : List UInt8) : toNat bs < 256 ^ bs.length := by
  have hdigits : ∀ d ∈ bs.map UInt8.toNat, d < 256 := by
    intro d hd
    obtain ⟨b, -, rfl⟩ := List.mem_map.mp hd
    exact b.toNat_lt
  simpa [toNat] using Nat.ofDigits_lt_base_pow_length (by omega) hdigits

theorem toNat_ofNat (n x : ℕ) : toNat (ofNat n x) = x % 256 ^ n := by
  induction n generalizing x with
  | zero => rw [ofNat_zero, toNat_nil, pow_zero, Nat.mod_one]
  | succ n ih =>
    have hbyte : (UInt8.ofNat x).toNat = x % 256 := UInt8.toNat_ofNat'
    rw [ofNat_succ, toNat_cons, ih, hbyte, pow_succ' 256, Nat.mod_mul]

theorem toNat_ofNat_of_lt {n x : ℕ} (h : x < 256 ^ n) : toNat (ofNat n x) = x := by
  rw [toNat_ofNat, Nat.mod_eq_of_lt h]

theorem ofNat_toNat (bs : List UInt8) : ofNat bs.length (toNat bs) = bs := by
  induction bs with
  | nil => rfl
  | cons b bs ih =>
    have hb : b.toNat < 256 := b.toNat_lt
    have hdiv : (b.toNat + 256 * toNat bs) / 256 = toNat bs := by omega
    have hmod : UInt8.ofNat (b.toNat + 256 * toNat bs) = b := by
      rw [← UInt8.toNat_inj, UInt8.toNat_ofNat']
      omega
    rw [List.length_cons, toNat_cons, ofNat_succ, hdiv, hmod, ih]

/-- Byte strings of one length are numerals of one width: equal values, equal bytes. -/
theorem toNat_injective_of_length {as bs : List UInt8} (hlen : as.length = bs.length)
    (h : toNat as = toNat bs) : as = bs := by
  rw [← ofNat_toNat as, ← ofNat_toNat bs, hlen, h]

theorem toNat_eq_zero_iff {bs : List UInt8} : toNat bs = 0 ↔ ∀ b ∈ bs, b = 0 := by
  induction bs with
  | nil => simp
  | cons b bs ih =>
    rw [toNat_cons, List.forall_mem_cons, ← ih, ← UInt8.toNat_inj, UInt8.toNat_zero]
    omega

/-! ### Byte order -/

theorem getElem_ofNat {n x i : ℕ} (h : i < (ofNat n x).length) :
    (ofNat n x)[i] = UInt8.ofNat (x / 256 ^ i) := by
  induction n generalizing x i with
  | zero => simp at h
  | succ n ih =>
    cases i with
    | zero => simp
    | succ i =>
      simp only [ofNat_succ, List.getElem_cons_succ]
      rw [ih (by simpa using h), Nat.div_div_eq_div_mul, pow_succ']

/-- The `n`-byte numeral of `x` reads the same in both byte orders. -/
def Palindrome (n x : ℕ) : Prop := ∀ i < n, x / 256 ^ i % 256 = x / 256 ^ (n - 1 - i) % 256

instance (n x : ℕ) : Decidable (Palindrome n x) :=
  inferInstanceAs (Decidable (∀ i < n, x / 256 ^ i % 256 = x / 256 ^ (n - 1 - i) % 256))

theorem reverse_ofNat_eq_iff (n x : ℕ) : (ofNat n x).reverse = ofNat n x ↔ Palindrome n x := by
  have hbyte : ∀ i < n, (ofNat n x).reverse[i]? = (ofNat n x)[i]? ↔
      x / 256 ^ i % 256 = x / 256 ^ (n - 1 - i) % 256 := by
    intro i hi
    rw [List.getElem?_reverse (by simpa using hi), length_ofNat,
      List.getElem?_eq_getElem (by simp; omega), List.getElem?_eq_getElem (by simpa using hi),
      getElem_ofNat, getElem_ofNat, Option.some_inj, ← UInt8.toNat_inj, UInt8.toNat_ofNat',
      UInt8.toNat_ofNat']
    exact eq_comm
  constructor
  · intro h i hi
    exact (hbyte i hi).mp (by rw [h])
  · intro h
    refine List.ext_getElem? fun i => ?_
    by_cases hi : i < n
    · exact (hbyte i hi).mpr (h i hi)
    · rw [List.getElem?_eq_none (by simp; omega), List.getElem?_eq_none (by simp; omega)]

/-- **Writing most significant first and reading least significant first** gives the number back
exactly on palindromes. -/
theorem toNat_reverse_ofNat_eq_iff {n x : ℕ} (h : x < 256 ^ n) :
    toNat (ofNat n x).reverse = x ↔ Palindrome n x := by
  rw [← reverse_ofNat_eq_iff]
  constructor
  · intro hx
    refine toNat_injective_of_length (by simp) ?_
    rw [hx, toNat_ofNat_of_lt h]
  · intro hx
    rw [hx, toNat_ofNat_of_lt h]

/-- Zero is zero in either byte order. -/
theorem toNat_reverse_eq_zero_iff {bs : List UInt8} : toNat bs.reverse = 0 ↔ toNat bs = 0 := by
  simp [toNat_eq_zero_iff]

end LittleEndian
