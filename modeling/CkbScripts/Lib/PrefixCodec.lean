import CkbScripts.Lib.LittleEndian
import Mathlib.Tactic.Common

/-!
# Self-delimiting encodings

A decoder reads one value off the front of a string and returns what follows it. `Inverts` pairs
it with an encoder, in both directions at once: what was encoded is read back whatever follows,
and what was read is exactly what would have been written.

The second direction is what makes an encoding self-delimiting. A truncated encoding that still
decoded would be the encoding of something shorter, and putting the missing tail back would then
decode in two ways; `Inverts.decode_truncated` is that argument, once, for every codec.

Codecs are built from few pieces, and each comes with its `Inverts` lemma: a fixed number of
symbols, one codec after another, a counted run of symbols, and fixed-width numerals to count with.

## Main definitions

* `PrefixCodec.Decoder`, `PrefixCodec.Inverts`, `PrefixCodec.RoundTrips`
* `PrefixCodec.fixed`, `seq`, `mapped`, `counted`, `word`

## Main results

* `PrefixCodec.Inverts.decode_truncated`: no proper prefix of an encoding decodes
* `PrefixCodec.inverts_fixed`, `Inverts.seq`, `Inverts.mapped`, `Inverts.counted`, `inverts_word`
-/

namespace PrefixCodec

variable {β α γ : Type*}

/-- Read a value off the front; return it with the rest. -/
abbrev Decoder (β α : Type*) := List β → Option (α × List β)

/-- `dec` reads exactly what `enc` writes, on the values `valid` admits. -/
structure Inverts (valid : α → Prop) (enc : α → List β) (dec : Decoder β α) : Prop where
  /-- What was written is read back, and the rest is left alone. -/
  decode_encode : ∀ {a}, valid a → ∀ rest, dec (enc a ++ rest) = some (a, rest)
  /-- What was read is what would have been written. -/
  encode_of_decode : ∀ {s a rest}, dec s = some (a, rest) → valid a ∧ enc a ++ rest = s

namespace Inverts

variable {valid : α → Prop} {enc : α → List β} {dec : Decoder β α}

theorem decode_exact (h : Inverts valid enc dec) {a : α} (ha : valid a) :
    dec (enc a) = some (a, []) := by
  simpa using h.decode_encode ha []

/-- **No proper prefix decodes.** -/
theorem decode_truncated (h : Inverts valid enc dec) {a : α} (ha : valid a) {p q : List β}
    (hpq : p ++ q = enc a) (hq : q ≠ []) : dec p = none := by
  cases hp : dec p with
  | none => rfl
  | some r =>
    obtain ⟨b, rest⟩ := r
    obtain ⟨hb, hbp⟩ := h.encode_of_decode hp
    -- with the tail put back, the same string decodes as `b` and as `a`
    have hlong : dec (enc a) = some (b, rest ++ q) := by
      rw [← hpq, ← hbp, List.append_assoc]
      exact h.decode_encode hb (rest ++ q)
    rw [h.decode_exact ha] at hlong
    obtain ⟨-, hrest⟩ : a = b ∧ rest = [] ∧ q = [] := by simpa using hlong
    exact absurd hrest.2 hq

end Inverts

/-- What a wire format promises its users: a value comes back from its encoding whatever follows,
no truncation of it is mistaken for a value, and a string that is all one value has no other
encoding. -/
structure RoundTrips (valid : α → Prop) (enc : α → List β) (dec : Decoder β α) : Prop where
  decode_encode : ∀ a, valid a → ∀ suffix, dec (enc a ++ suffix) = some (a, suffix)
  decode_truncated : ∀ a, valid a → ∀ p, p <+: enc a → p ≠ enc a → dec p = none
  encode_decode : ∀ s a, dec s = some (a, []) → enc a = s

theorem Inverts.roundTrips {valid : α → Prop} {enc : α → List β} {dec : Decoder β α}
    (h : Inverts valid enc dec) : RoundTrips valid enc dec where
  decode_encode _ ha := h.decode_encode ha
  decode_truncated := by
    rintro a ha p ⟨q, hpq⟩ hne
    refine h.decode_truncated ha hpq ?_
    rintro rfl
    exact hne (by simpa using hpq)
  encode_decode := by
    intro s a hs
    simpa using (h.encode_of_decode hs).2

/-! ### A fixed number of symbols -/

/-- Read exactly `n` symbols. -/
def fixed (n : ℕ) : Decoder β {l : List β // l.length = n} := fun s =>
  if h : n ≤ s.length then some (⟨s.take n, List.length_take_of_le h⟩, s.drop n) else none

theorem inverts_fixed (n : ℕ) :
    Inverts (fun _ => True) Subtype.val (fixed n : Decoder β {l : List β // l.length = n}) where
  decode_encode := by
    rintro ⟨l, rfl⟩ - rest
    simp [fixed]
  encode_of_decode := by
    intro s l rest h
    by_cases hn : n ≤ s.length
    · obtain ⟨rfl, rfl⟩ : ⟨s.take n, List.length_take_of_le hn⟩ = l ∧ s.drop n = rest := by
        simpa [fixed, hn] using h
      exact ⟨trivial, List.take_append_drop n s⟩
    · simp [fixed, hn] at h

/-! ### One value after another -/

/-- Read with `d`, then with `e`. -/
def seq (d : Decoder β α) (e : Decoder β γ) : Decoder β (α × γ) := fun s =>
  (d s).bind fun p => (e p.2).map fun q => ((p.1, q.1), q.2)

theorem Inverts.seq {valid : α → Prop} {enc : α → List β} {dec : Decoder β α}
    {valid' : γ → Prop} {enc' : γ → List β} {dec' : Decoder β γ}
    (h : Inverts valid enc dec) (h' : Inverts valid' enc' dec') :
    Inverts (fun p : α × γ => valid p.1 ∧ valid' p.2) (fun p => enc p.1 ++ enc' p.2)
      (seq dec dec') where
  decode_encode := by
    rintro ⟨a, c⟩ ⟨ha, hc⟩ rest
    simp [PrefixCodec.seq, h.decode_encode ha, h'.decode_encode hc]
  encode_of_decode := by
    rintro s ⟨a, c⟩ rest hs
    obtain ⟨⟨a', mid⟩, hmid, hrest⟩ := Option.bind_eq_some_iff.mp hs
    obtain ⟨⟨c', rest'⟩, hend, heq⟩ := Option.map_eq_some_iff.mp hrest
    obtain ⟨⟨rfl, rfl⟩, rfl⟩ : (a' = a ∧ c' = c) ∧ rest' = rest := by simpa using heq
    obtain ⟨ha, hs'⟩ := h.encode_of_decode hmid
    obtain ⟨hc, hmid'⟩ := h'.encode_of_decode hend
    refine ⟨⟨ha, hc⟩, ?_⟩
    rw [List.append_assoc, hmid', hs']

/-! ### Another representation of the same value -/

/-- Read with `d`, then convert. -/
def mapped (f : α → γ) (d : Decoder β α) : Decoder β γ := fun s =>
  (d s).map fun p => (f p.1, p.2)

theorem Inverts.mapped {valid : α → Prop} {enc : α → List β} {dec : Decoder β α}
    {valid' : γ → Prop} {f : α → γ} {g : γ → α} (h : Inverts valid enc dec)
    (hg : ∀ c, valid' c → valid (g c) ∧ f (g c) = c)
    (hf : ∀ a, valid a → valid' (f a) ∧ g (f a) = a) :
    Inverts valid' (fun c => enc (g c)) (mapped f dec) where
  decode_encode := by
    intro c hc rest
    obtain ⟨hv, hfg⟩ := hg c hc
    simp [PrefixCodec.mapped, h.decode_encode hv, hfg]
  encode_of_decode := by
    intro s c rest hs
    obtain ⟨⟨a, rest'⟩, hdec, heq⟩ := Option.map_eq_some_iff.mp hs
    obtain ⟨rfl, rfl⟩ : f a = c ∧ rest' = rest := by simpa using heq
    obtain ⟨ha, hs'⟩ := h.encode_of_decode hdec
    obtain ⟨hv, hgf⟩ := hf a ha
    exact ⟨hv, by rw [hgf, hs']⟩

/-! ### A counted run of symbols -/

/-- Read a count with `d`, then that many symbols. -/
def counted (d : Decoder β ℕ) : Decoder β (List β) := fun s =>
  (d s).bind fun p => if p.1 ≤ p.2.length then some (p.2.take p.1, p.2.drop p.1) else none

theorem Inverts.counted {valid : ℕ → Prop} {enc : ℕ → List β} {dec : Decoder β ℕ}
    (h : Inverts valid enc dec) :
    Inverts (fun l : List β => valid l.length) (fun l => enc l.length ++ l) (counted dec) where
  decode_encode := by
    intro l hl rest
    simp [PrefixCodec.counted, List.append_assoc, h.decode_encode hl]
  encode_of_decode := by
    intro s l rest hs
    obtain ⟨⟨n, mid⟩, hdec, hrest⟩ := Option.bind_eq_some_iff.mp hs
    obtain ⟨hn, hs'⟩ := h.encode_of_decode hdec
    by_cases hlen : n ≤ mid.length
    · simp only [if_pos hlen, Option.some.injEq, Prod.mk.injEq] at hrest
      obtain ⟨rfl, rfl⟩ := hrest
      rw [List.length_take_of_le hlen]
      exact ⟨hn, by rw [List.append_assoc, List.take_append_drop, hs']⟩
    · simp [if_neg hlen] at hrest

/-! ### Fixed-width numerals -/

/-- Read an `n`-byte little-endian numeral. -/
def word (n : ℕ) : Decoder UInt8 ℕ := mapped (fun l => LittleEndian.toNat l.1) (fixed n)

theorem inverts_word (n : ℕ) : Inverts (· < 256 ^ n) (LittleEndian.ofNat n) (word n) := by
  refine (inverts_fixed n).mapped (g := fun x => ⟨LittleEndian.ofNat n x, by simp⟩) ?_ ?_
  · exact fun x hx => ⟨trivial, LittleEndian.toNat_ofNat_of_lt hx⟩
  · rintro ⟨l, rfl⟩ -
    exact ⟨LittleEndian.toNat_lt l, Subtype.ext (LittleEndian.ofNat_toNat l)⟩

end PrefixCodec
