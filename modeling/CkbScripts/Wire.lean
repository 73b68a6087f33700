import CkbScripts.Chain
import CkbScripts.Lib.PrefixCodec

/-!
# Witness wire formats

The two encoders of `spend.rs`, and the formats they write into: fixed fields back to back, and a
bytes field as a four-byte little-endian length followed by the payload. The decoders are the
reference reading of those formats. The decoders the contracts run are generated by
`ckb-idl-derive`, which is not part of the repository; what a theorem needs of a generated decoder
it states against these.

The length prefix is `data.len() as u32`, which truncates, so the encoders are only inverted on
payloads shorter than `2 ^ 32`.

## Main results

* `inverts_decodeBytesField`, `inverts_decodeTimelockWitness`: each decoder reads exactly what the
  encoder writes
-/

namespace CkbScripts

open PrefixCodec

/-! ### Encoders -/

/-- A four-byte length prefix and the payload. -/
def encodeBytesField (data : Bytes) : Bytes :=
  (toLeBytes (n := 4) (BitVec.ofNat 32 data.length)).toList ++ data

/-- Signature and unlock time without prefixes, then `extra` as a bytes field. -/
def encodeTimelockWitness (signature : ByteVec 65) (unlockAfterMs : U64) (extra : Bytes) : Bytes :=
  signature.toList ++ (toLeBytes (n := 8) unlockAfterMs).toList ++ encodeBytesField extra

/-- The fields of the timelock witness. -/
structure TimelockWitness where
  /-- `r || s || v` over the transaction hash. -/
  signature : ByteVec 65
  unlockAfterMs : U64
  /-- Auxiliary payload. -/
  extra : Bytes
  deriving DecidableEq

/-! ### Reference decoders -/

/-- Read a bytes field. -/
def decodeBytesField : Decoder UInt8 Bytes := counted (word 4)

/-- Read the three fields of the timelock witness. -/
def decodeTimelockWitness : Decoder UInt8 TimelockWitness :=
  mapped (fun p => ⟨⟨p.1.1, p.1.2⟩, BitVec.ofNat 64 p.2.1, p.2.2⟩)
    (seq (fixed 65) (seq (word 8) decodeBytesField))

/-- What a theorem asks of a generated decoder: where the reference decoder uses up its input, the
generated one returns the same value. Nothing is asked of malformed input or of trailing bytes. -/
def Reads {α : Type} (decode : Bytes → Option α) (format : Decoder UInt8 α) : Prop :=
  ∀ {s a}, format s = some (a, []) → decode s = some a

/-! ### The decoders read what the encoders write -/

theorem encodeBytesField_of_lt {data : Bytes} (h : data.length < 2 ^ 32) :
    encodeBytesField data = LittleEndian.ofNat 4 data.length ++ data := by
  rw [encodeBytesField, toLeBytes, BitVec.toNat_ofNat, Nat.mod_eq_of_lt h]

theorem inverts_decodeBytesField :
    Inverts (fun data : Bytes => data.length < 2 ^ 32) encodeBytesField decodeBytesField := by
  have h : Inverts (fun data : Bytes => data.length < 256 ^ 4) _ decodeBytesField :=
    (inverts_word 4).counted
  refine ⟨fun {data} hdata rest => ?_, fun {s data rest} hs => ?_⟩
  · rw [encodeBytesField_of_lt hdata]
    exact h.decode_encode hdata rest
  · obtain ⟨hlen, henc⟩ := h.encode_of_decode hs
    exact ⟨hlen, by rw [encodeBytesField_of_lt hlen]; exact henc⟩

theorem inverts_decodeTimelockWitness :
    Inverts (fun w : TimelockWitness => w.extra.length < 2 ^ 32)
      (fun w => encodeTimelockWitness w.signature w.unlockAfterMs w.extra)
      decodeTimelockWitness := by
  have h := (inverts_fixed 65).seq ((inverts_word 8).seq inverts_decodeBytesField)
  have hm : Inverts (fun w : TimelockWitness => w.extra.length < 2 ^ 32) _ decodeTimelockWitness :=
    h.mapped
      (g := fun w =>
        (⟨w.signature.toList, w.signature.length_toList⟩, w.unlockAfterMs.toNat, w.extra))
      (fun w hw => ⟨⟨trivial, w.unlockAfterMs.isLt, hw⟩, by simp⟩) ?_
  · simpa [encodeTimelockWitness, toLeBytes] using hm
  · rintro ⟨l, x, e⟩ ⟨-, hx, he⟩
    have hword : (BitVec.ofNat 64 x).toNat = x := Nat.mod_eq_of_lt hx
    exact ⟨he, by rw [hword]⟩

end CkbScripts
