import Mathlib
import MockIssuer.Text.Utf8

/-!
# ASCII text

Below 128, bytes and characters stand for each other: reading such bytes as UTF-8 gives their
characters (`Text.decodeUtf8_eq_toChars`), and the characters give back the bytes.
-/
namespace MockIssuer

namespace Text

/-- A byte below 128 is read as its character. -/
lemma decodeUtf8_cons {byte : UInt8} (hb : byte.toNat < 0x80) (rest : Bytes) :
    decodeUtf8 (byte :: rest) = Char.ofNat byte.toNat :: decodeUtf8 rest := by
  have hlead : lead? byte = some (0, byte.toNat) := by
    unfold lead?
    rw [if_pos (UInt8.lt_iff_toNat_lt.2 hb)]
  rw [decodeUtf8, decodeSkipping, hlead]
  simp [followers, joinBits, decodeUtf8]

/-- Bytes below 128 are read as their characters. -/
theorem decodeUtf8_eq_toChars {bytes : Bytes} (hb : ∀ byte ∈ bytes, byte.toNat < 0x80) :
    decodeUtf8 bytes = bytes.toChars := by
  induction bytes with
  | nil => rfl
  | cons byte rest ih =>
    rw [decodeUtf8_cons (hb byte List.mem_cons_self),
      ih fun other ho => hb other (List.mem_cons_of_mem _ ho)]
    rfl

end Text

namespace Bytes

lemma toNat_toUInt8 {c : Char} (hc : c.toNat < 0x80) : c.toNat.toUInt8.toNat = c.toNat := by
  rw [Nat.toUInt8_eq, UInt8.toNat_ofNat']
  omega

/-- The bytes of ASCII characters stand for these characters. -/
lemma toChars_map {text : List Char} (ha : ∀ c ∈ text, c.toNat < 0x80) :
    toChars (text.map fun c => c.toNat.toUInt8) = text := by
  rw [toChars, List.map_map]
  conv_rhs => rw [← List.map_id text]
  refine List.map_congr_left fun c hc => ?_
  simp [toNat_toUInt8 (ha c hc)]

lemma lt_of_mem_map {text : List Char} (ha : ∀ c ∈ text, c.toNat < 0x80) :
    ∀ byte ∈ text.map fun c => c.toNat.toUInt8, byte.toNat < 0x80 := by
  intro byte hbyte
  obtain ⟨c, hc, rfl⟩ := List.mem_map.1 hbyte
  exact (toNat_toUInt8 (ha c hc)).trans_lt (ha c hc)

lemma toNat_ofNat_byte (byte : UInt8) : (Char.ofNat byte.toNat).toNat = byte.toNat := by
  have hvalid : byte.toNat.isValidChar := Or.inl (by have := byte.toNat_lt; omega)
  rw [Char.ofNat, dif_pos hvalid]
  rfl

/-- Bytes come back from the text of their characters. -/
lemma ofAscii_toChars (bytes : Bytes) : ofAscii (String.ofList bytes.toChars) = bytes := by
  rw [ofAscii, String.toList_ofList, toChars, List.map_map]
  conv_rhs => rw [← List.map_id bytes]
  refine List.map_congr_left fun byte _ => ?_
  simp [toNat_ofNat_byte]

end Bytes

end MockIssuer
