import MockIssuer.Proofs.BigEndian
import MockIssuer.Encoding.Der

/-!
# Reading encoded elements back

Each reader takes what its writer made off the front of some bytes and leaves the rest alone. A
length is written in at most 126 bytes behind its own count, so this holds of contents below
`lengthBound`; everything inside an element that is below the bound is below it too.
-/
namespace MockIssuer

namespace Bytes

/-- The least width holds the number. -/
lemma lt_pow_width (n : ℕ) : n < 256 ^ width n := by
  have hlt := Nat.lt_log2_self (n := n)
  have hpow : (256 : ℕ) ^ width n = 2 ^ (8 * (n.log2 / 8 + 1)) := by
    rw [width, pow_mul]
    norm_num
  rw [hpow]
  exact hlt.trans_le (Nat.pow_le_pow_right (by norm_num) (by omega))

end Bytes

namespace Der
variable {tag : UInt8} {contents rest : Bytes} {n : ℕ}

/-- Lengths below this bound are written in 126 bytes at most. -/
def lengthBound : ℕ := 256 ^ 126

lemma width_le (hn : n < lengthBound) : Bytes.width n ≤ 126 := by
  unfold Bytes.width
  by_cases hz : n = 0
  · subst hz
    decide
  · have hlog : n.log2 < 1008 := by
      rw [Nat.log2_lt hz]
      exact hn.trans_eq (by rw [lengthBound, show (256 : ℕ) = 2 ^ 8 by norm_num, ← pow_mul])
    omega

theorem readLength?_lengthBytes (hn : n < lengthBound) (rest : Bytes) :
    readLength? (lengthBytes n ++ rest) = some (n, rest) := by
  unfold lengthBytes
  by_cases hshort : n < 0x80
  · have hbyte : n.toUInt8.toNat = n := by
      rw [Nat.toUInt8_eq, UInt8.toNat_ofNat']
      omega
    have hlow : n.toUInt8 < 0x80 := by
      rw [UInt8.lt_iff_toNat_lt, hbyte]
      exact hshort
    rw [if_pos hshort, List.singleton_append, readLength?, if_pos hlow, hbyte]
  · have hwidth := width_le hn
    have hbyte : (0x80 + Bytes.width n).toUInt8.toNat = 0x80 + Bytes.width n := by
      rw [Nat.toUInt8_eq, UInt8.toNat_ofNat']
      omega
    have hhigh : ¬ (0x80 + Bytes.width n).toUInt8 < 0x80 := by
      rw [UInt8.lt_iff_toNat_lt, hbyte]
      exact Nat.not_lt.2 (Nat.le_add_right _ _)
    have htake : (Bytes.ofNat (Bytes.width n) n ++ rest).take (Bytes.width n) =
        Bytes.ofNat (Bytes.width n) n := List.take_left' (Bytes.length_ofNat _ _)
    have hdrop : (Bytes.ofNat (Bytes.width n) n ++ rest).drop (Bytes.width n) = rest :=
      List.drop_left' (Bytes.length_ofNat _ _)
    have hvalue : Bytes.toNat (Bytes.ofNat (Bytes.width n) n) = n := by
      rw [Bytes.toNat_ofNat, Nat.mod_eq_of_lt (Bytes.lt_pow_width n)]
    simp only [if_neg hshort, List.cons_append, readLength?, if_neg hhigh, hbyte,
      Nat.add_sub_cancel_left, htake, hdrop, hvalue]
    rw [if_pos (by rw [lengthBytes, if_neg hshort])]

theorem readElement?_element (tag : UInt8) (h : contents.length < lengthBound) (rest : Bytes) :
    readElement? (element tag contents ++ rest) = some (tag, contents, rest) := by
  rw [element, List.append_assoc, List.cons_append, readElement?, readLength?_lengthBytes h]
  simp only [List.length_append, Nat.le_add_right, if_true, List.take_left, List.drop_left]

lemma readTagged?_element (tag : UInt8) (h : contents.length < lengthBound) (rest : Bytes) :
    readTagged? tag (element tag contents ++ rest) = some (contents, rest) := by
  rw [readTagged?, readElement?_element tag h]
  exact if_pos rfl

lemma readWhole?_element (tag : UInt8) (h : contents.length < lengthBound) :
    readWhole? tag (element tag contents) = some contents := by
  have htagged := readTagged?_element tag h []
  rw [List.append_nil] at htagged
  rw [readWhole?, htagged]

lemma toNat_naturalContents (n : ℕ) : Bytes.toNat (naturalContents n) = n := by
  have hlt := Nat.lt_log2_self (n := n)
  have hpow : (256 : ℕ) ^ ((n.log2 + 1) / 8 + 1) = 2 ^ (8 * ((n.log2 + 1) / 8 + 1)) := by
    rw [pow_mul]
    norm_num
  rw [naturalContents, Bytes.toNat_ofNat, Nat.mod_eq_of_lt]
  rw [hpow]
  exact hlt.trans_le (Nat.pow_le_pow_right (by norm_num) (by omega))

lemma length_le_element (tag : UInt8) (contents : Bytes) :
    contents.length ≤ (element tag contents).length := by
  simp only [element, List.length_append, List.length_cons]
  omega

/-- Longer contents have a length that is written in no fewer bytes. -/
lemma length_lengthBytes_le {m n : ℕ} (h : m ≤ n) :
    (lengthBytes m).length ≤ (lengthBytes n).length := by
  have hwidth : Bytes.width m ≤ Bytes.width n := by
    rw [Bytes.width, Bytes.width, Nat.log2_eq_log_two, Nat.log2_eq_log_two]
    exact Nat.succ_le_succ (Nat.div_le_div_right (Nat.log_mono_right h))
  unfold lengthBytes
  split_ifs
  · exact le_rfl
  · simp
  · omega
  · simpa [Bytes.length_ofNat] using hwidth

/-- An element is longer than another one by what its contents are longer at least. -/
lemma length_element_add_le (tag other : UInt8) {inner outer : Bytes} {k : ℕ}
    (h : inner.length + k ≤ outer.length) :
    (element tag inner).length + k ≤ (element other outer).length := by
  have hlength := length_lengthBytes_le ((Nat.le_add_right _ k).trans h)
  simp only [element, List.length_append, List.length_cons]
  omega

lemma length_element_le (tag other : UInt8) {inner outer : Bytes}
    (h : inner.length ≤ outer.length) :
    (element tag inner).length ≤ (element other outer).length :=
  length_element_add_le tag other (k := 0) h

lemma length_element_le_add (tag : UInt8) (h : contents.length < lengthBound) :
    (element tag contents).length ≤ contents.length + 128 := by
  have hwidth := width_le h
  have hlength : (lengthBytes contents.length).length ≤ 127 := by
    unfold lengthBytes
    split_ifs
    · simp
    · simp only [List.length_cons, Bytes.length_ofNat]
      omega
  simp only [element, List.length_append, List.length_cons]
  omega

/-- A number is written in one byte more than it has, behind its tag and its length. -/
lemma length_natural_le {width : ℕ} (hn : n < 256 ^ width) (hw : width + 1 < lengthBound) :
    (natural n).length ≤ width + 129 := by
  have hlog : (n.log2 + 1) / 8 ≤ width := by
    by_cases hz : n = 0
    · subst hz
      exact Nat.zero_le _
    · have hlt : n.log2 < 8 * width := by
        rw [Nat.log2_lt hz, pow_mul]
        exact hn
      omega
  have hcontents : (naturalContents n).length ≤ width + 1 := by
    rw [naturalContents, Bytes.length_ofNat]
    omega
  have hle := length_element_le_add integerTag (hcontents.trans_lt hw)
  rw [natural]
  omega

lemma length_flatten_le {numbers : List ℕ} {bound : ℕ}
    (h : ∀ n ∈ numbers, (natural n).length ≤ bound) :
    (numbers.map natural).flatten.length ≤ numbers.length * bound := by
  induction numbers with
  | nil => simp
  | cons first others ih =>
    have hfirst := h first List.mem_cons_self
    have hothers := ih fun n hn => h n (List.mem_cons_of_mem _ hn)
    rw [List.map_cons, List.flatten_cons, List.length_append, List.length_cons, Nat.succ_mul]
    omega

lemma readNatural?_natural (h : (natural n).length < lengthBound) (rest : Bytes) :
    readNatural? (natural n ++ rest) = some (n, rest) := by
  have hcontents := (length_le_element integerTag (naturalContents n)).trans_lt h
  rw [readNatural?, natural, readTagged?_element _ hcontents]
  simp only [toNat_naturalContents, if_true]

/-- Numbers that were written one after the other are read back. -/
theorem readNaturals?_flatten {numbers : List ℕ}
    (h : (numbers.map natural).flatten.length < lengthBound) :
    readNaturals? numbers.length (numbers.map natural).flatten = some numbers := by
  induction numbers with
  | nil => rfl
  | cons first others ih =>
    rw [List.map_cons, List.flatten_cons, List.length_append] at h
    have hfirst : (natural first).length < lengthBound := by omega
    have hothers : (others.map natural).flatten.length < lengthBound := by omega
    rw [List.map_cons, List.flatten_cons, List.length_cons, readNaturals?,
      readNatural?_natural hfirst]
    simp [ih hothers]

lemma readNaturals?_sequence {numbers : List ℕ}
    (h : (sequence (numbers.map natural)).length < lengthBound) :
    ((readWhole? sequenceTag (sequence (numbers.map natural))).bind
      (readNaturals? numbers.length)) = some numbers := by
  have hcontents := (length_le_element sequenceTag _).trans_lt h
  rw [sequence, readWhole?_element _ hcontents, Option.bind_some, readNaturals?_flatten hcontents]

end Der

end MockIssuer
