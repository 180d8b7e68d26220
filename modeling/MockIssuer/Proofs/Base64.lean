import Mathlib
import MockIssuer.Encoding.Base64

/-!
# Reading Base64 back

An alphabet is proper if its two last characters are different, neither letters nor digits, and not
the padding. Reading gives back what writing in a proper alphabet was given, without padding
(`decodeBare?_encodeBare`) and with it (`decode?_encode`).
-/
namespace MockIssuer.Base64

/-- An alphabet in which every six bits have a character of their own. -/
structure Alphabet.IsProper (alphabet : Alphabet) : Prop where
  value : ∀ n : Fin 64, value? alphabet (character alphabet n) = some n.val
  unpadded : ∀ n : Fin 64, character alphabet n ≠ '='

lemma Alphabet.standard_isProper : Alphabet.standard.IsProper := ⟨by decide, by decide⟩

lemma Alphabet.url_isProper : Alphabet.url.IsProper := ⟨by decide, by decide⟩

variable {alphabet : Alphabet}

lemma Alphabet.IsProper.value?_character (ha : alphabet.IsProper) {n : ℕ} (hn : n < 64) :
    value? alphabet (character alphabet n) = some n := ha.value ⟨n, hn⟩

/-- Reading without padding gives back what was written. -/
theorem decodeBare?_encodeBare (ha : alphabet.IsProper) (bytes : Bytes) :
    decodeBare? alphabet (encodeBare alphabet bytes) = some bytes := by
  induction bytes using encodeBare.induct with
  | case1 => rfl
  | case2 a =>
    have hb := a.toNat_lt
    have h1 := ha.value?_character (n := a.toNat * 16 / 64) (by omega)
    have h2 := ha.value?_character (n := a.toNat * 16 % 64) (by omega)
    have hn : a.toNat * 16 / 64 * 64 + a.toNat * 16 % 64 = a.toNat * 16 := by omega
    simp [encodeBare, decodeBare?, h1, h2, hn]
  | case3 a b =>
    have hba := a.toNat_lt
    have hbb := b.toNat_lt
    set n := (a.toNat * 256 + b.toNat) * 4 with hdef
    have h1 := ha.value?_character (n := n / 4096) (by omega)
    have h2 := ha.value?_character (n := n / 64 % 64) (by omega)
    have h3 := ha.value?_character (n := n % 64) (by omega)
    have hn : (n / 4096 * 64 + n / 64 % 64) * 64 + n % 64 = n := by omega
    have hz : n % 4 = 0 := by omega
    have hfst : n / 1024 = a.toNat := by omega
    have hsnd : n / 4 % 256 = b.toNat := by omega
    simp [encodeBare, decodeBare?, ← hdef, h1, h2, h3, hn, hz, hfst, hsnd]
  | case4 a b c rest ih =>
    have hba := a.toNat_lt
    have hbb := b.toNat_lt
    have hbc := c.toNat_lt
    set n := (a.toNat * 256 + b.toNat) * 256 + c.toNat with hdef
    have h1 := ha.value?_character (n := n / 262144) (by omega)
    have h2 := ha.value?_character (n := n / 4096 % 64) (by omega)
    have h3 := ha.value?_character (n := n / 64 % 64) (by omega)
    have h4 := ha.value?_character (n := n % 64) (by omega)
    have hn : ((n / 262144 * 64 + n / 4096 % 64) * 64 + n / 64 % 64) * 64 + n % 64 = n := by omega
    have hfst : n / 65536 = a.toNat := by omega
    have hsnd : n / 256 % 256 = b.toNat := by omega
    have hthd : n % 256 = c.toNat := by omega
    simp [encodeBare, decodeBare?, ← hdef, h1, h2, h3, h4, hn, hfst, hsnd, hthd, ih]

lemma mem_encodeBare {bytes : Bytes} {c : Char} (hc : c ∈ encodeBare alphabet bytes) :
    ∃ n : Fin 64, c = character alphabet n := by
  have hlow {n : ℕ} (hn : n < 64) : ∃ k : Fin 64, character alphabet n = character alphabet k :=
    ⟨⟨n, hn⟩, rfl⟩
  induction bytes using encodeBare.induct with
  | case1 => simp [encodeBare] at hc
  | case2 a =>
    have hb := a.toNat_lt
    simp only [encodeBare, List.mem_cons, List.not_mem_nil, or_false] at hc
    rcases hc with rfl | rfl <;> exact hlow (by omega)
  | case3 a b =>
    have hba := a.toNat_lt
    have hbb := b.toNat_lt
    simp only [encodeBare, List.mem_cons, List.not_mem_nil, or_false] at hc
    rcases hc with rfl | rfl | rfl <;> exact hlow (by omega)
  | case4 a b c rest ih =>
    have hba := a.toNat_lt
    have hbb := b.toNat_lt
    have hbc := c.toNat_lt
    simp only [encodeBare, List.mem_cons] at hc
    rcases hc with rfl | rfl | rfl | rfl | hc
    · exact hlow (by omega)
    · exact hlow (by omega)
    · exact hlow (by omega)
    · exact hlow (by omega)
    · exact ih hc

lemma mem_encode {bytes : Bytes} {c : Char} (hc : c ∈ encode alphabet bytes) :
    (∃ n : Fin 64, c = character alphabet n) ∨ c = '=' := by
  rcases List.mem_append.1 hc with hc | hc
  · exact Or.inl (mem_encodeBare hc)
  · exact Or.inr (List.eq_of_mem_replicate hc)

lemma length_encodeBare_mod (bytes : Bytes) : (encodeBare alphabet bytes).length % 4 ≠ 1 := by
  induction bytes using encodeBare.induct with
  | case1 => simp [encodeBare]
  | case2 a => simp [encodeBare]
  | case3 a b => simp [encodeBare]
  | case4 a b c rest ih =>
    simp only [encodeBare, List.length_cons]
    omega

lemma dropPadding_append {text : List Char} (ht : ∀ c ∈ text, c ≠ '=') {count : ℕ}
    (hcount : count ≤ 2) : dropPadding (text ++ List.replicate count '=') = text := by
  induction text with
  | nil => interval_cases count <;> rfl
  | cons c rest ih =>
    have hc : c ≠ '=' := ht c List.mem_cons_self
    have hrest := ih fun d hd => ht d (List.mem_cons_of_mem c hd)
    rw [List.cons_append, dropPadding.eq_4, hrest]
    · rintro rfl
      exact absurd rfl hc
    · rintro rfl
      exact absurd rfl hc

/-- Reading with padding gives back what was written. -/
theorem decode?_encode (ha : alphabet.IsProper) (bytes : Bytes) :
    decode? alphabet (encode alphabet bytes) = some bytes := by
  have hlen : (encodeBare alphabet bytes).length % 4 ≠ 1 := length_encodeBare_mod bytes
  have hplain : ∀ c ∈ encodeBare alphabet bytes, c ≠ '=' := by
    intro c hc
    obtain ⟨n, rfl⟩ := mem_encodeBare hc
    exact ha.unpadded n
  have hfull : (encode alphabet bytes).length % 4 = 0 := by
    simp only [encode, List.length_append, List.length_replicate]
    omega
  rw [decode?, if_pos hfull, encode, dropPadding_append hplain (by omega),
    decodeBare?_encodeBare ha]

end MockIssuer.Base64
