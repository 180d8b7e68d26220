import MockIssuer.Proofs.JsonWeight
import MockIssuer.Proofs.MintedTokens

/-!
# Key ids that the published key set names

The key id is put into the document as it is, and what stands for the public key is replaced there
too. So the document names the key id just if its characters stand for themselves in a string and it
does not hold the mark of the public key (`isFaithful_iff`). That no other key id comes through is a
matter of weight: a quote, a backslash or a control character of a string takes more characters of
the document than a key id brings, and a mark that was replaced has no dollar sign left.
-/
namespace MockIssuer

namespace Json.Weighing

/-- Dollar signs, and whatever is written with a backslash. -/
def dollars : Weighing where
  text c := if c = '\\' ∨ c = '$' then 1 else 0
  value c := if c = '\\' ∨ c = '$' ∨ c.toNat < 0x20 then 1 else 0
  plain c _ hb hc := by
    have hlow : ¬ c.toNat < 0x20 := by omega
    simp [hb, hlow]
  escape taken c rest _ := by
    have hone : (if c = '\\' ∨ c = '$' ∨ c.toNat < 0x20 then 1 else 0) ≤ 1 := by
      split_ifs <;> omega
    simp only [true_or, if_true]
    omega

/-- Whatever is written with a backslash, where a backslash counts twice: it is written with another
one, or with a zero. -/
def escapes : Weighing where
  text c := if c = '\\' ∨ c = '0' then 1 else 0
  value c := if c = '\\' then 2 else if c = '"' ∨ c = '0' ∨ c.toNat < 0x20 then 1 else 0
  plain c hq hb hc := by
    have hlow : ¬ c.toNat < 0x20 := by omega
    simp [hq, hb, hlow]
  escape taken c rest h := by
    by_cases hb : c = '\\'
    · obtain ⟨read, hread, hmem⟩ := readEscape_cases h
      obtain rfl : taken = read := List.append_cancel_right hread
      have hone : 1 ∈ taken.map fun c => if c = '\\' ∨ c = '0' then 1 else 0 := by
        rcases hmem hb with hmem | hmem
        · exact List.mem_map.2 ⟨_, hmem, by simp⟩
        · exact List.mem_map.2 ⟨_, hmem, by simp⟩
      have hsum := List.single_le_sum (fun _ _ => Nat.zero_le _) _ hone
      simp only [true_or, if_true, if_pos hb]
      omega
    · have hone : (if c = '"' ∨ c = '0' ∨ c.toNat < 0x20 then 1 else 0) ≤ 1 := by
        split_ifs <;> omega
      simp only [true_or, if_true, if_neg hb]
      omega

end Json.Weighing

namespace KeySet
open Json (Weighing)

/-- A document that can be read, with exactly one entry, which names the key id and holds the public
key between its two lines. -/
def IsFaithful (keys : KeyPair) (keyId : String) : Prop :=
  ∃ content entry, Json.parse? (document keys keyId).toList = some content ∧
    content.get? "keys" = some (.array [entry]) ∧
    entry.get? "kid" = some (.string keyId) ∧
    entry.get? "value" = some (.string (armoured keys.encodedPublicKeyText))

lemma ofText_replaceFrom (weighing : Weighing) {old new : List Char}
    (hlight : weighing.ofText new < weighing.ofText old) (skip : ℕ) (text : List Char) :
    weighing.ofText (replaceFrom old new skip text) ≤ weighing.ofText (text.drop skip) ∧
      (old <:+: text.drop skip →
        weighing.ofText (replaceFrom old new skip text) < weighing.ofText (text.drop skip)) := by
  induction text generalizing skip with
  | nil =>
    refine ⟨by simp [replaceFrom, Weighing.ofText], fun h => ?_⟩
    obtain rfl : old = [] := by simpa using h
    simp [Weighing.ofText] at hlight
  | cons c text ih =>
    cases skip with
    | succ skip =>
      rw [replaceFrom, List.drop_succ_cons]
      exact ih skip
    | zero =>
      rw [replaceFrom, List.drop_zero]
      by_cases hp : old.isPrefixOf (c :: text) = true
      · rw [if_pos hp, Weighing.ofText_append]
        obtain ⟨rest, hrest⟩ := List.isPrefixOf_iff_prefix.1 hp
        cases old with
        | nil => simp [Weighing.ofText] at hlight
        | cons d tail =>
          obtain rfl : tail ++ rest = text := (List.cons.inj hrest).2
          have hle := (ih tail.length).1
          rw [List.drop_left] at hle
          rw [← hrest, Weighing.ofText_append, List.length_cons, Nat.add_sub_cancel]
          exact ⟨by omega, fun _ => by omega⟩
      · rw [if_neg hp, Weighing.ofText_cons, Weighing.ofText_cons]
        obtain ⟨hle, hlt⟩ := ih 0
        rw [List.drop_zero] at hle hlt
        refine ⟨by omega, fun h => ?_⟩
        have hinfix := (List.infix_cons_iff.1 h).resolve_left fun hprefix =>
          hp (List.isPrefixOf_iff_prefix.2 hprefix)
        have hless := hlt hinfix
        omega

/-- The strings of the entry of a faithful document weigh no more than the document. -/
lemma IsFaithful.weight_le {keys : KeyPair} {keyId : String} (h : IsFaithful keys keyId)
    (weighing : Weighing) : weighing.ofString keyId.toList +
      weighing.ofString (armoured keys.encodedPublicKeyText).toList ≤
        weighing.ofText (document keys keyId).toList := by
  obtain ⟨content, entry, hparse, hkeys, hkid, hvalue⟩ := h
  have hdocument := weighing.ofJson_le_of_parse? hparse
  have hfields := weighing.ofFields_fields_le content
  have hentries := weighing.ofJson_le_of_lookup hkeys
  have hentry := weighing.ofFields_fields_le entry
  have hboth := weighing.ofJson_add_le_of_lookup (by decide) hkid hvalue
  simp only [Weighing.ofJson, Weighing.ofItems] at hentries hboth
  omega

lemma ofString_armoured (weighing : Weighing) (publicKey : String) :
    weighing.ofString (armoured publicKey).toList =
      weighing.ofString (armoured "").toList + weighing.ofString publicKey.toList := by
  unfold armoured
  generalize "-----BEGIN PUBLIC KEY-----\n" = opening
  generalize "\n-----END PUBLIC KEY-----" = closing
  simp only [String.toList_append, Weighing.ofString_append]
  have hempty : weighing.ofString "".toList = 0 := by simp [Weighing.ofString]
  omega

/-- Where the two lines around the public key weigh as much as all that the template brings, the key
id has no more weight as it is read than as it was put in. -/
lemma IsFaithful.weight_keyId_le {keys : KeyPair} {keyId : String} (h : IsFaithful keys keyId)
    (weighing : Weighing) (hle : ∀ c, weighing.text c ≤ weighing.value c)
    (hframe : weighing.ofText beforeKeyId.toList + weighing.ofText betweenMarks.toList +
        weighing.ofText afterPublicKey.toList ≤
      weighing.ofString (armoured "").toList) :
    weighing.ofString keyId.toList ≤
      weighing.ofText (namedKeyId keyId keys.encodedPublicKeyText).toList := by
  have hweight := h.weight_le weighing
  have hkey := weighing.ofText_le_ofString hle keys.encodedPublicKeyText.toList
  rw [ofString_armoured, document, documentOf_eq, Weighing.ofText_append, Weighing.ofText_append,
    Weighing.ofText_append, Weighing.ofText_append] at hweight
  omega

lemma ofText_encodedPublicKeyText (keys : KeyPair) :
    Weighing.dollars.ofText keys.encodedPublicKeyText.toList = 0 := by
  have hall : ∀ n : Fin 64, Weighing.dollars.text (Base64.character .standard n) = 0 := by decide
  refine List.sum_eq_zero fun weight hw => ?_
  obtain ⟨c, hc, rfl⟩ := List.mem_map.1 hw
  rw [KeyPair.encodedPublicKeyText, String.toList_ofList] at hc
  rcases Base64.mem_encode hc with ⟨n, rfl⟩ | rfl
  · exact hall n
  · decide

lemma IsFaithful.notMem_mark {keys : KeyPair} {keyId : String} (h : IsFaithful keys keyId) :
    ¬ publicKeyMark.toList <:+: keyId.toList := by
  intro hmark
  have hlight : Weighing.dollars.ofText keys.encodedPublicKeyText.toList <
      Weighing.dollars.ofText publicKeyMark.toList := by
    rw [ofText_encodedPublicKeyText]
    decide
  have hless := (ofText_replaceFrom Weighing.dollars hlight 0 keyId.toList).2 hmark
  have hle : ∀ c, Weighing.dollars.text c ≤ Weighing.dollars.value c := by
    intro c
    simp only [Weighing.dollars]
    split_ifs <;> simp_all
  have hown := h.weight_keyId_le Weighing.dollars hle (by
    rw [toList_beforeKeyId, toList_betweenMarks, toList_afterPublicKey]
    decide)
  have hmore := Weighing.dollars.ofText_le_ofString hle keyId.toList
  rw [List.drop_zero] at hless
  rw [namedKeyId, String.toList_ofList, replace] at hown
  omega

lemma IsFaithful.isPlain {keys : KeyPair} {keyId : String} (h : IsFaithful keys keyId) :
    IsPlain keyId.toList := by
  have hle : ∀ c, Weighing.escapes.text c ≤ Weighing.escapes.value c := by
    intro c
    simp only [Weighing.escapes]
    split_ifs <;> simp_all
  have hown := h.weight_keyId_le Weighing.escapes hle (by
    rw [toList_beforeKeyId, toList_betweenMarks, toList_afterPublicKey]
    decide)
  rw [namedKeyId_eq_self h.notMem_mark] at hown
  intro c hc
  have hvalue := Weighing.escapes.value_le_of_ofString_le hle hown c hc
  simp only [Weighing.escapes] at hvalue
  refine ⟨?_, ?_, ?_⟩
  · rintro rfl
    exact absurd hvalue (by decide)
  · rintro rfl
    exact absurd hvalue (by decide)
  · by_contra hlow
    have hb : c ≠ '\\' := by
      rintro rfl
      exact hlow (by decide)
    have hz : c ≠ '0' := by
      rintro rfl
      exact hlow (by decide)
    have hcontrol : c.toNat < 0x20 := by omega
    simp [hb, hz, hcontrol] at hvalue

/-- The document names the key id just if its characters stand for themselves in a string and it
does not hold the mark of the public key. Where only the mark stands against this, the document can
be read and names the key id with the public key in place of the mark. What it holds between the two
lines is the public key in any case. -/
theorem isFaithful_iff (keys : KeyPair) (keyId : String) :
    (IsFaithful keys keyId ↔
      IsPlain keyId.toList ∧ ¬ publicKeyMark.toList <:+: keyId.toList) ∧
    (IsPlain keyId.toList → Json.parse? (document keys keyId).toList =
      some (.object [("keys", .array [entryOf (namedKeyId keyId keys.encodedPublicKeyText)
        keys.encodedPublicKeyText])])) ∧
    Base64.decode? .standard keys.encodedPublicKeyText.toList = some keys.encodedPublicKey := by
  refine ⟨⟨fun h => ⟨h.isPlain, h.notMem_mark⟩, fun ⟨hplain, hmark⟩ => ?_⟩, fun hplain => ?_, ?_⟩
  · have hparse := parse?_documentOf hmark hplain (isPlain_encodedPublicKeyText keys)
    exact ⟨_, _, hparse, rfl, rfl, rfl⟩
  · exact parse?_documentOf_namedKeyId hplain (isPlain_encodedPublicKeyText keys)
  · rw [KeyPair.encodedPublicKeyText, String.toList_ofList]
    exact Base64.decode?_encode Base64.Alphabet.standard_isProper _

lemma namedKeyId_publicKeyMark (publicKey : String) :
    namedKeyId publicKeyMark publicKey = publicKey := by
  have hmark : publicKeyMark.toList ≠ [] := by decide
  have hreplace : replace publicKeyMark.toList publicKey.toList (publicKeyMark.toList ++ []) =
      publicKey.toList ++ replace publicKeyMark.toList publicKey.toList [] :=
    replace_self_append hmark []
  rw [List.append_nil] at hreplace
  rw [namedKeyId, hreplace, replace, replaceFrom, List.append_nil, String.ofList_toList]

/-- The mark of the key id is a key id like any other. -/
theorem keyIdMark_isFaithful : IsFaithful ⟨Rsa.mersenneKey⟩ "$kid" := by
  refine (isFaithful_iff ⟨Rsa.mersenneKey⟩ "$kid").1.2 ⟨fun c hc => ?_, by decide⟩
  have hlist : "$kid".toList = ['$', 'k', 'i', 'd'] := by rfl
  rw [hlist] at hc
  simp only [List.mem_cons, List.not_mem_nil, or_false] at hc
  rcases hc with rfl | rfl | rfl | rfl <;> decide

/-- A quote in the key id leaves a document that cannot be read, and the mark of the public key is
named as the public key. -/
theorem quote_and_mark_lost :
    let keys : KeyPair := ⟨⟨3233, 17, 2753, 61, 53, 53, 49, 38⟩⟩
    ¬ IsFaithful keys "a\"b" ∧ Json.parse? (document keys "a\"b").toList = none ∧
    ¬ IsFaithful keys "$public_key" ∧
    namedKeyId "$public_key" keys.encodedPublicKeyText = keys.encodedPublicKeyText := by
  intro keys
  refine ⟨fun h => ?_, ?_, fun h => h.notMem_mark List.infix_rfl, namedKeyId_publicKeyMark _⟩
  · exact (h.isPlain '"' (by decide)).1 rfl
  · rw [document, documentOf_eq, namedKeyId_eq_self (by decide), toList_beforeKeyId,
      toList_betweenMarks, toList_afterPublicKey]
    rfl

end KeySet

end MockIssuer
