import MockIssuer.Proofs.PemArmour
import MockIssuer.Proofs.StandardKeys

/-!
# Keys that are read back

Both halves of a standard key are read from what they are written as, and a pair loads from two
halves exactly if they have the same modulus and exponent (`KeyPair.ofPem_halves`). A loaded pair
has the numbers of the private half and is written as that half was. So a standard pair survives
being written and loaded (`KeyPair.isReloadable_of_isStandard`).
-/
namespace MockIssuer

namespace Rsa
variable {key : PrivateKey}

lemma readAlgorithm?_rsaAlgorithm (rest : Bytes) :
    readAlgorithm? (rsaAlgorithm ++ rest) = some (rsaEncryption, Der.null, rest) := by
  have houter : (Der.objectId rsaEncryption ++ Der.null).length < Der.lengthBound := by
    decide +kernel
  have hid : rsaEncryption.length < Der.lengthBound := by decide +kernel
  have hcontents : [Der.objectId rsaEncryption, Der.null].flatten =
      Der.objectId rsaEncryption ++ Der.null := by
    simp
  rw [readAlgorithm?, rsaAlgorithm, Der.sequence, hcontents, Der.readTagged?_element _ houter]
  simp [Der.objectId, Der.readTagged?_element _ hid]

namespace PublicKey
variable {key : PublicKey}

lemma ofDer?_toDer (h : key.toDer.length < Der.lengthBound) : ofDer? key.toDer = some key := by
  have hform : key.toDer = Der.sequence ([key.modulus, key.exponent].map Der.natural) := rfl
  rw [hform] at h ⊢
  obtain ⟨contents, hcontents, hread⟩ := Option.bind_eq_some_iff.1 (Der.readNaturals?_sequence h)
  rw [List.length_cons, List.length_singleton] at hread
  simp only [ofDer?, hcontents, hread, Option.bind_eq_bind, Option.bind_some]

lemma toInfo_eq (key : PublicKey) :
    key.toInfo = Der.element Der.sequenceTag (rsaAlgorithm ++ Der.bitString key.toDer) := by
  simp [toInfo, Der.sequence]

/-- A public key is read from its encoding. -/
theorem readPublicInfo?_toInfo (h : key.toInfo.length < Der.lengthBound) :
    readPublicInfo? key.toInfo = some (.rsa key) := by
  rw [toInfo_eq] at h ⊢
  have houter := (Der.length_le_element Der.sequenceTag _).trans_lt h
  have hbits : (0 :: key.toDer).length < Der.lengthBound := by
    have hle := Der.length_le_element Der.bitStringTag (0 :: key.toDer)
    rw [List.length_append, Der.bitString] at houter
    omega
  have hinner : key.toDer.length < Der.lengthBound := (Nat.le_succ _).trans_lt hbits
  have hempty : areEmptyParameters Der.null = true := by decide
  rw [readPublicInfo?, Der.readWhole?_element _ houter]
  simp only [readAlgorithm?_rsaAlgorithm, Der.bitString, Der.readWhole?_element _ hbits, hempty,
    ofDer?_toDer hinner, Option.bind_eq_bind, Option.bind_some, beq_self_eq_true, if_true,
    Option.map_some]

end PublicKey

namespace PrivateKey

lemma IsStandard.ofDer?_toDer (hs : key.IsStandard) (h : key.toDer.length < Der.lengthBound) :
    ofDer? key.toDer = some key := by
  have hform : key.toDer = Der.sequence ((0 :: key.numbers).map Der.natural) := rfl
  rw [hform] at h ⊢
  obtain ⟨contents, hcontents, hread⟩ := Option.bind_eq_some_iff.1 (Der.readNaturals?_sequence h)
  have hlength : (0 :: key.numbers).length = 9 := rfl
  have hkey : ofNumbers? key.numbers = some key := rfl
  rw [hlength] at hread
  simp only [ofDer?, hcontents, hread, hkey, hs.isConsistent, Option.bind_eq_bind,
    Option.bind_some, if_true]

/-- A private key is read from its encoding. -/
theorem IsStandard.readPrivateInfo?_toInfo (hs : key.IsStandard) :
    readPrivateInfo? key.toInfo = some (.rsa key) := by
  have h := hs.encodable
  rw [toInfo_eq] at h ⊢
  have houter := (Der.length_le_element Der.sequenceTag _).trans_lt h
  have hversion : (Der.natural 0).length < Der.lengthBound := by
    rw [List.length_append] at houter
    omega
  have hinner : key.toDer.length < Der.lengthBound := by
    have hle := Der.length_le_element Der.octetStringTag key.toDer
    rw [List.length_append, List.length_append, Der.octetString] at houter
    omega
  have hkey : Der.readTagged? Der.octetStringTag (Der.octetString key.toDer) =
      some (key.toDer, []) := by
    have hread := Der.readTagged?_element Der.octetStringTag hinner []
    rwa [List.append_nil] at hread
  have hempty : areEmptyParameters Der.null = true := by decide
  rw [readPrivateInfo?, Der.readWhole?_element _ houter]
  simp [Der.readNatural?_natural hversion, readAlgorithm?_rsaAlgorithm, hkey, hempty,
    hs.ofDer?_toDer hinner]

lemma length_publicInfo_le (key : PrivateKey) :
    key.publicKey.toInfo.length ≤ key.toInfo.length := by
  have hversion : (Der.natural 0).length = 3 := by decide +kernel
  have hnumbers : key.publicKey.toDer.length + 1 ≤ key.toDer.length := by
    refine Der.length_element_add_le Der.sequenceTag Der.sequenceTag ?_
    simp only [PrivateKey.numbers, PrivateKey.publicKey, List.map_cons, List.flatten_cons,
      List.map_nil, List.flatten_nil, List.length_append, hversion]
    omega
  have hkey : (Der.bitString key.publicKey.toDer).length ≤ (Der.octetString key.toDer).length :=
    Der.length_element_le Der.bitStringTag Der.octetStringTag hnumbers
  rw [PublicKey.toInfo_eq, PrivateKey.toInfo_eq]
  refine Der.length_element_le Der.sequenceTag Der.sequenceTag ?_
  simp only [List.length_append]
  omega

end PrivateKey

lemma isLabel_private : Pem.IsLabel "PRIVATE KEY" :=
  ⟨by simp, by simp, by decide +kernel⟩

lemma isLabel_public : Pem.IsLabel "PUBLIC KEY" :=
  ⟨by simp, by simp, by decide +kernel⟩

/-- A private key is read from its text. -/
theorem PrivateKey.IsStandard.readPrivatePem?_toPem (hs : key.IsStandard) :
    readPrivatePem? key.toPem = some (.rsa key) := by
  have hfind : Pem.find? privateLabels key.toPem =
      some ⟨"PRIVATE KEY".toList, [], key.toInfo⟩ :=
    Pem.find?_write isLabel_private List.mem_cons_self _
  have hplain (contents : Bytes) :
      isEncrypted ⟨"PRIVATE KEY".toList, [], contents⟩ = false := by
    have hne : ("PRIVATE KEY".toList == "ENCRYPTED PRIVATE KEY".toList) = false := by
      decide +kernel
    simp only [isEncrypted, hne, List.any_nil, Bool.or_false]
  simp only [readPrivatePem?, hfind, hplain, Option.bind_eq_bind, Option.bind_some,
    Bool.false_eq_true, beq_self_eq_true, ↓reduceIte]
  exact hs.readPrivateInfo?_toInfo

/-- The public half of a key is read from its text. -/
theorem PrivateKey.IsStandard.readPublicPem?_toPem (hs : key.IsStandard) :
    readPublicPem? key.publicKey.toPem = some (.rsa key.publicKey) := by
  have hfind : Pem.find? publicLabels key.publicKey.toPem =
      some ⟨"PUBLIC KEY".toList, [], key.publicKey.toInfo⟩ :=
    Pem.find?_write isLabel_public List.mem_cons_self _
  simp only [readPublicPem?, hfind, Option.bind_eq_bind, Option.bind_some, beq_self_eq_true,
    if_true]
  exact PublicKey.readPublicInfo?_toInfo (key.length_publicInfo_le.trans_lt hs.encodable)

end Rsa

/-- Key material that hands in some bytes, as they are or as a text. -/
def KeyMaterial.Holds (material : KeyMaterial) (pem : Bytes) : Prop :=
  material = .bytes pem ∨ material = .text (String.ofList pem.toChars)

lemma KeyMaterial.Holds.bytes?_eq {material : KeyMaterial} {pem : Bytes}
    (hm : material.Holds pem) (ha : ∀ byte ∈ pem, byte.toNat < 0x80) :
    material.bytes? = some pem := by
  rcases hm with rfl | rfl
  · rfl
  · have hall : (String.ofList pem.toChars).toList.all (·.toNat < 0x80) = true := by
      rw [String.toList_ofList, List.all_eq_true]
      intro c hc
      obtain ⟨byte, hb, rfl⟩ := List.mem_map.1 hc
      rw [Bytes.toNat_ofNat_byte]
      exact decide_eq_true (ha byte hb)
    rw [bytes?, if_pos hall, Bytes.ofAscii_toChars]

namespace KeyPair
variable {a b : KeyPair} {privateHalf publicHalf : KeyMaterial}

/-- Whether a pair has the private numbers of another one and is written as that one. -/
structure IsWrittenAs (keys other : KeyPair) : Prop where
  numbers : keys.privateKey.numbers = other.privateKey.numbers
  encodedPublicKey : keys.encodedPublicKey = other.encodedPublicKey
  encodedPublicKeyText : keys.encodedPublicKeyText = other.encodedPublicKeyText
  privatePem : keys.privatePem = other.privatePem
  publicPem : keys.publicPem = other.publicPem

lemma isWrittenAs_self (keys : KeyPair) : keys.IsWrittenAs keys :=
  ⟨rfl, rfl, rfl, rfl, rfl⟩

lemma readPrivate_of_holds (ha : a.privateKey.IsStandard) (hm : privateHalf.Holds a.privatePem) :
    privateHalf.bytes?.bind Rsa.readPrivatePem? = some (.rsa a.privateKey) := by
  have hbytes := hm.bytes?_eq fun byte hb => Pem.lt_of_mem_write Rsa.isLabel_private hb
  rw [hbytes, Option.bind_some, privatePem, ha.readPrivatePem?_toPem]

lemma readPublic_of_holds (hb : b.privateKey.IsStandard) (hm : publicHalf.Holds b.publicPem) :
    publicHalf.bytes?.bind Rsa.readPublicPem? = some (.rsa b.publicKey) := by
  have hbytes := hm.bytes?_eq fun byte hb => Pem.lt_of_mem_write Rsa.isLabel_public hb
  rw [hbytes, Option.bind_some, publicPem, publicKey, hb.readPublicPem?_toPem]

/-- The private half alone loads as the pair that it is from. -/
lemma ofPem_private (ha : a.privateKey.IsStandard) (hm : privateHalf.Holds a.privatePem) :
    ofPem privateHalf none = .ok a := by
  rw [ofPem, readPrivate_of_holds ha hm]
  rfl

/-- Two halves load as the pair that the private one is from, if they have the same numbers. -/
lemma ofPem_both (ha : a.privateKey.IsStandard) (hb : b.privateKey.IsStandard)
    (hprivate : privateHalf.Holds a.privatePem) (hpublic : publicHalf.Holds b.publicPem) :
    ofPem privateHalf (some publicHalf) =
      if b.publicKey = a.publicKey then .ok a else .error (.key .mismatch) := by
  rw [ofPem, Option.map_some, readPrivate_of_holds ha hprivate, readPublic_of_holds hb hpublic]
  by_cases h : b.publicKey = a.publicKey
  · rw [if_pos h]
    exact congrArg (Except.mapError Failure.key) (if_pos h)
  · rw [if_neg h]
    exact congrArg (Except.mapError Failure.key) (if_neg h)

/-- What a standard pair is written as loads as the pair. -/
theorem isReloadable_of_isStandard (ha : a.privateKey.IsStandard) : a.isReloadable = true := by
  have hload : ofPem (.bytes a.privatePem) (some (.bytes a.publicPem)) = .ok a :=
    (ofPem_both ha ha (Or.inl rfl) (Or.inl rfl)).trans (if_pos rfl)
  delta isReloadable
  rw [hload]
  exact beq_self_eq_true _

/-- The private half of one standard key and the public half of another, each as bytes or as text,
load exactly if the keys have the same modulus and exponent. What is loaded, with or without the
public half, has the numbers of the first key and is written as that key. -/
theorem ofPem_halves (ha : a.privateKey.IsStandard) (hb : b.privateKey.IsStandard)
    (hprivate : privateHalf.Holds a.privatePem) (hpublic : publicHalf.Holds b.publicPem) :
    ((∃ keys, ofPem privateHalf (some publicHalf) = .ok keys) ↔
      a.publicKey.modulus = b.publicKey.modulus ∧ a.publicKey.exponent = b.publicKey.exponent) ∧
    (¬ (a.publicKey.modulus = b.publicKey.modulus ∧
        a.publicKey.exponent = b.publicKey.exponent) →
      ∃ failure, ofPem privateHalf (some publicHalf) = .error failure ∧
        failure.family = "KeyMaterialError") ∧
    (∀ keys, ofPem privateHalf (some publicHalf) = .ok keys → keys.IsWrittenAs a) ∧
    ∃ keys, ofPem privateHalf none = .ok keys ∧ keys.IsWrittenAs a := by
  have hsame : b.publicKey = a.publicKey ↔
      a.publicKey.modulus = b.publicKey.modulus ∧ a.publicKey.exponent = b.publicKey.exponent := by
    constructor
    · intro h
      rw [h]
      exact ⟨rfl, rfl⟩
    · rintro ⟨hmodulus, hexponent⟩
      exact (Rsa.PublicKey.mk.injEq ..).mpr ⟨hmodulus.symm, hexponent.symm⟩
  rw [ofPem_both ha hb hprivate hpublic, ← hsame]
  by_cases h : b.publicKey = a.publicKey
  · simp only [if_pos h]
    refine ⟨iff_of_true ⟨a, rfl⟩ h, fun hne => absurd h hne, fun keys hkeys => ?_,
      a, ofPem_private ha hprivate, a.isWrittenAs_self⟩
    obtain rfl := Except.ok.inj hkeys
    exact a.isWrittenAs_self
  · simp only [if_neg h]
    refine ⟨iff_of_false ?_ h, fun _ => ⟨_, rfl, rfl⟩, ?_,
      a, ofPem_private ha hprivate, a.isWrittenAs_self⟩
    · rintro ⟨keys, hkeys⟩
      cases hkeys
    · intro keys hkeys
      cases hkeys

/-- The key pair of two Mersenne primes. -/
def ofMersenne (first second : ℕ) : KeyPair := ⟨Rsa.ofPrimes (mersenne first) (mersenne second)⟩

lemma isStandard_ofMersenne {first second : ℕ} (h1 : (mersenne first).Prime)
    (h2 : (mersenne second).Prime) (hne : mersenne first ≠ mersenne second)
    (he1 : (mersenne first - 1) % Rsa.publicExponent ≠ 0)
    (he2 : (mersenne second - 1) % Rsa.publicExponent ≠ 0)
    (hmodulus : mersenne first * mersenne second < 256 ^ 100) :
    (ofMersenne first second).privateKey.IsStandard := by
  have hsize : 9 * 100 + 3000 < Der.lengthBound := by decide +kernel
  exact Rsa.isStandard_ofPrimes h1 h2 hne he1 he2 hsize (by decide +kernel) hmodulus

/-- The halves of one key load, and the public half of another key is refused. -/
theorem ofPem_ofMersenne :
    (∃ keys, ofPem (.text (String.ofList (Bytes.toChars (ofMersenne 521 127).privatePem)))
      (some (.bytes (ofMersenne 521 127).publicPem)) = .ok keys) ∧
    ∃ failure, ofPem (.bytes (ofMersenne 521 127).privatePem)
      (some (.bytes (ofMersenne 607 127).publicPem)) = .error failure ∧
        failure.family = "KeyMaterialError" := by
  have h127 : (mersenne 127).Prime := lucas_lehmer_sufficiency 127 (by simp) (by norm_num)
  have h521 : (mersenne 521).Prime := lucas_lehmer_sufficiency 521 (by simp) (by norm_num)
  have h607 : (mersenne 607).Prime := lucas_lehmer_sufficiency 607 (by simp) (by norm_num)
  have hfirst : (ofMersenne 521 127).privateKey.IsStandard :=
    isStandard_ofMersenne h521 h127 (by decide +kernel) (by decide +kernel) (by decide +kernel)
      (by decide +kernel)
  have hsecond : (ofMersenne 607 127).privateKey.IsStandard :=
    isStandard_ofMersenne h607 h127 (by decide +kernel) (by decide +kernel) (by decide +kernel)
      (by decide +kernel)
  have hne : ¬ ((ofMersenne 521 127).publicKey.modulus = (ofMersenne 607 127).publicKey.modulus ∧
      (ofMersenne 521 127).publicKey.exponent = (ofMersenne 607 127).publicKey.exponent) := by
    decide +kernel
  exact ⟨(ofPem_halves hfirst hfirst (Or.inr rfl) (Or.inl rfl)).1.2 ⟨rfl, rfl⟩,
    (ofPem_halves hfirst hsecond (Or.inl rfl) (Or.inl rfl)).2.1 hne⟩

end KeyPair

end MockIssuer
