import MockIssuer.Proofs.AsciiText
import MockIssuer.Proofs.Base64
import MockIssuer.Proofs.JsonText
import MockIssuer.Proofs.RsaSignature
import MockIssuer.Token.Signing

/-!
# Reading a token back

A token is cut at its points into three segments. The first one gives the header back, in the order
of the names, and the last one holds the signature over the other two. `isSignedBy` is what those
who receive a token check; a token that was made with a valid key passes it (`isSignedBy_of_sign`).
-/
namespace MockIssuer

namespace Json

/-- What an object that names no field twice says about a field. -/
lemma lookup_eq_some_iff_mem {fields : Fields} (hn : (fields.map Prod.fst).Nodup) (name : String)
    (value : Json) : fields.lookup name = some value ↔ (name, value) ∈ fields := by
  induction fields with
  | nil => simp
  | cons field rest ih =>
    obtain ⟨key, old⟩ := field
    rw [List.map_cons, List.nodup_cons] at hn
    by_cases hk : name = key
    · subst hk
      have hout : (name, value) ∉ rest := fun hm => hn.1 (List.mem_map.mpr ⟨_, hm, rfl⟩)
      simp [hout, eq_comm]
    · have hb : (name == key) = false := by simpa using hk
      rw [List.lookup_cons, hb, List.mem_cons, ih hn.2]
      simp [hk]

lemma lookup_eq_of_perm {fields others : Fields} (hp : fields.Perm others)
    (hn : (fields.map Prod.fst).Nodup) (name : String) :
    fields.lookup name = others.lookup name := by
  have hn' : (others.map Prod.fst).Nodup := (hp.map Prod.fst).nodup_iff.mp hn
  refine Option.ext fun value => ?_
  rw [lookup_eq_some_iff_mem hn, lookup_eq_some_iff_mem hn', hp.mem_iff]

/-- Fields in the order of their names, where no value has fields of its own. -/
lemma sortKeys_object {fields : Fields} (hs : sortFields fields = fields) :
    ∃ sorted : Fields, (Json.object fields).sortKeys = .object sorted ∧ sorted.Perm fields := by
  rw [sortKeys, hs]
  exact ⟨_, rfl, List.mergeSort_perm fields _⟩

end Json

namespace Token

lemma toChars_asciiBytes {text : List Char} (ha : ∀ c ∈ text, c.toNat < 0x80) :
    (asciiBytes text).toChars = text :=
  Bytes.toChars_map ha

lemma decodeBare?_segment (bytes : Bytes) :
    Base64.decodeBare? .url (segment bytes) = some bytes :=
  Base64.decodeBare?_encodeBare Base64.Alphabet.url_isProper bytes

lemma notMem_segment (bytes : Bytes) : '.' ∉ segment bytes := by
  have hall : ∀ n : Fin 64, '.' ≠ Base64.character .url n := by decide
  intro hm
  obtain ⟨n, hn⟩ := Base64.mem_encodeBare hm
  exact hall n hn

lemma splitOn_segments {first second third : List Char} (hf : '.' ∉ first) (hs : '.' ∉ second)
    (ht : '.' ∉ third) :
    (first ++ '.' :: second ++ '.' :: third).splitOn '.' = [first, second, third] := by
  rw [List.append_assoc, List.cons_append, List.splitOn_append_cons_self_of_not_mem hf,
    List.splitOn_append_cons_self_of_not_mem hs, List.splitOn_eq_singleton ht]

lemma readHeader?_segment {text rest : List Char} {fields : Json.Fields}
    (ha : ∀ c ∈ text, c.toNat < 0x80) (hp : Json.parse? text = some (.object fields)) :
    readHeader? (String.ofList (segment (asciiBytes text) ++ '.' :: rest)) = some fields := by
  have hcut : (segment (asciiBytes text) ++ '.' :: rest).takeWhile (· != '.') =
      segment (asciiBytes text) := by
    rw [List.takeWhile_append_of_pos]
    · simp
    · intro c hc
      have hne : c ≠ '.' := fun h => notMem_segment _ (h ▸ hc)
      simpa using hne
  simp only [readHeader?, String.toList_ofList, hcut, decodeBare?_segment, Option.bind_eq_bind,
    Option.bind_some, toChars_asciiBytes ha, hp]

/-- Whether the signature of a token was made with the private half of a key: the token has three
segments, and the last one holds a signature over the text of the other two. -/
def isSignedBy (key : Rsa.PublicKey) (token : Token) : Bool :=
  match token.value.toList.splitOn '.' with
  | [header, claims, signature] =>
    match Base64.decodeBare? .url signature with
    | some signature => key.verify .sha256 (asciiBytes (header ++ '.' :: claims)) signature
    | none => false
  | _ => false

lemma sign_eq_ok {signer : Signer} {key : SigningKey} {headers claims : Json.Fields}
    {value : String} (hs : sign signer key headers claims = .ok value) :
    ∃ header signature, headerFor headers = .ok header ∧
      signWith signer key (chosenAlgorithm headers)
        (signingInput (headerText header) (claimsText claims) (isUnencoded headers)) =
          .ok signature ∧
      value = String.ofList (segment (asciiBytes (headerText header)) ++
        '.' :: (if isUnencoded headers then [] else segment (asciiBytes (claimsText claims))) ++
          '.' :: segment signature) := by
  unfold sign at hs
  split at hs
  · cases hs
  split at hs
  · cases hs
  split at hs
  · cases hs
  next header hh =>
    split at hs
    · cases hs
    simp only at hs
    split at hs
    · cases hs
    · next signature hsig =>
      obtain rfl := Except.ok.inj hs
      exact ⟨header, signature, hh, hsig, rfl⟩

lemma signWith_rsa_eq_ok {signer : Signer} {key : Rsa.PrivateKey} {value : Json}
    {input : List Char} {signature : Bytes}
    (hs : signWith signer (.rsa key) value input = .ok signature) :
    ∃ name scheme, algorithmOf value = .ok (name, .signs scheme) ∧
      key.signAs? scheme signer.random (asciiBytes input) = some signature := by
  unfold signWith at hs
  split at hs
  · cases hs
  · next name algorithm hknown =>
    cases algorithm with
    | refuses fault => cases hs
    | signs scheme =>
      simp only at hs
      split at hs
      · next hsign =>
        obtain rfl := Except.ok.inj hs
        exact ⟨name, scheme, hknown, hsign⟩
      · cases hs

lemma scheme_of_default {name : String} {scheme : Rsa.Scheme}
    (h : algorithmOf (.string defaultAlgorithm) = .ok (name, .signs scheme)) :
    scheme = .plain .sha256 := by
  obtain ⟨-, hscheme⟩ := Prod.mk.inj (Except.ok.inj h)
  exact (Algorithm.signs.inj hscheme).symm

/-- A token that was signed with a valid key under the default algorithm is signed by its public
half. -/
theorem isSignedBy_of_sign {key : Rsa.PrivateKey} (hv : key.IsValid)
    {signer : Signer} {headers claims : Json.Fields}
    (ha : chosenAlgorithm headers = .string defaultAlgorithm)
    (hu : isUnencoded headers = false) {token : Token}
    (hs : sign signer (.rsa key) headers claims = .ok token.value) :
    token.isSignedBy key.publicKey = true := by
  obtain ⟨header, signature, -, hsig, hvalue⟩ := sign_eq_ok hs
  rw [ha] at hsig
  obtain ⟨name, scheme, hknown, hsign⟩ := signWith_rsa_eq_ok hsig
  obtain rfl := scheme_of_default hknown
  have hcut : token.value.toList.splitOn '.' = [segment (asciiBytes (headerText header)),
      segment (asciiBytes (claimsText claims)), segment signature] := by
    rw [hvalue, String.toList_ofList, hu, if_neg (by simp)]
    exact splitOn_segments (notMem_segment _) (notMem_segment _) (notMem_segment _)
  have hinput : signingInput (headerText header) (claimsText claims) false =
      segment (asciiBytes (headerText header)) ++
        '.' :: segment (asciiBytes (claimsText claims)) := by
    simp [signingInput]
  rw [hu, hinput] at hsign
  simp only [isSignedBy, hcut, decodeBare?_segment]
  exact Rsa.PrivateKey.verify_of_sign? hv hsign

end Token

end MockIssuer
