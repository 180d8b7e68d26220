import MockIssuer.Proofs.CarriedClaims

/-!
# The algorithm of a token

A token is meant to be signed under the default algorithm, and its header to say so (`IsRs256`). A
header parameter that names the algorithm takes precedence over the default, though: the header says
what it says, and the signature is made under the scheme that it names (`create_isRs256_iff`). So a
builder makes tokens of another algorithm if it is told to: with another hash, or with a salt.
-/
namespace MockIssuer

namespace Json

lemma lookup_map_sortKeys (fields : Fields) (name : String) :
    (fields.map fun field => (field.1, field.2.sortKeys)).lookup name =
      (fields.lookup name).map sortKeys := by
  induction fields with
  | nil => rfl
  | cons field rest ih =>
    obtain ⟨key, value⟩ := field
    rw [List.map_cons, List.lookup_cons, List.lookup_cons]
    cases name == key with
    | true => rfl
    | false => exact ih

lemma lookup_sortedFields {fields : Fields} (hn : (fields.map Prod.fst).Nodup) (name : String) :
    (sortedFields fields).lookup name = (fields.lookup name).map sortKeys := by
  rw [lookup_eq_of_perm (sortedFields_perm fields) ((keys_sortedFields_perm fields).nodup_iff.2 hn),
    lookup_map_sortKeys]

end Json

namespace Token
variable {headers header : Json.Fields}

/-- A token that names the default algorithm and was signed with it. -/
structure IsRs256 (key : Rsa.PrivateKey) (token : Token) : Prop where
  algorithm : token.headers.lookup HeaderName.algorithm = some (.string defaultAlgorithm)
  signature : ∃ first second third signature,
    token.value.toList.splitOn '.' = [first, second, third] ∧
    Base64.decodeBare? .url third = some signature ∧
    key.sign? .sha256 (asciiBytes (first ++ '.' :: second)) = some signature

lemma IsRs256.isSignedBy {key : Rsa.PrivateKey} {token : Token} (h : token.IsRs256 key)
    (hv : key.IsValid) : token.isSignedBy key.publicKey = true := by
  obtain ⟨first, second, third, signature, hcut, hback, hsign⟩ := h.signature
  simp only [Token.isSignedBy, hcut, hback]
  exact Rsa.PrivateKey.verify_of_sign? hv hsign

lemma lookup_withCritical {full : Json.Fields} (hh : withCritical full = .ok header)
    {name : String} (hu : name ≠ HeaderName.unencoded) (hc : name ≠ HeaderName.critical) :
    header.lookup name = full.lookup name := by
  unfold withCritical at hh
  dsimp only at hh
  split at hh
  · obtain rfl := Except.ok.inj hh
    rw [Json.lookup_upsert_of_ne _ _ hc, Json.lookup_upsert_of_ne _ _ hu]
  · split_ifs at hh
    · obtain rfl := Except.ok.inj hh
      rw [Json.lookup_upsert_of_ne _ _ hu]
    · obtain rfl := Except.ok.inj hh
      rw [Json.lookup_upsert_of_ne _ _ hc, Json.lookup_upsert_of_ne _ _ hu]
  · cases hh

lemma lookup_algorithm_withDefaults (hn : (headers.map Prod.fst).Nodup) :
    (withDefaults headers).lookup HeaderName.algorithm =
      some ((headers.lookup HeaderName.algorithm).getD (.string defaultAlgorithm)) := by
  have htype : HeaderName.algorithm ≠ HeaderName.type := by decide
  have hfull : (override [(HeaderName.type, .string "JWT"),
      (HeaderName.algorithm, chosenAlgorithm headers)] headers).lookup HeaderName.algorithm =
        some ((headers.lookup HeaderName.algorithm).getD (.string defaultAlgorithm)) := by
    rw [lookup_override hn]
    cases hl : headers.lookup HeaderName.algorithm with
    | none =>
      have hchosen : chosenAlgorithm headers = .string defaultAlgorithm := by
        rw [chosenAlgorithm, hl]
      rw [hchosen]
      rfl
    | some value => rfl
  unfold withDefaults
  dsimp only
  split
  · split_ifs
    · rw [Json.lookup_erase, if_neg htype, hfull]
    · exact hfull
  · exact hfull

lemma getD_algorithm_of_default (hall : ∀ value, headers.lookup HeaderName.algorithm = some value →
    value = .string defaultAlgorithm) :
    (headers.lookup HeaderName.algorithm).getD (.string defaultAlgorithm) =
      .string defaultAlgorithm := by
  cases hvalue : headers.lookup HeaderName.algorithm with
  | none => rfl
  | some value => exact hall value hvalue

lemma chosenAlgorithm_of_default (hall : ∀ value, headers.lookup HeaderName.algorithm = some value →
    value = .string defaultAlgorithm) : chosenAlgorithm headers = .string defaultAlgorithm := by
  unfold chosenAlgorithm
  cases hvalue : headers.lookup HeaderName.algorithm with
  | none => rfl
  | some value =>
    rw [hall value hvalue]
    rfl

lemma lookup_algorithm_headerFor (hn : (headers.map Prod.fst).Nodup)
    (hh : headerFor headers = .ok header) : header.lookup HeaderName.algorithm =
      some ((headers.lookup HeaderName.algorithm).getD (.string defaultAlgorithm)) := by
  have hu : HeaderName.algorithm ≠ HeaderName.unencoded := by decide
  unfold headerFor at hh
  split_ifs at hh
  · rw [lookup_withCritical hh hu (by decide), lookup_algorithm_withDefaults hn]
  · obtain rfl := Except.ok.inj hh
    rw [Json.lookup_erase, if_neg hu, lookup_algorithm_withDefaults hn]

/-- An algorithm that can be signed with has no fields that could be put in order. -/
lemma sortKeys_of_algorithmOf {value : Json} {known : String × Algorithm}
    (hl : headers.lookup HeaderName.algorithm = some value)
    (hh : algorithmOf (chosenAlgorithm headers) = .ok known) : value.sortKeys = value := by
  unfold chosenAlgorithm at hh
  rw [hl] at hh
  dsimp only at hh
  cases value with
  | array items =>
    cases items with
    | nil => rfl
    | cons item rest => cases hh
  | object fields =>
    cases fields with
    | nil => simp [Json.sortKeys, Json.sortFields]
    | cons field rest => cases hh
  | _ => rfl

/-- The signature of a token is over its first two segments, or over its claims as they are. -/
lemma signature_of_sign {signer : Signer} {key : Rsa.PrivateKey} {claims : Json.Fields}
    {value : String} (hs : sign signer (.rsa key) headers claims = .ok value) :
    ∃ name scheme first second third signature,
      algorithmOf (chosenAlgorithm headers) = .ok (name, .signs scheme) ∧
      value.toList.splitOn '.' = [first, second, third] ∧
      Base64.decodeBare? .url third = some signature ∧
      key.signAs? scheme signer.random (asciiBytes (first ++ '.' ::
        if isUnencoded headers then claimsText claims else second)) = some signature := by
  obtain ⟨header, signature, -, hwith, rfl⟩ := sign_eq_ok hs
  obtain ⟨name, scheme, hknown, hsigned⟩ := signWith_rsa_eq_ok hwith
  set second := if isUnencoded headers then [] else segment (asciiBytes (claimsText claims))
    with hsecond
  have hpoint : '.' ∉ second := by
    rw [hsecond]
    split_ifs
    · exact List.not_mem_nil
    · exact notMem_segment _
  refine ⟨name, scheme, segment (asciiBytes (headerText header)), second, segment signature,
    signature, hknown, ?_, decodeBare?_segment _, ?_⟩
  · rw [String.toList_ofList]
    exact splitOn_segments (notMem_segment _) hpoint (notMem_segment _)
  · rw [signingInput] at hsigned
    cases hu : isUnencoded headers with
    | true => simpa [hu] using hsigned
    | false => simpa [hu, hsecond] using hsigned

lemma lookup_algorithm_of_sign {signer : Signer} {key : SigningKey} {claims : Json.Fields}
    {value : String} {known : String × Algorithm} (h : (Json.object headers).IsRegular)
    (hs : sign signer key headers claims = .ok value)
    (hknown : algorithmOf (chosenAlgorithm headers) = .ok known) :
    ((readHeader? value).getD []).lookup HeaderName.algorithm =
      some ((headers.lookup HeaderName.algorithm).getD (.string defaultAlgorithm)) := by
  obtain ⟨header, hheader, -, -, hread⟩ := readHeader?_of_sign h hs
  have hn := (Json.isRegular_object_iff.1 (isRegular_headerFor h hheader)).1
  rw [hread, Option.getD_some, Json.lookup_sortedFields hn,
    lookup_algorithm_headerFor (Json.isRegular_object_iff.1 h).1 hheader]
  cases hl : headers.lookup HeaderName.algorithm with
  | none => rfl
  | some value => exact congrArg some (sortKeys_of_algorithmOf hl hknown)

end Token

namespace TokenBuilder
variable {environment : Environment} {service : Service} {first : TokenBuilder} {calls : List Call}
  {world : World} {token : Token} {key : Rsa.PrivateKey}

lemma chosenAlgorithm_headerParameters {builder : TokenBuilder} (h : builder.IsRegular) :
    Token.chosenAlgorithm builder.headerParameters = Token.chosenAlgorithm builder.headers := by
  unfold Token.chosenAlgorithm
  rw [lookup_headerParameters h (by decide)]

/-- A regular builder makes a token, if its key is large enough for the hash, its claims name no
issuer, all numbers can be written, the times can be read, and the header calls nothing critical. -/
lemma exists_create_of_regular {builder : TokenBuilder} (h : builder.IsRegular)
    (hkey : builder.key = .rsa key) {name : String} {hash : Hash}
    (hknown : Token.algorithmOf (Token.chosenAlgorithm builder.headerParameters) =
      .ok (name, .signs (.plain hash)))
    (hsize : Rsa.leastSize hash ≤ key.publicKey.size) {header : Json.Fields}
    (hheader : Token.headerFor builder.headerParameters = .ok header)
    (hfits : (Json.object header).isWritable = true)
    (hcritical : header.lookup HeaderName.critical = none) {now : ℤ} {expiration : Json}
    (hclock : world.clock.whole = .ok now) (hexp : builder.expiration now = .ok expiration)
    (hissuer : (Token.override (builder.defaultClaims now expiration world.takeTokenId.1)
      builder.claims).lookup ClaimName.issuer = none)
    (hwritable : (Json.object (Token.override
      (builder.defaultClaims now expiration world.takeTokenId.1) builder.claims)).isWritable =
        true) :
    ∃ token, (builder.create world).1 = .ok token := by
  obtain ⟨value, hsign⟩ := Token.exists_sign world.takeTokenId.2.signer hknown hsize hheader hfits
    hissuer hwritable
  rw [← hkey] at hsign
  obtain ⟨_, hheader', -, -, hread⟩ := Token.readHeader?_of_sign h.headerParameters hsign
  obtain rfl := Except.ok.inj (hheader.symm.trans hheader')
  have hn := (Json.isRegular_object_iff.1
    (Token.isRegular_headerFor h.headerParameters hheader)).1
  refine exists_create (by rw [hkey]; simp) hclock hexp hsign ?_
  rw [hread, Option.getD_some, Token.checkCritical, Json.lookup_sortedFields hn, hcritical]
  rfl

/-- How a token is signed. The scheme is that of the algorithm that the header parameters name, or of
the default one, and the header says what they say. The signature is over the first two segments,
unless a parameter asks for claims that are signed as they are. Apart from these, a token is signed
under the default algorithm, and says so, if and only if no header parameter names another value for
the algorithm; then it can be verified with the public half of the key. -/
theorem create_isRs256_iff (hnew : TokenBuilder.new environment service = .ok first)
    (hcalls : ∀ call ∈ calls, call.IsRegular) (hkey : (first.run calls).key = .rsa key)
    (h : ((first.run calls).create world).1 = .ok token) :
    ∃ name scheme header claims third signature,
      Token.algorithmOf (Token.chosenAlgorithm (first.run calls).headers) =
        .ok (name, .signs scheme) ∧
      token.value.toList.splitOn '.' = [header, claims, third] ∧
      Base64.decodeBare? .url third = some signature ∧
      key.signAs? scheme world.takeTokenId.2.signer.random (Token.asciiBytes (header ++ '.' ::
        if Token.isUnencoded (first.run calls).headers then Token.claimsText token.claims
        else claims)) = some signature ∧
      token.headers.lookup HeaderName.algorithm =
        some (((first.run calls).headers.lookup HeaderName.algorithm).getD
          (.string Token.defaultAlgorithm)) ∧
      (Token.isUnencoded (first.run calls).headers = false → (token.IsRs256 key ↔
        ∀ value, (first.run calls).headers.lookup HeaderName.algorithm = some value →
          value = .string Token.defaultAlgorithm)) ∧
      (token.IsRs256 key → key.IsValid → token.isSignedBy key.publicKey = true) := by
  have hregular := (isRegular_of_new hnew).run hcalls
  set builder := first.run calls
  obtain ⟨-, -, -, -, -, hsign, hheaders⟩ := create_ok h
  rw [hkey] at hsign
  obtain ⟨name, scheme, header, claims, third, signature, hknown, hcut, hback, hsigned⟩ :=
    Token.signature_of_sign hsign
  have htold := Token.lookup_algorithm_of_sign hregular.headerParameters hsign hknown
  rw [← hheaders, lookup_headerParameters hregular (by decide)] at htold
  rw [chosenAlgorithm_headerParameters hregular] at hknown
  rw [isUnencoded_headerParameters hregular] at hsigned
  refine ⟨name, scheme, header, claims, third, signature, hknown, hcut, hback, hsigned, htold,
    fun hencoded => ⟨fun hdefault value hvalue => ?_, fun hall => ⟨?_, ?_⟩⟩,
    fun hdefault => hdefault.isSignedBy⟩
  · rw [hdefault.algorithm, hvalue] at htold
    exact (Option.some.inj htold).symm
  · rw [htold, Token.getD_algorithm_of_default hall]
  · refine ⟨header, claims, third, signature, hcut, hback, ?_⟩
    rw [Token.chosenAlgorithm_of_default hall] at hknown
    obtain rfl := Token.scheme_of_default hknown
    simpa [hencoded] using hsigned

/-- A builder with a default header makes tokens under the default algorithm. -/
theorem varied_isRs256 : ∃ first token, TokenBuilder.new {} .xsuaa = .ok first ∧
    (∀ call ∈ variedCalls, call.IsRegular) ∧
    (first.run variedCalls).key = .rsa Rsa.mersenneKey ∧
    ((first.run variedCalls).create {}).1 = .ok token ∧
    token.isSignedBy Rsa.mersenneKey.publicKey = true := by
  obtain ⟨first, token, hnew, hcreate⟩ := exists_create_variedCalls
  have hkey : (first.run variedCalls).key = .rsa Rsa.mersenneKey := by
    obtain ⟨_, rfl⟩ := new_ok hnew
    rfl
  have hheaders := headers_run_variedCalls hnew
  obtain ⟨_, _, _, _, _, _, -, -, -, -, -, hiff, hsigned⟩ :=
    create_isRs256_iff hnew isRegular_variedCalls hkey hcreate
  rw [hheaders] at hiff
  have hrs256 : token.IsRs256 Rsa.mersenneKey := (hiff rfl).2 fun value hvalue => by
    simp [List.lookup_cons, HeaderName.algorithm, HeaderName.jwksUrl, HeaderName.keyId] at hvalue
  exact ⟨first, token, hnew, isRegular_variedCalls, hkey, hcreate,
    hsigned hrs256 Rsa.mersenneKey_isValid⟩

/-- A builder that is told another algorithm. -/
def longerHash : List Call :=
  [.withKey (.rsa Rsa.mersenneKey), .withHeader HeaderName.algorithm (.string "RS384")]

/-- It makes a token that names this algorithm. -/
theorem longerHash_not_isRs256 : ∃ first token, TokenBuilder.new {} .ias = .ok first ∧
    ((first.run longerHash).create {}).1 = .ok token ∧
    token.headers.lookup HeaderName.algorithm = some (.string "RS384") ∧
    ¬ token.IsRs256 Rsa.mersenneKey := by
  have hnew : TokenBuilder.new {} .ias =
      .ok ⟨.ias, .absent, [], [], .int Environment.defaultTokenTtl, .null⟩ := rfl
  set first : TokenBuilder := ⟨.ias, .absent, [], [], .int Environment.defaultTokenTtl, .null⟩
  have hregular : (first.run longerHash).IsRegular := (isRegular_of_new hnew).run (by
    simp only [longerHash, List.forall_mem_cons]
    exact ⟨trivial, .string _, by simp⟩)
  have hknown : Token.algorithmOf
      (Token.chosenAlgorithm (first.run longerHash).headerParameters) =
        .ok ("RS384", .signs (.plain .sha384)) := rfl
  obtain ⟨token, htoken⟩ : ∃ token, ((first.run longerHash).create {}).1 = .ok token :=
    exists_create_of_regular hregular rfl hknown (by decide +kernel) rfl rfl rfl rfl rfl rfl rfl
  obtain ⟨-, -, -, -, -, hsign, hheaders⟩ := create_ok htoken
  have htold := Token.lookup_algorithm_of_sign hregular.headerParameters hsign hknown
  rw [← hheaders] at htold
  refine ⟨first, token, hnew, htoken, htold, fun hdefault => ?_⟩
  have heq : some (Json.string Token.defaultAlgorithm) = some (.string "RS384") :=
    hdefault.algorithm.symm.trans htold
  simp [Token.defaultAlgorithm] at heq

end TokenBuilder

end MockIssuer
