import MockIssuer.Proofs.KeySetDocument
import MockIssuer.Proofs.LocalUrl
import MockIssuer.Proofs.MockUse
import MockIssuer.Proofs.SetUp
import MockIssuer.Proofs.TokenText

/-!
# Tokens and the published key set

A harness that has been set up makes tokens that can be verified with what its mock server
publishes. The token names the address of the key set and the id of the key in it. Whatever is asked
of the server and registered with it in between, as long as the stub of the key set stays, the
document at that address has one entry for the key id, and the key in this entry verifies the token
(`createToken_verifies`).
-/
namespace MockIssuer

namespace Json

lemma mem_upsert {name : String} {value : Json} {fields : Fields} {field : String × Json}
    (h : field ∈ upsert name value fields) : field ∈ fields ∨ field.2 = value := by
  induction fields with
  | nil =>
    obtain rfl := List.mem_singleton.1 h
    exact Or.inr rfl
  | cons first rest ih =>
    unfold upsert at h
    split at h
    · rcases List.mem_cons.1 h with rfl | hrest
      · exact Or.inr rfl
      · exact Or.inl (List.mem_cons_of_mem _ hrest)
    · rcases List.mem_cons.1 h with rfl | hrest
      · exact Or.inl List.mem_cons_self
      · exact (ih hrest).imp_left (List.mem_cons_of_mem _)

end Json

lemma Token.forall_override {P : Json → Prop} {fields changes : Json.Fields}
    (hf : ∀ field ∈ fields, P field.2) (hc : ∀ field ∈ changes, P field.2) :
    ∀ field ∈ override fields changes, P field.2 := by
  induction changes generalizing fields with
  | nil => exact hf
  | cons change rest ih =>
    refine ih (fun field hfield => ?_) fun field hfield => hc field (List.mem_cons_of_mem _ hfield)
    rcases Json.mem_upsert hfield with hold | hnew
    · exact hf field hold
    · rw [hnew]
      exact hc change List.mem_cons_self

namespace TokenBuilder

lemma mem_setOrErase {name : String} {value : Json} {fields : Json.Fields}
    {field : String × Json} (h : field ∈ setOrErase name value fields) :
    field ∈ fields ∨ field.2 = value := by
  unfold setOrErase at h
  split at h
  · exact Or.inl (List.mem_filter.1 h).1
  · exact Json.mem_upsert h

lemma forall_defaultClaims {P : Json → Prop} {builder : TokenBuilder} {issuedAt : ℤ}
    {expiration : Json} {tokenId : String} (hclaims : ∀ field ∈ builder.claims, P field.2)
    (hissued : P (.int issuedAt)) (hexpires : P expiration) (htext : ∀ text, P (.string text)) :
    ∀ field ∈ builder.defaultClaims issuedAt expiration tokenId, P field.2 := by
  intro field hfield
  rcases List.mem_append.1 hfield with htimes | hclient
  · simp only [List.mem_cons, List.not_mem_nil, or_false] at htimes
    rcases htimes with rfl | rfl | rfl
    · exact hissued
    · exact hexpires
    · exact htext _
  · unfold clientClaims at hclient
    split at hclient
    · cases hclient
    · rcases List.mem_cons.1 hclient with rfl | hparty
      · exact htext _
      · split at hparty
        · cases hparty
        · cases hparty
        · next clientId _ hlookup =>
          obtain rfl := List.mem_singleton.1 hparty
          obtain ⟨_, _, hl, -⟩ := List.lookup_eq_some_iff.1 hlookup
          exact hclaims (ClaimName.clientId, clientId) (by rw [hl]; simp)

lemma forall_claims {P : Json → Prop} {builder : TokenBuilder} {issuedAt : ℤ} {expiration : Json}
    {tokenId : String} (hclaims : ∀ field ∈ builder.claims, P field.2) (hissued : P (.int issuedAt))
    (hexpires : P expiration) (htext : ∀ text, P (.string text)) :
    ∀ field ∈ Token.override (builder.defaultClaims issuedAt expiration tokenId) builder.claims,
      P field.2 :=
  Token.forall_override (forall_defaultClaims hclaims hissued hexpires htext) hclaims

lemma create_ok {builder : TokenBuilder} {world : World} {token : Token}
    (h : (builder.create world).1 = .ok token) :
    ∃ issuedAt expiration, world.clock.whole = .ok issuedAt ∧
      builder.expiration issuedAt = .ok expiration ∧
      token.claims = Token.override
        (builder.defaultClaims issuedAt expiration world.takeTokenId.1) builder.claims ∧
      Token.sign world.takeTokenId.2.signer builder.key builder.headerParameters token.claims =
        .ok token.value ∧
      token.headers = (Token.readHeader? token.value).getD [] := by
  unfold create at h
  split at h
  · cases h
  split at h
  · cases h
  next issuedAt hclock =>
    split at h
    · cases h
    next expiration hexpiration =>
      refine ⟨issuedAt, expiration, hclock, hexpiration, ?_⟩
      unfold issue at h
      simp only at h
      split at h
      · cases h
      · cases h
      · next value hsign =>
        split at h
        · cases h
        · obtain rfl := Except.ok.inj h
          exact ⟨rfl, hsign, rfl⟩

end TokenBuilder

namespace Harness

lemma createToken_ok {harness : Harness} {world : World} {token : Token}
    (h : (harness.createToken world).1 = .ok token) :
    harness.phase = .running ∧ ∃ binding builder, harness.binding = some binding ∧
      TokenBuilder.new world.environment harness.config.service = .ok builder ∧
      ((binding.apply builder).create world).1 = .ok token := by
  unfold createToken at h
  split at h
  · cases h
  · next bound hbuilder =>
    have hmade : (bound.create world).1 = .ok token := by
      split at h
      · cases h
      · next made world' hmade =>
        obtain rfl := Except.ok.inj h
        rw [hmade]
    unfold tokenBuilder at hbuilder
    split at hbuilder
    · next binding hp hb =>
      unfold Binding.createBuilder at hbuilder
      obtain ⟨builder, hnew, rfl⟩ : ∃ builder,
          TokenBuilder.new world.environment harness.config.service = .ok builder ∧
            binding.apply builder = bound := by
        cases hnew : TokenBuilder.new world.environment harness.config.service with
        | error failure =>
          rw [hnew] at hbuilder
          cases hbuilder
        | ok builder =>
          rw [hnew] at hbuilder
          exact ⟨builder, rfl, Except.ok.inj hbuilder⟩
      exact ⟨hp, binding, builder, hb, hnew, hmade⟩
    · cases hbuilder

end Harness

namespace Token

/-- The header parameters of a builder with the address of a key set and the id of a key. -/
def boundParameters (url keyId : String) : Json.Fields :=
  [(HeaderName.type, .string "JWT"), (HeaderName.jwksUrl, .string url),
    (HeaderName.keyId, .string keyId)]

/-- The header that they lead to. -/
def boundHeader (url keyId : String) : Json.Fields :=
  [(HeaderName.type, .string "JWT"), (HeaderName.algorithm, .string defaultAlgorithm),
    (HeaderName.jwksUrl, .string url), (HeaderName.keyId, .string keyId)]

lemma headerFor_bound (url keyId : String) :
    headerFor (boundParameters url keyId) = .ok (boundHeader url keyId) := rfl

lemma boundHeader_nodup (url keyId : String) :
    ((boundHeader url keyId).map Prod.fst).Nodup := by
  simp [boundHeader, HeaderName.type, HeaderName.algorithm, HeaderName.jwksUrl, HeaderName.keyId]

lemma parse?_boundHeader (url keyId : String) : ∃ sorted : Json.Fields,
    Json.parse? (headerText (boundHeader url keyId)) = some (.object sorted) ∧
      (∀ c ∈ headerText (boundHeader url keyId), c.toNat < 0x80) ∧
      sorted.Perm (boundHeader url keyId) := by
  have hflat : Json.sortFields (boundHeader url keyId) = boundHeader url keyId := by
    simp [boundHeader, Json.sortFields, Json.sortKeys]
  obtain ⟨sorted, hsorted, hperm⟩ := Json.sortKeys_object hflat
  have hlegible : Json.IsLegible (.object sorted) := by
    refine Json.isLegible_object (fun field hf => ?_) ?_
    · have hmem := hperm.mem_iff.mp hf
      simp only [boundHeader, List.mem_cons, List.not_mem_nil, or_false] at hmem
      rcases hmem with rfl | rfl | rfl | rfl <;> exact Json.isLegible_string _
    · exact (hperm.map Prod.fst).nodup_iff.mpr (boundHeader_nodup url keyId)
  have htext : headerText (boundHeader url keyId) = (Json.object sorted).print .compactAscii := by
    rw [headerText, hsorted]
  rw [htext]
  exact ⟨sorted, Json.parse?_print hlegible, hlegible.ascii, hperm⟩

lemma readHeader?_bound {signer : Signer} {key : SigningKey} {url keyId value : String}
    {claims : Json.Fields} (hs : sign signer key (boundParameters url keyId) claims = .ok value) :
    ∃ sorted, readHeader? value = some sorted ∧
      ∀ name, sorted.lookup name = (boundHeader url keyId).lookup name := by
  obtain ⟨header, signature, hheader, -, hvalue⟩ := sign_eq_ok hs
  rw [headerFor_bound] at hheader
  obtain rfl := Except.ok.inj hheader
  obtain ⟨sorted, hparse, hascii, hperm⟩ := parse?_boundHeader url keyId
  refine ⟨sorted, ?_, Json.lookup_eq_of_perm hperm ?_⟩
  · rw [hvalue, List.append_assoc, List.cons_append]
    exact readHeader?_segment hascii hparse
  · exact (hperm.map Prod.fst).nodup_iff.mpr (boundHeader_nodup url keyId)

lemma exists_sign (signer : Signer) {key : Rsa.PrivateKey} {headers header claims : Json.Fields}
    {name : String} {hash : Hash}
    (hknown : algorithmOf (chosenAlgorithm headers) = .ok (name, .signs (.plain hash)))
    (hsize : Rsa.leastSize hash ≤ key.publicKey.size) (hheader : headerFor headers = .ok header)
    (hfits : (Json.object header).isWritable = true)
    (hissuer : claims.lookup ClaimName.issuer = none)
    (hwritable : (Json.object claims).isWritable = true) :
    ∃ value, sign signer (.rsa key) headers claims = .ok value := by
  obtain ⟨signature, hsign⟩ := Rsa.PrivateKey.exists_sign? hash hsize (asciiBytes (signingInput
    (headerText header) (claimsText claims) (isUnencoded headers)))
  have hwith : signWith signer (.rsa key) (chosenAlgorithm headers)
      (signingInput (headerText header) (claimsText claims) (isUnencoded headers)) =
        .ok signature := by
    simp only [signWith, hknown, Rsa.PrivateKey.signAs?_plain, hsign]
  unfold sign
  rw [hissuer, hwritable, hheader]
  simp only [Option.any_none, Bool.not_true, Bool.false_eq_true, if_false, hfits, hwith]
  exact ⟨_, rfl⟩

end Token

lemma TokenBuilder.new_ok {environment : Environment} {service : Service} {builder : TokenBuilder}
    (h : TokenBuilder.new environment service = .ok builder) :
    ∃ ttl : ℤ, builder = ⟨service, .absent, [], [], .int ttl, .null⟩ := by
  unfold TokenBuilder.new at h
  cases ht : environment.readTokenTtl with
  | error failure =>
    rw [ht] at h
    cases h
  | ok ttl =>
    rw [ht] at h
    exact ⟨ttl, (Except.ok.inj h).symm⟩

/-- With a key and its times, a token is what is issued for the claims. -/
lemma TokenBuilder.create_of_expiration_ok {builder : TokenBuilder} {world : World} {now : ℤ}
    {expiration : Json} (hkey : builder.key ≠ .absent) (hclock : world.clock.whole = .ok now)
    (hexp : builder.expiration now = .ok expiration) :
    builder.create world = builder.issue (Token.override
      (builder.defaultClaims now expiration world.takeTokenId.1) builder.claims)
      world.takeTokenId.2 := by
  rw [create, if_neg hkey, hclock]
  dsimp only
  rw [hexp]

/-- A builder makes a token, if the times can be read, its claims can be signed, and nothing stands
against the extensions that the header calls critical. -/
lemma TokenBuilder.exists_create {builder : TokenBuilder} {world : World} {now : ℤ}
    {expiration : Json} {value : String} (hkey : builder.key ≠ .absent)
    (hclock : world.clock.whole = .ok now) (hexp : builder.expiration now = .ok expiration)
    (hsign : Token.sign world.takeTokenId.2.signer builder.key builder.headerParameters
      (Token.override (builder.defaultClaims now expiration world.takeTokenId.1) builder.claims) =
        .ok value)
    (hcritical : Token.checkCritical ((Token.readHeader? value).getD []) = .ok ()) :
    ∃ token, (builder.create world).1 = .ok token := by
  rw [create_of_expiration_ok hkey hclock hexp, issue]
  simp only [hsign, hcritical]
  exact ⟨_, rfl⟩

/-- A builder with such header parameters makes a token, if its key is large enough, its claims name
no issuer and can be written, and the times can be read. -/
lemma TokenBuilder.exists_create_of_bound {builder : TokenBuilder} {key : Rsa.PrivateKey}
    {url keyId : String} {world : World} {now : ℤ} {expiration : Json}
    (hkey : builder.key = .rsa key) (hsize : 62 ≤ key.publicKey.size)
    (hparams : builder.headerParameters = Token.boundParameters url keyId)
    (hclock : world.clock.whole = .ok now) (hexp : builder.expiration now = .ok expiration)
    (hissuer : (Token.override (builder.defaultClaims now expiration world.takeTokenId.1)
      builder.claims).lookup ClaimName.issuer = none)
    (hwritable : (Json.object (Token.override
      (builder.defaultClaims now expiration world.takeTokenId.1) builder.claims)).isWritable =
        true) :
    ∃ token, (builder.create world).1 = .ok token := by
  have hknown : Token.algorithmOf (Token.chosenAlgorithm (Token.boundParameters url keyId)) =
      .ok ("RS256", .signs (.plain .sha256)) := rfl
  obtain ⟨value, hsign⟩ := Token.exists_sign world.takeTokenId.2.signer hknown hsize
    (Token.headerFor_bound url keyId) rfl hissuer hwritable
  obtain ⟨sorted, hread, hlookup⟩ := Token.readHeader?_bound hsign
  rw [← hkey, ← hparams] at hsign
  refine exists_create (by rw [hkey]; simp) hclock hexp hsign ?_
  rw [hread, Option.getD_some]
  unfold Token.checkCritical
  rw [hlookup]
  rfl

namespace Binding
variable {clientId : Json} {key : Rsa.PrivateKey} {url keyId : String} {builder : TokenBuilder}
  {environment : Environment} {service : Service} {world : World}

lemma create_ok {token : Token} (hnew : TokenBuilder.new environment service = .ok builder)
    (h : (((⟨clientId, .rsa key, .string url, .string keyId⟩ : Binding).apply builder).create
      world).1 = .ok token) :
    token.jwksUrl = .string url ∧ token.keyId = .string keyId ∧
      token.headers.lookup HeaderName.algorithm = some (.string Token.defaultAlgorithm) ∧
      (key.IsValid → token.isSignedBy key.publicKey = true) := by
  obtain ⟨_, _, -, -, -, hsign, hheaders⟩ := TokenBuilder.create_ok h
  obtain ⟨ttl, rfl⟩ := TokenBuilder.new_ok hnew
  have hbound : Token.sign world.takeTokenId.2.signer (.rsa key) (Token.boundParameters url keyId)
      token.claims = .ok token.value := hsign
  obtain ⟨sorted, hread, hlookup⟩ := Token.readHeader?_bound hbound
  obtain rfl : token.headers = sorted := by rw [hheaders, hread]; rfl
  refine ⟨?_, ?_, hlookup _, fun hv => Token.isSignedBy_of_sign hv rfl rfl hbound⟩
  · rw [Token.jwksUrl, hlookup]
    rfl
  · rw [Token.keyId, hlookup]
    rfl

/-- A new builder with such a binding makes a token, if the clock can be read, the key is large
enough and the numbers in it can be written. -/
lemma exists_create {ttl now : ℤ} (hsize : 62 ≤ key.publicKey.size)
    (hclock : world.clock.whole = .ok now) (hclient : clientId.isWritable = true)
    (hnow : Number.isWritable now = true) (hlater : Number.isWritable (now + ttl) = true) :
    ∃ token, (((⟨clientId, .rsa key, .string url, .string keyId⟩ : Binding).apply
      ⟨service, .absent, [], [], .int ttl, .null⟩).create world).1 = .ok token := by
  have hexp : ((⟨clientId, .rsa key, .string url, .string keyId⟩ : Binding).apply
      ⟨service, .absent, [], [], .int ttl, .null⟩).expiration now = .ok (.int (now + ttl)) := by
    cases clientId <;> rfl
  have hparams : ((⟨clientId, .rsa key, .string url, .string keyId⟩ : Binding).apply
      ⟨service, .absent, [], [], .int ttl, .null⟩).headerParameters =
        Token.boundParameters url keyId := by
    cases clientId <;> rfl
  refine TokenBuilder.exists_create_of_bound ?_ hsize hparams hclock hexp ?_ ?_
  · cases clientId <;> rfl
  · cases clientId <;> cases service <;> rfl
  · rw [Json.isWritable_object, List.all_eq_true]
    refine TokenBuilder.forall_claims (P := fun value => value.isWritable = true)
      (fun field hfield => ?_) hnow hlater fun text => rfl
    rcases TokenBuilder.mem_setOrErase hfield with hnone | hvalue
    · cases hnone
    · rw [hvalue]
      exact hclient

end Binding

lemma MockServer.handle_tokenKeys {mock : MockServer} {body : String}
    (h : mock.stubs.find? "GET" Endpoints.tokenKeysPath =
      some ⟨"GET", Endpoints.tokenKeysPath, body, 200, "application/json"⟩) (world : World) :
    (mock.handle (Http.Request.ofTarget "GET" Endpoints.tokenKeysPath) world).1 =
      .ok (Http.response 200 body "application/json") := by
  set request := Http.Request.ofTarget "GET" Endpoints.tokenKeysPath with hrequest
  have hdestination : request.destination = .stubs := by rfl
  have hpath : String.ofList request.shownPath = Endpoints.tokenKeysPath := by rfl
  have hquery : String.ofList request.shownQuery = "" := by rfl
  have hmethod : request.method = "GET" := by rfl
  have hheader : Http.isHeaderText (Http.typeWithCharset "application/json") = true := by rfl
  have hresponse : stubResponse ⟨"GET", Endpoints.tokenKeysPath, body, 200, "application/json"⟩ =
      .ok (Http.response 200 body "application/json") := by
    simp [stubResponse, Http.response, hheader]
  have hfound : mock.stubs.answer? "GET" Endpoints.tokenKeysPath "" =
      some ⟨"GET", Endpoints.tokenKeysPath, body, 200, "application/json"⟩ := h
  simp only [handle, hdestination, respond, hpath, hquery, hmethod, hfound, hresponse]
  rfl

namespace KeySet

/-- The entries of a published document for a key id. -/
def entriesFor? (document : String) (keyId : Json) : Option (List Json) :=
  match (Json.parse? document.toList).bind (·.get? "keys") with
  | some (.array entries) => some (entries.filter fun entry => match entry.get? "kid", keyId with
    | some (.string name), .string keyId => name = keyId
    | _, _ => false)
  | _ => none

lemma isPlain_encodedPublicKeyText (keys : KeyPair) : IsPlain keys.encodedPublicKeyText.toList := by
  have hall : ∀ n : Fin 64, Base64.character .standard n ≠ '"' ∧
      Base64.character .standard n ≠ '\\' ∧ 0x20 ≤ (Base64.character .standard n).toNat := by decide
  intro c hc
  rw [KeyPair.encodedPublicKeyText, String.toList_ofList] at hc
  rcases Base64.mem_encode hc with ⟨n, rfl⟩ | rfl
  · exact hall n
  · decide

/-- The published document has exactly one entry for its key id, and this holds the public key. -/
theorem entriesFor?_document {keyId : String} (hplain : IsPlain keyId.toList)
    (hmark : ¬ publicKeyMark.toList <:+: keyId.toList) (keys : KeyPair) :
    entriesFor? (document keys keyId) (.string keyId) =
      some [entryOf keyId keys.encodedPublicKeyText] := by
  have hkid : (entryOf keyId keys.encodedPublicKeyText).get? "kid" = some (.string keyId) := rfl
  have hparse : Json.parse? (document keys keyId).toList = some (.object
      [("keys", .array [entryOf keyId keys.encodedPublicKeyText])]) :=
    parse?_documentOf hmark hplain (isPlain_encodedPublicKeyText keys)
  have hkeys : (Json.object [("keys", .array [entryOf keyId keys.encodedPublicKeyText])]).get?
      "keys" = some (.array [entryOf keyId keys.encodedPublicKeyText]) := rfl
  rw [entriesFor?, hparse, Option.bind_some, hkeys]
  exact congrArg some (List.filter_cons_of_pos (by simp [hkid]))

end KeySet

lemma Harness.keySetStub_ok {port : ℕ} {keys : KeyPair} {keyId : String} {stub : Stub}
    (h : keySetStub (Endpoints.below (localUrl port)).jwksUri (.pair keys) keyId = .ok stub) :
    stub =
      ⟨"GET", Endpoints.tokenKeysPath, KeySet.document keys keyId, 200, "application/json"⟩ := by
  have hh := (Except.ok.inj h).symm
  rwa [Endpoints.pathOf_jwksUri] at hh

/-- A token can be made whenever its lifetime and the clock can be read, the numbers in it can be
written and the key is large enough to sign it. -/
theorem Harness.exists_createToken {harness : Harness} {world : World} {keys : KeyPair}
    (hset : (harness.setup world).result = .ok ()) (hkeys : harness.keys = .pair keys)
    (hsize : 62 ≤ keys.publicKey.size) (after : MockServer) {later : World} {ttl now : ℤ}
    (httl : later.environment.readTokenTtl = .ok ttl) (hclock : later.clock.whole = .ok now)
    (hnow : Number.isWritable now = true) (hlater : Number.isWritable (now + ttl) = true) :
    ∃ token, ({ (harness.setup world).self with mockServer := some after }.createToken later).1 =
      .ok token := by
  obtain ⟨-, appHost, port, thread, endpoints, stub, _, _, -, -, -, hself⟩ := setup_of_ok hset
  have hkey : signingKey harness.keys = .rsa keys.privateKey := by rw [hkeys]; rfl
  have hclient : (optionalJson harness.config.clientId).isWritable = true := by
    cases harness.config.clientId <;> rfl
  have hnew : TokenBuilder.new later.environment harness.config.service =
      .ok ⟨harness.config.service, .absent, [], [], .int ttl, .null⟩ := by
    unfold TokenBuilder.new
    rw [httl]
    rfl
  obtain ⟨token, htoken⟩ : ∃ token, (((harness.bindingTo endpoints).apply
      ⟨harness.config.service, .absent, [], [], .int ttl, .null⟩).create later).1 = .ok token := by
    rw [bindingTo, hkey]
    exact Binding.exists_create hsize hclock hclient hnow hlater
  have hbuilder : { (harness.setup world).self with mockServer := some after }.tokenBuilder later =
      .ok ((harness.bindingTo endpoints).apply
        ⟨harness.config.service, .absent, [], [], .int ttl, .null⟩) := by
    rw [hself]
    unfold tokenBuilder Binding.createBuilder
    simp only [hnew]
    rfl
  refine ⟨token, ?_⟩
  unfold createToken
  rw [hbuilder]
  simp only
  split
  · next failure world' hh =>
    rw [hh] at htoken
    cases htoken
  · next made world' hh =>
    rw [hh] at htoken
    exact htoken

/-- Every token of a harness that has been set up is verified by what a request for the address in
its header is answered with, whatever happened to the mock server in between. -/
theorem Harness.createToken_verifies {harness : Harness} {world : World} {keys : KeyPair}
    {mock after : MockServer} (hset : (harness.setup world).result = .ok ())
    (hkeys : harness.keys = .pair keys) (hvalid : keys.privateKey.IsValid)
    (hplain : KeySet.IsPlain harness.config.keyId.toList)
    (hmark : ¬ KeySet.publicKeyMark.toList <:+: harness.config.keyId.toList)
    (hmock : (harness.setup world).self.mockServer = some mock)
    (huses : MockServer.Uses (fun stub => stub.isFor "GET" Endpoints.tokenKeysPath = false)
      mock after)
    {later last : World} {token : Token}
    (htoken : ({ (harness.setup world).self with mockServer := some after }.createToken later).1 =
      .ok token) :
    ∃ url response, token.jwksUrl = .string url ∧
      (after.handle (Http.Request.ofTarget "GET" (String.ofList (Http.pathOf url.toList))) last).1 =
        .ok response ∧
      response.status = 200 ∧
      ∃ entry text, KeySet.entriesFor? response.body token.keyId = some [entry] ∧
        entry.get? "value" = some (.string (KeySet.armoured text)) ∧
        Base64.decode? .standard text.toList = some keys.encodedPublicKey ∧
        token.headers.lookup HeaderName.algorithm = some (.string "RS256") ∧
        token.isSignedBy keys.publicKey = true := by
  obtain ⟨-, appHost, port, thread, endpoints, stub, first, _, hres, hstub, -, hself⟩ :=
    setup_of_ok hset
  obtain rfl := Endpoints.resolve_localUrl hres
  rw [hkeys] at hstub
  obtain rfl := keySetStub_ok hstub
  rw [hself] at hmock htoken
  obtain rfl := Option.some.inj hmock
  obtain ⟨-, binding, builder, hbinding, hnew, hmade⟩ := createToken_ok htoken
  obtain rfl := Option.some.inj hbinding
  have hkey : signingKey harness.keys = .rsa keys.privateKey := by rw [hkeys]; rfl
  rw [bindingTo, hkey] at hmade
  obtain ⟨hurl, hkid, halg, hsigned⟩ := Binding.create_ok hnew hmade
  have hfound : after.stubs.find? "GET" Endpoints.tokenKeysPath =
      some ⟨"GET", Endpoints.tokenKeysPath, KeySet.document keys harness.config.keyId, 200,
        "application/json"⟩ := by
    rw [MockServer.find?_of_uses huses]
    exact List.find?_cons_of_pos (by simp [Stub.isFor])
  have hentries := KeySet.entriesFor?_document hplain hmark keys
  refine ⟨_, Http.response 200 (KeySet.document keys harness.config.keyId) "application/json",
    hurl, ?_, rfl, KeySet.entryOf harness.config.keyId keys.encodedPublicKeyText,
    keys.encodedPublicKeyText, ?_, rfl, ?_, halg, hsigned hvalid⟩
  · rw [Endpoints.pathOf_jwksUri]
    exact MockServer.handle_tokenKeys hfound last
  · rw [hkid]
    exact hentries
  · rw [KeyPair.encodedPublicKeyText, String.toList_ofList]
    exact Base64.decode?_encode Base64.Alphabet.standard_isProper _

/-- A valid key whose primes are Mersenne primes. -/
def Rsa.mersenneKey : Rsa.PrivateKey where
  modulus := mersenne 521 * mersenne 127
  publicExponent := 65537
  privateExponent :=
    (19390076755803207193763648702145211 * 10 ^ 80 +
      74489102873122789712078002834256447811360788873301504571371534352732590663646246) * 10 ^ 80 +
      85827854923748501752122182388647400968388233585136878839649485385373845435689473
  prime1 := mersenne 521
  prime2 := mersenne 127
  exponent1 := 0
  exponent2 := 0
  coefficient := 0

lemma Rsa.mersenneKey_isValid : Rsa.mersenneKey.IsValid where
  prime1 := by
    change (mersenne 521).Prime
    exact lucas_lehmer_sufficiency 521 (by simp) (by norm_num)
  prime2 := by
    change (mersenne 127).Prime
    exact lucas_lehmer_sufficiency 127 (by simp) (by norm_num)
  distinct := by decide +kernel
  modulus := by decide +kernel
  inverse := by decide +kernel

/-- A harness with that key, before its set-up. -/
def Harness.mersenne : Harness where
  config := ⟨.xsuaa, 0, false, none, 44195, some "client", "key-1"⟩
  keys := .pair ⟨Rsa.mersenneKey⟩

lemma Harness.mersenne_setup : (mersenne.setup {}).result = .ok () := by rfl

lemma Harness.exists_mersenne_mock :
    ∃ mock, (mersenne.setup {}).self.mockServer = some mock := by
  obtain ⟨-, _, _, _, _, _, _, _, -, -, -, hself⟩ := setup_of_ok mersenne_setup
  rw [hself]
  exact ⟨_, rfl⟩

/-- Once it is set up it makes tokens, whatever was done to its mock server. -/
lemma Harness.exists_mersenne_token (after : MockServer) : ∃ token,
    ({ (mersenne.setup {}).self with mockServer := some after }.createToken {}).1 = .ok token :=
  exists_createToken mersenne_setup rfl (by decide +kernel) after
    (show ({} : World).environment.readTokenTtl = .ok 3600 from rfl)
    (show ({} : World).clock.whole = .ok 1700000000 from rfl) (by decide +kernel)
    (by decide +kernel)

/-- The harness is set up in the empty world, and its tokens are verified by its key set. -/
theorem Harness.mersenne_createToken_verifies : ∃ mock token url response,
    (mersenne.setup {}).self.mockServer = some mock ∧
    ({ (mersenne.setup {}).self with mockServer := some mock.resetRequests }.createToken {}).1 =
      .ok token ∧
    token.jwksUrl = .string url ∧
    (mock.resetRequests.handle (Http.Request.ofTarget "GET"
      (String.ofList (Http.pathOf url.toList))) {}).1 = .ok response ∧
    response.status = 200 ∧ token.isSignedBy Rsa.mersenneKey.publicKey = true := by
  have hkeys : mersenne.keys = .pair ⟨Rsa.mersenneKey⟩ := rfl
  have hplain : KeySet.IsPlain mersenne.config.keyId.toList := by
    intro c hc
    have hlist : mersenne.config.keyId.toList = ['k', 'e', 'y', '-', '1'] := by decide +kernel
    rw [hlist] at hc
    simp only [List.mem_cons, List.not_mem_nil, or_false] at hc
    rcases hc with rfl | rfl | rfl | rfl | rfl <;> decide
  have hmark : ¬ KeySet.publicKeyMark.toList <:+: mersenne.config.keyId.toList := by
    decide +kernel
  obtain ⟨mock, hmock⟩ := exists_mersenne_mock
  obtain ⟨token, htoken⟩ := exists_mersenne_token mock.resetRequests
  obtain ⟨url, response, hurl, hanswer, hstatus, _, _, -, -, -, -, hsigned⟩ :=
    createToken_verifies mersenne_setup hkeys Rsa.mersenneKey_isValid hplain hmark hmock
      (Relation.ReflTransGen.single (.resetRequests mock)) htoken
  exact ⟨mock, token, url, response, hmock, htoken, hurl, hanswer, hstatus, hsigned⟩

end MockIssuer
