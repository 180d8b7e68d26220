import MockIssuer.Proofs.ClaimHistory
import MockIssuer.Proofs.JsonValues

/-!
# What a token carries

A builder that was given regular values has regular claims and header parameters, and what signing
adds to them is regular as well. So both texts that go into a token are legible: the claims that are
read back from its second segment are those that it reports, and the same holds of the header in the
first one (`create_carries`).
-/
namespace MockIssuer

namespace Json

lemma isRegular_object_iff {fields : Fields} : (Json.object fields).IsRegular ↔
    (fields.map Prod.fst).Nodup ∧ ∀ field ∈ fields, field.2.IsRegular := by
  constructor
  · rintro (_ | _ | _ | _ | _ | _ | ⟨hn, hf⟩)
    exact ⟨hn, hf⟩
  · rintro ⟨hn, hf⟩
    exact .object hn hf

lemma isRegular_array_iff {items : List Json} :
    (Json.array items).IsRegular ↔ ∀ item ∈ items, item.IsRegular := by
  constructor
  · rintro (_ | _ | _ | _ | _ | hi)
    exact hi
  · exact .array

namespace IsRegular
variable {name : String} {value : Json} {fields changes : Fields}

lemma of_lookup (h : (Json.object fields).IsRegular) (hl : fields.lookup name = some value) :
    value.IsRegular := by
  obtain ⟨before, after, rfl, -⟩ := List.lookup_eq_some_iff.1 hl
  exact (isRegular_object_iff.1 h).2 (name, value) (by simp)

lemma upsert (h : (Json.object fields).IsRegular) (name : String) (hv : value.IsRegular) :
    (Json.object (Json.upsert name value fields)).IsRegular := by
  obtain ⟨hn, hf⟩ := isRegular_object_iff.1 h
  refine isRegular_object_iff.2 ⟨?_, fun field hfield => ?_⟩
  · rw [keys_upsert]
    split_ifs with hmem
    · exact hn
    · exact List.concat_eq_append ▸ hn.concat hmem
  · rcases mem_upsert hfield with hold | hnew
    · exact hf field hold
    · rw [hnew]
      exact hv

lemma erase (h : (Json.object fields).IsRegular) :
    (Json.object (Json.erase name fields)).IsRegular := by
  obtain ⟨hn, hf⟩ := isRegular_object_iff.1 h
  refine isRegular_object_iff.2 ⟨?_, fun field hfield => hf field (List.mem_filter.1 hfield).1⟩
  rw [keys_erase]
  exact hn.filter _

lemma override (h : (Json.object fields).IsRegular)
    (hc : ∀ change ∈ changes, change.2.IsRegular) :
    (Json.object (Token.override fields changes)).IsRegular := by
  induction changes generalizing fields with
  | nil => exact h
  | cons change rest ih =>
    exact ih (h.upsert change.1 (hc change List.mem_cons_self))
      fun other hother => hc other (List.mem_cons_of_mem _ hother)

end IsRegular

end Json

namespace Number.Binary64

lemma isNaN_ofMagnitude (negative : Bool) (bits : ℕ) :
    (ofMagnitude negative bits).isNaN = false := by
  unfold ofMagnitude
  split_ifs with h
  · have hfinite : bits / fractionSize ≠ 2047 := by omega
    simp [isNaN, isFinite, hfinite]
  · rfl

lemma isNaN_ofRatio (negative : Bool) (num den : ℕ) :
    (ofRatio negative num den).isNaN = false := by
  unfold ofRatio
  split_ifs
  · rfl
  · exact isNaN_ofMagnitude _ _

/-- A sum that is no number is the one that stands for all of them. -/
lemma eq_nan_of_isNaN_add {x y : Binary64} (h : (x.add y).isNaN = true) : x.add y = nan := by
  unfold add at h ⊢
  dsimp only at h ⊢
  split_ifs at h ⊢ with hnan hx hopposite hy hzero
  · rfl
  · rfl
  · rw [Bool.or_eq_true, not_or] at hnan
    exact absurd h hnan.1
  · rw [Bool.or_eq_true, not_or] at hnan
    exact absurd h hnan.2
  · cases h
  · rw [isNaN_ofRatio] at h
    cases h

end Number.Binary64

namespace Token
variable {headers header : Json.Fields}

lemma isRegular_chosenAlgorithm (h : (Json.object headers).IsRegular) :
    (chosenAlgorithm headers).IsRegular := by
  unfold chosenAlgorithm
  cases hl : headers.lookup HeaderName.algorithm with
  | none => exact .string _
  | some value =>
    dsimp only
    split_ifs
    · exact .string _
    · exact h.of_lookup hl

lemma isRegular_withDefaults (h : (Json.object headers).IsRegular) :
    (Json.object (withDefaults headers)).IsRegular := by
  have hfull : (Json.object (override [(HeaderName.type, .string "JWT"),
      (HeaderName.algorithm, chosenAlgorithm headers)] headers)).IsRegular := by
    refine Json.IsRegular.override ?_ (Json.isRegular_object_iff.1 h).2
    refine Json.isRegular_object_iff.2 ⟨by simp [HeaderName.type, HeaderName.algorithm], ?_⟩
    simp only [List.forall_mem_cons]
    exact ⟨.string _, isRegular_chosenAlgorithm h, by simp⟩
  unfold withDefaults
  dsimp only
  split
  · split_ifs
    · exact hfull.erase
    · exact hfull
  · exact hfull

lemma isRegular_withCritical {full : Json.Fields} (h : (Json.object full).IsRegular)
    (hh : withCritical full = .ok header) : (Json.object header).IsRegular := by
  have hmarked := h.upsert HeaderName.unencoded (.bool false)
  unfold withCritical at hh
  dsimp only at hh
  split at hh
  · obtain rfl := Except.ok.inj hh
    exact hmarked.upsert HeaderName.critical (.array (by simpa using .string _))
  · next items hl =>
    have hitems := Json.isRegular_array_iff.1 (hmarked.of_lookup hl)
    split_ifs at hh
    · obtain rfl := Except.ok.inj hh
      exact hmarked
    · obtain rfl := Except.ok.inj hh
      refine hmarked.upsert HeaderName.critical (.array ?_)
      rw [List.forall_mem_append]
      exact ⟨hitems, by simpa using .string _⟩
  · cases hh

lemma isRegular_headerFor (h : (Json.object headers).IsRegular)
    (hh : headerFor headers = .ok header) : (Json.object header).IsRegular := by
  unfold headerFor at hh
  split_ifs at hh
  · exact isRegular_withCritical (isRegular_withDefaults h) hh
  · obtain rfl := Except.ok.inj hh
    exact (isRegular_withDefaults h).erase

lemma asciiBytes_lt {text : List Char} (ha : ∀ c ∈ text, c.toNat < 0x80) :
    ∀ byte ∈ asciiBytes text, byte.toNat < 0x80 :=
  Bytes.lt_of_mem_map ha

lemma parse?_asciiBytes {fields : Json.Fields} (h : (Json.object fields).IsRegular) :
    Json.parse? (asciiBytes ((Json.object fields).print .compactAscii)).toChars =
      some (.object fields) := by
  rw [toChars_asciiBytes h.isLegible.ascii]
  exact Json.parse?_print h.isLegible

/-- Only one value of the parameter asks for claims that are signed as they are. -/
lemma isUnencoded_eq_false_iff : isUnencoded headers = false ↔
    headers.lookup HeaderName.unencoded ≠ some (.bool false) := by
  unfold isUnencoded
  split
  · next hasked => simp [hasked]
  · next hnot => simpa using hnot

/-- The fields that the first segment of a token holds are those of its header in order. -/
lemma readHeader?_of_sign {signer : Signer} {key : SigningKey} {claims : Json.Fields}
    {value : String} (h : (Json.object headers).IsRegular)
    (hs : sign signer key headers claims = .ok value) :
    ∃ header, headerFor headers = .ok header ∧
      (Json.object (Json.sortedFields header)).IsRegular ∧
      headerText header = (Json.object (Json.sortedFields header)).print .compactAscii ∧
      readHeader? value = some (Json.sortedFields header) := by
  obtain ⟨header, signature, hheader, -, hvalue⟩ := sign_eq_ok hs
  have hsorted := (isRegular_headerFor h hheader).sortKeys
  rw [Json.sortKeys_object_eq] at hsorted
  have htext : headerText header =
      (Json.object (Json.sortedFields header)).print .compactAscii := by
    rw [headerText, Json.sortKeys_object_eq]
  refine ⟨header, hheader, hsorted, htext, ?_⟩
  rw [hvalue, List.append_assoc, List.cons_append, htext]
  exact readHeader?_segment hsorted.isLegible.ascii (Json.parse?_print hsorted.isLegible)

end Token

namespace TokenBuilder

/-- A call whose values are regular. A key and a lifetime are not written into a token as they
are. -/
def Call.IsRegular : Call → Prop
  | withClaim _ value => value.IsRegular
  | withHeader _ value => value.IsRegular
  | withScopes scopes => ∀ scope ∈ scopes, scope.IsRegular
  | withExpiresAt time => time.IsRegular
  | _ => True

/-- A builder whose values are regular. -/
structure IsRegular (builder : TokenBuilder) : Prop where
  claims : (Json.object builder.claims).IsRegular
  headers : (Json.object builder.headers).IsRegular
  expiresAt : builder.expiresAt.IsRegular

lemma isRegular_setOrErase {name : String} {value : Json} {fields : Json.Fields}
    (h : (Json.object fields).IsRegular) (hv : value.IsRegular) :
    (Json.object (setOrErase name value fields)).IsRegular := by
  unfold setOrErase
  split
  · exact h.erase
  · exact h.upsert name hv

namespace IsRegular
variable {builder : TokenBuilder}

lemma apply (h : builder.IsRegular) {call : Call} (hc : call.IsRegular) :
    (call.apply builder).IsRegular := by
  obtain ⟨hclaims, hheaders, htime⟩ := h
  cases call with
  | withKey key => exact ⟨hclaims, hheaders, htime⟩
  | withClaim name value => exact ⟨isRegular_setOrErase hclaims hc, hheaders, htime⟩
  | withHeader name value => exact ⟨hclaims, isRegular_setOrErase hheaders hc, htime⟩
  | withScopes scopes => exact ⟨hclaims.upsert ClaimName.scopes (.array hc), hheaders, htime⟩
  | withTtl ttl => exact ⟨hclaims, hheaders, .null⟩
  | withExpiresAt time => exact ⟨hclaims, hheaders, hc⟩
  | create => exact ⟨hclaims, hheaders, htime⟩

lemma run (h : builder.IsRegular) {calls : List Call} (hc : ∀ call ∈ calls, call.IsRegular) :
    (builder.run calls).IsRegular := by
  induction calls generalizing builder with
  | nil => exact h
  | cons call rest ih =>
    exact ih (h.apply (hc call List.mem_cons_self))
      fun other hother => hc other (List.mem_cons_of_mem _ hother)

lemma headerParameters (h : builder.IsRegular) :
    (Json.object builder.headerParameters).IsRegular := by
  refine Json.IsRegular.override ?_ (Json.isRegular_object_iff.1 h.headers).2
  exact Json.isRegular_object_iff.2 ⟨by simp, by simpa using .string _⟩

lemma expiration (h : builder.IsRegular) {issuedAt : ℤ} {expiration : Json}
    (he : builder.expiration issuedAt = .ok expiration) : expiration.IsRegular := by
  unfold TokenBuilder.expiration at he
  split at he
  · unfold addTtl at he
    split at he
    · obtain rfl := Except.ok.inj he
      exact .int _
    · obtain rfl := Except.ok.inj he
      exact .int _
    · next x =>
      cases hstart : realOfInt issuedAt with
      | error failure =>
        rw [hstart] at he
        cases he
      | ok start =>
        rw [hstart] at he
        obtain rfl := Except.ok.inj he
        exact .float Number.Binary64.eq_nan_of_isNaN_add
    · cases he
  · obtain rfl := Except.ok.inj he
    exact h.expiresAt

lemma defaultClaims (h : builder.IsRegular) (issuedAt : ℤ) {expiration : Json}
    (he : expiration.IsRegular) (tokenId : String) :
    (Json.object (builder.defaultClaims issuedAt expiration tokenId)).IsRegular := by
  refine Json.isRegular_object_iff.2 ⟨?_, forall_defaultClaims
    (Json.isRegular_object_iff.1 h.claims).2 (.int _) he fun text => .string text⟩
  unfold TokenBuilder.defaultClaims clientClaims
  cases builder.service with
  | ias => simp [ClaimName.issuedAt, ClaimName.expiration, ClaimName.tokenId]
  | xsuaa =>
    dsimp only
    split <;>
      simp [ClaimName.issuedAt, ClaimName.expiration, ClaimName.tokenId, ClaimName.grantType,
        ClaimName.authorizationParty]

lemma tokenClaims (h : builder.IsRegular) {world : World} {token : Token}
    (hc : (builder.create world).1 = .ok token) : (Json.object token.claims).IsRegular := by
  obtain ⟨issuedAt, expiration, -, hexpires, hclaims, -⟩ := create_ok hc
  rw [hclaims]
  exact (h.defaultClaims issuedAt (h.expiration hexpires) _).override
    (Json.isRegular_object_iff.1 h.claims).2

end IsRegular

lemma isRegular_of_new {environment : Environment} {service : Service} {first : TokenBuilder}
    (hnew : TokenBuilder.new environment service = .ok first) : first.IsRegular := by
  obtain ⟨ttl, rfl⟩ := new_ok hnew
  exact ⟨.object List.nodup_nil (by simp), .object List.nodup_nil (by simp), .null⟩

lemma lookup_headerParameters {builder : TokenBuilder} (h : builder.IsRegular) {name : String}
    (hname : name ≠ HeaderName.type) :
    builder.headerParameters.lookup name = builder.headers.lookup name := by
  have hne : (name == HeaderName.type) = false := by simpa using hname
  rw [headerParameters, Token.lookup_override (Json.isRegular_object_iff.1 h.headers).1]
  simp [List.lookup_cons, hne]

lemma isUnencoded_headerParameters {builder : TokenBuilder} (h : builder.IsRegular) :
    Token.isUnencoded builder.headerParameters = Token.isUnencoded builder.headers := by
  unfold Token.isUnencoded
  rw [lookup_headerParameters h (by decide)]

variable {environment : Environment} {service : Service} {first : TokenBuilder} {calls : List Call}
  {world : World} {token : Token}

/-- What a token is made of. A builder that was given any regular values, and no header parameter
that asks for claims that are signed as they are, makes tokens of three segments without padding.
The first one holds a text that reads back as the header that the token reports, the second one a
text that reads back as the claims that it reports, in the same order at every depth. -/
theorem create_carries (hnew : TokenBuilder.new environment service = .ok first)
    (hcalls : ∀ call ∈ calls, call.IsRegular)
    (hu : (first.run calls).headers.lookup HeaderName.unencoded ≠ some (.bool false))
    (h : ((first.run calls).create world).1 = .ok token) :
    ∃ first second third header claims signature,
      token.value.toList.splitOn '.' = [first, second, third] ∧
      Base64.decodeBare? .url first = some header ∧
      Base64.decodeBare? .url second = some claims ∧
      Base64.decodeBare? .url third = some signature ∧
      (∀ byte ∈ header ++ claims, byte.toNat < 0x80) ∧
      Json.parse? header.toChars = some (.object token.headers) ∧
      Json.parse? claims.toChars = some (.object token.claims) := by
  have hregular := (isRegular_of_new hnew).run hcalls
  have hunencoded : Token.isUnencoded (first.run calls).headerParameters = false := by
    rw [isUnencoded_headerParameters hregular, Token.isUnencoded_eq_false_iff.2 hu]
  have hclaims := hregular.tokenClaims h
  obtain ⟨-, -, -, -, -, hsign, hheaders⟩ := create_ok h
  obtain ⟨header, hheader, hsorted, htext, hread⟩ :=
    Token.readHeader?_of_sign hregular.headerParameters hsign
  obtain ⟨_, signature, hheader', -, hvalue⟩ := Token.sign_eq_ok hsign
  obtain rfl := Except.ok.inj (hheader.symm.trans hheader')
  rw [hread, Option.getD_some] at hheaders
  rw [hunencoded, if_neg (by simp), htext] at hvalue
  set headerBytes := Token.asciiBytes ((Json.object (Json.sortedFields header)).print .compactAscii)
  set claimsBytes := Token.asciiBytes (Token.claimsText token.claims) with hbytes
  refine ⟨Token.segment headerBytes, Token.segment claimsBytes, Token.segment signature,
    headerBytes, claimsBytes, signature, ?_, Token.decodeBare?_segment _,
    Token.decodeBare?_segment _, Token.decodeBare?_segment _, ?_, ?_, ?_⟩
  · rw [hvalue, String.toList_ofList]
    exact Token.splitOn_segments (Token.notMem_segment _) (Token.notMem_segment _)
      (Token.notMem_segment _)
  · rw [List.forall_mem_append]
    exact ⟨Token.asciiBytes_lt hsorted.isLegible.ascii, Token.asciiBytes_lt hclaims.isLegible.ascii⟩
  · rw [hheaders]
    exact Token.parse?_asciiBytes hsorted
  · rw [hbytes, Token.claimsText]
    exact Token.parse?_asciiBytes hclaims

/-- Calls with nested values, other scripts, a large integer and double-precision numbers. -/
def variedCalls : List Call :=
  [.withKey (.rsa Rsa.mersenneKey), .withHeader HeaderName.jwksUrl (.string "http://localhost"),
    .withHeader HeaderName.keyId (.string "key"),
    .withClaim "nested" (.array [
      .object [("ü😀", .int (-0x10000000000000000)), ("a", .object [])], .null, .string "\"\n",
      .bool true]),
    .withClaim "tenth" (.float (.ofDecimal false 1 (-1))), .withClaim "none" (.float .nan),
    .withScopes [.string "read"], .withTtl (.int 60)]

lemma isRegular_variedCalls : ∀ call ∈ variedCalls, call.IsRegular := by
  have hobject : (Json.object [("ü😀", .int (-0x10000000000000000)),
      ("a", .object [])]).IsRegular :=
    .object (by simp) (by simpa using ⟨.int _, .object List.nodup_nil (by simp)⟩)
  have harray : (Json.array [
      .object [("ü😀", .int (-0x10000000000000000)), ("a", .object [])], .null, .string "\"\n",
      .bool true]).IsRegular :=
    .array (by simpa using ⟨hobject, .null, .string _, .bool _⟩)
  simp only [variedCalls, List.forall_mem_cons]
  refine ⟨trivial, .string _, .string _, harray, .float (by decide), .float fun _ => rfl, ?_,
    trivial, by simp⟩
  simpa [Call.IsRegular] using .string _

lemma exists_create_variedCalls : ∃ first token, TokenBuilder.new {} .xsuaa = .ok first ∧
    ((first.run variedCalls).create {}).1 = .ok token := by
  have hnew : TokenBuilder.new {} .xsuaa =
      .ok ⟨.xsuaa, .absent, [], [], .int Environment.defaultTokenTtl, .null⟩ := rfl
  set first : TokenBuilder :=
    ⟨.xsuaa, .absent, [], [], .int Environment.defaultTokenTtl, .null⟩
  have hkey : (first.run variedCalls).key = .rsa Rsa.mersenneKey := rfl
  have hparams : (first.run variedCalls).headerParameters =
      Token.boundParameters "http://localhost" "key" := rfl
  have hexp : (first.run variedCalls).expiration 1700000000 = .ok (.int 1700000060) := rfl
  obtain ⟨token, htoken⟩ : ∃ token, ((first.run variedCalls).create {}).1 = .ok token :=
    exists_create_of_bound hkey (by decide +kernel) hparams rfl hexp rfl rfl
  exact ⟨first, token, hnew, htoken⟩

lemma headers_run_variedCalls {environment : Environment} {service : Service}
    {first : TokenBuilder} (hnew : TokenBuilder.new environment service = .ok first) :
    (first.run variedCalls).headers = [(HeaderName.jwksUrl, .string "http://localhost"),
      (HeaderName.keyId, .string "key")] := by
  obtain ⟨ttl, rfl⟩ := new_ok hnew
  rfl

/-- A token with all of them carries its claims. -/
theorem varied_claims : ∃ first token, TokenBuilder.new {} .xsuaa = .ok first ∧
    (∀ call ∈ variedCalls, call.IsRegular) ∧
    (first.run variedCalls).headers.lookup HeaderName.unencoded ≠ some (.bool false) ∧
    ((first.run variedCalls).create {}).1 = .ok token ∧
    ∃ first second third claims, token.value.toList.splitOn '.' = [first, second, third] ∧
      Base64.decodeBare? .url second = some claims ∧
      Json.parse? claims.toChars = some (.object token.claims) := by
  obtain ⟨first, token, hnew, htoken⟩ := exists_create_variedCalls
  have hu : (first.run variedCalls).headers.lookup HeaderName.unencoded ≠ some (.bool false) := by
    rw [headers_run_variedCalls hnew]
    simp [List.lookup_cons, HeaderName.unencoded, HeaderName.jwksUrl, HeaderName.keyId]
  obtain ⟨header, second, third, _, claims, _, hcut, -, hclaims, -, -, -, hback⟩ :=
    create_carries hnew isRegular_variedCalls hu htoken
  exact ⟨first, token, hnew, isRegular_variedCalls, hu, htoken, header, second, third, claims, hcut,
    hclaims, hback⟩

end TokenBuilder

end MockIssuer
