import MockIssuer.Proofs.HarnessLifecycle
import MockIssuer.Proofs.SignedTokens
import MockIssuer.Session.Action

/-!
# How making a token fails

Making a token is meant to fail in one way, whatever the builder was told: every value is taken as
it is and looked at only when a token is made. It does so for whatever the signature finds wrong.
Other failures come out as they are, since nobody handles them: a clock that shows no time, times
that cannot be added up, an algorithm that nobody knows, what the library raises beside its own
families on a key that is a text, and extensions that the header calls critical
(`create_unreported_iff`). The builder stays as it is in any case.
-/
namespace MockIssuer

/-- The values that a time can be added to. -/
def Json.isNumber : Json → Bool
  | .int _ | .bool _ | .float _ => true
  | _ => false

namespace Token
variable {signer : Signer} {key : SigningKey} {headers claims : Json.Fields} {failure : Failure}

/-- Algorithms that nobody knows: names without an entry, and values that are no names. Arrays and
objects are refused before they are looked up. -/
def IsUnknown : Json → Prop
  | .string name => algorithms.lookup name = none
  | .array _ | .object _ => False
  | _ => True

lemma algorithmOf_eq_unknownAlgorithm_iff {value : Json} :
    algorithmOf value = .error .unknownAlgorithm ↔ IsUnknown value := by
  cases value with
  | string name =>
    simp only [algorithmOf, IsUnknown]
    cases algorithms.lookup name <;> simp
  | array items => simp [algorithmOf, IsUnknown]
  | object fields => simp [algorithmOf, IsUnknown]
  | _ => simp [algorithmOf, IsUnknown]

/-- What is looked at before the signature: the issuer, the sizes of numbers, and the header. -/
structure IsPrepared (headers claims full : Json.Fields) : Prop where
  issuer : (claims.lookup ClaimName.issuer).any (!isString ·) = false
  writable : (Json.object claims).isWritable = true
  header : headerFor headers = .ok full
  fits : (Json.object full).isWritable = true

/-- The bytes that are signed then. -/
def signedBytes (headers claims full : Json.Fields) : Bytes :=
  asciiBytes (signingInput (headerText full) (claimsText claims) (isUnencoded headers))

/-- How a signature fails that is not reported as one: its algorithm is unknown, or its key is a text
on which the library raises something beside its own families. -/
inductive FailsOtherwise (signer : Signer) (key : SigningKey) (value : Json) (bytes : Bytes) :
    Failure → Prop
  | algorithm (hunknown : IsUnknown value) : FailsOtherwise signer key value bytes .unknownAlgorithm
  | library {text name : String} {algorithm : Algorithm} {cause : LibraryFailure}
    (hkey : key = .ofText text) (hknown : algorithmOf value = .ok (name, algorithm))
    (hraised : signer.signText text name bytes = .error cause)
    (hreported : isReported cause.family = false) :
    FailsOtherwise signer key value bytes (.foreign cause.family [.string cause.message])

lemma FailsOtherwise.family_ne {value : Json} {bytes : Bytes}
    (h : FailsOtherwise signer key value bytes failure) :
    failure.family ≠ "TokenGenerationError" := by
  cases h with
  | algorithm => decide
  | library hkey hknown hraised hreported =>
    next cause =>
    rw [family_foreign]
    intro hfamily
    have hoff := cause.isWithin_eq_false
    rw [hfamily] at hoff
    exact absurd hoff (by decide +kernel)

lemma signWith_eq_error_iff {value : Json} {input : List Char}
    (hfamily : failure.family ≠ "TokenGenerationError") :
    signWith signer key value input = .error failure ↔
      FailsOtherwise signer key value (asciiBytes input) failure := by
  have hsigning (fault : SigningFault) : Failure.signing fault ≠ failure := by
    rintro rfl
    exact hfamily rfl
  constructor
  · intro h
    unfold signWith at h
    split at h
    · next cause hknown =>
      obtain rfl := Except.error.inj h
      rcases algorithmOf_error hknown with ⟨fault, rfl⟩ | rfl
      · exact absurd rfl (hsigning fault)
      · exact .algorithm (algorithmOf_eq_unknownAlgorithm_iff.1 hknown)
    · next name algorithm hknown =>
      split at h
      · next text =>
        cases hraised : signer.signText text name (asciiBytes input) with
        | ok signature =>
          rw [hraised] at h
          cases h
        | error cause =>
          rw [hraised] at h
          have hcause : cause.toFailure = failure := Except.error.inj h
          unfold LibraryFailure.toFailure at hcause
          cases hreported : isReported cause.family with
          | true =>
            rw [hreported, if_pos rfl] at hcause
            exact absurd hcause (hsigning _)
          | false =>
            rw [hreported, if_neg Bool.false_ne_true] at hcause
            exact hcause ▸ .library rfl hknown hraised hreported
      · exact absurd (Except.error.inj h) (hsigning _)
      · split at h
        · cases h
        · exact absurd (Except.error.inj h) (hsigning _)
      · exact absurd (Except.error.inj h) (hsigning _)
      · exact absurd (Except.error.inj h) (hsigning _)
  · intro h
    unfold signWith
    cases h with
    | algorithm hunknown => rw [algorithmOf_eq_unknownAlgorithm_iff.2 hunknown]
    | library hkey hknown hraised hreported =>
      subst hkey
      simp only [hknown, hraised, Except.mapError, LibraryFailure.toFailure, hreported,
        Bool.false_eq_true, if_false]

/-- The failures of a token that are not reported as one. -/
lemma sign_eq_error_iff (hfamily : failure.family ≠ "TokenGenerationError") :
    sign signer key headers claims = .error failure ↔ ∃ full, IsPrepared headers claims full ∧
      FailsOtherwise signer key (chosenAlgorithm headers) (signedBytes headers claims full)
        failure := by
  have hsigning (fault : SigningFault) : Failure.signing fault ≠ failure := by
    rintro rfl
    exact hfamily rfl
  constructor
  · intro h
    unfold sign at h
    split at h
    · exact absurd (Except.error.inj h) (hsigning _)
    next hissuer =>
      split at h
      · exact absurd (Except.error.inj h) (hsigning _)
      next hwritable =>
        split at h
        · next hheader =>
          obtain ⟨_, rfl⟩ := headerFor_error hheader
          exact absurd (Except.error.inj h) (hsigning _)
        next full hheader =>
          split at h
          · exact absurd (Except.error.inj h) (hsigning _)
          next hfits =>
            dsimp only at h
            split at h
            · next hsign =>
              obtain rfl := Except.error.inj h
              refine ⟨full, ⟨?_, ?_, hheader, ?_⟩, (signWith_eq_error_iff hfamily).1 hsign⟩
              · simpa using hissuer
              · simpa using hwritable
              · simpa using hfits
            · cases h
  · rintro ⟨full, ⟨hissuer, hwritable, hheader, hfits⟩, hfails⟩
    unfold sign
    rw [hissuer, hwritable, hheader]
    simp only [Bool.not_true, Bool.false_eq_true, if_false, hfits,
      (signWith_eq_error_iff hfamily).2 hfails]

end Token

namespace Session
variable {session : Session} {value : Value} {object : SessionObject}

lemma object?_add (other : SessionObject) (h : session.object? value = some object) :
    (session.add other).2.object? value = some object := by
  have hkept (id : ObjectId) (old : SessionObject) (hold : session.objects[id]? = some old) :
      (session.objects ++ [other])[id]? = some old := by
    rw [List.getElem?_append_left (List.getElem?_eq_some_iff.1 hold).1, hold]
  unfold object? at h ⊢
  split at h
  · next id => exact hkept id object h
  · next other' => exact h
  · next owner part =>
    split at h
    · next harness keys origins hharness =>
      have hsame := hkept owner _ hharness
      simp only [add, hsame, h]
    · cases h
  · cases h

/-- Asking a builder for a token answers a new object or a failure, and every object that there was
stays as it was, the builder among them. -/
lemma perform?_createToken {builder : TokenBuilder}
    (h : session.object? value = some (.builder builder)) :
    ∃ after, session.perform? value .createToken = some ((builder.create session.world).1.map
        fun _ => .object session.objects.length, after) ∧
      ∀ other object, session.object? other = some object → after.object? other = some object := by
  have hperform : session.perform? value .createToken =
      some (session.tokenResult (builder.create session.world)) := by
    rw [perform?, h]
    rfl
  rw [hperform]
  obtain ⟨result, world⟩ := builder.create session.world
  cases result with
  | error failure => exact ⟨session.withWorld world, rfl, fun other object hobject => hobject⟩
  | ok token =>
    refine ⟨((session.withWorld world).add (.token token)).2, rfl, fun other object hobject => ?_⟩
    have hkept : (session.withWorld world).object? other = some object := hobject
    exact object?_add (.token token) hkept

end Session

namespace TokenBuilder
variable {builder : TokenBuilder} {world : World} {failure : Failure}

/-- Times cannot be added up if the lifetime is no number, or if it is a double-precision one and
the time of issue is too large to be one. -/
lemma expiration_eq_error_iff (issuedAt : ℤ) : builder.expiration issuedAt = .error failure ↔
    builder.expiresAt = .null ∧
      ((builder.ttl.isNumber = false ∧ .wrongType (.addition builder.ttl.typeWord) = failure) ∨
        ∃ x, builder.ttl = .float x ∧ (Number.Binary64.ofInt issuedAt).isFinite = false ∧
          .outOfRange .integerTooLarge = failure) := by
  have hadd : addTtl issuedAt builder.ttl = .error failure ↔
      (builder.ttl.isNumber = false ∧ .wrongType (.addition builder.ttl.typeWord) = failure) ∨
        ∃ x, builder.ttl = .float x ∧ (Number.Binary64.ofInt issuedAt).isFinite = false ∧
          .outOfRange .integerTooLarge = failure := by
    cases builder.ttl with
    | float x =>
      cases hfinite : (Number.Binary64.ofInt issuedAt).isFinite <;>
        simp [addTtl, realOfInt, hfinite, Json.isNumber, Except.map]
    | _ => simp [addTtl, Json.isNumber]
  unfold expiration
  cases builder.expiresAt with
  | null => simpa using hadd
  | _ => simp

/-- What stands in the way of a token that nobody turns into a failure of the token: each case with
the failure that comes out. -/
inductive IsUnreported (builder : TokenBuilder) (world : World) : Failure → Prop
  /-- The clock shows no time. -/
  | clock {failure : Failure} (hclock : world.clock.whole = .error failure) :
    IsUnreported builder world failure
  /-- No time of expiry was set, and the lifetime is no number. -/
  | lifetime {issuedAt : ℤ} (hclock : world.clock.whole = .ok issuedAt)
    (hexpires : builder.expiresAt = .null) (hnumber : builder.ttl.isNumber = false) :
    IsUnreported builder world (.wrongType (.addition builder.ttl.typeWord))
  /-- The lifetime has a fraction, and the time of issue is too large for one. -/
  | range {issuedAt : ℤ} {x : Number.Binary64} (hclock : world.clock.whole = .ok issuedAt)
    (hexpires : builder.expiresAt = .null) (hlifetime : builder.ttl = .float x)
    (hlarge : (Number.Binary64.ofInt issuedAt).isFinite = false) :
    IsUnreported builder world (.outOfRange .integerTooLarge)
  /-- Everything before the signature is in order, and it fails in a way that is not reported. -/
  | signature {issuedAt : ℤ} {expiration : Json} {claims header : Json.Fields} {failure : Failure}
    (hclock : world.clock.whole = .ok issuedAt)
    (hexpires : builder.expiration issuedAt = .ok expiration)
    (hclaims : claims = Token.override
      (builder.defaultClaims issuedAt expiration world.takeTokenId.1) builder.claims)
    (hprepared : Token.IsPrepared builder.headerParameters claims header)
    (hfails : Token.FailsOtherwise world.takeTokenId.2.signer builder.key
      (Token.chosenAlgorithm builder.headerParameters)
      (Token.signedBytes builder.headerParameters claims header) failure) :
    IsUnreported builder world failure
  /-- The token is signed, and its header calls something critical that is refused. -/
  | critical {issuedAt : ℤ} {expiration : Json} {value : String} {fault : CriticalFault}
    (hclock : world.clock.whole = .ok issuedAt)
    (hexpires : builder.expiration issuedAt = .ok expiration)
    (hsign : Token.sign world.takeTokenId.2.signer builder.key builder.headerParameters
      (Token.override (builder.defaultClaims issuedAt expiration world.takeTokenId.1)
        builder.claims) = .ok value)
    (hcritical : Token.checkCritical ((Token.readHeader? value).getD []) = .error fault) :
    IsUnreported builder world (.critical fault)

lemma IsUnreported.family_ne (h : builder.IsUnreported world failure) :
    failure.family ≠ "TokenGenerationError" := by
  cases h with
  | clock hclock =>
    unfold Clock.whole at hclock
    split at hclock
    · cases hclock
    · split at hclock
      · cases hclock
      · obtain rfl := Except.error.inj hclock
        decide
  | lifetime => simp [Failure.family]
  | range => decide
  | signature _ _ _ _ hfails => exact hfails.family_ne
  | critical => simp [Failure.family]

lemma create_of_absent (hkey : builder.key = .absent) :
    (builder.create world).1 = .error .noPrivateKey := by
  rw [create, if_pos hkey]

lemma issue_eq_error_iff {claims : Json.Fields} : (builder.issue claims world).1 = .error failure ↔
    Token.sign world.signer builder.key builder.headerParameters claims = .error failure ∨
      ∃ value fault,
        Token.sign world.signer builder.key builder.headerParameters claims = .ok value ∧
        Token.checkCritical ((Token.readHeader? value).getD []) = .error fault ∧
        .critical fault = failure := by
  unfold issue
  cases hsign : Token.sign world.signer builder.key builder.headerParameters claims with
  | error cause => cases cause <;> simp
  | ok value =>
    cases hcritical : Token.checkCritical ((Token.readHeader? value).getD []) <;>
      simp [hcritical]

lemma create_of_expiration_error (hkey : builder.key ≠ .absent) {issuedAt : ℤ}
    (hclock : world.clock.whole = .ok issuedAt)
    (hexpires : builder.expiration issuedAt = .error failure) :
    (builder.create world).1 = .error failure := by
  rw [create, if_neg hkey, hclock]
  dsimp only
  rw [hexpires]

/-- What comes out of making a token with a key is a failure of the token, unless it is one of the
above. -/
lemma create_eq_error_iff (hkey : builder.key ≠ .absent)
    (hfamily : failure.family ≠ "TokenGenerationError") :
    (builder.create world).1 = .error failure ↔ builder.IsUnreported world failure := by
  constructor
  · intro h
    cases hclock : world.clock.whole with
    | error cause =>
      rw [create, if_neg hkey, hclock] at h
      obtain rfl := Except.error.inj h
      exact .clock hclock
    | ok issuedAt =>
      cases hexpires : builder.expiration issuedAt with
      | error cause =>
        rw [create_of_expiration_error hkey hclock hexpires] at h
        obtain rfl := Except.error.inj h
        obtain ⟨hnull, ⟨hnumber, rfl⟩ | ⟨x, hlifetime, hlarge, rfl⟩⟩ :=
          (expiration_eq_error_iff issuedAt).1 hexpires
        · exact .lifetime hclock hnull hnumber
        · exact .range hclock hnull hlifetime hlarge
      | ok expiration =>
        rw [create_of_expiration_ok hkey hclock hexpires] at h
        rcases issue_eq_error_iff.1 h with hsign | ⟨value, fault, hsign, hcritical, rfl⟩
        · obtain ⟨header, hprepared, hfails⟩ := (Token.sign_eq_error_iff hfamily).1 hsign
          exact .signature hclock hexpires rfl hprepared hfails
        · exact .critical hclock hexpires hsign hcritical
  · intro h
    cases h with
    | clock hclock => rw [create, if_neg hkey, hclock]
    | lifetime hclock hnull hnumber =>
      exact create_of_expiration_error hkey hclock
        ((expiration_eq_error_iff _).2 ⟨hnull, Or.inl ⟨hnumber, rfl⟩⟩)
    | range hclock hnull hlifetime hlarge =>
      exact create_of_expiration_error hkey hclock
        ((expiration_eq_error_iff _).2 ⟨hnull, Or.inr ⟨_, hlifetime, hlarge, rfl⟩⟩)
    | signature hclock hexpires hclaims hprepared hfails =>
      subst hclaims
      rw [create_of_expiration_ok hkey hclock hexpires]
      exact issue_eq_error_iff.2
        (Or.inl ((Token.sign_eq_error_iff hfamily).2 ⟨_, hprepared, hfails⟩))
    | critical hclock hexpires hsign hcritical =>
      rw [create_of_expiration_ok hkey hclock hexpires]
      exact issue_eq_error_iff.2 (Or.inr ⟨_, _, hsign, hcritical, rfl⟩)

/-- How making a token ends, for a builder that was told anything at all. It makes a token, or it
fails with a failure of the token, or it has a key and something stands in the way that nobody turns
into such a failure; and that is what comes out then, and only then. In a session every object is
the same afterwards, whatever came out, and so is the builder. -/
theorem create_unreported_iff (first : TokenBuilder) (calls : List Call) (world : World) :
    ((∃ token, ((first.run calls).create world).1 = .ok token) ∨
      (∃ failure, ((first.run calls).create world).1 = .error failure ∧
        failure.family = "TokenGenerationError") ∨
      (first.run calls).key ≠ .absent ∧ ∃ failure, (first.run calls).IsUnreported world failure) ∧
    (∀ failure, (((first.run calls).create world).1 = .error failure ∧
      failure.family ≠ "TokenGenerationError") ↔
        (first.run calls).key ≠ .absent ∧ (first.run calls).IsUnreported world failure) ∧
    ∀ (session : Session) (target : Value), session.world = world →
      session.object? target = some (.builder (first.run calls)) →
      ∃ after, session.perform? target .createToken =
          some (((first.run calls).create world).1.map fun _ => .object session.objects.length,
            after) ∧
        ∀ other object, session.object? other = some object →
          after.object? other = some object := by
  have hiff (failure : Failure) : (((first.run calls).create world).1 = .error failure ∧
      failure.family ≠ "TokenGenerationError") ↔
        (first.run calls).key ≠ .absent ∧ (first.run calls).IsUnreported world failure := by
    constructor
    · rintro ⟨hcreate, hfamily⟩
      have hkey : (first.run calls).key ≠ .absent := by
        intro habsent
        rw [create_of_absent habsent] at hcreate
        obtain rfl := Except.error.inj hcreate
        exact hfamily rfl
      exact ⟨hkey, (create_eq_error_iff hkey hfamily).1 hcreate⟩
    · rintro ⟨hkey, hunreported⟩
      exact ⟨(create_eq_error_iff hkey hunreported.family_ne).2 hunreported,
        hunreported.family_ne⟩
  refine ⟨?_, hiff, ?_⟩
  · cases hcreate : ((first.run calls).create world).1 with
    | ok token => exact Or.inl ⟨token, rfl⟩
    | error failure =>
      by_cases hfamily : failure.family = "TokenGenerationError"
      · exact Or.inr (Or.inl ⟨failure, rfl, hfamily⟩)
      · obtain ⟨hkey, hunreported⟩ := (hiff failure).1 ⟨hcreate, hfamily⟩
        exact Or.inr (Or.inr ⟨hkey, failure, hunreported⟩)
  · rintro session target rfl hbuilder
    exact Session.perform?_createToken hbuilder

/-- Calls for an algorithm that nobody knows. -/
def unknownAlgorithm : List Call :=
  [.withKey (.rsa Rsa.mersenneKey), .withHeader HeaderName.algorithm (.string "foo")]

/-- A missing key is found before a lifetime that is no number, and reported. -/
theorem create_without_key : ∃ first, TokenBuilder.new {} .ias = .ok first ∧
    ∃ failure, ((first.run [.withTtl (.string "soon")]).create {}).1 = .error failure ∧
      failure.family = "TokenGenerationError" := by
  have hnew : TokenBuilder.new {} .ias =
      .ok ⟨.ias, .absent, [], [], .int Environment.defaultTokenTtl, .null⟩ := rfl
  obtain ⟨⟨token, htoken⟩ | hfailure | ⟨hkey, -⟩, -, -⟩ :=
    create_unreported_iff ⟨.ias, .absent, [], [], .int Environment.defaultTokenTtl, .null⟩
      [.withTtl (.string "soon")] {}
  · cases htoken
  · exact ⟨_, hnew, hfailure⟩
  · exact absurd rfl hkey

/-- A failure that is none of the token, although nothing but the signature was at fault. -/
theorem unknownAlgorithm_unreported : ∃ first failure, TokenBuilder.new {} .ias = .ok first ∧
    ((first.run unknownAlgorithm).create {}).1 = .error failure ∧
    failure.family = "NotImplementedError" :=
  ⟨_, .unknownAlgorithm, rfl, rfl, rfl⟩

end TokenBuilder

end MockIssuer
