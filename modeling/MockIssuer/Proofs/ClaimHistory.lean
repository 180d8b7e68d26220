import MockIssuer.Proofs.MintedTokens

/-!
# Claims of a token and the calls before it

What a builder was told is a list of calls, oldest first. A claim that it was given has the value of
the last call for it, and its place is that of the call that added it for good (`Reflects`); a token
has these claims over the defaults, which come first and keep their places (`create_claims`). Making
a token tells the builder nothing, so two tokens of one builder differ at most in the time of issue,
in what follows from it, and in their ids (`create_again`).
-/
namespace MockIssuer

/-- A value, unless it is null. -/
def Json.present? : Json → Option Json
  | .null => none
  | value => some value

namespace Json

lemma lookup_upsert (name key : String) (value : Json) (fields : Fields) :
    (upsert name value fields).lookup key =
      if key = name then some value else fields.lookup key := by
  by_cases hkey : key = name
  · rw [if_pos hkey, hkey, lookup_upsert_self]
  · rw [if_neg hkey, lookup_upsert_of_ne _ _ hkey]

lemma lookup_erase (name key : String) (fields : Fields) :
    (erase name fields).lookup key = if key = name then none else fields.lookup key := by
  induction fields with
  | nil => simp [erase]
  | cons field rest ih =>
    obtain ⟨other, value⟩ := field
    by_cases hother : other = name
    · have herase : erase name ((other, value) :: rest) = erase name rest := by
        simp [erase, hother]
      rw [herase, ih, List.lookup_cons]
      by_cases hkey : key = name
      · rw [if_pos hkey, if_pos hkey]
      · have hne : (key == other) = false := by simpa [hother] using hkey
        rw [if_neg hkey, if_neg hkey, hne]
    · have herase : erase name ((other, value) :: rest) = (other, value) :: erase name rest := by
        simp [erase, hother]
      rw [herase, List.lookup_cons, List.lookup_cons, ih]
      by_cases hkey : key = other
      · subst hkey
        simp [hother]
      · have hne : (key == other) = false := by simpa using hkey
        rw [hne]

lemma keys_erase (name : String) (fields : Fields) :
    (erase name fields).map Prod.fst = (fields.map Prod.fst).filter (· ≠ name) := by
  rw [erase, List.filter_map]
  rfl

lemma isSome_lookup_iff {fields : Fields} {name : String} :
    (fields.lookup name).isSome = true ↔ name ∈ fields.map Prod.fst := by
  rw [List.lookup_isSome_iff, List.mem_map]
  refine exists_congr fun field => and_congr_right fun _ => ?_
  rw [beq_iff_eq, eq_comm]

end Json

namespace Token

lemma lookup_override {changes : Json.Fields} (hn : (changes.map Prod.fst).Nodup)
    (fields : Json.Fields) (name : String) :
    (override fields changes).lookup name = (changes.lookup name).or (fields.lookup name) := by
  rw [override, Json.lookup_foldl_upsert,
    Json.lookup_eq_of_perm (List.reverse_perm changes).symm hn]

/-- Fields that are put over others keep their places, and new ones follow in order. -/
lemma keys_override {changes : Json.Fields} (hn : (changes.map Prod.fst).Nodup)
    (fields : Json.Fields) : (override fields changes).map Prod.fst =
      fields.map Prod.fst ++ (changes.map Prod.fst).filter (· ∉ fields.map Prod.fst) := by
  induction changes generalizing fields with
  | nil => simp [override]
  | cons change rest ih =>
    obtain ⟨name, value⟩ := change
    rw [List.map_cons, List.nodup_cons] at hn
    have hstep : override fields ((name, value) :: rest) =
        override (Json.upsert name value fields) rest := rfl
    rw [hstep, ih hn.2, Json.keys_upsert, List.map_cons]
    by_cases hmem : name ∈ fields.map Prod.fst
    · rw [if_pos hmem, List.filter_cons_of_neg (by simpa using hmem)]
    · have hrest : (rest.map Prod.fst).filter (· ∉ fields.map Prod.fst ++ [name]) =
          (rest.map Prod.fst).filter (· ∉ fields.map Prod.fst) := by
        refine List.filter_congr fun other hother => ?_
        have hne : other ≠ name := fun h => hn.1 (h ▸ hother)
        simp [hne]
      rw [if_neg hmem, List.filter_cons_of_pos (by simpa using hmem), hrest, List.append_assoc]
      rfl

end Token

namespace TokenBuilder

/-- What a builder can be asked for. -/
inductive Call where
  | withKey (key : SigningKey)
  | withClaim (name : String) (value : Json)
  | withHeader (name : String) (value : Json)
  | withScopes (scopes : List Json)
  | withTtl (ttl : Json)
  | withExpiresAt (time : Json)
  | create

namespace Call

/-- The builder after a call. Making a token leaves it as it is. -/
def apply (builder : TokenBuilder) : Call → TokenBuilder
  | withKey key => builder.withKey key
  | withClaim name value => builder.withClaim name value
  | withHeader name value => builder.withHeader name value
  | withScopes scopes => builder.withScopes scopes
  | withTtl ttl => builder.withTtl ttl
  | withExpiresAt time => builder.withExpiresAt time
  | create => builder

/-- The claim that a call is about, with the value that it gives. -/
def claim? : Call → Option (String × Json)
  | withClaim name value => some (name, value)
  | withScopes scopes => some (ClaimName.scopes, .array scopes)
  | _ => none

def ttl? : Call → Option Json
  | withTtl ttl => some ttl
  | _ => none

/-- The absolute time of expiry that a call sets; setting a lifetime sets it to null. -/
def expiresAt? : Call → Option Json
  | withExpiresAt time => some time
  | withTtl _ => some .null
  | _ => none

end Call

/-- The builder after some calls. -/
def run (builder : TokenBuilder) (calls : List Call) : TokenBuilder :=
  calls.foldl Call.apply builder

lemma run_concat (builder : TokenBuilder) (calls : List Call) (call : Call) :
    builder.run (calls ++ [call]) = call.apply (builder.run calls) := by
  simp [run]

lemma run_create (builder : TokenBuilder) (calls : List Call) (count : ℕ) :
    builder.run (calls ++ List.replicate count .create) = builder.run calls := by
  rw [run, List.foldl_append]
  induction count with
  | zero => rfl
  | succ count ih => exact ih

lemma service_run (builder : TokenBuilder) (calls : List Call) :
    (builder.run calls).service = builder.service := by
  induction calls using List.reverseRecOn with
  | nil => rfl
  | append_singleton calls call ih =>
    rw [run_concat, ← ih]
    cases call <;> rfl

lemma ttl_run (builder : TokenBuilder) (calls : List Call) :
    (builder.run calls).ttl = ((calls.filterMap Call.ttl?).getLast?).getD builder.ttl := by
  induction calls using List.reverseRecOn with
  | nil => rfl
  | append_singleton calls call ih =>
    rw [run_concat, List.filterMap_append, List.getLast?_append]
    cases call <;> simp [Call.apply, Call.ttl?, withKey, withClaim, withHeader, withScopes, withTtl,
      withExpiresAt, ih]

lemma expiresAt_run (builder : TokenBuilder) (calls : List Call) :
    (builder.run calls).expiresAt =
      ((calls.filterMap Call.expiresAt?).getLast?).getD builder.expiresAt := by
  induction calls using List.reverseRecOn with
  | nil => rfl
  | append_singleton calls call ih =>
    rw [run_concat, List.filterMap_append, List.getLast?_append]
    cases call <;> simp [Call.apply, Call.expiresAt?, withKey, withClaim, withHeader, withScopes,
      withTtl, withExpiresAt, ih]

lemma claims_apply (builder : TokenBuilder) (call : Call) : (call.apply builder).claims =
    match call.claim? with
    | none => builder.claims
    | some (name, value) => setOrErase name value builder.claims := by
  cases call <;> rfl

/-- The value of the last call for a claim; none if that was null. -/
def given? (calls : List Call) (name : String) : Option Json :=
  ((calls.filterMap Call.claim?).reverse.lookup name).bind Json.present?

variable {calls : List Call} {call : Call}

lemma given?_concat_of_none (h : call.claim? = none) (name : String) :
    given? (calls ++ [call]) name = given? calls name := by
  simp [given?, List.filterMap_append, h]

lemma given?_concat {other : String} {value : Json} (h : call.claim? = some (other, value))
    (name : String) : given? (calls ++ [call]) name =
      if name = other then value.present? else given? calls name := by
  by_cases hname : name = other
  · simp [given?, List.filterMap_append, h, hname]
  · have hne : (name == other) = false := by simpa using hname
    simp [given?, List.filterMap_append, h, hname, List.lookup_cons, hne]

/-- The call that added a claim: it was missing before, and has been there since. -/
structure IsAddedBy (calls : List Call) (name : String) (n : ℕ) : Prop where
  lt : n < calls.length
  missing : given? (calls.take n) name = none
  since : ∀ m, n < m → m ≤ calls.length → (given? (calls.take m) name).isSome = true

/-- One call at most has added a claim for good. -/
lemma IsAddedBy.unique {name : String} {m n : ℕ} (hm : IsAddedBy calls name m)
    (hn : IsAddedBy calls name n) : m = n := by
  have hle {i j : ℕ} (hi : IsAddedBy calls name i) (hj : IsAddedBy calls name j) : j ≤ i := by
    by_contra hlt
    have hsome := hi.since j (by omega) hj.lt.le
    rw [hj.missing] at hsome
    cases hsome
  exact le_antisymm (hle hn hm) (hle hm hn)

lemma take_concat {n : ℕ} (h : calls.length < n) : (calls ++ [call]).take n = calls ++ [call] := by
  apply List.take_of_length_le
  simp only [List.length_append, List.length_singleton]
  omega

lemma IsAddedBy.concat {name : String} {n : ℕ} (h : IsAddedBy calls name n)
    (hsome : (given? (calls ++ [call]) name).isSome = true) :
    IsAddedBy (calls ++ [call]) name n := by
  have hlt := h.lt
  refine ⟨by rw [List.length_append]; omega, ?_, fun m hm hle => ?_⟩
  · rw [List.take_append_of_le_length hlt.le]
    exact h.missing
  · by_cases hlast : m ≤ calls.length
    · rw [List.take_append_of_le_length hlast]
      exact h.since m hm hlast
    · rw [take_concat (not_le.1 hlast)]
      exact hsome

lemma isAddedBy_concat {name : String} (hnone : given? calls name = none)
    (hsome : (given? (calls ++ [call]) name).isSome = true) :
    IsAddedBy (calls ++ [call]) name calls.length := by
  refine ⟨by simp, ?_, fun m hm hle => ?_⟩
  · rw [List.take_append_of_le_length le_rfl, List.take_length]
    exact hnone
  · rw [take_concat hm]
    exact hsome

/-- One claim was added by an earlier call than another. -/
def AddedBefore (calls : List Call) (first second : String) : Prop :=
  ∃ m n, IsAddedBy calls first m ∧ IsAddedBy calls second n ∧ m < n

lemma pairwise_concat {names : List String} (h : names.Pairwise (AddedBefore calls))
    (hsome : ∀ name ∈ names, (given? (calls ++ [call]) name).isSome = true) :
    names.Pairwise (AddedBefore (calls ++ [call])) := by
  refine List.Pairwise.imp_of_mem ?_ h
  rintro first second hfirst hsecond ⟨m, n, hm, hn, hlt⟩
  exact ⟨m, n, hm.concat (hsome first hfirst), hn.concat (hsome second hsecond), hlt⟩

/-- Claims that are those of some calls, in the order in which they were added. -/
structure Reflects (calls : List Call) (claims : Json.Fields) : Prop where
  nodup : (claims.map Prod.fst).Nodup
  lookup : ∀ name, claims.lookup name = given? calls name
  added : ∀ name ∈ claims.map Prod.fst, ∃ n, IsAddedBy calls name n
  order : (claims.map Prod.fst).Pairwise (AddedBefore calls)

namespace Reflects
variable {claims after : Json.Fields}

lemma mem_keys_iff (h : Reflects calls claims) {name : String} :
    name ∈ claims.map Prod.fst ↔ (given? calls name).isSome = true := by
  rw [← Json.isSome_lookup_iff, h.lookup]

/-- A call that adds no claim and removes at most one keeps the order of the rest. -/
lemma of_sublist (h : Reflects calls claims)
    (hsub : (after.map Prod.fst).Sublist (claims.map Prod.fst))
    (hlookup : ∀ name, after.lookup name = given? (calls ++ [call]) name) :
    Reflects (calls ++ [call]) after := by
  have hgiven (name : String) (hmem : name ∈ after.map Prod.fst) :
      (given? (calls ++ [call]) name).isSome = true := by
    rw [← hlookup, Json.isSome_lookup_iff]
    exact hmem
  refine ⟨h.nodup.sublist hsub, hlookup, fun name hmem => ?_,
    pairwise_concat (h.order.sublist hsub) hgiven⟩
  obtain ⟨n, hn⟩ := h.added name (hsub.subset hmem)
  exact ⟨n, hn.concat (hgiven name hmem)⟩

lemma insert (h : Reflects calls claims) {name : String} {value : Json}
    (hcall : call.claim? = some (name, value)) (hvalue : value.present? = some value)
    (hmem : name ∉ claims.map Prod.fst) :
    Reflects (calls ++ [call]) (Json.upsert name value claims) := by
  have hkeys : (Json.upsert name value claims).map Prod.fst = claims.map Prod.fst ++ [name] := by
    rw [Json.keys_upsert, if_neg hmem]
  have hnone : given? calls name = none := by
    rw [← Option.not_isSome_iff_eq_none, ← h.mem_keys_iff]
    exact hmem
  have hsome : (given? (calls ++ [call]) name).isSome = true := by
    rw [given?_concat hcall, if_pos rfl, hvalue]
    rfl
  have hkept (other : String) (hother : other ∈ claims.map Prod.fst) :
      (given? (calls ++ [call]) other).isSome = true := by
    have hne : other ≠ name := fun heq => hmem (heq ▸ hother)
    rw [given?_concat hcall, if_neg hne, ← h.mem_keys_iff]
    exact hother
  have hlast := isAddedBy_concat hnone hsome
  refine ⟨?_, fun other => ?_, fun other hother => ?_, ?_⟩
  · rw [hkeys]
    exact List.nodup_append.2 ⟨h.nodup, List.nodup_singleton _, fun a ha b hb heq =>
      hmem (by rw [← List.mem_singleton.1 hb, ← heq]; exact ha)⟩
  · rw [given?_concat hcall, Json.lookup_upsert, hvalue, h.lookup]
  · rw [hkeys] at hother
    rcases List.mem_append.1 hother with hold | hnew
    · obtain ⟨n, hn⟩ := h.added other hold
      exact ⟨n, hn.concat (hkept other hold)⟩
    · obtain rfl := List.mem_singleton.1 hnew
      exact ⟨calls.length, hlast⟩
  · rw [hkeys, List.pairwise_append]
    refine ⟨pairwise_concat h.order hkept, List.pairwise_singleton _ _,
      fun first hfirst second hsecond => ?_⟩
    obtain rfl := List.mem_singleton.1 hsecond
    obtain ⟨m, hm⟩ := h.added first hfirst
    exact ⟨m, calls.length, hm.concat (hkept first hfirst), hlast, hm.lt⟩

lemma apply {builder : TokenBuilder} (h : Reflects calls builder.claims) (call : Call) :
    Reflects (calls ++ [call]) (call.apply builder).claims := by
  rw [claims_apply]
  cases hcall : call.claim? with
  | none =>
    refine h.of_sublist (List.Sublist.refl _) fun name => ?_
    rw [given?_concat_of_none hcall]
    exact h.lookup name
  | some claim =>
    obtain ⟨name, value⟩ := claim
    simp only
    cases hvalue : value.present? with
    | none =>
      -- Null removes the claim, whether it was there or not.
      have hnull : value = .null := by
        cases value <;> simp [Json.present?] at hvalue ⊢
      subst hnull
      refine h.of_sublist ?_ fun other => ?_
      · change ((Json.erase name builder.claims).map Prod.fst).Sublist _
        rw [Json.keys_erase]
        exact List.filter_sublist
      · change (Json.erase name builder.claims).lookup other = _
        rw [Json.lookup_erase, given?_concat hcall, h.lookup]
        rfl
    | some same =>
      obtain ⟨rfl, hset⟩ : same = value ∧
          setOrErase name value builder.claims = Json.upsert name value builder.claims := by
        cases value <;> simp_all [Json.present?, setOrErase]
      rw [hset]
      by_cases hmem : name ∈ builder.claims.map Prod.fst
      · refine h.of_sublist ?_ fun other => ?_
        · rw [Json.keys_upsert, if_pos hmem]
        · rw [given?_concat hcall, Json.lookup_upsert, hvalue, h.lookup]
      · exact h.insert hcall hvalue hmem

end Reflects

/-- The claims of a builder are those of the calls that it has had. -/
theorem reflects_run {first : TokenBuilder} (hfirst : first.claims = []) (calls : List Call) :
    Reflects calls (first.run calls).claims := by
  induction calls using List.reverseRecOn with
  | nil =>
    have hrun : (first.run []).claims = [] := hfirst
    rw [hrun]
    refine ⟨List.nodup_nil, fun name => rfl, fun name hmem => ?_, List.Pairwise.nil⟩
    cases hmem
  | append_singleton calls call ih =>
    rw [run_concat]
    exact ih.apply call

/-- The absolute time of expiry, unless it is null or a lifetime was set after it. -/
def expiry? (calls : List Call) : Option Json :=
  ((calls.filterMap Call.expiresAt?).getLast?).bind Json.present?

/-- The lifetime that was set last, or the one from the environment. -/
def lifetime (calls : List Call) (ttl : ℤ) : Json :=
  ((calls.filterMap Call.ttl?).getLast?).getD (.int ttl)

/-- When a token expires that is issued after some calls. -/
def expirationAfter (calls : List Call) (ttl issuedAt : ℤ) : Except Failure Json :=
  match expiry? calls with
  | some time => .ok time
  | none => addTtl issuedAt (lifetime calls ttl)

/-- The default claims that name the client. -/
def clientDefaults (service : Service) (calls : List Call) : Json.Fields :=
  match service with
  | .ias => []
  | .xsuaa => (ClaimName.grantType, .string grantTypeClientCredentials) ::
      ((given? calls ClaimName.clientId).map (ClaimName.authorizationParty, ·)).toList

/-- The default claims of a token that is issued after some calls. -/
def defaultsAfter (service : Service) (calls : List Call) (issuedAt : ℤ) (expiration : Json)
    (tokenId : String) : Json.Fields :=
  [(ClaimName.issuedAt, .int issuedAt), (ClaimName.expiration, expiration),
    (ClaimName.tokenId, .string tokenId)] ++ clientDefaults service calls

lemma keys_defaultsAfter (service : Service) (calls : List Call) (issuedAt : ℤ)
    (expiration : Json) (tokenId : String) :
    (defaultsAfter service calls issuedAt expiration tokenId).map Prod.fst =
      [ClaimName.issuedAt, ClaimName.expiration, ClaimName.tokenId] ++
        (clientDefaults service calls).map Prod.fst := by
  simp [defaultsAfter]

lemma nodup_defaultsAfter (service : Service) (calls : List Call) (issuedAt : ℤ)
    (expiration : Json) (tokenId : String) :
    ((defaultsAfter service calls issuedAt expiration tokenId).map Prod.fst).Nodup := by
  rw [keys_defaultsAfter]
  unfold clientDefaults
  cases service with
  | ias => simp [ClaimName.issuedAt, ClaimName.expiration, ClaimName.tokenId]
  | xsuaa =>
    cases given? calls ClaimName.clientId <;>
      simp [ClaimName.issuedAt, ClaimName.expiration, ClaimName.tokenId, ClaimName.grantType,
        ClaimName.authorizationParty]

lemma lookup_tokenId (service : Service) (calls : List Call) (issuedAt : ℤ) (expiration : Json)
    (tokenId : String) : (defaultsAfter service calls issuedAt expiration tokenId).lookup
      ClaimName.tokenId = some (.string tokenId) := by
  simp [defaultsAfter, List.lookup_cons, ClaimName.issuedAt, ClaimName.expiration,
    ClaimName.tokenId]

lemma lookup_defaultsAfter (service : Service) (calls : List Call) {issuedAt later : ℤ}
    {expiration laterExpiration : Json} {tokenId laterId name : String}
    (hissued : name = ClaimName.issuedAt → issuedAt = later)
    (hexpires : name = ClaimName.expiration → expiration = laterExpiration)
    (hid : name = ClaimName.tokenId → tokenId = laterId) :
    (defaultsAfter service calls issuedAt expiration tokenId).lookup name =
      (defaultsAfter service calls later laterExpiration laterId).lookup name := by
  unfold defaultsAfter
  rw [List.lookup_append, List.lookup_append]
  congr 1
  simp only [List.lookup_cons, List.lookup_nil]
  cases hfirst : name == ClaimName.issuedAt with
  | true => rw [hissued (beq_iff_eq.1 hfirst)]
  | false =>
    cases hsecond : name == ClaimName.expiration with
    | true => rw [hexpires (beq_iff_eq.1 hsecond)]
    | false =>
      cases hthird : name == ClaimName.tokenId with
      | true => rw [hid (beq_iff_eq.1 hthird)]
      | false => rfl

variable {environment : Environment} {service : Service} {first : TokenBuilder}

lemma expiration_run (ttl issuedAt : ℤ) (calls : List Call) :
    (run ⟨service, .absent, [], [], .int ttl, .null⟩ calls).expiration issuedAt =
      expirationAfter calls ttl issuedAt := by
  unfold expiration expirationAfter expiry? lifetime
  rw [expiresAt_run, ttl_run]
  cases (calls.filterMap Call.expiresAt?).getLast? with
  | none => rfl
  | some time =>
    cases time <;> rfl

lemma defaultClaims_run {builder : TokenBuilder} (hclaims : Reflects calls builder.claims)
    (issuedAt : ℤ) (expiration : Json) (tokenId : String) :
    builder.defaultClaims issuedAt expiration tokenId =
      defaultsAfter builder.service calls issuedAt expiration tokenId := by
  unfold defaultClaims clientClaims defaultsAfter clientDefaults
  rw [hclaims.lookup]
  cases builder.service with
  | ias => rfl
  | xsuaa =>
    unfold given?
    cases (calls.filterMap Call.claim?).reverse.lookup ClaimName.clientId with
    | none => rfl
    | some value => cases value <;> rfl

lemma reflects_of_new (hnew : TokenBuilder.new environment service = .ok first)
    (calls : List Call) : Reflects calls (first.run calls).claims := by
  obtain ⟨_, rfl⟩ := new_ok hnew
  exact reflects_run rfl calls

lemma create_run (hnew : TokenBuilder.new environment service = .ok first) (calls : List Call)
    {world : World} {token : Token} (h : ((first.run calls).create world).1 = .ok token) :
    ∃ ttl issuedAt expiration defaults, environment.readTokenTtl = .ok ttl ∧
      world.clock.whole = .ok issuedAt ∧ expirationAfter calls ttl issuedAt = .ok expiration ∧
      defaults = defaultsAfter service calls issuedAt expiration world.takeTokenId.1 ∧
      (∀ name, token.claims.lookup name = (given? calls name).or (defaults.lookup name)) ∧
      token.claims.map Prod.fst = defaults.map Prod.fst ++
        ((first.run calls).claims.map Prod.fst).filter (· ∉ defaults.map Prod.fst) ∧
      Token.sign world.takeTokenId.2.signer (first.run calls).key
        (first.run calls).headerParameters token.claims = .ok token.value := by
  have hreflects := reflects_of_new hnew calls
  obtain ⟨issuedAt, expiration, hclock, hexpires, hclaims, hsign, -⟩ := create_ok h
  unfold TokenBuilder.new at hnew
  cases httl : environment.readTokenTtl with
  | error failure =>
    rw [httl] at hnew
    cases hnew
  | ok ttl =>
    rw [httl] at hnew
    obtain rfl := Except.ok.inj hnew
    rw [expiration_run] at hexpires
    rw [defaultClaims_run hreflects, service_run] at hclaims
    refine ⟨ttl, issuedAt, expiration, _, rfl, hclock, hexpires, rfl, fun name => ?_, ?_, hsign⟩
    · rw [hclaims, Token.lookup_override hreflects.nodup, hreflects.lookup]
    · rw [hclaims, Token.keys_override hreflects.nodup]

/-- A token id is new as long as the count has not come round. -/
lemma takeTokenId_ne {world later : World} (hlt : world.tokenIds < later.tokenIds)
    (hsmall : later.tokenIds + 1 < 16 ^ 32) : later.takeTokenId.1 ≠ world.takeTokenId.1 := by
  intro heq
  have hdigits : Text.hexDigits 32 (later.tokenIds + 1) = Text.hexDigits 32 (world.tokenIds + 1) :=
    String.ofList_injective heq
  have hnumber := congrArg Text.hexNumber? hdigits
  rw [Text.hexNumber?_hexDigits, Text.hexNumber?_hexDigits, Option.some.injEq,
    Nat.mod_eq_of_lt hsmall, Nat.mod_eq_of_lt (by omega)] at hnumber
  omega

lemma tokenIds_create {builder : TokenBuilder} {world : World} {token : Token}
    (h : (builder.create world).1 = .ok token) :
    (builder.create world).2.tokenIds = world.tokenIds + 1 := by
  obtain ⟨issuedAt, expiration, hclock, hexpires, -⟩ := create_ok h
  have hkey : builder.key ≠ .absent := by
    intro hkey
    simp [create, hkey] at h
  unfold create issue
  simp only [if_neg hkey, hclock, hexpires]
  split
  · rfl
  · rfl
  · split <;> rfl

/-- A token that is made again: it has the same claims in the same order, apart from the time of
issue, the time of expiry that may follow from it, and the id. -/
structure IsRepeated (calls : List Call) (world : World) (token : Token) (later : World)
    (again : Token) : Prop where
  keys : again.claims.map Prod.fst = token.claims.map Prod.fst
  lookup : ∀ name, name ≠ ClaimName.issuedAt → name ≠ ClaimName.expiration →
    name ≠ ClaimName.tokenId → again.claims.lookup name = token.claims.lookup name
  sameTime : later.clock.whole = world.clock.whole → ∀ name, name ≠ ClaimName.tokenId →
    again.claims.lookup name = token.claims.lookup name
  tokenId : given? calls ClaimName.tokenId = none → world.tokenIds < later.tokenIds →
    later.tokenIds + 1 < 16 ^ 32 →
    again.claims.lookup ClaimName.tokenId ≠ token.claims.lookup ClaimName.tokenId

lemma create_again (hnew : TokenBuilder.new environment service = .ok first) (calls : List Call)
    {world later : World} {token again : Token} {count : ℕ}
    (h : ((first.run calls).create world).1 = .ok token)
    (hagain : ((first.run (calls ++ List.replicate count .create)).create later).1 = .ok again) :
    IsRepeated calls world token later again := by
  rw [run_create] at hagain
  obtain ⟨ttl, issuedAt, expiration, defaults, httl, hclock, hexpires, rfl, hlookup, hkeys, -⟩ :=
    create_run hnew calls h
  obtain ⟨_, issuedAt', expiration', defaults', httl', hclock', hexpires', rfl, hlookup', hkeys',
    -⟩ := create_run hnew calls hagain
  obtain rfl := Except.ok.inj (httl.symm.trans httl')
  refine ⟨?_, fun name hissued hexpiration hid => ?_, fun hsame name hid => ?_,
    fun hnone hlt hsmall heq => ?_⟩
  · rw [hkeys, hkeys', keys_defaultsAfter, keys_defaultsAfter]
  · rw [hlookup, hlookup']
    exact congrArg _ (lookup_defaultsAfter service calls (absurd · hissued) (absurd · hexpiration)
      (absurd · hid))
  · -- The time of expiry follows from the calls and the time of issue.
    rw [hclock, hclock'] at hsame
    obtain rfl := Except.ok.inj hsame
    rw [hexpires] at hexpires'
    obtain rfl := Except.ok.inj hexpires'
    rw [hlookup, hlookup']
    exact congrArg _ (lookup_defaultsAfter service calls (fun _ => rfl) (fun _ => rfl)
      (absurd · hid))
  · rw [hlookup, hlookup', hnone, lookup_tokenId, lookup_tokenId] at heq
    exact takeTokenId_ne hlt hsmall (Json.string.inj (Option.some.inj heq))

/-- The times of a token that is made after some calls: the lifetime that the environment gives, the
time of issue and the time of expiry. -/
structure HasTimes (environment : Environment) (calls : List Call) (world : World)
    (ttl issuedAt : ℤ) (expiration : Json) : Prop where
  lifetime : environment.readTokenTtl = .ok ttl
  issued : world.clock.whole = .ok issuedAt
  expires : expirationAfter calls ttl issuedAt = .ok expiration

/-- Claims that are those of some calls over defaults. Each has the value that the last call gave it,
unless that was null, or else that of the default, if there is one. The defaults come first, and the
others follow in the order in which they were added. -/
structure AreOver (calls : List Call) (defaults : Json.Fields) (others : List String)
    (claims : Json.Fields) : Prop where
  lookup : ∀ name, claims.lookup name = (given? calls name).or (defaults.lookup name)
  keys : claims.map Prod.fst = defaults.map Prod.fst ++ others
  nodup : (claims.map Prod.fst).Nodup
  mem_others_iff : ∀ name, name ∈ others ↔
    (given? calls name).isSome = true ∧ name ∉ defaults.map Prod.fst
  added : ∀ name, (given? calls name).isSome = true → ∃! n, IsAddedBy calls name n
  order : others.Pairwise (AddedBefore calls)

/-- A token that a builder has made after some calls: it took one id, its claims are what was signed,
and the tokens that are made after it repeat it. -/
structure IsMade (first : TokenBuilder) (calls : List Call) (world : World) (token : Token) :
    Prop where
  tokenIds : ((first.run calls).create world).2.tokenIds = world.tokenIds + 1
  signed : Token.sign world.takeTokenId.2.signer (first.run calls).key
    (first.run calls).headerParameters token.claims = .ok token.value
  repeated : ∀ count later again,
    ((first.run (calls ++ List.replicate count .create)).create later).1 = .ok again →
    IsRepeated calls world token later again

lemma areOver_of_reflects {claims defaults tokenClaims : Json.Fields}
    (h : Reflects calls claims) (hdefaults : (defaults.map Prod.fst).Nodup)
    (hlookup : ∀ name, tokenClaims.lookup name = (given? calls name).or (defaults.lookup name))
    (hkeys : tokenClaims.map Prod.fst = defaults.map Prod.fst ++
      (claims.map Prod.fst).filter (· ∉ defaults.map Prod.fst)) :
    AreOver calls defaults ((claims.map Prod.fst).filter (· ∉ defaults.map Prod.fst))
      tokenClaims where
  lookup := hlookup
  keys := hkeys
  nodup := by
    rw [hkeys, List.nodup_append]
    refine ⟨hdefaults, h.nodup.filter _, fun a ha b hb heq => ?_⟩
    have hout := (List.mem_filter.1 hb).2
    rw [decide_eq_true_eq] at hout
    exact hout (heq ▸ ha)
  mem_others_iff name := by rw [List.mem_filter, h.mem_keys_iff, decide_eq_true_eq]
  added name hgiven := by
    obtain ⟨n, hn⟩ := h.added name (h.mem_keys_iff.2 hgiven)
    exact ⟨n, hn, fun m hm => hm.unique hn⟩
  order := h.order.sublist List.filter_sublist

/-- The claims of a token that is made after any calls are those of the calls over the defaults, and
these are the claims that are signed. Making tokens changes no later one, apart from its time and its
id. -/
theorem create_claims (hnew : TokenBuilder.new environment service = .ok first)
    (calls : List Call) {world : World} {token : Token}
    (h : ((first.run calls).create world).1 = .ok token) :
    IsMade first calls world token ∧
    ∃ ttl issuedAt expiration others, HasTimes environment calls world ttl issuedAt expiration ∧
      AreOver calls (defaultsAfter service calls issuedAt expiration world.takeTokenId.1) others
        token.claims := by
  obtain ⟨ttl, issuedAt, expiration, defaults, httl, hclock, hexpires, rfl, hlookup, hkeys,
    hsign⟩ := create_run hnew calls h
  have hover := areOver_of_reflects (reflects_of_new hnew calls) (nodup_defaultsAfter _ _ _ _ _)
    hlookup hkeys
  exact ⟨⟨tokenIds_create h, hsign, fun count later again hagain =>
    create_again hnew calls h hagain⟩, ttl, issuedAt, expiration, _, ⟨httl, hclock, hexpires⟩, hover⟩

/-- Calls that set claims, remove one, add it again and override a default. -/
def revisions : List Call :=
  [.withKey (.rsa Rsa.mersenneKey), .withHeader HeaderName.jwksUrl (.string "http://localhost"),
    .withHeader HeaderName.keyId (.string "key"), .withClaim "first" (.int 1),
    .withClaim "second" (.int 2), .withClaim "first" .null,
    .withClaim ClaimName.clientId (.string "client"), .withClaim ClaimName.issuedAt (.int 7),
    .withClaim "first" (.int 3), .withExpiresAt (.int 99), .withTtl (.int (-10)), .create]

/-- The claims of a token after them. -/
theorem revised_claims : ∃ first token,
    TokenBuilder.new {} .xsuaa = .ok first ∧ ((first.run revisions).create {}).1 = .ok token ∧
    [ClaimName.issuedAt, ClaimName.expiration, ClaimName.tokenId, ClaimName.grantType,
      ClaimName.authorizationParty] <+: token.claims.map Prod.fst ∧
    token.claims.lookup ClaimName.issuedAt = some (.int 7) ∧
    token.claims.lookup ClaimName.expiration = some (.int 1699999990) ∧
    token.claims.lookup ClaimName.authorizationParty = some (.string "client") ∧
    token.claims.lookup "first" = some (.int 3) := by
  have hnew : TokenBuilder.new {} .xsuaa =
      .ok ⟨.xsuaa, .absent, [], [], .int Environment.defaultTokenTtl, .null⟩ := rfl
  set first : TokenBuilder :=
    ⟨.xsuaa, .absent, [], [], .int Environment.defaultTokenTtl, .null⟩
  have hkey : (first.run revisions).key = .rsa Rsa.mersenneKey := rfl
  have hparams : (first.run revisions).headerParameters =
      Token.boundParameters "http://localhost" "key" := rfl
  have hexp : (first.run revisions).expiration 1700000000 = .ok (.int 1699999990) := rfl
  obtain ⟨token, htoken⟩ : ∃ token, ((first.run revisions).create {}).1 = .ok token :=
    exists_create_of_bound hkey (by decide +kernel) hparams rfl hexp rfl rfl
  obtain ⟨-, ttl, issuedAt, expiration, others, htimes, hclaims⟩ :=
    create_claims hnew revisions htoken
  obtain rfl : Environment.defaultTokenTtl = ttl := Except.ok.inj htimes.lifetime
  obtain rfl : 1700000000 = issuedAt := Except.ok.inj htimes.issued
  obtain rfl : Json.int 1699999990 = expiration := Except.ok.inj htimes.expires
  refine ⟨first, token, hnew, htoken, ?_, ?_, ?_, ?_, ?_⟩
  · rw [hclaims.keys]
    exact List.prefix_append _ _
  · rw [hclaims.lookup]
    rfl
  · rw [hclaims.lookup]
    rfl
  · rw [hclaims.lookup]
    rfl
  · rw [hclaims.lookup]
    rfl

end TokenBuilder

end MockIssuer
