import MockIssuer.Proofs.ClaimHistory
import MockIssuer.Proofs.HarnessLifecycle
import MockIssuer.Proofs.JsonValues

/-!
# What the log shows of a token

A masked token shows as many characters of each end as it is told, and no others: two long tokens
are shown alike exactly if they have the same ends, and a short one is not shown at all
(`mask_eq_mask_iff`, `mask_eq_hidden_iff`). The count has to be positive, since the last zero
characters of a token are taken to be all of it (`mask_zero`). The log of a token that is made holds
the masked token, and every token is long, so it depends on the ends alone
(`mask_hides_middle`).
-/
namespace MockIssuer

namespace Log
variable {visible : ℕ} {token : String}

/-- The first and the last characters of a text. -/
def ends (count : ℕ) (text : String) : List Char × List Char :=
  (text.toList.take count, text.toList.rtake count)

/-- The ends of a token, as they are shown. -/
def shown (ends : List Char × List Char) : String :=
  String.ofList (ends.1 ++ '.' :: '.' :: '.' :: ends.2)

lemma mask_of_length_le (h : token.length ≤ 2 * visible) : mask visible token = "***" := by
  rw [← String.length_toList] at h
  exact if_pos (by omega)

lemma mask_of_lt_length (h : 2 * visible < token.length) :
    mask visible token = String.ofList
      (head visible token.toList ++ '.' :: '.' :: '.' :: last visible token.toList) := by
  rw [← String.length_toList] at h
  exact if_neg (by omega)

lemma mask_eq_shown (hv : 0 < visible) (h : 2 * visible < token.length) :
    mask visible token = shown (ends visible token) := by
  have hhead : head visible token.toList = token.toList.take visible := by simp [head]
  have hlast : last visible token.toList = token.toList.rtake visible := by
    simp [last, hv, List.rtake]
  rw [mask_of_lt_length h, hhead, hlast, shown, ends]

/-- Two long tokens are shown alike if and only if they have the same ends. -/
theorem mask_eq_mask_iff (hv : 0 < visible) {other : String} (h : 2 * visible < token.length)
    (ho : 2 * visible < other.length) :
    mask visible token = mask visible other ↔ ends visible token = ends visible other := by
  rw [mask_eq_shown hv h, mask_eq_shown hv ho]
  refine ⟨fun hsame => ?_, fun hends => by rw [hends]⟩
  have hlength : (ends visible token).1.length = (ends visible other).1.length := by
    simp only [ends, List.length_take, String.length_toList]
    omega
  obtain ⟨hfirst, hlast⟩ := List.append_inj (String.ofList_injective hsame) hlength
  exact Prod.ext hfirst (by simpa using hlast)

/-- A token is hidden altogether if and only if it is short. -/
theorem mask_eq_hidden_iff : mask visible token = "***" ↔ token.length ≤ 2 * visible := by
  refine ⟨fun hhidden => ?_, mask_of_length_le⟩
  by_contra hlong
  have hpoint : '.' ∈ (mask visible token).toList := by
    rw [mask_of_lt_length (not_le.1 hlong), String.toList_ofList]
    simp
  rw [hhidden] at hpoint
  exact absurd hpoint (by decide +kernel)

/-- Where no characters are to be shown, all are. -/
theorem mask_zero (h : token ≠ "") : mask 0 token = "..." ++ token := by
  have hlong : 2 * 0 < token.length := by
    rw [← String.length_toList, Nat.mul_zero, List.length_pos_iff]
    exact fun hnil => h (String.toList_injective hnil)
  refine (mask_of_lt_length hlong).trans (String.toList_injective ?_)
  simp [head, last]

end Log

lemma Base64.length_encodeBare (alphabet : Alphabet) (bytes : Bytes) :
    4 * bytes.length ≤ 3 * (encodeBare alphabet bytes).length := by
  induction bytes using encodeBare.induct with
  | case1 => simp [encodeBare]
  | case2 a => simp [encodeBare]
  | case3 a b => simp [encodeBare]
  | case4 a b c rest ih =>
    simp only [encodeBare, List.length_cons]
    omega

namespace Json

lemma print_ne_nil (style : Style) (value : Json) : print style value ≠ [] := by
  have hfloat (x : Number.Binary64) : floatText x ≠ [] := by
    unfold floatText Number.Binary64.text Number.Binary64.magnitudeText
      Number.Binary64.pointedText Number.Binary64.scientificText
    dsimp only
    split_ifs <;> simp
  have hint (n : ℤ) : Number.intText n ≠ [] := by
    cases n with
    | ofNat n => exact Nat.toDigits_ne_nil
    | negSucc n => exact List.cons_ne_nil _ _
  cases value with
  | null => simp [print]
  | bool value => cases value <;> simp [print]
  | int n => simpa [print] using hint n
  | float x => simpa [print] using hfloat x
  | string text => simp [print, stringText]
  | array items => cases items <;> simp [print]
  | object fields =>
    cases fields with
    | nil => simp [print]
    | cons field rest => simp [print, stringText]

lemma length_stringText (ascii : Bool) (text : List Char) :
    text.length + 2 ≤ (stringText ascii text).length := by
  have hle := length_le_flatMap_escapeChar ascii text
  simp only [stringText, List.length_append, List.length_cons, List.length_nil]
  omega

lemma length_fieldsText {name other : String} {value found : Json} {rest : Fields}
    (h : (other, found) ∈ (name, value) :: rest) :
    other.toList.length + (print .compactAscii found).length + 4 ≤
      (fieldsText name value rest).length := by
  induction rest generalizing name value with
  | nil =>
    obtain ⟨rfl, rfl⟩ := Prod.mk.inj (List.mem_singleton.1 h)
    have hname := length_stringText true other.toList
    simp only [fieldsText, printFields, List.length_append, List.length_cons, List.length_nil]
    omega
  | cons next rest ih =>
    obtain ⟨name', value'⟩ := next
    rw [fieldsText, printFields_cons]
    rcases List.mem_cons.1 h with hhead | htail
    · obtain ⟨rfl, rfl⟩ := Prod.mk.inj hhead
      have hname := length_stringText true other.toList
      simp only [List.length_append, List.length_cons, List.length_nil]
      omega
    · have hle := ih htail
      simp only [List.length_append, List.length_cons, List.length_nil]
      omega

lemma length_print_object {name : String} {value : Json} {fields : Fields}
    (h : (name, value) ∈ fields) :
    name.toList.length + (print .compactAscii value).length + 5 ≤
      (print .compactAscii (.object fields)).length := by
  cases fields with
  | nil => cases h
  | cons first rest =>
    obtain ⟨other, found⟩ := first
    rw [print_object_cons, List.length_cons]
    have hle := length_fieldsText h
    omega

end Json

namespace Token
variable {headers header : Json.Fields}

lemma mem_keys_override {fields changes : Json.Fields} {name : String}
    (h : name ∈ fields.map Prod.fst) : name ∈ (override fields changes).map Prod.fst := by
  induction changes generalizing fields with
  | nil => exact h
  | cons change rest ih =>
    refine ih ?_
    rw [Json.keys_upsert]
    split_ifs
    · exact h
    · exact List.mem_append_left _ h

lemma mem_keys_erase {fields : Json.Fields} {name other : String} (hne : other ≠ name)
    (h : other ∈ fields.map Prod.fst) : other ∈ (Json.erase name fields).map Prod.fst := by
  rw [Json.keys_erase]
  exact List.mem_filter.2 ⟨h, by simpa using hne⟩

lemma algorithm_mem_withDefaults (headers : Json.Fields) :
    HeaderName.algorithm ∈ (withDefaults headers).map Prod.fst := by
  have hfull : HeaderName.algorithm ∈ (override [(HeaderName.type, .string "JWT"),
      (HeaderName.algorithm, chosenAlgorithm headers)] headers).map Prod.fst :=
    mem_keys_override (by simp)
  unfold withDefaults
  dsimp only
  split
  · split_ifs
    · exact mem_keys_erase (by decide) hfull
    · exact hfull
  · exact hfull

lemma exists_algorithm_mem (hh : headerFor headers = .ok header)
    (hu : isUnencoded headers = false) : ∃ value, (HeaderName.algorithm, value) ∈ header := by
  unfold headerFor at hh
  simp only [hu, Bool.false_eq_true, if_false] at hh
  split_ifs at hh
  obtain rfl := Except.ok.inj hh
  have hne : HeaderName.algorithm ≠ HeaderName.unencoded := by decide
  have hmem := mem_keys_erase hne (algorithm_mem_withDefaults headers)
  obtain ⟨⟨name, value⟩, hfield, rfl⟩ := List.mem_map.1 hmem
  exact ⟨value, hfield⟩

lemma unencoded_mem (hh : headerFor headers = .ok header) (hu : isUnencoded headers = true) :
    (HeaderName.unencoded, .bool false) ∈ header := by
  have hne : HeaderName.unencoded ≠ HeaderName.critical := by decide
  have hlookup : header.lookup HeaderName.unencoded = some (.bool false) := by
    unfold headerFor withCritical at hh
    simp only [hu, if_true] at hh
    split_ifs at hh
    split at hh
    · obtain rfl := Except.ok.inj hh
      rw [Json.lookup_upsert_of_ne _ _ hne, Json.lookup_upsert_self]
    · split_ifs at hh
      · obtain rfl := Except.ok.inj hh
        exact Json.lookup_upsert_self _ _ _
      · obtain rfl := Except.ok.inj hh
        rw [Json.lookup_upsert_of_ne _ _ hne, Json.lookup_upsert_self]
    · cases hh
  obtain ⟨front, back, rfl, -⟩ := List.lookup_eq_some_iff.1 hlookup
  simp

lemma length_headerText {name : String} {value : Json} (h : (name, value) ∈ header) :
    name.toList.length + (Json.print .compactAscii value.sortKeys).length + 5 ≤
      (headerText header).length := by
  rw [headerText, Json.sortKeys_object_eq]
  refine Json.length_print_object ((Json.sortedFields_perm header).mem_iff.2 ?_)
  exact List.mem_map.2 ⟨(name, value), h, rfl⟩

lemma length_segment (text : List Char) :
    4 * text.length ≤ 3 * (segment (asciiBytes text)).length := by
  have hle := Base64.length_encodeBare .url (asciiBytes text)
  rwa [asciiBytes, List.length_map] at hle

/-- A token is longer than both ends of it that are shown, whatever its signature is. -/
lemma lt_length_of_sign {signer : Signer} {key : SigningKey} {claims : Json.Fields}
    {value : String} (h : sign signer key headers claims = .ok value) : 16 < value.length := by
  obtain ⟨header, signature, hheader, -, rfl⟩ := sign_eq_ok h
  have hfirst := length_segment (headerText header)
  rw [← String.length_toList, String.toList_ofList]
  simp only [List.length_append, List.length_cons]
  cases hu : isUnencoded headers with
  | true =>
    have hroom := length_headerText (unencoded_mem hheader hu)
    have hname : HeaderName.unencoded.toList.length = 3 := by decide
    have hvalue : (Json.print .compactAscii (Json.sortKeys (.bool false))).length = 5 := by decide
    omega
  | false =>
    obtain ⟨algorithm, hmem⟩ := exists_algorithm_mem hheader hu
    have hroom := length_headerText hmem
    have hname : HeaderName.algorithm.toList.length = 3 := by decide
    have hvalue := List.length_pos_iff.2 (Json.print_ne_nil .compactAscii algorithm.sortKeys)
    have hclaims : 2 ≤ (claimsText claims).length := by
      cases claims with
      | nil => decide
      | cons field rest => simp [claimsText, Json.print, Json.stringText]
    have hsecond := length_segment (claimsText claims)
    simp only [Bool.false_eq_true, if_false]
    omega

lemma mask_of_sign {signer : Signer} {key : SigningKey} {claims : Json.Fields} {value : String}
    (h : sign signer key headers claims = .ok value) :
    Log.mask Log.visibleCount value = Log.shown (Log.ends 8 value) := by
  change Log.mask (8 : ℕ) value = _
  exact Log.mask_eq_shown (by omega) (lt_length_of_sign h)

end Token

namespace TokenBuilder
variable {builder : TokenBuilder} {world : World}

/-- The event for a token with some ends. -/
def createdEvent (service : Service) (clientId : Json) (ends : List Char × List Char) :
    Log.Event :=
  ⟨.debug, "token_created", [("service", .string service.name), ("client_id", clientId),
    ("token", .string (Log.shown ends))]⟩

/-- The events for a token that is not made. -/
def refusalEvents : Failure → List Log.Event
  | .signing fault => [⟨.error, "token_signing_failed",
      [("error", .string fault.message), ("exc_info", .bool true)]⟩]
  | _ => []

/-- The events for a token, made or not. -/
def events (service : Service) : Except Failure Token → List Log.Event
  | .ok token => [createdEvent service token.clientId (Log.ends 8 token.value)]
  | .error failure => refusalEvents failure

lemma refusalEvents_of_ne {failure : Failure} (h : ∀ fault, failure ≠ .signing fault) :
    refusalEvents failure = [] := by
  unfold refusalEvents
  split
  · next fault => exact absurd rfl (h fault)
  · rfl

lemma issue_log (builder : TokenBuilder) (claims : Json.Fields) (world : World) :
    (builder.issue claims world).2.log =
      world.log ++ events builder.service (builder.issue claims world).1 := by
  unfold issue
  split
  · rfl
  · next failure hother hsign =>
    rw [events, refusalEvents_of_ne fun fault hfault => hother fault hfault,
      List.append_nil]
  · next value hsign =>
    have hmask := Token.mask_of_sign hsign
    simp only
    split
    · rw [events, refusalEvents_of_ne (by simp), List.append_nil]
    · rw [hmask]
      rfl

lemma create_log (builder : TokenBuilder) (world : World) :
    (builder.create world).2.log =
      world.log ++ events builder.service (builder.create world).1 := by
  have hunsaid {failure : Failure} (h : ∀ fault, failure ≠ .signing fault) :
      world.log = world.log ++ events builder.service (.error failure) := by
    rw [events, refusalEvents_of_ne h, List.append_nil]
  unfold create
  split
  · exact hunsaid (by simp)
  split
  · next failure hclock =>
    refine hunsaid fun fault hfault => ?_
    rw [hfault] at hclock
    unfold Clock.whole at hclock
    split at hclock
    · cases hclock
    · split at hclock <;> cases hclock
  split
  · next failure hexpiration =>
    refine hunsaid fun fault hfault => ?_
    rcases expiration_error hexpiration with ⟨_, rfl⟩ | ⟨_, rfl⟩ <;> cases hfault
  · exact builder.issue_log _ _

end TokenBuilder

/-- Only a lifetime that cannot be read keeps a builder from being made. -/
lemma TokenBuilder.new_error {environment : Environment} {service : Service} {failure : Failure}
    (h : TokenBuilder.new environment service = .error failure) :
    ∃ fault, failure = .wrongValue fault := by
  unfold TokenBuilder.new Environment.readTokenTtl at h
  split at h
  · cases h
  · split at h
    · cases h
    · exact ⟨_, (Except.error.inj h).symm⟩
    · exact ⟨_, (Except.error.inj h).symm⟩

namespace Harness

/-- The events for a token of a harness, made or not. -/
def tokenEvents (service : Service) (result : Except Failure Token) : List Log.Event :=
  TokenBuilder.events service result ++ match result with
    | .ok token => [⟨.debug, "harness_token_created",
        [("token", .string (Log.shown (Log.ends 8 token.value)))]⟩]
    | .error _ => []

lemma tokenBuilder_cases (harness : Harness) (world : World) :
    (∃ builder, harness.tokenBuilder world = .ok builder ∧
      builder.service = harness.config.service) ∨
    ∃ failure, harness.tokenBuilder world = .error failure ∧
      ∀ fault, failure ≠ .signing fault := by
  unfold tokenBuilder
  split
  · next binding _ _ =>
    unfold Binding.createBuilder
    cases hnew : TokenBuilder.new world.environment harness.config.service with
    | ok builder =>
      obtain ⟨ttl, rfl⟩ := TokenBuilder.new_ok hnew
      exact Or.inl ⟨_, rfl, rfl⟩
    | error failure =>
      refine Or.inr ⟨failure, rfl, fun fault hfault => ?_⟩
      obtain ⟨value, rfl⟩ := TokenBuilder.new_error hnew
      cases hfault
  · exact Or.inr ⟨_, rfl, by simp⟩

/-- A harness logs what its builder does, and the masked token once more. -/
lemma createToken_log (harness : Harness) (world : World) :
    (harness.createToken world).2.log =
      world.log ++ tokenEvents harness.config.service (harness.createToken world).1 := by
  unfold createToken tokenEvents
  obtain ⟨builder, hbuilder, hservice⟩ | ⟨failure, hbuilder, hfailure⟩ :=
    harness.tokenBuilder_cases world
  · have hlog := builder.create_log world
    rw [hservice] at hlog
    rw [hbuilder]
    simp only
    split
    · next failure later hcreate =>
      rw [hcreate] at hlog
      simpa using hlog
    · next token later hcreate =>
      have hmade : (builder.create world).1 = .ok token := by rw [hcreate]
      obtain ⟨-, -, -, -, -, hsign, -⟩ := TokenBuilder.create_ok hmade
      rw [hcreate] at hlog
      rw [Token.mask_of_sign hsign, ← List.append_assoc, ← hlog]
      rfl
  · rw [hbuilder]
    simp [TokenBuilder.events, TokenBuilder.refusalEvents_of_ne hfailure]

end Harness

/-- Whether two attempts to make a token look the same: they fail in the same way, or make tokens
for the same client with the same ends. -/
inductive Token.LooksLike : Except Failure Token → Except Failure Token → Prop
  | refused (failure : Failure) : LooksLike (.error failure) (.error failure)
  | made {first second : Token} (hclient : first.clientId = second.clientId)
    (hends : Log.ends 8 first.value = Log.ends 8 second.value) :
    LooksLike (.ok first) (.ok second)

lemma Token.LooksLike.events_eq {first second : Except Failure Token}
    (h : Token.LooksLike first second) (service : Service) :
    TokenBuilder.events service first = TokenBuilder.events service second ∧
      Harness.tokenEvents service first = Harness.tokenEvents service second := by
  cases h with
  | refused failure => exact ⟨rfl, rfl⟩
  | made hclient hends =>
    simp only [Harness.tokenEvents, TokenBuilder.events, hclient, hends, and_self]

/-- Whether two operations add the same events to the log, each in a world of its own. -/
def World.LogAlike (before after before' after' : World) : Prop :=
  ∃ events, after.log = before.log ++ events ∧ after'.log = before'.log ++ events

/-- The ends of long tokens decide how they are masked, and can be read off, exactly if some of them
is shown. A token that the ends would cover is hidden, and ends of no length hide nothing. So two
attempts to make a token, by builders or by harnesses for the same service, log the same if the
tokens look the same, whatever else is in them. -/
theorem mask_hides_middle (visible : ℕ) :
    (0 < visible ↔ ∀ first second : String,
      2 * visible < first.length → 2 * visible < second.length →
        (Log.ends visible first = Log.ends visible second ↔
          Log.mask visible first = Log.mask visible second)) ∧
    (∀ token : String, Log.mask visible token = "***" ↔ token.length ≤ 2 * visible) ∧
    (visible = 0 → ∀ token, token ≠ "" → Log.mask visible token = "..." ++ token) ∧
    (∀ (builder other : TokenBuilder) (world later : World), builder.service = other.service →
      Token.LooksLike (builder.create world).1 (other.create later).1 →
      World.LogAlike world (builder.create world).2 later (other.create later).2) ∧
    ∀ (harness other : Harness) (world later : World),
      harness.config.service = other.config.service →
      Token.LooksLike (harness.createToken world).1 (other.createToken later).1 →
      World.LogAlike world (harness.createToken world).2 later (other.createToken later).2 := by
  refine ⟨⟨fun hv first second hf hs => (Log.mask_eq_mask_iff hv hf hs).symm, fun hsame => ?_⟩,
    fun token => Log.mask_eq_hidden_iff, ?_,
    fun builder other world later hservice hlike => ?_,
    fun harness other world later hservice hlike => ?_⟩
  · -- the last zero characters of two texts agree, yet both are shown as a whole
    rw [Nat.pos_iff_ne_zero]
    rintro rfl
    have hshown := (hsame "a" "b" (by decide +kernel) (by decide +kernel)).1 (by decide +kernel)
    exact absurd hshown (by decide +kernel)
  · rintro rfl token htoken
    exact Log.mask_zero htoken
  · refine ⟨_, builder.create_log world, ?_⟩
    rw [other.create_log, hservice, (hlike.events_eq other.service).1]
  · refine ⟨_, harness.createToken_log world, ?_⟩
    rw [other.createToken_log, hservice, (hlike.events_eq other.config.service).2]

/-- Texts with the same two characters at each end are masked alike, four characters are hidden,
and a running harness logs the token that it makes like any other with its ends. -/
theorem ends_masked_alike :
    Log.mask 2 "ab---yz" = Log.mask 2 "ab+++++yz" ∧ Log.mask 2 "abyz" = "***" ∧
    ∃ token, ((Harness.mersenne.setup {}).self.createToken {}).1 = .ok token ∧
      World.LogAlike {} ((Harness.mersenne.setup {}).self.createToken {}).2 {}
        ((Harness.mersenne.setup {}).self.createToken {}).2 := by
  obtain ⟨hmask, hhidden, -, -, hharness⟩ := mask_hides_middle 2
  obtain ⟨mock, hmock⟩ := Harness.exists_mersenne_mock
  obtain ⟨token, htoken⟩ := Harness.exists_mersenne_token mock
  have hself : { (Harness.mersenne.setup {}).self with mockServer := some mock } =
      (Harness.mersenne.setup {}).self := by rw [← hmock]
  rw [hself] at htoken
  have halike := hmask.1 (by omega) "ab---yz" "ab+++++yz" (by decide +kernel) (by decide +kernel)
  refine ⟨halike.1 (by decide +kernel), (hhidden _).2 (by decide +kernel), token, htoken,
    hharness _ _ _ _ rfl ?_⟩
  rw [htoken]
  exact .made rfl rfl

/-- Two tokens without any shown ends, which the mask shows all the same. -/
theorem hidden_ends_shown :
    2 * 0 < "abc".length ∧ 2 * 0 < "xyz".length ∧ Log.ends 0 "abc" = Log.ends 0 "xyz" ∧
    Log.mask 0 "abc" = "...abc" ∧ Log.mask 0 "xyz" = "...xyz" := by
  decide +kernel

end MockIssuer
