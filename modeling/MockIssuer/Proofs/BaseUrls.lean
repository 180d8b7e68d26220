import Mathlib
import MockIssuer.Endpoints

/-!
# Base URLs

An address is a base, which does not end in a slash, and any number of slashes behind it; the
endpoints are made from the base alone (`stripSlashes_eq_iff`). So slashes at the end make no
difference, and a base stands for itself. Blanks are looked for in the address as it is given,
though: slashes alone are accepted with nothing as their base, and where only blanks stand in front
of the slashes the base is refused as an address (`resolve_normalises`).
-/
namespace MockIssuer.Endpoints

def slashes (count : ℕ) : String := String.ofList (List.replicate count '/')

/-- Whether a text can be a base. -/
def IsBase (text : String) : Prop := text.toList.getLast? ≠ some '/'

/-- Whether only blanks stand in front of the slashes at the end of an address. -/
def IsBlankBase (url : String) : Prop :=
  ∃ blanks count, Text.isBlankText blanks.toList = true ∧ url = blanks ++ slashes count

/-- The addresses that a service publishes. -/
def addresses (endpoints : Endpoints) : List String :=
  [endpoints.tokenEndpoint, endpoints.authorizeEndpoint, endpoints.delegationTokenEndpoint,
    endpoints.jwksUri]

lemma toList_slashes (count : ℕ) : (slashes count).toList = List.replicate count '/' :=
  String.toList_ofList

lemma slashes_add (first second : ℕ) :
    slashes first ++ slashes second = slashes (first + second) := by
  rw [slashes, slashes, ← String.ofList_append, List.replicate_append_replicate, slashes]

lemma isBase_iff {text : String} :
    IsBase text ↔ text.toList.rdropWhile (· == '/') = text.toList := by
  rw [List.rdropWhile_eq_self_iff]
  constructor
  · intro h hne hslash
    exact h (by rw [List.getLast?_eq_getLast_of_ne_nil hne, beq_iff_eq.1 hslash])
  · intro h hlast
    obtain ⟨hne, hslash⟩ := List.mem_getLast?_eq_getLast hlast
    exact h hne (beq_iff_eq.2 hslash.symm)

lemma toList_stripSlashes (url : String) :
    (stripSlashes url).toList = url.toList.rdropWhile (· == '/') :=
  String.toList_ofList

lemma rdropWhile_append_slashes (text : List Char) (count : ℕ) :
    (text ++ List.replicate count '/').rdropWhile (· == '/') = text.rdropWhile (· == '/') := by
  induction count with
  | zero => rw [List.replicate_zero, List.append_nil]
  | succ count ih =>
    rw [List.replicate_succ', ← List.append_assoc, List.rdropWhile_concat_pos _ _ _ (by rfl), ih]

/-- Taking the slashes away leaves the base. -/
theorem stripSlashes_eq_iff {url base : String} :
    stripSlashes url = base ↔ IsBase base ∧ ∃ count, url = base ++ slashes count := by
  constructor
  · rintro rfl
    have hall : ∀ c ∈ url.toList.rtakeWhile (· == '/'), c = '/' := by
      intro c hc
      simpa using List.mem_rtakeWhile_imp hc
    refine ⟨?_, (url.toList.rtakeWhile (· == '/')).length, String.toList_injective ?_⟩
    · rw [isBase_iff, toList_stripSlashes, List.rdropWhile_idempotent]
    · rw [String.toList_append, toList_stripSlashes, toList_slashes,
        ← List.eq_replicate_of_mem hall, List.rdropWhile_append_rtakeWhile]
  · rintro ⟨hbase, count, rfl⟩
    refine String.toList_injective ?_
    rw [toList_stripSlashes, String.toList_append, toList_slashes, rdropWhile_append_slashes,
      isBase_iff.1 hbase]

lemma isBase_stripSlashes (url : String) : IsBase (stripSlashes url) :=
  (stripSlashes_eq_iff.1 rfl).1

lemma stripSlashes_of_isBase {base : String} (h : IsBase base) : stripSlashes base = base :=
  String.toList_injective (by rw [toList_stripSlashes, isBase_iff.1 h])

lemma stripSlashes_append_slashes (url : String) (count : ℕ) :
    stripSlashes (url ++ slashes count) = stripSlashes url := by
  obtain ⟨hbase, first, hurl⟩ := stripSlashes_eq_iff.1 (rfl : stripSlashes url = stripSlashes url)
  refine stripSlashes_eq_iff.2 ⟨hbase, first + count, ?_⟩
  rw [← slashes_add, ← String.append_assoc, ← hurl]

lemma isBase_of_isBlankText {text : String} (h : Text.isBlankText text.toList = true) :
    IsBase text := by
  intro hlast
  have hblank := List.all_eq_true.1 h '/' (List.mem_of_getLast? hlast)
  exact absurd hblank (by decide)

/-- The base is blank exactly where only blanks stand in front of the slashes. -/
lemma isBlankText_stripSlashes_iff (url : String) :
    Text.isBlankText (stripSlashes url).toList = true ↔ IsBlankBase url := by
  constructor
  · intro h
    obtain ⟨-, count, hurl⟩ := stripSlashes_eq_iff.1 (rfl : stripSlashes url = stripSlashes url)
    exact ⟨stripSlashes url, count, h, hurl⟩
  · rintro ⟨blanks, count, h, rfl⟩
    rw [stripSlashes_append_slashes, stripSlashes_of_isBase (isBase_of_isBlankText h), h]

/-- What an address that holds more than blanks is resolved to. -/
lemma resolve_eq_ok_iff {url : String} {endpoints : Endpoints} :
    resolve .xsuaa url = .ok endpoints ↔
      Text.isBlankText url.toList = false ∧ endpoints = below (stripSlashes url) := by
  unfold resolve ofUrl
  cases Text.isBlankText url.toList with
  | true => simp
  | false => simp [eq_comm]

lemma isPrefix_addresses (base : String) :
    ∀ address ∈ (below base).addresses, (base ++ "/").toList <+: address.toList := by
  have hpath {path : String} (rest : String) (h : path = "/" ++ rest) :
      (base ++ "/").toList <+: (base ++ path).toList := by
    rw [h, ← String.append_assoc]
    exact ⟨rest.toList, String.toList_append.symm⟩
  simp only [addresses, List.forall_mem_cons]
  exact ⟨hpath "oauth/token" (by decide +kernel), hpath "oauth/authorize" (by decide +kernel),
    hpath "delegation/token" (by decide +kernel), hpath "token_keys" (by decide +kernel),
    fun _ hnone => by cases hnone⟩

/-- The endpoints at an address that is accepted are those below its base, which does not end in a
slash, and more slashes behind the address make no difference. The base is empty exactly for slashes
alone. As an address it has the same endpoints, unless only blanks stood in front of the slashes:
then it is refused. -/
theorem resolve_normalises {url : String} {endpoints : Endpoints}
    (h : resolve .xsuaa url = .ok endpoints) :
    IsBase endpoints.baseUrl ∧ endpoints = below endpoints.baseUrl ∧
    (∀ address ∈ endpoints.addresses, (endpoints.baseUrl ++ "/").toList <+: address.toList) ∧
    (∀ count, resolve .xsuaa (url ++ slashes count) = .ok endpoints) ∧
    (endpoints.baseUrl = "" ↔ ∃ count, url = slashes count) ∧
    (¬ IsBlankBase url → resolve .xsuaa endpoints.baseUrl = .ok endpoints) ∧
    (IsBlankBase url → resolve .xsuaa endpoints.baseUrl = .error (.wrongValue .emptyBaseUrl)) := by
  obtain ⟨hshown, rfl⟩ := resolve_eq_ok_iff.1 h
  have hbase := isBase_stripSlashes url
  refine ⟨hbase, rfl, isPrefix_addresses _, fun count => ?_, ?_, fun hsome => ?_, fun hblank => ?_⟩
  · rw [resolve_eq_ok_iff, stripSlashes_append_slashes]
    refine ⟨?_, rfl⟩
    rw [Text.isBlankText, String.toList_append, List.all_append]
    exact Bool.and_eq_false_imp.2 fun hall => by
      rw [Text.isBlankText, hall] at hshown
      cases hshown
  · change stripSlashes url = "" ↔ _
    rw [stripSlashes_eq_iff]
    simp [IsBase]
  · rw [resolve_eq_ok_iff]
    rw [← isBlankText_stripSlashes_iff, Bool.not_eq_true] at hsome
    exact ⟨hsome, by rw [below, stripSlashes_of_isBase hbase]; rfl⟩
  · rw [← isBlankText_stripSlashes_iff] at hblank
    exact if_pos hblank

/-- The address of a server with two slashes behind it. -/
theorem slashed_address_resolved :
    resolve .xsuaa "http://localhost:5555//" = .ok (below "http://localhost:5555") ∧
    ¬ IsBlankBase "http://localhost:5555//" ∧
    resolve .xsuaa "http://localhost:5555" = .ok (below "http://localhost:5555") ∧
    resolve .xsuaa ("http://localhost:5555//" ++ slashes 3) =
      .ok (below "http://localhost:5555") := by
  have h : resolve .xsuaa "http://localhost:5555//" = .ok (below "http://localhost:5555") :=
    resolve_eq_ok_iff.2 ⟨by decide +kernel, by decide +kernel⟩
  have hsome : ¬ IsBlankBase "http://localhost:5555//" := by
    rw [← isBlankText_stripSlashes_iff]
    decide +kernel
  obtain ⟨-, -, -, hmore, -, hagain, -⟩ := resolve_normalises h
  exact ⟨h, hsome, hagain hsome, hmore 3⟩

/-- A slash alone is accepted and leaves an empty base, and a blank with a slash behind it leaves a
blank; neither base is accepted. -/
theorem blank_base_refused :
    resolve .xsuaa "/" = .ok (below "") ∧
    resolve .xsuaa "" = .error (.wrongValue .emptyBaseUrl) ∧
    resolve .xsuaa " /" = .ok (below " ") ∧
    resolve .xsuaa " " = .error (.wrongValue .emptyBaseUrl) :=
  ⟨resolve_eq_ok_iff.2 ⟨by decide +kernel, by decide +kernel⟩, by rfl,
    resolve_eq_ok_iff.2 ⟨by decide +kernel, by decide +kernel⟩, by rfl⟩

end MockIssuer.Endpoints
