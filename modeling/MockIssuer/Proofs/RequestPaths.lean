import MockIssuer.Proofs.AsciiText
import MockIssuer.Proofs.MockUse

/-!
# Which requests are recorded as they are

The mock server takes the path and the query of a request from its URL. A URL quotes some characters
of a path, drops others and ends a query at a fragment, so what is recorded and answered is the
request itself just if it has no such character (`keeps_target_iff`). Requests of this kind with
different paths stay apart.
-/
namespace MockIssuer

namespace Http

/-- Characters that a URL does not show in a path as they are. -/
def isPathMark (c : Char) : Bool :=
  c == '?' || c == '#' || c == '\\' || isDropped c

/-- Characters that a URL does not show in a query as they are. -/
def isQueryMark (c : Char) : Bool :=
  c == '#' || isDropped c

/-- A request whose URL shows its path and its query as they are. -/
structure Request.IsShown (request : Request) : Prop where
  path : ∀ c ∈ request.path, isPathMark c = false
  query : ∀ c ∈ request.query, isQueryMark c = false

lemma isPathMark_of_mem_urlPathChar {c d : Char} (hd : d ∈ urlPathChar c)
    (hk : isDropped d = false) : isPathMark d = false := by
  unfold urlPathChar at hd
  split_ifs at hd with hq hf hb
  · simp only [List.mem_cons, List.not_mem_nil, or_false] at hd
    rcases hd with rfl | rfl | rfl <;> decide
  · simp only [List.mem_cons, List.not_mem_nil, or_false] at hd
    rcases hd with rfl | rfl | rfl <;> decide
  · simp only [List.mem_cons, List.not_mem_nil, or_false] at hd
    rcases hd with rfl | rfl | rfl <;> decide
  · obtain rfl := List.mem_singleton.1 hd
    simp [isPathMark, hq, hf, hb, hk]

lemma isPathMark_of_mem_shownPath {request : Request} {c : Char} (hc : c ∈ request.shownPath) :
    isPathMark c = false := by
  obtain ⟨hmem, hkept⟩ := List.mem_filter.1 hc
  obtain ⟨d, -, hd⟩ := List.mem_flatMap.1 hmem
  exact isPathMark_of_mem_urlPathChar hd (by simpa using hkept)

lemma isQueryMark_of_mem_shownQuery {request : Request} {c : Char} (hc : c ∈ request.shownQuery) :
    isQueryMark c = false := by
  have hhash : c ≠ '#' := by simpa using List.mem_takeWhile_imp hc
  have hkept := (List.mem_filter.1 (List.takeWhile_subset _ hc)).2
  simp only [Bool.not_eq_true'] at hkept
  simp [isQueryMark, hhash, hkept]

lemma urlPath_eq_self {path : List Char} (h : ∀ c ∈ path, isPathMark c = false) :
    urlPath path = path := by
  unfold urlPath
  induction path with
  | nil => rfl
  | cons c rest ih =>
    have hc : urlPathChar c = [c] := by
      have hmark := h c List.mem_cons_self
      simp only [isPathMark, Bool.or_eq_false_iff, beq_eq_false_iff_ne] at hmark
      simp [urlPathChar, hmark]
    rw [List.flatMap_cons, hc, ih fun d hd => h d (List.mem_cons_of_mem c hd)]
    rfl

lemma shownPath_eq_iff {request : Request} :
    request.shownPath = request.path ↔ ∀ c ∈ request.path, isPathMark c = false := by
  constructor
  · intro h c hc
    rw [← h] at hc
    exact isPathMark_of_mem_shownPath hc
  · intro h
    unfold Request.shownPath
    rw [urlPath_eq_self h, List.filter_eq_self]
    intro c hc
    have hmark := h c hc
    simp only [isPathMark, Bool.or_eq_false_iff] at hmark
    simp [hmark.2]

lemma shownQuery_eq_iff {request : Request} :
    request.shownQuery = request.query ↔ ∀ c ∈ request.query, isQueryMark c = false := by
  constructor
  · intro h c hc
    rw [← h] at hc
    exact isQueryMark_of_mem_shownQuery hc
  · intro h
    have hmarks (c : Char) (hc : c ∈ request.query) : c ≠ '#' ∧ isDropped c = false := by
      simpa [isQueryMark] using h c hc
    have hfilter : request.query.filter (!isDropped ·) = request.query := by
      rw [List.filter_eq_self]
      intro c hc
      simp [(hmarks c hc).2]
    unfold Request.shownQuery
    rw [hfilter, List.takeWhile_eq_self_iff]
    intro c hc
    simpa using (hmarks c hc).1

/-- A query behind its question mark, if there is one. -/
def queryTail (query : List Char) : List Char :=
  if query.isEmpty then [] else '?' :: query

lemma toList_targetOf (path query : List Char) :
    (targetOf (String.ofList path) (String.ofList query)).toList = path ++ queryTail query := by
  unfold targetOf queryTail
  cases query with
  | nil => simp
  | cons c rest =>
    have hempty : (String.ofList (c :: rest)).isEmpty = false := by
      rw [← Bool.not_eq_true, String.isEmpty_iff]
      simp
    rw [hempty, if_neg Bool.false_ne_true, String.toList_append, String.toList_append,
      String.toList_ofList, String.toList_ofList]
    simp

/-- The path of a target is what stands in front of its first question mark. -/
lemma takeWhile_append_of_head {path rest : List Char} (hp : '?' ∉ path)
    (hr : ∀ c ∈ rest.head?, c = '?') : (path ++ rest).takeWhile (· != '?') = path := by
  have hall : ∀ c ∈ path, (c != '?') = true := by
    intro c hc
    rw [bne_iff_ne]
    rintro rfl
    exact hp hc
  rw [List.takeWhile_append_of_pos hall]
  cases rest with
  | nil => simp
  | cons c rest =>
    obtain rfl := hr c rfl
    simp

lemma head?_queryTail (query : List Char) : ∀ c ∈ (queryTail query).head?, c = '?' := by
  unfold queryTail
  split_ifs <;> simp

lemma queryTail_injective : Function.Injective queryTail := by
  intro first second h
  unfold queryTail at h
  cases first <;> cases second <;> simp_all

lemma notMem_of_isPathMark {path : List Char} (h : ∀ c ∈ path, isPathMark c = false) :
    '?' ∉ path := by
  intro hm
  exact absurd (h '?' hm) (by decide)

/-- A part of a path in front of a question mark is no whole path as it is shown: the question mark
is shown in three characters. -/
lemma shownPath_ne_of_mark {request : Request} {first rest : List Char}
    (hp : request.path = first ++ '?' :: rest) : request.shownPath ≠ first := by
  intro h
  have hplain : ∀ c ∈ first, isPathMark c = false := by
    intro c hc
    rw [← h] at hc
    exact isPathMark_of_mem_shownPath hc
  have hshown : Request.shownPath ⟨"", first, []⟩ = first := shownPath_eq_iff.2 hplain
  have hfirst : (urlPath first).filter (!isDropped ·) = first := hshown
  have hlength := congrArg List.length h
  have hmark : ['%', '3', 'F'].filter (!isDropped ·) = ['%', '3', 'F'] := by decide
  have hquoted : urlPathChar '?' = ['%', '3', 'F'] := rfl
  unfold Request.shownPath at hlength
  unfold urlPath at hfirst hlength
  rw [hp, List.flatMap_append, List.flatMap_cons, List.filter_append, List.filter_append, hfirst,
    hquoted, hmark] at hlength
  simp only [List.length_append, List.length_cons, List.length_nil] at hlength
  omega

/-- What is shown of a request is its target just if everything in it is shown as it is. -/
theorem targetOf_shown_eq_iff (request : Request) :
    targetOf (String.ofList request.shownPath) (String.ofList request.shownQuery) =
      targetOf (String.ofList request.path) (String.ofList request.query) ↔ request.IsShown := by
  rw [← String.toList_inj, toList_targetOf, toList_targetOf]
  constructor
  · intro h
    have hshown : request.shownPath =
        (request.path ++ queryTail request.query).takeWhile (· != '?') := by
      rw [← h, takeWhile_append_of_head
        (notMem_of_isPathMark fun _ => isPathMark_of_mem_shownPath) (head?_queryTail _)]
    have hnone : '?' ∉ request.path := by
      intro hm
      obtain ⟨first, rest, hpath, hfirst⟩ := List.eq_append_cons_of_mem hm
      refine shownPath_ne_of_mark hpath ?_
      rw [hshown, hpath, List.append_assoc]
      exact takeWhile_append_of_head hfirst (by simp)
    have hpath : request.shownPath = request.path := by
      rw [hshown, takeWhile_append_of_head hnone (head?_queryTail _)]
    rw [hpath] at h
    have hquery := queryTail_injective (List.append_cancel_left h)
    exact ⟨shownPath_eq_iff.1 hpath, shownQuery_eq_iff.1 hquery⟩
  · intro h
    rw [shownPath_eq_iff.2 h.path, shownQuery_eq_iff.2 h.query]

lemma path_eq_of_targetOf {first second : Request} (hf : first.IsShown) (hs : second.IsShown)
    (h : targetOf (String.ofList first.path) (String.ofList first.query) =
      targetOf (String.ofList second.path) (String.ofList second.query)) :
    first.path = second.path ∧ first.query = second.query := by
  rw [← String.toList_inj, toList_targetOf, toList_targetOf] at h
  have hpath : first.path = second.path := by
    have hh := congrArg (List.takeWhile (· != '?')) h
    rwa [takeWhile_append_of_head (notMem_of_isPathMark hf.path) (head?_queryTail _),
      takeWhile_append_of_head (notMem_of_isPathMark hs.path) (head?_queryTail _)] at hh
  rw [hpath] at h
  exact ⟨hpath, queryTail_injective (List.append_cancel_left h)⟩

lemma method_ofTarget (method target : String) :
    (Request.ofTarget method target).method = method := by
  unfold Request.ofTarget
  split <;> rfl

/-- A slash in front of a target is in front of its decoded path. -/
lemma head?_path_ofTarget (method : String) {target : String}
    (h : target.toList.head? = some '/') :
    (Request.ofTarget method target).path.head? = some '/' := by
  obtain ⟨rest, hrest⟩ : ∃ rest, target.toList = '/' :: rest := by
    cases hlist : target.toList with
    | nil =>
      rw [hlist] at h
      cases h
    | cons c rest =>
      rw [hlist] at h
      obtain rfl := Option.some.inj h
      exact ⟨rest, rfl⟩
  have hdecode (tail : List Char) : (percentDecode ('/' :: tail)).head? = some '/' := by
    have hbytes : percentBytes ('/' :: tail) = 0x2f :: percentBytes tail := by
      rw [percentBytes]
      · rfl
      · simp
    rw [percentDecode, hbytes, Text.decodeUtf8_cons (by decide)]
    rfl
  unfold Request.ofTarget
  rw [hrest, List.span_eq_takeWhile_dropWhile, List.takeWhile_cons_of_pos (by decide)]
  split
  · next path query hspan =>
    obtain ⟨rfl, -⟩ := Prod.mk.inj hspan
    exact hdecode _
  · next path query _ hspan =>
    obtain ⟨rfl, -⟩ := Prod.mk.inj hspan
    exact hdecode _

lemma isRouted_of_isShown {request : Request} (hs : request.IsShown)
    (h : request.path.head? = some '/') : isRouted request.path = true := by
  cases hpath : request.path with
  | nil =>
    rw [hpath] at h
    cases h
  | cons c rest =>
    rw [hpath] at h
    obtain rfl := Option.some.inj h
    refine List.all_eq_true.2 fun d hd => ?_
    have hmem : d ∈ request.path := by
      rw [hpath]
      exact List.mem_cons_of_mem _ (List.mem_of_mem_dropLast hd)
    rw [bne_iff_ne]
    rintro rfl
    exact absurd (hs.path _ hmem) (by decide)

end Http

namespace MockServer
open Http

/-- What a request of a common method adds to the journal: what is shown of it, if it is routed. -/
lemma journal_handle (mock : MockServer) {request : Request} (hm : request.method ∈ methods)
    (world : World) :
    (mock.handle request world).2.1.journal = if isRouted request.path then
      mock.journal ++ [(request.method,
        targetOf (String.ofList request.shownPath) (String.ofList request.shownQuery))]
      else mock.journal := by
  have hmethod : methods.contains request.method = true := List.contains_iff_mem.2 hm
  unfold handle Request.destination
  rw [hmethod]
  cases hrouted : isRouted request.path with
  | true =>
    simp only [if_true, respond]
    split <;> rfl
  | false =>
    simp only [Bool.false_eq_true, if_false]
    cases isRouted (toggleSlash request.path) <;> rfl

lemma handle_of_isShown (mock : MockServer) {request : Request} (hm : request.method ∈ methods)
    (hp : request.path.head? = some '/') (hs : request.IsShown) (world : World) :
    (mock.handle request world).1 =
      (mock.respond request.method (String.ofList request.path) (String.ofList request.query)
        world).result.mapError fun failure => ⟨failure.family, none⟩ := by
  have hmethod : methods.contains request.method = true := List.contains_iff_mem.2 hm
  unfold handle Request.destination
  rw [hmethod, isRouted_of_isShown hs hp, shownPath_eq_iff.2 hs.path, shownQuery_eq_iff.2 hs.query]
  rfl

/-- A request of a common method is recorded as what its URL shows of it, if it is routed. This is
its own target just if the request is shown as it is, and then it is answered from the table for its
own path and query. Requests of this kind with different paths are recorded differently. -/
theorem keeps_target_iff (mock : MockServer) {method target : String} (hm : method ∈ methods)
    (ht : target.toList.head? = some '/') (world : World) :
    let request := Request.ofTarget method target
    (mock.handle request world).2.1.journal = (if isRouted request.path then
      mock.journal ++ [(method,
        targetOf (String.ofList request.shownPath) (String.ofList request.shownQuery))]
      else mock.journal) ∧
    ((mock.handle request world).2.1.journal = mock.journal ++ [(method,
      targetOf (String.ofList request.path) (String.ofList request.query))] ↔ request.IsShown) ∧
    (request.IsShown → (mock.handle request world).1 =
      (mock.respond method (String.ofList request.path) (String.ofList request.query)
        world).result.mapError fun failure => ⟨failure.family, none⟩) ∧
    ∀ other : Request, other.IsShown → request.IsShown → other.path ≠ request.path →
      targetOf (String.ofList other.path) (String.ofList other.query) ≠
        targetOf (String.ofList request.path) (String.ofList request.query) := by
  intro request
  have hmethod : request.method = method := method_ofTarget method target
  have hcommon : request.method ∈ methods := by rwa [hmethod]
  have hpath : request.path.head? = some '/' := head?_path_ofTarget method ht
  have hjournal := journal_handle mock hcommon world
  rw [hmethod] at hjournal
  refine ⟨hjournal, ?_, fun hs => ?_, fun other ho hs hne h => hne (path_eq_of_targetOf ho hs h).1⟩
  · rw [hjournal, ← targetOf_shown_eq_iff]
    constructor
    · intro h
      split_ifs at h
      · simpa using List.append_cancel_left h
      · simp at h
    · intro h
      rw [if_pos (isRouted_of_isShown ((targetOf_shown_eq_iff request).1 h) hpath), h]
  · rw [handle_of_isShown mock hcommon hpath hs, hmethod]

/-- A request with a query is recorded as it is and answered from the stub for any query. -/
theorem request_with_query_kept :
    let mock := ((new {} 0 none).register ⟨"GET", "/k", "[]", 200, "text/plain"⟩ {}).1
    (Request.ofTarget "GET" "/k?z=a").IsShown ∧
    (mock.handle (Request.ofTarget "GET" "/k?z=a") {}).2.1.journal = [("GET", "/k?z=a")] ∧
    (mock.handle (Request.ofTarget "GET" "/k?z=a") {}).1 =
      .ok (Http.response 200 "[]" "text/plain") := by
  intro mock
  have hm : "GET" ∈ methods := by decide
  have ht : "/k?z=a".toList.head? = some '/' := by decide +kernel
  have hpath : (Request.ofTarget "GET" "/k?z=a").path = ['/', 'k'] := by decide +kernel
  have hquery : (Request.ofTarget "GET" "/k?z=a").query = ['z', '=', 'a'] := by decide +kernel
  have hs : (Request.ofTarget "GET" "/k?z=a").IsShown := by
    constructor
    · simp [hpath, isPathMark, isDropped]
    · simp [hquery, isQueryMark, isDropped]
  obtain ⟨-, hkept, hanswer, -⟩ := keeps_target_iff mock hm ht {}
  have htext : targetOf "/k" "z=a" = "/k?z=a" := by decide +kernel
  have hshown : String.ofList ['/', 'k'] = "/k" ∧ String.ofList ['z', '=', 'a'] = "z=a" := by
    decide +kernel
  rw [hpath, hquery, hshown.1, hshown.2] at hkept hanswer
  have hempty : mock.journal = [] := by decide +kernel
  have hstub : (mock.respond "GET" "/k" "z=a" {}).result =
      .ok (Http.response 200 "[]" "text/plain") := by rfl
  rw [htext, hempty] at hkept
  rw [hstub] at hanswer
  exact ⟨hs, hkept.2 hs, hanswer hs⟩

/-- A tab is lost: its path is recorded and answered as another one. A request with a line feed in
its path is not recorded at all. -/
theorem tab_and_line_feed_lost :
    let mock := ((new {} 0 none).register ⟨"GET", "/ab", "hit", 200, "text/plain"⟩ {}).1
    (Request.ofTarget "GET" "/a%09b").path = ['/', 'a', '\t', 'b'] ∧
    (mock.handle (Request.ofTarget "GET" "/a%09b") {}).2.1.journal = [("GET", "/ab")] ∧
    (mock.handle (Request.ofTarget "GET" "/a%09b") {}).1 =
      .ok (Http.response 200 "hit" "text/plain") ∧
    (mock.handle (Request.ofTarget "GET" "/a%0Ab") {}).2.1.journal = [] := by
  intro mock
  exact ⟨by decide +kernel, by decide +kernel, by rfl, by decide +kernel⟩

end MockServer

end MockIssuer
