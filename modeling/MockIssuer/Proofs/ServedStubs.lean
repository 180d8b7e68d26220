import MockIssuer.Proofs.RequestPaths
import MockIssuer.Proofs.StubHistory

/-!
# Which stubs are served

A stub is accepted with any method that is not blank, but only seven methods are routed. A stub for
one of these, with a plain path and a content type that a header can hold, is served as it was
registered until its method and path are registered again. A stub for another method stays in the
table without a use: the route refuses the request before the table is looked at
(`accepted_stub_served`).
-/
namespace MockIssuer

namespace Http

/-- The characters that a URL never quotes. -/
def isUnreserved (c : Char) : Bool :=
  c.isAlphanum || c == '-' || c == '.' || c == '_' || c == '~'

/-- Whether a path consists of slashes and characters that a URL never quotes. -/
def isPlainPath (path : String) : Bool :=
  path.toList.all fun c => c == '/' || isUnreserved c

lemma toNat_lt_of_isUnreserved {c : Char} (h : isUnreserved c = true) : c.toNat < 0x80 := by
  simp only [isUnreserved, Bool.or_eq_true, beq_iff_eq, Char.isAlphanum, Char.isAlpha,
    Char.isUpper, Char.isLower, Char.isDigit, Bool.and_eq_true, decide_eq_true_eq,
    UInt32.le_iff_toNat_le] at h
  have hval : c.val.toNat = c.toNat := rfl
  rcases h with (((((h | h) | h) | rfl) | rfl) | rfl) | rfl
  · have hle : c.val.toNat ≤ 90 := h.2
    omega
  · have hle : c.val.toNat ≤ 122 := h.2
    omega
  · have hle : c.val.toNat ≤ 57 := h.2
    omega
  all_goals decide

lemma plain_char {path : String} (h : isPlainPath path = true) {c : Char} (hc : c ∈ path.toList) :
    c.toNat < 0x80 ∧ c ≠ '%' ∧ isPathMark c = false := by
  have hplain := List.all_eq_true.1 h c hc
  simp only [Bool.or_eq_true, beq_iff_eq] at hplain
  rcases hplain with rfl | h
  · decide
  · refine ⟨toNat_lt_of_isUnreserved h, ?_, ?_⟩
    · rintro rfl
      exact absurd h (by decide)
    · rw [← Bool.not_eq_true]
      intro hmark
      simp only [isPathMark, isDropped, Bool.or_eq_true, beq_iff_eq] at hmark
      rcases hmark with ((rfl | rfl) | rfl) | ((rfl | rfl) | rfl) <;>
        exact absurd h (by decide)

/-- An ASCII character is one byte, which is read back as that character. -/
lemma decodeUtf8_encodeChar_append {c : Char} (hc : c.toNat < 0x80) (rest : Bytes) :
    Text.decodeUtf8 (Text.encodeChar c ++ rest) = c :: Text.decodeUtf8 rest := by
  have hbyte := Bytes.toNat_toUInt8 hc
  have hencode : Text.encodeChar c = [c.toNat.toUInt8] := by
    simp [Text.encodeChar, hc]
  rw [hencode, List.singleton_append, Text.decodeUtf8_cons (hbyte.trans_lt hc), hbyte,
    Char.ofNat_toNat]

lemma percentDecode_cons {c : Char} (hc : c.toNat < 0x80) (hp : c ≠ '%') (rest : List Char) :
    percentDecode (c :: rest) = c :: percentDecode rest := by
  have hbytes : percentBytes (c :: rest) = Text.encodeChar c ++ percentBytes rest := by
    rw [percentBytes]
    rintro a b tail rfl
    exact absurd rfl hp
  rw [percentDecode, hbytes, decodeUtf8_encodeChar_append hc, percentDecode]

lemma percentDecode_eq_self {text : List Char} (h : ∀ c ∈ text, c.toNat < 0x80 ∧ c ≠ '%') :
    percentDecode text = text := by
  induction text with
  | nil => rfl
  | cons c rest ih =>
    obtain ⟨hascii, hpercent⟩ := h c List.mem_cons_self
    rw [percentDecode_cons hascii hpercent, ih fun d hd => h d (List.mem_cons_of_mem c hd)]

lemma ofTarget_of_isPlainPath (method : String) {path : String} (h : isPlainPath path = true) :
    Request.ofTarget method path = ⟨method, path.toList, []⟩ := by
  have hdecode := percentDecode_eq_self fun c hc => ⟨(plain_char h hc).1, (plain_char h hc).2.1⟩
  have hall : ∀ c ∈ path.toList, (c != '?') = true := by
    intro c hc
    rw [bne_iff_ne]
    rintro rfl
    exact absurd (plain_char h hc).2.2 (by decide)
  have hwhole : path.toList.takeWhile (· != '?') = path.toList := by
    rwa [List.takeWhile_eq_self_iff]
  have hnone : path.toList.dropWhile (· != '?') = [] := by
    rwa [List.dropWhile_eq_nil_iff]
  unfold Request.ofTarget
  rw [List.span_eq_takeWhile_dropWhile, hwhole, hnone]
  simp only [hdecode]

lemma isShown_of_isPlainPath (method : String) {path : String} (h : isPlainPath path = true) :
    Request.IsShown ⟨method, path.toList, []⟩ :=
  ⟨fun _ hc => (plain_char h hc).2.2, fun _ hc => absurd hc List.not_mem_nil⟩

lemma isHeaderText_typeWithCharset {contentType : String} (h : isHeaderText contentType = true) :
    isHeaderText (typeWithCharset contentType) = true := by
  unfold typeWithCharset
  simp only
  split_ifs
  · have hsuffix : "; charset=utf-8".toList.all (·.toNat < 0x100) = true := by decide +kernel
    unfold isHeaderText at h ⊢
    rw [String.toList_append, List.all_append, h, hsuffix]
    rfl
  · exact h

lemma destination_of_notMem {request : Request} (hr : isRouted request.path = true)
    (hm : request.method ∉ methods) : request.destination = .methodNotAllowed := by
  have hmethod : methods.contains request.method = false := by
    rw [← Bool.not_eq_true, List.contains_iff_mem]
    exact hm
  unfold Request.destination
  rw [if_pos hr, hmethod]
  rfl

end Http

lemma Stub.head?_path_of_ofFields {fields : Raw.Fields} {stub : Stub}
    (h : Stub.ofFields fields = .ok stub) : stub.path.toList.head? = some '/' := by
  unfold Stub.ofFields at h
  simp only at h
  split at h
  · next method path body statusCode contentType _ hpath _ _ _ =>
    obtain rfl := Except.ok.inj h
    unfold Raw.field at hpath
    cases hraw : fields.lookup "path" with
    | none =>
      rw [hraw] at hpath
      cases hpath
    | some raw =>
      rw [hraw] at hpath
      cases hstring : raw.string with
      | error problem =>
        simp only [hstring] at hpath
        cases hpath
      | ok given =>
        simp only [hstring] at hpath
        change Stub.absolutePath given = .ok path at hpath
        unfold Stub.absolutePath at hpath
        split_ifs at hpath with hslash
        obtain rfl := Except.ok.inj hpath
        exact hslash
  · cases h

namespace MockServer
open Http

/-- A stub in force answers the requests for its path that the route takes. -/
lemma respond_of_find? (mock : MockServer) {stub : Stub}
    (hf : mock.stubs.find? stub.method stub.path = some stub)
    (hc : isHeaderText stub.contentType = true) (world : World) :
    (mock.respond stub.method stub.path "" world).result =
      .ok (Http.response stub.statusCode stub.body stub.contentType) := by
  have hanswer : mock.stubs.answer? stub.method stub.path "" = some stub := hf
  have hheader := isHeaderText_typeWithCharset hc
  unfold respond
  simp only [hanswer]
  unfold stubResponse
  simp only [Http.response, Option.getD_some, hheader, if_true]

/-- An accepted stub with a plain path is kept under its normalised method. While no other is
registered in its place, the request for its method and path is answered with its status, its body
and its content type if its method is one of the routed ones and a header can hold its content type,
and is refused if its method is not routed. -/
theorem accepted_stub_served {fields : Raw.Fields} {stub : Stub}
    (hstub : Stub.ofFields fields = .ok stub) (hpath : isPlainPath stub.path = true)
    (mock : MockServer) (world : World) {after : MockServer}
    (huses : Uses (fun other => other.isFor stub.method stub.path = false)
      (mock.registerFields fields world).self after) (later : World) :
    (mock.registerFields fields world).result = .ok stub ∧
    (∃ given, Raw.field fields "method" Raw.string (some "GET") = .ok given ∧
      Stub.normalMethod given = .ok stub.method) ∧
    (stub.method ∈ methods → isHeaderText stub.contentType = true →
      (after.handle (Request.ofTarget stub.method stub.path) later).1 =
        .ok (Http.response stub.statusCode stub.body stub.contentType)) ∧
    (stub.method ∉ methods →
      (after.handle (Request.ofTarget stub.method stub.path) later).1 =
        .ok (detail 405 "Method Not Allowed")) := by
  have hslash : stub.path.toList.head? = some '/' := Stub.head?_path_of_ofFields hstub
  have hshown := isShown_of_isPlainPath stub.method hpath
  have hregister : (mock.registerFields fields world).self.stubs = mock.stubs.register stub := by
    simp [registerFields, hstub, register]
  have hfind : after.stubs.find? stub.method stub.path = some stub := by
    rw [find?_of_uses huses, hregister, StubTable.find?_register]
    simp [Stub.isFor]
  rw [ofTarget_of_isPlainPath stub.method hpath]
  refine ⟨?_, Stub.normalMethod_of_ofFields hstub, ?_, ?_⟩
  · simp [registerFields, hstub]
  · intro hm hc
    have hrespond := respond_of_find? after hfind hc later
    have hrouted : Request.method ⟨stub.method, stub.path.toList, []⟩ ∈ methods := hm
    have hhandle := after.handle_of_isShown hrouted hslash hshown later
    rw [hhandle]
    have hempty : String.ofList [] = "" := rfl
    simp only [String.ofList_toList, hempty, hrespond]
    rfl
  · intro hm
    have hrouted := isRouted_of_isShown hshown hslash
    have hdestination : Request.destination ⟨stub.method, stub.path.toList, []⟩ =
        .methodNotAllowed := destination_of_notMem hrouted hm
    unfold handle
    rw [hdestination]

/-- A method in mixed case with blanks around it, and a text type without a character set. -/
theorem padded_post_served :
    let fields : Raw.Fields := [("method", .json (.string " pOst ")),
      ("path", .json (.string "/a-b/c~1")), ("body", .json (.string "hi")),
      ("content_type", .json (.string "text/plain"))]
    let mock := ((new {} 0 none).registerFields fields {}).self
    let after := (mock.register ⟨"GET", "/a-b/c~1", "other", 204, "text/html"⟩ {}).1
    Stub.ofFields fields = .ok ⟨"POST", "/a-b/c~1", "hi", 200, "text/plain"⟩ ∧
    (after.handle (Request.ofTarget "POST" "/a-b/c~1") {}).1 =
      .ok ⟨200, "hi", some "text/plain; charset=utf-8", some 2, none⟩ := by
  intro fields mock after
  have hstub : Stub.ofFields fields = .ok ⟨"POST", "/a-b/c~1", "hi", 200, "text/plain"⟩ := by
    decide +kernel
  have hpath : isPlainPath "/a-b/c~1" = true := by decide +kernel
  have huses : Uses (fun other => other.isFor "POST" "/a-b/c~1" = false) mock after :=
    .single (.register mock _ {} (by decide +kernel))
  obtain ⟨-, -, hserved, -⟩ := accepted_stub_served hstub hpath (new {} 0 none) {} huses {}
  have hresponse : Http.response 200 "hi" "text/plain" =
      ⟨200, "hi", some "text/plain; charset=utf-8", some 2, none⟩ := by
    have htype : typeWithCharset "text/plain" = "text/plain; charset=utf-8" := by decide +kernel
    have hlength : bodyLength "hi" = 2 := by decide +kernel
    have hstatus : hasLength 200 = true := by decide
    rw [Http.response, htype, hlength, hstatus]
    rfl
  rw [← hresponse]
  exact ⟨hstub, hserved (by decide) (by decide +kernel)⟩

/-- A stub for a method that is not routed is accepted, and its request is refused. A stub whose
content type no header can hold is accepted, and its request fails. -/
theorem trace_and_wide_type_not_served :
    let trace : Raw.Fields := [("method", .json (.string "TRACE")), ("path", .json (.string "/a")),
      ("body", .json (.string "x"))]
    let wide : Raw.Fields := [("path", .json (.string "/a")),
      ("content_type", .json (.string "application/ł"))]
    Stub.ofFields trace = .ok ⟨"TRACE", "/a", "x", 200, "application/json"⟩ ∧
    (((new {} 0 none).registerFields trace {}).self.handle (Request.ofTarget "TRACE" "/a") {}).1 =
      .ok (detail 405 "Method Not Allowed") ∧
    detail 405 "Method Not Allowed" ≠ Http.response 200 "x" "application/json" ∧
    Stub.ofFields wide = .ok ⟨"GET", "/a", "", 200, "application/ł"⟩ ∧
    (((new {} 0 none).registerFields wide {}).self.handle (Request.ofTarget "GET" "/a") {}).1 =
      .error ⟨"UnicodeEncodeError", none⟩ := by
  intro trace wide
  exact ⟨by decide +kernel, by decide +kernel, by decide +kernel, by decide +kernel,
    by decide +kernel⟩

end MockServer

end MockIssuer
