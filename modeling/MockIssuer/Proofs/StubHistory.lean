import MockIssuer.Proofs.JsonText
import MockIssuer.Proofs.MockUse

/-!
# Mock servers and their histories

A history lists what was done to a mock server, oldest first. All that a server keeps of it is a
table and a journal, and these are enough to answer every request as the whole history asks for
(`refines_history`): from the stub that was registered last for the target of the request, or else
for its path. The invariant is one equation for the journal and two for the table, its keys and its
lookup; each is kept by every event.
-/
namespace MockIssuer

/-- The method and the path that a stub is registered under. -/
def Stub.key (stub : Stub) : String × String :=
  (stub.method, stub.path)

lemma Stub.isFor_iff {stub : Stub} {method path : String} :
    stub.isFor method path = true ↔ stub.key = (method, path) := by
  simp [Stub.isFor, Stub.key]

/-- The method of a stub is the one in its fields, trimmed and in upper case. -/
lemma Stub.normalMethod_of_ofFields {fields : Raw.Fields} {stub : Stub}
    (h : Stub.ofFields fields = .ok stub) :
    ∃ method, Raw.field fields "method" Raw.string (some "GET") = .ok method ∧
      Stub.normalMethod method = .ok stub.method := by
  unfold Stub.ofFields at h
  simp only at h
  split at h
  · next method path body statusCode contentType hmethod _ _ _ _ =>
    obtain rfl := Except.ok.inj h
    unfold Raw.field at hmethod ⊢
    cases hraw : fields.lookup "method" with
    | none =>
      rw [hraw] at hmethod
      obtain rfl := Except.ok.inj hmethod
      have hget : Stub.normalMethod "GET" = .ok "GET" := by decide +kernel
      exact ⟨"GET", rfl, hget⟩
    | some raw =>
      rw [hraw] at hmethod
      cases hstring : raw.string with
      | error problem =>
        simp only [hstring] at hmethod
        cases hmethod
      | ok given =>
        simp only [hstring] at hmethod
        exact ⟨given, hstring, hmethod⟩
  · cases h

namespace StubTable

lemma map_key_register (table : StubTable) (stub : Stub) :
    (table.register stub).map Stub.key =
      if stub.key ∈ table.map Stub.key then table.map Stub.key
      else table.map Stub.key ++ [stub.key] := by
  induction table with
  | nil => simp [register]
  | cons old rest ih =>
    by_cases hsame : old.key = stub.key
    · have hold : old.isFor stub.method stub.path = true := Stub.isFor_iff.2 hsame
      simp [register, hold, hsame]
    · have hold : old.isFor stub.method stub.path = false := by
        rw [← Bool.not_eq_true, Stub.isFor_iff]
        exact hsame
      have hne : ¬ stub.key = old.key := fun h => hsame h.symm
      simp only [register, hold, Bool.false_eq_true, if_false, List.map_cons, ih, List.mem_cons,
        hne, false_or]
      split_ifs <;> simp

lemma find?_of_mem {table : StubTable} (hn : (table.map Stub.key).Nodup) {stub : Stub}
    (hm : stub ∈ table) : table.find? stub.method stub.path = some stub := by
  induction table with
  | nil => cases hm
  | cons old rest ih =>
    rw [List.map_cons, List.nodup_cons] at hn
    rcases List.mem_cons.1 hm with rfl | hrest
    · exact List.find?_cons_of_pos (Stub.isFor_iff.2 rfl)
    · have hother : old.isFor stub.method stub.path = false := by
        rw [← Bool.not_eq_true, Stub.isFor_iff]
        intro hkey
        exact hn.1 (hkey ▸ List.mem_map_of_mem hrest)
      have hskip : StubTable.find? (old :: rest) stub.method stub.path =
          StubTable.find? rest stub.method stub.path :=
        List.find?_cons_of_neg (by simp [hother])
      rw [hskip]
      exact ih hn.2 hrest

end StubTable

section EraseDups
variable {α : Type} [BEq α] [LawfulBEq α]

lemma eraseDups_concat (items : List α) (item : α) : (items ++ [item]).eraseDups =
    if item ∈ items then items.eraseDups else items.eraseDups ++ [item] := by
  rw [List.eraseDups_append]
  by_cases hmem : item ∈ items
  · have hnone : [item].removeAll items = [] := by
      rw [List.removeAll, List.filter_eq_nil_iff]
      simp [hmem]
    rw [hnone, if_pos hmem, List.eraseDups_nil, List.append_nil]
  · have hall : [item].removeAll items = [item] := by
      rw [List.removeAll, List.filter_eq_self]
      simp [hmem]
    rw [hall, if_neg hmem, List.eraseDups_cons]
    simp

lemma nodup_eraseDups (items : List α) : items.eraseDups.Nodup := by
  induction hlength : items.length using Nat.strong_induction_on generalizing items with
  | _ length ih =>
    cases items with
    | nil => exact List.nodup_nil
    | cons item rest =>
      have hle : (rest.filter (fun other => !other == item)).length ≤ rest.length :=
        List.length_filter_le _ _
      rw [List.length_cons] at hlength
      rw [List.eraseDups_cons, List.nodup_cons, List.mem_eraseDups]
      refine ⟨?_, ih _ (by omega) _ rfl⟩
      simp

end EraseDups

namespace MockServer

/-- The document for a request that no stub answers names its method and its target. -/
lemma parse?_unmatched (method target : String) :
    Json.parse? (unmatched method target).body.toList =
      some (.object [("error", .string "no stub registered"), ("method", .string method),
        ("path", .string target)]) := by
  set text : List Char := '{' :: (Json.stringText false "error".toList ++ ':' ::
    (Json.stringText false "no stub registered".toList ++ ',' ::
    (Json.stringText false "method".toList ++ ':' :: (Json.stringText false method.toList ++ ',' ::
    (Json.stringText false "path".toList ++ ':' ::
    (Json.stringText false target.toList ++ ['}'])))))) with htext
  have hbody : (unmatched method target).body.toList = text := by
    simp [unmatched, Http.response, Json.render, Json.print, Json.printFields, Json.Style.compact,
      htext]
  obtain ⟨fuel, hfuel⟩ : ∃ fuel, text.length + 1 = fuel + 5 := by
    have hlength : 4 ≤ text.length := by
      simp only [htext, List.length_cons, List.length_append]
      omega
    exact ⟨text.length - 4, by omega⟩
  have hquote (chars rest : List Char) : Json.skipSpace (Json.stringText false chars ++ rest) =
      Json.stringText false chars ++ rest := Json.skipSpace_quote _
  have hspace : Json.skipSpace text = text := by simp [htext, Json.skipSpace]
  have hread : Json.readValue (fuel + 5) text = some (.object [
      ("error", .string "no stub registered"), ("method", .string method),
      ("path", .string target)], []) := by
    simp only [htext, Json.readValue, hquote]
    split
    · next hb => simp [Json.stringText] at hb
    · rw [Json.readFields_string, Json.readMoreFields_comma, hquote, Json.readFields_string,
        Json.readMoreFields_comma, hquote, Json.readFields_string, Json.readMoreFields_brace]
      simp [Json.upsert]
  rw [hbody, Json.parse?, hfuel, hspace, hread]
  simp [Json.skipSpace]

/-- What is done to a mock server. -/
inductive Event where
  | register (stub : Stub)
  | registerFields (fields : Raw.Fields)
  | respond (method path query : String)
  | resetRequests

namespace Event

/-- The server after an event in a world. -/
def apply (mock : MockServer) (world : World) : Event → MockServer
  | register stub => (mock.register stub world).1
  | registerFields fields => (mock.registerFields fields world).self
  | respond method path query => (mock.respond method path query world).self
  | resetRequests => mock.resetRequests

/-- The stub that an event registers. Fields that make no stub register nothing. -/
def stub? : Event → Option Stub
  | register stub => some stub
  | registerFields fields => (Stub.ofFields fields).toOption
  | _ => none

/-- The method and the target of an event that is a request. -/
def request? : Event → Option (String × String)
  | respond method path query => some (method, targetOf path query)
  | _ => none

def isReset : Event → Bool
  | resetRequests => true
  | _ => false

end Event

/-- Events, oldest first, each with the world in which it happened. -/
abbrev History := List (Event × World)

/-- The server after a history. -/
def run (mock : MockServer) (history : History) : MockServer :=
  history.foldl (fun mock event => event.1.apply mock event.2) mock

namespace History

/-- The stubs that were registered, oldest first. -/
def stubs (history : History) : List Stub :=
  history.filterMap (·.1.stub?)

/-- The stub that was registered last for a method and a path. -/
def latest? (history : History) (method path : String) : Option Stub :=
  history.stubs.reverse.find? (·.isFor method path)

/-- The stub that a request is answered from: the latest one for its whole target, or, if there is
none and the request has a query, the latest one for its path. -/
def answering? (history : History) (method path query : String) : Option Stub :=
  if query.isEmpty then history.latest? method path
  else (history.latest? method (path ++ "?" ++ query)).or (history.latest? method path)

/-- The answer to a request. -/
def answer (history : History) (method path query : String) : Except Failure Http.Response :=
  match history.answering? method path query with
  | some stub => stubResponse stub
  | none => .ok (unmatched method (targetOf path query))

/-- The requests since the journal was cleared last, answered or not. -/
def requests (history : History) : List (String × String) :=
  (history.rtakeWhile (!·.1.isReset)).filterMap (·.1.request?)

variable {history : History} {event : Event} {world : World}

lemma stubs_concat : stubs (history ++ [(event, world)]) = history.stubs ++ event.stub?.toList := by
  unfold stubs
  rw [List.filterMap_append]
  cases h : event.stub? <;> simp [h]

lemma latest?_concat (method path : String) :
    latest? (history ++ [(event, world)]) method path =
      (event.stub?.filter (·.isFor method path)).or (history.latest? method path) := by
  unfold latest?
  rw [stubs_concat, List.reverse_append, List.find?_append]
  cases event.stub? with
  | none => rfl
  | some stub => cases h : stub.isFor method path <;> simp [h, Option.filter]

lemma requests_concat :
    requests (history ++ [(event, world)]) =
      if event.isReset then [] else history.requests ++ event.request?.toList := by
  unfold requests
  rw [List.rtakeWhile_concat]
  cases hreset : event.isReset with
  | true => simp
  | false => cases hentry : event.request? <;> simp [hentry]

lemma latest?_eq_some_iff {method path : String} {stub : Stub} :
    history.latest? method path = some stub ↔ stub.key = (method, path) ∧
      ∃ earlier later, history.stubs = earlier ++ stub :: later ∧
        ∀ other ∈ later, other.key ≠ (method, path) := by
  have hnot (other : Stub) :
      (!other.isFor method path) = true ↔ other.key ≠ (method, path) := by
    rw [Bool.not_eq_true', ← Bool.not_eq_true, Ne, Stub.isFor_iff]
  unfold latest?
  rw [List.find?_eq_some_iff_append, Stub.isFor_iff]
  refine and_congr_right fun _ => ?_
  constructor
  · rintro ⟨later, earlier, hstubs, hlater⟩
    refine ⟨earlier.reverse, later.reverse, ?_, fun other ho => ?_⟩
    · rw [← List.reverse_inj, hstubs]
      simp
    · exact (hnot other).1 (hlater other (List.mem_reverse.1 ho))
  · rintro ⟨earlier, later, hstubs, hlater⟩
    refine ⟨later.reverse, earlier.reverse, ?_, fun other ho => ?_⟩
    · rw [hstubs]
      simp
    · exact (hnot other).2 (hlater other (List.mem_reverse.1 ho))

/-- A stub answers requests with its own method only, and for its path with another query it does
not answer. -/
lemma key_of_answering? {method path query : String} {stub : Stub}
    (h : history.answering? method path query = some stub) :
    stub.method = method ∧ ∀ other, other ≠ query → stub.path ≠ path ++ "?" ++ other := by
  have hlonger (other : String) : path ≠ path ++ "?" ++ other := by
    intro hpath
    have hlength := congrArg String.length hpath
    simp only [String.length_append] at hlength
    have hmark : "?".length = 1 := rfl
    omega
  have hpath (hkey : stub.key = (method, path)) :
      stub.method = method ∧ ∀ other, other ≠ query → stub.path ≠ path ++ "?" ++ other := by
    refine ⟨congrArg Prod.fst hkey, fun other _ => ?_⟩
    rw [show stub.path = path from congrArg Prod.snd hkey]
    exact hlonger other
  unfold answering? at h
  split_ifs at h
  · exact hpath (latest?_eq_some_iff.1 h).1
  · rcases Option.or_eq_some_iff.1 h with hexact | ⟨-, hplain⟩
    · have hkey := (latest?_eq_some_iff.1 hexact).1
      refine ⟨congrArg Prod.fst hkey, fun other hother heq => hother ?_⟩
      have hsame : path ++ "?" ++ query = path ++ "?" ++ other :=
        (congrArg Prod.snd hkey).symm.trans heq
      exact (String.append_right_inj _).1 hsame.symm
    · exact hpath (latest?_eq_some_iff.1 hplain).1

end History

section Run
variable {mock : MockServer} {history : History} {event : Event} {world : World}

lemma run_concat :
    mock.run (history ++ [(event, world)]) = event.apply (mock.run history) world := by
  unfold run
  rw [List.foldl_concat]

lemma Event.stubs_apply :
    (event.apply mock world).stubs = event.stub?.elim mock.stubs mock.stubs.register := by
  cases event with
  | register stub => rfl
  | registerFields fields =>
    simp only [apply, MockServer.registerFields, stub?]
    cases Stub.ofFields fields <;> rfl
  | respond method path query => exact (respond_self mock method path query world).2
  | resetRequests => rfl

lemma Event.journal_apply : (event.apply mock world).journal =
    if event.isReset then [] else mock.journal ++ event.request?.toList := by
  cases event with
  | register stub => simp [apply, MockServer.register, isReset, request?]
  | registerFields fields =>
    simp only [apply, MockServer.registerFields, isReset, request?]
    cases Stub.ofFields fields <;> simp [MockServer.register]
  | respond method path query =>
    simp only [apply, MockServer.respond, isReset, request?]
    split <;> simp
  | resetRequests => rfl

/-- The journal of a new server has the requests of its history. -/
theorem journal_run (hj : mock.journal = []) (history : History) :
    (mock.run history).journal = history.requests := by
  induction history using List.reverseRecOn with
  | nil => exact hj
  | append_singleton history event ih =>
    rw [run_concat, Event.journal_apply, ih, History.requests_concat]

/-- Looking up a new server's table finds the latest stub of its history. -/
theorem find?_run (hs : mock.stubs = []) (history : History) (method path : String) :
    (mock.run history).stubs.find? method path = history.latest? method path := by
  induction history using List.reverseRecOn with
  | nil =>
    change mock.stubs.find? method path = none
    rw [hs]
    rfl
  | append_singleton history event ih =>
    rw [run_concat, Event.stubs_apply, History.latest?_concat]
    cases event.1.stub? with
    | none => exact ih
    | some stub =>
      change (StubTable.register _ stub).find? method path = _
      rw [StubTable.find?_register, ih]
      cases hfor : stub.isFor method path <;> simp [hfor, Option.filter]

/-- The keys of a new server's table are those that its history has registered, in the order of
their first registration. -/
theorem map_key_run (hs : mock.stubs = []) (history : History) :
    (mock.run history).stubs.map Stub.key = (history.stubs.map Stub.key).eraseDups := by
  induction history using List.reverseRecOn with
  | nil =>
    change mock.stubs.map Stub.key = [].eraseDups
    rw [hs]
    rfl
  | append_singleton history event ih =>
    rw [run_concat, Event.stubs_apply, History.stubs_concat]
    cases event.1.stub? with
    | none => simpa using ih
    | some stub =>
      change (StubTable.register _ stub).map Stub.key = _
      rw [StubTable.map_key_register, ih, Option.toList_some, List.map_append, List.map_singleton,
        eraseDups_concat]
      simp only [List.mem_eraseDups]

/-- Every stub of a new server's table is the latest one for its method and path. -/
theorem latest?_of_mem_run (hs : mock.stubs = []) (history : History) :
    ((mock.run history).stubs.map Stub.key).Nodup ∧ ∀ stub ∈ (mock.run history).stubs,
      history.latest? stub.method stub.path = some stub := by
  have hnodup : ((mock.run history).stubs.map Stub.key).Nodup := by
    rw [map_key_run hs]
    exact nodup_eraseDups (history.stubs.map Stub.key)
  refine ⟨hnodup, fun stub hm => ?_⟩
  rw [← find?_run hs]
  exact StubTable.find?_of_mem hnodup hm

/-- The history says how a request is answered. -/
theorem result_respond_run (hs : mock.stubs = []) (history : History) (method path query : String)
    (world : World) :
    ((mock.run history).respond method path query world).result =
      history.answer method path query := by
  have hfound : (mock.run history).stubs.answer? method path query =
      history.answering? method path query := by
    unfold StubTable.answer? History.answering?
    simp only [find?_run hs]
  unfold respond History.answer
  simp only [hfound]
  cases history.answering? method path query <;> rfl

end Run

/-- Whatever was done to a new server, its answers, its journal and its table are those of its
history. A request is answered from the stub that was registered last for its method and target, or
else, if it has a query, for its method and path, and otherwise with a document that names both; so
no stub answers another method, or its own path with another query. The journal has all requests
since it was cleared last. The table has one stub for each method and path that was registered, the
latest one, in the order of their first registration. Fields that make no stub change nothing, and
those that make one give it their method trimmed and in upper case. -/
theorem refines_history (environment : Environment) (port : ℤ) (host : Option String)
    (history : History) :
    let mock := (new environment port host).run history
    (∀ method path query world,
      (mock.respond method path query world).result = history.answer method path query) ∧
    (∀ method path query, ∀ stub ∈ history.answering? method path query,
      stub.method = method ∧ ∀ other, other ≠ query → stub.path ≠ path ++ "?" ++ other) ∧
    (∀ method target, (unmatched method target).status = 404 ∧
      Json.parse? (unmatched method target).body.toList =
        some (.object [("error", .string "no stub registered"), ("method", .string method),
          ("path", .string target)])) ∧
    mock.journal = history.requests ∧
    mock.stubs.map Stub.key = (history.stubs.map Stub.key).eraseDups ∧
    (mock.stubs.map Stub.key).Nodup ∧
    (∀ stub ∈ mock.stubs, history.latest? stub.method stub.path = some stub) ∧
    (∀ fields violations world, Stub.ofFields fields = .error violations →
      mock.registerFields fields world = ⟨.error (.invalidRecord violations), mock, world⟩) ∧
    ∀ fields stub, Stub.ofFields fields = .ok stub →
      ∃ method, Raw.field fields "method" Raw.string (some "GET") = .ok method ∧
        Stub.normalMethod method = .ok stub.method := by
  intro mock
  have hstubs : (new environment port host).stubs = [] := rfl
  have hjournal : (new environment port host).journal = [] := rfl
  obtain ⟨hnodup, hlatest⟩ := latest?_of_mem_run hstubs history
  refine ⟨result_respond_run hstubs history, fun _ _ _ _ hs => History.key_of_answering? hs,
    fun method target => ⟨rfl, parse?_unmatched method target⟩, journal_run hjournal history,
    map_key_run hstubs history, hnodup, hlatest, ?_, fun _ _ => Stub.normalMethod_of_ofFields⟩
  intro fields violations world hrejected
  unfold registerFields
  rw [hrejected]

end MockServer

end MockIssuer
