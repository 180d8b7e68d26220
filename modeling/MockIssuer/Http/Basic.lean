import MockIssuer.Encoding.Bytes
import MockIssuer.Text.Hex
import MockIssuer.Text.Utf8

/-!
# Requests and responses

A request names a method and a target, of which the path is decoded and the query is kept. A
response has a status, a body and the few headers that matter here. An application may also fail
on a request, and then answers nothing.
-/
namespace MockIssuer.Http

structure Request where
  method : String
  path : List Char
  query : List Char

structure Response where
  status : Nat
  body : String
  contentType : Option String := none
  contentLength : Option Nat := none
  location : Option String := none
  deriving DecidableEq

/-- A failure on a request: its family, and the status that it stands for if it has one. -/
structure Raised where
  family : String
  status : Option Nat := none
  deriving DecidableEq

abbrev Answer := Except Raised Response

/-- The bytes of a text in which a percent sign and two hexadecimal digits stand for a byte.
A percent sign that no such digits follow stands for itself. -/
def percentBytes : List Char → Bytes
  | '%' :: a :: b :: rest =>
    match Text.hexNumber? [a, b] with
    | some n => n.toUInt8 :: percentBytes rest
    | none => 0x25 :: percentBytes (a :: b :: rest)
  | c :: rest => Text.encodeChar c ++ percentBytes rest
  | [] => []

/-- The decoded text. -/
def percentDecode (text : List Char) : List Char :=
  Text.decodeUtf8 (percentBytes text)

/-- The request of a method and a target, whose query begins after the first question mark. -/
def Request.ofTarget (method target : String) : Request :=
  match target.toList.span (· != '?') with
  | (path, '?' :: query) => ⟨method, percentDecode path, query⟩
  | (path, _) => ⟨method, percentDecode path, []⟩

/-- The host that requests are addressed to. -/
def authority : String := "http://localhost"

/-- The characters of a path as they stand in the URL of a request. Starlette, which makes this URL,
quotes the three that its parser would end the path at or take for a slash, and no others. -/
def urlPathChar (c : Char) : List Char :=
  if c = '?' then ['%', '3', 'F']
  else if c = '#' then ['%', '2', '3']
  else if c = '\\' then ['%', '5', 'C']
  else [c]

def urlPath (path : List Char) : List Char :=
  path.flatMap urlPathChar

/-- Characters that a URL drops wherever they stand. -/
def isDropped (c : Char) : Bool :=
  c == '\t' || c == '\r' || c == '\n'

/-- The path of a request as its URL shows it. -/
def Request.shownPath (request : Request) : List Char :=
  (urlPath request.path).filter (!isDropped ·)

/-- The query of a request as its URL shows it: it ends where a fragment begins. -/
def Request.shownQuery (request : Request) : List Char :=
  (request.query.filter (!isDropped ·)).takeWhile (· != '#')

/-- Characters that a location keeps. -/
def isLocationChar (c : Char) : Bool :=
  c.isAlphanum || "_.-~:/%#?=@[]!$&'()*+,;".toList.contains c

def percentByte (b : UInt8) : List Char :=
  '%' :: (Text.hexDigits 2 b.toNat).map Char.toUpper

/-- A URL as a location header holds it. -/
def locationText (url : List Char) : List Char :=
  url.flatMap fun c => if isLocationChar c then [c] else (Text.encodeChar c).flatMap percentByte

/-- A redirection to a URL. -/
def redirect (url : List Char) : Response where
  status := 307
  body := ""
  contentLength := some 0
  location := some (String.ofList (locationText url))

/-- A path of this host with a query, if there is one. -/
def urlOf (path query : List Char) : List Char :=
  authority.toList ++ path ++ (if query.isEmpty then [] else '?' :: query)

/-- The size of a body in bytes. -/
def bodyLength (body : String) : Nat :=
  (Text.encodeUtf8 body.toList).length

/-- Whether a text holds another one. -/
def holds (part : List Char) : List Char → Bool
  | [] => part.isEmpty
  | c :: rest => part.isPrefixOf (c :: rest) || holds part rest

/-- The content type of a body; texts without a character set are said to be in UTF-8. -/
def typeWithCharset (contentType : String) : String :=
  let lower := contentType.toList.map Char.toLower
  if "text/".toList.isPrefixOf contentType.toList && !holds "charset=".toList lower then
    contentType ++ "; charset=utf-8"
  else contentType

/-- Statuses whose responses have no length. -/
def hasLength (status : Nat) : Bool :=
  !(status < 200 || status == 204 || status == 304)

/-- Whether a header can hold a text: its characters are single bytes. -/
def isHeaderText (text : String) : Bool :=
  text.toList.all (·.toNat < 0x100)

/-- A response with a body of a given type. -/
def response (status : Nat) (body contentType : String) : Response where
  status := status
  body := body
  contentType := some (typeWithCharset contentType)
  contentLength := if hasLength status then some (bodyLength body) else none

end MockIssuer.Http
