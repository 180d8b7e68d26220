import MockIssuer.Config.Raw
import MockIssuer.Text.Uppercase

/-!
# Stubs

A canned response and the request that it answers. The method is kept trimmed and in upper case,
and the path must be absolute.
-/
namespace MockIssuer

structure Stub where
  method : String
  path : String
  body : String
  statusCode : Nat
  contentType : String
  deriving DecidableEq

namespace Stub

/-- A method trimmed and in upper case; it must hold more than blanks. -/
def normalMethod (method : String) : Except Problem String :=
  if Text.isBlankText method.toList then .error (.refused "method must be non-empty")
  else .ok (String.ofList (Text.upper (Text.trim Text.isBlank method.toList)))

def absolutePath (path : String) : Except Problem String :=
  if path.toList.head? = some '/' then .ok path
  else .error (.refused "path must start with '/'")

/-- The stub of some fields, or what is wrong with them, in the order of the fields. -/
def ofFields (fields : Raw.Fields) : Except (List Violation) Stub :=
  let method := Raw.field fields "method" (fun raw => raw.string.bind normalMethod) (some "GET")
  let path := Raw.field fields "path" (fun raw => raw.string.bind absolutePath) none
  let body := Raw.field fields "body" Raw.string (some "")
  let statusCode := Raw.field fields "status_code" (Raw.integerWithin 100 599) (some 200)
  let contentType := Raw.field fields "content_type" Raw.string (some "application/json")
  match method, path, body, statusCode, contentType with
  | .ok method, .ok path, .ok body, .ok statusCode, .ok contentType =>
    .ok ⟨method, path, body, statusCode.toNat, contentType⟩
  | _, _, _, _, _ =>
    .error ([Raw.violation? "method" method, Raw.violation? "path" path,
      Raw.violation? "body" body, Raw.violation? "status_code" statusCode,
      Raw.violation? "content_type" contentType].filterMap id)

end Stub

end MockIssuer
