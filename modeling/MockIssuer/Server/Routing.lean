import MockIssuer.Http.Basic
import MockIssuer.Text.Blank

/-!
# Routing

One route takes every path that begins with a slash and runs to the end of a line, for the common
methods. A path that misses it only by a slash at its end is redirected.
-/
namespace MockIssuer.Http

/-- The methods that are routed. -/
def methods : List String :=
  ["GET", "POST", "PUT", "PATCH", "DELETE", "HEAD", "OPTIONS"]

/-- Whether the route takes a path: only the last character may be a line feed. -/
def isRouted (path : List Char) : Bool :=
  match path with
  | '/' :: rest => rest.dropLast.all (· != '\n')
  | _ => false

/-- The path without the slashes at its end, or with one where it has none. -/
def toggleSlash (path : List Char) : List Char :=
  if path.getLast? = some '/' then Text.dropRightWhile (· == '/') path else path ++ ['/']

/-- Where a request goes. -/
inductive Destination where
  | stubs
  | methodNotAllowed
  | notFound
  | redirected (path : List Char)
  deriving DecidableEq

def Request.destination (request : Request) : Destination :=
  if isRouted request.path then
    if methods.contains request.method then .stubs else .methodNotAllowed
  else if isRouted (toggleSlash request.path) then .redirected (toggleSlash request.path)
  else .notFound

end MockIssuer.Http
