import MockIssuer.Http.Basic

/-!
# The path of a URL

A URL is read from the left. Blanks and control characters in front of it do not count; a scheme
ends at a colon, the authority behind two slashes at the next mark, and the path at a query or at a
fragment.
-/
namespace MockIssuer.Http

def isSchemeChar (c : Char) : Bool :=
  c.isAlphanum || c == '+' || c == '-' || c == '.'

/-- What follows the scheme of a URL. A URL without a scheme stays as it is. -/
def afterScheme (url : List Char) : List Char :=
  match url.span (· != ':') with
  | (first :: rest, ':' :: after) =>
    if first.isAlpha && rest.all isSchemeChar then after else url
  | _ => url

/-- Marks that end the authority of a URL. -/
def endsAuthority (c : Char) : Bool :=
  c == '/' || c == '?' || c == '#'

/-- What follows the authority of a URL whose scheme has been taken away. -/
def afterAuthority : List Char → List Char
  | '/' :: '/' :: rest => rest.dropWhile (!endsAuthority ·)
  | url => url

/-- The path of a URL. -/
def pathOf (url : List Char) : List Char :=
  let shown := (url.dropWhile (·.toNat ≤ 0x20)).filter (!isDropped ·)
  (afterAuthority (afterScheme shown)).takeWhile fun c => c != '?' && c != '#'

end MockIssuer.Http
