import MockIssuer.Files.FileSystem
import MockIssuer.Http.Basic

/-!
# Static sites

A directory served as it is. The path of a request is reduced without looking at the files and must
stay inside the directory. A directory is answered by its index, after a redirection to the path
with a slash at its end; where there is nothing to serve, a page for that purpose is served with
status 404 if the site has one.
-/
namespace MockIssuer

structure StaticSite where
  directory : Location
  /-- Whether the directory was seen to exist at a request. -/
  checked : Bool

namespace StaticSite

/-- Components without single dots and empty ones, and with two dots taking one back where there
is one to take. The components are collected newest first. -/
def reduce : List String → List String → List String
  | collected, [] => collected.reverse
  | collected, name :: rest =>
    if name = "" ∨ name = "." then reduce collected rest
    else if name = ".." then
      match collected with
      | [] => reduce [".."] rest
      | last :: others => if last = ".." then reduce (".." :: collected) rest else reduce others rest
    else reduce (name :: collected) rest

/-- Components seen from a location. -/
def resolve (location : Location) (components : List String) : Option Location :=
  components.foldl (fun found name => found.bind fun location =>
    if name = ".." then
      if location.isEmpty then none else some location.dropLast
    else some (location ++ [name])) (some location)

/-- The location inside the site that a reduced path leads to. -/
def locate? (site : StaticSite) (components : List String) : Option Location :=
  match resolve site.directory components with
  | some location => if site.directory.isPrefixOf location then some location else none
  | none => none

/-- What a file name says about the contents of a file. -/
def typesByExtension : List (String × String) :=
  [("html", "text/html"), ("htm", "text/html"), ("txt", "text/plain"), ("css", "text/css"),
    ("json", "application/json"), ("js", "text/javascript"), ("mjs", "text/javascript"),
    ("csv", "text/csv"), ("xml", "text/xml"), ("svg", "image/svg+xml"), ("png", "image/png"),
    ("jpg", "image/jpeg"), ("jpeg", "image/jpeg"), ("gif", "image/gif"),
    ("ico", "image/vnd.microsoft.icon"), ("pdf", "application/pdf"), ("py", "text/x-python"),
    ("wasm", "application/wasm"), ("md", "text/markdown")]

/-- The part of a name after its last point, unless the name begins with that point. -/
def extension (name : String) : String :=
  match (name.toList.dropWhile (· == '.')).reverse.span (· != '.') with
  | (reversed, '.' :: _) => String.ofList (reversed.reverse.map Char.toLower)
  | _ => ""

def contentTypeOf (name : String) : String :=
  (typesByExtension.lookup (extension name)).getD "text/plain"

/-- The response with a file; the answer to a method that asks for the head has no body. -/
def fileResponse (method : String) (status : Nat) (name : String) (contents : Bytes) :
    Http.Response where
  status := status
  body := if method = "HEAD" then "" else String.ofList (Text.decodeUtf8 contents)
  contentType := some (Http.typeWithCharset (contentTypeOf name))
  contentLength := some contents.length

def contents? (files : FileSystem) (location : Location) : Option Bytes :=
  match files.at? location with
  | some (.file contents) => some contents
  | some (.module _) => some []
  | _ => none

/-- The response with the file at a location, if there is one. -/
def serveFile? (files : FileSystem) (method : String) (status : Nat) (location : Location) :
    Option Http.Response :=
  (contents? files location).map
    (fileResponse method status (location.getLast?.getD ""))

def notFound : Http.Answer := .error ⟨"HTTPException", some 404⟩

/-- The page for requests that nothing answers. -/
def serveMissing (site : StaticSite) (files : FileSystem) (method : String) : Http.Answer :=
  match serveFile? files method 404 (site.directory ++ ["404.html"]) with
  | some response => .ok response
  | none => notFound

/-- The redirection of a directory's path to the same path with a slash. -/
def redirectToDirectory (request : Http.Request) : Http.Response :=
  let dropped (text : List Char) := text.filter (!Http.isDropped ·)
  Http.redirect (Http.urlOf (request.shownPath ++ ['/']) (dropped request.query))

/-- The answer of a directory: its index, behind a slash. -/
def serveDirectory (site : StaticSite) (files : FileSystem) (request : Http.Request)
    (location : Location) : Http.Answer :=
  match serveFile? files request.method 200 (location ++ ["index.html"]) with
  | some response =>
    if request.path.getLast? = some '/' then .ok response else .ok (redirectToDirectory request)
  | none => serveMissing site files request.method

/-- The answer of a site whose directory exists or was seen to exist. -/
def serve (site : StaticSite) (files : FileSystem) (request : Http.Request) : Http.Answer :=
  if request.method ≠ "GET" ∧ request.method ≠ "HEAD" then .error ⟨"HTTPException", some 405⟩
  else if request.path.contains (Char.ofNat 0) then notFound
  else
    let components := reduce [] ((request.path.splitOn '/').map String.ofList)
    if components.any (FileSystem.nameLimit < FileSystem.byteLength ·) then notFound
    else
      match site.locate? components with
      | none => serveMissing site files request.method
      | some location =>
        if files.isDirectory location then serveDirectory site files request location
        else
          match serveFile? files request.method 200 location with
          | some response => .ok response
          | none => serveMissing site files request.method

/-- Answers a request. The first one fails if the directory does not exist. -/
def handle (site : StaticSite) (files : FileSystem) (request : Http.Request) :
    Http.Answer × StaticSite :=
  if site.checked || files.isDirectory site.directory then
    let site := { site with checked := true }
    (site.serve files request, site)
  else (.error ⟨"RuntimeError", none⟩, site)

end StaticSite

end MockIssuer
