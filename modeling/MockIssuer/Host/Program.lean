import MockIssuer.Json.Basic

/-!
# Programs of web applications

What a module of a web application does when it is loaded: it imports siblings and edits the search
path in some order, and then defines names or raises a failure.
-/
namespace MockIssuer

/-- What a module binds a name to. -/
inductive Definition where
  /-- An application that answers every request with a text and the values of its imports. -/
  | application (text : String)
  | absent
  | value (value : Json)

inductive LoadStep where
  | importModule (name : String)
  /-- Takes the module's own directory off the search path. -/
  | leavePath
  /-- Puts the module's own directory on the search path once more, behind at most `position` of the
  directories that applications have put there. -/
  | enterPath (position : Nat)

inductive Ending where
  | defines (names : List (String × Definition))
  | raises (family : String) (message : String)

structure Program where
  steps : List LoadStep
  ending : Ending

end MockIssuer
