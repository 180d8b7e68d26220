import MockIssuer.Failure.Basic
import MockIssuer.Number.Reading

/-!
# Environment variables

The settings that are read from the environment, each as the text of its variable if it is set.
Readers answer the value of a setting or say why its text has none.
-/
namespace MockIssuer

structure Environment where
  tokenTtl : Option String := none
  shutdownTimeout : Option String := none
  host : Option String := none
  logLevel : Option String := none
  logFormat : Option String := none

namespace Environment

/-- Seconds for which a token is valid where nothing else is said. -/
def defaultTokenTtl : Int := 3600

/-- Seconds that a server gets to finish where nothing else is said. -/
def defaultShutdownTimeout : Number.Binary64 := .ofInt 5

def defaultHost : String := "localhost"

def readTokenTtl (environment : Environment) : Except Failure Int :=
  match environment.tokenTtl with
  | none => .ok defaultTokenTtl
  | some text =>
    match Number.readInteger text.toList with
    | .ok seconds => .ok seconds
    | .error .malformed => .error (.wrongValue (.integerText text))
    | .error (.tooLong digits) => .error (.wrongValue (.integerTooLong digits))

def readShutdownTimeout (environment : Environment) : Except Failure Number.Binary64 :=
  match environment.shutdownTimeout with
  | none => .ok defaultShutdownTimeout
  | some text =>
    match Number.readReal? text.toList with
    | some seconds => .ok seconds
    | none => .error (.wrongValue (.realText text))

/-- The host that servers bind: the one given, unless it is missing or empty. -/
def bindHost (environment : Environment) (given : Option String) : String :=
  match given with
  | some host => if host.isEmpty then environment.host.getD defaultHost else host
  | none => environment.host.getD defaultHost

end Environment

end MockIssuer
