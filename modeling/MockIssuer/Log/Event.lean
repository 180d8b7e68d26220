import MockIssuer.Json.Basic

/-!
# Log events

An event has a level, a name and fields in the order in which they were given.
-/
namespace MockIssuer.Log

inductive Level where
  | debug
  | info
  | warning
  | error
  | critical
  deriving DecidableEq, Repr

namespace Level

def name : Level → String
  | debug => "debug"
  | info => "info"
  | warning => "warning"
  | error => "error"
  | critical => "critical"

/-- The level of the operation with the given name. -/
def ofName? : String → Option Level
  | "debug" => some debug
  | "info" => some info
  | "warning" | "warn" => some warning
  | "error" => some error
  | "critical" | "fatal" => some critical
  | _ => none

def number : Level → Nat
  | debug => 10
  | info => 20
  | warning => 30
  | error => 40
  | critical => 50

end Level

structure Event where
  level : Level
  name : String
  fields : Json.Fields

end MockIssuer.Log
