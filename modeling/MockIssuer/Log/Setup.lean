import MockIssuer.Log.Line
import MockIssuer.Text.Uppercase
import MockIssuer.World.Environment

/-!
# Setting up the log

The log of a process has an outlet or not, a threshold below which nothing is written, and a way to
render records. The first configuration opens the outlet and sets the threshold; every one sets the
renderer. The outlet is opened before the level is looked at, so a configuration that fails because
of its level leaves an outlet behind and the threshold as it is for good.
-/
namespace MockIssuer.Log

structure Setup where
  hasOutlet : Bool := false
  threshold : Nat := Level.number .warning
  renderer : Option Renderer := none

/-- The format of lines that has a name among those of the levels. -/
def plainFormat : String := "%(levelname)s:%(name)s:%(message)s"

/-- The table of formats that has a name among those of the levels. -/
def formatTable : String :=
  "\x7b'%': (<class 'logging.PercentStyle'>, '" ++ plainFormat ++
    "'), '\x7b': (<class 'logging.StrFormatStyle'>, " ++
    "'\x7blevelname\x7d:\x7bname\x7d:\x7bmessage\x7d'), " ++
    "'$': (<class 'logging.StringTemplateStyle'>, " ++
    "'$\x7blevelname\x7d:$\x7bname\x7d:$\x7bmessage\x7d')\x7d"

/-- The threshold that a name stands for. A name that stands for nothing means the level of
information; the names of formats are refused. -/
def thresholdNamed (name : String) : Except Failure Nat :=
  match name with
  | "NOTSET" => .ok 0
  | "DEBUG" => .ok (Level.number .debug)
  | "WARN" | "WARNING" => .ok (Level.number .warning)
  | "ERROR" => .ok (Level.number .error)
  | "CRITICAL" | "FATAL" => .ok (Level.number .critical)
  | "BASIC_FORMAT" => .error (.wrongValue (.levelName plainFormat))
  | "_STYLES" => .error (.wrongType (.notALevel formatTable))
  | _ => .ok (Level.number .info)

/-- The threshold that the environment asks for, in any case. -/
def requestedThreshold (environment : Environment) : Except Failure Nat :=
  thresholdNamed (String.ofList (Text.upper (environment.logLevel.getD "INFO").toList))

/-- The renderer that the environment asks for. The letters of its name have no other lower-case
form beyond ASCII. -/
def requestedRenderer (environment : Environment) : Renderer :=
  match environment.logFormat with
  | some name => if name.toList.map Char.toLower = "console".toList then .console else .json
  | none => .json

namespace Setup

/-- Configures the log from the environment. -/
def configure (setup : Setup) (environment : Environment) : Except Failure Unit × Setup :=
  let renderer := some (requestedRenderer environment)
  if setup.hasOutlet then (.ok (), { setup with renderer })
  else
    match requestedThreshold environment with
    | .ok threshold => (.ok (), { hasOutlet := true, threshold, renderer })
    | .error failure => (.error failure, { setup with hasOutlet := true })

/-- Begins a test session, which configures the log if its option asks for it. -/
def beginSession (setup : Setup) (environment : Environment) (option : Json) :
    Except Failure Unit × Setup :=
  if option.isFalsy then (.ok (), setup) else setup.configure environment

def isConfigured (setup : Setup) : Bool := setup.renderer.isSome

end Setup

/-- A logger that was asked for by a name. Once it has written to a configured log it keeps the
renderer that was there, whatever is configured later. -/
structure Logger where
  name : Json
  renderer : Option Renderer := none

namespace Logger

/-- The name that a logger writes under; one without a name is the root. -/
def shownName (logger : Logger) : Except Failure String :=
  match logger.name with
  | .string name => .ok (if name.isEmpty then "root" else name)
  | other => if other.isFalsy then .ok "root" else .error (.wrongType .notALogger)

/-- The line for an event. -/
def line (renderer : Renderer) (name : Option String) (level : Level) (event : Json)
    (fields : Json.Fields) : Except Failure String := do
  if fields.any (·.1 = "event") then
    throw (.wrongType (.repeatedArgument ("BoundLogger." ++ level.name) "event"))
  return (← Record.line renderer ⟨name, level, event, fields⟩) ++ "\n"

/-- The output for an event. Before the log is configured everything is written, without the
name of the logger; afterwards what reaches the threshold. -/
def write (logger : Logger) (setup : Setup) (level : Level) (event : Json)
    (fields : Json.Fields) : Except Failure String × Logger :=
  match setup.renderer with
  | none => (line .console none level event fields, logger)
  | some latest =>
    match logger.shownName with
    | .error failure => (.error failure, logger)
    | .ok name =>
      let renderer := logger.renderer.getD latest
      let output := line renderer name level event fields
      (if level.number < setup.threshold then output.map fun _ => "" else output,
        { logger with renderer := some renderer })

end Logger

/-- The output for an event of a logger that is asked for anew. -/
def Setup.write (setup : Setup) (name : Json) (level : Level) (event : Json)
    (fields : Json.Fields) : Except Failure String :=
  (Logger.write { name } setup level event fields).1

/-- An option that a test session reads from its settings. -/
structure SessionOption where
  name : String
  description : String
  kind : String
  default : Bool

/-- The option to configure the log when a session begins. -/
def configureOption : SessionOption :=
  { name := "security_harness_configure_logging"
    description := "Configure structlog for harness events at session start"
    kind := "bool"
    default := false }

end MockIssuer.Log
