import MockIssuer.Config.Violation
import MockIssuer.Failure.Family
import MockIssuer.Harness.Phase
import MockIssuer.Json.Literal
import MockIssuer.Service

/-!
# Failures

Everything that can go wrong, as its cause. `family` is the kind of failure that a caller can tell
apart and `message` its wording. A failure of a teardown holds the failures of the steps below it,
so failures form trees; the message of such a node shows the message of every failure in it.
-/
namespace MockIssuer

/-- The operations that a harness refuses once it has been set up. -/
inductive Operation where
  | setPort
  | setClientId
  | setKeyId
  | setKeys
  | useApplicationServer
  | setup
  deriving DecidableEq, Repr

def Operation.label : Operation → String
  | setPort => "set_port"
  | setClientId => "set_client_id"
  | setKeyId => "set_key_id"
  | setKeys => "set_keys"
  | useApplicationServer => "use_application_server"
  | setup => "setup()"

/-- A refusal by the operating system, with the file that it concerns. -/
structure SystemFault where
  number : Int
  text : String
  file : Option String := none
  deriving DecidableEq

namespace SystemFault

def noSuchFile (file : String) : SystemFault := ⟨2, "No such file or directory", some file⟩
def notADirectory (file : String) : SystemFault := ⟨20, "Not a directory", some file⟩
def isADirectory (file : String) : SystemFault := ⟨21, "Is a directory", some file⟩
def nameTooLong (file : String) : SystemFault := ⟨36, "File name too long", some file⟩
def unknownHost : SystemFault := ⟨-2, "Name or service not known", none⟩
def permissionDenied : SystemFault := ⟨13, "Permission denied", none⟩
def addressInUse : SystemFault := ⟨98, "Address already in use", none⟩

def message (fault : SystemFault) : String :=
  let base := "[Errno " ++ String.ofList (Number.intText fault.number) ++ "] " ++ fault.text
  match fault.file with
  | some file => base ++ ": " ++ quoted file
  | none => base

end SystemFault

/-- What is wrong with key material. -/
inductive KeyFault where
  | unreadable
  | privateNotRsa
  | publicNotRsa
  | mismatch
  | file (fault : SystemFault)
  deriving DecidableEq

def KeyFault.message : KeyFault → String
  | unreadable => "failed to load key material"
  | privateNotRsa => "private key is not an RSA key"
  | publicNotRsa => "public key is not an RSA key"
  | mismatch => "public key does not belong to the private key"
  | file fault => "failed to read key file: " ++ fault.message

/-- Why claims and headers cannot be signed. -/
inductive SigningFault where
  | issuerNotText
  | keyIdNotText
  | criticalNotList
  | keyTooSmall
  | symmetric
  | unsecured
  | notPem
  | unreadableKey
  | wrongCurveKey
  | unhashable (type : String)
  | integerTooLong
  /-- What the library that signs says. -/
  | library (message : String)
  deriving DecidableEq

def SigningFault.message : SigningFault → String
  | issuerNotText => "Issuer (iss) must be a string."
  | keyIdNotText => "Key ID header parameter must be a string"
  | criticalNotList => "Invalid 'crit' header: must be a list"
  | keyTooSmall =>
    "Digest or salt length too long for key size. Use a larger key or shorter salt length if you " ++
      "are specifying a PSS salt"
  | symmetric => "Expected a string or bytes value"
  | unsecured => "When alg = \"none\", key value must be None."
  | notPem => "Expecting a PEM-formatted key."
  | unreadableKey => "Could not parse the provided public key."
  | wrongCurveKey =>
    "Expecting a EllipticCurvePrivateKey/EllipticCurvePublicKey. Wrong key provided for EdDSA " ++
      "algorithms"
  | unhashable type => "unhashable type: '" ++ type ++ "'"
  | integerTooLong =>
    "Exceeds the limit (4300 digits) for integer string conversion; use " ++
      "sys.set_int_max_str_digits() to increase the limit"
  | library message => message

/-- What is wrong with the critical extensions that a finished header names. -/
inductive CriticalFault where
  | notNonEmptyList
  | notStrings
  | unsupported (extension : String)
  | absent (extension : String)
  deriving DecidableEq

def CriticalFault.message : CriticalFault → String
  | notNonEmptyList => "Invalid 'crit' header: must be a non-empty list"
  | notStrings => "Invalid 'crit' header: values must be strings"
  | unsupported extension => "Unsupported critical extension: " ++ extension
  | absent extension => "Critical extension '" ++ extension ++ "' is missing from headers"

/-- Values outside the range of an operation. -/
inductive ValueFault where
  | emptyBaseUrl
  | unknownService (shown : String)
  | smallKey
  | integerText (text : String)
  | integerTooLong (digits : Nat)
  | realText (text : String)
  | nulInPath
  | notATime
  | levelName (text : String)
  deriving DecidableEq

/-- The quoted form of a text, cut after 200 characters. -/
def quotedStart (text : String) : String :=
  String.ofList ((quoted text).toList.take 200)

def ValueFault.message : ValueFault → String
  | emptyBaseUrl => "base_url must be non-empty"
  | unknownService shown => shown ++ " is not a valid Service"
  | smallKey => "key_size must be at least 1024-bits."
  | integerText text => "invalid literal for int() with base 10: " ++ quotedStart text
  | integerTooLong digits =>
    "Exceeds the limit (4300 digits) for integer string conversion: value has " ++
      String.ofList (Number.natText digits) ++
      " digits; use sys.set_int_max_str_digits() to increase the limit"
  | realText text => "could not convert string to float: " ++ quoted text
  | nulInPath => "embedded null byte"
  | notATime => "Invalid value NaN (not a number)"
  | levelName text => "Unknown level: " ++ quoted text

/-- Values of the wrong type. -/
inductive TypeFault where
  | notAPath (type : String)
  | notAKeyId (type : String)
  | addition (type : String)
  | concatenation (type : String)
  | comparison (type : String)
  | notAnInteger (type : String)
  | notALevel (shown : String)
  | notALogger
  | unencodedHost
  | nulInHost
  | repeatedArgument (operation name : String)
  deriving DecidableEq

def TypeFault.message : TypeFault → String
  | notAPath type => "expected str, bytes or os.PathLike object, not " ++ type
  | notAKeyId type => "replace() argument 2 must be str, not " ++ type
  | addition type => "unsupported operand type(s) for +: 'int' and '" ++ type ++ "'"
  | concatenation type => "can only concatenate str (not \"" ++ type ++ "\") to str"
  | comparison type => "'<' not supported between instances of '" ++ type ++ "' and 'int'"
  | notAnInteger type => "'" ++ type ++ "' object cannot be interpreted as an integer"
  | notALevel shown => "Level not an integer or a valid string: " ++ shown
  | notALogger => "A logger name must be a string"
  | unencodedHost => "encoding of hostname failed"
  | nulInHost => "host name must not contain null character"
  | repeatedArgument operation name =>
    operation ++ "() got multiple values for argument " ++ quoted name

/-- Numbers that an operation cannot represent. -/
inductive RangeFault where
  | port
  | keySize
  | integerTooLarge
  | infiniteClock
  | wait
  deriving DecidableEq

def RangeFault.message : RangeFault → String
  | port => "bind(): port must be 0-65535."
  | keySize => "out of range integral type conversion attempted"
  | integerTooLarge => "int too large to convert to float"
  | infiniteClock => "cannot convert float infinity to integer"
  | wait => "timestamp too large to convert to C _PyTime_t"

/-- The first run of characters of a text that are not single bytes: its place, and the run. -/
def wideRun (text : List Char) : Nat × List Char :=
  let (narrow, rest) := text.span (·.toNat < 0x100)
  (narrow.length, rest.takeWhile (0x100 ≤ ·.toNat))

/-- The refusal to write a text with characters that are not single bytes into a header. -/
def encodingMessage (text : String) : String :=
  let (place, run) := wideRun text.toList
  let first := String.ofList (Number.natText place)
  let reason := ": ordinal not in range(256)"
  match run with
  | [c] =>
    "'latin-1' codec can't encode character '" ++ String.ofList (Text.escapeWide c) ++
      "' in position " ++ first ++ reason
  | _ =>
    "'latin-1' codec can't encode characters in position " ++ first ++ "-" ++
      String.ofList (Number.natText (place + run.length - 1)) ++ reason

/-- What a teardown says beside the failures below it. -/
inductive TeardownFault where
  | unfinished (server : String) (port : Nat) (timeout : Number.Binary64)
  | crashed (server : String) (port : Nat)
  | applicationServer
  | harness
  | factory
  | stated (text : String)
  deriving DecidableEq

def serverAt (server : String) (port : Nat) : String :=
  server ++ " on port " ++ String.ofList (Number.natText port)

def TeardownFault.message : TeardownFault → String
  | unfinished server port timeout =>
    serverAt server port ++ " did not stop within " ++ timeout.render ++ "s"
  | crashed server port => serverAt server port ++ " crashed while serving"
  | applicationServer => "Failed to properly stop the application server!"
  | harness => "harness teardown failed"
  | factory => "security harness teardown failed"
  | stated text => text

/-- A failure and its cause. -/
inductive Failure where
  /-- No endpoints are known for the service. -/
  | unsupportedService (service : Service)
  /-- A setter was given values that make no configuration. -/
  | invalidSetting (operation : Operation) (violations : List Violation)
  /-- The fields make no record. -/
  | invalidRecord (violations : List Violation)
  | frozenField (field : String)
  /-- The operation belongs before the set-up. -/
  | tooLate (operation : Operation) (phase : Phase)
  | noGenerator (phase : Phase)
  | notStarted (server : String)
  | startedBefore (server : String)
  | key (fault : KeyFault)
  | noPrivateKey
  | signing (fault : SigningFault)
  | critical (fault : CriticalFault)
  | unknownAlgorithm
  | bind (host : String) (port : Int) (fault : SystemFault)
  | missingWebApp (directory : String)
  | missingApplication (entry name : String)
  | applicationStart (port : Int) (cause : Failure)
  | teardown (fault : TeardownFault) (causes : List Failure)
  | refusedBySystem (fault : SystemFault)
  | wrongValue (fault : ValueFault)
  | wrongType (fault : TypeFault)
  | outOfRange (fault : RangeFault)
  /-- An object of another type stands where a key pair is needed. -/
  | notAKeyPair (type : String)
  /-- A header cannot hold the text. -/
  | wideHeader (text : String)
  /-- Raised by code from outside, with its arguments. -/
  | foreign (family : String) (arguments : List Json)
  deriving Inhabited

namespace Failure

/-- The family of a failure that code from outside raises: a refusal by the operating system is
told apart by its number. -/
def foreignFamily (family : String) (arguments : List Json) : String :=
  match family, arguments with
  | "OSError", .int number :: _ :: files =>
    if files.length ≤ 3 then Family.ofSystemNumber number else family
  | _, _ => family

def family : Failure → String
  | unsupportedService _ => "UnsupportedServiceError"
  | invalidSetting .. => "ConfigurationError"
  | invalidRecord _ => "ValidationError"
  | frozenField _ => "FrozenInstanceError"
  | tooLate .. | noGenerator _ | notStarted _ | startedBefore _ => "HarnessStateError"
  | key _ => "KeyMaterialError"
  | noPrivateKey | signing _ => "TokenGenerationError"
  | critical _ => "InvalidTokenError"
  | unknownAlgorithm => "NotImplementedError"
  | bind .. | missingWebApp _ | missingApplication .. | applicationStart .. =>
    "ResourceStartupError"
  | teardown .. => "ResourceTeardownError"
  | refusedBySystem fault => Family.ofSystemNumber fault.number
  | wrongValue _ => "ValueError"
  | wrongType _ => "TypeError"
  | outOfRange _ => "OverflowError"
  | notAKeyPair _ => "AttributeError"
  | wideHeader _ => "UnicodeEncodeError"
  | foreign family arguments => foreignFamily family arguments

/-- The text of a refusal by the operating system. A file that is null counts as missing. -/
def systemText (number text : Json) (files : List Json) : String :=
  let base := "[Errno " ++ number.display ++ "] " ++ text.display
  match files with
  | [] | .null :: _ => base
  | [file] | [file, _] | [file, _, .null] => base ++ ": " ++ file.literal
  | file :: _ :: target :: _ => base ++ ": " ++ file.literal ++ " -> " ++ target.literal

/-- The text of the arguments that a failure from outside was raised with. -/
def argumentsText (family : String) (arguments : List Json) : String :=
  match arguments with
  | [] => if Family.isWithin family "SyntaxError" then "None" else ""
  | [argument] => if family = "KeyError" then argument.literal else argument.display
  | number :: text :: files =>
    if Family.isWithin family "SyntaxError" then number.display
    else if Family.isWithin family "OSError" && files.length ≤ 3 then systemText number text files
    else Json.tuple arguments

def violationsLine (violations : List Violation) : String :=
  String.ofList (Number.natText violations.length) ++
    (if violations.length = 1 then " validation error" else " validation errors") ++
    " for HarnessConfig"

mutual

/-- The wording of a failure. -/
def message : Failure → String
  | unsupportedService service => "Service " ++ service.name ++ " is not yet supported."
  | invalidSetting operation violations =>
    "invalid " ++ operation.label ++ " value: " ++ violationsLine violations
  | invalidRecord violations => violationsLine violations
  | frozenField field => "cannot assign to field " ++ quoted field
  | tooLate operation phase =>
    operation.label ++ " must be called before setup() (state: " ++ phase.name ++ ")"
  | noGenerator phase =>
    "token generator is available after setup() (state: " ++ phase.name ++ ")"
  | notStarted server => server ++ " has not been started"
  | startedBefore server => server ++ " can only be started once"
  | key fault => fault.message
  | noPrivateKey => "a private key is required to sign tokens"
  | signing fault => "failed to sign token: " ++ fault.message
  | critical fault => fault.message
  | unknownAlgorithm => "Algorithm not supported"
  | bind host port fault =>
    "failed to bind " ++ host ++ ":" ++ String.ofList (Number.intText port) ++ ": " ++ fault.message
  | missingWebApp directory => "web application directory " ++ directory ++ " does not exist"
  | missingApplication entry name => entry ++ " does not define '" ++ name ++ "'"
  | applicationStart port cause =>
    "failed to start the application server on port " ++ String.ofList (Number.intText port) ++
      ": " ++ cause.message
  | teardown fault [] => fault.message
  | teardown fault (cause :: causes) =>
    fault.message ++ " (" ++ cause.family ++ ": " ++ cause.message ++ causesText causes
  | refusedBySystem fault => fault.message
  | wrongValue fault => fault.message
  | wrongType fault => fault.message
  | outOfRange fault => fault.message
  | notAKeyPair type => "'" ++ type ++ "' object has no attribute 'encoded_public_key_b64'"
  | wideHeader text => encodingMessage text
  | foreign family arguments => argumentsText family arguments

def causesText : List Failure → String
  | [] => ")"
  | cause :: causes => "; " ++ cause.family ++ ": " ++ cause.message ++ causesText causes

end

/-- Failures that are handled where anything is handled. -/
def isOrdinary (failure : Failure) : Bool :=
  Family.isWithin failure.family "Exception"

/-- The failures below a teardown. -/
def causes : Failure → List Failure
  | teardown _ causes => causes
  | _ => []

def violations : Failure → List Violation
  | invalidSetting _ violations | invalidRecord violations => violations
  | _ => []

/-- A failure raised from outside by the name of its family, or by another name for it. -/
def raised (family : String) (arguments : List Json) (causes : List Failure) : Failure :=
  if family = "ResourceTeardownError" then
    .teardown (.stated (argumentsText family arguments)) causes
  else .foreign (Family.mainName family) arguments

end Failure

end MockIssuer
