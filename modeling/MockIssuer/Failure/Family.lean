/-!
# Families of failures

Every failure belongs to a named family, and every family but the widest lies in a wider one.
`ancestry` lists a family and the ones around it, narrowest first. Families inside `Exception` are
ordinary: they are handled where anything is handled. The others end the process.
-/
namespace MockIssuer.Family

/-- The families directly inside a family. -/
def members : List (String × List String) := [
  ("object", ["BaseException"]),
  ("BaseException", ["Exception", "SystemExit", "KeyboardInterrupt", "GeneratorExit"]),
  ("Exception", ["HarnessError", "ArithmeticError", "AssertionError", "AttributeError",
    "BufferError", "EOFError", "ImportError", "LookupError", "MemoryError", "NameError", "OSError",
    "PyJWTError", "ReferenceError", "RuntimeError", "StopAsyncIteration", "StopIteration", "SyntaxError",
    "SystemError", "TypeError", "ValueError", "Warning"]),
  ("HarnessError", ["ConfigurationError", "HarnessStateError", "KeyMaterialError",
    "TokenGenerationError", "ResourceStartupError", "ResourceTeardownError"]),
  ("ConfigurationError", ["UnsupportedServiceError"]),
  ("ArithmeticError", ["FloatingPointError", "OverflowError", "ZeroDivisionError"]),
  ("ImportError", ["ModuleNotFoundError"]),
  ("LookupError", ["IndexError", "KeyError"]),
  ("NameError", ["UnboundLocalError"]),
  ("OSError", ["BlockingIOError", "ChildProcessError", "ConnectionError", "FileExistsError",
    "FileNotFoundError", "InterruptedError", "IsADirectoryError", "NotADirectoryError",
    "PermissionError", "ProcessLookupError", "TimeoutError"]),
  ("ConnectionError", ["BrokenPipeError", "ConnectionAbortedError", "ConnectionRefusedError",
    "ConnectionResetError"]),
  ("PyJWTError", ["InvalidKeyError", "InvalidTokenError"]),
  ("RuntimeError", ["NotImplementedError", "RecursionError"]),
  ("SyntaxError", ["IndentationError"]),
  ("IndentationError", ["TabError"]),
  ("ValueError", ["UnicodeError"]),
  ("UnicodeError", ["UnicodeDecodeError", "UnicodeEncodeError", "UnicodeTranslateError"]),
  ("Warning", ["BytesWarning", "DeprecationWarning", "EncodingWarning", "FutureWarning",
    "ImportWarning", "PendingDeprecationWarning", "ResourceWarning", "RuntimeWarning",
    "SyntaxWarning", "UnicodeWarning", "UserWarning"])]

/-- The family directly around a family. -/
def parent? (family : String) : Option String :=
  (members.find? (·.2.contains family)).map (·.1)

/-- A family and at most `depth` families around it. -/
def ancestryWithin : Nat → String → List String
  | 0, family => [family]
  | depth + 1, family =>
    match parent? family with
    | some wider => family :: ancestryWithin depth wider
    | none => [family]

/-- A family and all families around it, narrowest first. -/
def ancestry (family : String) : List String :=
  ancestryWithin members.length family

/-- Whether `family` is `wider` or lies in it. -/
def isWithin (family wider : String) : Bool :=
  (ancestry family).contains wider

/-- The name of a family that has a second one. -/
def mainName : String → String
  | "EnvironmentError" | "IOError" => "OSError"
  | family => family

/-- The families of refusals by the operating system, by the number of the refusal. -/
def ofSystemNumber : Int → String
  | 1 => "PermissionError"
  | 2 => "FileNotFoundError"
  | 3 => "ProcessLookupError"
  | 4 => "InterruptedError"
  | 10 => "ChildProcessError"
  | 11 => "BlockingIOError"
  | 13 => "PermissionError"
  | 17 => "FileExistsError"
  | 20 => "NotADirectoryError"
  | 21 => "IsADirectoryError"
  | 32 => "BrokenPipeError"
  | 103 => "ConnectionAbortedError"
  | 104 => "ConnectionResetError"
  | 108 => "BrokenPipeError"
  | 110 => "TimeoutError"
  | 111 => "ConnectionRefusedError"
  | 114 => "BlockingIOError"
  | 115 => "BlockingIOError"
  | _ => "OSError"

end MockIssuer.Family
