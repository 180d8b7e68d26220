import MockIssuer.Host.ModuleTable
import MockIssuer.KeyPair
import MockIssuer.Log.Event
import MockIssuer.Token.Signing
import MockIssuer.World.Environment

/-!
# The world around servers

What servers, hosts and harnesses act on: settings that they find, such as the clock and the ports
that others hold, and state that they change, such as bound ports, files and loaded modules. Every
operation takes a world and answers the world that it leaves behind.
-/
namespace MockIssuer

/-- The clock counts seconds, with a fraction or without. -/
inductive Clock where
  | seconds (count : Int)
  | reading (value : Number.Binary64)

/-- The whole seconds of a clock. -/
def Clock.whole : Clock → Except Failure Int
  | seconds count => .ok count
  | reading value =>
    if value.isFinite then .ok value.truncate else .error (.outOfRange .infiniteClock)

/-- What the thread of a server does once it has been started. -/
inductive Behaviour where
  /-- Serves until it is asked to finish. -/
  | serves
  /-- Never finishes. -/
  | hangs
  /-- Fails at once. -/
  | crashes (cause : Failure)
  deriving Inhabited

structure World where
  environment : Environment := {}
  clock : Clock := .seconds 1700000000
  /-- Ports that others hold. -/
  takenPorts : List Int := []
  /-- Ports that may not be bound. -/
  deniedPorts : List Int := []
  /-- Hosts without an address. -/
  badHosts : List String := []
  /-- Texts outside ASCII that cannot be encoded as the name of a host. -/
  unencodedHosts : List String := []
  /-- The behaviour of servers, by name; others serve. -/
  behaviours : List (String × Behaviour) := []
  /-- Whether threads refuse waits that are no times or too long. -/
  boundsWaits : Bool := false
  /-- Where the search for a free port goes on. -/
  nextPort : Nat := 50000
  bound : List Nat := []
  files : FileSystem := [(["cwd"], .directory)]
  /-- Directories that the system does not show, by their text, and why. -/
  hidden : List (String × SystemFault) := []
  /-- Why no working area can be made, if none can. -/
  areaFault : Option SystemFault := none
  /-- Directories that cannot be copied, and why. -/
  unreadable : List (Location × SystemFault) := []
  /-- Working areas in use that cannot be removed, and why. -/
  busyAreas : List (Location × SystemFault) := []
  /-- The number of working areas made so far. -/
  areas : Nat := 0
  modules : ModuleTable := []
  /-- The number of entry modules loaded so far. -/
  entries : Nat := 0
  /-- The directories that web applications put on the search path. -/
  searchPath : List Location := []
  /-- The number of token ids handed out so far. -/
  tokenIds : Nat := 0
  /-- What the library that signs does for the token of each id. -/
  signers : Nat → Token.Signer := fun _ => {}
  /-- Key pairs to hand out, in turn. -/
  keyPool : List KeyPair := []
  /-- The sizes of the key pairs asked for so far. -/
  generated : List Nat := []
  log : List Log.Event := []

namespace World

/-- How the top directory is shown. -/
def topName : String := "<TMP>"

/-- The current directory below the top. -/
def currentLocation : Location := ["cwd"]

/-- The path of a location, seen from the root. -/
def pathOf (location : Location) : Path := ⟨0, topName :: location⟩

def emit (world : World) (level : Log.Level) (name : String) (fields : Json.Fields) : World :=
  { world with log := world.log ++ [⟨level, name, fields⟩] }

def behaviour (world : World) (server : String) : Behaviour :=
  (world.behaviours.lookup server).getD .serves

/-- Hands out the next key pair of the pool; where the pool is empty, one is made. -/
def generateKeys (world : World) (size : Nat) : Except Failure KeyPair × World :=
  let keys := match world.keyPool[world.generated.length % world.keyPool.length]? with
    | some keys => .ok keys
    | none => KeyPair.generate size
  (keys, { world with generated := world.generated ++ [size] })

/-- What the library that signs does for the token whose id was handed out last. -/
def signer (world : World) : Token.Signer := world.signers world.tokenIds

/-- A new token id: thirty-two hexadecimal digits that count up. -/
def takeTokenId (world : World) : String × World :=
  let next := world.tokenIds + 1
  (String.ofList (Text.hexDigits 32 next), { world with tokenIds := next })

end World

/-- What an operation on an object answers, beside the object and the world that it leaves. -/
structure Outcome (σ α : Type) where
  result : Except Failure α
  self : σ
  world : World

end MockIssuer
