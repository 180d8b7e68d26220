import MockIssuer.Config.Basic
import MockIssuer.Config.Raw
import MockIssuer.Config.Violation
import MockIssuer.Digest.Sha2
import MockIssuer.Encoding.Base64
import MockIssuer.Encoding.Bytes
import MockIssuer.Encoding.Der
import MockIssuer.Encoding.Pem
import MockIssuer.Endpoints
import MockIssuer.Failure.Basic
import MockIssuer.Failure.Family
import MockIssuer.Files.FileSystem
import MockIssuer.Files.Path
import MockIssuer.Harness.Basic
import MockIssuer.Harness.Lifecycle
import MockIssuer.Harness.Phase
import MockIssuer.Host.Basic
import MockIssuer.Host.Loading
import MockIssuer.Host.ModuleTable
import MockIssuer.Host.Program
import MockIssuer.Host.Source
import MockIssuer.Host.Static
import MockIssuer.Http.Basic
import MockIssuer.Http.Url
import MockIssuer.Json.Basic
import MockIssuer.Json.Literal
import MockIssuer.Json.Parser
import MockIssuer.Json.Printer
import MockIssuer.KeyPair
import MockIssuer.KeySet
import MockIssuer.Log.Event
import MockIssuer.Log.Line
import MockIssuer.Log.Mask
import MockIssuer.Log.Setup
import MockIssuer.Number.Binary64
import MockIssuer.Number.Integer
import MockIssuer.Number.Reading
import MockIssuer.Number.Shortest
import MockIssuer.Proofs.Acts
import MockIssuer.Proofs.Base64
import MockIssuer.Proofs.BigEndian
import MockIssuer.Proofs.CompleteTeardown
import MockIssuer.Proofs.FailedSetup
import MockIssuer.Proofs.Fleet
import MockIssuer.Proofs.FrameRules
import MockIssuer.Proofs.FreePorts
import MockIssuer.Proofs.HarnessLifecycle
import MockIssuer.Proofs.Holdings
import MockIssuer.Proofs.HostStart
import MockIssuer.Proofs.JsonText
import MockIssuer.Proofs.KeySetDocument
import MockIssuer.Proofs.LocalUrl
import MockIssuer.Proofs.MintedTokens
import MockIssuer.Proofs.MockUse
import MockIssuer.Proofs.ModularPower
import MockIssuer.Proofs.ModuleLoading
import MockIssuer.Proofs.RsaSignature
import MockIssuer.Proofs.SetUp
import MockIssuer.Proofs.TearDown
import MockIssuer.Proofs.TokenText
import MockIssuer.Proofs.WorkingAreas
import MockIssuer.Rsa.Arithmetic
import MockIssuer.Rsa.Encoding
import MockIssuer.Rsa.Generation
import MockIssuer.Rsa.Key
import MockIssuer.Rsa.Signature
import MockIssuer.Server.Background
import MockIssuer.Server.Mock
import MockIssuer.Server.Routing
import MockIssuer.Server.StubTable
import MockIssuer.Service
import MockIssuer.Session.Action
import MockIssuer.Session.Basic
import MockIssuer.Session.Construction
import MockIssuer.Session.Object
import MockIssuer.Session.Observation
import MockIssuer.Session.Property
import MockIssuer.Stub
import MockIssuer.Text.Blank
import MockIssuer.Text.Digits
import MockIssuer.Text.Hex
import MockIssuer.Text.Printable
import MockIssuer.Text.Quoted
import MockIssuer.Text.Uppercase
import MockIssuer.Text.Utf8
import MockIssuer.Token.Basic
import MockIssuer.Token.Binding
import MockIssuer.Token.Builder
import MockIssuer.Token.Signing
import MockIssuer.World.Basic
import MockIssuer.World.Environment
import MockIssuer.World.Ports
import MockIssuer.World.Sockets
import MockIssuer.Proofs.StubHistory
import MockIssuer.Proofs.FailedStart
import MockIssuer.Proofs.RequestPaths
import MockIssuer.Proofs.JsonWeight
import MockIssuer.Proofs.FaithfulKeySet
import MockIssuer.Proofs.EntryModules
import MockIssuer.Proofs.ModuleOwnership
import MockIssuer.Proofs.RejectedCalls
import MockIssuer.Proofs.SearchPath
import MockIssuer.Proofs.SeenModules
import MockIssuer.Proofs.ServedStubs
import MockIssuer.Proofs.Settings
import MockIssuer.Proofs.CollectedTeardowns
import MockIssuer.Proofs.HostStop
import MockIssuer.Proofs.ClaimHistory
import MockIssuer.Proofs.Rounding
import MockIssuer.Proofs.ShortestDecimal
import MockIssuer.Proofs.NumberText
import MockIssuer.Proofs.JsonValues
import MockIssuer.Proofs.CarriedClaims
import MockIssuer.Proofs.SignedTokens
import MockIssuer.Proofs.TokenFailures
import MockIssuer.Proofs.ServerRuns
import MockIssuer.Proofs.BindFailures
import MockIssuer.Proofs.PathEdits
import MockIssuer.Proofs.FileTrees
import MockIssuer.Proofs.SiteSnapshot
import MockIssuer.Proofs.ProbablePrimes
import MockIssuer.Proofs.DerElements
import MockIssuer.Proofs.AsciiText
import MockIssuer.Proofs.PemArmour
import MockIssuer.Proofs.StandardKeys
import MockIssuer.Proofs.EncodedKeys
import MockIssuer.Proofs.MaskedTokens
import MockIssuer.Proofs.RepeatedSetups
import MockIssuer.Proofs.FailureTexts
