/-!
# Phases of a harness

A harness is configured before it is set up, runs, and is torn down. `starting` and `stopping` are
passed within one operation; `failed` is left by a set-up or a teardown that did not succeed.
-/
namespace MockIssuer

inductive Phase where
  | notStarted
  | starting
  | running
  | stopping
  | stopped
  | failed
  deriving DecidableEq, Repr

def Phase.name : Phase → String
  | notStarted => "NOT_STARTED"
  | starting => "STARTING"
  | running => "RUNNING"
  | stopping => "STOPPING"
  | stopped => "STOPPED"
  | failed => "FAILED"

end MockIssuer
