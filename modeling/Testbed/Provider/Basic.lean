import Testbed.Files.Error
import Testbed.Kind
import Testbed.State.Document
import Testbed.Stop

/-!
# Providers

A provider carries out the single steps of provisioning and teardown. `Call` lists everything
that can be asked of it; `Provider ω` answers calls in a world `ω`, and a call may fire the stop
signal while it runs.
-/

namespace Testbed

/-! ## Errors -/

/-- Why a call failed. -/
inductive ProviderError
  /-- The call could not be made. -/
  | file (e : FileError)
  /-- There is no provider of that name. -/
  | unavailable (name : String)
  /-- The step failed. -/
  | failed (step message : String)
  /-- A command ended with a failure. -/
  | commandFailed (command status stderr : String)
  /-- A command did not end in time. -/
  | timeout (command : String) (seconds : Nat)
  /-- The cluster is not healthy. -/
  | unhealthy (reason : String)
  deriving DecidableEq

/-- The text of a provider error. -/
def ProviderError.message : ProviderError → String
  | file e => s!"provider I/O error: {e.message}"
  | unavailable name => s!"provider '{name}' is not available"
  | failed step message => s!"{step}: {message}"
  | commandFailed command status stderr => s!"command `{command}` failed with {status}: {stderr}"
  | timeout command seconds => s!"command `{command}` timed out after {seconds}s"
  | unhealthy reason => s!"unhealthy: {reason}"

/-! ## Calls -/

/-- What is known of a command that has ended. -/
structure CommandOutput where
  /-- Whether it succeeded. -/
  success : Bool
  /-- Its exit status in words. -/
  status : String
  stdout : String
  stderr : String
  deriving DecidableEq

/-- What can be asked of a provider. -/
inductive Call
  | create (c : Component)
  | delete (c : Component)
  | fetchLogs (c : Component)
  | aggregate (c : Component)
  | checkHealth
  | uploadArtifacts
  | installDriver
  | smokeTest
  /-- Run a command, for so many milliseconds at most. -/
  | run (command : String) (timeout : Nat)
  deriving DecidableEq

namespace Call

/-- What a call gives when it succeeds. -/
@[reducible] def Yield : Call → Type
  | create (.resource .cluster) => ClusterRefs
  | run _ _ => CommandOutput
  | _ => Unit

/-- A call in words. -/
def label : Call → String
  | create c => s!"create {c.label}"
  | delete c => s!"delete {c.label}"
  | fetchLogs c => s!"fetch_logs {c.label}"
  | aggregate c => s!"aggregate {c.label}"
  | checkHealth => "check_health"
  | uploadArtifacts => "upload_artifacts"
  | installDriver => "install_gpu_driver"
  | smokeTest => "gpu_smoke_test"
  | run command _ => s!"run {command}"

/-- What a successful creation says about the control plane: something only if that is what was
created. -/
def refs? : (c : Component) → (create c).Yield → Option ClusterRefs
  | .resource .cluster, refs => some refs
  | _, _ => none

end Call

/-! ## Providers -/

/-- What a node group family or add-on can do besides being created and deleted. -/
structure Handle where
  /-- Whether it can collect logs. -/
  fetchesLogs : Bool
  /-- Whether it can aggregate results. -/
  aggregates : Bool
  deriving DecidableEq

/-- The answer to a call. -/
structure Reply (α : Type) where
  /-- What the call gave, or why it failed. -/
  result : Except ProviderError α
  /-- The firings of the stop signal during the call. -/
  fired : List StopOrigin := []

/-- A provider in a world `ω`. -/
structure Provider (ω : Type) where
  /-- Its name. -/
  name : String
  /-- Carry out a call. -/
  perform : (c : Call) → ω → Reply c.Yield × ω
  /-- What a node group family or add-on can do; none if the provider cannot drive it. -/
  handle? : Component → ω → Option Handle
  /-- Whether the provider can set up GPUs. -/
  hasGpu : ω → Bool

/-- The same provider in a larger world, of which it sees one part. -/
def Provider.within {α ω : Type} (p : Provider α) (part : ω → α) (setPart : ω → α → ω) :
    Provider ω where
  name := p.name
  perform c w :=
    let (reply, a) := p.perform c (part w)
    (reply, setPart w a)
  handle? c w := p.handle? c (part w)
  hasGpu w := p.hasGpu (part w)

end Testbed
