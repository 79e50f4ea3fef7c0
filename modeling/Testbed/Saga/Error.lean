import Testbed.Config.Validation
import Testbed.Journal
import Testbed.Provider.Basic
import Testbed.State.Store
import Testbed.Stop

/-!
# Failures of sagas

Why a session could not be opened or a saga ended early. Provisioning ends with the first failure;
a teardown goes on and reports all its faults together.
-/

namespace Testbed

/-- What went wrong in a teardown that went on. -/
inductive TeardownFault
  /-- Something was not deleted. -/
  | step (step : String) (source : ProviderError)
  /-- The state document was not saved. -/
  | persist (e : StoreError)
  deriving DecidableEq

/-- Why a session could not be opened or a saga failed. -/
inductive SagaError
  | config (e : ConfigError)
  | store (e : StoreError)
  | step (step : String) (source : ProviderError)
  /-- The stop signal ended the saga. -/
  | interrupted (origin : StopOrigin) (step : String)
  /-- The provider cannot drive a component. -/
  | missingHandle (c : Component)
  /-- The provider cannot set up GPUs. -/
  | missingGpu
  /-- A hook's result could not be written. -/
  | hookOutput (path : String) (e : FileError)
  | teardown (faults : List TeardownFault)
  /-- The state document is that of another environment. -/
  | stateMismatch (expected found : String)
  /-- The session may not change anything. -/
  | readOnly (saga : Saga)
  deriving DecidableEq

/-- The text of a failure to save the state document within a saga. -/
def StoreError.text (e : StoreError) : String := s!"state store error: {e.message}"

/-- The text of a teardown fault. -/
def TeardownFault.message : TeardownFault → String
  | step name source => s!"{name}: {source.message}"
  | persist e => s!"persist state: {e.text}"

namespace SagaError

/-- The text for something that cannot be driven. -/
def noHandle (name : String) : String := s!"no handle for enabled component '{name}'"

/-- The text of a failure. -/
def message : SagaError → String
  | config e => s!"config error: {e.message}"
  | store e => e.text
  | step name source => s!"{name} failed: {source.message}"
  | interrupted origin name => s!"interrupted by {origin.text} during '{name}'"
  | missingHandle c => noHandle c.label
  | missingGpu => noHandle "gpu"
  | hookOutput path e => s!"failed to write hook output {path}: {e.message}"
  | teardown faults =>
    "teardown finished with errors: " ++ ", ".intercalate (faults.map (·.message))
  | stateMismatch expected found =>
    s!"state document belongs to '{found}', config names '{expected}'"
  | readOnly saga => s!"cannot run {saga.name} saga: environment was opened read-only"

/-- Whether the stop signal is the cause. -/
def isInterrupted : SagaError → Bool
  | interrupted .. => true
  | _ => false

end SagaError

end Testbed
