import Testbed.Health
import Testbed.Hook
import Testbed.Saga.Collect
import Testbed.Saga.Down

/-!
# The up saga

What the configuration wants and the state document does not record is created, in an order in
which everything finds what it needs. Each creation is recorded and saved before the next step
begins, so that a run that ended early is resumed where it stopped. If provisioning fails, the
part that exists is torn down again, unless the configuration keeps it.
-/

namespace Testbed.Session

variable {ω : Type}

/-! ## The order of provisioning -/

/-- The health checks of provisioning. -/
inductive HealthGate
  | cluster | clusterAddOns | workloads
  deriving DecidableEq

/-- What a health check is called. -/
def HealthGate.step : HealthGate → String
  | cluster => "check cluster health"
  | clusterAddOns => "check health after cluster add-ons"
  | workloads => "check health after workloads"

/-- A stage of provisioning. -/
inductive Stage
  | create (c : Component)
  | settle (reason : SettleReason)
  | health (gate : HealthGate)
  | hook (point : HookPoint)
  | gpu
  | upload
  | collect
  deriving DecidableEq

/-- All stages for the components of a session. -/
def stages (r : Registry) : List Stage :=
  let tier (t : Tier) := (r.enabledIn t).map fun e => Stage.create (.addOn e.kind)
  ResourceKind.all.map (fun k => Stage.create (.resource k))
  ++ [Stage.settle .postCreate, Stage.health .cluster, Stage.hook .afterCreateCluster]
  ++ NodeGroupKind.all.map (fun k => Stage.create (.nodeGroup k))
  ++ [Stage.gpu]
  ++ tier .cluster ++ [Stage.health .clusterAddOns, Stage.upload]
  ++ tier .workload ++ [Stage.health .workloads, Stage.hook .afterCreateAddOns, Stage.collect]

/-! ## The stages -/

/-- The document once a component was created. -/
def recordCreated (c : Component) (y : (Call.create c).Yield) (now : String) (d : StateDocument) :
    StateDocument :=
  let d := d.set c true now
  { d with cluster := (Call.refs? c y).getD d.cluster }

/-- Change the document as part of a step. -/
def commit (h : Host ω) (change : String → StateDocument → StateDocument) :
    Action ω SagaError Unit := fun s =>
  let (r, s) := s.update h change
  (r.mapError .store, s)

/-- Create a component, if it is wanted and not recorded as created. -/
def create (h : Host ω) (c : Component) : Action ω SagaError Unit := fun s =>
  if !s.config.wants c || s.document.isCreated c then (.ok (), s)
  else if !s.registry.drives c then (.error (.missingHandle c), s)
  else s.forward h s!"create {c.label}" (perform h (.create c)) fun y =>
    commit h (recordCreated c y)

/-- Wait until the environment is healthy. -/
def awaitHealth (h : Host ω) : Action ω ProviderError Unit := fun s =>
  let t := s.config.timings
  Health.wait (perform h .checkHealth)
    (fun s =>
      let (ended, s) := s.pause h t.healthInterval
      (ended ≠ .elapsed, s))
    t.healthAttempts s

/-- Run a command; that it fails is no failure of the work. -/
def runHook (h : Host ω) (command : String) :
    Action ω ProviderError (Except ProviderError CommandOutput) := fun s =>
  let (r, s) := s.perform h (.run command (s.config.hooks.timeout * 1000))
  (.ok r, s)

/-- Write the result of a hook. -/
def writeHook (h : Host ω) (path command : String) (r : Except ProviderError CommandOutput) :
    Action ω SagaError Unit := fun s =>
  let (r, w) := h.writeResult path (Hook.render command r) s.world
  (r.mapError (.hookOutput path), { s with world := w })

/-- Run the hook of a point, if there is one. -/
def hook (h : Host ω) (p : HookPoint) : Action ω SagaError Unit := fun s =>
  match p.command s.config.hooks, p.output s.config.hooks with
  | none, _ => (.ok (), s)
  | some _, none => (.error (.config (.missingHookOutput p)), s)
  | some template, some path =>
    let command := Text.expand template (Hook.refs s.config s.document)
    s.forward h s!"hook {p.name}" (runHook h command) (writeHook h path command)

/-- Set up GPUs, if a node group needs them. -/
def setUpGpu (h : Host ω) : Action ω SagaError Unit := fun s =>
  if !s.config.needsGpuDrivers then (.ok (), s)
  else if !h.provider.hasGpu s.world then (.error .missingGpu, s)
  else
    match s.forward h "install gpu driver" (perform h .installDriver) keep with
    | (.ok _, s) => s.forward h "gpu smoke test" (perform h .smokeTest) keep
    | (.error e, s) => (.error e, s)

/-- Pause between two stages; the stop signal ends provisioning here. -/
def settleStage (h : Host ω) (reason : SettleReason) : Action ω SagaError Unit := fun s =>
  match s.settle h .up reason with
  | (.elapsed, s) => (.ok (), s)
  | (.stopped origin, s) => (.error (.interrupted origin reason.text), s)

/-- Run a stage. -/
def runStage (h : Host ω) : Stage → Action ω SagaError Unit
  | .create c => create h c
  | .settle reason => settleStage h reason
  | .health gate => forward h gate.step (awaitHealth h) keep
  | .hook p => hook h p
  | .gpu => setUpGpu h
  | .upload => fun s => (.ok (), s.uploadArtifacts h .up)
  | .collect => fun s => (.ok (), s.collect h)

/-! ## The run -/

/-- Run all stages up to the first failure. -/
def provision (h : Host ω) : Action ω SagaError Unit := fun s =>
  s.runAll (runStage h) (stages s.registry)

/-- Tear down what a failed provisioning left; how that goes is not reported. -/
def compensate (h : Host ω) (s : Session ω) : Session ω :=
  let (_, s) := s.settle h .up .compensationCooldown
  (s.down h).2

/-- Bring the environment up, unless it is recorded as up. -/
def up (h : Host ω) : Action ω SagaError Unit := fun s =>
  match s.allow .up with
  | .error e => (.error e, s)
  | .ok _ =>
    if s.document.up then (.ok (), s)
    else
      let (r, s) := s.provision h
      let s := s.uploadArtifacts h .up
      match r with
      | .ok _ => s.commit h fun now d => d.markUp now
      | .error e => (.error e, if s.config.onFailure.delete then s.compensate h else s)

end Testbed.Session
