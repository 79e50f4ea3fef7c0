import Testbed.Session.Basic

/-!
# Questions to a session

Whether the environment is up, and the logs of its node groups. Neither changes the document.
-/

namespace Testbed.Session

variable {ω : Type}

/-- Whether a saga may run. -/
def allow (saga : Saga) (s : Session ω) : Except SagaError Unit :=
  if s.writable then .ok () else .error (.readOnly saga)

/-- Whether the environment is recorded as up and healthy; ill health is a failure. -/
def isUp (h : Host ω) : Action ω SagaError Bool := fun s =>
  if !s.document.up then (.ok false, s)
  else
    match s.perform h .checkHealth with
    | (.ok _, s) => (.ok true, s)
    | (.error e, s) => (.error (.step "check_health" e), s)

/-- Collect the logs of one family of node groups, if it is enabled and created. -/
def dumpLogsOf (h : Host ω) (k : NodeGroupKind) : Action ω SagaError Unit := fun s =>
  let entry := s.registry.nodeGroup k
  if !entry.enabled || !s.document.nodeGroupCreated k then (.ok (), s)
  else
    match entry.handle with
    | none => (.error (.missingHandle (.nodeGroup k)), s)
    | some handle =>
      if !handle.fetchesLogs then (.ok (), s)
      else
        match s.perform h (.fetchLogs (.nodeGroup k)) with
        | (.ok _, s) => (.ok (), s)
        | (.error e, s) => (.error (.step s!"fetch_logs {k.label}" e), s)

/-- Collect the logs of all node groups, up to the first failure. -/
def dumpLogs (h : Host ω) : Action ω SagaError Unit :=
  runAll (dumpLogsOf h) NodeGroupKind.all

end Testbed.Session
