import Testbed.Provider.Basic

/-!
# Rehearsals

A rehearsal is a provider that does nothing but note the calls made to it. Calls can be set to
fail, components to be out of reach, and actions can be tied to a call, to be taken while it is
under way. Calls and components go by their names in words.
-/

namespace Testbed

/-- Something that happens during a call. -/
inductive Rehearsal.Cue
  /-- Fire the stop signal of a number. -/
  | fire (signal : Nat) (origin : StopOrigin)
  /-- Make a call fail from now on. -/
  | failOn (call message : String)
  | clearCalls
  deriving DecidableEq

/-- The state of a rehearsal. -/
structure Rehearsal where
  /-- The calls made, in order. -/
  calls : List String := []
  /-- The calls that fail, with their messages. -/
  failures : List (String × String) := []
  /-- What cannot be driven. -/
  missing : List String := []
  /-- What happens during calls. -/
  cues : List (String × List Rehearsal.Cue) := []

namespace Rehearsal

/-! ## Settings -/

/-- Make a call fail every time it is made. -/
def failOn (r : Rehearsal) (call message : String) : Rehearsal :=
  { r with failures := (call, message) :: r.failures }

/-- Put a component, or GPUs, out of reach. -/
def withoutHandle (r : Rehearsal) (target : String) : Rehearsal :=
  { r with missing := target :: r.missing }

/-- Set what happens during a call. -/
def onCall (r : Rehearsal) (call : String) (cues : List Cue) : Rehearsal :=
  { r with cues := (call, cues) :: r.cues }

/-- Forget the calls made so far. -/
def clearCalls (r : Rehearsal) : Rehearsal := { r with calls := [] }

/-! ## Questions -/

/-- How often a call was made. -/
def count (r : Rehearsal) (call : String) : Nat := r.calls.count call

/-- The number of calls before the first of a name. -/
def position? (r : Rehearsal) (call : String) : Option Nat := r.calls.findIdx? fun c => c = call

/-- The deletions among the calls. -/
def destructiveCalls (r : Rehearsal) : List String :=
  r.calls.filter fun c => "delete ".toList.isPrefixOf c.toList

/-! ## Calls -/

/-- Take the action of a cue. -/
def take (r : Rehearsal) : Cue → Rehearsal
  | .fire _ _ => r
  | .failOn call message => r.failOn call message
  | .clearCalls => r.clearCalls

/-- What happens during a call. -/
def cuesOf (r : Rehearsal) (call : String) : List Cue := (r.cues.lookup call).getD []

/-- The firings among cues, each with the number of its signal. -/
def firings (cues : List Cue) : List (Nat × StopOrigin) :=
  cues.filterMap fun
    | .fire signal origin => some (signal, origin)
    | _ => none

/-- Note a call and take the actions tied to it. -/
def note (r : Rehearsal) (call : String) : Rehearsal :=
  (r.cuesOf call).foldl take { r with calls := r.calls ++ [call] }

/-- How a call fares. -/
def outcome (r : Rehearsal) (call : String) : Except ProviderError Unit :=
  match r.failures.lookup call with
  | some message => .error (.failed call message)
  | none => .ok ()

/-- What the control plane of a rehearsal says about itself. -/
def clusterRefs : ClusterRefs where
  endpoint := some "https://mock.cluster.local"
  arn := some "arn:mock:eks:cluster/mock"
  certificateAuthority := some "bW9jay1jYQ=="

/-- What a command puts out. -/
def commandOutput (command : String) (fared : Except ProviderError Unit) : CommandOutput where
  success := fared.toBool
  status := if fared.toBool then "exit status: 0" else "exit status: 1"
  stdout := s!"mock-run: {command}\n"
  stderr := match fared with
    | .ok _ => ""
    | .error e => e.message

/-- What a call gives, by how it fared. A command gives its output even if it fares badly. -/
def yield (fared : Except ProviderError Unit) : (c : Call) → Except ProviderError c.Yield
  | .create (.resource .cluster) => fared.map fun _ => clusterRefs
  | .run command _ => .ok (commandOutput command fared)
  | .checkHealth => fared.mapError fun e => .unhealthy e.message
  | .create (.resource .bucket) | .create (.resource .encryptionKey) | .create (.resource .keyPair)
  | .create (.resource .clusterRole) | .create (.resource .network) | .create (.nodeGroup _)
  | .create (.addOn _) | .delete _ | .fetchLogs _ | .aggregate _ | .uploadArtifacts
  | .installDriver | .smokeTest => fared

/-- Make a call. -/
def perform (r : Rehearsal) (c : Call) : Except ProviderError c.Yield × Rehearsal :=
  let r := r.note c.label
  (yield (r.outcome c.label) c, r)

/-- The firings during a call. -/
def firedBy (r : Rehearsal) (c : Call) : List (Nat × StopOrigin) := firings (r.cuesOf c.label)

/-! ## What can be driven -/

/-- The add-ons that aggregate results: the remote load testers. -/
def aggregating : List AddOnKind :=
  [.csrsRemote, .secretsRemote, .irsa, .configMapsRemote, .clusterLoaderRemote, .stresserRemote]

/-- What can be done with a component, unless it is out of reach. -/
def handle? (r : Rehearsal) (c : Component) : Option Handle :=
  if c.label ∈ r.missing then none
  else
    match c with
    | .resource _ => none
    | .nodeGroup _ => some ⟨true, false⟩
    | .addOn k => some ⟨false, k ∈ aggregating⟩

/-- Whether GPUs can be set up. -/
def hasGpu (r : Rehearsal) : Bool := "gpu" ∉ r.missing

/-- The name of the provider that rehearses. -/
def providerName : String := "mock"

/-- The provider of a session that listens to the stop signal of a number. -/
def provider (signal : Nat) : Provider Rehearsal where
  name := providerName
  perform c r :=
    let (result, after) := r.perform c
    (⟨result, ((r.firedBy c).filter fun f => f.1 = signal).map (·.2)⟩, after)
  handle? c r := r.handle? c
  hasGpu r := r.hasGpu

end Rehearsal

end Testbed
