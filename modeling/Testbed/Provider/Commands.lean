import Testbed.Config.Basic
import Testbed.Shell.Command
import Testbed.Text.Blank
import Testbed.Text.Lines
import Testbed.Text.Template

/-!
# Provisioning by commands

The provider that carries out every step by a command of the configuration. A step without a
command is skipped. The command that creates the control plane may print what is known of it,
one `key=value` a line.
-/

namespace Testbed

/-! ## What a new control plane says about itself -/

namespace ClusterRefs

/-- Take one printed line into account. -/
def readLine (refs : ClusterRefs) (line : List Char) : ClusterRefs :=
  match Text.cutAt? '=' line with
  | none => refs
  | some (key, value) =>
    let value := some (String.ofList (Text.trimChars value))
    match String.ofList (Text.trimChars key) with
    | "endpoint" => { refs with endpoint := value }
    | "arn" => { refs with arn := value }
    | "certificate_authority" => { refs with certificateAuthority := value }
    | _ => refs

/-- What a printed text says; of two lines with one key the last counts. -/
def ofText (text : String) : ClusterRefs := (Text.lines text.toList).foldl readLine {}

end ClusterRefs

namespace Commands

/-- The name of the provider that runs commands. -/
def providerName : String := "command"

/-! ## Commands of calls -/

/-- The commands of a component; a resource has no others than those two. -/
def ofComponent (c : Config) : Component → ComponentCommands
  | .resource k =>
    { create := c.prerequisites.commands.create k, delete := c.prerequisites.commands.delete k }
  | .nodeGroup k => (c.nodeGroup k).commands
  | .addOn k => ((c.addOn? k).map fun s => s.commands).getD {}

/-- The command template of a call; a call that brings its command along needs none. -/
def template? (c : Config) : Call → Option String
  | .create k => (ofComponent c k).create
  | .delete k => (ofComponent c k).delete
  | .fetchLogs k => (ofComponent c k).logs
  | .aggregate k => (ofComponent c k).aggregate
  | .checkHealth => c.prerequisites.commands.checkHealth
  | .uploadArtifacts => c.prerequisites.commands.uploadArtifacts
  | .installDriver => c.prerequisites.commands.installGpuDriver
  | .smokeTest => c.prerequisites.commands.gpuSmokeTest
  | .run .. => none

/-- The values that commands may refer to. -/
def refs (c : Config) : List (String × String) :=
  [("name", c.name), ("region", c.region)] ++ (c.kubeconfig.map fun v => ("kubeconfig", v)).toList

/-- What is known of a step that has no command. -/
def skipped : CommandOutput := ⟨true, "skipped", "", ""⟩

/-- A failed command as a failure of its step. -/
def judge (command : String) (o : CommandOutput) : Except ProviderError CommandOutput :=
  if o.success then .ok o
  else .error (.commandFailed command o.status (Text.trim o.stderr))

/-! ## The provider -/

variable (c : Config) (environment : List (String × String))

/-- Carry out a step. -/
def step (template : Option String) (t : FileTree) :
    Except ProviderError CommandOutput × FileTree :=
  match template with
  | none => (.ok skipped, t)
  | some template =>
    let command := Text.expand template (refs c)
    let (r, t) := Shell.run environment command (c.provider.commandTimeout * 1000) t
    (r.bind (judge command), t)

/-- A failed check says that the cluster is not healthy. -/
def healthError : ProviderError → ProviderError
  | .commandFailed _ _ stderr => .unhealthy stderr
  | e => e

/-- What a call gives, by the result of its command. -/
def yield (r : Except ProviderError CommandOutput) : (c : Call) → Except ProviderError c.Yield
  | .create (.resource .cluster) => r.map fun o => ClusterRefs.ofText o.stdout
  | .run _ _ => r
  | .checkHealth => (r.map fun _ => ()).mapError healthError
  | .create (.resource .bucket) | .create (.resource .encryptionKey) | .create (.resource .keyPair)
  | .create (.resource .clusterRole) | .create (.resource .network) | .create (.nodeGroup _)
  | .create (.addOn _) | .delete _ | .fetchLogs _ | .aggregate _ | .uploadArtifacts
  | .installDriver | .smokeTest => r.map fun _ => ()

/-- Run the command of a call. A command that is given with the call is run as it is. -/
def perform (call : Call) (t : FileTree) : Except ProviderError CommandOutput × FileTree :=
  match call with
  | .run command timeout => Shell.run environment command timeout t
  | call => step c environment (template? c call) t

/-- What can be done with a component: all that has a command. -/
def handle (k : Component) : Handle where
  fetchesLogs := (ofComponent c k).logs.isSome
  aggregates := (ofComponent c k).aggregate.isSome

/-- The provider that runs the commands of a configuration in an environment of variables. It never
fires the stop signal: no operator interrupts a command here. -/
def provider : Provider FileTree where
  name := providerName
  perform call t :=
    let (r, t) := perform c environment call t
    (⟨yield r call, []⟩, t)
  handle? k _ := some (handle c k)
  hasGpu _ := true

end Commands

end Testbed
