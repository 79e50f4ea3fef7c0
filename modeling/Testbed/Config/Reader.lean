import Testbed.Config.Validation
import Testbed.Toml.Reader
import Testbed.Toml.Schema

/-!
# Reading a configuration

The fields of each section with their names in documents. What a field holds that its section
leaves out is stated here, what a section holds that is left out as a whole is the default of its
structure, and the two agree (`bare_eq`). The timings leave their fields to that default.
-/

namespace Testbed

open Toml

namespace Config

/-! ## Sections without fields -/

/-- A provider section that leaves out its fields. -/
def bareProvider : ProviderSection where
  kind := "command"
  requiredTools := []
  commandTimeout := 1800

/-- Step commands that leave out their fields. -/
def bareStepCommands : StepCommands where
  createBucket := none
  deleteBucket := none
  createEncryptionKey := none
  deleteEncryptionKey := none
  createKeyPair := none
  deleteKeyPair := none
  createClusterRole := none
  deleteClusterRole := none
  createNetwork := none
  deleteNetwork := none
  createCluster := none
  deleteCluster := none
  checkHealth := none
  uploadArtifacts := none
  installGpuDriver := none
  gpuSmokeTest := none

/-- A prerequisites section that leaves out its fields. -/
def barePrerequisites : Prerequisites where
  createBucket := true
  createEncryptionKey := false
  createKeyPair := true
  createClusterRole := true
  createNetwork := true
  commands := {}

/-- A node group that leaves out all fields but its name. -/
def bareNodeGroup (name : String) : NodeGroup where
  name := name
  imageFamily := .amazonLinux
  desiredNodes := none

/-- A component none of whose commands is given. -/
def bareCommands : ComponentCommands where
  create := none
  delete := none
  logs := none
  aggregate := none

/-- A node group section that leaves out its fields. -/
def bareNodeGroupSection : NodeGroupSection where
  enable := false
  fetchLogs := false
  groups := []
  commands := bareCommands

/-- The section of an add-on that leaves out its fields. -/
def bareAddOn : AddOnSection where
  enable := false
  nameSpace := none
  fetchLogs := false
  commands := bareCommands

/-- A hooks section that leaves out its fields. -/
def bareHooks : HooksSection where
  afterCreateCluster := none
  afterCreateClusterOutput := none
  afterCreateAddOns := none
  afterCreateAddOnsOutput := none
  timeout := 300

/-- A section on failures that leaves out its fields. -/
def bareOnFailure : OnFailureSection where
  delete := true
  deleteWait := 120

/-- A section that leaves out its fields holds what a section holds that is left out itself. -/
@[simp] theorem bare_eq :
    bareProvider = {} ∧ bareStepCommands = {} ∧ barePrerequisites = {} ∧
      (∀ name, bareNodeGroup name = { name := name }) ∧ bareNodeGroupSection = {} ∧
      bareAddOn = {} ∧ bareHooks = {} ∧ bareOnFailure = {} :=
  ⟨rfl, rfl, rfl, fun _ => rfl, rfl, rfl, rfl, rfl⟩

/-! ## Fields -/

/-- A text that may be absent. -/
def optionalText {σ : Type} (name : String) (set : Option String → σ → σ) : FieldRule σ :=
  optional name (.present .text) set

/-- A path that may be absent. -/
def optionalPath {σ : Type} (name : String) (set : Option String → σ → σ) : FieldRule σ :=
  optional name (.present (.text "path string")) set

/-- The provider section. -/
def providerFields : List (FieldRule ProviderSection) :=
  [optional "kind" .text fun v s => { s with kind := v },
   optional "required_tools" (.list .text) fun v s => { s with requiredTools := v },
   optional "command_timeout_secs" .word64 fun v s => { s with commandTimeout := v }]

/-- The step commands. -/
def stepCommandFields : List (FieldRule StepCommands) :=
  [optionalText "create_bucket" fun v s => { s with createBucket := v },
   optionalText "delete_bucket" fun v s => { s with deleteBucket := v },
   optionalText "create_encryption_key" fun v s => { s with createEncryptionKey := v },
   optionalText "delete_encryption_key" fun v s => { s with deleteEncryptionKey := v },
   optionalText "create_key_pair" fun v s => { s with createKeyPair := v },
   optionalText "delete_key_pair" fun v s => { s with deleteKeyPair := v },
   optionalText "create_cluster_role" fun v s => { s with createClusterRole := v },
   optionalText "delete_cluster_role" fun v s => { s with deleteClusterRole := v },
   optionalText "create_network" fun v s => { s with createNetwork := v },
   optionalText "delete_network" fun v s => { s with deleteNetwork := v },
   optionalText "create_cluster" fun v s => { s with createCluster := v },
   optionalText "delete_cluster" fun v s => { s with deleteCluster := v },
   optionalText "check_health" fun v s => { s with checkHealth := v },
   optionalText "upload_artifacts" fun v s => { s with uploadArtifacts := v },
   optionalText "install_gpu_driver" fun v s => { s with installGpuDriver := v },
   optionalText "gpu_smoke_test" fun v s => { s with gpuSmokeTest := v }]

/-- The prerequisites section. -/
def prerequisiteFields : List (FieldRule Prerequisites) :=
  [optional "create_bucket" .boolean fun v s => { s with createBucket := v },
   optional "create_encryption_key" .boolean fun v s => { s with createEncryptionKey := v },
   optional "create_key_pair" .boolean fun v s => { s with createKeyPair := v },
   optional "create_cluster_role" .boolean fun v s => { s with createClusterRole := v },
   optional "create_network" .boolean fun v s => { s with createNetwork := v },
   optional "commands" (.record "StepCommands" stepCommandFields bareStepCommands)
     fun v s => { s with commands := v }]

/-- The alternatives for the image of a node group. -/
def imageFamilies : List (String × ImageFamily) := ImageFamily.all.map fun f => (f.name, f)

/-- One node group. -/
def nodeGroupFields : List (FieldRule NodeGroup) :=
  [needed "name" .text fun v s => { s with name := v },
   optional "image_family" (.alternative imageFamilies) fun v s => { s with imageFamily := v },
   optional "desired_nodes" (.present .word32) fun v s => { s with desiredNodes := v }]

/-- The commands of a component, in whatever section they stand. -/
def componentFields {σ : Type} (change : (ComponentCommands → ComponentCommands) → σ → σ) :
    List (FieldRule σ) :=
  [optionalText "create" fun v => change fun c => { c with create := v },
   optionalText "delete" fun v => change fun c => { c with delete := v },
   optionalText "logs" fun v => change fun c => { c with logs := v },
   optionalText "aggregate" fun v => change fun c => { c with aggregate := v }]

/-- A node group section. -/
def nodeGroupSectionFields : List (FieldRule NodeGroupSection) :=
  [optional "enable" .boolean fun v s => { s with enable := v },
   optional "fetch_logs" .boolean fun v s => { s with fetchLogs := v },
   optional "groups" (.list (.record "NodeGroupSpec" nodeGroupFields (bareNodeGroup "")))
     fun v s => { s with groups := v }]
  ++ componentFields fun f s => { s with commands := f s.commands }

/-- The section of one add-on. -/
def addOnFields : List (FieldRule AddOnSection) :=
  [optional "enable" .boolean fun v s => { s with enable := v },
   optionalText "namespace" fun v s => { s with nameSpace := v },
   optional "fetch_logs" .boolean fun v s => { s with fetchLogs := v }]
  ++ componentFields fun f s => { s with commands := f s.commands }

/-- The hooks section. -/
def hookFields : List (FieldRule HooksSection) :=
  [optionalText "after_create_cluster" fun v s => { s with afterCreateCluster := v },
   optionalPath "after_create_cluster_output" fun v s => { s with afterCreateClusterOutput := v },
   optionalText "after_create_add_ons" fun v s => { s with afterCreateAddOns := v },
   optionalPath "after_create_add_ons_output" fun v s => { s with afterCreateAddOnsOutput := v },
   optional "timeout_secs" .word64 fun v s => { s with timeout := v }]

/-- The section on failures. -/
def onFailureFields : List (FieldRule OnFailureSection) :=
  [optional "delete" .boolean fun v s => { s with delete := v },
   optional "delete_wait_secs" .word64 fun v s => { s with deleteWait := v }]

/-- The timings section. -/
def timingFields : List (FieldRule Timings) :=
  [optional "post_create_settle_secs" .word64 fun v s => { s with postCreate := v },
   optional "add_on_settle_secs" .word64 fun v s => { s with addOn := v },
   optional "light_add_on_settle_secs" .word64 fun v s => { s with lightAddOn := v },
   optional "load_balancer_settle_secs" .word64 fun v s => { s with loadBalancer := v },
   optional "load_balancer_network_settle_secs" .word64
     fun v s => { s with loadBalancerNetwork := v },
   optional "node_group_settle_secs" .word64 fun v s => { s with nodeGroup := v },
   optional "network_settle_secs" .word64 fun v s => { s with network := v },
   optional "fetch_logs_settle_secs" .word64 fun v s => { s with fetchLogs := v },
   optional "health_attempts" .word32 fun v s => { s with healthAttempts := v },
   optional "health_interval_secs" .word64 fun v s => { s with healthInterval := v }]

/-- The whole configuration. -/
def fields : List (FieldRule Config) :=
  [needed "config_version" .word32 fun v s => { s with version := v },
   needed "name" .text fun v s => { s with name := v },
   needed "region" .text fun v s => { s with region := v },
   optionalPath "kubeconfig" fun v s => { s with kubeconfig := v },
   optional "provider" (.record "ProviderSection" providerFields bareProvider)
     fun v s => { s with provider := v },
   optional "prerequisites" (.record "PrerequisitesSection" prerequisiteFields barePrerequisites)
     fun v s => { s with prerequisites := v },
   optional "node_groups" (.record "NodeGroupSection" nodeGroupSectionFields bareNodeGroupSection)
     fun v s => { s with nodeGroups := v },
   optional "managed_node_groups"
     (.record "NodeGroupSection" nodeGroupSectionFields bareNodeGroupSection)
     fun v s => { s with managedNodeGroups := v },
   optional "add_ons" (.named (.record "AddOnConfig" addOnFields bareAddOn))
     fun v s => { s with addOns := v },
   optional "hooks" (.record "HooksSection" hookFields bareHooks) fun v s => { s with hooks := v },
   optional "on_failure" (.record "OnFailureSection" onFailureFields bareOnFailure)
     fun v s => { s with onFailure := v },
   optional "timings" (.record "Timings" timingFields {}) fun v s => { s with timings := v }]

/-- Read a table as a configuration. The fields of the starting value that have no default are
replaced, since a table without them is refused. -/
def ofTable (t : Table) : Except Schema.Misfit Config :=
  readFields fields { version := 0, name := "", region := "" } t

/-- Read a text as a configuration, without validating it. -/
def parse (text : String) : Except ConfigError Config :=
  match Document.read? text with
  | none => .error .notToml
  | some t => (ofTable t).mapError .misfit

end Config

end Testbed
