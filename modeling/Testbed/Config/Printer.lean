import Testbed.Config.Basic
import Testbed.Toml.Printer

/-!
# Writing a configuration

Every field is written with its value, also where that is the default; only an absent optional
value is left out.
-/

namespace Testbed

open Toml

namespace Config

/-- A text that may be absent. -/
def optionalEntry (name : String) (s : Option String) : Table :=
  (s.map fun s => (name, Value.string s)).toList

/-- The provider section. -/
def providerTable (s : ProviderSection) : Table :=
  [("kind", .string s.kind),
   ("required_tools", .array (s.requiredTools.map .string)),
   ("command_timeout_secs", .integer s.commandTimeout)]

/-- The step commands. -/
def stepCommandTable (s : StepCommands) : Table :=
  (ResourceKind.all.flatMap fun k =>
    optionalEntry s!"create_{k.name}" (s.create k)
      ++ optionalEntry s!"delete_{k.name}" (s.delete k))
  ++ optionalEntry "check_health" s.checkHealth
  ++ optionalEntry "upload_artifacts" s.uploadArtifacts
  ++ optionalEntry "install_gpu_driver" s.installGpuDriver
  ++ optionalEntry "gpu_smoke_test" s.gpuSmokeTest

/-- The prerequisites section. -/
def prerequisiteTable (s : Prerequisites) : Table :=
  [("create_bucket", .boolean s.createBucket),
   ("create_encryption_key", .boolean s.createEncryptionKey),
   ("create_key_pair", .boolean s.createKeyPair),
   ("create_cluster_role", .boolean s.createClusterRole),
   ("create_network", .boolean s.createNetwork),
   ("commands", .table (stepCommandTable s.commands))]

/-- The commands of a component. -/
def componentTable (c : ComponentCommands) : Table :=
  optionalEntry "create" c.create ++ optionalEntry "delete" c.delete
  ++ optionalEntry "logs" c.logs ++ optionalEntry "aggregate" c.aggregate

/-- One node group. -/
def nodeGroupTable (g : NodeGroup) : Table :=
  [("name", .string g.name), ("image_family", .string g.imageFamily.name)]
  ++ (g.desiredNodes.map fun n => ("desired_nodes", Value.integer n)).toList

/-- A node group section. -/
def nodeGroupSectionTable (s : NodeGroupSection) : Table :=
  [("enable", .boolean s.enable),
   ("fetch_logs", .boolean s.fetchLogs),
   ("groups", .array (s.groups.map fun g => .table (nodeGroupTable g)))]
  ++ componentTable s.commands

/-- The section of one add-on. -/
def addOnTable (s : AddOnSection) : Table :=
  [("enable", .boolean s.enable)] ++ optionalEntry "namespace" s.nameSpace
  ++ [("fetch_logs", .boolean s.fetchLogs)] ++ componentTable s.commands

/-- The hooks section. -/
def hookTable (s : HooksSection) : Table :=
  optionalEntry "after_create_cluster" s.afterCreateCluster
  ++ optionalEntry "after_create_cluster_output" s.afterCreateClusterOutput
  ++ optionalEntry "after_create_add_ons" s.afterCreateAddOns
  ++ optionalEntry "after_create_add_ons_output" s.afterCreateAddOnsOutput
  ++ [("timeout_secs", .integer s.timeout)]

/-- The section on failures. -/
def onFailureTable (s : OnFailureSection) : Table :=
  [("delete", .boolean s.delete), ("delete_wait_secs", .integer s.deleteWait)]

/-- The timings section. -/
def timingTable (s : Timings) : Table :=
  [("post_create_settle_secs", .integer s.postCreate),
   ("add_on_settle_secs", .integer s.addOn),
   ("light_add_on_settle_secs", .integer s.lightAddOn),
   ("load_balancer_settle_secs", .integer s.loadBalancer),
   ("load_balancer_network_settle_secs", .integer s.loadBalancerNetwork),
   ("node_group_settle_secs", .integer s.nodeGroup),
   ("network_settle_secs", .integer s.network),
   ("fetch_logs_settle_secs", .integer s.fetchLogs),
   ("health_attempts", .integer s.healthAttempts),
   ("health_interval_secs", .integer s.healthInterval)]

/-- A configuration as a table. -/
def toTable (c : Config) : Table :=
  [("config_version", .integer c.version), ("name", .string c.name), ("region", .string c.region)]
  ++ optionalEntry "kubeconfig" c.kubeconfig
  ++ [("provider", .table (providerTable c.provider)),
      ("prerequisites", .table (prerequisiteTable c.prerequisites)),
      ("node_groups", .table (nodeGroupSectionTable c.nodeGroups)),
      ("managed_node_groups", .table (nodeGroupSectionTable c.managedNodeGroups)),
      ("add_ons", .table (c.addOns.entries.map fun e => (e.1, .table (addOnTable e.2)))),
      ("hooks", .table (hookTable c.hooks)),
      ("on_failure", .table (onFailureTable c.onFailure)),
      ("timings", .table (timingTable c.timings))]

/-- A configuration as the text of a document. -/
def render (c : Config) : String := Document.write c.toTable

/-- A configuration as the text of a document, unless a number in it is too large for the format. -/
def render? (c : Config) : Option String := Document.write? c.toTable

end Config

end Testbed
