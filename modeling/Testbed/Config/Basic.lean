import Testbed.Kind
import Testbed.NameMap

/-!
# Configuration of an environment

`Config` states what the operator of one environment wants. A section that is left out holds the
field defaults of its structure here. Durations are whole seconds.
-/

namespace Testbed

/-- The version of the configuration format. -/
def configVersion : Nat := 1

/-! ## Sections -/

/-- How the environment is provisioned. -/
structure ProviderSection where
  /-- The name of the provider. -/
  kind : String := "command"
  /-- Tools that must be installed. -/
  requiredTools : List String := []
  /-- How long one command may run. -/
  commandTimeout : Nat := 1800
  deriving DecidableEq

/-- The commands of the steps that make and check the prerequisites. -/
structure StepCommands where
  createBucket : Option String := none
  deleteBucket : Option String := none
  createEncryptionKey : Option String := none
  deleteEncryptionKey : Option String := none
  createKeyPair : Option String := none
  deleteKeyPair : Option String := none
  createClusterRole : Option String := none
  deleteClusterRole : Option String := none
  createNetwork : Option String := none
  deleteNetwork : Option String := none
  createCluster : Option String := none
  deleteCluster : Option String := none
  checkHealth : Option String := none
  uploadArtifacts : Option String := none
  installGpuDriver : Option String := none
  gpuSmokeTest : Option String := none
  deriving DecidableEq

/-- The command that creates a resource. -/
def StepCommands.create (c : StepCommands) : ResourceKind → Option String
  | .bucket => c.createBucket
  | .encryptionKey => c.createEncryptionKey
  | .keyPair => c.createKeyPair
  | .clusterRole => c.createClusterRole
  | .network => c.createNetwork
  | .cluster => c.createCluster

/-- The command that deletes a resource. -/
def StepCommands.delete (c : StepCommands) : ResourceKind → Option String
  | .bucket => c.deleteBucket
  | .encryptionKey => c.deleteEncryptionKey
  | .keyPair => c.deleteKeyPair
  | .clusterRole => c.deleteClusterRole
  | .network => c.deleteNetwork
  | .cluster => c.deleteCluster

/-- Which prerequisites belong to the environment. One that does not is never created nor
deleted. -/
structure Prerequisites where
  createBucket : Bool := true
  createEncryptionKey : Bool := false
  createKeyPair : Bool := true
  createClusterRole : Bool := true
  createNetwork : Bool := true
  /-- The commands of the steps. -/
  commands : StepCommands := {}
  deriving DecidableEq

/-- Whether a resource belongs to the environment; the control plane always does. -/
def Prerequisites.owns (p : Prerequisites) : ResourceKind → Bool
  | .bucket => p.createBucket
  | .encryptionKey => p.createEncryptionKey
  | .keyPair => p.createKeyPair
  | .clusterRole => p.createClusterRole
  | .network => p.createNetwork
  | .cluster => true

/-- The commands of one node group family or add-on. -/
structure ComponentCommands where
  create : Option String := none
  delete : Option String := none
  logs : Option String := none
  aggregate : Option String := none
  deriving DecidableEq

/-- What a node group boots from. -/
inductive ImageFamily
  | amazonLinux | amazonLinuxGpu | amazonLinuxArm | bottlerocket
  deriving DecidableEq

namespace ImageFamily

/-- All families. -/
def all : List ImageFamily := [amazonLinux, amazonLinuxGpu, amazonLinuxArm, bottlerocket]

/-- The name of a family in documents. -/
def name : ImageFamily → String
  | amazonLinux => "al2-x86_64"
  | amazonLinuxGpu => "al2-x86_64-gpu"
  | amazonLinuxArm => "al2-arm64"
  | bottlerocket => "bottlerocket"

/-- Whether nodes of the family need GPU drivers. -/
def needsGpuDrivers (f : ImageFamily) : Bool := f = amazonLinuxGpu

end ImageFamily

/-- One node group. -/
structure NodeGroup where
  /-- Its name. -/
  name : String
  /-- What its nodes boot from. -/
  imageFamily : ImageFamily := .amazonLinux
  /-- How many nodes are wanted. -/
  desiredNodes : Option Nat := none
  deriving DecidableEq

/-- One family of node groups. -/
structure NodeGroupSection where
  /-- Whether the family is wanted. -/
  enable : Bool := false
  /-- Whether its logs are collected once the environment is up. -/
  fetchLogs : Bool := false
  /-- Its groups. -/
  groups : List NodeGroup := []
  /-- Its commands. -/
  commands : ComponentCommands := {}
  deriving DecidableEq

/-- Whether an enabled family has a group that needs GPU drivers. -/
def NodeGroupSection.needsGpuDrivers (s : NodeGroupSection) : Bool :=
  s.enable && s.groups.any fun g => g.imageFamily.needsGpuDrivers

/-- What is wanted of one add-on. -/
structure AddOnSection where
  /-- Whether the add-on is wanted. -/
  enable : Bool := false
  /-- The namespace it is installed into. -/
  nameSpace : Option String := none
  /-- Whether its logs are collected once the environment is up. -/
  fetchLogs : Bool := false
  /-- Its commands. -/
  commands : ComponentCommands := {}
  deriving DecidableEq

/-- Commands that run at fixed points while an environment is provisioned, and the files that
take their output. -/
structure HooksSection where
  afterCreateCluster : Option String := none
  afterCreateClusterOutput : Option String := none
  afterCreateAddOns : Option String := none
  afterCreateAddOnsOutput : Option String := none
  /-- How long a hook may run. -/
  timeout : Nat := 300
  deriving DecidableEq

/-- The points at which hooks run. -/
inductive HookPoint
  | afterCreateCluster | afterCreateAddOns
  deriving DecidableEq

namespace HookPoint

/-- Both points in the order in which they are reached. -/
def all : List HookPoint := [afterCreateCluster, afterCreateAddOns]

/-- The name of a point. -/
def name : HookPoint → String
  | afterCreateCluster => "after_create_cluster"
  | afterCreateAddOns => "after_create_add_ons"

/-- The command template of a point. -/
def command (p : HookPoint) (h : HooksSection) : Option String :=
  match p with
  | afterCreateCluster => h.afterCreateCluster
  | afterCreateAddOns => h.afterCreateAddOns

/-- The file that takes the output of a point's command. -/
def output (p : HookPoint) (h : HooksSection) : Option String :=
  match p with
  | afterCreateCluster => h.afterCreateClusterOutput
  | afterCreateAddOns => h.afterCreateAddOnsOutput

end HookPoint

/-- What happens when provisioning fails. -/
structure OnFailureSection where
  /-- Whether the part that exists is deleted. -/
  delete : Bool := true
  /-- How long to wait before. -/
  deleteWait : Nat := 120
  deriving DecidableEq

/-- The pauses of both sagas and the polling of health checks. -/
structure Timings where
  postCreate : Nat := 30
  addOn : Nat := 20
  lightAddOn : Nat := 5
  loadBalancer : Nat := 60
  loadBalancerNetwork : Nat := 120
  nodeGroup : Nat := 10
  network : Nat := 30
  fetchLogs : Nat := 15
  healthAttempts : Nat := 3
  healthInterval : Nat := 10
  deriving DecidableEq

/-! ## The whole configuration -/

/-- What the operator of an environment wants. -/
structure Config where
  /-- The version of the format. -/
  version : Nat
  /-- The name of the environment. -/
  name : String
  /-- The cloud region. -/
  region : String
  /-- Where the credentials of the cluster are kept. -/
  kubeconfig : Option String := none
  provider : ProviderSection := {}
  prerequisites : Prerequisites := {}
  nodeGroups : NodeGroupSection := {}
  managedNodeGroups : NodeGroupSection := {}
  /-- The add-ons by name; only a validated configuration names no others than exist. -/
  addOns : NameMap AddOnSection := .empty
  hooks : HooksSection := {}
  onFailure : OnFailureSection := {}
  timings : Timings := {}
  deriving DecidableEq

namespace Config

/-- What is wanted of an add-on, if anything is said about it. -/
def addOn? (c : Config) (k : AddOnKind) : Option AddOnSection := c.addOns.get? k.name

/-- Whether an add-on is wanted. -/
def addOnEnabled (c : Config) (k : AddOnKind) : Bool :=
  (c.addOn? k).any fun s => s.enable

/-- What is wanted of a family of node groups. -/
def nodeGroup (c : Config) : NodeGroupKind → NodeGroupSection
  | .unmanaged => c.nodeGroups
  | .managed => c.managedNodeGroups

/-- Whether some family of node groups is wanted. -/
def anyNodeGroupEnabled (c : Config) : Bool := c.nodeGroups.enable || c.managedNodeGroups.enable

/-- Whether a wanted node group needs GPU drivers. -/
def needsGpuDrivers (c : Config) : Bool :=
  c.nodeGroups.needsGpuDrivers || c.managedNodeGroups.needsGpuDrivers

/-- Whether a component is owned or enabled. -/
def wants (c : Config) : Component → Bool
  | .resource k => c.prerequisites.owns k
  | .nodeGroup k => (c.nodeGroup k).enable
  | .addOn k => c.addOnEnabled k

/-- The configuration that a new environment starts from: one node group and no add-ons. -/
def template (name region : String) : Config where
  version := configVersion
  name := name
  region := region
  nodeGroups :=
    { enable := true
      groups := [{ name := s!"{name}-ng", desiredNodes := some 2 }] }

end Config

end Testbed
