/-!
# Kinds of component

An environment is made of prerequisite resources, families of node groups and add-ons. Each of
the three enumerations lists its kinds once, in the order in which they are created; teardown
goes the other way round. Every other module takes orders and names from here.
-/

namespace Testbed

/-! ## Resources -/

/-- The prerequisites of an environment, the control plane (`cluster`) included. -/
inductive ResourceKind
  | bucket | encryptionKey | keyPair | clusterRole | network | cluster
  deriving DecidableEq

namespace ResourceKind

/-- All resources in creation order: each may need the ones before it. -/
def all : List ResourceKind :=
  [bucket, encryptionKey, keyPair, clusterRole, network, cluster]

/-- The name of a resource in state documents and step labels. -/
def name : ResourceKind → String
  | bucket => "bucket"
  | encryptionKey => "encryption_key"
  | keyPair => "key_pair"
  | clusterRole => "cluster_role"
  | network => "network"
  | cluster => "cluster"

/-- The resource of that name. -/
def ofName? (s : String) : Option ResourceKind := all.find? fun k => k.name = s

theorem mem_all (k : ResourceKind) : k ∈ all := by cases k <;> decide

end ResourceKind

/-! ## Node groups -/

/-- The families of node groups. -/
inductive NodeGroupKind
  | unmanaged | managed
  deriving DecidableEq

namespace NodeGroupKind

/-- Both families in creation order. -/
def all : List NodeGroupKind := [unmanaged, managed]

/-- The name of a family in state documents. -/
def name : NodeGroupKind → String
  | unmanaged => "unmanaged"
  | managed => "managed"

/-- The family of that name. -/
def ofName? (s : String) : Option NodeGroupKind := all.find? fun k => k.name = s

/-- The name of a family among all components. -/
def label (k : NodeGroupKind) : String := s!"node_group:{k.name}"

theorem mem_all (k : NodeGroupKind) : k ∈ all := by cases k <;> decide

end NodeGroupKind

/-! ## Add-ons -/

/-- The optional capabilities that can be installed onto an environment. -/
inductive AddOnKind
  | conformance | csiEbs | appMesh | kubernetesDashboard | prometheusGrafana
  | nlbHelloWorld | alb2048 | jobsPi | jobsEcho | cronJobs
  | csrsLocal | csrsRemote | configMapsLocal | configMapsRemote | secretsLocal | secretsRemote
  | fargate | irsa | irsaFargate | wordpress | jupyterHub | kubeflow
  | hollowNodesLocal | hollowNodesRemote | clusterLoaderLocal | clusterLoaderRemote
  | stresserLocal | stresserRemote
  deriving DecidableEq

/-- When an add-on is installed: cluster infrastructure comes before the health check in the
middle of provisioning, test workloads after it. -/
inductive Tier
  | cluster | workload
  deriving DecidableEq

/-- How long the cloud takes to settle after an add-on was deleted. A load balancer must be
released before the network can go. -/
inductive Cleanup
  | light | heavy | loadBalancer
  deriving DecidableEq

namespace Tier

/-- The name of a tier. -/
def name : Tier → String
  | cluster => "cluster"
  | workload => "workload"

end Tier

namespace Cleanup

/-- All classes. -/
def all : List Cleanup := [light, heavy, loadBalancer]

/-- The name of a cleanup class. -/
def name : Cleanup → String
  | light => "light"
  | heavy => "heavy"
  | loadBalancer => "load_balancer"

end Cleanup

namespace AddOnKind

/-- All add-ons in creation order. -/
def all : List AddOnKind :=
  [conformance, csiEbs, appMesh, kubernetesDashboard, prometheusGrafana,
   nlbHelloWorld, alb2048, jobsPi, jobsEcho, cronJobs,
   csrsLocal, csrsRemote, configMapsLocal, configMapsRemote, secretsLocal, secretsRemote,
   fargate, irsa, irsaFargate, wordpress, jupyterHub, kubeflow,
   hollowNodesLocal, hollowNodesRemote, clusterLoaderLocal, clusterLoaderRemote,
   stresserLocal, stresserRemote]

/-- The name of an add-on in configs and state documents. -/
def name : AddOnKind → String
  | conformance => "conformance"
  | csiEbs => "csi_ebs"
  | appMesh => "app_mesh"
  | kubernetesDashboard => "kubernetes_dashboard"
  | prometheusGrafana => "prometheus_grafana"
  | nlbHelloWorld => "nlb_hello_world"
  | alb2048 => "alb_2048"
  | jobsPi => "jobs_pi"
  | jobsEcho => "jobs_echo"
  | cronJobs => "cron_jobs"
  | csrsLocal => "csrs_local"
  | csrsRemote => "csrs_remote"
  | configMapsLocal => "config_maps_local"
  | configMapsRemote => "config_maps_remote"
  | secretsLocal => "secrets_local"
  | secretsRemote => "secrets_remote"
  | fargate => "fargate"
  | irsa => "irsa"
  | irsaFargate => "irsa_fargate"
  | wordpress => "wordpress"
  | jupyterHub => "jupyter_hub"
  | kubeflow => "kubeflow"
  | hollowNodesLocal => "hollow_nodes_local"
  | hollowNodesRemote => "hollow_nodes_remote"
  | clusterLoaderLocal => "cluster_loader_local"
  | clusterLoaderRemote => "cluster_loader_remote"
  | stresserLocal => "stresser_local"
  | stresserRemote => "stresser_remote"

/-- The name of an add-on where its kind stands as a value: the words of the kind joined by
underscores, so that digits stay with the word before them. -/
def valueName : AddOnKind → String
  | alb2048 => "alb2048"
  | k => k.name

/-- The add-on of that name. -/
def ofName? (s : String) : Option AddOnKind := all.find? fun k => k.name = s

/-- The name of an add-on among all components. -/
def label (k : AddOnKind) : String := s!"add_on:{k.name}"

/-- The place of an add-on in the creation order. -/
def position (k : AddOnKind) : Nat := all.idxOf k

end AddOnKind

/-- What is fixed about an add-on. -/
structure AddOnDescriptor where
  kind : AddOnKind
  /-- When the add-on is installed. -/
  tier : Tier
  /-- How the cloud cleans up after it. -/
  cleanup : Cleanup
  deriving DecidableEq

/-- The descriptors of all add-ons. A session creates its add-ons in the order of this table and
deletes them in the reverse. -/
def AddOnDescriptor.table : List AddOnDescriptor :=
  [⟨.conformance, .cluster, .heavy⟩,
   ⟨.csiEbs, .cluster, .heavy⟩,
   ⟨.appMesh, .cluster, .light⟩,
   ⟨.kubernetesDashboard, .cluster, .light⟩,
   ⟨.prometheusGrafana, .cluster, .heavy⟩,
   ⟨.nlbHelloWorld, .workload, .loadBalancer⟩,
   ⟨.alb2048, .workload, .loadBalancer⟩,
   ⟨.jobsPi, .workload, .light⟩,
   ⟨.jobsEcho, .workload, .light⟩,
   ⟨.cronJobs, .workload, .light⟩,
   ⟨.csrsLocal, .workload, .light⟩,
   ⟨.csrsRemote, .workload, .light⟩,
   ⟨.configMapsLocal, .workload, .light⟩,
   ⟨.configMapsRemote, .workload, .light⟩,
   ⟨.secretsLocal, .workload, .light⟩,
   ⟨.secretsRemote, .workload, .light⟩,
   ⟨.fargate, .workload, .light⟩,
   ⟨.irsa, .workload, .light⟩,
   ⟨.irsaFargate, .workload, .light⟩,
   ⟨.wordpress, .workload, .heavy⟩,
   ⟨.jupyterHub, .workload, .heavy⟩,
   ⟨.kubeflow, .workload, .light⟩,
   ⟨.hollowNodesLocal, .workload, .light⟩,
   ⟨.hollowNodesRemote, .workload, .light⟩,
   ⟨.clusterLoaderLocal, .workload, .heavy⟩,
   ⟨.clusterLoaderRemote, .workload, .heavy⟩,
   ⟨.stresserLocal, .workload, .heavy⟩,
   ⟨.stresserRemote, .workload, .heavy⟩]

namespace AddOnKind

/-- The descriptor of an add-on: every kind has one in the table. -/
def descriptor (k : AddOnKind) : AddOnDescriptor :=
  (AddOnDescriptor.table.find? fun row => row.kind = k).get (by cases k <;> rfl)

/-- When the add-on is installed. -/
def tier (k : AddOnKind) : Tier := k.descriptor.tier

/-- How the cloud cleans up after the add-on. -/
def cleanup (k : AddOnKind) : Cleanup := k.descriptor.cleanup

/-- Whether the add-on provisions a load balancer. -/
def holdsLoadBalancer (k : AddOnKind) : Bool := k.cleanup = .loadBalancer

theorem mem_all (k : AddOnKind) : k ∈ all := by cases k <;> decide

theorem nodup_all : all.Nodup := by decide

end AddOnKind

namespace AddOnDescriptor

/-- The table and the enumeration of kinds agree: one descriptor a kind, in the same order. -/
theorem table_eq : table = AddOnKind.all.map AddOnKind.descriptor := by decide

theorem kind_descriptor (k : AddOnKind) : k.descriptor.kind = k := by cases k <;> rfl

end AddOnDescriptor

/-! ## Components -/

/-- Anything a saga creates and deletes. -/
inductive Component
  | resource (kind : ResourceKind)
  | nodeGroup (kind : NodeGroupKind)
  | addOn (kind : AddOnKind)
  deriving DecidableEq

namespace Component

/-- The name of a component in step labels, records and messages. -/
def label : Component → String
  | resource k => k.name
  | nodeGroup k => k.label
  | addOn k => k.label

end Component

end Testbed
