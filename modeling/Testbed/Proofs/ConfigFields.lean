import Testbed.Config.File
import Testbed.Proofs.ConfigShapes
import Testbed.Proofs.Fields
import Testbed.Proofs.FileTrees
import Testbed.Proofs.Validation
import Testbed.Proofs.WrittenTables

/-!
# What a configuration file says

Section by section, `Described` lists the fields with their keys, with what may stand there, and
with the one default that each has where its key is absent. A section that is absent is described
by an empty table, so that its fields have the same defaults as in one that is there.

**Theorem (`load_described`).** A file is accepted only if every key in it, at every depth, is one
that a configuration can have, and then each field of the configuration is what the file says of it.
A file with any other key is refused. Two files that differ in sections, or other fields, that spell
out defaults are the same to the reader, whether or not they are accepted.

That no key is ignored, and that spelled-out defaults make no difference, comes from the shape that
the reader follows (`follows_fields`); the names of add-ons are checked by the validation, which
sees an entry for each. What the fields hold is read off the rules one by one (`means_provider` and
so on): only one of them sets the field in question.
-/

namespace Testbed

open Toml Reader

/-! ## Sections -/

/-- The value is the name of a family of images. -/
def IsFamily (v : Value) (f : ImageFamily) : Prop := v = .string f.name

/-- What a provider section says. -/
structure ProviderSection.Described (t : Table) (s : ProviderSection) : Prop where
  kind : t.Field "kind" IsText "command" s.kind
  requiredTools : t.Field "required_tools" (IsArray IsText) [] s.requiredTools
  commandTimeout : t.Field "command_timeout_secs" IsNumber 1800 s.commandTimeout

@[simp] theorem ProviderSection.described_nil : Described [] {} :=
  ⟨rfl, rfl, rfl⟩

/-- What a table of step commands says. -/
structure StepCommands.Described (t : Table) (s : StepCommands) : Prop where
  createBucket : t.Field "create_bucket" (IsSome IsText) none s.createBucket
  deleteBucket : t.Field "delete_bucket" (IsSome IsText) none s.deleteBucket
  createEncryptionKey : t.Field "create_encryption_key" (IsSome IsText) none s.createEncryptionKey
  deleteEncryptionKey : t.Field "delete_encryption_key" (IsSome IsText) none s.deleteEncryptionKey
  createKeyPair : t.Field "create_key_pair" (IsSome IsText) none s.createKeyPair
  deleteKeyPair : t.Field "delete_key_pair" (IsSome IsText) none s.deleteKeyPair
  createClusterRole : t.Field "create_cluster_role" (IsSome IsText) none s.createClusterRole
  deleteClusterRole : t.Field "delete_cluster_role" (IsSome IsText) none s.deleteClusterRole
  createNetwork : t.Field "create_network" (IsSome IsText) none s.createNetwork
  deleteNetwork : t.Field "delete_network" (IsSome IsText) none s.deleteNetwork
  createCluster : t.Field "create_cluster" (IsSome IsText) none s.createCluster
  deleteCluster : t.Field "delete_cluster" (IsSome IsText) none s.deleteCluster
  checkHealth : t.Field "check_health" (IsSome IsText) none s.checkHealth
  uploadArtifacts : t.Field "upload_artifacts" (IsSome IsText) none s.uploadArtifacts
  installGpuDriver : t.Field "install_gpu_driver" (IsSome IsText) none s.installGpuDriver
  gpuSmokeTest : t.Field "gpu_smoke_test" (IsSome IsText) none s.gpuSmokeTest

@[simp] theorem StepCommands.described_nil : Described [] {} := by constructor <;> rfl

/-- What a prerequisites section says. -/
structure Prerequisites.Described (t : Table) (s : Prerequisites) : Prop where
  createBucket : t.Field "create_bucket" IsBoolean true s.createBucket
  createEncryptionKey : t.Field "create_encryption_key" IsBoolean false s.createEncryptionKey
  createKeyPair : t.Field "create_key_pair" IsBoolean true s.createKeyPair
  createClusterRole : t.Field "create_cluster_role" IsBoolean true s.createClusterRole
  createNetwork : t.Field "create_network" IsBoolean true s.createNetwork
  commands : t.Section "commands" StepCommands.Described s.commands

@[simp] theorem Prerequisites.described_nil : Described [] {} :=
  ⟨rfl, rfl, rfl, rfl, rfl, StepCommands.described_nil⟩

/-- What a node group says. -/
structure NodeGroup.Described (t : Table) (s : NodeGroup) : Prop where
  name : t.Given "name" IsText s.name
  imageFamily : t.Field "image_family" IsFamily .amazonLinux s.imageFamily
  desiredNodes : t.Field "desired_nodes" (IsSome IsNumber) none s.desiredNodes

/-- What a section says of the commands of a component. -/
structure ComponentCommands.Described (t : Table) (s : ComponentCommands) : Prop where
  create : t.Field "create" (IsSome IsText) none s.create
  delete : t.Field "delete" (IsSome IsText) none s.delete
  logs : t.Field "logs" (IsSome IsText) none s.logs
  aggregate : t.Field "aggregate" (IsSome IsText) none s.aggregate

@[simp] theorem ComponentCommands.described_nil : Described [] {} :=
  ⟨rfl, rfl, rfl, rfl⟩

/-- What a node group section says. -/
structure NodeGroupSection.Described (t : Table) (s : NodeGroupSection) : Prop where
  enable : t.Field "enable" IsBoolean false s.enable
  fetchLogs : t.Field "fetch_logs" IsBoolean false s.fetchLogs
  groups : t.Field "groups" (IsArray (IsTable NodeGroup.Described)) [] s.groups
  commands : s.commands.Described t

@[simp] theorem NodeGroupSection.described_nil : Described [] {} :=
  ⟨rfl, rfl, rfl, ComponentCommands.described_nil⟩

/-- What the section of an add-on says. -/
structure AddOnSection.Described (t : Table) (s : AddOnSection) : Prop where
  enable : t.Field "enable" IsBoolean false s.enable
  nameSpace : t.Field "namespace" (IsSome IsText) none s.nameSpace
  fetchLogs : t.Field "fetch_logs" IsBoolean false s.fetchLogs
  commands : s.commands.Described t

/-- What a hooks section says. -/
structure HooksSection.Described (t : Table) (s : HooksSection) : Prop where
  afterCreateCluster : t.Field "after_create_cluster" (IsSome IsText) none s.afterCreateCluster
  afterCreateClusterOutput :
    t.Field "after_create_cluster_output" (IsSome IsText) none s.afterCreateClusterOutput
  afterCreateAddOns : t.Field "after_create_add_ons" (IsSome IsText) none s.afterCreateAddOns
  afterCreateAddOnsOutput :
    t.Field "after_create_add_ons_output" (IsSome IsText) none s.afterCreateAddOnsOutput
  timeout : t.Field "timeout_secs" IsNumber 300 s.timeout

@[simp] theorem HooksSection.described_nil : Described [] {} :=
  ⟨rfl, rfl, rfl, rfl, rfl⟩

/-- What a section on failures says. -/
structure OnFailureSection.Described (t : Table) (s : OnFailureSection) : Prop where
  delete : t.Field "delete" IsBoolean true s.delete
  deleteWait : t.Field "delete_wait_secs" IsNumber 120 s.deleteWait

@[simp] theorem OnFailureSection.described_nil : Described [] {} :=
  ⟨rfl, rfl⟩

/-- What a timings section says. -/
structure Timings.Described (t : Table) (s : Timings) : Prop where
  postCreate : t.Field "post_create_settle_secs" IsNumber 30 s.postCreate
  addOn : t.Field "add_on_settle_secs" IsNumber 20 s.addOn
  lightAddOn : t.Field "light_add_on_settle_secs" IsNumber 5 s.lightAddOn
  loadBalancer : t.Field "load_balancer_settle_secs" IsNumber 60 s.loadBalancer
  loadBalancerNetwork :
    t.Field "load_balancer_network_settle_secs" IsNumber 120 s.loadBalancerNetwork
  nodeGroup : t.Field "node_group_settle_secs" IsNumber 10 s.nodeGroup
  network : t.Field "network_settle_secs" IsNumber 30 s.network
  fetchLogs : t.Field "fetch_logs_settle_secs" IsNumber 15 s.fetchLogs
  healthAttempts : t.Field "health_attempts" IsNumber 3 s.healthAttempts
  healthInterval : t.Field "health_interval_secs" IsNumber 10 s.healthInterval

@[simp] theorem Timings.described_nil : Described [] {} := by constructor <;> rfl

/-- What a document says of a configuration. -/
structure Config.Described (t : Table) (c : Config) : Prop where
  version : t.Given "config_version" IsNumber c.version
  name : t.Given "name" IsText c.name
  region : t.Given "region" IsText c.region
  kubeconfig : t.Field "kubeconfig" (IsSome IsText) none c.kubeconfig
  provider : t.Section "provider" ProviderSection.Described c.provider
  prerequisites : t.Section "prerequisites" Prerequisites.Described c.prerequisites
  nodeGroups : t.Section "node_groups" NodeGroupSection.Described c.nodeGroups
  managedNodeGroups :
    t.Section "managed_node_groups" NodeGroupSection.Described c.managedNodeGroups
  addOns : t.Section "add_ons" (IsMap (IsTable AddOnSection.Described)) c.addOns
  hooks : t.Section "hooks" HooksSection.Described c.hooks
  onFailure : t.Section "on_failure" OnFailureSection.Described c.onFailure
  timings : t.Section "timings" Timings.Described c.timings

/-! ## What is read -/

namespace Config

variable {wanted : String}

@[simp] theorem means_provider :
    (Reader.record wanted providerFields {}).Means (.record providerShape)
      (IsTable ProviderSection.Described) := by
  refine means_record (by simp [providerFields, Toml.optional, Value.datetimeField]) ?_
  intro t s read regular
  constructor
  all_goals
    refine field_of_readFields read regular rfl ?_
    simp [providerFields, Toml.optional, word64]

@[simp] theorem means_stepCommands :
    (Reader.record wanted stepCommandFields {}).Means (.record stepCommandShape)
      (IsTable StepCommands.Described) := by
  refine means_record (by
    simp [stepCommandFields, optionalText, Toml.optional, Value.datetimeField]) ?_
  intro t s read regular
  constructor
  all_goals
    refine field_of_readFields read regular rfl ?_
    simp [stepCommandFields, optionalText, Toml.optional]

@[simp] theorem means_prerequisites :
    (Reader.record wanted prerequisiteFields {}).Means (.record prerequisiteShape)
      (IsTable Prerequisites.Described) := by
  refine means_record (by simp [prerequisiteFields, Toml.optional, Value.datetimeField]) ?_
  intro t s read regular
  constructor
  case commands =>
    refine section_of_readFields read regular rfl ?_ StepCommands.described_nil
    simp [prerequisiteFields, Toml.optional]
  all_goals
    refine field_of_readFields read regular rfl ?_
    simp [prerequisiteFields, Toml.optional]

@[simp] theorem means_imageFamily : (alternative imageFamilies).Means .choice IsFamily := by
  intro v f read regular
  obtain ⟨name, rfl, mem⟩ := means_alternative v f read regular
  obtain ⟨f', -, same⟩ := List.mem_map.1 mem
  cases same
  rfl

@[simp] theorem means_nodeGroup :
    (Reader.record wanted nodeGroupFields { name := "" }).Means (.record nodeGroupShape)
      (IsTable NodeGroup.Described) := by
  refine means_record (by
    simp [nodeGroupFields, Toml.optional, Toml.needed, Value.datetimeField]) ?_
  intro t s read regular
  constructor
  case name =>
    refine given_of_readFields read regular rfl ?_ ?_
    all_goals simp [nodeGroupFields, Toml.optional, Toml.needed]
  all_goals
    refine field_of_readFields read regular rfl ?_
    simp [nodeGroupFields, Toml.optional, Toml.needed, word32]

@[simp] theorem means_nodeGroupSection :
    (Reader.record wanted nodeGroupSectionFields {}).Means (.record nodeGroupSectionShape)
      (IsTable NodeGroupSection.Described) := by
  refine means_record (by simp [nodeGroupSectionFields, componentFields, optionalText,
    Toml.optional, Value.datetimeField]) ?_
  intro t s read regular
  constructor
  case commands =>
    refine ⟨field_of_readFields (g := (·.commands.create)) read regular rfl ?_,
      field_of_readFields (g := (·.commands.delete)) read regular rfl ?_,
      field_of_readFields (g := (·.commands.logs)) read regular rfl ?_,
      field_of_readFields (g := (·.commands.aggregate)) read regular rfl ?_⟩
    all_goals
      simp [nodeGroupSectionFields, componentFields, optionalText, Toml.optional]
  all_goals
    refine field_of_readFields read regular rfl ?_
    simp [nodeGroupSectionFields, componentFields, optionalText, Toml.optional]

@[simp] theorem means_addOn :
    (Reader.record wanted addOnFields {}).Means (.record addOnShape)
      (IsTable AddOnSection.Described) := by
  refine means_record (by
    simp [addOnFields, componentFields, optionalText, Toml.optional, Value.datetimeField]) ?_
  intro t s read regular
  constructor
  case commands =>
    refine ⟨field_of_readFields (g := (·.commands.create)) read regular rfl ?_,
      field_of_readFields (g := (·.commands.delete)) read regular rfl ?_,
      field_of_readFields (g := (·.commands.logs)) read regular rfl ?_,
      field_of_readFields (g := (·.commands.aggregate)) read regular rfl ?_⟩
    all_goals
      simp [addOnFields, componentFields, optionalText, Toml.optional]
  all_goals
    refine field_of_readFields read regular rfl ?_
    simp [addOnFields, componentFields, optionalText, Toml.optional]

@[simp] theorem means_hooks : (Reader.record wanted hookFields {}).Means (.record hookShape)
    (IsTable HooksSection.Described) := by
  refine means_record (by
    simp [hookFields, optionalText, optionalPath, Toml.optional, Value.datetimeField]) ?_
  intro t s read regular
  constructor
  all_goals
    refine field_of_readFields read regular rfl ?_
    simp [hookFields, optionalText, optionalPath, Toml.optional, word64]

@[simp] theorem means_onFailure :
    (Reader.record wanted onFailureFields {}).Means (.record onFailureShape)
      (IsTable OnFailureSection.Described) := by
  refine means_record (by simp [onFailureFields, Toml.optional, Value.datetimeField]) ?_
  intro t s read regular
  constructor
  all_goals
    refine field_of_readFields read regular rfl ?_
    simp [onFailureFields, Toml.optional, word64]

@[simp] theorem means_timings : (Reader.record wanted timingFields {}).Means (.record timingShape)
    (IsTable Timings.Described) := by
  refine means_record (by simp [timingFields, Toml.optional, Value.datetimeField]) ?_
  intro t s read regular
  constructor
  all_goals
    refine field_of_readFields read regular rfl ?_
    simp [timingFields, Toml.optional, word64, word32]

/-- **A configuration is what its document says.** -/
theorem described_of_ofTable {t : Table} {c : Config} (read : ofTable t = .ok c)
    (regular : shape.Regular (.table t)) : c.Described t := by
  constructor
  case version | name | region =>
    refine given_of_readFields read regular rfl ?_ ?_
    all_goals simp [fields, optionalPath, Toml.optional, Toml.needed, word32]
  case kubeconfig =>
    refine field_of_readFields read regular rfl ?_
    simp [fields, optionalPath, Toml.optional, Toml.needed]
  case addOns =>
    refine section_of_readFields read regular rfl ?_ fun key => .none
    simp [fields, optionalPath, Toml.optional, Toml.needed]
  all_goals
    refine section_of_readFields read regular rfl ?_ (by simp)
    simp [fields, optionalPath, Toml.optional, Toml.needed]

/-! ## Files -/

/-- A key, or a key of a section, that a configuration can have. What stands under `add_ons` has the
names of add-ons. -/
def IsField (p : List Step) : Prop :=
  (shape.at? p).isSome = true ∧
    ∀ name rest, p = .key "add_ons" :: .key name :: rest → ∃ k : AddOnKind, k.name = name

variable {files : FileTree} {path text : String} {t : Table} {c : Config}

theorem load_of_readText (given : files.readText path = .ok text)
    (tree : Document.read? text = some t) :
    load files path =
      ((ofTable t).mapError .misfit >>= fun c => c.validate >>= fun _ => .ok c) := by
  simp only [load, given, parse, tree, Except.mapError, bind, Except.bind]

theorem load_eq_ok_iff (given : files.readText path = .ok text)
    (tree : Document.read? text = some t) :
    load files path = .ok c ↔ ofTable t = .ok c ∧ Valid c := by
  rw [load_of_readText given tree]
  constructor
  · intro loaded
    obtain ⟨c', read, loaded⟩ := exists_of_bind loaded
    obtain ⟨u, accepted, same⟩ := exists_of_bind loaded
    cases same
    refine ⟨?_, fault?_eq_none_iff.1 (validate_eq_ok_iff.1 accepted)⟩
    cases made : ofTable t with
    | error e => simp [made, Except.mapError] at read
    | ok c' => simpa [made, Except.mapError] using read
  · rintro ⟨read, valid⟩
    have accepted := validate_eq_ok_iff.2 (fault?_eq_none_iff.2 valid)
    simp only [read, accepted, Except.mapError, bind, Except.bind]

/-- The names under `add_ons` are those of add-ons. -/
theorem known_of_at (described : c.Described t) (valid : Valid c) {name : String}
    {rest : List Step} {w : Value}
    (stands : (Value.table t).At (.key "add_ons" :: .key name :: rest) w) :
    ∃ k : AddOnKind, k.name = name := by
  cases stands with
  | key said stands =>
    cases stands with
    | key entry =>
      have addOns := described.addOns
      simp only [Table.Section, said] at addOns
      obtain ⟨u, same, entries⟩ := addOns
      cases same
      have found := entries name
      rw [entry] at found
      cases here : c.addOns.get? name with
      | none => simp [here] at found
      | some s => exact (valid.addOns name s here).known

/-- **No key is ignored, and every absent key has one default.** Files are the same to the reader if
they say the same but for fields that spell out defaults. -/
theorem load_described (given : files.readText path = .ok text)
    (tree : Document.read? text = some t) (regular : shape.Regular (.table t)) :
    (∀ c, load files path = .ok c →
        (∀ p w, (Value.table t).At p w → IsField p) ∧ c.Described t) ∧
      (∀ p w, (Value.table t).At p w → ¬IsField p → ∃ e, load files path = .error e) ∧
      ∀ files' path' text' t', files'.readText path' = .ok text' → Document.read? text' = some t' →
        Relation.EqvGen shape.Spare (.table t) (.table t') →
          load files' path' = load files path := by
  have accepted (c : Config) (loaded : load files path = .ok c) :
      (∀ p w, (Value.table t).At p w → IsField p) ∧ c.Described t := by
    obtain ⟨read, valid⟩ := (load_eq_ok_iff given tree).1 loaded
    have described := described_of_ofTable read regular
    refine ⟨fun p w stands => ⟨?_, ?_⟩, described⟩
    · exact (follows_fields "").knows (.table t) c read regular p w stands
    · rintro name rest rfl
      exact known_of_at described valid stands
  refine ⟨accepted, fun p w stands unknown => ?_, fun files' path' text' t' given' tree' same => ?_⟩
  · cases loaded : load files path with
    | error e => exact ⟨e, rfl⟩
    | ok c => exact absurd ((accepted c loaded).1 p w stands) unknown
  · have same : ofTable t = ofTable t' := (follows_fields "").eqvGen same
    rw [load_of_readText given tree, load_of_readText given' tree', same]

/-- A document of an environment with one add-on and other sections before it. -/
def sampleDocument (sections : Table) : Table :=
  [("config_version", .integer 1), ("name", .string "demo"), ("region", .string "eu-1")] ++ sections
    ++ [("add_ons", .table [("csi_ebs", .table [("enable", .boolean true)])])]

/-- A section that spells out a default. -/
def spareSections : Table := [("timings", .table [("node_group_settle_secs", .integer 10)])]

/-- A section with a name that is not quite right. -/
def misnamedSections : Table := [("timing", .table [("node_group_settle_secs", .integer 10)])]

/-- What the document says without other sections. -/
def sampleDescribed : Config where
  version := 1
  name := "demo"
  region := "eu-1"
  addOns := .ofList [("csi_ebs", { enable := true })]

/-- A file with the document. -/
def sampleConfigFiles (sections : Table) : FileTree where
  entries :=
    [(["demo.toml"],
      .file (Document.write (sampleDocument sections)).toUTF8 FileTree.publicMode)]
  current := []

theorem readText_sampleConfigFiles (sections : Table) :
    (sampleConfigFiles sections).readText "demo.toml" =
      .ok (Document.write (sampleDocument sections)) := by
  have check : FileTree.checkPath "demo.toml" = .ok () := by decide +kernel
  have names : Path.segments "demo.toml" = ["demo.toml"] := by decide +kernel
  have start : (sampleConfigFiles sections).origin "demo.toml" = [] := ite_self _
  have found : (sampleConfigFiles sections).locate "demo.toml" = .ok ["demo.toml"] := by
    rw [FileTree.locate_eq check, names, start]
    rfl
  refine FileTree.readText_of_read ?_
  rw [FileTree.read, found]
  rfl

theorem read?_sampleDocument (sections : Table)
    (distinct : ((sampleDocument sections).map (·.1)).Nodup) (plain : ∀ f ∈ sections, Plain 2 f.2)
    (laid : laidOutFields (sampleDocument sections) = sampleDocument sections) :
    Document.read? (Document.write (sampleDocument sections)) = some (sampleDocument sections) := by
  have enable : Plain 1 (.table [("enable", .boolean true)]) :=
    .table (by decide) (List.forall_mem_singleton.2 (.inl (.scalar (.boolean true))))
  have addOns : Plain 2 (.table [("csi_ebs", .table [("enable", .boolean true)])]) :=
    .table (by decide) (List.forall_mem_singleton.2 enable)
  have version : Plain 2 (.integer 1) := .inl (.scalar (.integer (n := 1) (by decide)))
  have whole : ∀ f ∈ sampleDocument sections, Plain 2 f.2 := by
    simp only [sampleDocument, List.forall_mem_append, List.forall_mem_cons]
    exact ⟨⟨⟨version, .inl (.scalar (.string _)), .inl (.scalar (.string _)), nofun⟩, plain⟩,
      addOns, nofun⟩
  have back := (Document.read?_write? (by decide) distinct whole).2
  rwa [laid] at back

theorem plain_settle (name : String) :
    ∀ f ∈ [(name, Value.table [("node_group_settle_secs", .integer 10)])], Plain 2 f.2 := by
  have settle : Plain 1 (.integer 10) := .inl (.scalar (.integer (n := 10) (by decide)))
  exact List.forall_mem_singleton.2 (.table (by simp) (List.forall_mem_singleton.2 settle))

theorem regular_sampleDocument {sections : Table}
    (regular : ∀ e ∈ sections, ∀ part, shape.step? (.key e.1) = some part → part.Regular e.2) :
    shape.Regular (.table (sampleDocument sections)) := by
  refine .of_fields nofun ?_
  simp only [sampleDocument, List.forall_mem_append, List.forall_mem_cons]
  refine ⟨⟨⟨fun _ _ => .scalar nofun nofun, fun _ _ => .scalar nofun nofun,
    fun _ _ => .scalar nofun nofun, nofun⟩, regular⟩, fun part step => ?_, nofun⟩
  cases step
  refine .of_fields trivial (List.forall_mem_singleton.2 fun part step => ?_)
  cases step
  exact .of_fields nofun (List.forall_mem_singleton.2 fun _ _ => .scalar nofun nofun)

/-- A section that spells out a default makes no difference, one with an unknown name does. -/
theorem load_described_spareSections :
    load (sampleConfigFiles []) "demo.toml" = .ok sampleDescribed ∧
      sampleDescribed.Described (sampleDocument []) ∧
      load (sampleConfigFiles spareSections) "demo.toml" = .ok sampleDescribed ∧
      ∃ e, load (sampleConfigFiles misnamedSections) "demo.toml" = .error e := by
  have bare := read?_sampleDocument [] (by decide) nofun rfl
  have wordy := read?_sampleDocument spareSections (by decide) (plain_settle _) rfl
  have wrong := read?_sampleDocument misnamedSections (by decide) (plain_settle _) rfl
  have misnamed : shape.Regular (.table (sampleDocument misnamedSections)) :=
    regular_sampleDocument (List.forall_mem_singleton.2 fun _ step => by cases step)
  have told := load_described (readText_sampleConfigFiles _) bare (regular_sampleDocument nofun)
  have valid := fault?_eq_none_iff.1 (by decide +kernel : sampleDescribed.fault? = none)
  have loaded : load (sampleConfigFiles []) "demo.toml" = .ok sampleDescribed :=
    (load_eq_ok_iff (readText_sampleConfigFiles _) bare).2 ⟨rfl, valid⟩
  have spare : Relation.EqvGen shape.Spare (.table (sampleDocument spareSections))
      (.table (sampleDocument [])) :=
    Shape.spare_section ((sampleDocument []).take 3) rfl (by decide)
      (List.forall_mem_singleton.2 ⟨.leaf, rfl⟩)
  refine ⟨loaded, (told.1 _ loaded).2, ?_, ?_⟩
  · rw [told.2.2 _ _ _ _ (readText_sampleConfigFiles _) wordy spare.symm, loaded]
  · refine (load_described (readText_sampleConfigFiles _) wrong misnamed).2.1 [.key "timing"] _
      (.key rfl .here) fun isField => ?_
    exact absurd isField.1 (by decide)

end Config

end Testbed
