import Testbed.Config.Printer
import Testbed.Proofs.ConfigNumbers
import Testbed.Proofs.TomlRecords

/-!
# Configurations survive being written

Writer and reader name the fields of each section apart from one another, and a field that is absent
has its default in the record that reading starts from. Section by section the writer's table fills
the record of the reader (`rows_provider` and so on): an absent optional text leaves the record as
it is, and a family of node groups has its groups read last, since they are laid out behind its
other keys.

**Theorem (`render?_of_parse`).** Every configuration that was read from some text can be written,
and reading what was written gives the same configuration.
-/

namespace Testbed

open Toml

namespace Config

variable {σ : Type} {rules : List (FieldRule σ)} {s t : σ} {fs : Table} {n : Nat}

/-! ## Fields -/

theorem rows_optionalEntry {name wanted : String} {set : Option String → σ → σ}
    (o : Option String) (unset : set none s = s) (later : Rows rules (set o s) fs t) :
    Rows (optional name (.present (.text wanted)) set :: rules) s
      (optionalEntry name o ++ fs) t := by
  cases o with
  | none =>
    rw [unset] at later
    exact ⟨.absent rfl later.fills, later.inl⟩
  | some value => exact later.optional (.scalar (.string value)) rfl

theorem rows_boolean {name : String} {set : Bool → σ → σ} (b : Bool)
    (later : Rows rules (set b s) fs t) :
    Rows (optional name .boolean set :: rules) s ((name, .boolean b) :: fs) t :=
  later.optional (.scalar (.boolean b)) rfl

theorem rows_word64 {name : String} {set : Nat → σ → σ} {k : Nat} (small : k < Nat.pow 2 63)
    (later : Rows rules (set k s) fs t) :
    Rows (optional name .word64 set :: rules) s ((name, .integer k) :: fs) t :=
  later.optional (.scalar (.integer small))
    (natural_integer (Nat.lt_trans small (by decide)))

theorem rows_word32 {name : String} {set : Nat → σ → σ} {k : Nat} (small : k < Nat.pow 2 32)
    (later : Rows rules (set k s) fs t) :
    Rows (optional name .word32 set :: rules) s ((name, .integer k) :: fs) t :=
  later.optional (.scalar (.integer (Nat.lt_trans small (by decide)))) (natural_integer small)

/-! ## Sections -/

theorem rows_provider {s : ProviderSection} (small : s.Small) :
    Rows providerFields {} (providerTable s) s := by
  have read : Reader.list .text (.array (s.requiredTools.map .string)) = .ok s.requiredTools :=
    list_map fun t _ => rfl
  have tools : Inline (.array (s.requiredTools.map .string)) :=
    .array (List.forall_mem_map.2 fun t _ => .string t)
  exact .optional (.optional (rows_word64 small .done) tools read) (.scalar (.string s.kind)) rfl

theorem rows_stepCommands (s : StepCommands) :
    Rows stepCommandFields {} (stepCommandTable s) s := by
  -- The names of the first twelve are made from those of the resources.
  have entries : stepCommandTable s = optionalEntry "create_bucket" s.createBucket ++ (
      optionalEntry "delete_bucket" s.deleteBucket ++ (
      optionalEntry "create_encryption_key" s.createEncryptionKey ++ (
      optionalEntry "delete_encryption_key" s.deleteEncryptionKey ++ (
      optionalEntry "create_key_pair" s.createKeyPair ++ (
      optionalEntry "delete_key_pair" s.deleteKeyPair ++ (
      optionalEntry "create_cluster_role" s.createClusterRole ++ (
      optionalEntry "delete_cluster_role" s.deleteClusterRole ++ (
      optionalEntry "create_network" s.createNetwork ++ (
      optionalEntry "delete_network" s.deleteNetwork ++ (
      optionalEntry "create_cluster" s.createCluster ++ (
      optionalEntry "delete_cluster" s.deleteCluster ++ (
      optionalEntry "check_health" s.checkHealth ++ (
      optionalEntry "upload_artifacts" s.uploadArtifacts ++ (
      optionalEntry "install_gpu_driver" s.installGpuDriver ++ (
      optionalEntry "gpu_smoke_test" s.gpuSmokeTest ++ []))))))))))))))) := by
    simp only [stepCommandTable, ResourceKind.all, List.flatMap_cons, List.flatMap_nil,
      List.append_assoc, List.append_nil]
    rfl
  rw [entries]
  refine rows_optionalEntry s.createBucket rfl ?_
  refine rows_optionalEntry s.deleteBucket rfl ?_
  refine rows_optionalEntry s.createEncryptionKey rfl ?_
  refine rows_optionalEntry s.deleteEncryptionKey rfl ?_
  refine rows_optionalEntry s.createKeyPair rfl ?_
  refine rows_optionalEntry s.deleteKeyPair rfl ?_
  refine rows_optionalEntry s.createClusterRole rfl ?_
  refine rows_optionalEntry s.deleteClusterRole rfl ?_
  refine rows_optionalEntry s.createNetwork rfl ?_
  refine rows_optionalEntry s.deleteNetwork rfl ?_
  refine rows_optionalEntry s.createCluster rfl ?_
  refine rows_optionalEntry s.deleteCluster rfl ?_
  refine rows_optionalEntry s.checkHealth rfl ?_
  refine rows_optionalEntry s.uploadArtifacts rfl ?_
  refine rows_optionalEntry s.installGpuDriver rfl ?_
  exact rows_optionalEntry s.gpuSmokeTest rfl .done

theorem rows_nodeGroup {g : NodeGroup} (small : g.Small) :
    Rows nodeGroupFields { name := "" } (nodeGroupTable g) g := by
  have known : (g.imageFamily.name, g.imageFamily) ∈ imageFamilies := by
    cases g.imageFamily <;> decide
  have family := alternative_name (by decide) known
  refine .needed ?_ (.scalar (.string g.name)) rfl
  refine .optional ?_ (.scalar (.string g.imageFamily.name)) family
  obtain ⟨name, imageFamily, desiredNodes⟩ := g
  cases desiredNodes with
  | none => exact ⟨.absent rfl .done, fun _ mem => nomatch mem⟩
  | some k =>
    have fits : k < Nat.pow 2 32 := small k rfl
    have read : Reader.present .word32 (.integer k) = .ok (some k) := by
      rw [Reader.present, Reader.word32, natural_integer fits]
      rfl
    exact Rows.done.optional (.scalar (.integer (Nat.lt_trans fits (by decide)))) read

/-- The commands of a component are read into whatever section holds them. -/
theorem rows_component (change : (ComponentCommands → ComponentCommands) → σ → σ)
    (c : ComponentCommands) (fresh : change (fun _ => {}) s = s)
    (again : ∀ f d, change f (change (fun _ => d) s) = change (fun _ => f d) s) :
    Rows (componentFields change) s (componentTable c) (change (fun _ => c) s) := by
  -- Each command is put into the commands so far, and `again` makes one change of the two.
  have rows : Rows (componentFields change) (change (fun _ => {}) s) (componentTable c)
      (change (fun _ => c) s) := by
    rw [componentTable, ← List.append_nil (optionalEntry "aggregate" c.aggregate)]
    simp only [List.append_assoc]
    refine rows_optionalEntry c.create (again _ _) ?_
    rw [again]
    refine rows_optionalEntry c.delete (again _ _) ?_
    rw [again]
    refine rows_optionalEntry c.logs (again _ _) ?_
    rw [again]
    refine rows_optionalEntry c.aggregate (again _ _) ?_
    rw [again]
    exact .done
  rwa [fresh] at rows

theorem rows_addOn (s : AddOnSection) : Rows addOnFields {} (addOnTable s) s := by
  rw [addOnTable]
  simp only [List.append_assoc, List.singleton_append]
  refine rows_boolean s.enable (rows_optionalEntry s.nameSpace rfl (rows_boolean s.fetchLogs ?_))
  exact rows_component (fun f (s : AddOnSection) => { s with commands := f s.commands }) s.commands
    rfl fun _ _ => rfl

theorem rows_hooks {s : HooksSection} (small : s.Small) : Rows hookFields {} (hookTable s) s := by
  rw [hookTable]
  simp only [List.append_assoc]
  refine rows_optionalEntry s.afterCreateCluster rfl ?_
  refine rows_optionalEntry s.afterCreateClusterOutput rfl ?_
  refine rows_optionalEntry s.afterCreateAddOns rfl ?_
  refine rows_optionalEntry s.afterCreateAddOnsOutput rfl ?_
  exact rows_word64 small .done

theorem rows_onFailure {s : OnFailureSection} (small : s.Small) :
    Rows onFailureFields {} (onFailureTable s) s :=
  rows_boolean s.delete (rows_word64 small .done)

theorem rows_timings {s : Timings} (small : s.Small) : Rows timingFields {} (timingTable s) s := by
  refine rows_word64 small.postCreate ?_
  refine rows_word64 small.addOn ?_
  refine rows_word64 small.lightAddOn ?_
  refine rows_word64 small.loadBalancer ?_
  refine rows_word64 small.loadBalancerNetwork ?_
  refine rows_word64 small.nodeGroup ?_
  refine rows_word64 small.network ?_
  refine rows_word64 small.fetchLogs ?_
  refine rows_word32 small.healthAttempts ?_
  exact rows_word64 small.healthInterval .done

theorem returns_prerequisites (s : Prerequisites) (name : String) :
    Returns 2 (.record name prerequisiteFields {}) (.table (prerequisiteTable s)) s := by
  have commands := (rows_stepCommands s.commands).returns (n := 0) (by decide) "StepCommands"
  have rows : Rows (prerequisiteFields.take 5) {} ((prerequisiteTable s).take 5 ++ [])
      { s with commands := {} } :=
    rows_boolean s.createBucket (rows_boolean s.createEncryptionKey
      (rows_boolean s.createKeyPair (rows_boolean s.createClusterRole
        (rows_boolean s.createNetwork .done))))
  have sections : Sections 1 (prerequisiteFields.drop 5) { s with commands := {} }
      ((prerequisiteTable s).drop 5) s := Sections.done.optional commands rfl
  exact sections.returns rows (by decide) (.refl _) rfl name

/-- Groups are laid out under headings of their own, if there are any. -/
theorem returns_groups {gs : List NodeGroup} (small : ∀ g ∈ gs, g.Small) :
    Returns 1 (.list (.record "NodeGroupSpec" nodeGroupFields { name := "" }))
      (.array (gs.map fun g => .table (nodeGroupTable g))) gs := by
  have tables : gs.map (fun g => Value.table (nodeGroupTable g)) =
      (gs.map nodeGroupTable).map .table := by rw [List.map_map]; rfl
  constructor
  · cases gs with
    | nil => exact .inl (.array nofun)
    | cons g gs =>
      rw [tables]
      refine .tables (by simp) (List.forall_mem_map.2 fun g mem => ?_)
        (List.forall_mem_map.2 fun g mem f here => ?_)
      · have distinct : (nodeGroupFields.map (·.name)).Nodup := by decide
        exact distinct.sublist (rows_nodeGroup (small g mem)).fills.names
      · exact .inl ((rows_nodeGroup (small g mem)).inl f here)
  · have laid : laidOut (.array (gs.map fun g => .table (nodeGroupTable g))) =
        .array (gs.map fun g => .table (nodeGroupTable g)) := by
      rw [tables, laidOut, laidOutItems_tables, List.map_map, List.map_map]
      congr 1
      refine List.map_congr_left fun g mem => ?_
      exact congrArg Value.table (laidOutFields_inline (rows_nodeGroup (small g mem)).inl)
    rw [laid]
    exact list_map fun g mem =>
      (rows_nodeGroup (small g mem)).fills.record (by decide) (.refl _) "NodeGroupSpec"

theorem returns_nodeGroupSection {s : NodeGroupSection} (small : s.Small) (name : String) :
    Returns 2 (.record name nodeGroupSectionFields {}) (.table (nodeGroupSectionTable s)) s := by
  have groups := returns_groups small
  have component (between : NodeGroupSection) (fresh : { between with commands := {} } = between) :=
    rows_component (fun f (s : NodeGroupSection) => { s with commands := f s.commands }) s.commands
      fresh fun _ _ => rfl
  obtain ⟨enable, fetchLogs, gs, commands⟩ := s
  cases gs with
  | nil =>
    refine Rows.returns ?_ (by decide) name
    refine rows_boolean enable (rows_boolean fetchLogs (.optional ?_ (.array nofun) rfl))
    exact component _ rfl
  | cons g gs =>
    have rows : Rows (nodeGroupSectionFields.take 2 ++ nodeGroupSectionFields.drop 3) {}
        ([("enable", .boolean enable), ("fetch_logs", .boolean fetchLogs)] ++
          componentTable commands)
        ⟨enable, fetchLogs, [], commands⟩ :=
      rows_boolean enable (rows_boolean fetchLogs (component _ rfl))
    have sections : Sections 1 [nodeGroupSectionFields[2]] ⟨enable, fetchLogs, [], commands⟩
        [("groups", .array ((g :: gs).map fun g => .table (nodeGroupTable g)))]
        ⟨enable, fetchLogs, g :: gs, commands⟩ :=
      Sections.done.optional groups (by simp [hasHeading])
    refine sections.returns rows (by decide) ?_ ?_ name
    · have last := @List.perm_append_comm _ (nodeGroupSectionFields.drop 3)
        [nodeGroupSectionFields[2]]
      exact (last.cons _).cons _
    · simp [nodeGroupSectionTable]

/-- The sections of the add-ons are laid out in name order. -/
theorem returns_addOns (m : NameMap AddOnSection) :
    Returns 2 (.named (.record "AddOnConfig" addOnFields {}))
      (.table (m.entries.map fun e => (e.1, .table (addOnTable e.2)))) m := by
  have addOn (s : AddOnSection) :=
    (rows_addOn s).returns (n := 0) (by decide) "AddOnConfig"
  constructor
  · refine .table ?_ (List.forall_mem_map.2 fun e _ => (addOn e.2).plain)
    rw [List.map_map, List.Nodup, List.pairwise_map]
    exact m.sorted.imp fun before => String.ne_of_lt before
  · have headed : ∀ f ∈ m.entries.map fun e => (e.1, Value.table (addOnTable e.2)),
        hasHeading f.2 = true := List.forall_mem_map.2 fun e _ => rfl
    rw [laidOut, ownFields_headed headed, headedFields_headed headed, List.nil_append,
      List.map_map]
    exact named_entries (fun s => (addOn s).read) m

/-! ## The whole configuration -/

/-- A configuration with numbers that fit is read back from its table as it is laid out. -/
theorem returns_config {c : Config} (small : c.Small) :
    Returns 3 (.record "EnvironmentConfig" fields { version := 0, name := "", region := "" })
      (.table c.toTable) c := by
  have provider := (rows_provider small.provider).returns (n := 1) (by decide) "ProviderSection"
  have prerequisites := returns_prerequisites c.prerequisites "PrerequisitesSection"
  have nodeGroups := returns_nodeGroupSection small.nodeGroups "NodeGroupSection"
  have managed := returns_nodeGroupSection small.managedNodeGroups "NodeGroupSection"
  have addOns := returns_addOns c.addOns
  have hooks := (rows_hooks small.hooks).returns (n := 1) (by decide) "HooksSection"
  have onFailure := (rows_onFailure small.onFailure).returns (n := 1) (by decide) "OnFailureSection"
  have timings := (rows_timings small.timings).returns (n := 1) (by decide) "Timings"
  have rows : Rows (fields.take 4) { version := 0, name := "", region := "" }
      ([("config_version", .integer c.version), ("name", .string c.name),
        ("region", .string c.region)] ++ optionalEntry "kubeconfig" c.kubeconfig ++ [])
      { version := c.version, name := c.name, region := c.region, kubeconfig := c.kubeconfig } := by
    have version : Inline (.integer c.version) :=
      .scalar (.integer (Nat.lt_trans small.version (by decide)))
    rw [List.append_assoc]
    refine .needed ?_ version (natural_integer small.version)
    refine .needed ?_ (.scalar (.string c.name)) rfl
    refine .needed ?_ (.scalar (.string c.region)) rfl
    exact rows_optionalEntry c.kubeconfig rfl .done
  have sections : Sections 2 (fields.drop 4)
      { version := c.version, name := c.name, region := c.region, kubeconfig := c.kubeconfig }
      [("provider", .table (providerTable c.provider)),
       ("prerequisites", .table (prerequisiteTable c.prerequisites)),
       ("node_groups", .table (nodeGroupSectionTable c.nodeGroups)),
       ("managed_node_groups", .table (nodeGroupSectionTable c.managedNodeGroups)),
       ("add_ons", .table (c.addOns.entries.map fun e => (e.1, .table (addOnTable e.2)))),
       ("hooks", .table (hookTable c.hooks)),
       ("on_failure", .table (onFailureTable c.onFailure)),
       ("timings", .table (timingTable c.timings))] c := by
    refine .optional ?_ provider rfl
    refine .optional ?_ prerequisites rfl
    refine .optional ?_ nodeGroups rfl
    refine .optional ?_ managed rfl
    refine .optional ?_ addOns rfl
    refine .optional ?_ hooks rfl
    refine .optional ?_ onFailure rfl
    exact Sections.done.optional timings rfl
  exact sections.returns rows (by decide) (.refl _) (List.append_nil _).symm _

/-- What is written of it is read as the same configuration. -/
theorem Small.parse_render {c : Config} (small : c.Small) :
    c.render? = some c.render ∧ parse c.render = .ok c := by
  obtain ⟨plain, read⟩ := returns_config small
  cases plain with
  | inl inl =>
    cases inl with
    | scalar scalar => cases scalar
  | table names plain =>
    obtain ⟨written, back⟩ := Document.read?_write? (by decide) names plain
    have given : ofTable (laidOutFields c.toTable) = .ok c := by
      rw [laidOut] at read
      exact read
    have parsed : parse c.render = (ofTable (laidOutFields c.toTable)).mapError .misfit := by
      rw [parse, render, back]
    refine ⟨written, ?_⟩
    rw [parsed, given]
    rfl

/-- **A configuration that was read can be written, and what is written is read as the same
configuration**, whether it has a fault or not. -/
theorem render?_of_parse {text : String} {c : Config} (parsed : parse text = .ok c) :
    c.render? = some c.render ∧ parse c.render = .ok c := by
  unfold parse at parsed
  split at parsed
  · cases parsed
  · next t read =>
    have within := Document.within_read? read
    cases given : ofTable t with
    | error e => simp [given, Except.mapError] at parsed
    | ok d =>
      obtain rfl : d = c := by simpa [given, Except.mapError] using parsed
      exact (small_of_ofTable within given).parse_render

/-- A configuration with timings given as an array, a group under a heading of its own and an add-on
that does not exist. -/
def strangeText : String :=
  "config_version = 0x1 # one\nname = 'bench'\nregion = \"\"\ntimings = [7]\n" ++
  "[add_ons.\"no such\"]\nnamespace = \"two\\nlines\"\n[[node_groups.groups]]\nname = \"gpu\"\n"

/-- What it says. -/
def strange : Config :=
  { version := 1, name := "bench", region := "", timings := { postCreate := 7 },
    addOns := NameMap.empty.insert "no such" { nameSpace := some "two\nlines" },
    nodeGroups := { groups := [{ name := "gpu" }] } }

theorem render?_of_parse_strange :
    parse strangeText = .ok strange ∧ strange.render? = some strange.render ∧
      parse strange.render = .ok strange := by
  have read : (parse strangeText).toOption = some strange := by decide +kernel
  have parsed : parse strangeText = .ok strange := by
    cases given : parse strangeText with
    | error e => simp [given, Except.toOption] at read
    | ok c =>
      rw [given] at read
      exact congrArg Except.ok (Option.some.inj read)
  exact ⟨parsed, render?_of_parse parsed⟩

end Config

end Testbed
