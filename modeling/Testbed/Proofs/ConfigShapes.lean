import Testbed.Config.Reader
import Testbed.Proofs.Shapes

/-!
# The shape of a configuration

Every key that a configuration can have, section by section, with the defaults that a document can
spell out. A text that may be absent has none, nor has a field that must be given. For a section the
default is an empty table, so one that is absent is the same as one in which every field is.

**Theorem (`follows_fields`).** The reader of configurations follows this shape.
-/

namespace Testbed.Config

open Toml Reader

/-! ## Sections -/

/-- The provider section. -/
def providerShape : Shape.Fields :=
  [("kind", some (.string "command"), .leaf),
   ("required_tools", some (.array []), .list .leaf),
   ("command_timeout_secs", some (.integer 1800), .leaf)]

/-- The step commands. -/
def stepCommandShape : Shape.Fields :=
  [("create_bucket", none, .leaf),
   ("delete_bucket", none, .leaf),
   ("create_encryption_key", none, .leaf),
   ("delete_encryption_key", none, .leaf),
   ("create_key_pair", none, .leaf),
   ("delete_key_pair", none, .leaf),
   ("create_cluster_role", none, .leaf),
   ("delete_cluster_role", none, .leaf),
   ("create_network", none, .leaf),
   ("delete_network", none, .leaf),
   ("create_cluster", none, .leaf),
   ("delete_cluster", none, .leaf),
   ("check_health", none, .leaf),
   ("upload_artifacts", none, .leaf),
   ("install_gpu_driver", none, .leaf),
   ("gpu_smoke_test", none, .leaf)]

/-- The prerequisites section. -/
def prerequisiteShape : Shape.Fields :=
  [("create_bucket", some (.boolean true), .leaf),
   ("create_encryption_key", some (.boolean false), .leaf),
   ("create_key_pair", some (.boolean true), .leaf),
   ("create_cluster_role", some (.boolean true), .leaf),
   ("create_network", some (.boolean true), .leaf),
   ("commands", some (.table []), .record stepCommandShape)]

/-- One node group. -/
def nodeGroupShape : Shape.Fields :=
  [("name", none, .leaf),
   ("image_family", some (.string "al2-x86_64"), .choice),
   ("desired_nodes", none, .leaf)]

/-- The commands of a component, in whatever section they stand. -/
def componentShape : Shape.Fields :=
  [("create", none, .leaf),
   ("delete", none, .leaf),
   ("logs", none, .leaf),
   ("aggregate", none, .leaf)]

/-- A node group section. -/
def nodeGroupSectionShape : Shape.Fields :=
  [("enable", some (.boolean false), .leaf),
   ("fetch_logs", some (.boolean false), .leaf),
   ("groups", some (.array []), .list (.record nodeGroupShape))]
  ++ componentShape

/-- The section of one add-on. -/
def addOnShape : Shape.Fields :=
  [("enable", some (.boolean false), .leaf),
   ("namespace", none, .leaf),
   ("fetch_logs", some (.boolean false), .leaf)]
  ++ componentShape

/-- The hooks section. -/
def hookShape : Shape.Fields :=
  [("after_create_cluster", none, .leaf),
   ("after_create_cluster_output", none, .leaf),
   ("after_create_add_ons", none, .leaf),
   ("after_create_add_ons_output", none, .leaf),
   ("timeout_secs", some (.integer 300), .leaf)]

/-- The section on failures. -/
def onFailureShape : Shape.Fields :=
  [("delete", some (.boolean true), .leaf),
   ("delete_wait_secs", some (.integer 120), .leaf)]

/-- The timings section. -/
def timingShape : Shape.Fields :=
  [("post_create_settle_secs", some (.integer 30), .leaf),
   ("add_on_settle_secs", some (.integer 20), .leaf),
   ("light_add_on_settle_secs", some (.integer 5), .leaf),
   ("load_balancer_settle_secs", some (.integer 60), .leaf),
   ("load_balancer_network_settle_secs", some (.integer 120), .leaf),
   ("node_group_settle_secs", some (.integer 10), .leaf),
   ("network_settle_secs", some (.integer 30), .leaf),
   ("fetch_logs_settle_secs", some (.integer 15), .leaf),
   ("health_attempts", some (.integer 3), .leaf),
   ("health_interval_secs", some (.integer 10), .leaf)]

/-- The whole configuration. -/
def shape : Shape := .record
  [("config_version", none, .leaf),
   ("name", none, .leaf),
   ("region", none, .leaf),
   ("kubeconfig", none, .leaf),
   ("provider", some (.table []), .record providerShape),
   ("prerequisites", some (.table []), .record prerequisiteShape),
   ("node_groups", some (.table []), .record nodeGroupSectionShape),
   ("managed_node_groups", some (.table []), .record nodeGroupSectionShape),
   ("add_ons", some (.table []), .map (.record addOnShape)),
   ("hooks", some (.table []), .record hookShape),
   ("on_failure", some (.table []), .record onFailureShape),
   ("timings", some (.table []), .record timingShape)]

/-! ## Readers -/

variable {σ : Type} {start : σ} {name wanted : String}

theorem follows_optionalText {set : Option String → σ → σ} :
    FieldRule.Follows start (optionalText name set) (name, none, .leaf) :=
  .bare follows_text.present

theorem follows_optionalPath {set : Option String → σ → σ} :
    FieldRule.Follows start (optionalPath name set) (name, none, .leaf) :=
  .bare follows_text.present

theorem follows_componentFields {change : (ComponentCommands → ComponentCommands) → σ → σ} :
    List.Forall₂ (FieldRule.Follows start) (componentFields change) componentShape :=
  .cons follows_optionalText <| .cons follows_optionalText <| .cons follows_optionalText <|
    .cons follows_optionalText .nil

theorem follows_provider :
    (Reader.record wanted providerFields {}).Follows (.record providerShape) := by
  refine .record ?_ (by simp [providerFields, Toml.optional, FieldRule.apart_of_comm])
  exact .cons (.optional follows_text rfl) <| .cons (.optional follows_text.list rfl) <|
    .cons (.optional follows_natural rfl) .nil

theorem follows_stepCommands :
    (Reader.record wanted stepCommandFields {}).Follows (.record stepCommandShape) := by
  refine .record ?_ (by
    simp [stepCommandFields, optionalText, Toml.optional, FieldRule.apart_of_comm])
  simp only [stepCommandFields, stepCommandShape, List.forall₂_cons, follows_optionalText,
    List.forall₂_nil_left_iff, and_self]

theorem follows_prerequisites :
    (Reader.record wanted prerequisiteFields {}).Follows (.record prerequisiteShape) := by
  refine .record ?_ (by simp [prerequisiteFields, Toml.optional, FieldRule.apart_of_comm])
  exact .cons (.optional follows_boolean rfl) <| .cons (.optional follows_boolean rfl) <|
    .cons (.optional follows_boolean rfl) <| .cons (.optional follows_boolean rfl) <|
    .cons (.optional follows_boolean rfl) <| .cons (.optional follows_stepCommands rfl) .nil

theorem follows_nodeGroup :
    (Reader.record wanted nodeGroupFields { name := "" }).Follows (.record nodeGroupShape) := by
  refine .record ?_ (by
    simp [nodeGroupFields, Toml.optional, Toml.needed, FieldRule.apart_of_comm])
  exact .cons (.needed follows_text) <| .cons (.optional follows_alternative rfl) <|
    .cons (.bare follows_natural.present) .nil

theorem follows_nodeGroupSection :
    (Reader.record wanted nodeGroupSectionFields {}).Follows (.record nodeGroupSectionShape) := by
  refine .record ?_ (by simp [nodeGroupSectionFields, componentFields, optionalText, Toml.optional,
    FieldRule.apart_of_comm])
  exact .cons (.optional follows_boolean rfl) <| .cons (.optional follows_boolean rfl) <|
    .cons (.optional follows_nodeGroup.list rfl) follows_componentFields

theorem follows_addOn : (Reader.record wanted addOnFields {}).Follows (.record addOnShape) := by
  refine .record ?_ (by
    simp [addOnFields, componentFields, optionalText, Toml.optional, FieldRule.apart_of_comm])
  exact .cons (.optional follows_boolean rfl) <| .cons follows_optionalText <|
    .cons (.optional follows_boolean rfl) follows_componentFields

theorem follows_hooks : (Reader.record wanted hookFields {}).Follows (.record hookShape) := by
  refine .record ?_ (by
    simp [hookFields, optionalText, optionalPath, Toml.optional, FieldRule.apart_of_comm])
  exact .cons follows_optionalText <| .cons follows_optionalPath <| .cons follows_optionalText <|
    .cons follows_optionalPath <| .cons (.optional follows_natural rfl) .nil

theorem follows_onFailure :
    (Reader.record wanted onFailureFields {}).Follows (.record onFailureShape) := by
  refine .record ?_ (by simp [onFailureFields, Toml.optional, FieldRule.apart_of_comm])
  exact .cons (.optional follows_boolean rfl) <| .cons (.optional follows_natural rfl) .nil

theorem follows_timings : (Reader.record wanted timingFields {}).Follows (.record timingShape) := by
  refine .record ?_ (by simp [timingFields, Toml.optional, FieldRule.apart_of_comm])
  exact .cons (.optional follows_natural rfl) <| .cons (.optional follows_natural rfl) <|
    .cons (.optional follows_natural rfl) <| .cons (.optional follows_natural rfl) <|
    .cons (.optional follows_natural rfl) <| .cons (.optional follows_natural rfl) <|
    .cons (.optional follows_natural rfl) <| .cons (.optional follows_natural rfl) <|
    .cons (.optional follows_natural rfl) <| .cons (.optional follows_natural rfl) .nil

variable (wanted) in
/-- **The reader of configurations follows their shape.** -/
theorem follows_fields :
    (Reader.record wanted fields { version := 0, name := "", region := "" }).Follows shape := by
  refine .record ?_ (by
    simp [fields, optionalPath, Toml.optional, Toml.needed, FieldRule.apart_of_comm])
  exact .cons (.needed follows_natural) <| .cons (.needed follows_text) <|
    .cons (.needed follows_text) <| .cons follows_optionalPath <|
    .cons (.optional follows_provider rfl) <| .cons (.optional follows_prerequisites rfl) <|
    .cons (.optional follows_nodeGroupSection rfl) <|
    .cons (.optional follows_nodeGroupSection rfl) <| .cons (.optional follows_addOn.named rfl) <|
    .cons (.optional follows_hooks rfl) <| .cons (.optional follows_onFailure rfl) <|
    .cons (.optional follows_timings rfl) .nil

end Testbed.Config
