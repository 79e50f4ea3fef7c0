import Testbed.Digest
import Testbed.Json.Schema
import Testbed.Json.Value
import Testbed.State.Document

/-!
# The state document as text

A document is written as JSON with its fields in a fixed order and sealed with the digest of its
own text without the seal. `parse` reads a text back; whether its seal is right is for
`isSealed` to say.
-/

namespace Testbed

/-! ## Writing -/

/-- A field that is left out where there is no value. -/
def optionalField (name : String) (s : Option String) : List (String × Json) :=
  (s.map fun s => (name, Json.string s)).toList

/-- A resource entry. -/
def ResourceState.toJson (r : ResourceState) : Json :=
  .object ([("created", .boolean r.created)] ++ optionalField "created_at" r.createdAt)

/-- A node group or add-on entry. -/
def ComponentState.toJson (c : ComponentState) : Json :=
  .object ([("enabled", .boolean c.enabled), ("created", .boolean c.created),
      ("fetch_logs_requested", .boolean c.fetchLogsRequested)]
    ++ optionalField "namespace" c.nameSpace ++ optionalField "created_at" c.createdAt)

/-- The references of the control plane. -/
def ClusterRefs.toJson (r : ClusterRefs) : Json :=
  .object (optionalField "endpoint" r.endpoint ++ optionalField "arn" r.arn
    ++ optionalField "certificate_authority" r.certificateAuthority)

/-- Entries in name order. -/
def entriesJson {α : Type} (toJson : α → Json) (m : NameMap α) : Json :=
  .object (m.entries.map fun e => (e.1, toJson e.2))

namespace StateDocument

/-- A document as JSON. -/
def toJson (d : StateDocument) : Json :=
  .object ([("version", .integer d.version), ("name", .string d.name), ("up", .boolean d.up),
      ("created_at", .string d.createdAt), ("updated_at", .string d.updatedAt)]
    ++ optionalField "up_at" d.upAt ++ optionalField "down_at" d.downAt
    ++ [("cluster", d.cluster.toJson),
        ("resources", entriesJson ResourceState.toJson d.resources),
        ("node_groups", entriesJson ComponentState.toJson d.nodeGroups),
        ("add_ons", entriesJson ComponentState.toJson d.addOns)]
    ++ optionalField "checksum" d.checksum)

/-- The text of a document. -/
def text (d : StateDocument) : String := d.toJson.pretty

/-! ## The seal -/

/-- The digest that seals a document, whatever seal it bears. -/
def digest (d : StateDocument) : String := Digest.hex ({ d with checksum := none }.text.toUTF8)

/-- A document under its own seal. -/
def sealed (d : StateDocument) : StateDocument := { d with checksum := some d.digest }

/-! ## Reading -/

open Json

/-- A text that may be absent or null. -/
def optionalText {σ : Type} (name : String) (set : Option String → σ → σ) : FieldRule σ :=
  optional name (.nullable .text) set

/-- The fields of a resource entry. -/
def resourceFields : List (FieldRule ResourceState) :=
  [needed "created" .boolean fun v s => { s with created := v },
   optionalText "created_at" fun v s => { s with createdAt := v }]

/-- The fields of a node group or add-on entry. -/
def componentFields : List (FieldRule ComponentState) :=
  [needed "enabled" .boolean fun v s => { s with enabled := v },
   needed "created" .boolean fun v s => { s with created := v },
   optional "fetch_logs_requested" .boolean fun v s => { s with fetchLogsRequested := v },
   optionalText "namespace" fun v s => { s with nameSpace := v },
   optionalText "created_at" fun v s => { s with createdAt := v }]

/-- The fields of the control plane's references. -/
def clusterFields : List (FieldRule ClusterRefs) :=
  [optionalText "endpoint" fun v s => { s with endpoint := v },
   optionalText "arn" fun v s => { s with arn := v },
   optionalText "certificate_authority" fun v s => { s with certificateAuthority := v }]

/-- The fields of a document. -/
def fields : List (FieldRule StateDocument) :=
  [needed "version" .word32 fun v s => { s with version := v },
   needed "name" .text fun v s => { s with name := v },
   needed "up" .boolean fun v s => { s with up := v },
   needed "created_at" .text fun v s => { s with createdAt := v },
   needed "updated_at" .text fun v s => { s with updatedAt := v },
   optionalText "up_at" fun v s => { s with upAt := v },
   optionalText "down_at" fun v s => { s with downAt := v },
   optional "cluster" (.record "ClusterRefs" clusterFields {}) fun v s => { s with cluster := v },
   optional "resources" (.named (.record "ResourceState" resourceFields {}))
     fun v s => { s with resources := v },
   optional "node_groups" (.named (.record "ComponentState" componentFields {}))
     fun v s => { s with nodeGroups := v },
   optional "add_ons" (.named (.record "ComponentState" componentFields {}))
     fun v s => { s with addOns := v },
   optionalText "checksum" fun v s => { s with checksum := v }]

/-- Read a text as a document. The fields of the starting value that have no default are
replaced, since a text without them is refused. -/
def parse (text : String) : Except Json.Failure StateDocument :=
  readAll (.record "StateDocument" fields
    { version := 0, name := "", up := false, createdAt := "", updatedAt := "" }) text

end StateDocument

end Testbed
