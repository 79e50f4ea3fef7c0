import Testbed.Config.Basic
import Testbed.Provider.Basic
import Testbed.State.Document

/-!
# The components of a session

The registry holds every node group family and add-on that the configuration enables or the state
document records as created, with what the provider can do with it. It is made once, when a
session is opened.
-/

namespace Testbed

/-- An add-on of a session. -/
structure AddOnEntry where
  /-- Which add-on. -/
  kind : AddOnKind
  /-- Whether the configuration enables it. -/
  enabled : Bool
  /-- What the provider can do with it. -/
  handle : Option Handle
  deriving DecidableEq

/-- A family of node groups of a session. -/
structure NodeGroupEntry where
  /-- Which family. -/
  kind : NodeGroupKind
  /-- Whether the configuration enables it. -/
  enabled : Bool
  /-- What the provider can do with it. -/
  handle : Option Handle
  deriving DecidableEq

/-- The components of a session. -/
structure Registry where
  /-- The add-ons in creation order. -/
  addOns : List AddOnEntry
  /-- The families of node groups. -/
  nodeGroup : NodeGroupKind → NodeGroupEntry

namespace Registry

/-- Whether a session deals with an add-on. -/
def wantsAddOn (c : Config) (d : StateDocument) (k : AddOnKind) : Bool :=
  c.addOnEnabled k || d.addOnCreated k

/-- Whether a session deals with a family of node groups. -/
def wantsNodeGroup (c : Config) (d : StateDocument) (k : NodeGroupKind) : Bool :=
  (c.nodeGroup k).enable || d.nodeGroupCreated k

/-- The entry that a registry makes for an add-on. -/
def entryOf (c : Config) (handle? : Component → Option Handle) (k : AddOnKind) : AddOnEntry where
  kind := k
  enabled := c.addOnEnabled k
  handle := handle? (.addOn k)

/-- The components that a configuration and a document call for, the add-ons in the order of their
descriptors. -/
def materialize (c : Config) (d : StateDocument) (handle? : Component → Option Handle) :
    Registry where
  addOns := (AddOnDescriptor.table.filter fun row => wantsAddOn c d row.kind).map fun row =>
    entryOf c handle? row.kind
  nodeGroup k :=
    { kind := k
      enabled := (c.nodeGroup k).enable
      handle := if wantsNodeGroup c d k then handle? (.nodeGroup k) else none }

theorem addOns_materialize {c : Config} {d : StateDocument}
    {handle? : Component → Option Handle} : (materialize c d handle?).addOns =
      (AddOnKind.all.filter (wantsAddOn c d)).map (entryOf c handle?) := by
  unfold materialize
  rw [AddOnDescriptor.table_eq, List.filter_map, List.map_map]
  simp only [Function.comp_def, AddOnDescriptor.kind_descriptor]

/-- The entry of an add-on. -/
def addOn? (r : Registry) (k : AddOnKind) : Option AddOnEntry :=
  r.addOns.find? fun e => e.kind = k

/-- What the provider can do with a component; none if it cannot drive it. -/
def handle? (r : Registry) : Component → Option Handle
  | .resource _ => none
  | .nodeGroup k => (r.nodeGroup k).handle
  | .addOn k => (r.addOn? k).bind fun e => e.handle

/-- Whether the provider can drive a component; it can always drive resources. -/
def drives (r : Registry) : Component → Bool
  | .resource _ => true
  | c => (r.handle? c).isSome

/-- The enabled add-ons of a tier in creation order. -/
def enabledIn (r : Registry) (t : Tier) : List AddOnEntry :=
  r.addOns.filter fun e => e.enabled && e.kind.tier = t

end Registry

end Testbed
