import Testbed.Kind
import Testbed.NameMap

/-!
# The state document

A `StateDocument` records what exists of one environment: which components were created and not
deleted since, whether the environment is up, and when that became so. Timestamps are texts that
the caller takes from its clock.
-/

namespace Testbed

/-- The version of the document's format. -/
def stateFormatVersion : Nat := 1

/-- What is recorded of a resource. -/
structure ResourceState where
  /-- Whether it was created and not deleted since. -/
  created : Bool := false
  /-- When it was created. -/
  createdAt : Option String := none
  deriving DecidableEq

/-- What is recorded of a family of node groups or an add-on. -/
structure ComponentState where
  /-- Whether the configuration wants it. -/
  enabled : Bool := false
  /-- Whether it was created and not deleted since. -/
  created : Bool := false
  /-- Whether the configuration asks for its logs. -/
  fetchLogsRequested : Bool := false
  /-- The namespace that the configuration gives. -/
  nameSpace : Option String := none
  /-- When it was created. -/
  createdAt : Option String := none
  deriving DecidableEq

/-- What the control plane said about itself when it was created. -/
structure ClusterRefs where
  endpoint : Option String := none
  arn : Option String := none
  certificateAuthority : Option String := none
  deriving DecidableEq

/-- The recorded state of an environment. -/
structure StateDocument where
  /-- The version of the format. -/
  version : Nat
  /-- The name of the environment. -/
  name : String
  /-- Whether the environment is up. -/
  up : Bool
  createdAt : String
  updatedAt : String
  upAt : Option String := none
  downAt : Option String := none
  cluster : ClusterRefs := {}
  resources : NameMap ResourceState := .empty
  nodeGroups : NameMap ComponentState := .empty
  addOns : NameMap ComponentState := .empty
  /-- The digest of the document without this field. -/
  checksum : Option String := none
  deriving DecidableEq

namespace StateDocument

/-- The document of an environment of which nothing exists. -/
def new (name now : String) : StateDocument where
  version := stateFormatVersion
  name := name
  up := false
  createdAt := now
  updatedAt := now

/-! ## Created components -/

/-- Whether a resource is recorded as created. -/
def resourceCreated (d : StateDocument) (k : ResourceKind) : Bool :=
  (d.resources.get? k.name).any fun r => r.created

/-- Whether a family of node groups is recorded as created. -/
def nodeGroupCreated (d : StateDocument) (k : NodeGroupKind) : Bool :=
  (d.nodeGroups.get? k.name).any fun c => c.created

/-- Whether an add-on is recorded as created. -/
def addOnCreated (d : StateDocument) (k : AddOnKind) : Bool :=
  (d.addOns.get? k.name).any fun c => c.created

/-- Whether a component is recorded as created. -/
def isCreated (d : StateDocument) : Component → Bool
  | .resource k => d.resourceCreated k
  | .nodeGroup k => d.nodeGroupCreated k
  | .addOn k => d.addOnCreated k

/-- The time of creation: there is one exactly for what is created. -/
def stamp (created : Bool) (now : String) : Option String := if created then some now else none

/-- Record a resource as created or deleted. With the control plane its references go. -/
def setResource (d : StateDocument) (k : ResourceKind) (created : Bool) (now : String) :
    StateDocument :=
  { d with
    resources := d.resources.modify k.name {} fun _ =>
      { created := created, createdAt := stamp created now }
    cluster := if k = .cluster ∧ !created then {} else d.cluster }

/-- Record a component as created or deleted. -/
def mark (created : Bool) (now : String) (c : ComponentState) : ComponentState :=
  { c with created := created, createdAt := stamp created now }

/-- Record a family of node groups as created or deleted. -/
def setNodeGroup (d : StateDocument) (k : NodeGroupKind) (created : Bool) (now : String) :
    StateDocument :=
  { d with nodeGroups := d.nodeGroups.modify k.name {} (mark created now) }

/-- Record an add-on as created or deleted. -/
def setAddOn (d : StateDocument) (k : AddOnKind) (created : Bool) (now : String) :
    StateDocument :=
  { d with addOns := d.addOns.modify k.name {} (mark created now) }

/-- Record a component as created or deleted. -/
def set (d : StateDocument) (c : Component) (created : Bool) (now : String) : StateDocument :=
  match c with
  | .resource k => d.setResource k created now
  | .nodeGroup k => d.setNodeGroup k created now
  | .addOn k => d.setAddOn k created now

/-- The add-ons that are recorded as created, in creation order. -/
def createdAddOns (d : StateDocument) : List AddOnKind := AddOnKind.all.filter d.addOnCreated

/-- Whether anything is recorded as created, under whatever name. -/
def anythingCreated (d : StateDocument) : Bool :=
  (d.resources.values.any fun r => r.created) || (d.nodeGroups.values.any fun c => c.created)
    || d.addOns.values.any fun c => c.created

/-! ## The environment as a whole -/

/-- Note that the document changed. -/
def touch (d : StateDocument) (now : String) : StateDocument := { d with updatedAt := now }

/-- Record the environment as up. -/
def markUp (d : StateDocument) (now : String) : StateDocument :=
  { d with up := true, upAt := some now }

/-- Record the environment as down. -/
def markDown (d : StateDocument) (now : String) : StateDocument :=
  { d with up := false, downAt := some now }

end StateDocument

end Testbed
