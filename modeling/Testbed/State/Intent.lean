import Testbed.Config.Basic
import Testbed.State.Document

/-!
# What the configuration wants, in the state document

Each entry of the document repeats what the configuration says of its component. Syncing brings
these fields up to date and leaves what exists untouched; a component that was created and is no
longer wanted keeps its entry, so that it is still deleted.
-/

namespace Testbed.StateDocument

/-- Bring the entry of one add-on up to date; an add-on that is not wanted gets none. -/
def syncAddOn (c : Config) (entries : NameMap ComponentState) (k : AddOnKind) :
    NameMap ComponentState :=
  if !c.addOnEnabled k && !entries.contains k.name then entries
  else entries.modify k.name {} fun e =>
    { e with
      enabled := c.addOnEnabled k
      fetchLogsRequested := (c.addOn? k).any fun s => s.fetchLogs
      nameSpace := (c.addOn? k).bind fun s => s.nameSpace }

/-- Bring the entry of one family of node groups up to date; its namespace is not a matter of the
configuration. -/
def syncNodeGroup (c : Config) (entries : NameMap ComponentState) (k : NodeGroupKind) :
    NameMap ComponentState :=
  if !(c.nodeGroup k).enable && !entries.contains k.name then entries
  else entries.modify k.name {} fun e =>
    { e with
      enabled := (c.nodeGroup k).enable
      fetchLogsRequested := (c.nodeGroup k).fetchLogs }

/-- Bring all entries up to date. -/
def syncIntent (d : StateDocument) (c : Config) : StateDocument :=
  { d with
    addOns := AddOnKind.all.foldl (syncAddOn c) d.addOns
    nodeGroups := NodeGroupKind.all.foldl (syncNodeGroup c) d.nodeGroups }

end Testbed.StateDocument
