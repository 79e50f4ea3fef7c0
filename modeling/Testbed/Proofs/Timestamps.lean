import Testbed.Proofs.Flags

/-!
# Documents without their timestamps

`timeless` takes all times out of a document. Two runs that do the same at different times end
with documents that agree once the times are taken out: every operation on documents gives such
documents for such documents.
-/

namespace Testbed

/-! ## Mapping over maps -/

namespace NameMap

variable {α β : Type}

theorem map_insertEntry (f : α → β) (name : String) (value : α) (l : List (String × α)) :
    (insertEntry name value l).map (fun e => (e.1, f e.2)) =
      insertEntry name (f value) (l.map fun e => (e.1, f e.2)) := by
  induction l with
  | nil => rfl
  | cons e rest ih =>
    simp only [insertEntry, List.map_cons]
    split
    · rfl
    · split
      · rfl
      · rw [List.map_cons, ih]

theorem map_insert (f : α → β) (m : NameMap α) (name : String) (value : α) :
    (m.insert name value).map f = (m.map f).insert name (f value) :=
  NameMap.ext (map_insertEntry f name value m.entries)

theorem get?_map (f : α → β) (m : NameMap α) (name : String) :
    (m.map f).get? name = (m.get? name).map f := by
  obtain ⟨l, sorted⟩ := m
  show lookupEntry name (l.map fun e => (e.1, f e.2)) = (lookupEntry name l).map f
  clear sorted
  induction l with
  | nil => rfl
  | cons e rest ih =>
    simp only [lookupEntry, List.map_cons]
    split
    · rfl
    · exact ih

/-- If a change commutes with the mapping, so does changing an entry. -/
theorem map_modify (f : α → β) (g : α → α) (g' : β → β) (fresh : α) (m : NameMap α)
    (name : String) (comm : ∀ a, f (g a) = g' (f a)) :
    (m.modify name fresh g).map f = (m.map f).modify name (f fresh) g' := by
  unfold modify
  rw [map_insert, comm, get?_map]
  cases m.get? name <;> rfl

end NameMap

/-! ## Taking the times out -/

/-- The entry of a resource without the time of its creation. -/
def ResourceState.timeless (r : ResourceState) : ResourceState := { r with createdAt := none }

/-- The entry of a component without the time of its creation. -/
def ComponentState.timeless (e : ComponentState) : ComponentState := { e with createdAt := none }

namespace StateDocument

variable {d d' : StateDocument}

/-- The document without its times. -/
def timeless (d : StateDocument) : StateDocument :=
  { d with
    createdAt := ""
    updatedAt := ""
    upAt := none
    downAt := none
    resources := d.resources.map ResourceState.timeless
    nodeGroups := d.nodeGroups.map ComponentState.timeless
    addOns := d.addOns.map ComponentState.timeless }

/-- Marking the environment as down, without the time. -/
theorem timeless_markDown (d : StateDocument) (now : String) :
    (d.markDown now).timeless = { d.timeless with up := false } := rfl

theorem timeless_setResource (d : StateDocument) (k : ResourceKind) (b : Bool) (now : String) :
    (d.setResource k b now).timeless =
      { d.timeless with
        resources := d.timeless.resources.modify k.name {} fun _ => { created := b }
        cluster := if k = .cluster ∧ !b then {} else d.timeless.cluster } := by
  unfold setResource timeless
  rw [NameMap.map_modify ResourceState.timeless _ (fun _ => { created := b }) {} d.resources k.name
    fun _ => rfl]
  rfl

theorem timeless_setNodeGroup (d : StateDocument) (k : NodeGroupKind) (b : Bool) (now : String) :
    (d.setNodeGroup k b now).timeless =
      { d.timeless with
        nodeGroups :=
          d.timeless.nodeGroups.modify k.name {} fun e => { e with created := b } } := by
  unfold setNodeGroup timeless
  rw [NameMap.map_modify ComponentState.timeless _ (fun e => { e with created := b }) {}
    d.nodeGroups k.name fun _ => rfl]
  rfl

theorem timeless_setAddOn (d : StateDocument) (k : AddOnKind) (b : Bool) (now : String) :
    (d.setAddOn k b now).timeless =
      { d.timeless with
        addOns := d.timeless.addOns.modify k.name {} fun e => { e with created := b } } := by
  unfold setAddOn timeless
  rw [NameMap.map_modify ComponentState.timeless _ (fun e => { e with created := b }) {} d.addOns
    k.name fun _ => rfl]
  rfl

/-- **Setting a flag is no matter of time.** -/
theorem timeless_set (same : d.timeless = d'.timeless) (k : Component) (b : Bool)
    (now now' : String) : (d.set k b now).timeless = (d'.set k b now').timeless := by
  cases k with
  | resource k =>
    show (d.setResource k b now).timeless = (d'.setResource k b now').timeless
    rw [timeless_setResource, timeless_setResource, same]
  | nodeGroup k =>
    show (d.setNodeGroup k b now).timeless = (d'.setNodeGroup k b now').timeless
    rw [timeless_setNodeGroup, timeless_setNodeGroup, same]
  | addOn k =>
    show (d.setAddOn k b now).timeless = (d'.setAddOn k b now').timeless
    rw [timeless_setAddOn, timeless_setAddOn, same]

/-- The flags are no matter of time. -/
theorem isCreated_timeless (d : StateDocument) : d.timeless.isCreated = d.isCreated := by
  funext k
  cases k with
  | resource k =>
    show ((d.resources.map ResourceState.timeless).get? k.name).any _ = _
    rw [NameMap.get?_map, Option.any_map]
    rfl
  | nodeGroup k =>
    show ((d.nodeGroups.map ComponentState.timeless).get? k.name).any _ = _
    rw [NameMap.get?_map, Option.any_map]
    rfl
  | addOn k =>
    show ((d.addOns.map ComponentState.timeless).get? k.name).any _ = _
    rw [NameMap.get?_map, Option.any_map]
    rfl

end StateDocument

end Testbed
