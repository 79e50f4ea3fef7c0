import Testbed.Proofs.Flags

/-!
# What syncing changes

Syncing goes over the kinds of add-on and node group one by one. Each kind has a name of its own,
so what becomes of an entry depends on that entry alone: `get?_addOns_syncIntent` and
`get?_nodeGroups_syncIntent` say what it is. `Synced` is the frame: beside the time of the change,
nothing of a document differs but what its entries repeat of the configuration.
-/

namespace Testbed

/-- Changes of one entry each, for different names, change each of these entries once. -/
theorem NameMap.get?_foldl {α κ : Type} {label : κ → String} {f : NameMap α → κ → NameMap α}
    {g : κ → Option α → Option α}
    (step : ∀ m k name,
      (f m k).get? name = if name = label k then g k (m.get? name) else m.get? name)
    (inj : ∀ {a b}, label a = label b ↔ a = b) {ks : List κ} (distinct : ks.Nodup)
    (m : NameMap α) :
    (∀ k ∈ ks, (ks.foldl f m).get? (label k) = g k (m.get? (label k))) ∧
      ∀ name, (∀ k ∈ ks, name ≠ label k) → (ks.foldl f m).get? name = m.get? name := by
  induction ks generalizing m with
  | nil => simp
  | cons a ks ih =>
    obtain ⟨fresh, distinct'⟩ := List.nodup_cons.1 distinct
    obtain ⟨changed, kept⟩ := ih distinct' (f m a)
    refine ⟨fun k mem => ?_, fun name other => ?_⟩
    · rw [List.foldl_cons]
      rcases List.mem_cons.1 mem with rfl | mem
      · have later : ∀ k' ∈ ks, label k ≠ label k' := by
          intro k' mem same
          rw [inj.1 same] at fresh
          exact fresh mem
        rw [kept _ later, step, if_pos rfl]
      · have different : label k ≠ label a := fun same => fresh (inj.1 same ▸ mem)
        rw [changed k mem, step, if_neg different]
    · rw [List.foldl_cons, kept name fun k mem => other k (List.mem_cons_of_mem _ mem), step,
        if_neg (other a List.mem_cons_self)]

theorem NodeGroupKind.nodup_all : all.Nodup := by decide

/-! ## Single entries -/

/-- The entry of an add-on once a configuration was read; what is not wanted gets none. -/
def AddOnKind.intended (c : Config) (k : AddOnKind) (e? : Option ComponentState) :
    Option ComponentState :=
  if !c.addOnEnabled k && !e?.isSome then none
  else some { e?.getD {} with
    enabled := c.addOnEnabled k
    fetchLogsRequested := (c.addOn? k).any fun s => s.fetchLogs
    nameSpace := (c.addOn? k).bind fun s => s.nameSpace }

/-- The entry of a family of node groups once a configuration was read. -/
def NodeGroupKind.intended (c : Config) (k : NodeGroupKind) (e? : Option ComponentState) :
    Option ComponentState :=
  if !(c.nodeGroup k).enable && !e?.isSome then none
  else some { e?.getD {} with
    enabled := (c.nodeGroup k).enable
    fetchLogsRequested := (c.nodeGroup k).fetchLogs }

namespace StateDocument

variable {d : StateDocument} {c : Config}

theorem get?_syncAddOn (c : Config) (m : NameMap ComponentState) (k : AddOnKind) (name : String) :
    (syncAddOn c m k).get? name =
      if name = k.name then k.intended c (m.get? name) else m.get? name := by
  unfold syncAddOn AddOnKind.intended NameMap.contains
  by_cases same : name = k.name
  · subst same
    rw [if_pos rfl]
    split
    · next idle => simp_all
    · simp
  · rw [if_neg same]
    split
    · rfl
    · rw [NameMap.get?_modify, if_neg same]

theorem get?_syncNodeGroup (c : Config) (m : NameMap ComponentState) (k : NodeGroupKind)
    (name : String) :
    (syncNodeGroup c m k).get? name =
      if name = k.name then k.intended c (m.get? name) else m.get? name := by
  unfold syncNodeGroup NodeGroupKind.intended NameMap.contains
  by_cases same : name = k.name
  · subst same
    rw [if_pos rfl]
    split
    · next idle => simp_all
    · simp
  · rw [if_neg same]
    split
    · rfl
    · rw [NameMap.get?_modify, if_neg same]

/-- **Syncing reads the configuration into the entry of each add-on.** -/
theorem get?_addOns_syncIntent (d : StateDocument) (c : Config) (k : AddOnKind) :
    (d.syncIntent c).addOns.get? k.name = k.intended c (d.addOns.get? k.name) :=
  (NameMap.get?_foldl (get?_syncAddOn c) AddOnKind.name_inj AddOnKind.nodup_all d.addOns).1 k
    (AddOnKind.mem_all k)

/-- **And into that of each family of node groups.** -/
theorem get?_nodeGroups_syncIntent (d : StateDocument) (c : Config) (k : NodeGroupKind) :
    (d.syncIntent c).nodeGroups.get? k.name = k.intended c (d.nodeGroups.get? k.name) :=
  (NameMap.get?_foldl (get?_syncNodeGroup c) NodeGroupKind.name_inj NodeGroupKind.nodup_all
    d.nodeGroups).1 k (NodeGroupKind.mem_all k)

/-- An entry whose name is that of no add-on stays as it is. -/
theorem get?_addOns_syncIntent_other {name : String} (other : ∀ k : AddOnKind, name ≠ k.name) :
    (d.syncIntent c).addOns.get? name = d.addOns.get? name :=
  (NameMap.get?_foldl (get?_syncAddOn c) AddOnKind.name_inj AddOnKind.nodup_all d.addOns).2 name
    fun k _ => other k

theorem get?_nodeGroups_syncIntent_other {name : String}
    (other : ∀ k : NodeGroupKind, name ≠ k.name) :
    (d.syncIntent c).nodeGroups.get? name = d.nodeGroups.get? name :=
  (NameMap.get?_foldl (get?_syncNodeGroup c) NodeGroupKind.name_inj NodeGroupKind.nodup_all
    d.nodeGroups).2 name fun k _ => other k

end StateDocument

/-! ## The frame -/

/-- What may become of the entry of a component when a configuration is read into it: no fact that
it records changes, none is removed, and one is added only for what is wanted, with no facts. -/
inductive Reread (wanted : Bool) : Option ComponentState → Option ComponentState → Prop
  | absent (unwanted : wanted = false) : Reread wanted none none
  | added {e : ComponentState} (enabled : wanted = true) (created : e.created = false)
      (createdAt : e.createdAt = none) : Reread wanted none (some e)
  | kept {e e' : ComponentState} (created : e'.created = e.created)
      (createdAt : e'.createdAt = e.createdAt) : Reread wanted (some e) (some e')

theorem AddOnKind.reread (c : Config) (k : AddOnKind) (e? : Option ComponentState) :
    Reread (c.addOnEnabled k) e? (k.intended c e?) := by
  unfold intended
  cases e? with
  | some e =>
    rw [Option.isSome_some, Bool.not_true, Bool.and_false]
    exact .kept rfl rfl
  | none =>
    cases wanted : c.addOnEnabled k with
    | false => exact .absent rfl
    | true => exact .added rfl rfl rfl

theorem NodeGroupKind.reread (c : Config) (k : NodeGroupKind) (e? : Option ComponentState) :
    Reread (c.nodeGroup k).enable e? (k.intended c e?) := by
  unfold intended
  cases e? with
  | some e =>
    rw [Option.isSome_some, Bool.not_true, Bool.and_false]
    exact .kept rfl rfl
  | none =>
    cases wanted : (c.nodeGroup k).enable with
    | false => exact .absent rfl
    | true => exact .added rfl rfl rfl

/-- The namespace of node groups is no matter of the configuration. -/
theorem NodeGroupKind.nameSpace_intended {c : Config} {k : NodeGroupKind}
    {e? : Option ComponentState} {e : ComponentState} (entry : k.intended c e? = some e) :
    e.nameSpace = e?.bind (·.nameSpace) := by
  unfold intended at entry
  split at entry
  · cases entry
  · cases entry
    cases e? <;> rfl

/-- The document `d'` differs from `d` only in the time of its last change and in what the entries
of add-ons and node groups repeat of the configuration. -/
structure Synced (c : Config) (d d' : StateDocument) : Prop where
  rest : d' = { d with
    updatedAt := d'.updatedAt, addOns := d'.addOns, nodeGroups := d'.nodeGroups }
  addOns : ∀ k : AddOnKind,
    Reread (c.addOnEnabled k) (d.addOns.get? k.name) (d'.addOns.get? k.name)
  nodeGroups : ∀ k : NodeGroupKind,
    Reread (c.nodeGroup k).enable (d.nodeGroups.get? k.name) (d'.nodeGroups.get? k.name)
  nameSpaces : ∀ (k : NodeGroupKind) (e : ComponentState), d'.nodeGroups.get? k.name = some e →
    e.nameSpace = (d.nodeGroups.get? k.name).bind (·.nameSpace)
  otherAddOns : ∀ name, (∀ k : AddOnKind, name ≠ k.name) →
    d'.addOns.get? name = d.addOns.get? name
  otherNodeGroups : ∀ name, (∀ k : NodeGroupKind, name ≠ k.name) →
    d'.nodeGroups.get? name = d.nodeGroups.get? name

/-- **Syncing a document and noting the time changes nothing else.** -/
theorem StateDocument.synced (d : StateDocument) (c : Config) (now : String) :
    Synced c d ((d.syncIntent c).touch now) where
  rest := rfl
  addOns k := (d.get?_addOns_syncIntent c k).symm ▸ k.reread c _
  nodeGroups k := (d.get?_nodeGroups_syncIntent c k).symm ▸ k.reread c _
  nameSpaces k _ entry :=
    NodeGroupKind.nameSpace_intended ((d.get?_nodeGroups_syncIntent c k).symm.trans entry)
  otherAddOns _ other := get?_addOns_syncIntent_other other
  otherNodeGroups _ other := get?_nodeGroups_syncIntent_other other

end Testbed
