import Testbed.Saga.Up
import Testbed.State.Intent

/-!
# What the document says of each component

A document holds one created flag for every component. Each operation on documents is read here
as an operation on these flags: `set` writes one of them, and everything else, syncing with a
configuration included, leaves all of them as they were.
-/

namespace Testbed

/-! ## Names of kinds -/

theorem ResourceKind.ofName?_name (k : ResourceKind) : ofName? k.name = some k := by
  cases k <;> decide

theorem NodeGroupKind.ofName?_name (k : NodeGroupKind) : ofName? k.name = some k := by
  cases k <;> decide

theorem AddOnKind.ofName?_name (k : AddOnKind) : ofName? k.name = some k := by
  cases k <;> decide

theorem ResourceKind.name_inj {a b : ResourceKind} : a.name = b.name ↔ a = b :=
  ⟨fun h => Option.some.inj (by rw [← ofName?_name a, h, ofName?_name b]), fun h => h ▸ rfl⟩

theorem NodeGroupKind.name_inj {a b : NodeGroupKind} : a.name = b.name ↔ a = b :=
  ⟨fun h => Option.some.inj (by rw [← ofName?_name a, h, ofName?_name b]), fun h => h ▸ rfl⟩

theorem AddOnKind.name_inj {a b : AddOnKind} : a.name = b.name ↔ a = b :=
  ⟨fun h => Option.some.inj (by rw [← ofName?_name a, h, ofName?_name b]), fun h => h ▸ rfl⟩

namespace StateDocument

variable {d d' : StateDocument}

/-! ## Writing a flag -/

/-- Setting one component changes its flag and no other. -/
theorem isCreated_set (d : StateDocument) (c c' : Component) (b : Bool) (now : String) :
    (d.set c b now).isCreated c' = if c' = c then b else d.isCreated c' := by
  cases c with
  | resource k =>
    cases c' with
    | resource k' =>
      simp only [set, isCreated, setResource, resourceCreated, NameMap.get?_modify,
        ResourceKind.name_inj, Component.resource.injEq]
      split <;> rfl
    | nodeGroup k' => rfl
    | addOn k' => rfl
  | nodeGroup k =>
    cases c' with
    | resource k' => rfl
    | nodeGroup k' =>
      simp only [set, isCreated, setNodeGroup, nodeGroupCreated, NameMap.get?_modify,
        NodeGroupKind.name_inj, Component.nodeGroup.injEq]
      split <;> rfl
    | addOn k' => rfl
  | addOn k =>
    cases c' with
    | resource k' => rfl
    | nodeGroup k' => rfl
    | addOn k' =>
      simp only [set, isCreated, setAddOn, addOnCreated, NameMap.get?_modify,
        AddOnKind.name_inj, Component.addOn.injEq]
      split <;> rfl

/-! ## Leaving the flags alone -/

/-- The flags are read from these three maps. -/
theorem isCreated_congr (hr : d.resources = d'.resources) (hg : d.nodeGroups = d'.nodeGroups)
    (ha : d.addOns = d'.addOns) : d.isCreated = d'.isCreated := by
  funext c
  cases c with
  | resource k => simp only [isCreated, resourceCreated, hr]
  | nodeGroup k => simp only [isCreated, nodeGroupCreated, hg]
  | addOn k => simp only [isCreated, addOnCreated, ha]

@[simp] theorem isCreated_touch (d : StateDocument) (now : String) :
    (d.touch now).isCreated = d.isCreated := isCreated_congr rfl rfl rfl

@[simp] theorem isCreated_markUp (d : StateDocument) (now : String) :
    (d.markUp now).isCreated = d.isCreated := isCreated_congr rfl rfl rfl

@[simp] theorem isCreated_markDown (d : StateDocument) (now : String) :
    (d.markDown now).isCreated = d.isCreated := isCreated_congr rfl rfl rfl

/-- The seal says nothing about components. -/
theorem isCreated_checksum (d : StateDocument) (sum : Option String) :
    ({ d with checksum := sum } : StateDocument).isCreated = d.isCreated :=
  isCreated_congr rfl rfl rfl

@[simp] theorem isCreated_new (name now : String) (c : Component) :
    (new name now).isCreated c = false := by
  cases c <;> rfl

/-- Recording a creation sets the flag of what was created and no other. -/
theorem isCreated_recordCreated (d : StateDocument) (c c' : Component) (y : (Call.create c).Yield)
    (now : String) :
    (Session.recordCreated c y now d).isCreated c' = if c' = c then true else d.isCreated c' := by
  rw [← isCreated_set d c c' true now]
  exact congrFun (isCreated_congr rfl rfl rfl) c'

/-! ## Syncing -/

theorem created_syncAddOn (c : Config) (m : NameMap ComponentState) (k : AddOnKind)
    (name : String) :
    (((syncAddOn c m k).get? name).any fun e => e.created) =
      ((m.get? name).any fun e => e.created) := by
  unfold syncAddOn
  split
  · rfl
  · rw [NameMap.get?_modify]
    split
    · next h => subst h; cases m.get? k.name <;> rfl
    · rfl

theorem created_syncNodeGroup (c : Config) (m : NameMap ComponentState) (k : NodeGroupKind)
    (name : String) :
    (((syncNodeGroup c m k).get? name).any fun e => e.created) =
      ((m.get? name).any fun e => e.created) := by
  unfold syncNodeGroup
  split
  · rfl
  · rw [NameMap.get?_modify]
    split
    · next h => subst h; cases m.get? k.name <;> rfl
    · rfl

/-- Folding updates that keep the flags keeps the flags. -/
theorem created_foldl {κ : Type} {f : NameMap ComponentState → κ → NameMap ComponentState}
    (hf : ∀ m k name, (((f m k).get? name).any fun e => e.created) =
      ((m.get? name).any fun e => e.created)) (ks : List κ) (m : NameMap ComponentState)
    (name : String) :
    (((ks.foldl f m).get? name).any fun e => e.created) =
      ((m.get? name).any fun e => e.created) := by
  induction ks generalizing m with
  | nil => rfl
  | cons k ks ih => rw [List.foldl_cons, ih, hf]

/-- **Syncing with a configuration changes no flag.** -/
@[simp] theorem isCreated_syncIntent (d : StateDocument) (c : Config) :
    (d.syncIntent c).isCreated = d.isCreated := by
  funext k
  cases k with
  | resource k => rfl
  | nodeGroup k => exact created_foldl (created_syncNodeGroup c) _ _ _
  | addOn k => exact created_foldl (created_syncAddOn c) _ _ _

end StateDocument

end Testbed
