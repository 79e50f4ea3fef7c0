import Testbed.Proofs.Completeness
import Testbed.Proofs.Handles
import Testbed.Proofs.NameMaps

/-!
# Well-formed documents

The document is a record of maps under free names, with times and references beside the flags. What
a session writes there fits together, and so the flags can be read in two ways: by going through the
maps, or by asking for one component after the other.

**Theorem (`wellFormed_of_reachable`).** Whatever sessions are opened and whatever they do, each
document that comes about is well-formed, `anythingCreated` says whether some component is recorded
as created, and `createdAddOns` lists the add-ons that are, each once and in creation order.

The proof goes by `Move`: each of the four changes that a session makes keeps a document
well-formed. Syncing writes the intent only, and opening a session syncs what the store gives back.
-/

namespace Testbed

/-! ## Properties of all entries -/

namespace NameMap

variable {α κ : Type} {m : NameMap α} {P : String → α → Prop}

/-- All entries have a property. -/
def All (m : NameMap α) (P : String → α → Prop) : Prop := ∀ name a, m.get? name = some a → P name a

theorem all_empty : (empty : NameMap α).All P := fun _ _ found => nomatch found

/-- Changing an entry keeps a property that the change keeps, and brings about for a new entry. -/
theorem All.modify {name : String} {fresh : α} {f : α → α} (all : m.All P)
    (new : P name (f fresh)) (old : ∀ a, P name a → P name (f a)) :
    (m.modify name fresh f).All P := by
  intro name' a found
  rw [get?_modify] at found
  split at found
  · next same =>
    cases found
    rw [same]
    cases here : m.get? name with
    | none => exact new
    | some b => exact old b (all name b here)
  · exact all name' a found

theorem All.foldl {f : NameMap α → κ → NameMap α} (keeps : ∀ m k, m.All P → (f m k).All P)
    (ks : List κ) (all : m.All P) : (ks.foldl f m).All P := by
  induction ks generalizing m with
  | nil => exact all
  | cons k ks ih => exact ih (keeps m k all)

/-- Going through the values of a map whose names are known is asking for one name after the
other. -/
theorem any_values (name : κ → String) (p : α → Bool) (known : m.All fun n _ => ∃ k, name k = n) :
    m.values.any p = true ↔ ∃ k, (m.get? (name k)).any p = true := by
  constructor
  · intro found
    obtain ⟨a, mem, holds⟩ := List.any_eq_true.1 found
    obtain ⟨⟨n, a⟩, entry, rfl⟩ := List.mem_map.1 mem
    have here := mem_entries.1 entry
    obtain ⟨k, rfl⟩ := known n a here
    exact ⟨k, by simpa [here] using holds⟩
  · rintro ⟨k, found⟩
    obtain ⟨a, here, holds⟩ := (Option.any_eq_true _ _).1 found
    exact List.any_eq_true.2 ⟨a, List.mem_map.2 ⟨_, mem_entries.2 here, rfl⟩, holds⟩

end NameMap

namespace StateDocument

variable {d : StateDocument}

/-! ## Well-formedness -/

/-- There is a time of creation exactly for what is recorded as created. -/
def Stamped (created : Bool) (createdAt : Option String) : Prop := createdAt.isSome = created

theorem stamped_stamp (created : Bool) (now : String) : Stamped created (stamp created now) := by
  cases created <;> rfl

/-- An entry of a resource. -/
def ResourceEntry (name : String) (r : ResourceState) : Prop :=
  (∃ k : ResourceKind, k.name = name) ∧ Stamped r.created r.createdAt

/-- An entry of a component of some kind. -/
def ComponentEntry {κ : Type} (kindName : κ → String) (name : String) (e : ComponentState) : Prop :=
  (∃ k, kindName k = name) ∧ Stamped e.created e.createdAt

/-- The parts of a document fit together. -/
structure WellFormed (d : StateDocument) : Prop where
  resources : d.resources.All ResourceEntry
  nodeGroups : d.nodeGroups.All (ComponentEntry NodeGroupKind.name)
  addOns : d.addOns.All (ComponentEntry AddOnKind.name)
  cluster : d.resourceCreated .cluster = false → d.cluster = {}
  upAt : d.up = true → d.upAt.isSome = true

theorem wellFormed_new (name now : String) : WellFormed (new name now) where
  resources := NameMap.all_empty
  nodeGroups := NameMap.all_empty
  addOns := NameMap.all_empty
  cluster _ := rfl
  upAt up := nomatch up

theorem WellFormed.touch (wf : WellFormed d) (now : String) : WellFormed (d.touch now) :=
  { wf with }

theorem WellFormed.checksum (wf : WellFormed d) (sum : Option String) :
    WellFormed { d with checksum := sum } := { wf with }

theorem WellFormed.markUp (wf : WellFormed d) (now : String) : WellFormed (d.markUp now) :=
  { wf with upAt := fun _ => rfl }

theorem WellFormed.markDown (wf : WellFormed d) (now : String) : WellFormed (d.markDown now) :=
  { wf with upAt := fun up => nomatch up }

theorem all_mark {κ : Type} {kindName : κ → String} {m : NameMap ComponentState}
    (all : m.All (ComponentEntry kindName)) (k : κ) (created : Bool) (now : String) :
    (m.modify (kindName k) {} (mark created now)).All (ComponentEntry kindName) :=
  all.modify ⟨⟨k, rfl⟩, stamped_stamp created now⟩ fun _ _ => ⟨⟨k, rfl⟩, stamped_stamp created now⟩

theorem WellFormed.set (wf : WellFormed d) (k : Component) (created : Bool) (now : String) :
    WellFormed (d.set k created now) := by
  cases k with
  | nodeGroup k => exact { wf with nodeGroups := all_mark wf.nodeGroups k created now }
  | addOn k => exact { wf with addOns := all_mark wf.addOns k created now }
  | resource k =>
    have entry : ResourceEntry k.name ⟨created, stamp created now⟩ :=
      ⟨⟨k, rfl⟩, stamped_stamp created now⟩
    refine { wf with resources := wf.resources.modify entry fun _ _ => entry, cluster := ?_ }
    intro gone
    have flag := isCreated_set d (.resource k) (.resource .cluster) created now
    -- Either the control plane was recorded as deleted just now, or its flag is what it was.
    by_cases deleted : k = .cluster ∧ !created
    · exact if_pos deleted
    · refine (if_neg deleted).trans (wf.cluster ?_)
      by_cases same : k = .cluster
      · subst same
        rw [if_pos rfl] at flag
        have still : created = true := by simpa using deleted
        cases (flag.trans still).symm.trans gone
      · rw [if_neg (fun h => same (Component.resource.inj h).symm)] at flag
        exact flag.symm.trans gone

theorem WellFormed.recordCreated (wf : WellFormed d) (k : Component) (y : (Call.create k).Yield)
    (now : String) : WellFormed (Session.recordCreated k y now d) := by
  have set := wf.set k true now
  refine { set with cluster := fun gone => ?_ }
  have flag := isCreated_recordCreated d k (.resource .cluster) y now
  by_cases same : Component.resource .cluster = k
  · rw [if_pos same] at flag
    cases flag.symm.trans gone
  · have none : Call.refs? k y = none := by
      cases k with
      | resource k => cases k <;> first | rfl | exact absurd rfl same
      | _ => rfl
    have kept : (Session.recordCreated k y now d).cluster = (d.set k true now).cluster := by
      simp [Session.recordCreated, none]
    rw [kept]
    exact set.cluster gone

/-- The changes that the sagas make. -/
inductive SagaChange : (String → StateDocument → StateDocument) → Prop
  | created (k : Component) (y : (Call.create k).Yield) : SagaChange (Session.recordCreated k y)
  | deleted (k : Component) : SagaChange fun now d => d.set k false now
  | up : SagaChange fun now d => d.markUp now
  | down : SagaChange fun now d => d.markDown now

theorem WellFormed.change {f : String → StateDocument → StateDocument} (wf : WellFormed d)
    (change : SagaChange f) (now : String) : WellFormed ((f now d).touch now) := by
  cases change with
  | created k y => exact (wf.recordCreated k y now).touch now
  | deleted k => exact (wf.set k false now).touch now
  | up => exact (wf.markUp now).touch now
  | down => exact (wf.markDown now).touch now

/-! ## Syncing -/

theorem all_syncAddOn (c : Config) (m : NameMap ComponentState) (k : AddOnKind)
    (all : m.All (ComponentEntry AddOnKind.name)) :
    (syncAddOn c m k).All (ComponentEntry AddOnKind.name) := by
  unfold syncAddOn
  split
  · exact all
  · exact all.modify ⟨⟨k, rfl⟩, rfl⟩ fun e entry => entry

theorem all_syncNodeGroup (c : Config) (m : NameMap ComponentState) (k : NodeGroupKind)
    (all : m.All (ComponentEntry NodeGroupKind.name)) :
    (syncNodeGroup c m k).All (ComponentEntry NodeGroupKind.name) := by
  unfold syncNodeGroup
  split
  · exact all
  · exact all.modify ⟨⟨k, rfl⟩, rfl⟩ fun e entry => entry

theorem WellFormed.syncIntent (wf : WellFormed d) (c : Config) : WellFormed (d.syncIntent c) :=
  { wf with
    nodeGroups := wf.nodeGroups.foldl (all_syncNodeGroup c) NodeGroupKind.all
    addOns := wf.addOns.foldl (all_syncAddOn c) AddOnKind.all }

/-! ## Reading the flags -/

/-- **Something is recorded as created exactly if some component is.** -/
theorem WellFormed.anythingCreated_iff (wf : WellFormed d) :
    d.anythingCreated = true ↔ ∃ k, d.isCreated k = true := by
  have resources := NameMap.any_values ResourceKind.name (fun r => r.created)
    fun n r found => (wf.resources n r found).1
  have nodeGroups := NameMap.any_values NodeGroupKind.name (fun e => e.created)
    fun n e found => (wf.nodeGroups n e found).1
  have addOns := NameMap.any_values AddOnKind.name (fun e => e.created)
    fun n e found => (wf.addOns n e found).1
  rw [anythingCreated, Bool.or_eq_true, Bool.or_eq_true, resources, nodeGroups, addOns]
  constructor
  · rintro ((⟨k, created⟩ | ⟨k, created⟩) | ⟨k, created⟩)
    · exact ⟨.resource k, created⟩
    · exact ⟨.nodeGroup k, created⟩
    · exact ⟨.addOn k, created⟩
  · rintro ⟨k, created⟩
    cases k with
    | resource k => exact .inl (.inl ⟨k, created⟩)
    | nodeGroup k => exact .inl (.inr ⟨k, created⟩)
    | addOn k => exact .inr ⟨k, created⟩

/-- A list of add-ons is that of those recorded as created. -/
structure ListsCreated (d : StateDocument) (ks : List AddOnKind) : Prop where
  once : ks.Nodup
  inOrder : ks.Sublist AddOnKind.all
  mem_iff : ∀ k, k ∈ ks ↔ d.addOnCreated k = true
  /-- Under whatever name. -/
  entries : ∀ name e, d.addOns.get? name = some e → e.created = true → ∃ k ∈ ks, k.name = name

theorem WellFormed.listsCreated (wf : WellFormed d) : ListsCreated d d.createdAddOns where
  once := AddOnKind.nodup_all.filter _
  inOrder := List.filter_sublist
  mem_iff k := by simp [createdAddOns, AddOnKind.mem_all]
  entries name e found created := by
    obtain ⟨k, rfl⟩ := (wf.addOns name e found).1
    refine ⟨k, List.mem_filter.2 ⟨AddOnKind.mem_all k, ?_⟩, rfl⟩
    simpa [addOnCreated, found] using created

end StateDocument

open StateDocument Session

/-! ## Moves and runs -/

namespace Session

variable {ω : Type} {h : Host ω} {s t : Session ω} {rs : List Record} {es : List Event}
  {c : Config} {d d' : StateDocument} {writable : Bool}

/-- **A move keeps the document well-formed**, and so is every document it comes by. -/
theorem Move.wellFormed (m : Move c d rs es d') (wf : WellFormed d) :
    WellFormed d' ∧ ∀ e ∈ es, WellFormed e.document := by
  cases m with
  | pause => exact ⟨wf, by simp⟩
  | query => exact ⟨wf, by simpa [Event.document] using wf⟩
  | step =>
    refine ⟨wf, fun e mem => ?_⟩
    rcases List.mem_append.1 mem with mem | mem
    · obtain ⟨_, -, rfl⟩ := List.mem_map.1 mem
      exact wf
    · rw [List.mem_singleton.1 mem]
      exact wf
  | createFailed => exact ⟨wf, by simpa [Event.document] using wf⟩
  | @created _ k _ _ y now _ _ _ recorded =>
    have wf' : WellFormed d' := recorded ▸ wf.change (.created k y) now
    exact ⟨wf', by simpa [Event.document] using ⟨wf, wf'⟩⟩
  | deleteFailed => exact ⟨wf, by simpa [Event.document] using wf⟩
  | @deleted _ k _ _ now _ _ recorded =>
    have wf' : WellFormed d' := recorded ▸ wf.change (.deleted k) now
    exact ⟨wf', by simpa [Event.document] using ⟨wf, wf'⟩⟩
  | @markUp _ _ now recorded =>
    have wf' : WellFormed d' := recorded ▸ wf.change .up now
    exact ⟨wf', by simpa [Event.document] using wf'⟩
  | @markDown _ _ now recorded =>
    have wf' : WellFormed d' := recorded ▸ wf.change .down now
    exact ⟨wf', by simpa [Event.document] using wf'⟩

theorem Moves.wellFormed (m : Moves c d rs es d') (wf : WellFormed d) :
    WellFormed d' ∧ ∀ e ∈ es, WellFormed e.document := by
  induction m with
  | none => exact ⟨wf, by simp⟩
  | move first _ ih =>
    obtain ⟨wf', events⟩ := first.wellFormed wf
    obtain ⟨wf'', events'⟩ := ih wf'
    exact ⟨wf'', List.forall_mem_append.2 ⟨events, events'⟩⟩

/-- **So does every operation**, also one that fails or is interrupted. -/
theorem wellFormed_operate (opened : Opened h writable s) (wf : WellFormed s.document)
    (o : Operation) :
    WellFormed (s.operate h o).document ∧
      ∀ e ∈ (s.operate h o).eventsSince s, WellFormed e.document := by
  obtain ⟨rs, es, runs⟩ := runs_operation opened o
  rw [runs.grows.eventsSince]
  exact runs.moves.wellFormed wf

/-- A session starts with a well-formed document if the store gives back such a one or none. -/
theorem wellFormed_start {stop : StopSignal} {w w' : ω}
    (stored : ∀ d, h.load w = .ok (some d) → WellFormed d)
    (opened : start h c writable stop w = (.ok s, w')) : WellFormed s.document := by
  obtain ⟨d, st⟩ := started opened
  have wf : WellFormed d := by
    have loaded := st.loaded
    cases found : h.load w with
    | error e =>
      simp only [startingDocument, found] at loaded
      cases loaded
    | ok x =>
      cases x with
      | none =>
        rw [startingDocument_of_empty found] at loaded
        cases loaded
        exact wellFormed_new _ _
      | some x =>
        rw [startingDocument_of_stored found] at loaded
        split at loaded
        · cases loaded
          exact stored d found
        · cases loaded
  rw [st.document]
  split
  · exact (wf.syncIntent c).touch _
  · exact wf.syncIntent c

end Session

/-! ## Reachable documents -/

/-- A document that came about from a new one. -/
inductive Reachable : StateDocument → Prop
  | new (name now : String) : Reachable (.new name now)
  | sync {d : StateDocument} (c : Config) (before : Reachable d) : Reachable (d.syncIntent c)
  | change {d : StateDocument} {f : String → StateDocument → StateDocument} (change : SagaChange f)
      (now : String) (before : Reachable d) : Reachable ((f now d).touch now)
  /-- A store may put a checksum in. -/
  | checksum {d : StateDocument} (sum : Option String) (before : Reachable d) :
      Reachable { d with checksum := sum }
  /-- A session was opened on a store that gave back such a document or none. -/
  | opened {ω : Type} {h : Host ω} {c : Config} {writable : Bool} {stop : StopSignal} {w w' : ω}
      {s : Session ω} (stored : ∀ d, h.load w = .ok (some d) → Reachable d)
      (opened : start h c writable stop w = (.ok s, w')) : Reachable s.document
  /-- An operation has returned. -/
  | operated {ω : Type} {h : Host ω} {writable : Bool} {s : Session ω}
      (opened : Opened h writable s) (o : Operation) (before : Reachable s.document) :
      Reachable (s.operate h o).document
  /-- An operation was under way. -/
  | amid {ω : Type} {h : Host ω} {writable : Bool} {s : Session ω} {e : Event}
      (opened : Opened h writable s) (o : Operation) (before : Reachable s.document)
      (mem : e ∈ (s.operate h o).eventsSince s) : Reachable e.document

theorem Reachable.wellFormed {d : StateDocument} (reachable : Reachable d) : WellFormed d := by
  induction reachable with
  | new name now => exact wellFormed_new name now
  | sync c _ ih => exact ih.syncIntent c
  | change made now _ ih => exact ih.change made now
  | checksum sum _ ih => exact ih.checksum sum
  | opened _ opened ih => exact wellFormed_start ih opened
  | operated opened o _ ih => exact (wellFormed_operate opened ih o).1
  | amid opened o _ mem ih => exact (wellFormed_operate opened ih o).2 _ mem

/-- **Reachable documents are well-formed**, and their flags can be read in either way. -/
theorem wellFormed_of_reachable {d : StateDocument} (reachable : Reachable d) :
    WellFormed d ∧ (d.anythingCreated = true ↔ ∃ k, d.isCreated k = true) ∧
      ListsCreated d d.createdAddOns :=
  have wf := reachable.wellFormed
  ⟨wf, wf.anythingCreated_iff, wf.listsCreated⟩

theorem wellFormed_of_reachable_calmBench :
    let s := firstSession sampleHost sampleConfig {} Moment.calmBench
    let d := (s.operate sampleHost .up).document
    WellFormed d ∧ d.up = true ∧ (∃ k, d.isCreated k = true) ∧ ListsCreated d [.nlbHelloWorld] := by
  intro s d
  have started : start sampleHost sampleConfig true {} Moment.calmBench = (.ok s, s.world) :=
    start_of_empty {} (by decide) rfl rfl
  have empty : sampleHost.load Moment.calmBench = .ok none := rfl
  have first : Reachable s.document :=
    .opened (fun _ stored => nomatch empty.symm.trans stored) started
  have reachable : Reachable d := .operated ⟨_, _, _, _, _, started, rfl, rfl, rfl⟩ .up first
  obtain ⟨wf, created, lists⟩ := wellFormed_of_reachable reachable
  have listed : d.createdAddOns = [.nlbHelloWorld] := by decide +kernel
  exact ⟨wf, by decide +kernel, created.1 (by decide +kernel), listed ▸ lists⟩

/-! ## Lives -/

namespace Moment

variable {ω : Type} {m n : Moment ω} {o : Option Operation} {allowed : Operation → Prop}

/-- The documents of a life so far are reachable. -/
structure Grown (m : Moment ω) : Prop where
  opened : Opened m.host true m.session
  current : Reachable m.session.document
  log : ∀ e ∈ m.log, Reachable e.document

theorem First.grown (first : m.First) : m.Grown := by
  obtain ⟨opened, log, -⟩ := first.starts
  obtain ⟨c, stop, w, w', empty, started⟩ := first.opened
  have current : Reachable m.session.document :=
    .opened (fun d stored => nomatch empty.symm.trans stored) started
  refine ⟨opened, current, fun e mem => ?_⟩
  rw [log] at mem
  rw [List.mem_singleton.1 mem]
  exact current

theorem Next.grown (next : Next m o n) (grown : m.Grown) : n.Grown := by
  cases next with
  | operate o stop w =>
    have opened := opened_operate grown.opened stop w
    obtain ⟨rs, es, runs⟩ := runs_operate opened o
    refine ⟨opened.grows runs.grows, .operated opened o grown.current, fun e mem => ?_⟩
    rw [log_operate runs.grows.history] at mem
    rcases List.mem_append.1 mem with mem | mem
    · exact grown.log e mem
    · exact .amid opened o grown.current (by rwa [runs.grows.eventsSince])
  | @reopen h c stop w w' d x s last loaded same started =>
    have saved := mem_of_lastSaved last
    have stored : Reachable d := by
      have back : d = { x with checksum := d.checksum } := by rw [← same]
      rw [back]
      exact .checksum _ (grown.log _ saved)
    have current : Reachable s.document :=
      .opened (fun d' found => by
        cases loaded.symm.trans found
        exact stored) started
    refine ⟨⟨_, _, _, _, _, started, rfl, rfl, rfl⟩, current, fun e mem => ?_⟩
    rcases List.mem_append.1 mem with mem | mem
    · exact grown.log e mem
    · rw [(reopened loaded same started).2] at mem
      rw [List.mem_singleton.1 mem]
      exact current

/-- Whatever is saved in a life, and whatever is in memory when a call is made, is reachable. -/
theorem reachable_of_life (first : m.First) (life : Path allowed m n) :
    Reachable n.session.document ∧ ∀ e ∈ n.log, Reachable e.document := by
  have grown : n.Grown := by
    induction life with
    | here => exact first.grown
    | next _ next _ ih => exact next.grown ih
  exact ⟨grown.current, grown.log⟩

end Moment

end Testbed
