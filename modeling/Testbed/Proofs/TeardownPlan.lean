import Testbed.Proofs.Opening
import Testbed.Proofs.Removals

/-!
# The plan of a teardown

`downPlan` states which records a teardown adds to the journal, as a function of the configuration
and the flags with which it began.

**Theorem (`down_follows_plan`).** If every component recorded as created can be driven, a
teardown adds exactly the records of its plan, and it makes one attempt to delete each component
that was recorded as created and none to delete any other. No failure of a deletion or a save and
no firing of the stop signal changes that.

The run re-reads the flags while it clears them. This does not matter, because every component
has one place in the order: until a component's turn comes, nothing has touched its flag.
-/

namespace Testbed.Session

variable {ω : Type} {h : Host ω} {s t : Session ω} {rs : List Record} {es : List Event}
  {c : Config} {d : StateDocument}

/-! ## The plan -/

/-- The heading of an attempt to delete. -/
def deletion (k : Component) : RecordKind × String := stepHeading s!"delete {k.label}"

/-- The deletion of a resource that is recorded as created. -/
def deleteResource (d : StateDocument) (k : ResourceKind) : List (RecordKind × String) :=
  if d.resourceCreated k then [deletion (.resource k)] else []

/-- The deletion of an add-on and the pause for its cleanup. -/
def deleteAddOn (k : AddOnKind) : List (RecordKind × String) :=
  [deletion (.addOn k), (SettleReason.addOnCleanup k k.cleanup).heading]

/-- The deletion of a family of node groups and the pause for its drain. -/
def deleteNodeGroup (k : NodeGroupKind) : List (RecordKind × String) :=
  [deletion (.nodeGroup k), (SettleReason.nodeGroupDrain k).heading]

/-- What goes before the load balancers have released the network. -/
def planBeforeRelease (d : StateDocument) : List (RecordKind × String) :=
  let addOns := AddOnKind.all.reverse.filter d.addOnCreated
  deleteResource d .keyPair
  ++ (addOns.filter fun k => !k.holdsLoadBalancer).flatMap deleteAddOn
  ++ (addOns.filter fun k => k.holdsLoadBalancer).flatMap deleteAddOn

/-- What goes afterwards. -/
def planAfterRelease (d : StateDocument) : List (RecordKind × String) :=
  ([NodeGroupKind.managed, .unmanaged].filter d.nodeGroupCreated).flatMap deleteNodeGroup
  ++ deleteResource d .cluster
  ++ deleteResource d .encryptionKey
  ++ deleteResource d .clusterRole
  ++ (if d.resourceCreated .network then
      [SettleReason.networkRelease.heading, deletion (.resource .network)] else [])
  ++ deleteResource d .bucket

/-- Whether a teardown waits for load balancers: it deletes one, and there are node groups that
hold on to the network. -/
def plansRelease (c : Config) (d : StateDocument) : Bool :=
  (AddOnKind.all.any fun k => k.holdsLoadBalancer && d.addOnCreated k) && c.anyNodeGroupEnabled

/-- What a teardown does, by the configuration and the document with which it begins. -/
def downPlan (c : Config) (d : StateDocument) : List (RecordKind × String) :=
  [stepHeading "upload artifacts"]
  ++ planBeforeRelease d
  ++ (if plansRelease c d then [SettleReason.loadBalancerNetwork.heading] else [])
  ++ planAfterRelease d

/-- The order in which components are deleted, if these are the add-ons in creation order. -/
def deletionOrder (addOns : List AddOnKind) : List Component :=
  [Component.resource .keyPair]
  ++ (addOns.reverse.filter fun k => !k.holdsLoadBalancer).map Component.addOn
  ++ (addOns.reverse.filter fun k => k.holdsLoadBalancer).map Component.addOn
  ++ [Component.nodeGroup .managed, Component.nodeGroup .unmanaged, Component.resource .cluster,
      Component.resource .encryptionKey, Component.resource .clusterRole,
      Component.resource .network, Component.resource .bucket]

/-- All components in the order in which they are deleted. -/
def teardownOrder : List Component := deletionOrder AddOnKind.all

theorem nodup_teardownOrder : teardownOrder.Nodup := by decide

theorem mem_teardownOrder (k : Component) : k ∈ teardownOrder := by
  cases k with
  | resource k => cases k <;> decide
  | nodeGroup k => cases k <;> decide
  | addOn k => cases k <;> decide

/-! ## Removals before the release -/

theorem beforeRelease_eq (r : Registry) :
    Removal.beforeRelease r =
      .resource .keyPair ::
        (((r.addOns.map (·.kind)).reverse.filter fun k => !k.holdsLoadBalancer).map Removal.addOn
        ++ ((r.addOns.map (·.kind)).reverse.filter fun k => k.holdsLoadBalancer).map
          Removal.addOn) := rfl

/-- Of the add-ons recorded as created, a registry that holds them all gives the same list as the
creation order. -/
theorem filter_kinds {r : Registry} {handle? : Component → Option Handle} {d₀ : StateDocument}
    (made : r = .materialize c d₀ handle?)
    (held : ∀ k, d.addOnCreated k = true → k ∈ r.addOns.map (·.kind)) (p : AddOnKind → Bool) :
    ((r.addOns.map (·.kind)).reverse.filter p).filter d.addOnCreated =
      (AddOnKind.all.reverse.filter d.addOnCreated).filter p := by
  have hk : r.addOns.map (·.kind) = AddOnKind.all.filter (Registry.wantsAddOn c d₀) := by
    rw [made, kinds_materialize]
  have wanted : ∀ k, d.addOnCreated k = true → Registry.wantsAddOn c d₀ k = true := fun k created =>
    (List.mem_filter.1 (hk ▸ held k created)).2
  rw [hk, ← List.filter_reverse, List.filter_filter, List.filter_filter, List.filter_filter]
  refine List.filter_congr fun k _ => ?_
  cases created : d.addOnCreated k with
  | false => simp
  | true => simp [wanted k created]

theorem headings_addOns (d : StateDocument) (ks : List AddOnKind) :
    ((ks.map Removal.addOn).filter fun r => d.isCreated r.component).flatMap Removal.headings =
      (ks.filter d.addOnCreated).flatMap deleteAddOn := by
  rw [List.filter_map, List.flatMap_map]
  rfl

theorem flatMap_filter_cons {α β : Type} (p : α → Bool) (f : α → List β) (a : α) (l : List α) :
    ((a :: l).filter p).flatMap f = (if p a then f a else []) ++ (l.filter p).flatMap f := by
  cases ha : p a <;> simp [ha]

theorem headings_beforeRelease {r : Registry} {handle? : Component → Option Handle}
    {d₀ : StateDocument} (made : r = .materialize c d₀ handle?)
    (held : ∀ k, d.addOnCreated k = true → k ∈ r.addOns.map (·.kind)) :
    ((Removal.beforeRelease r).filter fun q => d.isCreated q.component).flatMap
        Removal.headings = planBeforeRelease d := by
  rw [beforeRelease_eq, flatMap_filter_cons, List.filter_append, List.flatMap_append,
    headings_addOns, headings_addOns, filter_kinds made held, filter_kinds made held,
    ← List.append_assoc]
  rfl

theorem headings_afterRelease (d : StateDocument) :
    (Removal.afterRelease.filter fun q => d.isCreated q.component).flatMap Removal.headings =
      planAfterRelease d := by
  simp only [Removal.afterRelease, planAfterRelease, flatMap_filter_cons, List.filter_nil,
    List.flatMap_nil, List.append_nil, List.append_assoc]
  rfl

theorem components_removals (r : Registry) :
    (Removal.beforeRelease r ++ Removal.afterRelease).map Removal.component =
      deletionOrder (r.addOns.map (·.kind)) := by
  rw [beforeRelease_eq, ← List.singleton_append, List.map_append, List.map_append,
    List.map_append, List.map_map, List.map_map, ← List.append_assoc]
  rfl

/-- The removals of a teardown follow the order of deletion. -/
theorem deletionOrder_sublist {ks ks' : List AddOnKind} (sub : ks.Sublist ks') :
    (deletionOrder ks).Sublist (deletionOrder ks') := by
  have part (p : AddOnKind → Bool) :
      ((ks.reverse.filter p).map Component.addOn).Sublist
        ((ks'.reverse.filter p).map Component.addOn) := (sub.reverse.filter p).map _
  exact (((List.Sublist.refl _).append (part _)).append (part _)).append (.refl _)

/-- Of the components recorded as created, a registry that holds all add-ons among them leaves
out none. -/
theorem filter_deletionOrder {r : Registry} {handle? : Component → Option Handle}
    {d₀ : StateDocument} (made : r = .materialize c d₀ handle?)
    (held : ∀ k, d.addOnCreated k = true → k ∈ r.addOns.map (·.kind)) :
    (deletionOrder (r.addOns.map (·.kind))).filter d.isCreated =
      teardownOrder.filter d.isCreated := by
  have part (p : AddOnKind → Bool) :
      (((r.addOns.map (·.kind)).reverse.filter p).map Component.addOn).filter d.isCreated =
        ((AddOnKind.all.reverse.filter p).map Component.addOn).filter d.isCreated := by
    rw [List.filter_map, List.filter_map]
    show (List.filter d.addOnCreated _).map _ = (List.filter d.addOnCreated _).map _
    rw [filter_kinds made held, List.filter_filter, List.filter_filter]
    simp only [Bool.and_comm]
  simp only [teardownOrder, deletionOrder, List.filter_append, part]

/-! ## The whole run -/

/-- What a teardown that finds all handles does. -/
structure TornDown (s t : Session ω) (records : List Record) (events : List Event) : Prop where
  runs : Runs s t records events
  saga : ∀ r ∈ records, r.saga = .down
  headings : records.map Record.heading = downPlan s.config s.document
  creations : events.filterMap Event.creation? = []
  deletions : events.filterMap Event.deletion? = teardownOrder.filter s.document.isCreated
  /-- The last thing is that the document, marked as down, is saved. -/
  closing : ∃ before d f now, events = before ++ [.save t.document f] ∧
    t.document = (StateDocument.markDown d now).touch now

/-- What a teardown with these faults gives. -/
def teardownResult (faults : List TeardownFault) : Except SagaError Unit :=
  if faults.isEmpty then .ok () else .error (.teardown faults)

theorem awaitsRelease_eq
    (held : ∀ k, s.document.addOnCreated k = true → k ∈ s.registry.addOns.map (·.kind)) :
    s.awaitsRelease = plansRelease s.config s.document := by
  refine congrArg (· && s.config.anyNodeGroupEnabled) ?_
  rw [Bool.eq_iff_iff, List.any_eq_true, List.any_eq_true]
  constructor
  · rintro ⟨e, -, he⟩
    exact ⟨e.kind, AddOnKind.mem_all _, he⟩
  · rintro ⟨k, -, hk⟩
    obtain ⟨e, he, rfl⟩ := List.mem_map.1 (held k (Bool.and_eq_true_iff.1 hk).2)
    exact ⟨e, he, hk⟩

/-- **A teardown that finds all handles comes to its end.** -/
theorem tornDown (opened : Opened h true s)
    (driven : ∀ k, s.document.isCreated k = true → s.registry.drives k = true) :
    ∃ rs es, TornDown s (s.down h).2 rs es ∧
      (s.down h).1 = teardownResult (es.filterMap Event.fault?) := by
  obtain ⟨d₀, handle?, made⟩ := opened.materialized
  have held : ∀ k, s.document.addOnCreated k = true → k ∈ s.registry.addOns.map (·.kind) :=
    fun k created => mem_kinds_of_drives (driven (.addOn k) created)
  -- Every component has one place in the order of deletion.
  have order : ((Removal.beforeRelease s.registry ++ Removal.afterRelease).map
      Removal.component).Nodup := by
    rw [components_removals, made, kinds_materialize]
    exact (deletionOrder_sublist List.filter_sublist).nodup nodup_teardownOrder
  obtain ⟨f, upload⟩ := runs_uploadArtifacts h .down s
  have uploaded : (s.uploadArtifacts h .down).document = s.document := document_uploadArtifacts ..
  obtain ⟨u, v, rs, es, hu, hv, rounds⟩ :=
    Teardown.rounds h s.releasePause (t := ⟨s.uploadArtifacts h .down, []⟩) order
      fun r _ present => by
        rw [upload.grows.registry]
        exact driven r.component (uploaded ▸ present)
  obtain ⟨f', final, marked, faults⟩ := Teardown.grows_update h (fun now d => d.markDown now) v
  have mark := Runs.of_move final (.markDown marked)
  have hd : s.down h = ((v.update h fun now d => d.markDown now).result,
      (v.update h fun now d => d.markDown now).session) := by
    rw [Session.down, opened.allow]
    dsimp only
    rw [teardown_eq, hu]
    dsimp only
    rw [hv]
  have pause : (s.releasePause.map SettleReason.heading).toList =
      if plansRelease s.config s.document then [SettleReason.loadBalancerNetwork.heading]
      else [] := by
    rw [releasePause, awaitsRelease_eq held]
    cases plansRelease s.config s.document <;> rfl
  rw [hd]
  refine ⟨_, _, ⟨upload.trans (rounds.runs.trans mark), ?_, ?_, ?_, ?_, ?_⟩, ?_⟩
  · intro r hr
    simp only [List.mem_append, List.mem_singleton, List.not_mem_nil, or_false] at hr
    rcases hr with rfl | hr
    · exact Record.saga_ofStep ..
    · exact rounds.saga r hr
  · rw [List.append_nil, List.map_append, List.map_singleton, Record.heading_ofStep,
      rounds.headings, uploaded, headings_beforeRelease made held, headings_afterRelease, pause]
    simp only [downPlan, List.append_assoc]
    rfl
  · rw [List.filterMap_append, List.filterMap_append, rounds.creations]
    rfl
  · rw [List.filterMap_append, List.filterMap_append, rounds.deletions, components_removals,
      uploaded, filter_deletionOrder made held]
    exact List.append_nil _
  · exact ⟨_, _, f', _, (List.append_assoc ..).symm, marked⟩
  · rw [Teardown.result, faults, rounds.faults, List.filterMap_append, List.filterMap_append,
      faults_save]
    rfl

/-- **A teardown follows its plan**, whatever fails and whenever the stop signal fires: it adds the
records of the plan and attempts one deletion of each component that was recorded as created. -/
theorem down_follows_plan (opened : Opened h true s)
    (driven : ∀ k, s.document.isCreated k = true → s.registry.drives k = true) :
    ∃ records events, Grows s (s.down h).2 records events ∧
      (∀ r ∈ records, r.saga = .down) ∧
      records.map Record.heading = downPlan s.config s.document ∧
      events.filterMap Event.deletion? = teardownOrder.filter s.document.isCreated ∧
      ∀ k, (events.filterMap Event.deletion?).count k =
        if s.document.isCreated k then 1 else 0 := by
  obtain ⟨rs, es, torn, -⟩ := tornDown opened driven
  refine ⟨rs, es, torn.runs.grows, torn.saga, torn.headings, torn.deletions, fun k => ?_⟩
  rw [torn.deletions, (nodup_teardownOrder.sublist List.filter_sublist).count]
  simp [mem_teardownOrder]

/-- A bench on which the deletion of the cluster fails and the stop signal fires during the
upload. -/
def troubledBench : Bench where
  now := "noon"
  rehearsal := (Rehearsal.failOn {} "delete cluster" "busy").onCall "upload_artifacts"
    [.fire 0 .signal]

/-- The cluster and the add-on exist. -/
def troubledSession : Session Bench :=
  sampleSession [.resource .cluster, .addOn .nlbHelloWorld] troubledBench

theorem opened_troubledSession : Opened sampleHost true troubledSession :=
  opened_sampleSession _ rfl rfl

theorem drives_troubledSession (k : Component)
    (created : troubledSession.document.isCreated k = true) :
    troubledSession.registry.drives k = true := by
  have drivesAll : ∀ k ∈ [Component.resource .cluster, .addOn .nlbHelloWorld],
      troubledSession.registry.drives k = true := by decide +kernel
  exact drivesAll k (mem_of_isCreated_sampleSession created)

theorem down_follows_plan_troubledSession :
    ∃ records events,
      Grows troubledSession (troubledSession.down sampleHost).2 records events ∧
      records.map Record.heading =
        [(.step, "upload artifacts"), (.step, "delete add_on:nlb_hello_world"),
          (.settle, "add_on:nlb_hello_world cleanup"), (.settle, "load balancer release"),
          (.step, "delete cluster")] := by
  obtain ⟨rs, es, g, -, headings, -⟩ :=
    down_follows_plan opened_troubledSession drives_troubledSession
  exact ⟨rs, es, g, headings.trans (by decide +kernel)⟩

end Testbed.Session
