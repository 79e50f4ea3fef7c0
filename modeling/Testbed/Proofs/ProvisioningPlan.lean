import Testbed.Proofs.Opening
import Testbed.Proofs.Removals
import Testbed.Proofs.Stages

/-!
# The plan of a provisioning

`upPlan` states which records a provisioning adds to the journal, as a function of the configuration
and the flags with which it began.

**Theorem (`broughtUp`).** A run of the up saga adds the records of its plan up to the first that
does not pass, and then those of the closing upload. Only a run that carried out the whole plan
collects logs, and only such a run succeeds.

The run re-reads the flags while it sets them. This does not matter, because every component is
created in one stage only.
-/

namespace Testbed.Session

variable {ω : Type} {h : Host ω} {s t : Session ω} {rs : List Record} {es : List Event}
  {c : Config} {d : StateDocument}

/-! ## The plan -/

/-- The creations among these components that are wanted and not yet recorded. -/
def creations (c : Config) (d : StateDocument) (ks : List Component) : List (RecordKind × String) :=
  (ks.filter fun k => c.wants k && !d.isCreated k).map creation

/-- The step of a hook, if it is configured. -/
def hookPlan (c : Config) (p : HookPoint) : List (RecordKind × String) :=
  if (p.command c.hooks).isSome then [(.step, s!"hook {p.name}")] else []

/-- The steps for GPUs, if a node group needs them. -/
def gpuPlan (c : Config) : List (RecordKind × String) :=
  if c.needsGpuDrivers then [stepHeading "install gpu driver", stepHeading "gpu smoke test"] else []

/-- The add-ons of a tier in creation order. -/
def tierComponents (t : Tier) : List Component :=
  (AddOnKind.all.filter fun k => k.tier = t).map .addOn

/-- What provisioning does, by the configuration and the document with which it begins. -/
def upPlan (c : Config) (d : StateDocument) : List (RecordKind × String) :=
  creations c d (ResourceKind.all.map .resource)
  ++ [SettleReason.postCreate.heading, stepHeading "check cluster health"]
  ++ hookPlan c .afterCreateCluster
  ++ creations c d (NodeGroupKind.all.map .nodeGroup)
  ++ gpuPlan c
  ++ creations c d (tierComponents .cluster)
  ++ [stepHeading "check health after cluster add-ons", stepHeading "upload artifacts"]
  ++ creations c d (tierComponents .workload)
  ++ [stepHeading "check health after workloads"]
  ++ hookPlan c .afterCreateAddOns

/-! ## Stages and plan -/

/-- All stages but the last. -/
def plannedStages (r : Registry) : List Stage :=
  let tier (t : Tier) := (r.enabledIn t).map fun e => Stage.create (.addOn e.kind)
  ResourceKind.all.map (fun k => Stage.create (.resource k))
  ++ [Stage.settle .postCreate, Stage.health .cluster, Stage.hook .afterCreateCluster]
  ++ NodeGroupKind.all.map (fun k => Stage.create (.nodeGroup k))
  ++ [Stage.gpu]
  ++ tier .cluster ++ [Stage.health .clusterAddOns, Stage.upload]
  ++ tier .workload ++ [Stage.health .workloads, Stage.hook .afterCreateAddOns]

/-- The stages before the collection of logs. -/
def runPlanned (h : Host ω) : Action ω SagaError Unit := fun s =>
  s.runAll (runStage h) (plannedStages s.registry)

theorem stages_eq (r : Registry) : stages r = plannedStages r ++ [.collect] := by
  simp only [stages, plannedStages, List.append_assoc]
  rfl

/-- Those of these components that are wanted and not yet recorded. -/
def outstanding (c : Config) (d : StateDocument) (ks : List Component) : List Component :=
  ks.filter fun k => c.wants k && !d.isCreated k

/-- Filtering what is wanted beforehand makes no difference. -/
theorem outstanding_filter (c : Config) (d : StateDocument) (ks : List Component) :
    outstanding c d (ks.filter c.wants) = outstanding c d ks := by
  unfold outstanding
  rw [List.filter_filter]
  congr 1
  funext k
  cases c.wants k <;> simp

theorem outstanding_append (c : Config) (d : StateDocument) (ks ks' : List Component) :
    outstanding c d (ks ++ ks') = outstanding c d ks ++ outstanding c d ks' :=
  List.filter_append ..

theorem outstanding_congr {d' : StateDocument} {ks : List Component}
    (same : ∀ k ∈ ks, d'.isCreated k = d.isCreated k) :
    outstanding c d' ks = outstanding c d ks :=
  List.filter_congr fun k mem => by rw [same k mem]

theorem outstanding_eq_nil {ks : List Component} :
    outstanding c d ks = [] ↔ ∀ k ∈ ks, c.wants k = true → d.isCreated k = true := by
  simp [outstanding, List.filter_eq_nil_iff]

/-- The add-ons of a tier that the registry enables are those of the tier that are wanted. -/
theorem enabledIn_materialize (c : Config) (d : StateDocument)
    (handle? : Component → Option Handle) (t : Tier) :
    ((Registry.materialize c d handle?).enabledIn t).map (fun e => Component.addOn e.kind) =
      (tierComponents t).filter c.wants := by
  unfold Registry.enabledIn tierComponents
  rw [Registry.addOns_materialize, List.filter_map, List.map_map, List.filter_filter,
    List.filter_map, List.filter_filter]
  show List.map Component.addOn _ = _
  congr 1
  refine List.filter_congr fun k _ => ?_
  show (c.addOnEnabled k && decide (k.tier = t) && (c.addOnEnabled k || d.addOnCreated k)) =
    (c.addOnEnabled k && decide (k.tier = t))
  cases c.addOnEnabled k <;> simp

section

variable {β : Type} {φ : Stage → List β} {g : Component → β}

/-- Stages that create these components one after the other. -/
theorem flatMap_create {κ : Type}
    (create : ∀ k, φ (.create k) = if c.wants k && !d.isCreated k then [g k] else [])
    (f : κ → Component) (ks : List κ) :
    (ks.map fun k => Stage.create (f k)).flatMap φ = (outstanding c d (ks.map f)).map g := by
  induction ks with
  | nil => rfl
  | cons k ks ih =>
    rw [List.map_cons, List.flatMap_cons, ih, create]
    unfold outstanding
    cases todo : c.wants (f k) && !d.isCreated (f k) <;> simp [todo]

/-- What the stages of a registry contribute to a list, if creations contribute only what is wanted
and not yet recorded. -/
theorem flatMap_stages
    (create : ∀ k, φ (.create k) = if c.wants k && !d.isCreated k then [g k] else [])
    (d₀ : StateDocument) (handle? : Component → Option Handle) :
    (plannedStages (.materialize c d₀ handle?)).flatMap φ =
      (outstanding c d (ResourceKind.all.map .resource)).map g
      ++ (φ (.settle .postCreate) ++ φ (.health .cluster) ++ φ (.hook .afterCreateCluster))
      ++ (outstanding c d (NodeGroupKind.all.map .nodeGroup)).map g
      ++ φ .gpu
      ++ (outstanding c d (tierComponents .cluster)).map g
      ++ (φ (.health .clusterAddOns) ++ φ .upload)
      ++ (outstanding c d (tierComponents .workload)).map g
      ++ (φ (.health .workloads) ++ φ (.hook .afterCreateAddOns)) := by
  have tier (t : Tier) : (((Registry.materialize c d₀ handle?).enabledIn t).map fun e =>
      Stage.create (.addOn e.kind)).flatMap φ = (outstanding c d (tierComponents t)).map g := by
    rw [flatMap_create create fun e : AddOnEntry => .addOn e.kind, enabledIn_materialize,
      outstanding_filter]
  unfold plannedStages
  simp only [List.flatMap_append, tier, flatMap_create create, List.flatMap_cons, List.flatMap_nil,
    List.append_nil, List.append_assoc]

end

/-- The stages of a registry carry out the plan of its configuration. -/
theorem flatMap_plan_stages (c : Config) (d d₀ : StateDocument)
    (handle? : Component → Option Handle) :
    (plannedStages (.materialize c d₀ handle?)).flatMap (Stage.plan c d) = upPlan c d := by
  rw [flatMap_stages fun k => (rfl : (Stage.create k).plan c d = _)]
  simp only [upPlan, List.append_assoc]
  rfl

/-! ## The run of the stages -/

/-- All components in the order in which they are created. -/
def provisioningOrder : List Component :=
  ResourceKind.all.map Component.resource ++ NodeGroupKind.all.map Component.nodeGroup
  ++ tierComponents .cluster ++ tierComponents .workload

theorem mem_provisioningOrder (k : Component) : k ∈ provisioningOrder := by
  cases k with
  | resource k => simp [provisioningOrder, ResourceKind.mem_all]
  | nodeGroup k => simp [provisioningOrder, NodeGroupKind.mem_all]
  | addOn k =>
    cases tier : k.tier <;> simp [provisioningOrder, tierComponents, AddOnKind.mem_all, tier]

theorem nodup_provisioningOrder : provisioningOrder.Nodup := by decide

theorem filterMap_component?_create {κ : Type} (f : κ → Component) (ks : List κ) :
    (ks.map fun k => Stage.create (f k)).filterMap Stage.component? = ks.map f := by
  rw [List.filterMap_map, ← List.filterMap_eq_map]
  rfl

theorem components_stages (c : Config) (d₀ : StateDocument) (handle? : Component → Option Handle) :
    (plannedStages (.materialize c d₀ handle?)).filterMap Stage.component? =
      ResourceKind.all.map Component.resource ++ NodeGroupKind.all.map Component.nodeGroup
      ++ (tierComponents .cluster).filter c.wants ++ (tierComponents .workload).filter c.wants := by
  have tier (t : Tier) : (((Registry.materialize c d₀ handle?).enabledIn t).map fun e =>
      Stage.create (.addOn e.kind)).filterMap Stage.component? =
        (tierComponents t).filter c.wants := by
    rw [filterMap_component?_create fun e : AddOnEntry => .addOn e.kind, enabledIn_materialize]
  unfold plannedStages
  simp only [List.filterMap_append, filterMap_component?_create, tier, List.filterMap_cons,
    List.filterMap_nil, Stage.component?, List.append_nil]

/-- No component is created in two stages. -/
theorem nodup_components (c : Config) (d₀ : StateDocument) (handle? : Component → Option Handle) :
    ((plannedStages (.materialize c d₀ handle?)).filterMap Stage.component?).Nodup := by
  rw [components_stages]
  refine List.Nodup.sublist ?_ nodup_provisioningOrder
  exact ((List.Sublist.refl _).append List.filter_sublist).append List.filter_sublist

theorem Opened.nodup_stages {writable : Bool} (opened : Opened h writable s) :
    ((plannedStages s.registry).filterMap Stage.component?).Nodup := by
  obtain ⟨d₀, handle?, made⟩ := opened.materialized
  rw [made]
  exact nodup_components s.config d₀ handle?

theorem reported_runAll (h : Host ω) {sts : List Stage} (planned : .collect ∉ sts)
    (nodup : (sts.filterMap Stage.component?).Nodup) (s : Session ω) :
    ∃ rs es, Reported (sts.filterMap Stage.component?)
      (sts.flatMap (Stage.plan s.config s.document)) s (s.runAll (runStage h) sts) rs es := by
  induction sts generalizing s with
  | nil => exact ⟨[], [], .idle (.of_ok rfl (by simp))⟩
  | cons st sts ih =>
    have first_planned : st ≠ .collect := fun he => planned (he ▸ List.mem_cons_self)
    obtain ⟨rs, es, first⟩ := staged h first_planned s
    have components : (st :: sts).filterMap Stage.component? =
        st.component?.toList ++ sts.filterMap Stage.component? := by
      cases st <;> rfl
    rw [components] at nodup ⊢
    rw [List.flatMap_cons]
    unfold runAll
    cases ran : runStage h st s with
    | mk r t =>
      rw [ran] at first
      cases r with
      | error e => exact ⟨rs, es, first.prolong⟩
      | ok _ =>
        obtain ⟨rs', es', rest⟩ := ih (fun mem => planned (List.mem_cons_of_mem _ mem))
          (List.nodup_append.1 nodup).2.1 t
        -- What the later stages create, this stage has left alone.
        have same : sts.flatMap (Stage.plan t.config t.document) =
            sts.flatMap (Stage.plan s.config s.document) := by
          rw [first.runs.grows.config, List.flatMap_def, List.flatMap_def]
          refine congrArg List.flatten (List.map_congr_left fun q hq => Stage.plan_congr ?_)
          intro k hk
          refine first.isCreated_of_notMem fun mem => ?_
          exact (List.nodup_append.1 nodup).2.2 k mem k (List.mem_filterMap.2 ⟨q, hq, hk⟩) rfl
        rw [same] at rest
        exact ⟨_, _, first.append rest⟩

/-! ## Collecting logs -/

/-- Whether a record belongs to the collection of logs. -/
def IsCollection (r : Record) : Prop :=
  r.heading = SettleReason.logFetch.heading ∨
    ∃ k : Component, r.heading = (.step, s!"fetch_logs {k.label}") ∨
      r.heading = (.step, s!"aggregate {k.label}")

/-- A part of the collection of logs. -/
structure Collected (s t : Session ω) (records : List Record) (events : List Event) : Prop where
  runs : Runs s t records events
  saga : ∀ r ∈ records, r.saga = .up
  collection : ∀ r ∈ records, IsCollection r

theorem Collected.refl (s : Session ω) : Collected s s [] [] := ⟨.refl s, by simp, by simp⟩

theorem Collected.trans {u : Session ω} {rs' : List Record} {es' : List Event}
    (h₁ : Collected s t rs es) (h₂ : Collected t u rs' es') :
    Collected s u (rs ++ rs') (es ++ es') where
  runs := h₁.runs.trans h₂.runs
  saga := fun r hr => (List.mem_append.1 hr).elim (h₁.saga r) (h₂.saga r)
  collection := fun r hr => (List.mem_append.1 hr).elim (h₁.collection r) (h₂.collection r)

/-- Calls of one kind that were made for one component after the other, each with how it failed. -/
def callsFor (call : Component → Call) (d : StateDocument)
    (outcomes : List (Component × Option ProviderError)) : List Event :=
  outcomes.map fun x => .call (call x.1) d x.2

theorem collected_fetchLogsOf (h : Host ω) (k : Component) (s : Session ω) :
    ∃ rs f, Collected s (s.fetchLogsOf h k).2 rs [.call (.fetchLogs k) s.document f] ∧
      (s.fetchLogsOf h k).2.document = s.document ∧ (s.fetchLogsOf h k).1 = f.isNone := by
  have runs := runs_attempt (s := s) .up s!"fetch_logs {k.label}" (perform h (.fetchLogs k)) rfl
    (fun _ => rfl) (grows_perform h (.fetchLogs k) _) rfl
  have same := document_attempt .up s!"fetch_logs {k.label}" (perform h (.fetchLogs k)) s
  refine ⟨_, _, ⟨runs, by simp, ?_⟩, same, ?_⟩
  · intro r hr
    rw [List.mem_singleton.1 hr]
    exact .inr ⟨k, .inl (Record.heading_ofStep ..)⟩
  · unfold fetchLogsOf
    dsimp only
    cases (s.attempt .up s!"fetch_logs {k.label}" (perform h (.fetchLogs k))).1 <;> rfl

/-- Fetching logs goes through all components, whatever fails. -/
theorem collected_fetchLogs (h : Host ω) (ks : List Component) (s : Session ω) :
    ∃ rs fetches, Collected s (s.fetchLogs h ks).2 rs (callsFor .fetchLogs s.document fetches) ∧
      fetches.map (·.1) = ks ∧ (s.fetchLogs h ks).2.document = s.document ∧
      (s.fetchLogs h ks).1 = fetches.any fun x => x.2.isNone := by
  induction ks generalizing s with
  | nil => exact ⟨[], [], .refl s, rfl, rfl, rfl⟩
  | cons k ks ih =>
    obtain ⟨_, f, first, same, fetched⟩ := collected_fetchLogsOf h k s
    obtain ⟨_, fetches, rest, listed, same', fetched'⟩ := ih (s.fetchLogsOf h k).2
    rw [same] at rest same'
    refine ⟨_, (k, f) :: fetches, first.trans rest, by rw [List.map_cons, listed], same', ?_⟩
    rw [List.any_cons, ← fetched, ← fetched']
    rfl

theorem collected_aggregateOf (h : Host ω) (k : Component) (s : Session ω) :
    ∃ rs f, Collected s (s.aggregateOf h k) rs [.call (.aggregate k) s.document f] ∧
      (s.aggregateOf h k).document = s.document := by
  have runs := runs_attempt (s := s) .up s!"aggregate {k.label}" (perform h (.aggregate k)) rfl
    (fun _ => rfl) (grows_perform h (.aggregate k) _) rfl
  have same := document_attempt .up s!"aggregate {k.label}" (perform h (.aggregate k)) s
  refine ⟨_, _, ⟨runs, by simp, ?_⟩, same⟩
  intro r hr
  rw [List.mem_singleton.1 hr]
  exact .inr ⟨k, .inr (Record.heading_ofStep ..)⟩

/-- So does aggregating. -/
theorem collected_aggregate (h : Host ω) (ks : List Component) (s : Session ω) :
    ∃ rs aggregates, Collected s (ks.foldl (aggregateOf h) s) rs
        (callsFor .aggregate s.document aggregates) ∧
      aggregates.map (·.1) = ks := by
  induction ks generalizing s with
  | nil => exact ⟨[], [], .refl s, rfl⟩
  | cons k ks ih =>
    obtain ⟨_, f, first, same⟩ := collected_aggregateOf h k s
    obtain ⟨_, aggregates, rest, listed⟩ := ih (s.aggregateOf h k)
    rw [same] at rest
    exact ⟨_, (k, f) :: aggregates, first.trans rest, by rw [List.map_cons, listed]⟩

/-- **The collection of logs** is a pause and then its calls, if there is something to collect
from. -/
theorem collected (h : Host ω) (s : Session ω) :
    ∃ rs fetches aggregates, Collected s (s.collect h) rs
        (callsFor .fetchLogs s.document fetches ++ callsFor .aggregate s.document aggregates) ∧
      fetches.map (·.1) = (s.logTargets.filter fun x => x.2.fetchesLogs).map (·.1) ∧
      aggregates.map (·.1) = (if fetches.any fun x => x.2.isNone then s.aggregators else []) ∧
      ((∃ r ∈ rs, r.heading = SettleReason.logFetch.heading) ↔ s.logTargets ≠ []) := by
  unfold collect
  dsimp only
  cases targets : s.logTargets with
  | nil => exact ⟨_, [], [], .refl s, rfl, rfl, by simp⟩
  | cons x xs =>
    have pause : Collected s (s.settle h .up .logFetch).2 _ _ :=
      ⟨runs_settle h .up .logFetch s, by simp, by simp [IsCollection, SettleReason.heading]⟩
    obtain ⟨rs, fetches, fetch, listed, same, fetched⟩ := collected_fetchLogs h
      (((x :: xs).filter fun t => t.2.fetchesLogs).map (·.1)) (s.settle h .up .logFetch).2
    rw [document_settle] at fetch same
    have both := pause.trans fetch
    have paused : ∀ rs', ∃ r ∈ Record.closed .up .settle SettleReason.logFetch.text
        (statusOf (s.settle h .up .logFetch).1) none :: rs',
        r.heading = SettleReason.logFetch.heading := fun _ => ⟨_, List.mem_cons_self, rfl⟩
    rw [List.isEmpty_cons, if_neg Bool.false_ne_true]
    generalize (s.settle h .up .logFetch).2.fetchLogs h _ = y at both same fetched ⊢
    obtain ⟨fetched', u⟩ := y
    cases fetched' with
    | false =>
      refine ⟨_, fetches, [], both.trans (.refl u), listed, ?_,
        iff_of_true (paused _) (List.cons_ne_nil x xs)⟩
      rw [← fetched]
      rfl
    | true =>
      obtain ⟨rs', aggregates, aggregate, listed'⟩ := collected_aggregate h u.aggregators u
      have still : u.aggregators = s.aggregators := by
        simp only [aggregators, show u.registry = s.registry from both.runs.grows.registry,
          show u.document = s.document from same]
      rw [show u.document = s.document from same] at aggregate
      refine ⟨_, fetches, aggregates, both.trans aggregate, listed, ?_,
        iff_of_true (paused _) (List.cons_ne_nil x xs)⟩
      rw [← fetched, if_pos rfl, listed', still]

/-! ## The whole run -/

theorem runAll_append {α ε : Type} (run : α → Action ω ε Unit) (l l' : List α) (s : Session ω) :
    s.runAll run (l ++ l') =
      match s.runAll run l with
      | (.ok _, t) => t.runAll run l'
      | (.error e, t) => (.error e, t) := by
  induction l generalizing s with
  | nil => rfl
  | cons a l ih =>
    rw [List.cons_append, runAll, runAll]
    cases run a s with
    | mk r t =>
      cases r with
      | ok _ => exact ih t
      | error e => rfl

/-- The stages before the collection of logs follow the plan. -/
theorem reported_plan {writable : Bool} (opened : Opened h writable s) :
    ∃ rs es, Reported ((plannedStages s.registry).filterMap Stage.component?)
      (upPlan s.config s.document) s (s.runPlanned h) rs es := by
  obtain ⟨d₀, handle?, made⟩ := opened.materialized
  have planned : .collect ∉ plannedStages s.registry := by simp [plannedStages]
  have plan : (plannedStages s.registry).flatMap (Stage.plan s.config s.document) =
      upPlan s.config s.document := by
    rw [made]
    exact flatMap_plan_stages s.config s.document d₀ handle?
  exact plan ▸ reported_runAll h planned opened.nodup_stages s

/-- What the stages of a session do: `ran` is what was carried out of the plan, as far as `y`, and
`logs` are the records of the collection of logs. -/
structure Provisioned (s : Session ω) (y x : Except SagaError Unit × Session ω)
    (ran logs : List Record) (before events : List Event) : Prop where
  planned : Grows s y.2 ran before
  runs : Runs s x.2 (ran ++ logs) events
  result : x.1 = y.1
  saga : ∀ r ∈ ran ++ logs, r.saga = .up
  along : Along ran (upPlan s.config s.document) y.1
  collection : ∀ r ∈ logs, IsCollection r
  complete : logs ≠ [] → x.1 = .ok ()

theorem provisioned {writable : Bool} (opened : Opened h writable s) :
    ∃ ran logs before es, Provisioned s (s.runPlanned h) (s.provision h) ran logs before es := by
  obtain ⟨ran, es, report⟩ := reported_plan (h := h) opened
  unfold provision
  rw [stages_eq, runAll_append]
  unfold runPlanned at report ⊢
  generalize s.runAll (runStage h) (plannedStages s.registry) = y at report ⊢
  obtain ⟨r, t⟩ := y
  cases r with
  | error e =>
    refine ⟨ran, [], es, es, report.runs.grows, ?_, rfl, ?_, report.along, by simp, by simp⟩
    · simpa using report.runs
    · simpa using report.saga
  | ok _ =>
    obtain ⟨logs, _, _, collected, -⟩ := collected h t
    refine ⟨ran, logs, es, _, report.runs.grows, report.runs.trans collected.runs, rfl, ?_,
      report.along, collected.collection, fun _ => rfl⟩
    exact fun r hr => (List.mem_append.1 hr).elim (report.saga r) (collected.saga r)

/-- What a compensation does: a pause of the up saga and a teardown. -/
theorem runs_compensate (h : Host ω) (s : Session ω) :
    ∃ rs es, Runs s (s.compensate h) rs es ∧
      ∀ r ∈ rs, r.saga = .up → r.heading = SettleReason.compensationCooldown.heading := by
  have pause := runs_settle h .up .compensationCooldown s
  obtain ⟨rs, es, down⟩ := runsDown_down h (s.settle h .up .compensationCooldown).2
  refine ⟨_, _, pause.trans down.runs, ?_⟩
  intro r hr saga
  rcases List.mem_append.1 hr with hr | hr
  · rw [List.mem_singleton.1 hr]
    rfl
  · rw [down.saga r hr] at saga
    cases saga

/-- What a run of the up saga does that is not refused, where the stages before the collection of
logs give `y`. -/
structure BroughtUp (s : Session ω) (y x : Except SagaError Unit × Session ω)
    (ran logs : List Record) (f : Option ProviderError) (rest : List Record)
    (before events : List Event) : Prop where
  planned : Grows s y.2 ran before
  runs : Runs s x.2 (ran ++ logs ++ [.ofStep .up "upload artifacts" f] ++ rest) events
  saga : ∀ r ∈ ran ++ logs, r.saga = .up
  along : Along ran (upPlan s.config s.document) x.1
  whole : y.1 = .ok () → ran.map Record.heading = upPlan s.config s.document ∧ ∀ r ∈ ran, r.Passed
  collection : ∀ r ∈ logs, IsCollection r
  complete : logs ≠ [] → ran.map Record.heading = upPlan s.config s.document ∧ ∀ r ∈ ran, r.Passed
  rest : ∀ r ∈ rest, r.saga = .up → r.heading = SettleReason.compensationCooldown.heading

/-- **A provisioning follows its plan**, whatever fails, whatever cannot be driven and whenever the
stop signal fires. -/
theorem broughtUp (opened : Opened h true s) (notUp : s.document.up = false) :
    ∃ ran logs f rest before es,
      BroughtUp s (s.runPlanned h) (s.up h) ran logs f rest before es := by
  obtain ⟨ran, logs, before, es, provisioned⟩ := provisioned opened
  unfold up
  rw [opened.allow]
  simp only [notUp, Bool.false_eq_true, if_false]
  generalize s.provision h = x at provisioned ⊢
  generalize s.runPlanned h = y at provisioned ⊢
  obtain ⟨r, t⟩ := x
  obtain ⟨f, upload⟩ := runs_uploadArtifacts h .up t
  have runs := provisioned.runs.trans upload
  have result : r = y.1 := provisioned.result
  have along := result ▸ provisioned.along
  have complete : logs ≠ [] → ran.map Record.heading = upPlan s.config s.document ∧
      ∀ r ∈ ran, r.Passed := fun some => along.whole (provisioned.complete some)
  have whole (ok : y.1 = .ok ()) := along.whole (result.trans ok)
  cases r with
  | ok _ =>
    obtain ⟨headings, passed⟩ := along.whole rfl
    have mark : Runs (t.uploadArtifacts h .up)
        ((t.uploadArtifacts h .up).commit h fun now d => d.markUp now).2 [] _ :=
      .of_move (grows_commit h (fun now d => d.markUp now) _) (.markUp rfl)
    exact ⟨ran, logs, f, [], before, _, provisioned.planned, runs.trans mark, provisioned.saga,
      .of_passed headings passed fun _ failed => accounts_commit failed ran,
      whole, provisioned.collection, complete, by simp⟩
  | error e =>
    have after : ∃ rest es', Runs (t.uploadArtifacts h .up)
        (if (t.uploadArtifacts h .up).config.onFailure.delete then
          (t.uploadArtifacts h .up).compensate h else t.uploadArtifacts h .up) rest es' ∧
        ∀ r ∈ rest, r.saga = .up → r.heading = SettleReason.compensationCooldown.heading := by
      cases (t.uploadArtifacts h .up).config.onFailure.delete with
      | false => exact ⟨[], [], .refl _, by simp⟩
      | true => exact runs_compensate h (t.uploadArtifacts h .up)
    obtain ⟨rest, es', compensation, cooldown⟩ := after
    exact ⟨ran, logs, f, rest, before, _, provisioned.planned, runs.trans compensation,
      provisioned.saga, along, whole, provisioned.collection, complete, cooldown⟩

/-- A bench on which the network cannot be created. -/
def narrowBench : Bench where
  now := "noon"
  rehearsal := Rehearsal.failOn {} "create network" "no address left"

end Testbed.Session
