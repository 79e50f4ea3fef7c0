import Testbed.Proofs.Completeness

/-!
# What a successful up saga has done

`Stage.Carried` says what a stage adds to the history if it succeeds, by the configuration and the
flags with which the saga began, and `CarriedOut` puts the stages together. The milestones among
these events are known in advance: `upMilestones` lists them.

**Theorem (`up_succeeds`).** If the up saga succeeds, all its stages were carried out in their
order. Everything that is wanted is recorded as created, in memory and in the store, and of the rest
just what was so before. The milestones were reached one after the other: the creations of what was
lacking, the three health checks, the setting up of GPUs and the hooks.
-/

namespace Testbed

/-! ## Milestones -/

/-- What a provisioning comes to on its way. -/
inductive Milestone
  /-- A creation, and how it failed. -/
  | create (k : Component) (failure : Option ProviderError)
  /-- A health check that passed. -/
  | healthy
  /-- The command of a hook has run. -/
  | command
  /-- The installation of the GPU driver, and how it failed. -/
  | driver (failure : Option ProviderError)
  /-- The test of the GPUs, and how it failed. -/
  | smokeTest (failure : Option ProviderError)
  deriving DecidableEq

/-- The milestone that an event is. -/
def Event.milestone? : Event → Option Milestone
  | .call (.create k) _ f => some (.create k f)
  | .call .checkHealth _ none => some .healthy
  | .call (.run _ _) _ _ => some .command
  | .call .installDriver _ f => some (.driver f)
  | .call .smokeTest _ f => some (.smokeTest f)
  | _ => none

namespace Session

variable {ω : Type} {h : Host ω} {s t : Session ω} {c : Config} {d d' : StateDocument}
  {es : List Event}

/-- The milestones of creating those of these components that are wanted and not yet recorded. -/
def creationMilestones (c : Config) (d : StateDocument) (ks : List Component) : List Milestone :=
  (outstanding c d ks).map fun k => .create k none

/-- The milestone of a hook, if it is configured. -/
def hookMilestone (c : Config) (p : HookPoint) : List Milestone :=
  if (p.command c.hooks).isSome then [.command] else []

/-- The milestones for GPUs, if a node group needs them. -/
def gpuMilestones (c : Config) : List Milestone :=
  if c.needsGpuDrivers then [.driver none, .smokeTest none] else []

/-- The milestones of a provisioning that succeeds. -/
def upMilestones (c : Config) (d : StateDocument) : List Milestone :=
  creationMilestones c d (ResourceKind.all.map .resource)
  ++ [.healthy]
  ++ hookMilestone c .afterCreateCluster
  ++ creationMilestones c d (NodeGroupKind.all.map .nodeGroup)
  ++ gpuMilestones c
  ++ creationMilestones c d (tierComponents .cluster)
  ++ [.healthy]
  ++ creationMilestones c d (tierComponents .workload)
  ++ [.healthy]
  ++ hookMilestone c .afterCreateAddOns

/-! ## What stages add to the history -/

/-- What a stage that succeeds adds to the history. A component is created and recorded, unless it
is not wanted or already exists; a health check may be tried again, and the last try passes; a hook
runs its command, which may fail; collecting logs makes no calls but those that belong to it. -/
def Stage.Carried (c : Config) (d : StateDocument) : Stage → List Event → Prop
  | .create k, es =>
    if c.wants k && !d.isCreated k then ∃ x x', es = [.call (.create k) x none, .save x' none]
    else es = []
  | .settle _, es => es = []
  | .health _, es => ∃ (x : StateDocument) (tries : List ProviderError),
      es = (tries.map fun e => .call .checkHealth x (some e)) ++ [.call .checkHealth x none]
  | .hook p, es =>
    match p.command c.hooks with
    | none => es = []
    | some template => ∃ x f,
        es = [.call (.run (Text.expand template (Hook.refs c x)) (c.hooks.timeout * 1000)) x f]
  | .gpu, es =>
    if c.needsGpuDrivers then
      ∃ x x', es = [.call .installDriver x none, .call .smokeTest x' none]
    else es = []
  | .upload, es => ∃ x f, es = [.call .uploadArtifacts x f]
  | .collect, es => ∀ e ∈ es, ∃ k x f, e = .call (.fetchLogs k) x f ∨ e = .call (.aggregate k) x f

/-- What these stages add if they all succeed. -/
def CarriedOut (c : Config) (d : StateDocument) : List Stage → List Event → Prop
  | [], es => es = []
  | st :: sts, es =>
    ∃ here rest, es = here ++ rest ∧ st.Carried c d here ∧ CarriedOut c d sts rest

/-- What a stage adds depends on the flag of what it creates and on no other. -/
theorem Stage.carried_congr {st : Stage}
    (same : ∀ k ∈ st.component?, d'.isCreated k = d.isCreated k) :
    st.Carried c d' es ↔ st.Carried c d es := by
  cases st with
  | create k => rw [Carried, Carried, same k rfl]
  | _ => rfl

theorem carriedOut_congr {sts : List Stage}
    (same : ∀ k ∈ sts.filterMap Stage.component?, d'.isCreated k = d.isCreated k) :
    CarriedOut c d' sts es ↔ CarriedOut c d sts es := by
  induction sts generalizing es with
  | nil => rfl
  | cons st sts ih =>
    have here : ∀ k ∈ st.component?, d'.isCreated k = d.isCreated k := fun k hk =>
      same k (List.mem_filterMap.2 ⟨st, List.mem_cons_self, hk⟩)
    have rest : ∀ k ∈ sts.filterMap Stage.component?, d'.isCreated k = d.isCreated k := by
      intro k hk
      obtain ⟨st', mem, hk⟩ := List.mem_filterMap.1 hk
      exact same k (List.mem_filterMap.2 ⟨st', List.mem_cons_of_mem _ mem, hk⟩)
    simp only [CarriedOut, Stage.carried_congr here, ih rest]

theorem carriedOut_append {l l' : List Stage} :
    CarriedOut c d (l ++ l') es ↔
      ∃ first rest, es = first ++ rest ∧ CarriedOut c d l first ∧ CarriedOut c d l' rest := by
  induction l generalizing es with
  | nil =>
    constructor
    · exact fun out => ⟨[], es, rfl, rfl, out⟩
    · rintro ⟨_, rest, rfl, rfl, out⟩
      exact out
  | cons st l ih =>
    constructor
    · rintro ⟨here, others, rfl, carried, out⟩
      obtain ⟨first, rest, rfl, out, out'⟩ := ih.1 out
      exact ⟨here ++ first, rest, (List.append_assoc ..).symm, ⟨here, first, rfl, carried, out⟩,
        out'⟩
    · rintro ⟨_, rest, rfl, ⟨here, first, rfl, carried, out⟩, out'⟩
      exact ⟨here, first ++ rest, List.append_assoc .., carried, ih.2 ⟨first, rest, rfl, out, out'⟩⟩

/-- The milestones of a stage that is carried out. -/
def Stage.milestones (c : Config) (d : StateDocument) : Stage → List Milestone
  | .create k => if c.wants k && !d.isCreated k then [.create k none] else []
  | .health _ => [.healthy]
  | .hook p => hookMilestone c p
  | .gpu => gpuMilestones c
  | .settle _ | .upload | .collect => []

theorem Stage.Carried.milestones {st : Stage} (carried : st.Carried c d es) :
    es.filterMap Event.milestone? = st.milestones c d := by
  cases st with
  | create k =>
    simp only [Carried, Stage.milestones] at carried ⊢
    split at carried
    · next todo =>
      obtain ⟨x, x', rfl⟩ := carried
      rw [if_pos todo]
      rfl
    · next todo => rw [carried, if_neg todo]; rfl
  | settle reason =>
    obtain rfl : es = [] := carried
    rfl
  | health gate =>
    obtain ⟨x, tries, rfl⟩ := carried
    have failed : (tries.map fun e => Event.call .checkHealth x (some e)).filterMap
        Event.milestone? = [] := by
      simp [List.filterMap_map, Function.comp_def, Event.milestone?]
    rw [List.filterMap_append, failed]
    rfl
  | hook p =>
    simp only [Carried, Stage.milestones, hookMilestone] at carried ⊢
    split at carried
    · next absent => rw [carried, absent]; rfl
    · next template command =>
      obtain ⟨x, f, rfl⟩ := carried
      rw [command]
      rfl
  | gpu =>
    simp only [Carried, Stage.milestones, gpuMilestones] at carried ⊢
    split at carried
    · next needed =>
      obtain ⟨x, x', rfl⟩ := carried
      rw [if_pos needed]
      rfl
    · next needed => rw [carried, if_neg needed]; rfl
  | upload =>
    obtain ⟨x, f, rfl⟩ := carried
    rfl
  | collect =>
    refine List.filterMap_eq_nil_iff.2 fun e he => ?_
    obtain ⟨k, x, f, rfl | rfl⟩ := carried e he <;> rfl

theorem CarriedOut.milestones {sts : List Stage} (out : CarriedOut c d sts es) :
    es.filterMap Event.milestone? = sts.flatMap (Stage.milestones c d) := by
  induction sts generalizing es with
  | nil =>
    obtain rfl : es = [] := out
    rfl
  | cons st sts ih =>
    obtain ⟨here, rest, rfl, carried, out⟩ := out
    rw [List.filterMap_append, carried.milestones, ih out, List.flatMap_cons]

/-- The stages of a registry come to the milestones of its configuration. -/
theorem flatMap_milestones_stages (c : Config) (d d₀ : StateDocument)
    (handle? : Component → Option Handle) :
    (stages (.materialize c d₀ handle?)).flatMap (Stage.milestones c d) = upMilestones c d := by
  rw [stages_eq, List.flatMap_append,
    flatMap_stages fun k => (rfl : (Stage.create k).milestones c d = _)]
  simp only [upMilestones, creationMilestones, Stage.milestones, List.flatMap_cons,
    List.flatMap_nil, List.append_nil, List.nil_append, List.append_assoc]

/-! ## Stages that succeed -/

theorem saved_commit {change : String → StateDocument → StateDocument}
    (ok : (s.commit h change).1 = .ok ()) :
    (s.commit h change).2.history = s.history ++ [.save (s.commit h change).2.document none] := by
  have grown := (grows_update h change s).history
  unfold commit at ok ⊢
  generalize s.update h change = x at ok grown ⊢
  obtain ⟨r, t⟩ := x
  cases r with
  | ok _ => exact grown
  | error e => cases ok

theorem carried_create {k : Component} (ok : (s.create h k).1 = .ok ()) :
    ∃ es, (s.create h k).2.history = s.history ++ es ∧
      (Stage.create k).Carried s.config s.document es := by
  simp only [Stage.Carried]
  rcases passed_create ok with ⟨idle, same⟩ | ⟨todo, y, t, worked, ends⟩
  · rw [same, idle]
    exact ⟨[], (List.append_nil _).symm, rfl⟩
  · have made := grows_perform h (.create k) (begun h s!"create {k.label}" s)
    rw [worked] at made
    rw [ends] at ok ⊢
    rw [saved_commit ok, (made.of_begun .succeeded none).history, List.append_assoc, todo]
    exact ⟨_, rfl, _, _, rfl⟩

/-- A step of one call after which there is nothing to commit. -/
theorem carried_call {step : String} {call : Call}
    (ok : (s.forward h step (perform h call) keep).1 = .ok ()) :
    (s.forward h step (perform h call) keep).2.history =
      s.history ++ [.call call s.document none] := by
  obtain ⟨y, t, worked, -, ends⟩ := passed_forward ok
  have made := grows_perform h call (begun h step s)
  rw [worked] at made
  rw [ends]
  exact (made.of_begun .succeeded none).history

theorem carried_health (gate : HealthGate)
    (ok : (s.forward h gate.step (awaitHealth h) keep).1 = .ok ()) :
    ∃ es, (s.forward h gate.step (awaitHealth h) keep).2.history = s.history ++ es ∧
      (Stage.health gate).Carried s.config s.document es := by
  obtain ⟨y, t, worked, -, ends⟩ := passed_forward ok
  have asked := asked_awaitHealth h (begun h gate.step s)
  rw [worked] at asked
  obtain ⟨tries, -, grows⟩ := asked.tried
  rw [ends]
  exact ⟨_, (grows.of_begun .succeeded none).history, s.document, tries, rfl⟩

theorem carried_hook {p : HookPoint} (ok : (s.hook h p).1 = .ok ()) :
    ∃ es, (s.hook h p).2.history = s.history ++ es ∧
      (Stage.hook p).Carried s.config s.document es := by
  simp only [Stage.Carried]
  unfold hook at ok ⊢
  cases command : p.command s.config.hooks with
  | none => exact ⟨[], (List.append_nil _).symm, rfl⟩
  | some template =>
    rw [command] at ok
    cases output : p.output s.config.hooks with
    | none =>
      rw [output] at ok
      cases ok
    | some path =>
      rw [output] at ok
      dsimp only at ok ⊢
      obtain ⟨r, t, worked, -, ends⟩ := passed_forward ok
      have made := grows_perform h (.run (Text.expand template (Hook.refs s.config s.document))
        (s.config.hooks.timeout * 1000)) (begun h s!"hook {p.name}" s)
      have ran : (perform h (.run (Text.expand template (Hook.refs s.config s.document))
        (s.config.hooks.timeout * 1000)) (begun h s!"hook {p.name}" s)).2 = t :=
          congrArg Prod.snd worked
      rw [ran] at made
      rw [ends]
      exact ⟨_, (made.of_begun .succeeded none).history, _, _, rfl⟩

theorem carried_setUpGpu (ok : (s.setUpGpu h).1 = .ok ()) :
    ∃ es, (s.setUpGpu h).2.history = s.history ++ es ∧
      Stage.gpu.Carried s.config s.document es := by
  simp only [Stage.Carried]
  unfold setUpGpu at ok ⊢
  cases needed : s.config.needsGpuDrivers with
  | false => exact ⟨[], (List.append_nil _).symm, rfl⟩
  | true =>
    cases available : h.provider.hasGpu s.world with
    | false =>
      rw [needed, available] at ok
      cases ok
    | true =>
      simp only [needed, available, Bool.not_true, Bool.false_eq_true, if_false, if_true] at ok ⊢
      have install := @carried_call ω h s "install gpu driver" .installDriver
      generalize s.forward h "install gpu driver" (perform h .installDriver) keep = x
        at ok install ⊢
      obtain ⟨r, t⟩ := x
      cases r with
      | error e => cases ok
      | ok _ =>
        refine ⟨_, ?_, s.document, t.document, rfl⟩
        rw [carried_call ok, show t.history = _ from install rfl, List.append_assoc]
        rfl

theorem carried_collect (h : Host ω) (s : Session ω) :
    ∃ es, (s.collect h).history = s.history ++ es ∧
      Stage.collect.Carried s.config s.document es := by
  have step (t : Session ω) (a : Act) (allowed : collecting.Allows t.stop a) :
      ∀ e ∈ eventsOf h t a, ∃ k x f,
        e = Event.call (.fetchLogs k) x f ∨ e = Event.call (.aggregate k) x f := by
    cases a with
    | call call =>
      intro e he
      rw [List.mem_singleton.1 he]
      obtain ⟨k, rfl | rfl⟩ := allowed
      · exact ⟨k, _, _, .inl rfl⟩
      · exact ⟨k, _, _, .inr rfl⟩
    | save change => exact allowed.elim
    | _ => simp [eventsOf]
  exact ((does_collect h s).invariant (fun _ => True) _ (fun t a _ allowed =>
    ⟨trivial, step t a allowed⟩) trivial).2

/-- **A stage that succeeds has been carried out.** -/
theorem carried_runStage {st : Stage} (ok : (runStage h st s).1 = .ok ()) :
    ∃ es, (runStage h st s).2.history = s.history ++ es ∧ st.Carried s.config s.document es := by
  cases st with
  | create k => exact carried_create ok
  | settle reason =>
    have grown := (grows_settle h .up reason s).history
    rw [runStage, settleStage]
    generalize s.settle h .up reason = x at grown ⊢
    obtain ⟨r, t⟩ := x
    cases r with
    | elapsed => exact ⟨[], grown, rfl⟩
    | stopped o => exact ⟨[], grown, rfl⟩
  | health gate => exact carried_health gate ok
  | hook p => exact carried_hook ok
  | gpu => exact carried_setUpGpu ok
  | upload =>
    obtain ⟨f, upload⟩ := runs_uploadArtifacts h .up s
    exact ⟨_, upload.grows.history, _, _, rfl⟩
  | collect => exact carried_collect h s

/-- **So have stages that all succeed.** What they add is determined by the flags with which the
first of them began, because no two stages create the same component. -/
theorem carriedOut_runAll {sts : List Stage} (planned : .collect ∉ sts)
    (nodup : (sts.filterMap Stage.component?).Nodup)
    (ok : (s.runAll (runStage h) sts).1 = .ok ()) :
    ∃ es, (s.runAll (runStage h) sts).2.history = s.history ++ es ∧
      CarriedOut s.config s.document sts es := by
  induction sts generalizing s with
  | nil => exact ⟨[], (List.append_nil _).symm, rfl⟩
  | cons st sts ih =>
    obtain ⟨rs, _, report⟩ := staged h (fun he => planned (he ▸ List.mem_cons_self)) s
    have carried := @carried_runStage ω h s st
    have components : (st :: sts).filterMap Stage.component? =
        st.component?.toList ++ sts.filterMap Stage.component? := by
      cases st <;> rfl
    rw [components] at nodup
    unfold runAll at ok ⊢
    generalize runStage h st s = x at report carried ok ⊢
    obtain ⟨r, t⟩ := x
    cases r with
    | error e => cases ok
    | ok _ =>
      obtain ⟨here, grown, carried⟩ := carried rfl
      obtain ⟨rest, grown', out⟩ := ih (fun mem => planned (List.mem_cons_of_mem _ mem))
        (List.nodup_append.1 nodup).2.1 ok
      have same : ∀ k ∈ sts.filterMap Stage.component?,
          t.document.isCreated k = s.document.isCreated k := fun k hk =>
        report.isCreated_of_notMem fun mem => (List.nodup_append.1 nodup).2.2 k mem k hk rfl
      have config : t.config = s.config := report.runs.grows.config
      rw [config] at out
      refine ⟨here ++ rest, ?_, here, rest, rfl, carried, (carriedOut_congr same).1 out⟩
      exact grown'.trans (by rw [show t.history = _ from grown, List.append_assoc])

theorem carriedOut_runPlanned (opened : Opened h true s) (ok : (s.runPlanned h).1 = .ok ()) :
    ∃ es, (s.runPlanned h).2.history = s.history ++ es ∧
      CarriedOut s.config s.document (plannedStages s.registry) es :=
  carriedOut_runAll (by simp [plannedStages]) opened.nodup_stages ok

/-! ## The whole run -/

/-- What a run of the up saga has done that succeeded. -/
structure Accomplished (s t : Session ω) : Prop where
  flags : ∀ k, t.document.isCreated k = true ↔
    s.document.isCreated k = true ∨ s.config.wants k = true
  up : t.document.up = true
  saved : lastSaved t.history = some t.document
  carriedOut : ∃ es x f,
    t.eventsSince s = es ++ [.call .uploadArtifacts x f, .save t.document none] ∧
      CarriedOut s.config s.document (stages s.registry) es
  milestones : (t.eventsSince s).filterMap Event.milestone? = upMilestones s.config s.document

theorem flags_runPlanned (opened : Opened h true s) (ok : (s.runPlanned h).1 = .ok ())
    (k : Component) : (s.runPlanned h).2.document.isCreated k = true ↔
      s.document.isCreated k = true ∨ s.config.wants k = true := by
  obtain ⟨_, _, report⟩ := reported_plan (h := h) opened
  constructor
  · have flagged := report.runs.moves.flagged
      (P := fun k => s.document.isCreated k = true ∨ s.config.wants k = true)
      (fun _ => .inl) fun _ => .inr
    exact flagged.1 k
  · rintro (created | wanted)
    · exact isCreated_of_runAll (by simp [plannedStages]) created
    · exact complete_of_planned opened ok k wanted

/-- **What a successful up saga has done.** -/
theorem up_succeeds (opened : Opened h true s) (notUp : s.document.up = false)
    (ok : (s.up h).1 = .ok ()) : Accomplished s (s.up h).2 := by
  have flags := flags_runPlanned (h := h) opened
  have planned := carriedOut_runPlanned (h := h) opened
  rw [up_eq opened.isWritable notUp] at ok ⊢
  generalize s.runPlanned h = x at flags planned ok ⊢
  obtain ⟨r, t⟩ := x
  cases r with
  | error e => cases ok
  | ok _ =>
    dsimp only at ok ⊢
    obtain ⟨es, grown, out⟩ := planned rfl
    obtain ⟨es', grown', collected⟩ := carried_collect h t
    obtain ⟨f, upload⟩ := runs_uploadArtifacts h .up (t.collect h)
    have marked := saved_commit ok
    rw [upload.grows.history, grown', show t.history = _ from grown] at marked
    simp only [List.append_assoc] at marked
    have staged : CarriedOut s.config s.document (stages s.registry) (es ++ es') := by
      rw [stages_eq]
      exact carriedOut_append.2
        ⟨es, es', rfl, out, es', [], (List.append_nil _).symm, collected, rfl⟩
    have since :=
      eventsSince_eq (marked.trans (congrArg (s.history ++ ·) (List.append_assoc ..).symm))
    obtain ⟨d₀, handle?, made⟩ := opened.materialized
    exact {
      flags := fun k => by
        rw [← flags rfl k]
        show ((StateDocument.markUp _ _).touch _).isCreated k = true ↔ _
        rw [StateDocument.isCreated_touch, StateDocument.isCreated_markUp,
          document_uploadArtifacts, document_collect]
      up := rfl
      saved := by
        rw [saved_commit ok, lastSaved_append]
        rfl
      carriedOut := ⟨es ++ es', _, _, since, staged⟩
      milestones := by
        rw [since, List.filterMap_append, staged.milestones, made, flatMap_milestones_stages]
        exact List.append_nil _ }

/-- A configuration with a node group that needs GPUs, an add-on and both hooks. -/
def thoroughConfig : Config :=
  { sampleConfig with
    nodeGroups := { enable := true, groups := [{ name := "gpus", imageFamily := .amazonLinuxGpu }] }
    hooks :=
      { afterCreateCluster := some "list nodes"
        afterCreateClusterOutput := some "nodes.txt"
        afterCreateAddOns := some "list pods"
        afterCreateAddOnsOutput := some "pods.txt" } }

theorem up_succeeds_calmBench :
    let s := firstSession sampleHost thoroughConfig {} Moment.calmBench
    (∀ k, (s.up sampleHost).2.document.isCreated k = true ↔
      s.document.isCreated k = true ∨ thoroughConfig.wants k = true) ∧
      ((s.up sampleHost).2.eventsSince s).filterMap Event.milestone? =
        [.create (.resource .bucket) none, .create (.resource .keyPair) none,
          .create (.resource .clusterRole) none, .create (.resource .network) none,
          .create (.resource .cluster) none, .healthy, .command,
          .create (.nodeGroup .unmanaged) none, .driver none, .smokeTest none, .healthy,
          .create (.addOn .nlbHelloWorld) none, .healthy, .command] := by
  have opened : Opened sampleHost true
      (firstSession sampleHost thoroughConfig {} Moment.calmBench) :=
    ⟨thoroughConfig, {}, Moment.calmBench, _, _, start_of_empty {} (by decide) rfl rfl, rfl, rfl,
      rfl⟩
  have accomplished := up_succeeds opened rfl (ok_of_failureOf (by decide +kernel))
  exact ⟨accomplished.flags, accomplished.milestones.trans (by decide +kernel)⟩

end Session

end Testbed
