import Testbed.Proofs.Causes

/-!
# Stopping the up saga

The stop signal may fire in any call or pause. A stage of provisioning that is under way then runs
to its end and commits what it achieved, and no further stage begins.

**Theorem (`up_heeds_stop`).** Once the signal has fired, the up saga makes no call but uploads, the
collection of logs if all other stages were through, and the deletions of a compensation. If it
fired before they were through, the saga is interrupted by the first that fired it, unless it fails
because of something that is missing or cannot be written.
-/

namespace Testbed.Session

variable {ω : Type} {h : Host ω} {s t : Session ω} {e : SagaError} {o : StopOrigin}

/-! ## How stages end once the signal has fired -/

/-- Why a provisioning may fail with something other than an interruption although the stop signal
has fired by then: the step under way could not be committed, or a component or the GPUs that it
comes to cannot be driven. -/
def Excused (h : Host ω) (t : Session ω) : SagaError → Prop
  | .store f => ∃ d, t.history.getLast? = some (.save d (some f))
  | .hookOutput path f => ∃ body w, h.writeResult path body w = (.error f, t.world)
  | .missingHandle k => t.config.wants k = true ∧ t.registry.drives k = false
  | .missingGpu => t.config.needsGpuDrivers = true ∧ h.provider.hasGpu t.world = false
  | _ => False

/-- A provisioning that fails once the stop signal has fired is interrupted by who fired it first,
or it is excused. -/
def Heeds (h : Host ω) (x : Except SagaError Unit × Session ω) : Prop :=
  ∀ e o, x.1 = .error e → x.2.stop.origin = some o →
    (∃ step, e = .interrupted o step) ∨ Excused h x.2 e

theorem Caused.heeds (caused : Caused h t e) (fired : t.stop.origin = some o) :
    (∃ step, e = .interrupted o step) ∨ Excused h t e := by
  cases caused with
  | step calm => cases calm.symm.trans fired
  | @interrupted o' name fired' =>
    obtain rfl : o' = o := Option.some.inj (fired'.symm.trans fired)
    exact .inl ⟨name, rfl⟩
  | store failed => exact .inr ⟨_, failed⟩
  | hookOutput _ failed => exact .inr ⟨_, _, failed⟩
  | missingHandle wanted undriven => exact .inr ⟨wanted, undriven⟩
  | missingGpu needed unavailable => exact .inr ⟨needed, unavailable⟩

theorem heeds_runAll (h : Host ω) {sts : List Stage} (planned : .collect ∉ sts)
    (valid : s.config.fault? = none) : Heeds h (s.runAll (runStage h) sts) :=
  fun e _ failed => (explained_runAll h planned valid e failed).heeds

/-! ## Passed stages -/

/-- A hook that is passed leaves the stop signal unfired if it was. -/
theorem calm_of_hook (p : HookPoint) (calm : s.stop.origin = none)
    (ok : (s.hook h p).1 = .ok ()) : (s.hook h p).2.stop.origin = none := by
  unfold hook at ok ⊢
  cases command : p.command s.config.hooks with
  | none => exact calm
  | some template =>
    rw [command] at ok
    cases output : p.output s.config.hooks with
    | none =>
      rw [output] at ok
      cases ok
    | some path =>
      rw [output] at ok
      exact calm_of_forward (fun _ _ => rfl) ok

/-- **All stages before the collection of logs are passed only if the stop signal has not fired by
their end**: the last of them is a health check, with perhaps a hook after it. -/
theorem calm_of_planned {r : Registry}
    (ok : (s.runAll (runStage h) (plannedStages r)).1 = .ok ()) :
    (s.runAll (runStage h) (plannedStages r)).2.stop.origin = none := by
  obtain ⟨front, split⟩ : ∃ front, plannedStages r =
      front ++ [.health .workloads, .hook .afterCreateAddOns] := ⟨_, rfl⟩
  rw [split, runAll_append] at ok ⊢
  generalize s.runAll (runStage h) front = x at ok ⊢
  obtain ⟨q, t⟩ := x
  cases q with
  | error e => cases ok
  | ok _ =>
    have check (ok : (t.forward h HealthGate.workloads.step (awaitHealth h) keep).1 = .ok ()) :=
      calm_of_forward (fun _ _ => rfl) ok
    simp only [runAll, runStage] at ok ⊢
    generalize t.forward h HealthGate.workloads.step (awaitHealth h) keep = x at ok check ⊢
    obtain ⟨q, u⟩ := x
    cases q with
    | error e => cases ok
    | ok _ =>
      have hooked := calm_of_hook (h := h) .afterCreateAddOns (check rfl)
      dsimp only at ok hooked ⊢
      generalize u.hook h .afterCreateAddOns = x at ok hooked ⊢
      obtain ⟨q, v⟩ := x
      cases q with
      | error e => cases ok
      | ok _ => exact hooked rfl

/-! ## Interrupted records -/

/-- From `s` to `t` no record was added of a step that was interrupted. -/
def Undisturbed (s t : Session ω) : Prop :=
  ∃ rs, t.journal.records = s.journal.records ++ rs ∧ ∀ r ∈ rs, r.status ≠ .interrupted

theorem Undisturbed.of_journal (same : t.journal = s.journal) : Undisturbed s t :=
  ⟨[], by rw [same, List.append_nil], by simp⟩

theorem Undisturbed.trans {u : Session ω} (first : Undisturbed s t) (rest : Undisturbed t u) :
    Undisturbed s u := by
  obtain ⟨rs, grown, none⟩ := first
  obtain ⟨rs', grown', none'⟩ := rest
  exact ⟨rs ++ rs', by rw [grown', grown, List.append_assoc],
    List.forall_mem_append.2 ⟨none, none'⟩⟩

theorem undisturbed_settle (h : Host ω) (saga : Saga) (reason : SettleReason) (s : Session ω) :
    Undisturbed s (s.settle h saga reason).2 := by
  refine ⟨_, (grows_settle h saga reason s).journal, fun r hr => ?_⟩
  rw [List.mem_singleton.1 hr]
  cases (s.settle h saga reason).1 <;> simp [Record.closed, statusOf]

theorem undisturbed_attempt {saga : Saga} {step : String} {work : Action ω ProviderError Unit}
    {es : List Event}
    (g : Grows (s.begin saga .step step).2 (work (s.begin saga .step step).2).2 [] es) :
    Undisturbed s (s.attempt saga step work).2 := by
  refine ⟨_, (grows_attempt g).journal, fun r hr => ?_⟩
  rw [List.mem_singleton.1 hr]
  cases failureOf (s.attempt saga step work).1 <;> simp [Record.ofStep, Record.closed]

theorem undisturbed_uploadArtifacts (h : Host ω) (saga : Saga) (s : Session ω) :
    Undisturbed s (s.uploadArtifacts h saga) :=
  undisturbed_attempt (grows_perform h .uploadArtifacts _)

theorem undisturbed_fetchLogs (h : Host ω) (ks : List Component) (s : Session ω) :
    Undisturbed s (s.fetchLogs h ks).2 := by
  induction ks generalizing s with
  | nil => exact .of_journal rfl
  | cons k ks ih =>
    have first : Undisturbed s (s.fetchLogsOf h k).2 :=
      undisturbed_attempt (grows_perform h (.fetchLogs k) _)
    exact first.trans (ih _)

theorem undisturbed_aggregate (h : Host ω) (ks : List Component) (s : Session ω) :
    Undisturbed s (ks.foldl (aggregateOf h) s) := by
  induction ks generalizing s with
  | nil => exact .of_journal rfl
  | cons k ks ih =>
    have first : Undisturbed s (s.aggregateOf h k) :=
      undisturbed_attempt (grows_perform h (.aggregate k) _)
    exact first.trans (ih _)

theorem undisturbed_collect (h : Host ω) (s : Session ω) : Undisturbed s (s.collect h) := by
  unfold collect
  dsimp only
  cases s.logTargets.isEmpty with
  | true => exact .of_journal rfl
  | false =>
    rw [if_neg Bool.false_ne_true]
    have fetched := (undisturbed_settle h .up .logFetch s).trans (undisturbed_fetchLogs h
      ((s.logTargets.filter fun t => t.2.fetchesLogs).map (·.1)) _)
    generalize (s.settle h .up .logFetch).2.fetchLogs h _ = x at fetched ⊢
    obtain ⟨some, u⟩ := x
    cases some with
    | false => exact fetched
    | true => exact fetched.trans (undisturbed_aggregate h _ u)

/-- Only steps of provisioning are ever interrupted. -/
theorem Move.interrupted {c : Config} {d d' : StateDocument} {rs : List Record} {es : List Event}
    (m : Move c d rs es d') {r : Record} (mem : r ∈ rs) (cut : r.status = .interrupted) :
    r.saga = .up ∧ r.kind = .step := by
  have reported {r : Record} {f : Option ProviderError} (reports : r.Reports f)
      (cut : r.status = .interrupted) : r.saga = .up ∧ r.kind = .step := by
    rcases reports with same | same
    · rw [same] at cut
      cases f <;> cases cut
    · rw [same]
      exact ⟨rfl, rfl⟩
  cases m with
  | @pause _ _ ended =>
    rw [List.mem_singleton.1 mem] at cut
    cases ended <;> cases cut
  | query => cases mem
  | step _ _ reports => exact reported (List.mem_singleton.1 mem ▸ reports) cut
  | createFailed _ _ reports => exact reported (List.mem_singleton.1 mem ▸ reports) cut
  | created _ _ reports => exact reported (List.mem_singleton.1 mem ▸ reports) cut
  | deleteFailed _ reports => exact reported (List.mem_singleton.1 mem ▸ reports) cut
  | deleted _ reports => exact reported (List.mem_singleton.1 mem ▸ reports) cut
  | markUp => cases mem
  | markDown => cases mem

theorem Moves.interrupted {c : Config} {d d' : StateDocument} {rs : List Record} {es : List Event}
    (m : Moves c d rs es d') {r : Record} (mem : r ∈ rs) (cut : r.status = .interrupted) :
    r.saga = .up ∧ r.kind = .step := by
  induction m with
  | none => cases mem
  | move first _ ih => exact (List.mem_append.1 mem).elim (first.interrupted · cut) ih

theorem undisturbed_compensate (h : Host ω) (s : Session ω) :
    Undisturbed s (s.compensate h) := by
  obtain ⟨rs, es, runs, cooldown⟩ := runs_compensate h s
  refine ⟨rs, runs.grows.journal, fun r hr cut => ?_⟩
  obtain ⟨saga, kind⟩ := runs.moves.interrupted hr cut
  have heading := cooldown r hr saga
  cases (kind.symm.trans (congrArg Prod.fst heading))

theorem countP_interrupted_eq_zero {rs : List Record} (none : ∀ r ∈ rs, r.status ≠ .interrupted) :
    rs.countP (fun r => r.status = .interrupted) = 0 :=
  List.countP_eq_zero.2 fun r hr => by simp [none r hr]

/-- Of the records of a plan that was followed, only the last can be of an interrupted step. -/
theorem Along.countP_interrupted_le_one {rs : List Record} {ps : List (RecordKind × String)}
    {result : Except SagaError Unit} (along : Along rs ps result) :
    rs.countP (fun r => r.status = .interrupted) ≤ 1 := by
  obtain ⟨done, last, rfl, passed⟩ := along.passed
  have none : ∀ r ∈ done, r.status ≠ .interrupted := fun r hr cut => by
    rcases passed r hr with passed | passed | ⟨-, passed⟩ <;> cases cut.symm.trans passed
  rw [List.countP_append, countP_interrupted_eq_zero none, Nat.zero_add]
  calc last.toList.countP (fun r => r.status = .interrupted)
      ≤ last.toList.length := List.countP_le_length
    _ ≤ 1 := by cases last <;> simp

/-! ## Creations are committed -/

/-- Each successful creation is followed at once by a save of what it achieved. -/
def CommitsCreations (es : List Event) : Prop :=
  ∀ before k d after, es = before ++ .call (.create k) d none :: after →
    ∃ y now f rest, after = .save ((recordCreated k y now d).touch now) f :: rest

theorem CommitsCreations.append {es es' : List Event} (first : CommitsCreations es)
    (rest : CommitsCreations es') : CommitsCreations (es ++ es') := by
  intro before k d after split
  rcases append_eq_append_cons split with ⟨mid, here, rfl⟩ | ⟨mid, -, there⟩
  · obtain ⟨y, now, f, last, rfl⟩ := first before k d mid here
    exact ⟨y, now, f, last ++ es', rfl⟩
  · exact rest mid k d after there

theorem commitsCreations_of_none {es : List Event} (none : ∀ k d, .call (.create k) d none ∉ es) :
    CommitsCreations es := by
  intro before k d after split
  exact absurd (by simp [split]) (none k d)

theorem Move.commitsCreations {c : Config} {d d' : StateDocument} {rs : List Record}
    {es : List Event} (m : Move c d rs es d') : CommitsCreations es := by
  cases m with
  | pause => exact commitsCreations_of_none (by simp)
  | query harmless =>
    refine commitsCreations_of_none fun k x mem => ?_
    obtain ⟨rfl, -⟩ := Event.call.inj (List.mem_singleton.1 mem)
    cases harmless
  | step harmless =>
    refine commitsCreations_of_none fun k x mem => ?_
    rcases List.mem_append.1 mem with mem | mem
    · simp at mem
    · obtain ⟨rfl, -⟩ := Event.call.inj (List.mem_singleton.1 mem)
      cases harmless
  | createFailed => exact commitsCreations_of_none (by simp)
  | @created _ k r f y now _ _ _ recorded =>
    intro before k' x after split
    cases before with
    | nil =>
      injection split with same rest
      obtain ⟨same, rfl, -⟩ := Event.call.inj same
      cases same
      exact ⟨y, now, f, [], by rw [← rest, recorded]⟩
    | cons e before =>
      injection split with _ rest
      cases before <;> simp at rest
  | deleteFailed => exact commitsCreations_of_none (by simp)
  | deleted => exact commitsCreations_of_none (by simp)
  | markUp => exact commitsCreations_of_none (by simp)
  | markDown => exact commitsCreations_of_none (by simp)

theorem Moves.commitsCreations {c : Config} {d d' : StateDocument} {rs : List Record}
    {es : List Event} (m : Moves c d rs es d') : CommitsCreations es := by
  induction m with
  | none => exact commitsCreations_of_none (by simp)
  | move first _ ih => exact first.commitsCreations.append ih

/-! ## The whole run -/

/-- What the up saga may do after these stages, by whether they were passed and whether the
configuration has it delete what exists if not: it uploads artifacts, and it collects logs or
deletes. -/
def aftermath (passed delete : Bool) : Policy where
  call _ c := c = .uploadArtifacts ∨ (passed = true ∧ ∃ k, c = .fetchLogs k ∨ c = .aggregate k) ∨
    (passed = false ∧ delete = true ∧ ∃ k, c = .delete k)
  change _ := True

theorem collecting_within_aftermath (delete : Bool) :
    collecting.Within (aftermath true delete) where
  call _ _ allowed := .inr (.inl ⟨rfl, allowed⟩)
  change _ _ := trivial

theorem tearingDown_within_aftermath : tearingDown.Within (aftermath false true) where
  call _ _ allowed := allowed.imp id fun gone => .inr ⟨rfl, rfl, gone⟩
  change _ _ := trivial

theorem does_upload (h : Host ω) (passed delete : Bool) (t : Session ω) :
    Does (aftermath passed delete) h t (t.uploadArtifacts h .up) :=
  does_uploadArtifacts .up (.inl rfl)

/-- What follows these stages: their failure is that of the saga, nothing is done that is not
allowed then, and no step is interrupted. -/
theorem afterwards (opened : Opened h true s) (notUp : s.document.up = false) :
    (∀ e, (s.runPlanned h).1 = .error e → (s.up h).1 = .error e) ∧
      Does (aftermath (s.runPlanned h).1.toBool s.config.onFailure.delete) h
        (s.runPlanned h).2 (s.up h).2 ∧
      Undisturbed (s.runPlanned h).2 (s.up h).2 := by
  obtain ⟨_, _, report⟩ := reported_plan (h := h) opened
  have config := report.runs.grows.config
  rw [up_eq opened.isWritable notUp]
  generalize s.runPlanned h = x at config ⊢
  obtain ⟨r, t⟩ := x
  cases r with
  | ok _ =>
    have collected := (does_collect h t).mono
      (collecting_within_aftermath s.config.onFailure.delete)
    have marked := (traced_commit (P := aftermath true s.config.onFailure.delete) (h := h)
      (s := (t.collect h).uploadArtifacts h .up) (fun now d => d.markUp now) trivial).does
    refine ⟨nofun, (collected.trans (does_upload h true _ (t.collect h))).trans marked, ?_⟩
    exact ((undisturbed_collect h t).trans (undisturbed_uploadArtifacts h .up _)).trans
      (.of_journal rfl)
  | error e =>
    obtain ⟨f, upload⟩ := runs_uploadArtifacts h .up t
    have undisturbed := undisturbed_uploadArtifacts h .up t
    refine ⟨fun e' failed => failed, ?_⟩
    dsimp only
    rw [upload.grows.config, config]
    cases s.config.onFailure.delete with
    | false => exact ⟨does_upload h false false t, undisturbed⟩
    | true =>
      have reverted := (does_compensate h (t.uploadArtifacts h .up)).mono
        tearingDown_within_aftermath
      exact ⟨(does_upload h false true t).trans reverted,
        undisturbed.trans (undisturbed_compensate h _)⟩

/-- **The up saga heeds the stop signal.** The stages before the collection of logs are the acts
`acts`; none of them is a call, other than an upload, that begins once the signal has fired, and
what comes after them is no more than the aftermath. If the signal fired before they were through,
or before the saga began, the saga is interrupted by the first that fired it, or it is excused.

At most one record says that a step was interrupted. Each creation that succeeds is committed at
once, whether or not its step was interrupted, and what fails sets no flag. -/
theorem up_heeds_stop (opened : Opened h true s) (notUp : s.document.up = false) :
    let p := s.runPlanned h
    let t := (s.up h).2
    (∃ acts, p.2 = follow h acts s ∧ Obeys planned h acts s ∧
      ∀ o, (s.stop.origin.toList ++ firings h acts s).head? = some o →
        ∃ e, (s.up h).1 = .error e ∧ ((∃ step, e = .interrupted o step) ∨ Excused h p.2 e)) ∧
      Does (aftermath p.1.toBool s.config.onFailure.delete) h p.2 t ∧
      (∃ rs es, Grows s t rs es ∧ rs.countP (fun r => r.status = .interrupted) ≤ 1 ∧
        CommitsCreations es) ∧
      ∀ k, p.2.document.isCreated k = true ↔
        s.document.isCreated k = true ∨ WasCreated k (p.2.eventsSince s) := by
  intro p t
  obtain ⟨failed, does, undisturbed⟩ := afterwards (h := h) opened notUp
  obtain ⟨rs, es, report⟩ := reported_plan (h := h) opened
  obtain ⟨acts, obeys, ended, -⟩ := traced_runPlanned h s
  obtain ⟨rs', es', runs⟩ := runs_up (h := h) opened
  refine ⟨⟨acts, ended, obeys, fun o first => ?_⟩, does, ⟨rs', es', runs.grows, ?_, ?_⟩,
    fun k => ?_⟩
  · have fired : p.2.stop.origin = some o := by
      rw [ended, stop_follow, StopSignal.origin_fireAll, first]
    have heeds : Heeds h p := heeds_runAll h (by simp [plannedStages]) opened.valid
    cases result : p.1 with
    | error e => exact ⟨e, failed e result, heeds e o result fired⟩
    | ok _ =>
      have calm : p.2.stop.origin = none := calm_of_planned result
      rw [calm] at fired
      cases fired
  · obtain ⟨late, grown, none⟩ := undisturbed
    have journal := runs.grows.journal
    rw [grown, report.runs.grows.journal, List.append_assoc] at journal
    rw [← List.append_cancel_left journal, List.countP_append, countP_interrupted_eq_zero none]
    exact report.along.countP_interrupted_le_one
  · exact runs.moves.commitsCreations
  · rw [report.runs.grows.eventsSince]
    exact isCreated_of_creations report.runs.moves report.deletions k

/-- A bench on which the stop signal fires while the network is created. -/
def stoppedBench : Bench where
  now := "noon"
  rehearsal := Rehearsal.onCall {} "create network" [.fire 0 .signal]

theorem up_heeds_stop_stoppedBench :
    let s := sampleSession [] stoppedBench
    (∃ e, (s.up sampleHost).1 = .error e ∧
      ((∃ step, e = .interrupted .signal step) ∨
        Excused sampleHost (s.runPlanned sampleHost).2 e)) ∧
      (s.runPlanned sampleHost).2.document.isCreated (.resource .network) = true := by
  have opened := opened_sampleSession [] (w := stoppedBench) rfl rfl
  obtain ⟨⟨acts, ended, -, heeds⟩, -⟩ := up_heeds_stop opened rfl
  refine ⟨heeds .signal ?_, by decide +kernel⟩
  rw [← StopSignal.origin_fireAll, ← stop_follow, ← ended]
  decide +kernel

end Testbed.Session
