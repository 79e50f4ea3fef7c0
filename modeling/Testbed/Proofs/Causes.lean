import Testbed.Proofs.Lives
import Testbed.Proofs.Transcripts
import Testbed.Proofs.Validation

/-!
# Why a provisioning fails

A stage of provisioning fails because a call or a save did, because the stop signal fired, because
something cannot be driven, or because the result of a hook cannot be written. The failure that is
reported says which of these it was, and `Caused` reads it off the session that is left behind.

**Theorem (`explained_runAll`).** Every failure of provisioning has such a cause. So stages of which
no call, save or write fails, that can drive what they come to and that are not stopped succeed.

**Theorem (`up_follows_plan`).** A run of the up saga follows its plan to the end, or as far as such
a cause lets it.
-/

namespace Testbed.Session

variable {ω : Type} {h : Host ω} {s t : Session ω} {e : SagaError} {o : StopOrigin}

/-- What is behind a failure of provisioning that left the session `t`. A failed step ends with a
call that failed, and nobody had stopped it by then. -/
inductive Caused (h : Host ω) (t : Session ω) : SagaError → Prop
  | step {name : String} {f : ProviderError} {c : Call} {d : StateDocument}
      (calm : t.stop.origin = none) (failed : t.history.getLast? = some (.call c d (some f))) :
      Caused h t (.step name f)
  | interrupted {o : StopOrigin} {name : String} (fired : t.stop.origin = some o) :
      Caused h t (.interrupted o name)
  | store {f : StoreError} {d : StateDocument}
      (failed : t.history.getLast? = some (.save d (some f))) : Caused h t (.store f)
  | hookOutput {p : HookPoint} {path body : String} {w : ω} {f : FileError}
      (output : p.output t.config.hooks = some path)
      (failed : h.writeResult path body w = (.error f, t.world)) : Caused h t (.hookOutput path f)
  | missingHandle {k : Component} (wanted : t.config.wants k = true)
      (undriven : t.registry.drives k = false) : Caused h t (.missingHandle k)
  | missingGpu (needed : t.config.needsGpuDrivers = true)
      (unavailable : h.provider.hasGpu t.world = false) : Caused h t .missingGpu

/-- If this is a failure, it has a cause. -/
def Explained (h : Host ω) (x : Except SagaError Unit × Session ω) : Prop :=
  ∀ e, x.1 = .error e → Caused h x.2 e

theorem explained_ok (h : Host ω) (s : Session ω) : Explained h (.ok (), s) :=
  fun _ failed => nomatch failed

/-! ## Calls and commits -/

/-- A call that fails is the last thing that happened. -/
theorem last_of_perform {c : Call} {f : ProviderError} (failed : perform h c s = (.error f, t)) :
    t.history.getLast? = some (.call c s.document (some f)) := by
  have grown := (grows_perform h c s).history
  rw [failed] at grown
  rw [grown, List.getLast?_concat]
  rfl

/-- So is a health check that fails. -/
theorem last_of_awaitHealth {f : ProviderError} (failed : awaitHealth h s = (.error f, t)) :
    t.history.getLast? = some (.call .checkHealth s.document (some f)) := by
  have asked := asked_awaitHealth h s
  rw [failed] at asked
  obtain ⟨tries, -, grows⟩ := asked.tried
  rw [grows.history, ← List.append_assoc, List.getLast?_concat]
  rfl

theorem explained_commit (h : Host ω) (change : String → StateDocument → StateDocument)
    (s : Session ω) : Explained h (s.commit h change) := by
  intro e failed
  obtain ⟨f, d, rfl, last⟩ := failed_commit failed
  exact .store last

theorem explained_writeHook {p : HookPoint} {path : String}
    (output : p.output s.config.hooks = some path) (command : String)
    (r : Except ProviderError CommandOutput) : Explained h (writeHook h path command r s) := by
  intro e failed
  unfold writeHook at failed ⊢
  cases written : h.writeResult path (Hook.render command r) s.world with
  | mk q w =>
    rw [written] at failed
    cases q with
    | ok _ => cases failed
    | error f =>
      cases failed
      exact .hookOutput output written

/-! ## Steps -/

section forward

variable {α : Type} {step : String} {work : Action ω ProviderError α}
  {commit : α → Action ω SagaError Unit}

theorem explained_forward
    (works : ∀ f u, work (begun h step s) = (.error f, u) →
      ∃ c d, u.history.getLast? = some (.call c d (some f)))
    (stops : ∀ a t, (commit a t).2.stop = t.stop)
    (commits : ∀ a u status, work (begun h step s) = (.ok a, u) →
      Explained h (commit a (u.finish s.journal.next status none))) :
    Explained h (s.forward h step work commit) := by
  have ends := forwarded h step work commit s
  generalize s.forward h step work commit = x at ends
  intro e failed
  cases ends with
  | refused fired =>
    cases failed
    exact .interrupted fired
  | finished _ worked _ => exact commits _ _ _ worked e failed
  | failed _ worked still =>
    cases failed
    obtain ⟨c, d, last⟩ := works _ _ worked
    exact .step still last
  | @finishedCut a u o _ worked fired =>
    obtain ⟨e', cut, ended⟩ := cutShort_fails o step
      (commit a (u.finish s.journal.next .interrupted none))
    rw [cut] at failed ⊢
    obtain rfl : e' = e := by simpa using failed
    rcases ended with uncommitted | rfl
    · exact commits a u .interrupted worked e' uncommitted
    · exact .interrupted ((congrArg StopSignal.origin (stops a _)).trans fired)
  | failedCut _ _ fired =>
    cases failed
    exact .interrupted fired

/-- A step of provisioning succeeds only if the stop signal has not fired by its end. -/
theorem calm_of_forward (stops : ∀ a t, (commit a t).2.stop = t.stop)
    (ok : (s.forward h step work commit).1 = .ok ()) :
    (s.forward h step work commit).2.stop.origin = none := by
  obtain ⟨a, t, -, still, ends⟩ := passed_forward ok
  rw [ends, stops]
  exact still

end forward

/-- A step of one call after which there is nothing to commit. -/
theorem explained_call (step : String) (c : Call) (s : Session ω) :
    Explained h (s.forward h step (perform h c) keep) :=
  explained_forward (fun _ _ failed => ⟨c, _, last_of_perform failed⟩) (fun _ _ => rfl)
    fun _ _ _ _ => explained_ok h _

/-! ## Stages -/

/-- A configuration without fault has a file for the output of each hook. -/
theorem output_of_valid {c : Config} (valid : c.fault? = none) {p : HookPoint}
    {template : String} (command : p.command c.hooks = some template) :
    ∃ path, p.output c.hooks = some path := by
  have complete := (Config.fault?_eq_none_iff.1 valid).hooks p
  exact Option.isSome_iff_exists.1 (complete (by rw [command]; rfl))

theorem Opened.valid {writable : Bool} (opened : Opened h writable s) : s.config.fault? = none := by
  obtain ⟨c, stop, w, w', s₀, started', config, -, -⟩ := opened
  obtain ⟨d, st⟩ := started started'
  have valid := st.valid
  rw [← st.config, ← config] at valid
  unfold Config.validate at valid
  split at valid
  · cases valid
  · assumption

theorem explained_create (h : Host ω) (k : Component) (s : Session ω) :
    Explained h (s.create h k) := by
  unfold create
  cases todo : !s.config.wants k || s.document.isCreated k with
  | true => exact explained_ok h s
  | false =>
    cases driven : s.registry.drives k with
    | false =>
      intro e failed
      cases failed
      simp only [Bool.or_eq_false_iff, Bool.not_eq_false'] at todo
      exact .missingHandle todo.1 driven
    | true =>
      simp only [Bool.false_eq_true, Bool.not_true, if_false]
      exact explained_forward (fun _ _ failed => ⟨_, _, last_of_perform failed⟩) (fun _ _ => rfl)
        fun y u status _ => explained_commit h (recordCreated k y) _

theorem explained_hook (h : Host ω) (valid : s.config.fault? = none) (p : HookPoint) :
    Explained h (s.hook h p) := by
  unfold hook
  cases command : p.command s.config.hooks with
  | none => exact explained_ok h s
  | some template =>
    obtain ⟨path, output⟩ := output_of_valid valid command
    rw [output]
    refine explained_forward (fun _ _ failed => ?_) (fun _ _ => rfl) fun r u status worked => ?_
    · -- The command of a hook may fail, its step does not.
      cases congrArg Prod.fst failed
    · have config : u.config = s.config := (congrArg (fun x => x.2.config) worked).symm
      exact explained_writeHook (by rw [← output, ← config]; rfl) _ r

theorem explained_setUpGpu (h : Host ω) (s : Session ω) : Explained h (s.setUpGpu h) := by
  unfold setUpGpu
  cases needed : s.config.needsGpuDrivers with
  | false => exact explained_ok h s
  | true =>
    cases available : h.provider.hasGpu s.world with
    | false =>
      intro e failed
      cases failed
      exact .missingGpu needed available
    | true =>
      have install := explained_call (h := h) "install gpu driver" .installDriver s
      simp only [Bool.not_true, Bool.false_eq_true, if_false]
      generalize s.forward h "install gpu driver" (perform h .installDriver) keep = x at install ⊢
      obtain ⟨r, t⟩ := x
      cases r with
      | error e => exact install
      | ok _ => exact explained_call "gpu smoke test" .smokeTest t

/-- A pause ends a provisioning if the stop signal has fired by its end. -/
theorem settled (h : Host ω) (saga : Saga) (reason : SettleReason) (s : Session ω) :
    (s.settle h saga reason).1 = (s.settle h saga reason).2.stop.pauseEnd := by
  rw [settle_eq]
  rfl

theorem explained_settleStage (h : Host ω) (reason : SettleReason) (s : Session ω) :
    Explained h (s.settleStage h reason) := by
  have ended := settled h .up reason s
  unfold settleStage
  generalize s.settle h .up reason = x at ended ⊢
  obtain ⟨r, t⟩ := x
  cases r with
  | elapsed => exact explained_ok h t
  | stopped o =>
    intro e failed
    cases failed
    cases fired : t.stop.origin with
    | none =>
      rw [StopSignal.pauseEnd, fired] at ended
      cases ended
    | some o' =>
      rw [StopSignal.pauseEnd, fired] at ended
      cases ended
      exact .interrupted fired

theorem explained_runStage (h : Host ω) (valid : s.config.fault? = none) (st : Stage) :
    Explained h (runStage h st s) := by
  cases st with
  | create k => exact explained_create h k s
  | settle reason => exact explained_settleStage h reason s
  | health gate =>
    exact explained_forward (fun _ _ failed => ⟨_, _, last_of_awaitHealth failed⟩) (fun _ _ => rfl)
      fun _ _ _ _ => explained_ok h _
  | hook p => exact explained_hook h valid p
  | gpu => exact explained_setUpGpu h s
  | upload => exact explained_ok h _
  | collect => exact explained_ok h _

/-- **Every failure of provisioning has a cause.** -/
theorem explained_runAll (h : Host ω) {sts : List Stage} (planned : .collect ∉ sts)
    (valid : s.config.fault? = none) : Explained h (s.runAll (runStage h) sts) := by
  induction sts generalizing s with
  | nil => exact explained_ok h s
  | cons st sts ih =>
    have first := explained_runStage h valid st
    obtain ⟨rs, es, report⟩ := staged h (fun he => planned (he ▸ List.mem_cons_self)) s
    have config := report.runs.grows.config
    unfold runAll
    generalize runStage h st s = x at first config ⊢
    obtain ⟨r, t⟩ := x
    cases r with
    | error e => exact first
    | ok _ => exact ih (fun mem => planned (List.mem_cons_of_mem _ mem)) (config ▸ valid)

theorem explained_runPlanned (valid : s.config.fault? = none) : Explained h (s.runPlanned h) :=
  explained_runAll h (by simp [plannedStages]) valid

/-- **Every failure of the up saga** is one of provisioning, or it could not be recorded in the end
that the environment is up. -/
theorem explained_up_of_writable (valid : s.config.fault? = none) (writable : s.writable = true)
    (notUp : s.document.up = false) (failed : (s.up h).1 = .error e) :
    Caused h (s.runPlanned h).2 e ∨
      ∃ f d, e = .store f ∧ (s.up h).2.history.getLast? = some (.save d (some f)) := by
  have caused := explained_runPlanned (h := h) valid
  rw [up_eq writable notUp] at failed ⊢
  generalize s.runPlanned h = x at caused failed ⊢
  obtain ⟨r, t⟩ := x
  cases r with
  | error e' =>
    cases failed
    exact .inl (caused e rfl)
  | ok _ => exact .inr (failed_commit failed)

theorem explained_up (opened : Opened h true s) (failed : (s.up h).1 = .error e) :
    Caused h (s.runPlanned h).2 e ∨
      ∃ f d, e = .store f ∧ (s.up h).2.history.getLast? = some (.save d (some f)) := by
  cases notUp : s.document.up with
  | true =>
    rw [up_of_up opened notUp] at failed
    cases failed
  | false => exact explained_up_of_writable opened.valid opened.isWritable notUp failed

/-- Nothing is wrong with a valid configuration once the up saga runs. -/
theorem up_ne_config (valid : s.config.fault? = none) (f : ConfigError) :
    (s.up h).1 ≠ .error (.config f) := by
  intro failed
  by_cases writable : s.writable = true
  · cases notUp : s.document.up with
    | true =>
      rw [up_of_writable writable notUp] at failed
      cases failed
    | false =>
      rcases explained_up_of_writable valid writable notUp failed with caused | ⟨_, _, other, -⟩
      · cases caused
      · cases other
  · have refused : s.up h = (.error (.readOnly .up), s) := by simp [up, allow, writable]
    rw [refused] at failed
    cases failed

/-! ## The plan and its end -/

/-- **A provisioning follows its plan**, whatever fails, whatever cannot be driven and whenever the
stop signal fires. The records `ran` before the closing upload are what was carried out of the plan;
all of them passed, except perhaps the last, which accounts for the failure of a step. Logs are
collected, and the run succeeds, only if the whole plan was carried out. It goes on until then,
unless there is a cause to end it: a step or a save fails, it is stopped, or something it needs is
missing. -/
theorem up_follows_plan (opened : Opened h true s) (notUp : s.document.up = false) :
    ∃ (ran logs : List Record) (closing : Record) (rest : List Record) (events : List Event),
      Grows s (s.up h).2 (ran ++ logs ++ [closing] ++ rest) events ∧
      (∀ r ∈ ran ++ logs ++ [closing], r.saga = .up) ∧
      closing.heading = (.step, "upload artifacts") ∧
      (∀ r ∈ rest, r.saga = .up → r.heading = SettleReason.compensationCooldown.heading) ∧
      ran.map Record.heading <+: upPlan s.config s.document ∧
      (∀ r ∈ ran.dropLast, r.Passed) ∧
      (∀ r ∈ logs, IsCollection r) ∧
      (logs ≠ [] → ran.map Record.heading = upPlan s.config s.document ∧ ∀ r ∈ ran, r.Passed) ∧
      ((s.up h).1 = .ok () →
        ran.map Record.heading = upPlan s.config s.document ∧ ∀ r ∈ ran, r.Passed) ∧
      (∀ e, (s.up h).1 = .error e → Accounts ran e) ∧
      ((ran.map Record.heading = upPlan s.config s.document ∧ ∀ r ∈ ran, r.Passed) ∨
        ∃ e before, (s.up h).1 = .error e ∧ Grows s (s.runPlanned h).2 ran before ∧
          Caused h (s.runPlanned h).2 e) := by
  obtain ⟨ran, logs, f, rest, before, es, up⟩ := broughtUp opened notUp
  refine ⟨ran, logs, _, rest, es, up.runs.grows, ?_, Record.heading_ofStep .., up.rest,
    up.along.headings, up.along.passed_dropLast, up.collection, up.complete, up.along.whole,
    up.along.failure, ?_⟩
  · intro r hr
    rcases List.mem_append.1 hr with hr | hr
    · exact up.saga r hr
    · rw [List.mem_singleton.1 hr, Record.saga_ofStep]
  · cases planned : (s.runPlanned h).1 with
    | ok _ => exact .inl (up.whole planned)
    | error e =>
      refine .inr ⟨e, before, ?_, up.planned, explained_runPlanned opened.valid e planned⟩
      rw [up_eq opened.isWritable notUp]
      generalize s.runPlanned h = y at planned ⊢
      obtain ⟨r, t⟩ := y
      obtain rfl : r = .error e := planned
      rfl

theorem up_follows_plan_narrowBench :
    ∃ (ran logs : List Record) (closing : Record) (rest : List Record) (events : List Event),
      Grows (sampleSession [.resource .bucket] narrowBench)
        ((sampleSession [.resource .bucket] narrowBench).up sampleHost).2
        (ran ++ logs ++ [closing] ++ rest) events ∧
      ran.map Record.heading <+:
        [(.step, "create key_pair"), (.step, "create cluster_role"), (.step, "create network"),
          (.step, "create cluster"), (.settle, "cluster post-create"),
          (.step, "check cluster health"), (.step, "create node_group:unmanaged"),
          (.step, "check health after cluster add-ons"), (.step, "upload artifacts"),
          (.step, "create add_on:nlb_hello_world"), (.step, "check health after workloads")] := by
  obtain ⟨ran, logs, closing, rest, es, grows, -, -, -, headings, -⟩ :=
    up_follows_plan (opened_sampleSession [.resource .bucket] (w := narrowBench) rfl rfl) rfl
  refine ⟨ran, logs, closing, rest, es, grows, ?_⟩
  refine (congrArg (_ <+: ·) ?_).mp headings
  decide +kernel

end Testbed.Session

namespace Testbed.Config

/-! ## Validation -/

/-- **Validation.** It accepts the valid configurations, it names the first condition that another
one violates, and no environment is provisioned only to find out that its configuration has a
fault. -/
theorem validate_iff (c : Config) :
    (c.validate = .ok () ↔ Valid c) ∧ (∀ e, c.validate = .error e ↔ FirstFault c e) ∧
      ∀ {ω : Type} (h : Host ω) (s : Session ω), s.config = c → c.validate = .ok () →
        ∀ e, (s.up h).1 ≠ .error (.config e) := by
  refine ⟨validate_eq_ok_iff.trans fault?_eq_none_iff,
    fun e => validate_eq_error_iff.trans fault?_eq_some_iff, ?_⟩
  rintro ω h s rfl valid e
  exact s.up_ne_config (validate_eq_ok_iff.1 valid) e

/-- A configuration with two faults in its add-ons and two more behind them. -/
def faultyConfig : Config where
  version := 1
  name := "demo-1"
  region := "\u00a0us"
  addOns := .ofList [("zap", {}), ("csi_ebs", { nameSpace := some " \u3000" }), ("alb_2048", {})]
  nodeGroups := { groups := [{ name := "a" }, { name := "b" }] }
  managedNodeGroups := { groups := [{ name := "b" }] }
  hooks := { afterCreateAddOns := some "true" }

theorem validate_iff_faultyConfig : FirstFault faultyConfig (.emptyNamespace "csi_ebs") ∧
    Valid { faultyConfig with addOns := .empty, managedNodeGroups := {}, hooks := {} } :=
  ⟨((validate_iff faultyConfig).2.1 _).1 (by decide +kernel),
    (validate_iff _).1.1 (by decide +kernel)⟩

end Testbed.Config
