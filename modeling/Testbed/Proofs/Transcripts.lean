import Testbed.Proofs.Acts
import Testbed.Proofs.ProvisioningPlan

/-!
# Provisioning as a sequence of acts

Each operation of the up saga is traced here, from single steps to the run of all stages. An
operation that takes any policy says which calls and changes the policy has to allow.

**Theorem (`traced_provision`).** Provisioning deletes nothing and only records creations. Before
the collection of logs, it makes no call but uploads once it has heard of the stop signal.
-/

namespace Testbed.Session

variable {ω ω' : Type} {h : Host ω} {h' : Host ω'} {s t : Session ω} {s' : Session ω'}
  {P : Policy} {α : Type}

/-! ## What twins read -/

theorem Twin.wants (twin : Twin s s') (k : Component) :
    s'.config.wants k = s.config.wants k := by
  rw [twin.config]
  cases k <;> rfl

theorem Twin.needsGpuDrivers (twin : Twin s s') :
    s'.config.needsGpuDrivers = s.config.needsGpuDrivers := by
  rw [twin.config]
  rfl

theorem Twin.hooks (twin : Twin s s') : s'.config.hooks = s.config.hooks := by
  rw [twin.config]

theorem Twin.timings (twin : Twin s s') : s'.config.timings = s.config.timings := by
  rw [twin.config]

theorem Twin.hookRefs (twin : Twin s s') :
    Hook.refs s'.config s'.document = Hook.refs s.config s.document := by
  rw [twin.config, twin.document]
  rfl

theorem Twin.seconds (twin : Twin s s') {reason : SettleReason}
    (timed : reason ≠ .compensationCooldown) :
    reason.seconds s'.config = reason.seconds s.config := by
  rw [twin.config]
  cases reason with
  | compensationCooldown => exact absurd rfl timed
  | addOnCleanup k cleanup => cases cleanup <;> rfl
  | _ => rfl

theorem Twin.logTargets (twin : Twin s s') : s'.logTargets = s.logTargets := by
  have groups (k : NodeGroupKind) : s'.config.nodeGroup k = s.config.nodeGroup k := by
    rw [twin.config]
    cases k <;> rfl
  have addOns (k : AddOnKind) : s'.config.addOn? k = s.config.addOn? k := by
    rw [twin.config]
    rfl
  simp only [Session.logTargets, groups, addOns, twin.registry, twin.document]

theorem Twin.aggregators (twin : Twin s s') : s'.aggregators = s.aggregators := by
  rw [Session.aggregators, Session.aggregators, twin.registry, twin.document]

/-! ## Records -/

theorem traced_begin (saga : Saga) (kind : RecordKind) (name : String) :
    Traced P (fun _ _ s => s.begin saga kind name) h s :=
  (traced_note (fun j => j.start saga kind name) s.journal.next).congr fun _ _ s' twin => by
    rw [Session.begin, twin.journal]

theorem traced_finish (n : Nat) (status : RecordStatus) (detail : Option String) (a : α) :
    Traced P (fun _ _ s => (a, s.finish n status detail)) h s :=
  traced_note (fun j => j.finish n status detail) a

theorem traced_conclude (n : Nat) (r : Except ProviderError α) :
    Traced P (fun _ _ s => (r, s.conclude n r)) h s := by
  cases r with
  | ok a => exact traced_finish n .succeeded none (Except.ok a)
  | error e => exact traced_finish n .failed (some e.message) (Except.error e)

/-! ## Pauses and steps -/

/-- All pauses but the cool-down take as long for twins. -/
theorem traced_settle (saga : Saga) (reason : SettleReason)
    (timed : reason ≠ .compensationCooldown) :
    Traced P (fun _ h => settle h saga reason) h s := by
  have noted : Traced P (fun _ h s' =>
      let p := (s'.begin saga .settle reason.text).2.pause h (reason.seconds s.config)
      (p.1, p.2.finish s'.journal.next (statusOf p.1) none)) h s :=
    (traced_begin saga .settle reason.text).andThen fun n _ =>
      (traced_pause (reason.seconds s.config)).andThen fun ended _ =>
        traced_finish n (statusOf ended) none ended
  exact noted.congr fun _ _ s' twin => by rw [settle_eq, twin.seconds timed]

theorem traced_attempt (saga : Saga) (step : String) (work : Program (Except ProviderError Unit))
    (works : Traced P work h (s.begin saga .step step).2) :
    Traced P (fun _ h s => s.attempt saga step (work h)) h s := by
  have concluded : Traced P (fun _ h t =>
      ((work h t).1, (work h t).2.conclude s.journal.next (work h t).1)) h
      (s.begin saga .step step).2 :=
    .bind (q := fun r _ _ t => (r, t.conclude s.journal.next r)) works (traced_conclude _ _)
  exact .bind (q := fun n _ h t => ((work h t).1, (work h t).2.conclude n (work h t).1))
    (traced_begin saga .step step) concluded

section forward

variable {work : Program (Except ProviderError α)} {commit : α → Program (Except SagaError Unit)}

/-- The end of a step of provisioning whose work has given this. -/
def judged (step : String) (commit : α → Action ω SagaError Unit) (record : Nat)
    (r : Except ProviderError α) : Action ω SagaError Unit := fun s =>
  match s.stop.judge r with
  | .finished (.ok a) => commit a (s.finish record .succeeded none)
  | .finished (.error e) => (.error (.step step e), s.finish record .failed (some e.message))
  | .interrupted origin (.ok a) =>
    cutShort origin step (commit a (s.finish record .interrupted none))
  | .interrupted origin (.error _) =>
    (.error (.interrupted origin step), s.finish record .interrupted none)

/-- A step of provisioning that has taken note of the stop signal. -/
def proceed (step : String) (work : Action ω ProviderError α)
    (commit : α → Action ω SagaError Unit) : Action ω SagaError Unit := fun s =>
  match s.stop.origin with
  | some origin => (.error (.interrupted origin step), s)
  | none =>
    let (record, s) := s.begin .up .step step
    judged step commit record (work s).1 (work s).2

theorem forward_eq (h : Host ω) (step : String) (work : Action ω ProviderError α)
    (commit : α → Action ω SagaError Unit) (s : Session ω) :
    s.forward h step work commit = (s.listen h).proceed step work commit := by
  have ends := forwarded h step work commit s
  generalize s.forward h step work commit = x at ends
  have begins : ((s.listen h).begin .up .step step).2 = begun h step s := rfl
  unfold proceed judged
  cases ends with
  | refused fired => simp only [fired]
  | finished calm worked still =>
    simp only [calm, begins, worked, StopSignal.judge, still]
    rfl
  | failed calm worked still =>
    simp only [calm, begins, worked, StopSignal.judge, still]
    rfl
  | finishedCut calm worked fired =>
    simp only [calm, begins, worked, StopSignal.judge, fired]
    rfl
  | failedCut calm worked fired =>
    simp only [calm, begins, worked, StopSignal.judge, fired]
    rfl

theorem traced_judged (step : String) (record : Nat) (r : Except ProviderError α)
    (commits : ∀ a t, Traced P (commit a) h t) :
    Traced P (fun _ h => judged step (fun a => commit a h) record r) h s := by
  cases stop : s.stop.origin with
  | none =>
    cases r with
    | error e =>
      refine (traced_finish record .failed (some e.message) (Except.error (.step step e))).congr
        fun _ h' s' twin => ?_
      simp only [judged, StopSignal.judge, twin.stop, stop]
    | ok a =>
      have committed : Traced P (fun _ h s => commit a h (s.finish record .succeeded none)) h s :=
        (traced_finish record .succeeded none ()).andThen fun _ _ => commits a _
      refine committed.congr fun _ h' s' twin => ?_
      simp only [judged, StopSignal.judge, twin.stop, stop]
  | some o =>
    cases r with
    | error e =>
      refine (traced_finish record .interrupted none (Except.error (.interrupted o step))).congr
        fun _ h' s' twin => ?_
      simp only [judged, StopSignal.judge, twin.stop, stop]
    | ok a =>
      have committed : Traced P (fun _ h s => commit a h (s.finish record .interrupted none)) h s :=
        (traced_finish record .interrupted none ()).andThen fun _ _ => commits a _
      have cut : Traced P (fun _ h s => cutShort o step
          (commit a h (s.finish record .interrupted none))) h s := by
        have reported (q : Except SagaError Unit) (t : Session ω) :
            Traced P (fun _ _ t => cutShort o step (q, t)) h t := by
          cases q with
          | ok _ => exact .pure _
          | error e => exact .pure _
        exact committed.andThen reported
      refine cut.congr fun _ h' s' twin => ?_
      simp only [judged, StopSignal.judge, twin.stop, stop]

theorem traced_proceed {step : String}
    (works : s.stop.origin = none → Traced P work h (s.begin .up .step step).2)
    (commits : ∀ a t, Traced P (commit a) h t) :
    Traced P (fun _ h => proceed step (work h) fun a => commit a h) h s := by
  cases stop : s.stop.origin with
  | some o =>
    refine (Traced.pure (Except.error (.interrupted o step))).congr fun _ h' s' twin => ?_
    simp only [proceed, twin.stop, stop]
  | none =>
    have closed : Traced P (fun _ h t => judged step (fun a => commit a h) s.journal.next
        (work h t).1 (work h t).2) h (s.begin .up .step step).2 :=
      .bind (q := fun r _ h => judged step (fun a => commit a h) s.journal.next r) (works stop)
        (traced_judged step _ _ commits)
    have all := Traced.bind (q := fun record _ h t => judged step (fun a => commit a h) record
      (work h t).1 (work h t).2) (traced_begin .up .step step) closed
    exact all.congr fun _ h' s' twin => by simp only [proceed, twin.stop, stop]

/-- A step of provisioning does its work only if it has not heard of the stop signal. -/
theorem traced_forward (step : String) (work : Program (Except ProviderError α))
    (commit : α → Program (Except SagaError Unit))
    (works : (s.listen h).stop.origin = none → Traced P work h (begun h step s))
    (commits : ∀ a t, Traced P (commit a) h t) :
    Traced P (fun _ h s => s.forward h step (work h) fun a => commit a h) h s := by
  have listened : Traced P (fun _ h s => (s.listen h).proceed step (work h) fun a => commit a h)
      h s :=
    .bind (q := fun _ _ h => proceed step (work h) fun a => commit a h) traced_listen
      (traced_proceed works commits)
  exact listened.congr fun _ h' s' _ => forward_eq h' step (work h') _ s'

end forward

/-! ## Stages -/

theorem traced_keep (a : α) : Traced P (fun _ _ => keep a) h s := .pure (Except.ok ())

theorem traced_commit (change : String → StateDocument → StateDocument)
    (allowed : P.change change) : Traced P (fun _ h => commit h change) h s :=
  (traced_update change allowed).andThen fun r _ => .pure (r.mapError SagaError.store)

theorem traced_create (k : Component)
    (calls : ∀ stop : StopSignal, stop.origin = none → P.call stop (.create k))
    (changes : ∀ y, P.change (recordCreated k y)) :
    Traced P (fun _ h => create h k) h s := by
  cases todo : !s.config.wants k || s.document.isCreated k with
  | true =>
    refine (Traced.pure (Except.ok ())).congr fun _ h' s' twin => ?_
    rw [create, twin.wants, twin.document, if_pos todo]
  | false =>
    cases driven : s.registry.drives k with
    | false =>
      refine (Traced.pure (Except.error (.missingHandle k))).congr fun _ h' s' twin => ?_
      rw [create, twin.wants, twin.document, twin.registry, if_neg (by simp [todo]), driven]
      rfl
    | true =>
      have step := traced_forward s!"create {k.label}" (fun _ h => perform h (.create k))
        (fun y _ h => commit h (recordCreated k y)) (h := h) (s := s)
        (fun calm => traced_perform (.create k) (calls _ calm))
        (fun y t => traced_commit _ (changes y))
      refine step.congr fun _ h' s' twin => ?_
      rw [create, twin.wants, twin.document, twin.registry, if_neg (by simp [todo]), driven]
      rfl

/-- A session polls the health of its environment every so many seconds. -/
def pollHealth (h : Host ω) (interval retries : Nat) : Action ω ProviderError Unit :=
  Health.poll (perform h .checkHealth)
    (fun s => ((s.pause h interval).1 ≠ .elapsed, (s.pause h interval).2)) retries

/-- What follows a health check that may be tried again. -/
def pollAgain (h : Host ω) (interval retries : Nat) :
    Except ProviderError Unit → Action ω ProviderError Unit
  | .ok _, s => (.ok (), s)
  | .error e, s =>
    match (s.pause h interval).1 with
    | .elapsed => pollHealth h interval retries (s.pause h interval).2
    | .stopped _ => (.error e, (s.pause h interval).2)

theorem pollHealth_zero (h : Host ω) (interval : Nat) (s : Session ω) :
    pollHealth h interval 0 s = perform h .checkHealth s := by
  unfold pollHealth Health.poll
  cases perform h .checkHealth s with
  | mk r t => cases r <;> rfl

theorem pollHealth_succ (h : Host ω) (interval retries : Nat) (s : Session ω) :
    pollHealth h interval (retries + 1) s =
      pollAgain h interval retries (perform h .checkHealth s).1 (perform h .checkHealth s).2 := by
  unfold pollHealth Health.poll
  cases perform h .checkHealth s with
  | mk r t =>
    cases r with
    | ok _ => rfl
    | error e =>
      simp only [pollAgain]
      cases ended : (t.pause h interval).1 with
      | elapsed => simp [pollHealth]
      | stopped o => simp

theorem pauseEnd_eq_elapsed {stop : StopSignal} :
    stop.pauseEnd = .elapsed ↔ stop.origin = none := by
  unfold StopSignal.pauseEnd
  cases stop.origin <;> simp

/-- A health check is tried again only if the pause before it has taken its full length. -/
theorem traced_pollHealth
    (calls : ∀ stop : StopSignal, stop.origin = none → P.call stop .checkHealth)
    (interval retries : Nat) (calm : s.stop.origin = none) :
    Traced P (fun _ h => pollHealth h interval retries) h s := by
  induction retries generalizing s with
  | zero =>
    exact (traced_perform .checkHealth (calls _ calm)).congr fun _ h' s' _ =>
      pollHealth_zero h' interval s'
  | succ retries ih =>
    have again (r : Except ProviderError Unit) (t : Session ω) :
        Traced P (fun _ h => pollAgain h interval retries r) h t := by
      cases r with
      | ok _ => exact .pure (Except.ok ())
      | error e =>
        refine .bind (q := fun ended _ h t => match ended with
          | .elapsed => pollHealth h interval retries t
          | .stopped _ => (.error e, t)) (traced_pause interval) ?_
        cases ended : (t.pause h interval).1 with
        | elapsed => exact ih (pauseEnd_eq_elapsed.1 ended)
        | stopped o => exact .pure _
    exact ((traced_perform .checkHealth (calls _ calm)).andThen again).congr fun _ h' s' _ =>
      pollHealth_succ h' interval retries s'

theorem traced_awaitHealth
    (calls : ∀ stop : StopSignal, stop.origin = none → P.call stop .checkHealth)
    (calm : s.stop.origin = none) : Traced P (fun _ h => awaitHealth h) h s := by
  refine (traced_pollHealth calls s.config.timings.healthInterval
    (s.config.timings.healthAttempts - 1) calm).congr fun _ h' s' twin => ?_
  rw [← twin.timings]
  rfl

theorem traced_runHook (command : String)
    (allowed : ∀ timeout, P.call s.stop (.run command timeout)) :
    Traced P (fun _ h => runHook h command) h s := by
  have ran := traced_act (P := P) (h := h) (.call (.run command (s.config.hooks.timeout * 1000)))
    (fun reply _ => Except.ok (ε := ProviderError) reply.result) (allowed _) fun _ _ _ => rfl
  refine ran.congr fun _ h' s' twin => ?_
  rw [← twin.hooks]
  rfl

theorem traced_writeHook (path command : String) (r : Except ProviderError CommandOutput) :
    Traced P (fun _ h => writeHook h path command r) h s :=
  traced_act (.write path (Hook.render command r))
    (fun answer _ => answer.mapError (SagaError.hookOutput path)) trivial fun _ _ _ => rfl

theorem traced_hook (p : HookPoint)
    (calls : ∀ (stop : StopSignal) command timeout, stop.origin = none →
      P.call stop (.run command timeout)) :
    Traced P (fun _ h => hook h p) h s := by
  cases command : p.command s.config.hooks with
  | none =>
    refine (Traced.pure (Except.ok ())).congr fun _ h' s' twin => ?_
    simp only [hook, twin.hooks, command]
  | some template =>
    cases output : p.output s.config.hooks with
    | none =>
      refine (Traced.pure (Except.error (.config (.missingHookOutput p)))).congr
        fun _ h' s' twin => ?_
      simp only [hook, twin.hooks, command, output]
    | some path =>
      have step := traced_forward s!"hook {p.name}"
        (fun _ h => runHook h (Text.expand template (Hook.refs s.config s.document)))
        (fun r _ h => writeHook h path (Text.expand template (Hook.refs s.config s.document)) r)
        (h := h) (s := s) (fun calm => traced_runHook _ fun _ => calls _ _ _ calm)
        (fun r t => traced_writeHook path _ r)
      refine step.congr fun _ h' s' twin => ?_
      simp only [hook, twin.hooks, command, output, twin.hookRefs]

/-- What follows the installation of the GPU driver. -/
def testGpu (h : Host ω) : Except SagaError Unit → Action ω SagaError Unit
  | .ok _, s => s.forward h "gpu smoke test" (perform h .smokeTest) keep
  | .error e, s => (.error e, s)

/-- Set up GPUs if they are available. -/
def setUpAvailableGpu (h : Host ω) (available : Bool) : Action ω SagaError Unit := fun s =>
  if available then
    let x := s.forward h "install gpu driver" (perform h .installDriver) keep
    testGpu h x.1 x.2
  else (.error .missingGpu, s)

theorem setUpGpu_eq (h : Host ω) (needed : s.config.needsGpuDrivers = true) :
    s.setUpGpu h = setUpAvailableGpu h (h.provider.hasGpu s.world) s := by
  rw [setUpGpu, needed]
  cases available : h.provider.hasGpu s.world with
  | false => rfl
  | true =>
    simp only [setUpAvailableGpu, Bool.not_true, Bool.false_eq_true, if_false, if_true]
    cases s.forward h "install gpu driver" (perform h .installDriver) keep with
    | mk r t => cases r <;> rfl

theorem traced_setUpGpu
    (calls : ∀ stop : StopSignal, stop.origin = none →
      P.call stop .installDriver ∧ P.call stop .smokeTest) :
    Traced P (fun _ h => setUpGpu h) h s := by
  cases needed : s.config.needsGpuDrivers with
  | false =>
    refine (Traced.pure (Except.ok ())).congr fun _ h' s' twin => ?_
    rw [setUpGpu, twin.needsGpuDrivers, needed]
    rfl
  | true =>
    have step (name : String) (c : Call) (t : Session ω)
        (allowed : ∀ stop : StopSignal, stop.origin = none → P.call stop c) :
        Traced P (fun _ h s => s.forward h name (perform h c) keep) h t :=
      traced_forward name (fun _ h => perform h c) (fun y _ _ => keep y)
        (fun calm => traced_perform c (allowed _ calm)) (fun y _ => traced_keep y)
    have install := step "install gpu driver" .installDriver s fun stop calm => (calls stop calm).1
    have test (r : Except SagaError Unit) (t : Session ω) :
        Traced P (fun _ h => testGpu h r) h t := by
      cases r with
      | ok _ => exact step "gpu smoke test" .smokeTest t fun stop calm => (calls stop calm).2
      | error e => exact .pure (Except.error e)
    have setUp (available : Bool) : Traced P (fun _ h => setUpAvailableGpu h available) h s := by
      cases available with
      | false => exact .pure (Except.error SagaError.missingGpu)
      | true => exact install.andThen test
    have looked : Traced P (fun _ h s => setUpAvailableGpu h (h.provider.hasGpu s.world) s) h s :=
      .bind (q := fun available _ h => setUpAvailableGpu h available) traced_look (setUp _)
    exact looked.congr fun _ h' s' twin => setUpGpu_eq h' (twin.needsGpuDrivers.trans needed)

theorem traced_settleStage {reason : SettleReason} (timed : reason ≠ .compensationCooldown) :
    Traced P (fun _ h => settleStage h reason) h s := by
  have rest (ended : PauseEnd) (t : Session ω) : Traced P (fun _ _ t => match ended with
      | .elapsed => (Except.ok (), t)
      | .stopped origin => (.error (SagaError.interrupted origin reason.text), t)) h t := by
    cases ended with
    | elapsed => exact .pure _
    | stopped o => exact .pure _
  have settled := (traced_settle (P := P) (h := h) (s := s) .up reason timed).andThen rest
  refine settled.congr fun _ h' s' _ => ?_
  unfold settleStage
  cases s'.settle h' .up reason with
  | mk ended t => cases ended <;> rfl

theorem traced_uploadArtifacts (saga : Saga) (allowed : P.call s.stop .uploadArtifacts) :
    Traced P (fun _ h s => ((), s.uploadArtifacts h saga)) h s :=
  (traced_attempt saga "upload artifacts" (fun _ h => perform h .uploadArtifacts)
    (traced_perform .uploadArtifacts allowed)).andThen fun _ _ => .pure ()

theorem does_uploadArtifacts (saga : Saga) (allowed : P.call s.stop .uploadArtifacts) :
    Does P h s (s.uploadArtifacts h saga) :=
  (traced_uploadArtifacts saga allowed).does

/-! ## Collecting logs -/

theorem traced_fetchLogs (calls : ∀ stop k, P.call stop (.fetchLogs k)) (ks : List Component) :
    Traced P (fun _ h s => s.fetchLogs h ks) h s := by
  induction ks generalizing s with
  | nil => exact .pure false
  | cons k ks ih =>
    have first : Traced P (fun _ h s => s.fetchLogsOf h k) h s :=
      (traced_attempt .up s!"fetch_logs {k.label}" (fun _ h => perform h (.fetchLogs k))
        (traced_perform _ (calls _ k))).andThen fun r _ => .pure r.toBool
    have rest (here : Bool) (t : Session ω) :
        Traced P (fun _ h s => (here || (s.fetchLogs h ks).1, (s.fetchLogs h ks).2)) h t :=
      (@ih t).andThen fun there _ => .pure (here || there)
    exact first.andThen rest

theorem traced_aggregate (calls : ∀ stop k, P.call stop (.aggregate k)) (ks : List Component) :
    Traced P (fun _ h s => ((), ks.foldl (aggregateOf h) s)) h s := by
  induction ks generalizing s with
  | nil => exact .pure ()
  | cons k ks ih =>
    have first : Traced P (fun _ h s => ((), s.aggregateOf h k)) h s :=
      (traced_attempt .up s!"aggregate {k.label}" (fun _ h => perform h (.aggregate k))
        (traced_perform _ (calls _ k))).andThen fun _ _ => .pure ()
    exact first.andThen fun _ _ => ih

theorem traced_collect (fetches : ∀ stop k, P.call stop (.fetchLogs k))
    (aggregates : ∀ stop k, P.call stop (.aggregate k)) :
    Traced P (fun _ h s => ((), s.collect h)) h s := by
  cases idle : s.logTargets.isEmpty with
  | true =>
    refine (Traced.pure ()).congr fun _ h' s' twin => ?_
    simp only [collect, twin.logTargets, idle, if_true]
  | false =>
    have aggregated (fetched : Bool) (t : Session ω) : Traced P (fun _ h t =>
        ((), if fetched then t.aggregators.foldl (aggregateOf h) t else t)) h t := by
      cases fetched with
      | false => exact .pure ()
      | true =>
        refine (traced_aggregate aggregates t.aggregators).congr fun _ h' t' twin => ?_
        rw [twin.aggregators]
        rfl
    have fetched (_ : PauseEnd) (t : Session ω) := (traced_fetchLogs (h := h) (s := t) fetches
      ((s.logTargets.filter fun t => t.2.fetchesLogs).map (·.1))).andThen aggregated
    have collected :=
      (traced_settle (P := P) (h := h) (s := s) .up .logFetch (by simp)).andThen fetched
    refine collected.congr fun _ h' s' twin => ?_
    simp only [collect, twin.logTargets, idle]
    rfl

/-! ## Runs of stages -/

theorem traced_runAll {κ ε : Type} (run : κ → Program (Except ε Unit)) {l : List κ}
    (each : ∀ a ∈ l, ∀ t, Traced P (run a) h t) :
    Traced P (fun _ h s => s.runAll (fun a => run a h) l) h s := by
  induction l generalizing s with
  | nil => exact .pure (Except.ok ())
  | cons a l ih =>
    have rest (r : Except ε Unit) (t : Session ω) : Traced P (fun _ h t => match r with
        | .ok _ => t.runAll (fun a => run a h) l
        | .error e => (.error e, t)) h t := by
      cases r with
      | ok _ => exact ih fun b hb => each b (List.mem_cons_of_mem _ hb)
      | error e => exact .pure (Except.error e)
    refine ((each a List.mem_cons_self s).andThen rest).congr fun _ h' s' _ => ?_
    rw [runAll]
    cases run a h' s' with
    | mk r t => cases r <;> rfl

/-- What the stages before the collection of logs may do: they delete nothing, only record
creations, and once they have heard of the stop signal they make no call but uploads. -/
def planned : Policy where
  call stop c := c = .uploadArtifacts ∨ (∀ k, c ≠ .delete k) ∧ stop.origin = none
  change f := ∃ k y, f = recordCreated k y

/-- What a collection of logs may do: it fetches logs and aggregates results. -/
def collecting : Policy where
  call _ c := ∃ k, c = .fetchLogs k ∨ c = .aggregate k
  change _ := False

/-- What a provisioning may do: it deletes nothing and only records creations. -/
def provisioning : Policy where
  call _ c := ∀ k, c ≠ .delete k
  change f := ∃ k y, f = recordCreated k y

theorem planned_within : planned.Within provisioning where
  call stop c allowed k same := by
    rcases allowed with rfl | ⟨other, -⟩
    · cases same
    · exact other k same
  change _ allowed := allowed

theorem collecting_within : collecting.Within provisioning where
  call stop c allowed k same := by
    obtain ⟨k', rfl | rfl⟩ := allowed <;> cases same
  change _ allowed := allowed.elim

theorem traced_collecting (h : Host ω) (s : Session ω) :
    Traced collecting (fun _ h s => ((), s.collect h)) h s :=
  traced_collect (fun _ k => ⟨k, .inl rfl⟩) fun _ k => ⟨k, .inr rfl⟩

theorem does_collect (h : Host ω) (s : Session ω) : Does collecting h s (s.collect h) :=
  (traced_collecting h s).does

theorem traced_runStage {st : Stage} (ran : st ≠ .collect)
    (timed : st ≠ .settle .compensationCooldown) :
    Traced planned (fun _ h => runStage h st) h s := by
  cases st with
  | create k =>
    exact traced_create k (fun _ calm => .inr ⟨by simp, calm⟩) fun y => ⟨k, y, rfl⟩
  | settle reason => exact traced_settleStage fun same => timed (congrArg _ same)
  | health gate =>
    exact traced_forward gate.step (fun _ h => awaitHealth h) (fun y _ _ => keep y)
      (fun calm => traced_awaitHealth (fun _ calm => .inr ⟨by simp, calm⟩) calm)
      fun y _ => traced_keep y
  | hook p => exact traced_hook p fun _ _ _ calm => .inr ⟨by simp, calm⟩
  | gpu => exact traced_setUpGpu fun _ calm => ⟨.inr ⟨by simp, calm⟩, .inr ⟨by simp, calm⟩⟩
  | upload =>
    exact (traced_uploadArtifacts (P := planned) .up (.inl rfl)).andThen fun _ _ =>
      .pure (Except.ok ())
  | collect => exact absurd rfl ran

/-- **The stages before the collection of logs are a sequence of acts.** -/
theorem traced_runPlanned (h : Host ω) (s : Session ω) :
    Traced planned (fun _ h => runPlanned h) h s := by
  refine (traced_runAll (fun st _ h => runStage h st) (l := plannedStages s.registry)
    fun st mem _ => ?_).congr fun _ h' s' twin => by rw [runPlanned, twin.registry]
  exact traced_runStage (by rintro rfl; simp [plannedStages] at mem)
    (by rintro rfl; simp [plannedStages] at mem)

/-- **Provisioning is a sequence of acts.** -/
theorem traced_provision (h : Host ω) (s : Session ω) :
    Traced provisioning (fun _ h => provision h) h s := by
  have staged :
      Traced provisioning (fun _ h s => s.runAll (runStage h) (stages s.registry)) h s := by
    refine (traced_runAll (fun st _ h => runStage h st) (l := stages s.registry)
      fun st mem t => ?_).congr fun _ h' s' twin => by rw [twin.registry]
    by_cases last : st = .collect
    · subst last
      exact ((traced_collecting h t).andThen fun _ _ => .pure (Except.ok ())).mono
        collecting_within
    · refine (traced_runStage last ?_).mono planned_within
      rintro rfl
      simp [stages] at mem
  exact staged

/-- The up saga of an environment that is not recorded as up. -/
theorem up_eq_provision (writable : s.writable = true) (notUp : s.document.up = false) :
    s.up h =
      match s.provision h with
      | (.ok _, t) => (t.uploadArtifacts h .up).commit h fun now d => d.markUp now
      | (.error e, t) =>
        (.error e,
          let u := t.uploadArtifacts h .up
          if u.config.onFailure.delete then u.compensate h else u) := by
  have allowed : s.allow .up = .ok () := by simp [allow, writable]
  unfold up
  rw [allowed]
  simp only [notUp, Bool.false_eq_true, if_false]
  generalize s.provision h = x
  obtain ⟨r, t⟩ := x
  cases r <;> rfl

theorem up_eq (writable : s.writable = true) (notUp : s.document.up = false) :
    s.up h =
      match s.runPlanned h with
      | (.ok _, t) => ((t.collect h).uploadArtifacts h .up).commit h fun now d => d.markUp now
      | (.error e, t) =>
        (.error e,
          let u := t.uploadArtifacts h .up
          if u.config.onFailure.delete then u.compensate h else u) := by
  rw [up_eq_provision writable notUp, provision, stages_eq, runAll_append, runPlanned]
  generalize s.runAll (runStage h) (plannedStages s.registry) = x
  obtain ⟨r, t⟩ := x
  cases r <;> rfl

/-! ## Teardowns -/

/-- What a teardown may do: it uploads artifacts and deletes, and it records what is gone. -/
def tearingDown : Policy where
  call _ c := c = .uploadArtifacts ∨ ∃ k, c = .delete k
  change f := (∃ k, f = fun now d => d.set k false now) ∨ f = fun now d => d.markDown now

theorem does_settle (h : Host ω) (saga : Saga) (reason : SettleReason) (s : Session ω) :
    Does P h s (s.settle h saga reason).2 := by
  rw [settle_eq]
  have begins : Does P h s (s.begin saga .settle reason.text).2 :=
    (traced_begin saga .settle reason.text).does
  have pauses := (traced_pause (P := P) (h := h) (s := (s.begin saga .settle reason.text).2)
    (reason.seconds s.config)).does
  exact (begins.trans pauses).trans (traced_finish s.journal.next _ none ()).does

namespace Teardown

variable {u : Teardown ω}

theorem does_update {change : String → StateDocument → StateDocument}
    (allowed : P.change change) : Does P h u.session (u.update h change).session := by
  have updated := (traced_update (h := h) (s := u.session) change allowed).does
  unfold Teardown.update
  generalize u.session.update h change = x at updated ⊢
  obtain ⟨r, t⟩ := x
  cases r <;> exact updated

theorem does_delete (k : Component) (calls : ∀ stop, P.call stop (.delete k))
    (changes : P.change fun now d => d.set k false now) :
    Does P h u.session (u.delete h k).session := by
  have attempted := (traced_attempt (s := u.session) .down s!"delete {k.label}"
    (fun _ h => Session.perform h (.delete k)) (traced_perform (h := h) _ (calls _))).does
  rw [delete_eq]
  generalize u.session.attempt .down s!"delete {k.label}" (Session.perform h (.delete k)) = x
    at attempted ⊢
  obtain ⟨r, t⟩ := x
  cases r with
  | error e => exact attempted
  | ok _ => exact attempted.trans (does_update (u := { u with session := t }) changes)

theorem does_pause (reason : Option SettleReason) :
    Does P h u.session (reason.elim u fun r => u.settle h r).session := by
  cases reason with
  | none => exact .refl _
  | some reason => exact does_settle h .down reason u.session

theorem does_remove (r : Removal) : Does tearingDown h u.session (u.remove h r).2.session := by
  unfold Teardown.remove
  split
  · exact .refl _
  · split
    · exact .refl _
    · have deleted := does_delete (P := tearingDown) (h := h)
        (u := r.before.elim u fun reason => u.settle h reason) r.component
        (fun _ => .inr ⟨_, rfl⟩) (.inl ⟨_, rfl⟩)
      exact ((does_pause r.before).trans deleted).trans (does_pause r.after)

theorem does_removeAll (ks : List Removal) :
    Does tearingDown h u.session (u.removeAll h ks).2.session := by
  induction ks generalizing u with
  | nil => exact .refl _
  | cons r ks ih =>
    have removed := does_remove (h := h) (u := u) r
    unfold Teardown.removeAll
    generalize u.remove h r = x at removed ⊢
    obtain ⟨q, t⟩ := x
    cases q with
    | error e => exact removed
    | ok _ => exact removed.trans ih

end Teardown

theorem does_teardown (h : Host ω) (s : Session ω) : Does tearingDown h s (s.teardown h).2 := by
  have uploaded : Does tearingDown h s (s.uploadArtifacts h .down) :=
    does_uploadArtifacts .down (.inl rfl)
  have before := uploaded.trans (Teardown.does_removeAll (u := ⟨s.uploadArtifacts h .down, []⟩)
    (Removal.beforeRelease s.registry))
  rw [teardown_eq]
  generalize Teardown.removeAll h (Removal.beforeRelease s.registry)
    ⟨s.uploadArtifacts h .down, []⟩ = x at before ⊢
  obtain ⟨q, u⟩ := x
  cases q with
  | error e => exact before
  | ok _ =>
    have after := (before.trans (Teardown.does_pause s.releasePause)).trans
      (Teardown.does_removeAll Removal.afterRelease)
    dsimp only at after ⊢
    generalize Teardown.removeAll h Removal.afterRelease
      (s.releasePause.elim u fun reason => u.settle h reason) = x at after ⊢
    obtain ⟨q, v⟩ := x
    cases q with
    | error e => exact after
    | ok _ => exact after.trans (Teardown.does_update (.inr rfl))

/-- **A teardown is a sequence of acts.** -/
theorem does_down (h : Host ω) (s : Session ω) : Does tearingDown h s (s.down h).2 := by
  unfold down
  cases s.allow .down with
  | error e => exact .refl s
  | ok _ => exact does_teardown h s

theorem does_compensate (h : Host ω) (s : Session ω) : Does tearingDown h s (s.compensate h) :=
  (does_settle h .up .compensationCooldown s).trans (does_down h _)

end Testbed.Session
