import Testbed.Proofs.Causes
import Testbed.Proofs.Lockstep
import Testbed.Proofs.Success

/-!
# What nobody minds

Uploads, the collection of logs and the commands of hooks are done as well as they can be. Two runs
on hosts that answer all other calls alike are compared here; the calls that nobody minds may fail
in one of them and succeed in the other.

**Theorem (`best_effort`).** Two such runs of a saga give the same result, leave the same flags and
references, and make the same calls that matter, in the same order and with the same answers. For
the up saga this needs that the files of the hooks can be written and that no stop signal is heard.

The runs are in lockstep. They part only at the aggregation of results, which one may skip because
it has fetched no logs; from there on, all that matters is the last save.
-/

namespace Testbed

/-- Whether a saga minds how a call fares. -/
def Call.isDecisive : Call → Bool
  | .create _ | .delete _ | .checkHealth | .installDriver | .smokeTest => true
  | .fetchLogs _ | .aggregate _ | .uploadArtifacts | .run _ _ => false

namespace StateDocument

variable {d d' : StateDocument}

theorem timeless_recordCreated (same : d.timeless = d'.timeless) (k : Component)
    (y : (Call.create k).Yield) (now now' : String) :
    (Session.recordCreated k y now d).timeless = (Session.recordCreated k y now' d').timeless := by
  have set := timeless_set same k true now now'
  have cluster : (d.set k true now).cluster = (d'.set k true now').cluster := by
    have same := congrArg StateDocument.cluster set
    exact same
  show { (d.set k true now).timeless with
      cluster := (Call.refs? k y).getD (d.set k true now).cluster } = _
  rw [set, cluster]
  rfl

theorem timeless_markUp (d : StateDocument) (now : String) :
    (d.markUp now).timeless = { d.timeless with up := true } := rfl

end StateDocument

namespace Session

variable {ω ω' : Type} {h : Host ω} {h' : Host ω'} {R S : ω → ω' → Prop} {s : Session ω}
  {t : Session ω'}

/-! ## Calm sessions -/

/-- The session has heard of no stop signal. -/
def Calm (s : Session ω) : Prop := s.stop.origin = none

instance (s : Session ω) : Decidable (Calm s) := inferInstanceAs (Decidable (s.stop.origin = none))

/-- A step in a session that hears of no stop signal is its work and what it commits. -/
theorem forward_of_calm {α : Type} {step : String} {work : Action ω ProviderError α}
    {commit : α → Action ω SagaError Unit} (stops : ∀ a t, (commit a t).2.stop = t.stop)
    (calm : Calm (s.forward h step work commit).2) :
    Calm (work (begun h step s)).2 ∧
      s.forward h step work commit =
        match work (begun h step s) with
        | (.ok a, u) => commit a (u.finish s.journal.next .succeeded none)
        | (.error e, u) =>
          (.error (.step step e), u.finish s.journal.next .failed (some e.message)) := by
  have ends := forwarded h step work commit s
  generalize s.forward h step work commit = x at ends calm ⊢
  cases ends with
  | refused fired => cases fired.symm.trans calm
  | finished _ worked still =>
    rw [worked]
    exact ⟨still, rfl⟩
  | failed _ worked still =>
    rw [worked]
    exact ⟨still, rfl⟩
  | @finishedCut a u o _ worked fired =>
    obtain ⟨e, cut, -⟩ :=
      cutShort_fails o step (commit a (u.finish s.journal.next .interrupted none))
    rw [cut] at calm
    have same := congrArg StopSignal.origin (stops a (u.finish s.journal.next .interrupted none))
    cases (same.trans fired).symm.trans calm
  | failedCut _ _ fired => cases fired.symm.trans calm

/-! ## Ends that match -/

/-- The results are the same failure, or two values that are related. -/
inductive SameEnd {ε α : Type} (V : α → α → Prop) : Except ε α → Except ε α → Prop
  | ok {a b : α} (related : V a b) : SameEnd V (.ok a) (.ok b)
  | error (e : ε) : SameEnd V (.error e) (.error e)

theorem SameEnd.of_eq {ε α : Type} {r r' : Except ε α} (same : r = r') : SameEnd (· = ·) r r' := by
  subst same
  cases r with
  | ok a => exact .ok rfl
  | error e => exact .error e

/-- Two runs have given the same result and are in lockstep. -/
structure Matched (R : ω → ω' → Prop) (x : Except SagaError Unit × Session ω)
    (y : Except SagaError Unit × Session ω') : Prop where
  result : x.1 = y.1
  lockstep : Lockstep Call.isDecisive R x.2 y.2

/-- **A step.** If the work of both goes on in lockstep, and so does what they commit, then so do
the steps. -/
theorem Lockstep.forward {α : Type} {V : α → α → Prop} {step : String}
    {work : Action ω ProviderError α} {work' : Action ω' ProviderError α}
    {commit : α → Action ω SagaError Unit} {commit' : α → Action ω' SagaError Unit}
    (par : Lockstep Call.isDecisive R s t)
    (works : ∀ {s : Session ω} {t : Session ω'}, Lockstep Call.isDecisive R s t →
      Calm (work s).2 → Calm (work' t).2 →
        SameEnd V (work s).1 (work' t).1 ∧ Lockstep Call.isDecisive R (work s).2 (work' t).2)
    (commits : ∀ {a b : α} {s : Session ω} {t : Session ω'}, V a b →
      Lockstep Call.isDecisive R s t → Matched R (commit a s) (commit' b t))
    (stops : ∀ a t, (commit a t).2.stop = t.stop) (stops' : ∀ a t, (commit' a t).2.stop = t.stop)
    (calm : Calm (s.forward h step work commit).2)
    (calm' : Calm (t.forward h' step work' commit').2) :
    Matched R (s.forward h step work commit) (t.forward h' step work' commit') := by
  obtain ⟨still, ends⟩ := forward_of_calm stops calm
  obtain ⟨still', ends'⟩ := forward_of_calm stops' calm'
  have begins : Lockstep Call.isDecisive R (begun h step s) (begun h' step t) :=
    par.of_notes _ _ _ _
  obtain ⟨same, worked⟩ := works begins still still'
  rw [ends, ends']
  generalize work (begun h step s) = x at same worked ⊢
  generalize work' (begun h' step t) = y at same worked ⊢
  obtain ⟨r, u⟩ := x
  obtain ⟨r', v⟩ := y
  cases same with
  | ok related => exact commits related (worked.of_notes _ _ _ _)
  | error e => exact ⟨rfl, worked.of_notes _ _ _ _⟩

theorem matched_commit (alike : Corresponding Call.isDecisive h h' R)
    (par : Lockstep Call.isDecisive R s t) {change change' : String → StateDocument → StateDocument}
    (timeless : ∀ now now',
      (change now s.document).timeless = (change' now' t.document).timeless) :
    Matched R (s.commit h change) (t.commit h' change') := by
  obtain ⟨result, after⟩ := par.update alike timeless
  exact ⟨congrArg (Except.mapError SagaError.store) result, after⟩

/-- A step of one call that matters. -/
theorem matched_call (step : String) {c : Call} (decides : c.isDecisive = true)
    (alike : Corresponding Call.isDecisive h h' R) (par : Lockstep Call.isDecisive R s t)
    (calm : Calm (s.forward h step (perform h c) keep).2)
    (calm' : Calm (t.forward h' step (perform h' c) keep).2) :
    Matched R (s.forward h step (perform h c) keep) (t.forward h' step (perform h' c) keep) := by
  refine par.forward (V := (· = ·)) (fun par _ _ => ?_) (fun _ par => ⟨rfl, par⟩) (fun _ _ => rfl)
    (fun _ _ => rfl) calm calm'
  obtain ⟨result, after⟩ := par.perform alike c
  exact ⟨.of_eq (result decides), after⟩

/-! ## Stages -/

theorem matched_create (alike : Corresponding Call.isDecisive h h' R)
    (par : Lockstep Call.isDecisive R s t) (k : Component) (calm : Calm (s.create h k).2)
    (calm' : Calm (t.create h' k).2) : Matched R (s.create h k) (t.create h' k) := by
  unfold create at calm calm' ⊢
  rw [← par.config, ← par.isCreated_eq, ← par.registry] at calm' ⊢
  by_cases idle : (!s.config.wants k || s.document.isCreated k) = true
  · simp only [idle, if_true]
    exact ⟨rfl, par⟩
  · by_cases undriven : (!s.registry.drives k) = true
    · simp only [idle, undriven, Bool.false_eq_true, if_true, if_false]
      exact ⟨rfl, par⟩
    · simp only [idle, undriven, Bool.false_eq_true, if_false] at calm calm' ⊢
      refine par.forward (V := (· = ·)) (fun par _ _ => ?_) (fun same par => ?_)
        (fun _ _ => rfl) (fun _ _ => rfl) calm calm'
      · obtain ⟨result, after⟩ := par.perform alike (.create k)
        exact ⟨.of_eq (result rfl), after⟩
      · subst same
        exact matched_commit alike par fun now now' =>
          StateDocument.timeless_recordCreated par.document k _ now now'

theorem lockstep_pollHealth (alike : Corresponding Call.isDecisive h h' R) (interval retries : Nat)
    (par : Lockstep Call.isDecisive R s t) (calm : Calm (pollHealth h interval retries s).2)
    (calm' : Calm (pollHealth h' interval retries t).2) :
    (pollHealth h interval retries s).1 = (pollHealth h' interval retries t).1 ∧
      Lockstep Call.isDecisive R (pollHealth h interval retries s).2
        (pollHealth h' interval retries t).2 := by
  induction retries generalizing s t with
  | zero =>
    rw [pollHealth_zero, pollHealth_zero]
    obtain ⟨result, after⟩ := par.perform alike .checkHealth
    exact ⟨result rfl, after⟩
  | succ retries ih =>
    rw [pollHealth_succ] at calm calm' ⊢
    rw [pollHealth_succ]
    obtain ⟨result, after⟩ := par.perform alike .checkHealth
    have result := result rfl
    generalize perform h .checkHealth s = x at calm result after ⊢
    generalize perform h' .checkHealth t = y at calm' result after ⊢
    obtain ⟨r, u⟩ := x
    obtain ⟨r', v⟩ := y
    obtain rfl : r = r' := result
    cases r with
    | ok _ => exact ⟨rfl, after⟩
    | error e =>
      -- In a calm session, the pause before the next try takes its full length.
      have full {ω : Type} {h : Host ω} {u : Session ω}
          (calm : Calm (pollAgain h interval retries (.error e) u).2) :
          pollAgain h interval retries (.error e) u =
            pollHealth h interval retries (u.pause h interval).2 := by
        simp only [pollAgain] at calm ⊢
        cases ended : (u.pause h interval).1 with
        | elapsed => rfl
        | stopped o =>
          simp only [ended] at calm
          have elapsed : (u.pause h interval).1 = .elapsed := pauseEnd_eq_elapsed.2 calm
          cases ended.symm.trans elapsed
      have paused : Lockstep Call.isDecisive R (u.pause h interval).2 (v.pause h' interval).2 :=
        { after with world := alike.pause interval after.world }
      dsimp only at calm calm' ⊢
      have again := full calm
      have again' := full calm'
      rw [again] at calm ⊢
      rw [again'] at calm' ⊢
      exact ih paused calm calm'

theorem matched_health (alike : Corresponding Call.isDecisive h h' R)
    (par : Lockstep Call.isDecisive R s t) (gate : HealthGate)
    (calm : Calm (s.forward h gate.step (awaitHealth h) keep).2)
    (calm' : Calm (t.forward h' gate.step (awaitHealth h') keep).2) :
    Matched R (s.forward h gate.step (awaitHealth h) keep)
      (t.forward h' gate.step (awaitHealth h') keep) := by
  refine par.forward (V := (· = ·)) (fun {s t} par calm calm' => ?_) (fun _ par => ⟨rfl, par⟩)
    (fun _ _ => rfl) (fun _ _ => rfl) calm calm'
  have polls : awaitHealth h' t = pollHealth h' s.config.timings.healthInterval
      (s.config.timings.healthAttempts - 1) t := by
    rw [par.config]
    rfl
  rw [polls] at calm' ⊢
  obtain ⟨result, after⟩ := lockstep_pollHealth alike _ _ par calm calm'
  exact ⟨.of_eq result, after⟩

theorem matched_settle (alike : Corresponding Call.isDecisive h h' R)
    (par : Lockstep Call.isDecisive R s t) (reason : SettleReason)
    (calm : Calm (s.settleStage h reason).2) (calm' : Calm (t.settleStage h' reason).2) :
    Matched R (s.settleStage h reason) (t.settleStage h' reason) := by
  have full {ω : Type} {h : Host ω} {s : Session ω} (calm : Calm (s.settleStage h reason).2) :
      s.settleStage h reason = (.ok (), (s.settle h .up reason).2) := by
    have ended := settled h .up reason s
    unfold settleStage at calm ⊢
    generalize s.settle h .up reason = x at calm ended ⊢
    obtain ⟨r, u⟩ := x
    cases r with
    | elapsed => rfl
    | stopped o => cases ended.trans (pauseEnd_eq_elapsed.2 calm)
  rw [full calm, full calm']
  exact ⟨rfl, par.settle alike .up reason⟩

/-- What is asked of the hosts of two up sagas besides the answers to calls: that both or none can
set up GPUs, that the files of hooks can be written, and that the aggregation of results does not
bear on the last save. -/
structure Lenient (c : Config) (h : Host ω) (h' : Host ω') (R S : ω → ω' → Prop) : Prop where
  gpu {w : ω} {w' : ω'} (same : R w w') : h.provider.hasGpu w = h'.provider.hasGpu w'
  write {p : HookPoint} {path : String} (output : p.output c.hooks = some path)
    (body body' : String) {w : ω} {w' : ω'} (same : R w w') :
    (h.writeResult path body w).1 = .ok () ∧ (h'.writeResult path body' w').1 = .ok () ∧
      R (h.writeResult path body w).2 (h'.writeResult path body' w').2
  collected {w : ω} {w' : ω'} (same : R w w') : S w w'
  aggregate (k : Component) {w : ω} {w' : ω'} (same : S w w') :
    S (h.provider.perform (.aggregate k) w).2 w' ∧ S w (h'.provider.perform (.aggregate k) w').2
  upload {w : ω} {w' : ω'} (same : S w w') :
    S (h.provider.perform .uploadArtifacts w).2 (h'.provider.perform .uploadArtifacts w').2
  record {d d' : StateDocument} {w : ω} {w' : ω'} (same : S w w')
    (docs : d.timeless = d'.timeless) : (h.save d w).1 = (h'.save d' w').1

variable {c : Config}

theorem Lockstep.hookRefs_eq (par : Lockstep Call.isDecisive R s t) :
    Hook.refs s.config s.document = Hook.refs t.config t.document := by
  rw [Hook.refs, Hook.refs, par.config, par.cluster_eq]

theorem lockstep_runHook (alike : Corresponding Call.isDecisive h h' R)
    (par : Lockstep Call.isDecisive R s t) (command : String) :
    SameEnd (fun _ _ => True) (s.runHook h command).1 (t.runHook h' command).1 ∧
      Lockstep Call.isDecisive R (s.runHook h command).2 (t.runHook h' command).2 := by
  have ran := (par.perform alike (.run command (s.config.hooks.timeout * 1000))).2
  rw [par.config] at ran
  refine ⟨.ok trivial, ?_⟩
  show Lockstep Call.isDecisive R
    (Session.perform h (.run command (s.config.hooks.timeout * 1000)) s).2 _
  rw [par.config]
  exact ran

theorem matched_writeHook (lenient : Lenient c h h' R S) (par : Lockstep Call.isDecisive R s t)
    {p : HookPoint} {path : String} (output : p.output c.hooks = some path) (command : String)
    (r r' : Except ProviderError CommandOutput) :
    Matched R (s.writeHook h path command r) (t.writeHook h' path command r') := by
  obtain ⟨written, written', same⟩ := lenient.write output (Hook.render command r)
    (Hook.render command r') par.world
  refine ⟨?_, { par with world := same }⟩
  show (h.writeResult path _ s.world).1.mapError _ = (h'.writeResult path _ t.world).1.mapError _
  rw [written, written']

theorem matched_hook (alike : Corresponding Call.isDecisive h h' R) (lenient : Lenient c h h' R S)
    (par : Lockstep Call.isDecisive R s t) (config : s.config = c) (p : HookPoint)
    (calm : Calm (s.hook h p).2) (calm' : Calm (t.hook h' p).2) :
    Matched R (s.hook h p) (t.hook h' p) := by
  unfold hook at calm calm' ⊢
  rw [← par.hookRefs_eq, ← par.config] at calm' ⊢
  cases command : p.command s.config.hooks with
  | none => exact ⟨rfl, par⟩
  | some template =>
    cases output : p.output s.config.hooks with
    | none => exact ⟨rfl, par⟩
    | some path =>
      simp only [command, output] at calm calm' ⊢
      -- The command may fail in one run only; what it puts out goes to a file.
      refine par.forward (V := fun _ _ => True) (fun {s t} par _ _ => ?_)
        (fun _ par => matched_writeHook lenient par (config ▸ output) _ _ _)
        (fun _ _ => rfl) (fun _ _ => rfl) calm calm'
      exact lockstep_runHook alike par _

theorem matched_gpu (alike : Corresponding Call.isDecisive h h' R) (lenient : Lenient c h h' R S)
    (par : Lockstep Call.isDecisive R s t) (calm : Calm (s.setUpGpu h).2)
    (calm' : Calm (t.setUpGpu h').2) : Matched R (s.setUpGpu h) (t.setUpGpu h') := by
  unfold setUpGpu at calm calm' ⊢
  rw [← par.config, ← lenient.gpu par.world] at calm' ⊢
  by_cases idle : (!s.config.needsGpuDrivers) = true
  · simp only [idle, if_true]
    exact ⟨rfl, par⟩
  · by_cases missing : (!h.provider.hasGpu s.world) = true
    · simp only [idle, missing, Bool.false_eq_true, if_true, if_false]
      exact ⟨rfl, par⟩
    · simp only [idle, missing, Bool.false_eq_true, if_false] at calm calm' ⊢
      -- A step that succeeds ends calm, and one that fails is the last.
      have passed {ω : Type} {h : Host ω} {s : Session ω} :
          (s.forward h "install gpu driver" (perform h .installDriver) keep).1 = .ok () →
            Calm (s.forward h "install gpu driver" (perform h .installDriver) keep).2 :=
        calm_of_forward fun _ _ => rfl
      have install := matched_call "install gpu driver" (c := .installDriver) rfl alike par
      have calmed := passed (h := h) (s := s)
      have calmed' := passed (h := h') (s := t)
      generalize s.forward h "install gpu driver" (perform h .installDriver) keep = x
        at calm install calmed ⊢
      generalize t.forward h' "install gpu driver" (perform h' .installDriver) keep = y
        at calm' install calmed' ⊢
      obtain ⟨r, u⟩ := x
      obtain ⟨r', v⟩ := y
      have both : Matched R (r, u) (r', v) := by
        refine install ?_ ?_
        · cases r with
          | ok _ => exact calmed rfl
          | error e => exact calm
        · cases r' with
          | ok _ => exact calmed' rfl
          | error e => exact calm'
      obtain rfl : r = r' := both.result
      cases r with
      | error e => exact both
      | ok _ => exact matched_call _ rfl alike both.lockstep calm calm'

/-- **A stage** of two runs in lockstep. -/
theorem matched_runStage (alike : Corresponding Call.isDecisive h h' R)
    (lenient : Lenient c h h' R S) (par : Lockstep Call.isDecisive R s t) (config : s.config = c)
    {st : Stage} (planned : st ≠ .collect) (calm : Calm (runStage h st s).2)
    (calm' : Calm (runStage h' st t).2) : Matched R (runStage h st s) (runStage h' st t) := by
  cases st with
  | create k => exact matched_create alike par k calm calm'
  | settle reason => exact matched_settle alike par reason calm calm'
  | health gate => exact matched_health alike par gate calm calm'
  | hook p => exact matched_hook alike lenient par config p calm calm'
  | gpu => exact matched_gpu alike lenient par calm calm'
  | upload => exact ⟨rfl, par.uploadArtifacts alike .up⟩
  | collect => exact absurd rfl planned

/-- The stages before the collection of logs. -/
def Stage.IsPlanned (st : Stage) : Prop := st ≠ .collect ∧ st ≠ .settle .compensationCooldown

theorem does_stages {sts : List Stage} (planned : ∀ st ∈ sts, st.IsPlanned) (s : Session ω) :
    Does Session.planned h s (s.runAll (runStage h) sts).2 :=
  (traced_runAll (fun st _ h => runStage h st) fun st mem _ =>
    traced_runStage (planned st mem).1 (planned st mem).2).does

theorem calm_of_first {st : Stage} {sts : List Stage} (planned : ∀ st ∈ sts, st.IsPlanned)
    (calm : Calm (s.runAll (runStage h) (st :: sts)).2) : Calm (runStage h st s).2 := by
  unfold runAll at calm
  generalize runStage h st s = x at calm ⊢
  obtain ⟨r, u⟩ := x
  cases r with
  | error e => exact calm
  | ok _ => exact calm_of_does (does_stages planned u) calm

/-- **Stages, one after the other**, up to the first that fails in both runs. -/
theorem matched_runAll (alike : Corresponding Call.isDecisive h h' R) (lenient : Lenient c h h' R S)
    {sts : List Stage} (planned : ∀ st ∈ sts, st.IsPlanned) (par : Lockstep Call.isDecisive R s t)
    (config : s.config = c) (calm : Calm (s.runAll (runStage h) sts).2)
    (calm' : Calm (t.runAll (runStage h') sts).2) :
    Matched R (s.runAll (runStage h) sts) (t.runAll (runStage h') sts) := by
  induction sts generalizing s t with
  | nil => exact ⟨rfl, par⟩
  | cons st sts ih =>
    have rest : ∀ st ∈ sts, st.IsPlanned := fun st mem => planned st (List.mem_cons_of_mem _ mem)
    have here := (planned st List.mem_cons_self).1
    have first := matched_runStage alike lenient par config here (calm_of_first rest calm)
      (calm_of_first rest calm')
    obtain ⟨rs, es, report⟩ := staged h here s
    have config' := report.runs.grows.config.trans config
    unfold runAll at calm calm' ⊢
    generalize runStage h st s = x at calm first config' ⊢
    generalize runStage h' st t = y at calm' first ⊢
    obtain ⟨r, u⟩ := x
    obtain ⟨r', v⟩ := y
    obtain rfl : r = r' := first.result
    cases r with
    | error e => exact first
    | ok _ => exact ih rest first.lockstep config' calm calm'

theorem isPlanned_of_mem {r : Registry} {st : Stage} (mem : st ∈ plannedStages r) :
    st.IsPlanned := by
  constructor
  · rintro rfl
    simp [plannedStages] at mem
  · rintro rfl
    simp [plannedStages] at mem

/-! ## Collecting results -/

theorem Lockstep.logTargets_eq (par : Lockstep Call.isDecisive R s t) :
    s.logTargets = t.logTargets := by
  have groups (k : NodeGroupKind) : s.document.nodeGroupCreated k = t.document.nodeGroupCreated k :=
    congrFun par.isCreated_eq (.nodeGroup k)
  have addOns (k : AddOnKind) : s.document.addOnCreated k = t.document.addOnCreated k :=
    congrFun par.isCreated_eq (.addOn k)
  simp only [logTargets, par.config, par.registry, groups, addOns]

theorem lockstep_fetchLogs (alike : Corresponding Call.isDecisive h h' R) (ks : List Component)
    (par : Lockstep Call.isDecisive R s t) :
    Lockstep Call.isDecisive R (s.fetchLogs h ks).2 (t.fetchLogs h' ks).2 := by
  induction ks generalizing s t with
  | nil => exact par
  | cons k ks ih =>
    exact ih (par.attempt .up s!"fetch_logs {k.label}" fun par =>
      (par.perform alike (.fetchLogs k)).2)

/-- Only the first run aggregates results. -/
theorem lockstep_aggregate
    (aggregate : ∀ k (w : ω) (w' : ω'), S w w' → S (h.provider.perform (.aggregate k) w).2 w')
    (ks : List Component) (par : Lockstep Call.isDecisive S s t) :
    Lockstep Call.isDecisive S (ks.foldl (aggregateOf h) s) t := by
  induction ks generalizing s with
  | nil => exact par
  | cons k ks ih =>
    exact ih (par.attemptLeft .up s!"aggregate {k.label}" fun par =>
      par.callLeft rfl (aggregate k _ _ par.world))

/-- **Collecting results.** The runs may come to have fetched some logs and none. -/
theorem lockstep_collect (alike : Corresponding Call.isDecisive h h' R)
    (lenient : Lenient c h h' R S) (par : Lockstep Call.isDecisive R s t) :
    Lockstep Call.isDecisive S (s.collect h) (t.collect h') := by
  unfold collect
  rw [← par.logTargets_eq]
  by_cases idle : s.logTargets.isEmpty = true
  · simp only [idle, if_true]
    exact par.mono (lenient.collected par.world)
  · simp only [idle, Bool.false_eq_true, if_false]
    have fetched := lockstep_fetchLogs alike
      ((s.logTargets.filter fun t => t.2.fetchesLogs).map (·.1)) (par.settle alike .up .logFetch)
    generalize Session.fetchLogs h _ (s.settle h .up .logFetch).2 = x at fetched ⊢
    generalize Session.fetchLogs h' _ (t.settle h' .up .logFetch).2 = y at fetched ⊢
    obtain ⟨some, u⟩ := x
    obtain ⟨some', v⟩ := y
    have after : Lockstep Call.isDecisive S u v := fetched.mono (lenient.collected fetched.world)
    have left {u : Session ω} {v : Session ω'} (par : Lockstep Call.isDecisive S u v) :
        Lockstep Call.isDecisive S (u.aggregators.foldl (aggregateOf h) u) v :=
      lockstep_aggregate (fun k _ _ same => (lenient.aggregate k same).1) _ par
    have right {u : Session ω} {v : Session ω'} (par : Lockstep Call.isDecisive S u v) :
        Lockstep Call.isDecisive S u (v.aggregators.foldl (aggregateOf h') v) :=
      (lockstep_aggregate (fun k _ _ same => (lenient.aggregate k same).2) _ par.symm).symm
    cases some with
    | false =>
      cases some' with
      | false => exact after
      | true => exact right after
    | true =>
      cases some' with
      | false => exact left after
      | true => exact left (right after)

/-! ## Bringing up -/

theorem calm_of_up (isWritable : s.writable = true) (notUp : s.document.up = false)
    (calm : Calm (s.up h).2) : Calm (s.runPlanned h).2 := by
  rw [up_eq isWritable notUp] at calm
  generalize s.runPlanned h = x at calm ⊢
  obtain ⟨r, u⟩ := x
  have uploads (u : Session ω) : Does tearingDown h u (u.uploadArtifacts h .up) :=
    does_uploadArtifacts .up (.inl rfl)
  cases r with
  | ok _ =>
    have uploaded : Calm ((u.collect h).uploadArtifacts h .up) := calm
    exact calm_of_does (does_collect h u) (calm_of_does (uploads _) uploaded)
  | error e =>
    refine calm_of_does (uploads u) ?_
    dsimp only at calm
    split at calm
    · exact calm_of_does (does_compensate h _) calm
    · exact calm

/-- The end of a run whose provisioning has succeeded. -/
theorem matched_finish (alike : Corresponding Call.isDecisive h h' R)
    (lenient : Lenient c h h' R S) (par : Lockstep Call.isDecisive R s t) :
    Matched (fun _ _ => True)
      (((s.collect h).uploadArtifacts h .up).commit h fun now d => d.markUp now)
      (((t.collect h').uploadArtifacts h' .up).commit h' fun now d => d.markUp now) := by
  have uploaded := (lockstep_collect alike lenient par).attempt (S := S) .up "upload artifacts"
    fun par => par.call (c := .uploadArtifacts) (fun decides => nomatch decides)
      (lenient.upload par.world)
  change Lockstep _ _ ((s.collect h).uploadArtifacts h .up) ((t.collect h').uploadArtifacts h' .up)
    at uploaded
  generalize (s.collect h).uploadArtifacts h .up = u at uploaded ⊢
  generalize (t.collect h').uploadArtifacts h' .up = v at uploaded ⊢
  have docs : (u.update h fun now d => d.markUp now).2.document.timeless =
      (v.update h' fun now d => d.markUp now).2.document.timeless := by
    show (u.document.markUp (h.now u.world)).timeless =
      (v.document.markUp (h'.now v.world)).timeless
    rw [StateDocument.timeless_markUp, StateDocument.timeless_markUp, uploaded.document]
  exact ⟨congrArg (Except.mapError SagaError.store) (lenient.record uploaded.world docs),
    uploaded.change docs trivial⟩

/-- The end of a run whose provisioning has failed. -/
theorem matched_revert (alike : Corresponding Call.isDecisive h h' R)
    (par : Lockstep Call.isDecisive R s t) (e : SagaError) :
    Matched R
      (.error e, let u := s.uploadArtifacts h .up
        if u.config.onFailure.delete then u.compensate h else u)
      (.error e, let u := t.uploadArtifacts h' .up
        if u.config.onFailure.delete then u.compensate h' else u) := by
  have uploaded := par.uploadArtifacts alike .up
  refine ⟨rfl, ?_⟩
  dsimp only
  rw [← uploaded.config]
  split
  · exact (lockstep_down (fun _ => rfl) alike
      (uploaded.settle alike .up .compensationCooldown)).2
  · exact uploaded

theorem Matched.mono {x : Except SagaError Unit × Session ω}
    {y : Except SagaError Unit × Session ω'} (both : Matched R x y) :
    Matched (fun _ _ => True) x y :=
  ⟨both.result, both.lockstep.mono trivial⟩

theorem matched_up (alike : Corresponding Call.isDecisive h h' R)
    (lenient : Lenient s.config h h' R S) (par : Lockstep Call.isDecisive R s t)
    (calm : Calm (s.up h).2) (calm' : Calm (t.up h').2) :
    Matched (fun _ _ => True) (s.up h) (t.up h') := by
  cases isWritable : s.writable with
  | false =>
    have refused : s.allow .up = .error (.readOnly .up) := by simp [allow, isWritable]
    unfold Session.up
    rw [← par.allow_eq, refused]
    exact ⟨rfl, par.mono trivial⟩
  | true =>
    have isWritable' := par.writable.symm.trans isWritable
    cases up : s.document.up with
    | true =>
      rw [up_of_writable isWritable up, up_of_writable isWritable' (par.up_eq.symm.trans up)]
      exact ⟨rfl, par.mono trivial⟩
    | false =>
      have up' := par.up_eq.symm.trans up
      have ran := matched_runAll alike lenient (fun _ => isPlanned_of_mem) par rfl
        (calm_of_up isWritable up calm)
        (by rw [par.registry]; exact calm_of_up isWritable' up' calm')
      have same : t.runAll (runStage h') (plannedStages s.registry) = t.runPlanned h' := by
        rw [par.registry]
        rfl
      rw [same] at ran
      change Matched R (s.runPlanned h) _ at ran
      rw [up_eq isWritable up, up_eq isWritable' up']
      generalize s.runPlanned h = x at ran ⊢
      generalize t.runPlanned h' = y at ran ⊢
      obtain ⟨r, u⟩ := x
      obtain ⟨r', v⟩ := y
      obtain rfl : r = r' := ran.result
      cases r with
      | ok _ => exact matched_finish alike lenient ran.lockstep
      | error e => exact (matched_revert alike ran.lockstep e).mono

/-- What two runs of a saga have in common: the result, the flags, the references to the control
plane, whether the environment is up, and the calls that matter with how they failed. -/
structure SameOutcome (x : Except SagaError Unit × Session ω)
    (y : Except SagaError Unit × Session ω') : Prop where
  result : x.1 = y.1
  flags : x.2.document.isCreated = y.2.document.isCreated
  cluster : x.2.document.cluster = y.2.document.cluster
  up : x.2.document.up = y.2.document.up
  calls : decisive Call.isDecisive x.2.history = decisive Call.isDecisive y.2.history

theorem Matched.sameOutcome {x : Except SagaError Unit × Session ω}
    {y : Except SagaError Unit × Session ω'} (both : Matched R x y) : SameOutcome x y where
  result := both.result
  flags := both.lockstep.isCreated_eq
  cluster := both.lockstep.cluster_eq
  up := both.lockstep.up_eq
  calls := both.lockstep.calls

/-- **Best-effort work decides nothing.** Take two sessions in lockstep on hosts that answer alike
to the calls that matter. Teardowns have the same outcome. So have up sagas that hear no stop
signal, if the files of their hooks can be written. -/
theorem best_effort (alike : Corresponding Call.isDecisive h h' R)
    (par : Lockstep Call.isDecisive R s t) :
    SameOutcome (s.down h) (t.down h') ∧
      ∀ S : ω → ω' → Prop, Lenient s.config h h' R S → Calm (s.up h).2 → Calm (t.up h').2 →
        SameOutcome (s.up h) (t.up h') := by
  refine ⟨?_, fun S lenient calm calm' => (matched_up alike lenient par calm calm').sameOutcome⟩
  obtain ⟨result, after⟩ := lockstep_down (fun _ => rfl) alike par
  exact Matched.sameOutcome ⟨result, after⟩

/-! ## Rehearsed runs -/

/-- A rehearsal as a host, with a store and files that never fail. -/
def rehearsalHost : Host Rehearsal where
  provider := Rehearsal.provider 0
  load _ := .ok none
  save _ r := (.ok (), r)
  writeResult _ _ r := (.ok (), r)
  pause _ r := ([], r)
  now _ := "noon"

/-- The same calls that matter fail in both rehearsals, and nothing happens during calls. -/
structure SameTroubles (r r' : Rehearsal) : Prop where
  failures : ∀ c : Call, c.isDecisive = true → r.outcome c.label = r'.outcome c.label
  gpu : r.hasGpu = r'.hasGpu
  idle : r.cues = []
  idle' : r'.cues = []

theorem perform_of_idle {r : Rehearsal} (idle : r.cues = []) (c : Call) :
    rehearsalHost.provider.perform c r =
      (⟨Rehearsal.yield (r.outcome c.label) c, []⟩, { r with calls := r.calls ++ [c.label] }) := by
  have cues (call : String) : r.cuesOf call = [] := by rw [Rehearsal.cuesOf, idle]; rfl
  have noted : r.note c.label = { r with calls := r.calls ++ [c.label] } := by
    rw [Rehearsal.note, cues]
    rfl
  show (Reply.mk (r.perform c).1 _, (r.perform c).2) = _
  rw [Rehearsal.perform, noted, Rehearsal.firedBy, cues]
  rfl

theorem corresponding_rehearsals :
    Corresponding Call.isDecisive rehearsalHost rehearsalHost SameTroubles where
  perform c r r' same := by
    rw [perform_of_idle same.idle, perform_of_idle same.idle']
    refine ⟨fun decides => ?_, ⟨same.failures, same.gpu, same.idle, same.idle'⟩⟩
    show Rehearsal.yield (r.outcome c.label) c = Rehearsal.yield (r'.outcome c.label) c
    rw [same.failures c decides]
  save same _ := ⟨rfl, same⟩
  pause _ _ _ same := same

theorem lenient_rehearsals (c : Config) :
    Lenient c rehearsalHost rehearsalHost SameTroubles SameTroubles where
  gpu same := same.gpu
  write _ _ _ _ _ same := ⟨rfl, rfl, same⟩
  collected same := same
  aggregate k r r' same := by
    rw [perform_of_idle same.idle, perform_of_idle same.idle']
    exact ⟨⟨same.failures, same.gpu, same.idle, same.idle'⟩,
      ⟨same.failures, same.gpu, same.idle, same.idle'⟩⟩
  upload same := (corresponding_rehearsals.perform .uploadArtifacts same).2
  record _ _ := rfl

/-- A configuration with both hooks, whose logs are to be collected, with an add-on that aggregates
results. -/
def inquisitiveConfig : Config :=
  { thoroughConfig with
    nodeGroups := { thoroughConfig.nodeGroups with fetchLogs := true }
    addOns := .ofList [(AddOnKind.csrsRemote.name, { enable := true })] }

/-- A rehearsal in which all that nobody minds fails. -/
def clumsyRehearsal : Rehearsal where
  failures := ["upload_artifacts", "fetch_logs node_group:unmanaged", "run list nodes",
    "run list pods"].map fun call => (call, "no route to host")

theorem best_effort_clumsyRehearsal :
    let s := firstSession rehearsalHost inquisitiveConfig {} {}
    let t := firstSession rehearsalHost inquisitiveConfig {} clumsyRehearsal
    SameOutcome (s.down rehearsalHost) (t.down rehearsalHost) ∧
      SameOutcome (s.up rehearsalHost) (t.up rehearsalHost) ∧
      "aggregate add_on:csrs_remote" ∈ (s.up rehearsalHost).2.world.calls ∧
      "aggregate add_on:csrs_remote" ∉ (t.up rehearsalHost).2.world.calls := by
  intro s t
  have troubles : SameTroubles {} clumsyRehearsal := by
    refine ⟨fun c decides => ?_, rfl, rfl, rfl⟩
    have fine : clumsyRehearsal.failures.lookup c.label = none := by
      cases c with
      | create k => cases k with | _ k => cases k <;> decide +kernel
      | delete k => cases k with | _ k => cases k <;> decide +kernel
      | checkHealth => decide +kernel
      | installDriver => decide +kernel
      | smokeTest => decide +kernel
      | _ => cases decides
    unfold Rehearsal.outcome
    rw [fine]
    rfl
  have par : Lockstep Call.isDecisive SameTroubles s t := ⟨rfl, rfl, rfl, rfl, rfl, troubles⟩
  obtain ⟨down, up⟩ := best_effort corresponding_rehearsals par
  exact ⟨down, up _ (lenient_rehearsals _) (by decide +kernel) (by decide +kernel),
    by decide +kernel, by decide +kernel⟩

end Session

end Testbed
