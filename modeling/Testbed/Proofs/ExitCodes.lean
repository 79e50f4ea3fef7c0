import Testbed.Proofs.Sharing
import Testbed.Proofs.Sites

/-!
# Exit codes and messages

The exit code of a command that failed is read off the first words of its message. Messages carry
names, paths and what providers say, none of which the program chooses. But whatever a message
carries comes after words of the program's own, and these already decide: two of the failures'
beginnings are never such that one begins with the other (`Apart`).

The one message that begins with something carried is that of a failed step. A session fails in
steps of its own only, whose names are known (`StepName`), whatever the provider answers
(`proper_up`, `proper_down`, `proper_dumpLogs`).

**Theorem (`exitCode_of_failure`).** On every site whose configuration and providers fail as they do
in the program, the exit code of every failure tells exactly which kind of failure it is.
-/

namespace Testbed

/-! ## Failures of sessions -/

/-- What the steps are called that a session can fail in. -/
inductive StepName : String → Prop
  | create (c : Component) : StepName s!"create {c.label}"
  | health (gate : Session.HealthGate) : StepName gate.step
  | hook (p : HookPoint) : StepName s!"hook {p.name}"
  | driver : StepName "install gpu driver"
  | smokeTest : StepName "gpu smoke test"
  | logs (k : NodeGroupKind) : StepName s!"fetch_logs {k.label}"

/-- If the failure is that of a step, then of one of the program's own. -/
def SagaError.Proper : SagaError → Prop
  | .step name _ => StepName name
  | _ => True

namespace Session

variable {ω α : Type} {h : Host ω} {s : Session ω} {step : String}

/-- If this is a failure, it is a proper one. -/
def FailsProperly (x : Except SagaError α × Session ω) : Prop := ∀ e, x.1 = .error e → e.Proper

theorem proper_ok (a : α) (s : Session ω) : FailsProperly (.ok a, s) :=
  fun _ failed => nomatch failed

theorem proper_error {e : SagaError} (proper : e.Proper) (s : Session ω) :
    FailsProperly (α := α) (.error e, s) := by
  rintro e' ⟨⟩
  exact proper

theorem proper_step (name : StepName step) (source : ProviderError) (s : Session ω) :
    FailsProperly (α := α) (.error (.step step source), s) := proper_error (e := .step _ _) name s

theorem proper_commit (h : Host ω) (change : String → StateDocument → StateDocument)
    (s : Session ω) : FailsProperly (s.commit h change) := by
  intro e failed
  obtain ⟨f, d, rfl, -⟩ := failed_commit failed
  trivial

theorem proper_forward (name : StepName step) {work : Action ω ProviderError α}
    {commit : α → Action ω SagaError Unit} (commits : ∀ a t, FailsProperly (commit a t)) :
    FailsProperly (s.forward h step work commit) := by
  have ends := forwarded h step work commit s
  generalize s.forward h step work commit = x at ends
  cases ends with
  | refused => exact proper_error (by trivial) _
  | finished => exact commits _ _
  | failed => exact proper_step name _ _
  | @finishedCut a t o =>
    obtain ⟨e, cut, ended⟩ := cutShort_fails o step
      (commit a (t.finish s.journal.next .interrupted none))
    rw [cut]
    refine proper_error ?_ _
    rcases ended with uncommitted | rfl
    · exact commits _ _ e uncommitted
    · trivial
  | failedCut => exact proper_error (by trivial) _

theorem proper_keep (a : α) (t : Session ω) : FailsProperly (keep a t) := proper_ok () t

theorem proper_runAll {β : Type} {run : β → Action ω SagaError Unit}
    (each : ∀ b t, FailsProperly (run b t)) (bs : List β) (s : Session ω) :
    FailsProperly (s.runAll run bs) := by
  induction bs generalizing s with
  | nil => exact proper_ok () s
  | cons b bs ih =>
    have first := each b s
    unfold runAll
    generalize run b s = x at first
    obtain ⟨r, t⟩ := x
    cases r with
    | error e => exact first
    | ok _ => exact ih t

/-! ## Stages -/

theorem proper_create (h : Host ω) (k : Component) (s : Session ω) :
    FailsProperly (s.create h k) := by
  unfold create
  split
  · exact proper_ok () s
  · split
    · exact proper_error (by trivial) s
    · exact proper_forward (.create k) fun y t => proper_commit h _ t

theorem proper_writeHook (h : Host ω) (path command : String)
    (r : Except ProviderError CommandOutput) (s : Session ω) :
    FailsProperly (writeHook h path command r s) := by
  unfold writeHook
  generalize h.writeResult path (Hook.render command r) s.world = x
  obtain ⟨q, w⟩ := x
  cases q with
  | ok _ => exact proper_ok () _
  | error e => exact proper_error (by trivial) _

theorem proper_hook (h : Host ω) (p : HookPoint) (s : Session ω) : FailsProperly (s.hook h p) := by
  unfold hook
  split
  · exact proper_ok () s
  · exact proper_error (by trivial) s
  · exact proper_forward (.hook p) fun r t => proper_writeHook h _ _ r t

theorem proper_setUpGpu (h : Host ω) (s : Session ω) : FailsProperly (s.setUpGpu h) := by
  unfold setUpGpu
  split
  · exact proper_ok () s
  · split
    · exact proper_error (by trivial) s
    · have install :
          FailsProperly (s.forward h "install gpu driver" (perform h .installDriver) keep) :=
        proper_forward .driver proper_keep
      generalize s.forward h "install gpu driver" (perform h .installDriver) keep = x at install
      obtain ⟨r, t⟩ := x
      cases r with
      | error e => exact install
      | ok _ => exact proper_forward .smokeTest proper_keep

theorem proper_settleStage (h : Host ω) (reason : SettleReason) (s : Session ω) :
    FailsProperly (s.settleStage h reason) := by
  unfold settleStage
  generalize s.settle h .up reason = x
  obtain ⟨r, t⟩ := x
  cases r with
  | elapsed => exact proper_ok () t
  | stopped o => exact proper_error (by trivial) t

theorem proper_runStage (h : Host ω) (st : Stage) (s : Session ω) :
    FailsProperly (runStage h st s) := by
  cases st with
  | create k => exact proper_create h k s
  | settle reason => exact proper_settleStage h reason s
  | health gate => exact proper_forward (.health gate) proper_keep
  | hook p => exact proper_hook h p s
  | gpu => exact proper_setUpGpu h s
  | upload => exact proper_ok () _
  | collect => exact proper_ok () _

/-! ## Whole operations -/

/-- **The up saga fails in steps of its own only.** -/
theorem proper_up (h : Host ω) (s : Session ω) : FailsProperly (s.up h) := by
  have provisioned : FailsProperly (s.provision h) := proper_runAll (proper_runStage h) _ s
  unfold up
  cases allowed : s.allow .up with
  | error e =>
    unfold allow at allowed
    split at allowed
    · cases allowed
    · cases allowed
      exact proper_error (by trivial) s
  | ok _ =>
    dsimp only
    split
    · exact proper_ok () s
    · generalize s.provision h = x at provisioned
      obtain ⟨r, t⟩ := x
      cases r with
      | ok _ => exact proper_commit h _ _
      | error e => exact proper_error (provisioned e rfl) _

/-- **The down saga fails in no step**: it goes on, and tells of all its faults together. -/
theorem proper_down (h : Host ω) (s : Session ω) : FailsProperly (s.down h) := by
  unfold down allow
  split
  · next refused =>
    split at refused
    · cases refused
    · cases refused
      exact proper_error (by trivial) s
  · obtain ⟨u, -, -, -, -, result⟩ := tallied_teardown h s
    intro e failed
    rcases result with result | ⟨e', result, k, rfl, -⟩
    · rw [result, Teardown.result] at failed
      split at failed
      · cases failed
      · cases failed
        trivial
    · rw [result] at failed
      cases failed
      trivial

theorem proper_dumpLogsOf (h : Host ω) (k : NodeGroupKind) (s : Session ω) :
    FailsProperly (s.dumpLogsOf h k) := by
  unfold dumpLogsOf
  dsimp only
  split
  · exact proper_ok () s
  · split
    · exact proper_error (by trivial) s
    · split
      · exact proper_ok () s
      · generalize s.perform h (.fetchLogs (.nodeGroup k)) = x
        obtain ⟨r, t⟩ := x
        cases r with
        | ok _ => exact proper_ok () t
        | error e => exact proper_step (.logs k) _ t

/-- **The collection of logs fails in steps of its own only.** -/
theorem proper_dumpLogs (h : Host ω) (s : Session ω) : FailsProperly (s.dumpLogs h) :=
  proper_runAll (proper_dumpLogsOf h) _ s

theorem proper_startingDocument {c : Config} {w : ω} {e : SagaError}
    (missing : startingDocument h c w = .error e) : e.Proper := by
  cases loaded : h.load w with
  | error unread =>
    simp only [startingDocument, loaded] at missing
    cases missing
    trivial
  | ok stored =>
    cases stored with
    | none =>
      rw [startingDocument_of_empty loaded] at missing
      cases missing
    | some d =>
      rw [startingDocument_of_stored loaded] at missing
      split at missing
      · cases missing
      · cases missing
        trivial

/-- **An opening takes no step.** -/
theorem proper_of_start {c : Config} {writable : Bool} {stop : StopSignal} {w : ω} {e : SagaError}
    (failed : (start h c writable stop w).1 = .error e) : e.Proper := by
  cases valid : c.validate with
  | error fault =>
    rw [start_of_invalid valid] at failed
    cases failed
    trivial
  | ok _ =>
    cases loaded : startingDocument h c w with
    | error missing =>
      rw [start_of_missing valid loaded] at failed
      cases failed
      exact proper_startingDocument loaded
    | ok d =>
      rw [start_of_loaded valid loaded] at failed
      generalize (starting h c writable stop w (d.syncIntent c)).update h (fun _ d => d) = x
        at failed
      obtain ⟨r, t⟩ := x
      cases writable with
      | false => cases failed
      | true =>
        cases r with
        | ok _ => cases failed
        | error unsaved =>
          cases failed
          trivial

end Session

namespace Cli

/-! ## The beginnings of messages -/

/-- Neither of two texts begins with the other. -/
def Apart (a b : String) : Prop := ¬ a.toList <+: b.toList ∧ ¬ b.toList <+: a.toList

instance (a b : String) : Decidable (Apart a b) := inferInstanceAs (Decidable (_ ∧ _))

/-- The words that tell the kinds of failure apart. -/
def marks : List String := ["config error:", "state store error:", "state lock:", "interrupted"]

/-- Words that say of no kind that it is theirs, whatever may follow. -/
def Unmarked (words : String) : Prop := ∀ mark ∈ marks, Apart words mark

instance (words : String) : Decidable (Unmarked words) := List.decidableBAll _ _

variable {words mark message step : String}

theorem beginsWith_self (words : String) : beginsWith words words = true := by simp [beginsWith]

theorem beginsWith_more (begins : beginsWith message words = true) (rest : String) :
    beginsWith (message ++ rest) words = true := by
  have whole : words.toList <+: message.toList := by simpa [beginsWith] using begins
  simpa [beginsWith] using whole.trans (List.prefix_append _ rest.toList)

/-- What a message begins with decides about all words that are apart from it. -/
theorem beginsWith_of_apart (apart : Apart words mark) (begins : beginsWith message words = true) :
    beginsWith message mark = false := by
  have whole : words.toList <+: message.toList := by simpa [beginsWith] using begins
  cases other : beginsWith message mark with
  | false => rfl
  | true =>
    have marked : mark.toList <+: message.toList := by simpa [beginsWith] using other
    rcases List.prefix_or_prefix_of_prefix whole marked with inside | inside
    · exact absurd inside apart.1
    · exact absurd inside apart.2

theorem exitCodeOf_unmarked (unmarked : Unmarked words)
    (begins : beginsWith message words = true) : exitCodeOf message = 1 := by
  have other : ∀ mark ∈ marks, beginsWith message mark = false := fun mark mem =>
    beginsWith_of_apart (unmarked mark mem) begins
  simp only [marks, List.forall_mem_cons] at other
  obtain ⟨config, store, lock, interrupted, -⟩ := other
  simp [exitCodeOf, FailureKind.ofMessage, config, store, lock, interrupted, FailureKind.exitCode]

theorem exitCodeOf_config (begins : beginsWith message "config error:" = true) :
    exitCodeOf message = 2 := by
  simp [exitCodeOf, FailureKind.ofMessage, begins, FailureKind.exitCode]

theorem exitCodeOf_interrupted (begins : beginsWith message "interrupted" = true) :
    exitCodeOf message = 4 := by
  have config : beginsWith message "config error:" = false :=
    beginsWith_of_apart (by decide) begins
  have store : beginsWith message "state store error:" = false :=
    beginsWith_of_apart (by decide) begins
  have lock : beginsWith message "state lock:" = false := beginsWith_of_apart (by decide) begins
  simp [exitCodeOf, FailureKind.ofMessage, begins, config, store, lock, FailureKind.exitCode]

/-! ## The messages of failures -/

theorem exitCodeOf_step (name : StepName step) (source : ProviderError) :
    exitCodeOf (SagaError.step step source).message = 1 := by
  have begins {words : String} (first : beginsWith step words = true) :
      beginsWith (SagaError.step step source).message words = true :=
    beginsWith_more (beginsWith_more first _) _
  cases name with
  | create k => exact exitCodeOf_unmarked (by decide) (begins (beginsWith_append "create " _))
  | health gate =>
    have check : beginsWith gate.step "check " = true := by cases gate <;> decide
    exact exitCodeOf_unmarked (by decide) (begins check)
  | hook p => exact exitCodeOf_unmarked (by decide) (begins (beginsWith_append "hook " _))
  | driver => exact exitCodeOf_unmarked (by decide) (begins (beginsWith_self _))
  | smokeTest => exact exitCodeOf_unmarked (by decide) (begins (beginsWith_self _))
  | logs k => exact exitCodeOf_unmarked (by decide) (begins (beginsWith_append "fetch_logs " _))

/-- The failures that commands end with. What texts they carry does not matter. -/
def Failure.Usual : Failure → Prop
  | .saga e => e.Proper
  | .provider e => ∃ name, e = .unavailable name
  | _ => True

/-- **The first words of a message** are always those of its kind of failure. -/
theorem exitCodeOf_message {f : Failure} (usual : f.Usual) :
    exitCodeOf f.message = f.kind.exitCode := by
  -- What is not marked begins with the words of a message up to the first text that it carries.
  cases f with
  | config e => exact exitCodeOf_config (beginsWith_more (by decide) _)
  | store e => exact exitCode_store e
  | lock e => exact exitCode_lock e
  | saga e =>
    cases e with
    | config e => exact exitCodeOf_config (beginsWith_more (by decide) _)
    | store e => exact exitCode_store e
    | step name source => exact exitCodeOf_step usual source
    | interrupted origin name =>
      have begins : beginsWith ("interrupted by " ++ origin.text) "interrupted" = true :=
        beginsWith_more (by decide) _
      exact exitCodeOf_interrupted
        (beginsWith_more (beginsWith_more (beginsWith_more begins _) _) _)
    | missingHandle c =>
      exact exitCodeOf_unmarked (by decide) (beginsWith_more (beginsWith_append _ _) _)
    | missingGpu => decide
    | hookOutput path e =>
      exact exitCodeOf_unmarked (by decide)
        (beginsWith_more (beginsWith_more (beginsWith_append _ _) _) _)
    | teardown faults => exact exitCodeOf_unmarked (by decide) (beginsWith_append _ _)
    | stateMismatch expected found =>
      exact exitCodeOf_unmarked (by decide)
        (beginsWith_more (beginsWith_more (beginsWith_more (beginsWith_append _ _) _) _) _)
    | readOnly saga =>
      exact exitCodeOf_unmarked (by decide) (beginsWith_more (beginsWith_append _ _) _)
  | provider e =>
    obtain ⟨name, rfl⟩ := usual
    exact exitCodeOf_unmarked (by decide) (beginsWith_more (beginsWith_append _ _) _)
  | missingTools tools =>
    exact exitCodeOf_unmarked (by decide) (beginsWith_more (beginsWith_append _ _) _)
  | wouldOverwrite path =>
    exact exitCodeOf_unmarked (by decide) (beginsWith_more (beginsWith_append _ _) _)
  | temporary directory e =>
    exact exitCodeOf_unmarked (by decide)
      (beginsWith_more (beginsWith_more (beginsWith_more (beginsWith_append _ _) _) _) _)
  | flush e => exact exitCodeOf_unmarked (by decide) (beginsWith_append _ _)
  | replace e => exact exitCodeOf_unmarked (by decide) (beginsWith_append _ _)
  | pageDirectory e => exact exitCodeOf_unmarked (by decide) (beginsWith_append _ _)
  | page path e =>
    exact exitCodeOf_unmarked (by decide)
      (beginsWith_more (beginsWith_more (beginsWith_append _ _) _) _)

/-! ## The failures that commands end with -/

/-- If the report tells of a failure, it is a usual one. -/
def Report.FailsUsually (r : Report) : Prop := ∀ f, r.ending = .error f → f.Usual

theorem usual_failed {f : Failure} (usual : f.Usual) : (Report.failed f).FailsUsually := by
  rintro g ⟨⟩
  exact usual

theorem usual_ended {r : Report} {code : Nat} (ended : r.ending = .ok code) : r.FailsUsually :=
  fun _ failed => nomatch ended.symm.trans failed

theorem ending_statusReport (s : Settings) (path name : String) (d : Option StateDocument) :
    (statusReport s path name d).ending = .ok 0 := by
  unfold statusReport
  split <;> rfl

theorem ending_validReport (s : Settings) (c : Config) (provider : String) :
    (validReport s c provider).ending = .ok 0 := by
  unfold validReport
  dsimp only
  split <;> rfl

theorem usual_endingWith (told : Report) {r : Except SagaError Unit}
    (proper : ∀ e, r = .error e → e.Proper) :
    (told.endingWith ((r.map fun _ => 0).mapError .saga)).FailsUsually := by
  intro f failed
  cases r with
  | ok _ => cases failed
  | error e =>
    cases failed
    exact proper e rfl

variable {ω : Type} {site : Site ω}

/-- What a command does in its session fails as usual. -/
def FailsUsually (job : Host ω → Session ω → Report × Session ω) : Prop :=
  ∀ h s, (job h s).1.FailsUsually

theorem usual_upJob (s : Settings) : FailsUsually (ω := ω) (upJob s) := fun h session =>
  usual_endingWith _ (Session.proper_up h session)

theorem usual_downJob (s : Settings) : FailsUsually (ω := ω) (downJob s) := fun h session =>
  usual_endingWith _ (Session.proper_down h session)

theorem usual_isUpJob (s : Settings) : FailsUsually (ω := ω) (isUpJob s) := fun _ _ =>
  usual_ended rfl

theorem usual_logsJob (s : Settings) : FailsUsually (ω := ω) (logsJob s) := by
  intro h session
  have proper := Session.proper_dumpLogs h session
  unfold logsJob
  generalize session.dumpLogs h = x at proper
  obtain ⟨r, t⟩ := x
  cases r with
  | error e => exact usual_failed (proper e rfl)
  | ok _ =>
    dsimp only
    split
    · exact usual_ended rfl
    · exact usual_ended rfl

/-- The configuration and the providers of a site fail as they do in the program: what is wrong with
a configuration is a fault of the configuration, and a provider is missed, or tools for it. -/
structure Site.Usual (site : Site ω) : Prop where
  config : ∀ w f, site.config w = .error f → ∃ e, f = .config e
  provider : ∀ c w f, site.provider c w = .error f →
    (∃ name, f = .provider (.unavailable name)) ∨ ∃ tools, f = .missingTools tools

theorem Workplace.usual_site (s : Settings) : (Workplace.site s).Usual where
  config w f failed := by
    have load : (Workplace.site s).config w = (Config.load w.files s.config).mapError .config := rfl
    rw [load] at failed
    generalize Config.load w.files s.config = r at failed
    cases r with
    | ok _ => cases failed
    | error e =>
      cases failed
      exact ⟨e, rfl⟩
  provider c w f failed := by
    have find : (Workplace.site s).provider c w = w.provider c (s.providerName c) := rfl
    rw [find] at failed
    unfold Workplace.provider at failed
    split at failed
    · split at failed
      · cases failed
      · split at failed
        · cases failed
        · cases failed
          exact .inl ⟨_, rfl⟩
    · cases failed
      exact .inr ⟨_, rfl⟩

namespace Site

theorem usual_openOn (site : Site ω) {c : Config} {p : Provider ω} {writable : Bool} {w w' : ω}
    {f : Failure} (failed : site.openOn c p writable w = (.error f, w')) : f.Usual := by
  cases valid : c.validate with
  | error e =>
    rw [openOn_of_invalid valid] at failed
    cases failed
    trivial
  | ok _ =>
    rw [openOn_of_valid valid] at failed
    cases ran : Session.start { site.host c p with load := fun _ => (site.load c w).1 } c writable
        {} (site.load c w).2 with
    | mk r v =>
      rw [ran] at failed
      cases r with
      | ok session => cases failed
      | error e =>
        cases failed
        exact Session.proper_of_start (congrArg Prod.fst ran)

theorem usual_within (site : Site ω) (c : Config) (p : Provider ω) (writable : Bool)
    {job : Host ω → Session ω → Report × Session ω} (usual : Cli.FailsUsually job) (w : ω) :
    (site.within c p writable job w).1.FailsUsually := by
  unfold within
  cases opened : site.openOn c p writable w with
  | mk r w' =>
    cases r with
    | error f => exact usual_failed (site.usual_openOn opened)
    | ok session => exact usual _ session

theorem usual_underLock (site : Site ω) (c : Config) (p : Provider ω)
    {job : Host ω → Session ω → Report × Session ω} (usual : Cli.FailsUsually job) (w : ω) :
    (site.underLock c p job w).1.FailsUsually := by
  unfold underLock
  split
  · exact usual_failed trivial
  · split
    · exact usual_failed trivial
    · exact site.usual_within c p true usual _

theorem Usual.inSession (fails : site.Usual) (writable : Bool)
    {job : Host ω → Session ω → Report × Session ω} (usual : Cli.FailsUsually job) (w : ω) :
    (site.inSession writable job w).1.FailsUsually := by
  unfold Site.inSession
  cases config : site.config w with
  | error f =>
    obtain ⟨e, rfl⟩ := fails.config w f config
    exact usual_failed trivial
  | ok c =>
    simp only [bind, Except.bind]
    cases provider : site.provider c w with
    | error f =>
      rcases fails.provider c w f provider with ⟨name, rfl⟩ | ⟨tools, rfl⟩
      · exact usual_failed ⟨name, rfl⟩
      · exact usual_failed trivial
    | ok p =>
      dsimp only
      split
      · exact site.usual_underLock c p usual w
      · exact site.usual_within c p false usual w

theorem Usual.showStatus (fails : site.Usual) (s : Settings) (w : ω) :
    (site.showStatus s w).1.FailsUsually := by
  unfold Site.showStatus
  split
  · next f config =>
    obtain ⟨e, rfl⟩ := fails.config w f config
    exact usual_failed trivial
  · split
    · exact usual_failed trivial
    · exact usual_ended (ending_statusReport s _ _ _)

theorem Usual.checkConfig (fails : site.Usual) (s : Settings) (w : ω) :
    (site.checkConfig s w).1.FailsUsually := by
  unfold Site.checkConfig
  split
  · next f config =>
    obtain ⟨e, rfl⟩ := fails.config w f config
    exact usual_failed trivial
  · exact usual_ended (ending_validReport s _ _)

/-- **Every command fails as usual.** -/
theorem Usual.run (fails : site.Usual) (s : Settings) (e : Errand) (w : ω) :
    (site.run s e w).1.FailsUsually := by
  cases e with
  | up => exact fails.inSession true (usual_upJob s) w
  | down => exact fails.inSession true (usual_downJob s) w
  | status => exact fails.showStatus s w
  | isUp => exact fails.inSession false (usual_isUpJob s) w
  | logs => exact fails.inSession false (usual_logsJob s) w

end Site

/-! ## Exit codes -/

/-- **Exit codes tell the kinds of failure apart**, whatever names, paths and outputs the messages
carry: 2 is for faults of the configuration, 3 for the state document and its lock, 4 for the
interruption of a saga, and 1 for all other failures. -/
theorem exitCode_of_failure {site : Site ω} (fails : site.Usual) (s : Settings) (w : ω) {r : Report}
    (told : (∃ e, r = (site.run s e w).1) ∨ r = (site.checkConfig s w).1) {f : Failure}
    (failed : r.ending = .error f) :
    (r.exitCode = 2 ↔ (∃ e, f = .config e) ∨ ∃ e, f = .saga (.config e)) ∧
    (r.exitCode = 3 ↔
      (∃ e, f = .store e) ∨ (∃ e, f = .lock e) ∨ ∃ e, f = .saga (.store e)) ∧
    (r.exitCode = 4 ↔ ∃ origin step, f = .saga (.interrupted origin step)) ∧
    (r.exitCode = 1 ↔ f.kind = .other) := by
  have usual : f.Usual := by
    rcases told with ⟨e, rfl⟩ | rfl
    · exact fails.run s e w f failed
    · exact fails.checkConfig s w f failed
  have code : r.exitCode = f.kind.exitCode := by
    rw [← exitCodeOf_message usual]
    simp [Report.exitCode, failed]
  rw [code]
  cases f with
  | saga e => cases e <;> simp [Failure.kind, FailureKind.exitCode]
  | _ => simp [Failure.kind, FailureKind.exitCode]

/-- A site whose provider fails in the words of other failures. -/
def misleadingSite : Site Unit :=
  { calmSite (.ok ()) none with
    provider := fun _ _ => .ok {
      name := "none"
      perform := fun _ w => ({ result := .error (.failed "config error" "interrupted") }, w)
      handle? := fun _ _ => none
      hasGpu := fun _ => false } }

theorem usual_misleadingSite : misleadingSite.Usual where
  config _ _ failed := nomatch failed
  provider _ _ _ failed := nomatch failed

/-- A failed step has the exit code 1 also when the provider says that something was interrupted. -/
theorem exitCode_of_failure_misleadingSite :
    (misleadingSite.run {} .up ()).1.ending =
      .error (.saga (.step "create bucket" (.failed "config error" "interrupted"))) ∧
    (misleadingSite.run {} .up ()).1.exitCode = 1 := by
  have failed : (misleadingSite.run {} .up ()).1.ending =
      .error (.saga (.step "create bucket" (.failed "config error" "interrupted"))) := by
    set_option maxRecDepth 20000 in rfl
  have codes := exitCode_of_failure usual_misleadingSite {} () (.inl ⟨.up, rfl⟩) failed
  exact ⟨failed, codes.2.2.2.2 rfl⟩

end Cli

end Testbed
