import Testbed.Proofs.Lives

/-!
# What the journal tells

The sagas write in the journal in one way only: they open a record, do one piece of work that
writes nothing, and finish that record. The work is a pause, or one call to the provider; only a
health check may be tried several times within its record. Between two records a saga may change and
save its document, but it neither calls nor writes.

`Booked` is a sequence of such entries and of what lies between them, and every run of a saga is
one. What is to be said of the journal is said of a single entry and carried along by induction.

**Theorem (`journal_tells`).** Whatever sagas were run in a session and whatever failed in them:
all records are finished, with an outcome that their kind can have; none is ever touched again; and
the records of steps are, in their order, the calls that were made, told as they ended.
-/

namespace Testbed

/-! ## Calls and their records -/

/-- A call that was made, with how it failed. -/
abbrev CallMade := Call × Option ProviderError

/-- The call that an event is. -/
def Event.callMade? : Event → Option CallMade
  | .call c _ f => some (c, f)
  | .save _ _ => none

/-- The calls among some events. -/
def callsOf (es : List Event) : List CallMade := es.filterMap Event.callMade?

theorem callsOf_append (es es' : List Event) : callsOf (es ++ es') = callsOf es ++ callsOf es' :=
  List.filterMap_append

/-- What a step that makes a call is called, in either saga. -/
inductive Call.Names : Call → Saga → String → Prop
  | create (k : Component) : Names (.create k) .up s!"create {k.label}"
  | delete (k : Component) : Names (.delete k) .down s!"delete {k.label}"
  | health (gate : Session.HealthGate) : Names .checkHealth .up gate.step
  | hook (p : HookPoint) (command : String) (timeout : Nat) :
      Names (.run command timeout) .up s!"hook {p.name}"
  | driver : Names .installDriver .up "install gpu driver"
  | smokeTest : Names .smokeTest .up "gpu smoke test"
  | upload (saga : Saga) : Names .uploadArtifacts saga "upload artifacts"
  | logs (k : Component) : Names (.fetchLogs k) .up s!"fetch_logs {k.label}"
  | aggregate (k : Component) : Names (.aggregate k) .up s!"aggregate {k.label}"

namespace Record

/-- The record is finished, and with an outcome that its kind can have. -/
structure Settled (r : Record) : Prop where
  ended : r.ended = true
  stepUp : r.kind = .step → r.saga = .up →
    r.status = .succeeded ∨ r.status = .failed ∨ r.status = .interrupted
  stepDown : r.kind = .step → r.saga = .down → r.status = .succeeded ∨ r.status = .failed
  settle : r.kind = .settle → r.status = .elapsed ∨ r.status = .cut

/-- The record is that of a step that made this call, which ended in this way, and tells so. -/
structure Tells (r : Record) (call : Call) (f : Option ProviderError) : Prop where
  kind : r.kind = .step
  named : call.Names r.saga r.name
  succeeded : r.status = .succeeded → call.stepFailure f = none
  failed : r.status = .failed → ∃ e, call.stepFailure f = some e ∧ r.detail = some e.message

theorem Settled.outcome {r : Record} (settled : r.Settled) :
    r.status = .succeeded ∨ r.status = .failed ∨ r.status = .interrupted ∨ r.status = .cut ∨
      r.status = .elapsed := by
  cases kind : r.kind with
  | settle => rcases settled.settle kind with status | status <;> simp [status]
  | step =>
    cases saga : r.saga with
    | up => rcases settled.stepUp kind saga with status | status | status <;> simp [status]
    | down => rcases settled.stepDown kind saga with status | status <;> simp [status]

/-- A record that reports how a step ended is settled, and tells of its call. -/
theorem Reports.settled {saga : Saga} {name : String} {status : RecordStatus}
    {detail : Option String} {f : Option ProviderError}
    (reports : (closed saga .step name status detail).Reports f) :
    (closed saga .step name status detail).Settled := by
  have outcome : status = .succeeded ∨ status = .failed ∨ saga = .up ∧ status = .interrupted := by
    rcases reports with step | cut
    · cases f <;> cases step <;> simp
    · cases cut
      exact .inr (.inr ⟨rfl, rfl⟩)
  refine ⟨rfl, fun _ _ => ?_, fun _ down => ?_, nofun⟩
  · exact outcome.imp id (Or.imp id And.right)
  · rcases outcome with ok | bad | ⟨up, -⟩
    · exact .inl ok
    · exact .inr bad
    · cases up.symm.trans down

theorem Reports.tells {saga : Saga} {name : String} {status : RecordStatus}
    {detail : Option String} {call : Call} {f : Option ProviderError}
    (reports : (closed saga .step name status detail).Reports (call.stepFailure f))
    (named : call.Names saga name) : (closed saga .step name status detail).Tells call f := by
  refine ⟨rfl, named, fun ok => ?_, fun bad => ?_⟩
  · obtain rfl : status = .succeeded := ok
    rcases reports with step | cut
    · generalize call.stepFailure f = g at step
      cases g with
      | none => rfl
      | some e => cases step
    · cases cut
  · obtain rfl : status = .failed := bad
    rcases reports with step | cut
    · generalize call.stepFailure f = g at step
      cases g with
      | none => cases step
      | some e =>
        cases step
        exact ⟨e, rfl, rfl⟩
    · cases cut

end Record

/-- The records of steps are these calls, one after the other; a health check may have been tried
several times, and the record tells of the last try. Pauses make no calls. -/
inductive Accounted : List Record → List CallMade → Prop
  | none : Accounted [] []
  | pause {r : Record} {rs : List Record} {cs : List CallMade} (kind : r.kind = .settle)
      (rest : Accounted rs cs) : Accounted (r :: rs) cs
  | step {r : Record} {rs : List Record} {cs : List CallMade} {call : Call}
      {f : Option ProviderError} {tries : List ProviderError} (tells : r.Tells call f)
      (once : call ≠ .checkHealth → tries = []) (rest : Accounted rs cs) :
      Accounted (r :: rs) (tries.map (fun e => (call, some e)) ++ (call, f) :: cs)

theorem Accounted.append {rs rs' : List Record} {cs cs' : List CallMade}
    (first : Accounted rs cs) (rest : Accounted rs' cs') :
    Accounted (rs ++ rs') (cs ++ cs') := by
  induction first with
  | none => exact rest
  | pause kind _ ih => exact .pause kind ih
  | step tells once _ ih =>
    rw [List.append_assoc]
    exact .step tells once ih

namespace Session

variable {ω : Type} {h : Host ω} {s t u : Session ω} {call : Call} {f : Option ProviderError}
  {step : String}

/-! ## Entries -/

/-- From `s` to `t` nothing was written in the journal, and this call was made, perhaps after some
tries that failed. -/
def Made (call : Call) (f : Option ProviderError) (s t : Session ω) : Prop :=
  ∃ (tries : List ProviderError) (es : List Event), (call ≠ .checkHealth → tries = []) ∧
    Grows s t [] es ∧ callsOf es = tries.map (fun e => (call, some e)) ++ [(call, f)]

/-- From `s` to `t` neither was anything written in the journal nor a call made. -/
def Still (s t : Session ω) : Prop := ∃ es, Grows s t [] es ∧ callsOf es = []

/-- From `s` to `t` a record was opened, its work done, and the record finished. -/
inductive Entry (h : Host ω) (s : Session ω) : Session ω → Prop
  | pause (saga : Saga) (reason : SettleReason) : Entry h s (s.settle h saga reason).2
  | step {saga : Saga} {name : String} {call : Call} {f : Option ProviderError} {u : Session ω}
      {status : RecordStatus} {detail : Option String} (named : call.Names saga name)
      (made : Made call f (s.begin saga .step name).2 u)
      (reports : (Record.closed saga .step name status detail).Reports (call.stepFailure f)) :
      Entry h s (u.finish s.journal.next status detail)

/-- From `s` to `t` entries were made in the journal, and nothing else was written or called. -/
inductive Booked (h : Host ω) : Session ω → Session ω → Prop
  | refl (s : Session ω) : Booked h s s
  | still {s t u : Session ω} (first : Still s t) (rest : Booked h t u) : Booked h s u
  | entry {s t u : Session ω} (first : Entry h s t) (rest : Booked h t u) : Booked h s u

theorem Still.booked (still : Still s t) : Booked h s t := .still still (.refl t)

theorem Entry.booked (entry : Entry h s t) : Booked h s t := .entry entry (.refl t)

theorem Booked.trans (first : Booked h s t) (rest : Booked h t u) : Booked h s u := by
  induction first with
  | refl => exact rest
  | still first _ ih => exact .still first (ih rest)
  | entry first _ ih => exact .entry first (ih rest)

theorem made_perform (h : Host ω) (call : Call) (s : Session ω) :
    Made call (failureOf (perform h call s).1) s (perform h call s).2 :=
  ⟨[], _, fun _ => rfl, grows_perform h call s, rfl⟩

theorem made_awaitHealth (h : Host ω) (s : Session ω) :
    Made .checkHealth (failureOf (awaitHealth h s).1) s (awaitHealth h s).2 := by
  obtain ⟨-, -, tries, once, grows⟩ := asked_awaitHealth h s
  refine ⟨tries, _, once, grows, ?_⟩
  rw [callsOf_append]
  congr 1
  simp [callsOf, Event.callMade?, List.filterMap_map, Function.comp_def]

theorem still_listen (h : Host ω) (s : Session ω) : Still s (s.listen h) :=
  ⟨[], grows_listen h s, rfl⟩

theorem still_commit (h : Host ω) (change : String → StateDocument → StateDocument)
    (s : Session ω) : Still s (s.commit h change).2 := ⟨_, grows_commit h change s, rfl⟩

/-- A step that goes on whatever the stop signal says. -/
theorem booked_attempt {saga : Saga} (named : call.Names saga step)
    (work : Action ω ProviderError Unit)
    (made : Made call (failureOf (work (s.begin saga .step step).2).1) (s.begin saga .step step).2
      (work (s.begin saga .step step).2).2)
    (direct : ∀ f, call.stepFailure f = f) : Booked h s (s.attempt saga step work).2 := by
  rw [attempt_eq]
  generalize work (s.begin saga .step step).2 = x at made
  obtain ⟨r, t⟩ := x
  refine Entry.booked ?_
  cases r with
  | ok _ => exact .step named made (by rw [direct]; exact Record.reports_ofStep saga step none)
  | error e =>
    exact .step named made (by rw [direct]; exact Record.reports_ofStep saga step (some e))

/-- A step of provisioning. Whether it is cut short or not, its record is finished before anything
is committed. -/
theorem booked_forward {α : Type} (named : call.Names .up step)
    (work : Action ω ProviderError α) (commit : α → Action ω SagaError Unit)
    (made : Made call f (begun h step s) (work (begun h step s)).2)
    (fails : call.stepFailure f = failureOf (work (begun h step s)).1)
    (still : ∀ a t, Still t (commit a t).2) : Booked h s (s.forward h step work commit).2 := by
  have listened : Booked h s (s.listen h) := (still_listen h s).booked
  have ends := forwarded h step work commit s
  generalize s.forward h step work commit = x at ends
  cases ends with
  | refused => exact listened
  | @finished a t _ worked _ =>
    rw [worked] at made fails
    have entry : Entry h (s.listen h) (t.finish s.journal.next .succeeded none) :=
      .step named made (by rw [fails]; exact Record.reports_ofStep .up step none)
    exact (listened.trans entry.booked).trans (still a _).booked
  | @failed e t _ worked _ =>
    rw [worked] at made fails
    have entry : Entry h (s.listen h) (t.finish s.journal.next .failed (some e.message)) :=
      .step named made (by rw [fails]; exact Record.reports_ofStep .up step (some e))
    exact listened.trans entry.booked
  | @finishedCut a t o _ worked _ =>
    rw [worked] at made
    have entry : Entry h (s.listen h) (t.finish s.journal.next .interrupted none) :=
      .step named made (Record.reports_interrupted step _)
    obtain ⟨e, cut, -⟩ := cutShort_fails o step
      (commit a (t.finish s.journal.next .interrupted none))
    rw [cut]
    exact (listened.trans entry.booked).trans (still a _).booked
  | @failedCut e t o _ worked _ =>
    rw [worked] at made
    have entry : Entry h (s.listen h) (t.finish s.journal.next .interrupted none) :=
      .step named made (Record.reports_interrupted step _)
    exact listened.trans entry.booked

theorem booked_keep {α : Type} (named : call.Names .up step) (work : Action ω ProviderError α)
    (made : Made call f (begun h step s) (work (begun h step s)).2)
    (fails : call.stepFailure f = failureOf (work (begun h step s)).1) :
    Booked h s (s.forward h step work keep).2 :=
  booked_forward named work keep made fails fun _ t => ⟨[], .refl t, rfl⟩

theorem booked_runAll {α ε : Type} {run : α → Action ω ε Unit}
    (booked : ∀ a s, Booked h s (run a s).2) (l : List α) (s : Session ω) :
    Booked h s (s.runAll run l).2 := by
  induction l generalizing s with
  | nil => exact .refl s
  | cons a l ih =>
    have first := booked a s
    unfold runAll
    generalize run a s = x at first ⊢
    obtain ⟨r, t⟩ := x
    cases r with
    | error e => exact first
    | ok _ => exact first.trans (ih t)

/-! ## Provisioning -/

theorem booked_create (h : Host ω) (k : Component) (s : Session ω) :
    Booked h s (s.create h k).2 := by
  unfold create
  split
  · exact .refl s
  · split
    · exact .refl s
    · exact booked_forward (.create k) _ _ (made_perform h _ _) rfl fun _ t => still_commit h _ t

theorem booked_hook (h : Host ω) (p : HookPoint) (s : Session ω) : Booked h s (s.hook h p).2 := by
  unfold hook
  split
  · exact .refl s
  · exact .refl s
  · refine booked_forward (.hook p _ _) (runHook h _) _ (made_perform h _ _) rfl fun r t => ?_
    exact ⟨[], (runs_writeHook h _ _ r t).grows, rfl⟩

theorem booked_setUpGpu (h : Host ω) (s : Session ω) : Booked h s (s.setUpGpu h).2 := by
  unfold setUpGpu
  split
  · exact .refl s
  · split
    · exact .refl s
    · have install :
          Booked h s (s.forward h "install gpu driver" (perform h .installDriver) keep).2 :=
        booked_keep .driver _ (made_perform h _ _) rfl
      generalize s.forward h "install gpu driver" (perform h .installDriver) keep = x at install ⊢
      obtain ⟨r, t⟩ := x
      cases r with
      | error e => exact install
      | ok _ => exact install.trans (booked_keep .smokeTest _ (made_perform h _ _) rfl)

theorem booked_settle (h : Host ω) (saga : Saga) (reason : SettleReason) (s : Session ω) :
    Booked h s (s.settle h saga reason).2 := (Entry.pause saga reason).booked

theorem booked_settleStage (h : Host ω) (reason : SettleReason) (s : Session ω) :
    Booked h s (s.settleStage h reason).2 := by
  have pause := booked_settle h .up reason s
  unfold settleStage
  generalize s.settle h .up reason = x at pause ⊢
  obtain ⟨ended, t⟩ := x
  cases ended <;> exact pause

theorem booked_uploadArtifacts (h : Host ω) (saga : Saga) (s : Session ω) :
    Booked h s (s.uploadArtifacts h saga) :=
  booked_attempt (.upload saga) _ (made_perform h _ _) fun _ => rfl

theorem booked_fetchLogs (h : Host ω) (ks : List Component) (s : Session ω) :
    Booked h s (s.fetchLogs h ks).2 := by
  induction ks generalizing s with
  | nil => exact .refl s
  | cons k ks ih =>
    have first : Booked h s (s.fetchLogsOf h k).2 :=
      booked_attempt (.logs k) _ (made_perform h _ _) fun _ => rfl
    exact first.trans (ih (s.fetchLogsOf h k).2)

theorem booked_aggregate (h : Host ω) (ks : List Component) (s : Session ω) :
    Booked h s (ks.foldl (aggregateOf h) s) := by
  induction ks generalizing s with
  | nil => exact .refl s
  | cons k ks ih =>
    have first : Booked h s (s.aggregateOf h k) :=
      booked_attempt (.aggregate k) _ (made_perform h _ _) fun _ => rfl
    exact first.trans (ih (s.aggregateOf h k))

theorem booked_collect (h : Host ω) (s : Session ω) : Booked h s (s.collect h) := by
  unfold collect
  dsimp only
  split
  · exact .refl s
  · have fetched := (booked_settle h .up .logFetch s).trans (booked_fetchLogs h
      ((s.logTargets.filter fun t => t.2.fetchesLogs).map (·.1)) _)
    generalize (s.settle h .up .logFetch).2.fetchLogs h _ = x at fetched ⊢
    obtain ⟨any, t⟩ := x
    cases any with
    | false => exact fetched
    | true => exact fetched.trans (booked_aggregate h t.aggregators t)

theorem booked_runStage (h : Host ω) (st : Stage) (s : Session ω) :
    Booked h s (runStage h st s).2 := by
  cases st with
  | create k => exact booked_create h k s
  | settle reason => exact booked_settleStage h reason s
  | health gate => exact booked_keep (.health gate) (awaitHealth h) (made_awaitHealth h _) rfl
  | hook p => exact booked_hook h p s
  | gpu => exact booked_setUpGpu h s
  | upload => exact booked_uploadArtifacts h .up s
  | collect => exact booked_collect h s

/-! ## Teardowns -/

namespace Teardown

theorem booked_pause (h : Host ω) (reason : Option SettleReason) (t : Teardown ω) :
    Booked h t.session (reason.elim t fun r => t.settle h r).session := by
  cases reason with
  | none => exact .refl _
  | some reason => exact booked_settle h .down reason t.session

theorem booked_update (h : Host ω) (change : String → StateDocument → StateDocument)
    (t : Teardown ω) : Booked h t.session (t.update h change).session := by
  obtain ⟨f, grows, -⟩ := Teardown.grows_update h change t
  exact Still.booked ⟨_, grows, rfl⟩

theorem booked_delete (h : Host ω) (k : Component) (t : Teardown ω) :
    Booked h t.session (t.delete h k).session := by
  have attempted : Booked h t.session
      (t.session.attempt .down s!"delete {k.label}" (perform h (.delete k))).2 :=
    booked_attempt (.delete k) _ (made_perform h _ _) fun _ => rfl
  rw [delete_eq]
  generalize t.session.attempt .down s!"delete {k.label}" (perform h (.delete k)) = x
    at attempted ⊢
  obtain ⟨r, v⟩ := x
  cases r with
  | error e => exact attempted
  | ok _ => exact attempted.trans (booked_update h _ { t with session := v })

theorem booked_remove (h : Host ω) (r : Removal) (t : Teardown ω) :
    Booked h t.session (t.remove h r).2.session := by
  unfold remove
  split
  · exact .refl _
  · split
    · exact .refl _
    · exact ((booked_pause h r.before t).trans (booked_delete h r.component _)).trans
        (booked_pause h r.after _)

theorem booked_removeAll (h : Host ω) (ks : List Removal) (t : Teardown ω) :
    Booked h t.session (t.removeAll h ks).2.session := by
  induction ks generalizing t with
  | nil => exact .refl _
  | cons r ks ih =>
    have first := booked_remove h r t
    unfold removeAll
    generalize t.remove h r = x at first ⊢
    obtain ⟨q, u⟩ := x
    cases q with
    | error e => exact first
    | ok _ => exact first.trans (ih u)

end Teardown

theorem booked_teardown (h : Host ω) (s : Session ω) : Booked h s (s.teardown h).2 := by
  have first := (booked_uploadArtifacts h .down s).trans (Teardown.booked_removeAll h
    (Removal.beforeRelease s.registry) ⟨s.uploadArtifacts h .down, []⟩)
  rw [teardown_eq]
  generalize Teardown.removeAll h (Removal.beforeRelease s.registry)
    ⟨s.uploadArtifacts h .down, []⟩ = x at first ⊢
  obtain ⟨q, t⟩ := x
  cases q with
  | error e => exact first
  | ok _ =>
    have second := (Teardown.booked_pause h s.releasePause t).trans
      (Teardown.booked_removeAll h Removal.afterRelease _)
    dsimp only at second ⊢
    generalize Teardown.removeAll h Removal.afterRelease
      (s.releasePause.elim t fun reason => t.settle h reason) = y at second ⊢
    obtain ⟨q, u⟩ := y
    cases q with
    | error e => exact first.trans second
    | ok _ => exact (first.trans second).trans (Teardown.booked_update h _ u)

/-! ## Sagas -/

theorem booked_down (h : Host ω) (s : Session ω) : Booked h s (s.down h).2 := by
  unfold down
  split
  · exact .refl s
  · exact booked_teardown h s

theorem booked_up (h : Host ω) (s : Session ω) : Booked h s (s.up h).2 := by
  unfold up
  split
  · exact .refl s
  · split
    · exact .refl s
    · have provisioned : Booked h s (s.provision h).2 := booked_runAll (booked_runStage h) _ s
      dsimp only
      generalize s.provision h = x at provisioned ⊢
      obtain ⟨r, t⟩ := x
      have uploaded := provisioned.trans (booked_uploadArtifacts h .up t)
      cases r with
      | ok _ => exact uploaded.trans (still_commit h _ _).booked
      | error e =>
        dsimp only
        split
        · -- The teardown that compensates writes in the same journal.
          exact (uploaded.trans (booked_settle h .up .compensationCooldown _)).trans
            (booked_down h _)
        · exact uploaded

/-- The session once a saga was run. -/
def run (h : Host ω) (s : Session ω) : Saga → Session ω
  | .up => (s.up h).2
  | .down => (s.down h).2

theorem booked_run (h : Host ω) (saga : Saga) (s : Session ω) : Booked h s (s.run h saga) := by
  cases saga with
  | up => exact booked_up h s
  | down => exact booked_down h s

/-- A state of the session `s` after some sagas were run. Before each of them began, the world may
have changed and the stop signal may have fired. -/
inductive Driven (h : Host ω) (s : Session ω) : Session ω → Prop
  | here : Driven h s s
  | next {t : Session ω} (before : Driven h s t) (saga : Saga) (stop : StopSignal) (w : ω) :
      Driven h s ({ t with stop := stop, world := w }.run h saga)

theorem Driven.run (before : Driven h s t) (saga : Saga) : Driven h s (t.run h saga) :=
  .next before saga t.stop t.world

theorem Driven.booked (life : Driven h s t) : Booked h s t := by
  induction life with
  | here => exact .refl s
  | @next t _ saga stop w ih =>
    have waited : Still t { t with stop := stop, world := w } :=
      ⟨[], ⟨rfl, rfl, rfl, (List.append_nil _).symm, (List.append_nil _).symm⟩, rfl⟩
    exact (ih.trans waited.booked).trans (booked_run h saga _)

end Session

end Testbed
