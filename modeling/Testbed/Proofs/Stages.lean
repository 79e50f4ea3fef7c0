import Testbed.Proofs.Moves

/-!
# Stages of provisioning

Each stage has a plan: the records it is to add, by the configuration and the flags. It follows
this plan to its end, or up to the first record that does not pass, and then it fails.

**Theorem (`staged`).** This is so for every stage of a run, whatever the provider answers and
whenever the stop signal fires.
-/

namespace Testbed

/-- Whether provisioning goes on after a record: a step succeeded, a pause took its full length, or
the artifacts, which nobody waits for, could not be uploaded. -/
def Record.Passed (r : Record) : Prop :=
  r.status = .succeeded ∨ r.status = .elapsed ∨
    (r.heading = (.step, "upload artifacts") ∧ r.status = .failed)

namespace Session

variable {ω : Type} {h : Host ω} {s t u : Session ω} {rs rs' : List Record} {es es' : List Event}
  {c : Config} {d : StateDocument} {ps ps' : List (RecordKind × String)} {a : RecordKind × String}
  {x : Except SagaError Unit × Session ω}

/-! ## Plans of stages -/

/-- The heading of a creation. -/
def creation (k : Component) : RecordKind × String := (.step, s!"create {k.label}")

/-- The records that a stage is to add. -/
def Stage.plan (c : Config) (d : StateDocument) : Stage → List (RecordKind × String)
  | .create k => if c.wants k && !d.isCreated k then [creation k] else []
  | .settle reason => [reason.heading]
  | .health gate => [stepHeading gate.step]
  | .hook p => if (p.command c.hooks).isSome then [(.step, s!"hook {p.name}")] else []
  | .gpu =>
    if c.needsGpuDrivers then [stepHeading "install gpu driver", stepHeading "gpu smoke test"]
    else []
  | .upload => [stepHeading "upload artifacts"]
  | .collect => []

/-- What a stage creates. -/
def Stage.component? : Stage → Option Component
  | .create k => some k
  | _ => none

/-- A plan depends on the flag of what the stage creates and on no other. -/
theorem Stage.plan_congr {d' : StateDocument} {st : Stage}
    (same : ∀ k ∈ st.component?, d'.isCreated k = d.isCreated k) : st.plan c d' = st.plan c d := by
  cases st with
  | create k => rw [plan, plan, same k rfl]
  | _ => rfl

/-! ## Following a plan -/

/-- Whether the records account for a failure of provisioning. The failure of a step is that of the
last record; whatever else ends a provisioning is an interruption, something missing or something
that could not be written. -/
def Accounts (records : List Record) : SagaError → Prop
  | .step name e => records.getLast? = some (.closed .up .step name .failed (some e.message))
  | .interrupted _ _ | .missingHandle _ | .missingGpu | .config _ | .store _
  | .hookOutput _ _ => True
  | .teardown _ | .stateMismatch _ _ | .readOnly _ => False

theorem Accounts.append {e : SagaError} (accounts : Accounts rs' e) : Accounts (rs ++ rs') e := by
  cases e with
  | step name e =>
    show (rs ++ rs').getLast? = _
    rw [List.getLast?_append, show rs'.getLast? = _ from accounts]
    rfl
  | _ => exact accounts

/-- These records follow a plan up to the first that does not pass; only if the whole plan was
carried out and passed is the result good, and else they account for it. -/
structure Along (records : List Record) (plan : List (RecordKind × String))
    (result : Except SagaError Unit) : Prop where
  headings : records.map Record.heading <+: plan
  passed : ∃ (done : List Record) (last : Option Record),
    records = done ++ last.toList ∧ ∀ r ∈ done, r.Passed
  whole : result = .ok () → records.map Record.heading = plan ∧ ∀ r ∈ records, r.Passed
  failure : ∀ e, result = .error e → Accounts records e

/-- All records but the last have passed. -/
theorem Along.passed_dropLast {result : Except SagaError Unit} (along : Along rs ps result) :
    ∀ r ∈ rs.dropLast, r.Passed := by
  obtain ⟨done, last, rfl, passed⟩ := along.passed
  cases last with
  | none =>
    rw [Option.toList_none, List.append_nil]
    exact fun r hr => passed r (List.dropLast_subset _ hr)
  | some r =>
    rw [Option.toList_some, List.dropLast_concat]
    exact passed

theorem Along.nil (ps : List (RecordKind × String)) {e : SagaError} (accounts : Accounts [] e) :
    Along [] ps (.error e) where
  headings := List.nil_prefix
  passed := ⟨[], none, rfl, by simp⟩
  whole := by simp
  failure := by simpa using accounts

/-- What passes and carries out the whole plan may end in any way. -/
theorem Along.of_passed {result : Except SagaError Unit}
    (headings : rs.map Record.heading = ps) (passed : ∀ r ∈ rs, r.Passed)
    (failure : ∀ e, result = .error e → Accounts rs e) : Along rs ps result where
  headings := headings ▸ List.prefix_rfl
  passed := ⟨rs, none, (List.append_nil _).symm, passed⟩
  whole := fun _ => ⟨headings, passed⟩
  failure := failure

theorem Along.of_ok (headings : rs.map Record.heading = ps) (passed : ∀ r ∈ rs, r.Passed) :
    Along rs ps (.ok ()) := .of_passed headings passed (by simp)

/-- A single record may end in any way if the result is a failure. -/
theorem Along.single {r : Record} {e : SagaError} (heading : r.heading = a)
    (accounts : Accounts [r] e) : Along [r] [a] (.error e) where
  headings := by simp [heading]
  passed := ⟨[], some r, rfl, by simp⟩
  whole := by simp
  failure := by simpa using accounts

/-- A run that went wrong has also followed any longer plan. -/
theorem Along.prolong {e : SagaError} (first : Along rs ps (.error e)) :
    Along rs (ps ++ ps') (.error e) where
  headings := first.headings.trans (List.prefix_append ..)
  passed := first.passed
  whole := by simp
  failure := first.failure

theorem Along.append {result : Except SagaError Unit} (first : Along rs ps (.ok ()))
    (rest : Along rs' ps' result) : Along (rs ++ rs') (ps ++ ps') result := by
  obtain ⟨heads, passed⟩ := first.whole rfl
  obtain ⟨done, last, split, passed'⟩ := rest.passed
  refine ⟨?_, ⟨rs ++ done, last, ?_, ?_⟩, fun ok => ?_, fun e he => (rest.failure e he).append⟩
  · rw [List.map_append, heads]
    exact (List.prefix_append_right_inj ps).2 rest.headings
  · rw [split, List.append_assoc]
  · intro r hr
    exact (List.mem_append.1 hr).elim (passed r) (passed' r)
  · obtain ⟨heads', all'⟩ := rest.whole ok
    refine ⟨by rw [List.map_append, heads, heads'], fun r hr => ?_⟩
    exact (List.mem_append.1 hr).elim (passed r) (all' r)

/-! ## Reports -/

/-- What some stages did with a session and how that ended. -/
structure Reported (components : List Component) (plan : List (RecordKind × String))
    (s : Session ω) (x : Except SagaError Unit × Session ω) (records : List Record)
    (events : List Event) : Prop where
  runs : Runs s x.2 records events
  saga : ∀ r ∈ records, r.saga = .up
  along : Along records plan x.1
  creations : ∀ k ∈ events.filterMap Event.creation?, k ∈ components
  deletions : events.filterMap Event.deletion? = []

/-- Nothing was done, and the plan was empty or the result is a failure. -/
theorem Reported.idle {components : List Component} {result : Except SagaError Unit}
    (along : Along [] ps result) : Reported components ps s (result, s) [] [] where
  runs := .refl s
  saga := by simp
  along := along
  creations := by simp
  deletions := rfl

/-- Reported work leaves the flags of what it does not create alone. -/
theorem Reported.isCreated_of_notMem {components : List Component}
    (report : Reported components ps s x rs es) {k : Component} (hk : k ∉ components) :
    x.2.document.isCreated k = s.document.isCreated k := by
  have none : turns k es = [] :=
    turns_eq_nil (fun mem => hk (report.creations k mem)) (by simp [report.deletions])
  rw [report.runs.moves.isCreated_eq k, none]
  rfl

theorem Reported.prolong {components components' : List Component} {e : SagaError}
    (report : Reported components ps s (.error e, t) rs es) :
    Reported (components ++ components') (ps ++ ps') s (.error e, t) rs es where
  runs := report.runs
  saga := report.saga
  along := report.along.prolong
  creations := fun k hk => List.mem_append_left _ (report.creations k hk)
  deletions := report.deletions

theorem Reported.append {components components' : List Component}
    (first : Reported components ps s (.ok (), t) rs es)
    (rest : Reported components' ps' t x rs' es') :
    Reported (components ++ components') (ps ++ ps') s x (rs ++ rs') (es ++ es') where
  runs := first.runs.trans rest.runs
  saga := fun r hr => (List.mem_append.1 hr).elim (first.saga r) (rest.saga r)
  along := first.along.append rest.along
  creations := by
    intro k hk
    rw [List.filterMap_append] at hk
    rcases List.mem_append.1 hk with hk | hk
    · exact List.mem_append_left _ (first.creations k hk)
    · exact List.mem_append_right _ (rest.creations k hk)
  deletions := by rw [List.filterMap_append, first.deletions, rest.deletions]; rfl

/-! ## Steps that create nothing -/

/-- From `s` to `t` one harmless call was made, perhaps after some tries that failed. -/
structure Asked (call : Call) (s t : Session ω) (f : Option ProviderError) : Prop where
  harmless : call.isHarmless = true
  document : t.document = s.document
  tried : ∃ tries : List ProviderError, (call ≠ .checkHealth → tries = []) ∧
    Grows s t [] ((tries.map fun e => .call call s.document (some e)) ++ [.call call s.document f])

theorem asked_perform (h : Host ω) (call : Call) (s : Session ω)
    (harmless : call.isHarmless = true) :
    Asked call s (perform h call s).2 (failureOf (perform h call s).1) :=
  ⟨harmless, rfl, [], fun _ => rfl, grows_perform h call s⟩

theorem Asked.of_retry {e : ProviderError} {f : Option ProviderError}
    (first : Asked .checkHealth s t (some e)) (rest : Asked .checkHealth t u f) :
    Asked .checkHealth s u f := by
  obtain ⟨-, document, tries, -, grows⟩ := first
  obtain ⟨-, document', tries', -, grows'⟩ := rest
  refine ⟨rfl, document'.trans document, tries ++ e :: tries', fun ne => absurd rfl ne, ?_⟩
  have both := grows.trans grows'
  rw [document] at both
  simpa using both

/-- Polling is one health check after those that failed. -/
theorem asked_poll (h : Host ω) (n retries : Nat) (s : Session ω) :
    let r := Health.poll (perform h .checkHealth)
      (fun s => ((s.pause h n).1 ≠ .elapsed, (s.pause h n).2)) retries s
    Asked .checkHealth s r.2 (failureOf r.1) := by
  induction retries generalizing s with
  | zero =>
    have once := asked_perform h .checkHealth s rfl
    unfold Health.poll
    cases checked : perform h .checkHealth s with
    | mk r t =>
      rw [checked] at once
      cases r with
      | ok _ => exact once
      | error e => exact once
  | succ retries ih =>
    have once := asked_perform h .checkHealth s rfl
    unfold Health.poll
    cases checked : perform h .checkHealth s with
    | mk r t =>
      rw [checked] at once
      cases r with
      | ok _ => exact once
      | error e =>
        have waited : Asked .checkHealth s (t.pause h n).2 (some e) := by
          obtain ⟨-, document, tries, ne, grows⟩ := once
          refine ⟨rfl, document, tries, ne, ?_⟩
          simpa using grows.trans (grows_pause h n t)
        cases ended : (t.pause h n).1 with
        | elapsed => simpa [ended] using waited.of_retry (ih (t.pause h n).2)
        | stopped o => simpa [ended] using waited

theorem asked_awaitHealth (h : Host ω) (s : Session ω) :
    Asked .checkHealth s (awaitHealth h s).2 (failureOf (awaitHealth h s).1) :=
  asked_poll h s.config.timings.healthInterval (s.config.timings.healthAttempts - 1) s

/-- A step that was cut short has failed, and a failure to commit goes before the interruption. -/
theorem cutShort_fails (o : StopOrigin) (step : String) (y : Except SagaError Unit × Session ω) :
    ∃ e, cutShort o step y = (.error e, y.2) ∧ (y.1 = .error e ∨ e = .interrupted o step) := by
  obtain ⟨r, t⟩ := y
  cases r with
  | ok _ => exact ⟨_, rfl, .inr rfl⟩
  | error e => exact ⟨e, rfl, .inl rfl⟩

/-- A step of provisioning that succeeds has done its work and committed it, and it was not stopped
by then. -/
theorem passed_forward {α : Type} {step : String} {work : Action ω ProviderError α}
    {commit : α → Action ω SagaError Unit} (ok : (s.forward h step work commit).1 = .ok ()) :
    ∃ a t, work (begun h step s) = (.ok a, t) ∧ t.stop.origin = none ∧
      s.forward h step work commit = commit a (t.finish s.journal.next .succeeded none) := by
  have ends := forwarded h step work commit s
  generalize s.forward h step work commit = x at ends ok ⊢
  cases ends with
  | refused => cases ok
  | @finished a t _ worked still => exact ⟨a, t, worked, still, rfl⟩
  | failed => cases ok
  | @finishedCut a t o =>
    obtain ⟨e, cut, -⟩ := cutShort_fails o step
      (commit a (t.finish s.journal.next .interrupted none))
    rw [cut] at ok
    cases ok
  | failedCut => cases ok

/-- What is committed after a step has no step of its own to fail. -/
theorem accounts_cutShort {o : StopOrigin} {step : String} {y : Except SagaError Unit × Session ω}
    {e : SagaError} (commits : ∀ e, y.1 = .error e → Accounts rs e)
    (ended : y.1 = .error e ∨ e = .interrupted o step) : Accounts rs e := by
  rcases ended with ended | rfl
  · exact commits e ended
  · trivial

/-- What was asked is no creation and no deletion. -/
theorem Asked.runs {call : Call} {f : Option ProviderError} {step : String}
    (asked : Asked call (begun h step s) t f) (status : RecordStatus) (detail : Option String)
    (reports : (Record.closed .up .step step status detail).Reports (call.stepFailure f)) :
    ∃ es, Runs s (t.finish s.journal.next status detail) [.closed .up .step step status detail] es ∧
      es.filterMap Event.creation? = [] ∧ es.filterMap Event.deletion? = [] := by
  obtain ⟨harmless, document, tries, once, grows⟩ := asked
  have quiet {α : Type} (p : Event → Option α) (hp : ∀ d f, p (.call call d f) = none) :
      ((tries.map fun e => Event.call call (begun h step s).document (some e)) ++
        [Event.call call (begun h step s).document f]).filterMap p = [] := by
    refine List.filterMap_eq_nil_iff.2 fun e he => ?_
    rcases List.mem_append.1 he with he | he
    · obtain ⟨tried, -, rfl⟩ := List.mem_map.1 he
      exact hp _ _
    · rw [List.mem_singleton.1 he]
      exact hp _ _
  refine ⟨_, .of_move (grows.of_begun status detail) ?_, quiet _ ?_, quiet _ ?_⟩
  · rw [document_finish, document]
    exact .step harmless once reports
  · intro d f
    cases call <;> first | rfl | exact nomatch harmless
  · intro d f
    cases call <;> first | rfl | exact nomatch harmless

/-- **A step that creates nothing.** -/
theorem reported_step {α : Type} {call : Call} {f : Option ProviderError} (step : String)
    (work : Action ω ProviderError α) (commit : α → Action ω SagaError Unit)
    (asked : Asked call (begun h step s) (work (begun h step s)).2 f)
    (fails : call.stepFailure f = failureOf (work (begun h step s)).1)
    (idle : ∀ a t, Runs t (commit a t).2 [] [])
    (commits : ∀ a t e, (commit a t).1 = .error e → ∀ rs, Accounts rs e) :
    ∃ rs es, Reported [] [(.step, step)] s (s.forward h step work commit) rs es := by
  have ends := forwarded h step work commit s
  generalize s.forward h step work commit = x at ends
  cases ends with
  | refused =>
    exact ⟨[], [], .of_idle (grows_listen h s) rfl, by simp, .nil _ trivial, by simp, rfl⟩
  | @finished a t _ worked still =>
    rw [worked] at asked fails
    obtain ⟨es, runs, creations, deletions⟩ := asked.runs .succeeded none
      (by rw [fails]; exact Record.reports_ofStep .up step none)
    have both := runs.trans (idle a _)
    rw [List.append_nil, List.append_nil] at both
    exact ⟨_, es, both, by simp, .of_passed rfl (by simp [Record.Passed, Record.closed])
      fun e failed => commits a _ e failed _, by simp [creations], deletions⟩
  | @failed e t _ worked still =>
    rw [worked] at asked fails
    obtain ⟨es, runs, creations, deletions⟩ := asked.runs .failed (some e.message)
      (by rw [fails]; exact Record.reports_ofStep .up step (some e))
    exact ⟨_, es, runs, by simp, .single rfl rfl, by simp [creations], deletions⟩
  | @finishedCut a t o _ worked fired =>
    rw [worked] at asked
    obtain ⟨es, runs, creations, deletions⟩ := asked.runs .interrupted none
      (Record.reports_interrupted step _)
    obtain ⟨e, he, ended⟩ := cutShort_fails o step
      (commit a (t.finish s.journal.next .interrupted none))
    have accounts (rs : List Record) : Accounts rs e :=
      accounts_cutShort (fun e failed => commits a _ e failed rs) ended
    have both := runs.trans (idle a _)
    rw [List.append_nil, List.append_nil] at both
    rw [he]
    exact ⟨_, es, both, by simp, .single rfl (accounts _), by simp [creations], deletions⟩
  | @failedCut e t o _ worked fired =>
    rw [worked] at asked
    obtain ⟨es, runs, creations, deletions⟩ := asked.runs .interrupted none
      (Record.reports_interrupted step _)
    exact ⟨_, es, runs, by simp, .single rfl trivial, by simp [creations], deletions⟩

/-- A step after which there is nothing to commit. -/
theorem reported_keep {α : Type} {call : Call} {f : Option ProviderError} (step : String)
    (work : Action ω ProviderError α)
    (asked : Asked call (begun h step s) (work (begun h step s)).2 f)
    (fails : call.stepFailure f = failureOf (work (begun h step s)).1) :
    ∃ rs es, Reported [] [(.step, step)] s (s.forward h step work keep) rs es := by
  refine reported_step step work keep asked fails (fun _ t => .refl t) fun a t e failed => ?_
  cases show Except.ok () = .error e from failed

/-! ## Creations -/

theorem grows_commit (h : Host ω) (change : String → StateDocument → StateDocument)
    (s : Session ω) :
    Grows s (s.commit h change).2 []
      [.save (s.commit h change).2.document (failureOf (s.update h change).1)] :=
  grows_update h change s

/-- Only saving the document can fail to commit a change. -/
theorem failed_commit {change : String → StateDocument → StateDocument} {e : SagaError}
    (failed : (s.commit h change).1 = .error e) :
    ∃ f d, e = .store f ∧ (s.commit h change).2.history.getLast? = some (.save d (some f)) := by
  have grown := (grows_update h change s).history
  unfold commit at failed ⊢
  generalize s.update h change = x at failed grown ⊢
  obtain ⟨r, t⟩ := x
  cases r with
  | ok _ => cases failed
  | error f =>
    cases failed
    exact ⟨f, t.document, rfl, by rw [grown, List.getLast?_concat]; rfl⟩

theorem accounts_commit {change : String → StateDocument → StateDocument} {e : SagaError}
    (failed : (s.commit h change).1 = .error e) (rs : List Record) : Accounts rs e := by
  obtain ⟨f, d, rfl, -⟩ := failed_commit failed
  trivial

/-- What was created is recorded whether or not the step was interrupted. -/
theorem runs_created {k : Component} {step : String} {y : (Call.create k).Yield}
    {status : RecordStatus} {detail : Option String} (wanted : s.config.wants k = true)
    (absent : s.document.isCreated k = false)
    (worked : perform h (.create k) (begun h step s) = (.ok y, t))
    (reports : (Record.closed .up .step step status detail).Reports none) :
    let v := (commit h (recordCreated k y) (t.finish s.journal.next status detail)).2
    ∃ f, Runs s v [.closed .up .step step status detail]
      [.call (.create k) s.document none, .save v.document f] := by
  have made := grows_perform h (.create k) (begun h step s)
  rw [worked] at made
  have grows := (made.of_begun status detail).trans
    (grows_commit h (recordCreated k y) (t.finish s.journal.next status detail))
  have document : t.document = s.document := (congrArg (fun x => x.2.document) worked).symm
  have recorded :
      (commit h (recordCreated k y) (t.finish s.journal.next status detail)).2.document =
        (recordCreated k y (h.now t.world) s.document).touch (h.now t.world) := by
    rw [← document]
    rfl
  exact ⟨_, .of_move grows (.created wanted absent reports recorded)⟩

theorem runs_createFailed {k : Component} {step : String} {e : ProviderError}
    {status : RecordStatus} {detail : Option String} (wanted : s.config.wants k = true)
    (absent : s.document.isCreated k = false)
    (worked : perform h (.create k) (begun h step s) = (.error e, t))
    (reports : (Record.closed .up .step step status detail).Reports (some e)) :
    Runs s (t.finish s.journal.next status detail) [.closed .up .step step status detail]
      [.call (.create k) s.document (some e)] := by
  have made := grows_perform h (.create k) (begun h step s)
  have document : t.document = s.document := (congrArg (fun x => x.2.document) worked).symm
  rw [worked] at made
  refine .of_move (made.of_begun status detail) ?_
  rw [document_finish, document]
  exact .createFailed wanted absent reports

/-- **A creation** is a step that records what it created. -/
theorem reported_creation (h : Host ω) {k : Component} (wanted : s.config.wants k = true)
    (absent : s.document.isCreated k = false) :
    ∃ rs es, Reported [k] [creation k] s
      (s.forward h s!"create {k.label}" (perform h (.create k)) fun y =>
        commit h (recordCreated k y)) rs es := by
  have ends := forwarded h s!"create {k.label}" (perform h (.create k))
    (fun y => commit h (recordCreated k y)) s
  generalize s.forward h s!"create {k.label}" (perform h (.create k))
    (fun y => commit h (recordCreated k y)) = x at ends
  have creations (f : Option ProviderError) (d : StateDocument) (es : List Event)
      (hes : es.filterMap Event.creation? = []) :
      ∀ c ∈ (Event.call (.create k) d f :: es).filterMap Event.creation?, c ∈ [k] := by
    simp [Event.creation?, hes]
  cases ends with
  | refused =>
    exact ⟨[], [], .of_idle (grows_listen h s) rfl, by simp, .nil _ trivial, by simp, rfl⟩
  | @finished y t _ worked still =>
    obtain ⟨f, runs⟩ := runs_created wanted absent worked (Record.reports_ofStep .up _ none)
    exact ⟨_, _, runs, by simp, .of_passed rfl (by simp [Record.Passed, Record.closed])
      fun e failed => accounts_commit failed _, creations _ _ _ rfl, rfl⟩
  | @failed e t _ worked still =>
    have runs := runs_createFailed wanted absent worked (Record.reports_ofStep .up _ (some e))
    exact ⟨_, _, runs, by simp, .single rfl rfl, creations _ _ _ rfl, rfl⟩
  | @finishedCut y t o _ worked fired =>
    obtain ⟨f, runs⟩ := runs_created wanted absent worked (Record.reports_interrupted _ none)
    obtain ⟨e, he, ended⟩ := cutShort_fails o s!"create {k.label}"
      (commit h (recordCreated k y) (t.finish s.journal.next .interrupted none))
    rw [he]
    exact ⟨_, _, runs, by simp,
      .single rfl (accounts_cutShort (fun e failed => accounts_commit failed _) ended),
      creations _ _ _ rfl, rfl⟩
  | @failedCut e t o _ worked fired =>
    have runs := runs_createFailed wanted absent worked (Record.reports_interrupted _ (some e))
    exact ⟨_, _, runs, by simp, .single rfl trivial, creations _ _ _ rfl, rfl⟩

theorem reported_create (h : Host ω) (k : Component) (s : Session ω) :
    ∃ rs es, Reported [k] ((Stage.create k).plan s.config s.document) s (s.create h k) rs es := by
  have plan : (Stage.create k).plan s.config s.document =
      if s.config.wants k && !s.document.isCreated k then [creation k] else [] := rfl
  unfold create
  rw [plan]
  cases wanted : s.config.wants k with
  | false => exact ⟨[], [], .idle (.of_ok rfl (by simp))⟩
  | true =>
    cases absent : s.document.isCreated k with
    | true => exact ⟨[], [], .idle (.of_ok rfl (by simp))⟩
    | false =>
      cases driven : s.registry.drives k with
      | false => exact ⟨[], [], .idle (.nil _ trivial)⟩
      | true => exact reported_creation h wanted absent

/-- A creation that succeeds had nothing to do, or it has created its component and recorded
that. -/
theorem passed_create {k : Component} (ok : (s.create h k).1 = .ok ()) :
    (s.config.wants k && !s.document.isCreated k) = false ∧ s.create h k = (.ok (), s) ∨
      (s.config.wants k && !s.document.isCreated k) = true ∧
        ∃ y t, perform h (.create k) (begun h s!"create {k.label}" s) = (.ok y, t) ∧
          s.create h k =
            commit h (recordCreated k y) (t.finish s.journal.next .succeeded none) := by
  have todo : (!s.config.wants k || s.document.isCreated k) =
      !(s.config.wants k && !s.document.isCreated k) := by simp
  unfold create at ok ⊢
  rw [todo] at ok ⊢
  generalize (s.config.wants k && !s.document.isCreated k) = needed at ok ⊢
  cases needed with
  | false => exact .inl ⟨rfl, rfl⟩
  | true =>
    cases driven : s.registry.drives k with
    | false =>
      rw [driven] at ok
      cases ok
    | true =>
      simp only [driven, Bool.not_true, Bool.false_eq_true, if_false] at ok ⊢
      obtain ⟨y, t, worked, -, ends⟩ := passed_forward ok
      exact .inr ⟨trivial, y, t, worked, ends⟩

/-! ## All stages -/

/-- Writing the result of a hook leaves the session alone. -/
theorem runs_writeHook (h : Host ω) (path command : String)
    (r : Except ProviderError CommandOutput) (s : Session ω) :
    Runs s (writeHook h path command r s).2 [] [] :=
  .of_idle ⟨rfl, rfl, rfl, (List.append_nil _).symm, (List.append_nil _).symm⟩ rfl

theorem accounts_writeHook {path command : String} {r : Except ProviderError CommandOutput}
    {e : SagaError} (failed : (writeHook h path command r s).1 = .error e) (rs : List Record) :
    Accounts rs e := by
  unfold writeHook at failed
  cases written : h.writeResult path (Hook.render command r) s.world with
  | mk r w =>
    rw [written] at failed
    cases r with
    | ok _ => cases failed
    | error _ =>
      cases failed
      trivial

theorem reported_hook (h : Host ω) (p : HookPoint) (s : Session ω) :
    ∃ rs es, Reported [] ((Stage.hook p).plan s.config s.document) s (s.hook h p) rs es := by
  have plan : (Stage.hook p).plan s.config s.document =
      if (p.command s.config.hooks).isSome then [(.step, s!"hook {p.name}")] else [] := rfl
  unfold hook
  rw [plan]
  cases configured : p.command s.config.hooks with
  | none => exact ⟨[], [], .idle (.of_ok rfl (by simp))⟩
  | some template =>
    cases p.output s.config.hooks with
    | none => exact ⟨[], [], .idle (.nil _ trivial)⟩
    | some path =>
      -- A command that fails does not make the step fail.
      exact reported_step _ (runHook h (Text.expand template (Hook.refs s.config s.document))) _
        (asked_perform h _ _ rfl) rfl (runs_writeHook h path _) fun _ _ _ => accounts_writeHook

theorem reported_setUpGpu (h : Host ω) (s : Session ω) :
    ∃ rs es, Reported [] (Stage.gpu.plan s.config s.document) s (s.setUpGpu h) rs es := by
  have plan : Stage.gpu.plan s.config s.document =
      if s.config.needsGpuDrivers then
        [(.step, "install gpu driver")] ++ [(.step, "gpu smoke test")] else [] := rfl
  unfold setUpGpu
  rw [plan]
  cases needed : s.config.needsGpuDrivers with
  | false => exact ⟨[], [], .idle (.of_ok rfl (by simp))⟩
  | true =>
    cases available : h.provider.hasGpu s.world with
    | false => exact ⟨[], [], .idle (.nil _ trivial)⟩
    | true =>
      simp only [Bool.not_true, Bool.false_eq_true, if_false, if_true]
      obtain ⟨rs, es, install⟩ := reported_keep (s := s) "install gpu driver"
        (perform h .installDriver) (asked_perform h _ _ rfl) rfl
      cases installed : s.forward h "install gpu driver" (perform h .installDriver) keep with
      | mk r t =>
        rw [installed] at install
        cases r with
        | error e => exact ⟨rs, es, install.prolong⟩
        | ok _ =>
          obtain ⟨rs', es', test⟩ := reported_keep (s := t) "gpu smoke test"
            (perform h .smokeTest) (asked_perform h _ _ rfl) rfl
          exact ⟨_, _, install.append test⟩

theorem reported_settleStage (h : Host ω) (reason : SettleReason) (s : Session ω) :
    ∃ rs es, Reported [] [reason.heading] s (s.settleStage h reason) rs es := by
  have runs := runs_settle h .up reason s
  unfold settleStage
  cases settled : s.settle h .up reason with
  | mk ended t =>
    rw [settled] at runs
    cases ended with
    | elapsed =>
      exact ⟨_, _, runs, by simp, .of_ok rfl (by simp [Record.Passed, Record.closed, statusOf]),
        by simp, rfl⟩
    | stopped o => exact ⟨_, _, runs, by simp, .single rfl trivial, by simp, rfl⟩

theorem reported_upload (h : Host ω) (s : Session ω) :
    ∃ rs es, Reported [] [(.step, "upload artifacts")] s (.ok (), s.uploadArtifacts h .up)
      rs es := by
  obtain ⟨f, runs⟩ := runs_uploadArtifacts h .up s
  refine ⟨_, _, runs, by simp, .of_ok (by simp) ?_, ?_, rfl⟩
  · intro r hr
    obtain rfl := List.mem_singleton.1 hr
    cases f with
    | none => exact .inl rfl
    | some e => exact .inr (.inr ⟨rfl, rfl⟩)
  · simp [Event.creation?]

/-- **A stage follows its plan**, up to its end or to its failure. -/
theorem staged (h : Host ω) {st : Stage} (planned : st ≠ .collect) (s : Session ω) :
    ∃ rs es, Reported st.component?.toList (st.plan s.config s.document) s (runStage h st s)
      rs es := by
  cases st with
  | create k => exact reported_create h k s
  | settle reason => exact reported_settleStage h reason s
  | health gate => exact reported_keep gate.step (awaitHealth h) (asked_awaitHealth h _) rfl
  | hook p => exact reported_hook h p s
  | gpu => exact reported_setUpGpu h s
  | upload => exact reported_upload h s
  | collect => exact absurd rfl planned

end Session

end Testbed
