import Testbed.Proofs.Questions
import Testbed.Proofs.TeardownOutcome
import Testbed.Proofs.Transcripts

/-!
# What a document says that is recorded as up

The up saga records an environment as up once it is complete. A teardown takes that back with its
last save only: until then each of its saves still says that the environment is up, although parts
of it are gone. A session that finds such a document brings nothing up.

**Theorem (`recorded_up`).** Under one configuration, what a document lacks that is saved as up was
deleted since a complete one was saved as up. What the up saga saves as up is complete.

**Counterexample (`recorded_up_incomplete`).** What a teardown saves as up need not be complete.
-/

namespace Testbed

/-- The document records all that the configuration wants. -/
def Complete (c : Config) (d : StateDocument) : Prop :=
  ∀ k, c.wants k = true → d.isCreated k = true

namespace Session

variable {ω : Type} {h : Host ω} {s t : Session ω} {c : Config} {d d' d'' : StateDocument}
  {rs : List Record} {log es es' : List Event}

/-! ## Provisioning completes an environment -/

theorem isCreated_of_create {k : Component} (wanted : s.config.wants k = true)
    (ok : (s.create h k).1 = .ok ()) : (s.create h k).2.document.isCreated k = true := by
  rcases passed_create ok with ⟨idle, same⟩ | ⟨-, y, t, -, ends⟩
  · rw [same]
    simpa [wanted] using idle
  · rw [ends]
    show ((recordCreated k y _ _).touch _).isCreated k = true
    rw [StateDocument.isCreated_touch, StateDocument.isCreated_recordCreated, if_pos rfl]

/-- Provisioning forgets nothing. -/
theorem isCreated_of_runAll {sts : List Stage} (planned : .collect ∉ sts) {k : Component}
    (created : s.document.isCreated k = true) :
    (s.runAll (runStage h) sts).2.document.isCreated k = true := by
  induction sts generalizing s with
  | nil => exact created
  | cons st sts ih =>
    obtain ⟨rs, es, report⟩ := staged h (fun he => planned (he ▸ List.mem_cons_self)) s
    have kept := (isCreated_of_creations report.runs.moves report.deletions k).2 (.inl created)
    unfold runAll
    generalize runStage h st s = x at kept ⊢
    obtain ⟨r, t⟩ := x
    cases r with
    | error e => exact kept
    | ok _ => exact ih (fun mem => planned (List.mem_cons_of_mem _ mem)) kept

/-- Stages that are all passed have created what they are to create. -/
theorem isCreated_of_stage {sts : List Stage} (planned : .collect ∉ sts) {k : Component}
    (mem : .create k ∈ sts) (wanted : s.config.wants k = true)
    (ok : (s.runAll (runStage h) sts).1 = .ok ()) :
    (s.runAll (runStage h) sts).2.document.isCreated k = true := by
  induction sts generalizing s with
  | nil => cases mem
  | cons st sts ih =>
    have rest : .collect ∉ sts := fun mem => planned (List.mem_cons_of_mem _ mem)
    obtain ⟨rs, es, report⟩ := staged h (fun he => planned (he ▸ List.mem_cons_self)) s
    have config := report.runs.grows.config
    have here : st = .create k → (runStage h st s).1 = .ok () →
        (runStage h st s).2.document.isCreated k = true := by
      rintro rfl passed
      exact isCreated_of_create wanted passed
    unfold runAll at ok ⊢
    generalize runStage h st s = x at config here ok ⊢
    obtain ⟨r, t⟩ := x
    cases r with
    | error e => cases ok
    | ok _ =>
      rcases List.mem_cons.1 mem with same | mem
      · exact isCreated_of_runAll rest (here same.symm rfl)
      · exact ih rest mem (config ▸ wanted) ok

/-- There is a stage for all that the configuration of a session wants. -/
theorem create_mem_plannedStages {writable : Bool} (opened : Opened h writable s) {k : Component}
    (wanted : s.config.wants k = true) : .create k ∈ plannedStages s.registry := by
  obtain ⟨d₀, handle?, made⟩ := opened.materialized
  have mem : k ∈ (plannedStages s.registry).filterMap Stage.component? := by
    rw [made, components_stages]
    cases k with
    | resource k => simp [ResourceKind.mem_all]
    | nodeGroup k => simp [NodeGroupKind.mem_all]
    | addOn k => cases tier : k.tier <;> simp [tierComponents, AddOnKind.mem_all, tier, wanted]
  obtain ⟨st, mem, component⟩ := List.mem_filterMap.1 mem
  cases st with
  | create k' =>
    cases component
    exact mem
  | _ => cases component

/-- **A provisioning that passes its stages completes the environment.** -/
theorem complete_of_planned {writable : Bool} (opened : Opened h writable s)
    (ok : (s.runPlanned h).1 = .ok ()) : Complete s.config (s.runPlanned h).2.document :=
  fun _ wanted => isCreated_of_stage (by simp [plannedStages])
    (create_mem_plannedStages opened wanted) wanted ok

/-! ## Who records an environment as up -/

/-- Nothing is recorded as up that was not before. -/
def lowering : Policy where
  call _ _ := True
  change f := ∀ now d, (f now d).up = true → d.up = true

theorem up_set (d : StateDocument) (k : Component) (b : Bool) (now : String) :
    (d.set k b now).up = d.up := by
  cases k <;> rfl

theorem planned_within_lowering : planned.Within lowering where
  call _ _ _ := trivial
  change _ allowed now d up := by
    obtain ⟨k, y, rfl⟩ := allowed
    rwa [← up_set d k true now]

theorem collecting_within_lowering : collecting.Within lowering where
  call _ _ _ := trivial
  change _ allowed := allowed.elim

theorem asking_within_lowering : asking.Within lowering where
  call _ _ _ := trivial
  change _ allowed := allowed.elim

theorem tearingDown_within_lowering : tearingDown.Within lowering where
  call _ _ _ := trivial
  change _ allowed now d up := by
    obtain ⟨k, rfl⟩ | rfl := allowed
    · rwa [← up_set d k false now]
    · cases up

/-- What does not record the environment as up saves no document that does, unless it was so
before. -/
theorem up_of_lowering (does : Does lowering h s t) :
    (t.document.up = true → s.document.up = true) ∧
      ∃ es, t.history = s.history ++ es ∧ ∀ d f, .save d f ∈ es → d.up = true →
        s.document.up = true := by
  have step (t : Session ω) (a : Act) (before : t.document.up = true → s.document.up = true)
      (allowed : lowering.Allows t.stop a) :
      ((t.act h a).document.up = true → s.document.up = true) ∧
        ∀ e ∈ eventsOf h t a, ∀ d f, e = .save d f → d.up = true → s.document.up = true := by
    cases a with
    | save change =>
      have after : (t.update h change).2.document.up = true → s.document.up = true :=
        fun up => before (allowed _ _ up)
      refine ⟨after, fun e he d f same up => ?_⟩
      rw [List.mem_singleton.1 he] at same
      cases same
      exact after up
    | call c =>
      refine ⟨before, fun e he d f same => ?_⟩
      rw [List.mem_singleton.1 he] at same
      cases same
    | _ => exact ⟨before, by simp [eventsOf]⟩
  obtain ⟨kept, es, grown, saves⟩ := does.invariant
    (fun t => t.document.up = true → s.document.up = true) _ step id
  exact ⟨kept, es, grown, fun d f mem => saves _ mem d f rfl⟩

theorem saves_of_lowering (does : Does lowering h s t) (notUp : s.document.up = false) :
    ∃ es, t.history = s.history ++ es ∧ ∀ d f, .save d f ∈ es → d.up = false := by
  obtain ⟨-, es, grown, saves⟩ := up_of_lowering does
  refine ⟨es, grown, fun d f mem => Bool.eq_false_iff.2 fun up => ?_⟩
  have before := saves d f mem up
  rw [notUp] at before
  cases before

/-! ## Bringing up -/

theorem document_collect (h : Host ω) (s : Session ω) :
    (s.collect h).document = s.document := by
  have step (t : Session ω) (a : Act) (same : t.document = s.document)
      (allowed : collecting.Allows t.stop a) :
      (t.act h a).document = s.document ∧ ∀ e ∈ eventsOf h t a, True := by
    cases a with
    | save change => exact allowed.elim
    | _ => exact ⟨same, fun _ _ => trivial⟩
  exact ((does_collect h s).invariant (fun t => t.document = s.document) (fun _ => True) step
    rfl).1

/-- **What the up saga saves as up is complete.** -/
theorem complete_of_up (opened : Opened h true s) :
    ∃ es, (s.up h).2.history = s.history ++ es ∧
      ∀ d f, .save d f ∈ es → d.up = true → Complete s.config d := by
  cases notUp : s.document.up with
  | true => exact ⟨[], by rw [up_of_up opened notUp, List.append_nil], by simp⟩
  | false =>
    have planned := (traced_runPlanned h s).does.mono planned_within_lowering
    have passed := complete_of_planned (h := h) opened
    rw [up_eq opened.isWritable notUp]
    generalize s.runPlanned h = x at planned passed ⊢
    obtain ⟨r, t⟩ := x
    cases r with
    | error e =>
      have uploaded : Does lowering h s (t.uploadArtifacts h .up) :=
        planned.trans (does_uploadArtifacts .up trivial)
      have ended : Does lowering h s (let u := t.uploadArtifacts h .up
          if u.config.onFailure.delete then u.compensate h else u) := by
        dsimp only
        split
        · exact uploaded.trans ((does_compensate h _).mono tearingDown_within_lowering)
        · exact uploaded
      obtain ⟨es, grown, saves⟩ := saves_of_lowering ended notUp
      exact ⟨es, grown, fun d f mem up => nomatch (saves d f mem).symm.trans up⟩
    | ok _ =>
      -- Up to the save that marks the environment as up, nothing is recorded as up.
      have collected := planned.trans ((does_collect h t).mono collecting_within_lowering)
      obtain ⟨es, grown, saves⟩ := saves_of_lowering
        (collected.trans (does_uploadArtifacts .up trivial)) notUp
      have marked := (grows_update h (fun now d => d.markUp now)
        ((t.collect h).uploadArtifacts h .up)).history
      rw [grown, List.append_assoc] at marked
      refine ⟨_, marked, fun d f mem up => ?_⟩
      rcases List.mem_append.1 mem with mem | mem
      · exact nomatch (saves d f mem).symm.trans up
      · cases List.mem_singleton.1 mem
        intro k wanted
        simpa [document_collect] using passed rfl k wanted

/-! ## What is lost -/

/-- A save ends a move. -/
theorem Move.endsWithSave {x : StateDocument} {f : Option StoreError} {past since : List Event}
    (m : Move c d rs es d') (split : es = past ++ .save x f :: since) : since = [] ∧ x = d' := by
  have saves (calls : ∀ e ∈ es, ∀ y g, e ≠ .save y g) : False :=
    calls (.save x f) (by simp [split]) x f rfl
  -- Where there is a save, there is at most a call before it.
  have pair {e : Event} {g : Option StoreError} (call : ∀ y g, e ≠ .save y g)
      (both : [e, .save d' g] = past ++ .save x f :: since) : since = [] ∧ x = d' := by
    rcases past with _ | ⟨e', _ | ⟨e'', past⟩⟩
    · exact absurd (List.cons.inj both).1 (call x f)
    · simp_all
    · simp at both
  have single {g : Option StoreError} (one : [.save d' g] = past ++ .save x f :: since) :
      since = [] ∧ x = d' := by
    rcases past with _ | ⟨e', past⟩
    · simp_all
    · simp at one
  cases m with
  | pause => exact (saves (by simp)).elim
  | query => exact (saves (by simp)).elim
  | step =>
    refine (saves fun e mem y g => ?_).elim
    rcases List.mem_append.1 mem with mem | mem
    · obtain ⟨e', -, rfl⟩ := List.mem_map.1 mem
      exact nofun
    · rw [List.mem_singleton.1 mem]
      exact nofun
  | createFailed => exact (saves (by simp)).elim
  | deleteFailed => exact (saves (by simp)).elim
  | created => exact pair (by simp) split
  | deleted => exact pair (by simp) split
  | markUp => exact single split
  | markDown => exact single split

/-- What was saved in the course of some moves is where they had come to by then. -/
theorem Moves.upToSave (m : Moves c d rs es d') {x : StateDocument} {f : Option StoreError}
    {past since : List Event} (split : es = past ++ .save x f :: since) :
    ∃ rs', Moves c d rs' (past ++ [.save x f]) x := by
  induction m generalizing past with
  | none => simp at split
  | @move d d' d'' rs rs' es es' first rest ih =>
    -- The save ends the first move, or it is among the later ones.
    rcases append_eq_append_cons split with ⟨mid, here, -⟩ | ⟨mid, rfl, there⟩
    · obtain ⟨rfl, rfl⟩ := first.endsWithSave here
      rw [← here]
      exact ⟨_, first.moves⟩
    · obtain ⟨rs'', upTo⟩ := ih there
      rw [List.append_assoc]
      exact ⟨_, .move first upTo⟩

/-- What is no longer recorded was deleted. -/
theorem Moves.lost (m : Moves c d rs es d') {k : Component} (gone : d'.isCreated k = false) :
    d.isCreated k = false ∨ WasDeleted k es := by
  rw [m.isCreated_eq k] at gone
  cases last : (turns k es).getLast? with
  | none => exact .inl (by simpa [last] using gone)
  | some b =>
    obtain rfl : b = false := by simpa [last] using gone
    exact .inr (false_mem_turns.1 (List.mem_of_getLast? last))

/-- The document in memory was saved, or at least it was tried to. -/
theorem Moves.saved (m : Moves c d rs es d') : d' = d ∨ ∃ f, .save d' f ∈ es := by
  induction m with
  | none => exact .inl rfl
  | @move d d' d'' rs rs' es es' first _ ih =>
    have here : d' = d ∨ ∃ f, .save d' f ∈ es := by cases first <;> simp
    rcases ih with rfl | ⟨f, mem⟩
    · exact here.imp id fun ⟨f, mem⟩ => ⟨f, List.mem_append_left _ mem⟩
    · exact .inr ⟨f, List.mem_append_right _ mem⟩

end Session

open Session

variable {c : Config} {d d' : StateDocument} {log es es' : List Event}

/-- After these events, the document is what a complete environment was recorded as up with, less
what was deleted since. -/
def OnceComplete (c : Config) (log : List Event) (d : StateDocument) : Prop :=
  ∃ past x f since, log = past ++ .save x f :: since ∧ x.up = true ∧ Complete c x ∧
    ∀ k, c.wants k = true → d.isCreated k = false → WasDeleted k since

theorem OnceComplete.of_complete (up : d.up = true) (complete : Complete c d)
    (f : Option StoreError) : OnceComplete c (log ++ [.save d f]) d :=
  ⟨log, d, f, [], rfl, up, complete, fun k wanted gone =>
    nomatch gone.symm.trans (complete k wanted)⟩

theorem OnceComplete.append (once : OnceComplete c log d)
    (lost : ∀ k, d'.isCreated k = false → d.isCreated k = false ∨ WasDeleted k es) :
    OnceComplete c (log ++ es) d' := by
  obtain ⟨past, x, f, since, rfl, up, complete, deleted⟩ := once
  refine ⟨past, x, f, since ++ es, by simp, up, complete, fun k wanted gone => ?_⟩
  rcases lost k gone with gone | ⟨y, mem⟩
  · obtain ⟨y, mem⟩ := deleted k wanted gone
    exact ⟨y, List.mem_append_left _ mem⟩
  · exact ⟨y, List.mem_append_right _ mem⟩

/-- All documents that these events save as up were once complete. -/
def Truthful (c : Config) (log es : List Event) : Prop :=
  ∀ past x f since, es = past ++ .save x f :: since → x.up = true →
    OnceComplete c (log ++ (past ++ [.save x f])) x

theorem Truthful.append (first : Truthful c log es) (rest : Truthful c (log ++ es) es') :
    Truthful c log (es ++ es') := by
  intro past x f since split up
  rcases append_eq_append_cons split with ⟨mid, here, -⟩ | ⟨mid, rfl, there⟩
  · exact first past x f mid here up
  · rw [List.append_assoc, ← List.append_assoc]
    exact rest mid x f since there up

/-- What is saved as up and is complete is truthful. -/
theorem Truthful.of_complete
    (complete : ∀ d f, .save d f ∈ es → d.up = true → Complete c d) : Truthful c log es := by
  intro past x f since split up
  rw [← List.append_assoc]
  exact .of_complete up (complete x f (by simp [split]) up) f

namespace Session

variable {ω : Type} {h : Host ω} {s t : Session ω} {rs : List Record}

/-- A run that does not record the environment as up is truthful if its document was. -/
theorem Runs.truthful (runs : Runs s t rs es) (does : Does lowering h s t)
    (before : s.document.up = true → OnceComplete s.config log s.document) :
    Truthful s.config log es := by
  obtain ⟨-, es', grown, saves⟩ := up_of_lowering does
  obtain rfl := List.append_cancel_left (runs.grows.history.symm.trans grown)
  intro past x f since split up
  obtain ⟨rs', upTo⟩ := runs.moves.upToSave split
  exact (before (saves x f (by simp [split]) up)).append fun _ => upTo.lost

/-- **Every operation is truthful.** -/
theorem truthful_operate (opened : Opened h true s) (log : List Event)
    (before : s.document.up = true → OnceComplete s.config log s.document) (o : Operation) :
    ∃ rs es, Runs s (s.operate h o) rs es ∧ Truthful s.config log es := by
  obtain ⟨rs, es, runs⟩ := runs_operate opened o
  refine ⟨rs, es, runs, ?_⟩
  cases o with
  | up =>
    obtain ⟨es', grown, complete⟩ := complete_of_up opened
    obtain rfl := List.append_cancel_left (runs.grows.history.symm.trans grown)
    exact .of_complete complete
  | down =>
    exact runs.truthful ((does_down h s).mono tearingDown_within_lowering) before
  | isUp => exact runs.truthful ((does_isUp h s).mono asking_within_lowering) before
  | dumpLogs => exact runs.truthful ((does_dumpLogs h s).mono asking_within_lowering) before

end Session

/-! ## The life of an environment -/

namespace Moment

variable {ω : Type} {m n : Moment ω} {o : Option Operation}

/-- A moment that comes some time after another, when all sessions until then have had this
configuration. -/
inductive Steady (c : Config) (m : Moment ω) : Moment ω → Prop
  | here (config : m.session.config = c) : Steady c m m
  | next {n n' : Moment ω} {o : Option Operation} (before : Steady c m n) (next : Next n o n')
      (config : n'.session.config = c) : Steady c m n'

/-- At this moment all that was ever saved as up was once complete. -/
structure Vouched (c : Config) (m : Moment ω) : Prop where
  opened : Opened m.host true m.session
  config : m.session.config = c
  current : ∃ f, .save m.session.document f ∈ m.log
  truthful : Truthful c [] m.log

theorem Vouched.onceComplete (vouched : Vouched c m) {f : Option StoreError}
    (mem : .save d f ∈ m.log) (up : d.up = true) : OnceComplete c m.log d := by
  obtain ⟨past, since, split⟩ := List.append_of_mem mem
  have once : OnceComplete c (past ++ [.save d f]) d := vouched.truthful past d f since split up
  have later : OnceComplete c (past ++ [.save d f] ++ since) d :=
    once.append fun _ gone => .inl gone
  simpa [split] using later

theorem First.vouched (first : m.First) (config : m.session.config = c) : Vouched c m := by
  obtain ⟨opened, log, c', now, fresh⟩ := first.starts
  refine ⟨opened, config, ⟨none, by simp [log]⟩, .of_complete fun d f mem up => ?_⟩
  rw [log] at mem
  cases List.mem_singleton.1 mem
  rw [fresh] at up
  cases up

theorem Next.vouched (next : Next m o n) (vouched : Vouched c m) (config : n.session.config = c) :
    Vouched c n := by
  suffices kept : (∃ f, .save n.session.document f ∈ n.log) ∧ Truthful c [] n.log from
    ⟨next.opened vouched.opened, config, kept.1, kept.2⟩
  cases next with
  | operate o stop w =>
    have before : m.session.document.up = true →
        OnceComplete m.session.config m.log m.session.document := fun up => by
      obtain ⟨f, mem⟩ := vouched.current
      exact vouched.config ▸ vouched.onceComplete mem up
    obtain ⟨rs, es, runs, truthful⟩ :=
      truthful_operate (opened_operate vouched.opened stop w) m.log before o
    rw [log_operate runs.grows.history]
    have config' : ({ m.session with stop := stop, world := w } : Session ω).config = c :=
      vouched.config
    rw [config'] at truthful
    refine ⟨?_, vouched.truthful.append truthful⟩
    rcases runs.moves.saved with same | ⟨f, mem⟩
    · obtain ⟨f, mem⟩ := vouched.current
      exact ⟨f, List.mem_append_left _ (same ▸ mem)⟩
    · exact ⟨f, List.mem_append_right _ mem⟩
  | @reopen h c' stop w w' d x s last loaded same opened =>
    obtain ⟨flags, history⟩ := reopened loaded same opened
    obtain ⟨document, -⟩ := startedOver loaded opened
    have grown : (Moment.mk h s m.log).log = m.log ++ [.save s.document none] :=
      congrArg (m.log ++ ·) history
    have saves : s.document.up = true → OnceComplete c (m.log ++ [.save s.document none])
        s.document := by
      intro up
      have up' : x.up = true := by
        rw [← same.up_eq]
        rw [document] at up
        exact up
      refine (vouched.onceComplete (mem_of_lastSaved last) up').append fun k gone => .inl ?_
      rw [← flags]
      exact gone
    rw [grown]
    refine ⟨⟨none, by simp⟩, vouched.truthful.append fun past y f since split up => ?_⟩
    obtain ⟨rfl, one⟩ | ⟨-, rest⟩ := List.singleton_eq_append_iff.1 split
    · cases one
      exact saves up
    · cases rest

theorem Steady.vouched (life : Steady c m n) (first : m.First) : Vouched c n := by
  induction life with
  | here config => exact first.vouched config
  | next _ next config ih => exact next.vouched ih config

/-- **What is recorded as up was once complete.** Under one configuration, whatever is done in
whatever sessions, whatever fails in them and whenever the stop signal fires: each document that is
saved as up is a complete environment's, or what it lacks was deleted since such a document was
saved. What the up saga itself saves as up is complete. -/
theorem recorded_up (first : m.First) (life : Steady c m n) :
    (∀ before d f after, n.log = before ++ .save d f :: after → d.up = true →
      OnceComplete c (before ++ [.save d f]) d) ∧
    ∀ stop w before d f after,
      (n.operate .up stop w).log = n.log ++ before ++ .save d f :: after → d.up = true →
        Complete c d := by
  have vouched := life.vouched first
  refine ⟨fun before d f after split up => ?_, fun stop w before d f after split up => ?_⟩
  · exact vouched.truthful before d f after split up
  · obtain ⟨es, history, complete⟩ := complete_of_up (opened_operate vouched.opened stop w)
    have grown : (n.operate .up stop w).log = n.log ++ es := log_operate history
    rw [grown, List.append_assoc] at split
    have mem : .save d f ∈ es := by simp [List.append_cancel_left split]
    exact vouched.config ▸ complete d f mem up

/-- A bench on which all goes well. -/
def calmBench : Bench where
  now := "noon"

theorem steady_sampleLife {w : Bench}
    (first : First (⟨sampleHost, firstSession sampleHost sampleConfig {} w, []⟩ : Moment Bench)) :
    Steady sampleConfig ⟨sampleHost, firstSession sampleHost sampleConfig {} w, []⟩
      (sampleLife w) := by
  have opened := first.starts.1
  have broughtUp := config_operate opened .up {} (firstSession sampleHost sampleConfig {} w).world
  have next := Next.operate (m := ⟨sampleHost, firstSession sampleHost sampleConfig {} w, []⟩)
    .up {} (firstSession sampleHost sampleConfig {} w).world
  have opened' := next.opened opened
  exact .next (.next (.here rfl) next broughtUp) (.operate .down ..)
    ((config_operate opened' .down {} _).trans broughtUp)

/-- In the course of the teardown, a document is saved as up that lacks the key pair. -/
theorem lacking_sampleLife : ∃ d, .save d none ∈ (sampleLife calmBench).log ∧ d.up = true ∧
    d.name = sampleConfig.name ∧ d.isCreated (.resource .keyPair) = false := by
  have found : ((sampleLife calmBench).log.filterMap Event.saved?).any (fun d =>
      d.up && d.name = sampleConfig.name && !d.isCreated (.resource .keyPair)) = true := by
    decide +kernel
  obtain ⟨d, mem, lacks⟩ := List.any_eq_true.1 found
  simp only [Bool.and_eq_true, decide_eq_true_eq, Bool.not_eq_true'] at lacks
  exact ⟨d, mem_saved.1 mem, lacks.1.1, lacks.1.2, lacks.2⟩

theorem recorded_up_calmBench :
    ∃ before d f, d.up = true ∧ d.isCreated (.resource .keyPair) = false ∧
      OnceComplete sampleConfig (before ++ [.save d f]) d := by
  have first := first_sampleLife (w := calmBench) rfl rfl
  obtain ⟨d, mem, up, -, lacks⟩ := lacking_sampleLife
  obtain ⟨before, after, split⟩ := List.append_of_mem mem
  exact ⟨before, d, none, up, lacks,
    (recorded_up first (steady_sampleLife first)).1 before d none after split up⟩

/-- What is recorded as up may be incomplete. On this bench all goes well, but the process may be
gone once the teardown has deleted the key pair; a session that is opened after that does not create
it again. -/
theorem recorded_up_incomplete :
    ∃ m n : Moment Bench, m.First ∧ Steady sampleConfig m n ∧ Saved n.log ∧
      ∃ d, .save d none ∈ n.log ∧ d.up = true ∧ ¬ Complete sampleConfig d ∧
        ∃ s w, start sampleHost sampleConfig true {} { calmBench with store := .memory (some d) } =
            (.ok s, w) ∧
          s.up sampleHost = (.ok (), s) ∧ ¬ Complete sampleConfig s.document := by
  have first := first_sampleLife (w := calmBench) rfl rfl
  obtain ⟨d, mem, up, name, lacks⟩ := lacking_sampleLife
  have incomplete {x : StateDocument} (same : x.isCreated = d.isCreated) :
      ¬ Complete sampleConfig x := fun complete => by
    have created := complete (.resource .keyPair) rfl
    rw [same, lacks] at created
    cases created
  refine ⟨_, _, first, steady_sampleLife first, by decide +kernel, d, mem, up, incomplete rfl, ?_⟩
  obtain ⟨s, opened⟩ := start_of_stored (h := sampleHost) (c := sampleConfig)
    (w := { calmBench with store := .memory (some d) }) {} (by decide) rfl name rfl
  obtain ⟨document, -⟩ := startedOver rfl opened
  have recorded : s.document.up = true := by rw [document]; exact up
  exact ⟨s, _, opened, up_of_up ⟨_, _, _, _, _, opened, rfl, rfl, rfl⟩ recorded,
    incomplete (by rw [document]; simp)⟩

end Moment

end Testbed
