import Testbed.Proofs.Ledger
import Testbed.Proofs.ProvisioningPlan

/-!
# The life of an environment

An environment lives through many sessions. They are opened one after the other on the same store,
each with its own configuration and provider, and in each the operator may bring the environment
up, tear it down and ask about it, in any order. `Path` follows such a life from one moment to
another.

**Theorem (`ledger_of_life`).** In every life that begins with an empty store and in which no save
fails, the ledger is accurate at every moment and whenever a call to the provider begins.
-/

namespace Testbed

namespace Session

variable {ω : Type} {h : Host ω} {s t u : Session ω} {rs rs' : List Record} {es es' : List Event}
  {c : Config} {d : StateDocument}

/-! ## Questions -/

/-- A run that neither creates nor deletes anything. -/
structure Quiet (s t : Session ω) (records : List Record) (events : List Event) : Prop where
  runs : Runs s t records events
  creations : events.filterMap Event.creation? = []
  deletions : events.filterMap Event.deletion? = []

theorem Quiet.refl (s : Session ω) : Quiet s s [] [] := ⟨.refl s, rfl, rfl⟩

theorem Quiet.trans (h₁ : Quiet s t rs es) (h₂ : Quiet t u rs' es') :
    Quiet s u (rs ++ rs') (es ++ es') where
  runs := h₁.runs.trans h₂.runs
  creations := by rw [List.filterMap_append, h₁.creations, h₂.creations]; rfl
  deletions := by rw [List.filterMap_append, h₁.deletions, h₂.deletions]; rfl

theorem Quiet.turns_eq_nil (quiet : Quiet s t rs es) (k : Component) : turns k es = [] :=
  Testbed.turns_eq_nil (by simp [quiet.creations]) (by simp [quiet.deletions])

theorem Quiet.isCreated_eq (quiet : Quiet s t rs es) :
    t.document.isCreated = s.document.isCreated := by
  funext k
  rw [quiet.runs.moves.isCreated_eq k, quiet.turns_eq_nil k]
  rfl

/-- A harmless call is quiet. -/
theorem quiet_perform (h : Host ω) (call : Call) (s : Session ω)
    (harmless : call.isHarmless = true) :
    Quiet s (perform h call s).2 [] [.call call s.document (failureOf (perform h call s).1)] where
  runs := .of_move (grows_perform h call s) (.query harmless)
  creations := by cases call <;> first | rfl | exact nomatch harmless
  deletions := by cases call <;> first | rfl | exact nomatch harmless

theorem quiet_isUp (h : Host ω) (s : Session ω) : ∃ es, Quiet s (s.isUp h).2 [] es := by
  have asked := quiet_perform h .checkHealth s rfl
  unfold isUp
  cases s.document.up with
  | false => exact ⟨_, .refl s⟩
  | true =>
    cases checked : perform h .checkHealth s with
    | mk r t =>
      rw [checked] at asked
      cases r with
      | ok _ => exact ⟨_, asked⟩
      | error e => exact ⟨_, asked⟩

theorem quiet_dumpLogsOf (h : Host ω) (k : NodeGroupKind) (s : Session ω) :
    ∃ es, Quiet s (s.dumpLogsOf h k).2 [] es := by
  have asked := quiet_perform h (.fetchLogs (.nodeGroup k)) s rfl
  unfold dumpLogsOf
  dsimp only
  cases !(s.registry.nodeGroup k).enabled || !s.document.nodeGroupCreated k with
  | true => exact ⟨_, .refl s⟩
  | false =>
    cases (s.registry.nodeGroup k).handle with
    | none => exact ⟨_, .refl s⟩
    | some handle =>
      dsimp only
      cases handle.fetchesLogs with
      | false => exact ⟨_, .refl s⟩
      | true =>
        cases fetched : perform h (.fetchLogs (.nodeGroup k)) s with
        | mk r t =>
          rw [fetched] at asked
          cases r with
          | ok _ => exact ⟨_, asked⟩
          | error e => exact ⟨_, asked⟩

theorem quiet_runAll {α ε : Type} {run : α → Action ω ε Unit}
    (quiet : ∀ a s, ∃ es, Quiet s (run a s).2 [] es) (l : List α) (s : Session ω) :
    ∃ es, Quiet s (s.runAll run l).2 [] es := by
  induction l generalizing s with
  | nil => exact ⟨_, .refl s⟩
  | cons a l ih =>
    obtain ⟨es, first⟩ := quiet a s
    unfold runAll
    cases ran : run a s with
    | mk r t =>
      rw [ran] at first
      cases r with
      | error e => exact ⟨_, first⟩
      | ok _ =>
        obtain ⟨es', rest⟩ := ih t
        exact ⟨_, first.trans rest⟩

theorem quiet_dumpLogs (h : Host ω) (s : Session ω) : ∃ es, Quiet s (s.dumpLogs h).2 [] es :=
  quiet_runAll (quiet_dumpLogsOf h) NodeGroupKind.all s

/-! ## Operations -/

/-- What an operator can do in a session. -/
inductive Operation
  | up | down | isUp | dumpLogs
  deriving DecidableEq

/-- The session once an operation has returned. -/
def operate (h : Host ω) (s : Session ω) : Operation → Session ω
  | .up => (s.up h).2
  | .down => (s.down h).2
  | .isUp => (s.isUp h).2
  | .dumpLogs => (s.dumpLogs h).2

/-- An environment that is recorded as up is left alone. -/
theorem up_of_writable (isWritable : s.writable = true) (up : s.document.up = true) :
    s.up h = (.ok (), s) := by
  have allowed : s.allow .up = .ok () := by simp [allow, isWritable]
  unfold Session.up
  rw [allowed]
  simp only [up, if_true]

theorem up_of_up (opened : Opened h true s) (up : s.document.up = true) :
    s.up h = (.ok (), s) :=
  up_of_writable opened.isWritable up

theorem runs_up (opened : Opened h true s) : ∃ rs es, Runs s (s.up h).2 rs es := by
  cases notUp : s.document.up with
  | false =>
    obtain ⟨ran, logs, f, rest, before, es, up⟩ := broughtUp opened notUp
    exact ⟨_, _, up.runs⟩
  | true =>
    rw [up_of_up opened notUp]
    exact ⟨_, _, .refl s⟩

/-- **Every operation is a run.** -/
theorem runs_operate (opened : Opened h true s) (o : Operation) :
    ∃ rs es, Runs s (s.operate h o) rs es := by
  cases o with
  | up => exact runs_up opened
  | down =>
    obtain ⟨rs, es, down⟩ := runsDown_down h s
    exact ⟨rs, es, down.runs⟩
  | isUp =>
    obtain ⟨es, quiet⟩ := quiet_isUp h s
    exact ⟨_, es, quiet.runs⟩
  | dumpLogs =>
    obtain ⟨es, quiet⟩ := quiet_dumpLogs h s
    exact ⟨_, es, quiet.runs⟩

end Session

open Session

/-! ## Moments -/

/-- The same document, but for its seal. -/
def StateDocument.SameButSeal (d x : StateDocument) : Prop := { d with checksum := x.checksum } = x

theorem StateDocument.SameButSeal.isCreated_eq {d x : StateDocument} (same : d.SameButSeal x) :
    d.isCreated = x.isCreated := by
  rw [← isCreated_checksum d x.checksum]
  exact congrArg isCreated same

theorem StateDocument.SameButSeal.up_eq {d x : StateDocument} (same : d.SameButSeal x) :
    d.up = x.up := by
  have up := congrArg StateDocument.up (Eq.trans rfl same)
  exact up

/-- A moment in the life of an environment: the session that is open, what it works on, and the
events of the sessions before it. -/
structure Moment (ω : Type) where
  host : Host ω
  session : Session ω
  past : List Event

namespace Moment

variable {ω : Type} {m n : Moment ω} {o : Option Operation} {allowed : Operation → Prop}

/-- All events so far. -/
def log (m : Moment ω) : List Event := m.past ++ m.session.history

/-- The moment at which an operation returns. Before it began, the world may have changed and the
stop signal may have fired. -/
def operate (m : Moment ω) (o : Operation) (stop : StopSignal) (w : ω) : Moment ω :=
  { m with session := { m.session with stop := stop, world := w }.operate m.host o }

/-- The first moment of an environment: a session was opened on an empty store. -/
structure First (m : Moment ω) : Prop where
  past : m.past = []
  opened : ∃ (c : Config) (stop : StopSignal) (w w' : ω), m.host.load w = .ok none ∧
    start m.host c true stop w = (.ok m.session, w')

/-- What can come next: an operation returns, or another session is opened on the store, which
gives back what was saved last. -/
inductive Next (m : Moment ω) : Option Operation → Moment ω → Prop
  | operate (o : Operation) (stop : StopSignal) (w : ω) : Next m (some o) (m.operate o stop w)
  | reopen {h : Host ω} {c : Config} {stop : StopSignal} {w w' : ω} {d x : StateDocument}
      {s : Session ω} (saved : lastSaved m.log = some x) (loaded : h.load w = .ok (some d))
      (same : d.SameButSeal x) (opened : start h c true stop w = (.ok s, w')) :
      Next m none ⟨h, s, m.log⟩

/-- A moment that comes some time after another; in between, only such operations were done. -/
inductive Path (allowed : Operation → Prop) (m : Moment ω) : Moment ω → Prop
  | here : Path allowed m m
  | next {n n' : Moment ω} {o : Option Operation} (before : Path allowed m n) (next : Next n o n')
      (permitted : ∀ p ∈ o, allowed p) : Path allowed m n'

/-! ## The ledger of a life -/

theorem opened_operate (opened : Opened m.host true m.session) (stop : StopSignal) (w : ω) :
    Opened m.host true { m.session with stop := stop, world := w } :=
  opened.grows ⟨rfl, rfl, rfl, (List.append_nil _).symm, (List.append_nil _).symm⟩

/-- The events of an operation come after all others. -/
theorem log_operate {o : Operation} {stop : StopSignal} {w : ω} {es : List Event}
    (history : (m.operate o stop w).session.history = m.session.history ++ es) :
    (m.operate o stop w).log = m.log ++ es := by
  rw [log, log, List.append_assoc]
  exact congrArg (m.past ++ ·) history

theorem config_operate (opened : Opened m.host true m.session) (o : Operation) (stop : StopSignal)
    (w : ω) : (m.operate o stop w).session.config = m.session.config := by
  obtain ⟨rs, es, runs⟩ := runs_operate (opened_operate opened stop w) o
  exact runs.grows.config

theorem Next.opened (next : Next m o n) (opened : Opened m.host true m.session) :
    Opened n.host true n.session := by
  cases next with
  | operate o stop w =>
    obtain ⟨rs, es, runs⟩ := runs_operate (opened_operate opened stop w) o
    exact (opened_operate opened stop w).grows runs.grows
  | reopen saved loaded same opened => exact ⟨_, _, _, _, _, opened, rfl, rfl, rfl⟩

/-- What a session opened on a store that gives back a document starts with. -/
theorem startedOver {h : Host ω} {c : Config} {stop : StopSignal} {w w' : ω} {d : StateDocument}
    {s : Session ω} (loaded : h.load w = .ok (some d))
    (opened : start h c true stop w = (.ok s, w')) :
    s.document = (d.syncIntent c).touch (h.now w) ∧ s.history = [.save s.document none] := by
  obtain ⟨d', st⟩ := started opened
  have hd : d' = d := by
    have found := st.loaded
    rw [startingDocument_of_stored loaded] at found
    split at found
    · exact (Except.ok.inj found).symm
    · cases found
  refine ⟨?_, by simpa using st.history⟩
  rw [st.document, if_pos rfl, hd]

theorem reopened {h : Host ω} {c : Config} {stop : StopSignal} {w w' : ω} {d x : StateDocument}
    {s : Session ω} (loaded : h.load w = .ok (some d)) (same : d.SameButSeal x)
    (opened : start h c true stop w = (.ok s, w')) :
    s.document.isCreated = x.isCreated ∧ s.history = [.save s.document none] := by
  obtain ⟨document, history⟩ := startedOver loaded opened
  refine ⟨?_, history⟩
  rw [document, StateDocument.isCreated_touch, StateDocument.isCreated_syncIntent,
    same.isCreated_eq]

/-- The first moment comes after a single save, that of a new document. -/
theorem First.starts (first : m.First) : Opened m.host true m.session ∧
    m.log = [.save m.session.document none] ∧
    ∃ (c : Config) (now : String),
      m.session.document = ((StateDocument.new c.name now).syncIntent c).touch now := by
  obtain ⟨c, stop, w, w', empty, opened⟩ := first.opened
  obtain ⟨d, st⟩ := started opened
  have hd : d = .new c.name (m.host.now w) :=
    Except.ok.inj (st.loaded.symm.trans (startingDocument_of_empty empty))
  refine ⟨⟨c, stop, w, w', _, opened, rfl, rfl, rfl⟩, ?_, c, m.host.now w, ?_⟩
  · rw [log, first.past, st.history]
    rfl
  · rw [st.document, if_pos rfl, hd]

/-- The ledger of the life so far: it is accurate now and was so whenever a call began. -/
structure Kept (m : Moment ω) : Prop where
  opened : Opened m.host true m.session
  ledger : Saved m.log → Ledger m.log m.session.document ∧ AccurateAtCalls [] m.log

theorem First.kept (first : m.First) : m.Kept := by
  obtain ⟨opened, log, c, now, fresh⟩ := first.starts
  refine ⟨opened, fun _ => ?_⟩
  have flags (k : Component) : m.session.document.isCreated k = false := by
    rw [fresh]
    simp
  rw [log]
  refine ⟨⟨⟨_, rfl, rfl⟩, fun k => ?_⟩, .save _ _ _⟩
  simp [flags k]

theorem Next.kept (next : Next m o n) (kept : m.Kept) : n.Kept := by
  refine ⟨next.opened kept.opened, fun saved => ?_⟩
  cases next with
  | operate o stop w =>
    obtain ⟨rs, es, runs⟩ := runs_operate (opened_operate kept.opened stop w) o
    rw [log_operate runs.grows.history] at saved ⊢
    obtain ⟨before, since⟩ := saved_append.1 saved
    obtain ⟨ledger, accurate⟩ := kept.ledger before
    obtain ⟨ledger', accurate'⟩ := ledger.moves runs.moves since
    exact ⟨ledger', accurate.append accurate'⟩
  | @reopen h c stop w w' d x s last loaded same opened =>
    obtain ⟨flags, history⟩ := reopened loaded same opened
    have grown : (Moment.mk h s m.log).log = m.log ++ [.save s.document none] :=
      congrArg (m.log ++ ·) history
    rw [grown] at saved ⊢
    obtain ⟨ledger, accurate⟩ := kept.ledger (saved_append.1 saved).1
    obtain ⟨x', last', recorded⟩ := ledger.recorded
    -- The document of the store records what the one in memory did.
    obtain rfl : x' = x := Option.some.inj (last'.symm.trans last)
    have same' : s.document.isCreated = m.session.document.isCreated := flags.trans recorded
    refine ⟨⟨?_, fun k => ?_⟩, accurate.append (.save _ _ _)⟩
    · exact ⟨_, by rw [lastSaved_append]; rfl, rfl⟩
    · rw [same', ledger.turned k]
      simp

theorem Path.kept (path : Path allowed m n) (kept : m.Kept) : n.Kept := by
  induction path with
  | here => exact kept
  | next _ next _ ih => exact next.kept ih

/-- **The ledger of every life is accurate.** Whatever sessions are opened on a store that was empty
at first and in which no save fails, and whatever is done in them: whenever a call begins, and
whenever an operation has returned, the document in memory and the document that was saved last
record the same components as created, namely those whose last successful creation or deletion was
a creation. -/
theorem ledger_of_life (first : m.First) (life : Path (fun _ => True) m n) (saved : Saved n.log) :
    (∀ before call d f after, n.log = before ++ .call call d f :: after → Ledger before d) ∧
      Ledger n.log n.session.document :=
  have kept := (life.kept first.kept).ledger saved
  ⟨kept.2, kept.1⟩

/-- A session was opened on a bench; the environment was brought up, and then torn down. -/
def sampleLife (w : Bench) : Moment Bench :=
  let m : Moment Bench := ⟨sampleHost, firstSession sampleHost sampleConfig {} w, []⟩
  let n := m.operate .up {} m.session.world
  n.operate .down {} n.session.world

theorem first_sampleLife {w : Bench} (empty : w.load = .ok none)
    (saved : (w.save ((freshDocument sampleHost sampleConfig w).touch w.now)).1 = .ok ()) :
    First (⟨sampleHost, firstSession sampleHost sampleConfig {} w, []⟩ : Moment Bench) :=
  ⟨rfl, sampleConfig, {}, w, _, empty, start_of_empty {} (by decide) empty saved⟩

/-- On this bench bringing the environment up fails half way. Afterwards a session is opened with a
configuration without add-ons. -/
theorem ledger_of_life_narrowBench :
    ∃ s w', start sampleHost (.template "demo" "us-west-2") true {}
        (sampleLife narrowBench).session.world = (.ok s, w') ∧
      Ledger ((sampleLife narrowBench).log ++ s.history) s.document := by
  have first : First (⟨sampleHost, firstSession sampleHost sampleConfig {} narrowBench, []⟩ :
      Moment Bench) :=
    ⟨rfl, sampleConfig, {}, narrowBench, _, rfl, start_of_empty {} (by decide) rfl rfl⟩
  have life : Path (fun _ => True) _ (sampleLife narrowBench) :=
    .next (.next .here (.operate .up ..) (by simp)) (.operate .down ..) (by simp)
  obtain ⟨x, last⟩ := Option.isSome_iff_exists.1
    (by decide +kernel : (lastSaved (sampleLife narrowBench).log).isSome = true)
  have stored : (sampleHost.load (sampleLife narrowBench).session.world).toOption =
      some (lastSaved (sampleLife narrowBench).log) := by decide +kernel
  have opens : (start sampleHost (.template "demo" "us-west-2") true {}
      (sampleLife narrowBench).session.world).1.toBool = true := by decide +kernel
  cases loaded : sampleHost.load (sampleLife narrowBench).session.world with
  | error e => rw [loaded] at stored; cases stored
  | ok d =>
    rw [loaded, last] at stored
    obtain rfl : d = some x := Option.some.inj stored
    cases opened : start sampleHost (.template "demo" "us-west-2") true {}
        (sampleLife narrowBench).session.world with
    | mk r w' =>
      rw [opened] at opens
      cases r with
      | error e => cases opens
      | ok s =>
        have same : x.SameButSeal x := rfl
        have next : Next (sampleLife narrowBench) none ⟨sampleHost, s, _⟩ :=
          .reopen last loaded same opened
        have saved : Saved ((sampleLife narrowBench).log ++ s.history) := by
          rw [(reopened loaded same opened).2]
          exact saved_append.2 ⟨by decide +kernel, by simp [Saved, Event.isFailedSave]⟩
        exact ⟨s, w', rfl, (ledger_of_life first (life.next next (by simp)) saved).2⟩

end Moment

end Testbed
