import Testbed.Saga.Up

/-!
# How a session grows

Whatever is done in a session leaves its configuration and its registry alone and only adds to its
journal and its history. `Grows s t records events` says so of two states of one session and names
what was added; it composes, so each operation is described once, by what it adds.

`Forwarded` lists the ways in which a step of provisioning ends. Everything proved about single
steps goes by cases on it.
-/

namespace Testbed

/-! ## Finished records -/

namespace Record

/-- A record that has been finished. -/
def closed (saga : Saga) (kind : RecordKind) (name : String) (status : RecordStatus)
    (detail : Option String) : Record := ⟨saga, kind, name, status, detail, true⟩

/-- The record of work that no stop signal can interrupt, by how it failed. -/
def ofStep (saga : Saga) (name : String) : Option ProviderError → Record
  | none => closed saga .step name .succeeded none
  | some e => closed saga .step name .failed (some e.message)

/-- What a record is about. -/
def heading (r : Record) : RecordKind × String := (r.kind, r.name)

@[simp] theorem heading_closed (saga : Saga) (kind : RecordKind) (name : String)
    (status : RecordStatus) (detail : Option String) :
    (closed saga kind name status detail).heading = (kind, name) := rfl

@[simp] theorem saga_closed (saga : Saga) (kind : RecordKind) (name : String)
    (status : RecordStatus) (detail : Option String) :
    (closed saga kind name status detail).saga = saga := rfl

@[simp] theorem heading_ofStep (saga : Saga) (name : String) (f : Option ProviderError) :
    (ofStep saga name f).heading = (.step, name) := by cases f <;> rfl

@[simp] theorem saga_ofStep (saga : Saga) (name : String) (f : Option ProviderError) :
    (ofStep saga name f).saga = saga := by cases f <;> rfl

end Record

/-- The heading of a step. -/
def stepHeading (name : String) : RecordKind × String := (.step, name)

/-- The heading of a pause. -/
def SettleReason.heading (reason : SettleReason) : RecordKind × String := (.settle, reason.text)

@[simp] theorem failureOf_ok {ε α : Type} (a : α) : failureOf (.ok a : Except ε α) = none := rfl

@[simp] theorem failureOf_error {ε α : Type} (e : ε) :
    failureOf (.error e : Except ε α) = some e := rfl

theorem error_of_failureOf {ε α : Type} {r : Except ε α} {e : ε} (failed : failureOf r = some e) :
    r = .error e := by
  cases r with
  | ok a => cases failed
  | error e' => rw [Option.some.inj failed]

theorem ok_of_failureOf {ε : Type} {r : Except ε Unit} (passed : failureOf r = none) :
    r = .ok () := by
  cases r with
  | ok _ => rfl
  | error e => cases passed

theorem Journal.finish_start (j : Journal) (saga : Saga) (kind : RecordKind) (name : String)
    (status : RecordStatus) (detail : Option String) :
    ((j.start saga kind name).finish j.next status detail).records =
      j.records ++ [.closed saga kind name status detail] := by
  have modify_last (l : List Record) (r : Record) (f : Record → Record) :
      (l ++ [r]).modify l.length f = l ++ [f r] := by
    induction l with
    | nil => rfl
    | cons a l ih => exact congrArg (a :: ·) ih
  exact modify_last j.records _ _

namespace Session

variable {ω : Type} {h : Host ω} {s t u : Session ω} {rs rs' : List Record} {es es' : List Event}

/-! ## Growth -/

/-- `t` is a later state of the session `s`: the journal has grown by `records`, the history by
`events`, and what a session is opened with is the same. -/
structure Grows (s t : Session ω) (records : List Record) (events : List Event) : Prop where
  config : t.config = s.config
  writable : t.writable = s.writable
  registry : t.registry = s.registry
  journal : t.journal.records = s.journal.records ++ records
  history : t.history = s.history ++ events

theorem Grows.refl (s : Session ω) : Grows s s [] [] :=
  ⟨rfl, rfl, rfl, (List.append_nil _).symm, (List.append_nil _).symm⟩

theorem Grows.trans (h₁ : Grows s t rs es) (h₂ : Grows t u rs' es') :
    Grows s u (rs ++ rs') (es ++ es') where
  config := h₂.config.trans h₁.config
  writable := h₂.writable.trans h₁.writable
  registry := h₂.registry.trans h₁.registry
  journal := by rw [h₂.journal, h₁.journal, List.append_assoc]
  history := by rw [h₂.history, h₁.history, List.append_assoc]

/-- The events that the session has seen since it was `s`. -/
def eventsSince (t s : Session ω) : List Event := t.history.drop s.history.length

theorem eventsSince_eq (grown : t.history = s.history ++ es) : t.eventsSince s = es := by
  rw [eventsSince, grown, List.drop_left]

theorem Grows.eventsSince (g : Grows s t rs es) : t.eventsSince s = es := eventsSince_eq g.history

/-! ## Calls, pauses and saves -/

theorem grows_perform (h : Host ω) (c : Call) (s : Session ω) :
    Grows s (perform h c s).2 [] [.call c s.document (failureOf (perform h c s).1)] :=
  ⟨rfl, rfl, rfl, (List.append_nil _).symm, rfl⟩

theorem grows_pause (h : Host ω) (n : Nat) (s : Session ω) : Grows s (s.pause h n).2 [] [] :=
  ⟨rfl, rfl, rfl, (List.append_nil _).symm, (List.append_nil _).symm⟩

theorem grows_listen (h : Host ω) (s : Session ω) : Grows s (s.listen h) [] [] :=
  ⟨rfl, rfl, rfl, (List.append_nil _).symm, (List.append_nil _).symm⟩

theorem grows_update (h : Host ω) (change : String → StateDocument → StateDocument)
    (s : Session ω) :
    Grows s (s.update h change).2 []
      [.save (s.update h change).2.document (failureOf (s.update h change).1)] :=
  ⟨rfl, rfl, rfl, (List.append_nil _).symm, rfl⟩

@[simp] theorem document_update (h : Host ω) (change : String → StateDocument → StateDocument)
    (s : Session ω) :
    (s.update h change).2.document =
      (change (h.now s.world) s.document).touch (h.now s.world) := rfl

/-! ## Records around work -/

@[simp] theorem document_finish (s : Session ω) (n : Nat) (status : RecordStatus)
    (detail : Option String) : (s.finish n status detail).document = s.document := rfl

/-- Work between the opening and the finishing of its record adds that record. -/
theorem Grows.finish {saga : Saga} {kind : RecordKind} {name : String}
    (g : Grows (s.begin saga kind name).2 t [] es) (status : RecordStatus)
    (detail : Option String) :
    Grows s (t.finish s.journal.next status detail) [.closed saga kind name status detail] es where
  config := g.config
  writable := g.writable
  registry := g.registry
  journal := by
    have hj : t.journal = s.journal.start saga kind name := by
      have := g.journal
      rw [List.append_nil] at this
      exact congrArg Journal.mk this
    show (t.journal.finish s.journal.next status detail).records = _
    rw [hj, Journal.finish_start]
  history := g.history

/-- How the journal notes the end of a pause. -/
def statusOf : PauseEnd → RecordStatus
  | .elapsed => .elapsed
  | .stopped _ => .cut

theorem settle_eq (h : Host ω) (saga : Saga) (reason : SettleReason) (s : Session ω) :
    s.settle h saga reason =
      let p := (s.begin saga .settle reason.text).2.pause h (reason.seconds s.config)
      (p.1, p.2.finish s.journal.next (statusOf p.1) none) := by
  unfold settle
  cases hp : (s.begin saga .settle reason.text).2.pause h (reason.seconds s.config) with
  | mk ended t =>
    have hc : (s.begin saga .settle reason.text).2.config = s.config := rfl
    simp only [hc, hp]
    cases ended <;> rfl

/-- A pause of a saga adds one record. -/
theorem grows_settle (h : Host ω) (saga : Saga) (reason : SettleReason) (s : Session ω) :
    Grows s (s.settle h saga reason).2
      [.closed saga .settle reason.text (statusOf (s.settle h saga reason).1) none] [] := by
  rw [settle_eq]
  exact (grows_pause h _ (s.begin saga .settle reason.text).2).finish _ _

@[simp] theorem document_settle (h : Host ω) (saga : Saga) (reason : SettleReason)
    (s : Session ω) : (s.settle h saga reason).2.document = s.document := by
  rw [settle_eq]
  rfl

theorem attempt_eq (saga : Saga) (step : String) (work : Action ω ProviderError Unit)
    (s : Session ω) :
    s.attempt saga step work =
      let r := work (s.begin saga .step step).2
      (r.1, r.2.conclude s.journal.next r.1) := rfl

/-- A step that goes on whatever the stop signal says adds the record of its work. -/
theorem grows_attempt {saga : Saga} {step : String} {work : Action ω ProviderError Unit}
    (g : Grows (s.begin saga .step step).2 (work (s.begin saga .step step).2).2 [] es) :
    Grows s (s.attempt saga step work).2
      [.ofStep saga step (failureOf (s.attempt saga step work).1)] es := by
  rw [attempt_eq]
  cases hr : (work (s.begin saga .step step).2).1 with
  | ok _ =>
    simp only [hr]
    exact g.finish _ _
  | error e =>
    simp only [hr]
    exact g.finish _ _

@[simp] theorem document_attempt (saga : Saga) (step : String)
    (work : Action ω ProviderError Unit) (s : Session ω) :
    (s.attempt saga step work).2.document = (work (s.begin saga .step step).2).2.document := by
  rw [attempt_eq]
  cases hr : (work (s.begin saga .step step).2).1 with
  | ok _ => simp only [hr]; rfl
  | error e => simp only [hr]; rfl

/-! ## Steps of provisioning -/

section forward

variable {α : Type} {step : String} {work : Action ω ProviderError α}
  {commit : α → Action ω SagaError Unit}

/-- The session in which the work of a step of provisioning begins. -/
def begun (h : Host ω) (step : String) (s : Session ω) : Session ω :=
  ((s.listen h).begin .up .step step).2

/-- A committed step that the stop signal interrupted: the interruption is reported, unless the
commit failed. -/
def cutShort (o : StopOrigin) (step : String) :
    Except SagaError Unit × Session ω → Except SagaError Unit × Session ω
  | (.ok _, t) => (.error (.interrupted o step), t)
  | (.error e, t) => (.error e, t)

/-- How a step of provisioning ends. -/
inductive Forwarded (h : Host ω) (step : String) (work : Action ω ProviderError α)
    (commit : α → Action ω SagaError Unit) (s : Session ω) :
    Except SagaError Unit × Session ω → Prop
  | refused {o : StopOrigin} (fired : (s.listen h).stop.origin = some o) :
      Forwarded h step work commit s (.error (.interrupted o step), s.listen h)
  | finished {a : α} {t : Session ω} (calm : (s.listen h).stop.origin = none)
      (worked : work (begun h step s) = (.ok a, t)) (still : t.stop.origin = none) :
      Forwarded h step work commit s (commit a (t.finish s.journal.next .succeeded none))
  | failed {e : ProviderError} {t : Session ω} (calm : (s.listen h).stop.origin = none)
      (worked : work (begun h step s) = (.error e, t)) (still : t.stop.origin = none) :
      Forwarded h step work commit s
        (.error (.step step e), t.finish s.journal.next .failed (some e.message))
  | finishedCut {a : α} {t : Session ω} {o : StopOrigin}
      (calm : (s.listen h).stop.origin = none)
      (worked : work (begun h step s) = (.ok a, t)) (fired : t.stop.origin = some o) :
      Forwarded h step work commit s
        (cutShort o step (commit a (t.finish s.journal.next .interrupted none)))
  | failedCut {e : ProviderError} {t : Session ω} {o : StopOrigin}
      (calm : (s.listen h).stop.origin = none)
      (worked : work (begun h step s) = (.error e, t)) (fired : t.stop.origin = some o) :
      Forwarded h step work commit s
        (.error (.interrupted o step), t.finish s.journal.next .interrupted none)

theorem forwarded (h : Host ω) (step : String) (work : Action ω ProviderError α)
    (commit : α → Action ω SagaError Unit) (s : Session ω) :
    Forwarded h step work commit s (s.forward h step work commit) := by
  unfold forward
  cases calm : (s.listen h).stop.origin with
  | some o =>
    simp only [calm]
    exact .refused calm
  | none =>
    cases worked : work (begun h step s) with
    | mk r t =>
      have hb : ((s.listen h).begin .up .step step).2 = begun h step s := rfl
      simp only [calm, hb, worked, StopSignal.judge]
      cases still : t.stop.origin with
      | none =>
        cases r with
        | ok a => exact .finished calm worked still
        | error e => exact .failed calm worked still
      | some o =>
        cases r with
        | ok a => exact .finishedCut calm worked still
        | error e => exact .failedCut calm worked still

/-- The work of a step begins with nothing done but the opening of its record. -/
theorem Grows.of_begun (g : Grows (begun h step s) t [] es) (status : RecordStatus)
    (detail : Option String) :
    Grows s (t.finish s.journal.next status detail) [.closed .up .step step status detail] es :=
  (grows_listen h s).trans (Grows.finish (s := s.listen h) g status detail)

end forward

end Session

end Testbed
