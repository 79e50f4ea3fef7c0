import Testbed.Registry
import Testbed.Saga.Error
import Testbed.Settle

/-!
# Sessions

A `Host ω` is everything outside a session: the provider, the store of the state document, the
files that take hook results, the clock. A `Session ω` drives one environment on a host whose
state is `ω`. It keeps the state document in memory, a journal of its sagas, and a history of the
calls and saves it made.
-/

namespace Testbed

/-- What a session works on. -/
structure Host (ω : Type) where
  /-- Carries out the steps. -/
  provider : Provider ω
  /-- Load the state document. -/
  load : ω → Except StoreError (Option StateDocument)
  /-- Save the state document. -/
  save : StateDocument → ω → Except StoreError Unit × ω
  /-- Write a hook's result to a path. -/
  writeResult : String → String → ω → Except FileError Unit × ω
  /-- Let so many seconds pass; gives the firings of the stop signal meanwhile. -/
  pause : Nat → ω → List StopOrigin × ω
  /-- The firings of the stop signal since the last call or pause ended. -/
  between : ω → List StopOrigin := fun _ => []
  /-- What the clock shows. -/
  now : ω → String

/-- Something that a session did to its host. -/
inductive Event
  /-- A call to the provider: the document in memory when it began, and how it failed. -/
  | call (c : Call) (document : StateDocument) (failure : Option ProviderError)
  /-- A save: the document, and how it failed. -/
  | save (document : StateDocument) (failure : Option StoreError)
  deriving DecidableEq

/-- The failure in a result. -/
def failureOf {ε α : Type} : Except ε α → Option ε
  | .ok _ => none
  | .error e => some e

/-- A session with one environment. -/
structure Session (ω : Type) where
  config : Config
  /-- Whether the sagas may run. -/
  writable : Bool
  /-- The components it deals with. -/
  registry : Registry
  /-- The state document in memory. -/
  document : StateDocument
  journal : Journal := {}
  /-- The stop signal. -/
  stop : StopSignal
  /-- What was done to the host, in order. -/
  history : List Event := []
  /-- The state of the host. -/
  world : ω

/-- Something done in a session that can fail. -/
abbrev Session.Action (ω ε α : Type) := Session ω → Except ε α × Session ω

namespace Session

variable {ω : Type}

/-! ## Calls and pauses -/

/-- Ask the provider. -/
def perform (h : Host ω) (c : Call) : Action ω ProviderError c.Yield := fun s =>
  let (reply, w) := h.provider.perform c s.world
  (reply.result,
    { s with
      stop := s.stop.fireAll reply.fired
      history := s.history ++ [.call c s.document (failureOf reply.result)]
      world := w })

/-- Let so many seconds pass, or fewer if the stop signal has fired. -/
def pause (h : Host ω) (seconds : Nat) (s : Session ω) : PauseEnd × Session ω :=
  let (fired, w) := h.pause seconds s.world
  let stop := s.stop.fireAll fired
  (stop.pauseEnd, { s with stop := stop, world := w })

/-! ## The state document -/

/-- Save the document in memory. -/
def persist (h : Host ω) : Action ω StoreError Unit := fun s =>
  let (r, w) := h.save s.document s.world
  (r, { s with history := s.history ++ [.save s.document (failureOf r)], world := w })

/-- Change the document in memory and save it; the change stays in memory if the save fails. -/
def update (h : Host ω) (change : String → StateDocument → StateDocument) :
    Action ω StoreError Unit := fun s =>
  let now := h.now s.world
  persist h { s with document := (change now s.document).touch now }

/-! ## The journal -/

/-- Open a record; gives its number. -/
def begin (s : Session ω) (saga : Saga) (kind : RecordKind) (name : String) : Nat × Session ω :=
  (s.journal.next, { s with journal := s.journal.start saga kind name })

/-- Finish a record. -/
def finish (s : Session ω) (record : Nat) (status : RecordStatus) (detail : Option String) :
    Session ω :=
  { s with journal := s.journal.finish record status detail }

/-- Finish the record of work that no stop signal can interrupt. -/
def conclude {α : Type} (s : Session ω) (record : Nat) : Except ProviderError α → Session ω
  | .ok _ => s.finish record .succeeded none
  | .error e => s.finish record .failed (some e.message)

/-- Pause for a reason that the journal records. -/
def settle (h : Host ω) (saga : Saga) (reason : SettleReason) (s : Session ω) :
    PauseEnd × Session ω :=
  let (record, s) := s.begin saga .settle reason.text
  let (ended, s) := s.pause h (reason.seconds s.config)
  match ended with
  | .elapsed => (ended, s.finish record .elapsed none)
  | .stopped _ => (ended, s.finish record .cut none)

/-! ## Steps -/

/-- Take a step whatever the stop signal says; its failure is the caller's affair. -/
def attempt (saga : Saga) (step : String) (work : Action ω ProviderError Unit) :
    Action ω ProviderError Unit := fun s =>
  let (record, s) := s.begin saga .step step
  let (r, s) := work s
  (r, s.conclude record r)

/-- Take note of the firings of the stop signal since the last call or pause. -/
def listen (h : Host ω) (s : Session ω) : Session ω :=
  { s with stop := s.stop.fireAll (h.between s.world) }

/-- Take a step of provisioning. It is not begun once the stop signal has fired; if the signal
fires while it is under way, what it achieved is still committed before the interruption is
reported. -/
def forward {α : Type} (h : Host ω) (step : String) (work : Action ω ProviderError α)
    (commit : α → Action ω SagaError Unit) : Action ω SagaError Unit := fun s =>
  let s := s.listen h
  match s.stop.origin with
  | some origin => (.error (.interrupted origin step), s)
  | none =>
    let (record, s) := s.begin .up .step step
    let (r, s) := work s
    match s.stop.judge r with
    | .finished (.ok a) => commit a (s.finish record .succeeded none)
    | .finished (.error e) =>
      (.error (.step step e), s.finish record .failed (some e.message))
    | .interrupted origin (.ok a) =>
      match commit a (s.finish record .interrupted none) with
      | (.ok _, s) => (.error (.interrupted origin step), s)
      | (.error e, s) => (.error e, s)
    | .interrupted origin (.error _) =>
      (.error (.interrupted origin step), s.finish record .interrupted none)

/-- Nothing to commit. -/
def keep {α : Type} (_ : α) : Action ω SagaError Unit := fun s => (.ok (), s)

/-- Take one stage after the other until one fails. -/
def runAll {α ε : Type} (run : α → Action ω ε Unit) : List α → Action ω ε Unit
  | [], s => (.ok (), s)
  | a :: rest, s =>
    match run a s with
    | (.ok _, s) => runAll run rest s
    | (.error e, s) => (.error e, s)

end Session

end Testbed
