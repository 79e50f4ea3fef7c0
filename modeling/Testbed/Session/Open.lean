import Testbed.Session.Basic
import Testbed.State.Intent

/-!
# Opening a session

A session is opened on a valid configuration and the environment's own state document, whose
entries are first brought up to date with the configuration. Only a writable session saves that.
-/

namespace Testbed.Session

variable {ω : Type}

/-- The document to start from: what the store holds, or that of a new environment. -/
def startingDocument (h : Host ω) (c : Config) (w : ω) : Except SagaError StateDocument := do
  match ← (h.load w).mapError .store with
  | none => .ok (.new c.name (h.now w))
  | some d => if d.name = c.name then .ok d else .error (.stateMismatch c.name d.name)

/-- The session with a document, before anything was saved. -/
def starting (h : Host ω) (c : Config) (writable : Bool) (stop : StopSignal) (w : ω)
    (d : StateDocument) : Session ω where
  config := c
  writable := writable
  registry := .materialize c d (h.provider.handle? · w)
  document := d
  stop := stop
  world := w

/-- Open a session. -/
def start (h : Host ω) (c : Config) (writable : Bool) (stop : StopSignal) (w : ω) :
    Except SagaError (Session ω) × ω :=
  match (do c.validate.mapError SagaError.config; startingDocument h c w) with
  | .error e => (.error e, w)
  | .ok d =>
    let s := starting h c writable stop w (d.syncIntent c)
    if !writable then (.ok s, w)
    else
      match s.update h fun _ d => d with
      | (.ok _, s) => (.ok s, s.world)
      | (.error e, s) => (.error (.store e), s.world)

end Testbed.Session
