import Testbed.Provider.Commands
import Testbed.Rehearsal.Basic
import Testbed.Saga.Up
import Testbed.Session.Open

/-!
# A bench for sessions

A bench holds what sessions are tried out on: rehearsals and stop signals, of which new ones can
be made at any time, files, and one store that fails at chosen saves. A session keeps the
rehearsal and the signal it was opened with.
-/

namespace Testbed

/-- Where a bench keeps the state document. -/
inductive Bench.Store
  | memory (document : Option StateDocument)
  | file (store : FileStore)

/-- What sessions are tried out on. -/
structure Bench where
  /-- What the clock shows. -/
  now : String
  files : FileTree := .empty
  store : Bench.Store := .memory none
  /-- The saves that fail, counted from 1. -/
  failingSaves : List Nat := []
  /-- Whether loading fails. -/
  failsLoad : Bool := false
  /-- The saves tried so far. -/
  saves : Nat := 0
  /-- The rehearsals before the current one. -/
  oldRehearsals : List Rehearsal := []
  /-- The current rehearsal. -/
  rehearsal : Rehearsal := {}
  /-- The stop signals before the current one. -/
  oldSignals : List StopSignal := []
  /-- The current stop signal. -/
  signal : StopSignal := {}

namespace Bench

/-! ## Rehearsals and signals -/

/-- The number of the current rehearsal. -/
def rehearsalNumber (b : Bench) : Nat := b.oldRehearsals.length

/-- The rehearsal of a number. -/
def rehearsalAt (b : Bench) (n : Nat) : Rehearsal := (b.oldRehearsals[n]?).getD b.rehearsal

/-- Put a rehearsal in the place of a number. -/
def setRehearsal (n : Nat) (b : Bench) (r : Rehearsal) : Bench :=
  if n < b.rehearsalNumber then { b with oldRehearsals := b.oldRehearsals.set n r }
  else { b with rehearsal := r }

/-- Go on with a new rehearsal. -/
def newRehearsal (b : Bench) : Bench :=
  { b with oldRehearsals := b.oldRehearsals ++ [b.rehearsal], rehearsal := {} }

/-- The number of the current signal. -/
def signalNumber (b : Bench) : Nat := b.oldSignals.length

/-- The signal of a number. -/
def signalAt (b : Bench) (n : Nat) : StopSignal := (b.oldSignals[n]?).getD b.signal

/-- Put a signal in the place of a number. -/
def setSignal (n : Nat) (b : Bench) (s : StopSignal) : Bench :=
  if n < b.signalNumber then { b with oldSignals := b.oldSignals.set n s }
  else { b with signal := s }

/-- Go on with a new signal. -/
def newSignal (b : Bench) : Bench :=
  { b with oldSignals := b.oldSignals ++ [b.signal], signal := {} }

/-- Fire the signal of a number. -/
def fireAt (b : Bench) (f : Nat × StopOrigin) : Bench :=
  b.setSignal f.1 ((b.signalAt f.1).fire f.2)

/-! ## The store -/

/-- The failure of a device of the bench. -/
def deviceFailure (text : String) : StoreError := .file (.device text)

/-- What is in the store. -/
def stored (b : Bench) : Except StoreError (Option StateDocument) :=
  match b.store with
  | .memory d => .ok d
  | .file s => s.load b.files

/-- Load the document. -/
def load (b : Bench) : Except StoreError (Option StateDocument) :=
  if b.failsLoad then .error (deviceFailure "disk offline") else b.stored

/-- Put a document into the store. -/
def put (d : StateDocument) (b : Bench) : Except StoreError Unit × Bench :=
  match b.store with
  | .memory _ => (.ok (), { b with store := .memory (some d) })
  | .file s =>
    let (r, files) := s.save d b.files
    (r, { b with files := files })

/-- Save a document, unless this save is to fail. -/
def save (d : StateDocument) (b : Bench) : Except StoreError Unit × Bench :=
  let b := { b with saves := b.saves + 1 }
  if b.saves ∈ b.failingSaves then (.error (deviceFailure "disk full"), b) else b.put d

/-! ## Sessions on a bench -/

/-- A provider that rehearses, in the rehearsal of a number. -/
def rehearsing (rehearsal signal : Nat) : Provider Bench :=
  let p := (Rehearsal.provider signal).within (·.rehearsalAt rehearsal) (setRehearsal rehearsal)
  { p with
    perform := fun c b =>
      let fired := (b.rehearsalAt rehearsal).firedBy c
      let (reply, b) := p.perform c b
      (reply, fired.foldl fireAt b) }

/-- A provider that runs the commands of a configuration on the files of the bench. -/
def commanding (c : Config) : Provider Bench :=
  (Commands.provider c []).within (·.files) fun b files => { b with files := files }

/-- The provider of a name. -/
def provider? (b : Bench) (c : Config) (name : String) : Option (Provider Bench) :=
  if name = Rehearsal.providerName then some (rehearsing b.oldRehearsals.length b.signalNumber)
  else if name = Commands.providerName then some (commanding c)
  else none

/-- A bench as the host of a session. -/
def host (p : Provider Bench) : Host Bench where
  provider := p
  load := load
  save := save
  writeResult path body b :=
    let (r, files) := Hook.writeResult b.files path body
    (r, { b with files := files })
  pause _ b := ([], b)
  now b := b.now

/-- A session open on a bench. -/
structure Open where
  /-- What the session works on. -/
  host : Host Bench
  /-- The number of its signal. -/
  signal : Nat
  session : Session Bench

/-- Open a session with the current signal. -/
def start (b : Bench) (p : Provider Bench) (c : Config) (writable : Bool) :
    Except SagaError Open × Bench :=
  let h := host p
  let (r, b) := Session.start h c writable b.signal b
  (r.map fun s => ⟨h, b.signalNumber, s⟩, b)

/-- Do something in a session that is open on a bench. -/
def within {α : Type} (b : Bench) (o : Open) (act : Host Bench → Session.Action Bench SagaError α) :
    Except SagaError α × Open × Bench :=
  let (r, s) := act o.host { o.session with world := b, stop := b.signalAt o.signal }
  (r, { o with session := s }, s.world.setSignal o.signal s.stop)

end Bench

end Testbed
