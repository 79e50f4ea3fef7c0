/-!
# The stop signal

A signal fires at most once and remembers who fired it first. A step that is under way when it
fires runs to its end; `StopSignal.judge` says afterwards whether the step was interrupted.
-/

namespace Testbed

/-- Who fires a stop signal. -/
inductive StopOrigin
  /-- A request from inside the program. -/
  | requested
  /-- A termination signal of the system. -/
  | signal
  deriving DecidableEq

namespace StopOrigin

/-- The name of an origin as a value. -/
def name : StopOrigin → String
  | requested => "requested"
  | signal => "signal"

/-- An origin in messages. -/
def text : StopOrigin → String
  | requested => "stop request"
  | signal => "termination signal"

/-- The origin of that name. -/
def ofName? (s : String) : Option StopOrigin := [requested, signal].find? fun o => o.name = s

end StopOrigin

/-- A signal, fired or not. -/
structure StopSignal where
  /-- Who fired it first. -/
  origin : Option StopOrigin := none
  deriving DecidableEq

/-- How a pause ended. -/
inductive PauseEnd
  | elapsed
  | stopped (origin : StopOrigin)
  deriving DecidableEq

/-- What a caller sees of a step once it has run. -/
inductive Outcome (α : Type)
  | finished (output : α)
  | interrupted (origin : StopOrigin) (output : α)

/-- What the step gave, interrupted or not. -/
def Outcome.output {α : Type} : Outcome α → α
  | finished a => a
  | interrupted _ a => a

namespace StopSignal

/-- Whether the signal has fired. -/
def isFired (s : StopSignal) : Bool := s.origin.isSome

/-- Fire the signal; only the first firing counts. -/
def fire (s : StopSignal) (o : StopOrigin) : StopSignal := ⟨s.origin <|> some o⟩

/-- Fire the signal several times. -/
def fireAll (s : StopSignal) (os : List StopOrigin) : StopSignal := os.foldl fire s

/-- How a pause ends: at once or early if the signal has fired by its end. -/
def pauseEnd (s : StopSignal) : PauseEnd := s.origin.elim .elapsed .stopped

/-- What the caller of a step sees, given the signal as it stands when the step ends. -/
def judge {α : Type} (s : StopSignal) (output : α) : Outcome α :=
  match s.origin with
  | some o => .interrupted o output
  | none => .finished output

/-- Fire the signal several times; says of each firing whether it was the first. -/
def fireEach (s : StopSignal) : List StopOrigin → List Bool × StopSignal
  | [] => ([], s)
  | o :: os =>
    let (firsts, t) := (s.fire o).fireEach os
    ((!s.isFired) :: firsts, t)

/-- Run work that fires the signal several times and then gives an output or breaks down. A
breakdown is passed on; an output is judged. -/
def run {ε α : Type} (s : StopSignal) (fires : List StopOrigin) (ending : Except ε α) :
    Except ε (Outcome (α × List Bool)) × StopSignal :=
  let (firsts, s) := s.fireEach fires
  (ending.map fun a => s.judge (a, firsts), s)

@[simp] theorem fire_origin_of_fired {s : StopSignal} {o p : StopOrigin}
    (h : s.origin = some p) : s.fire o = s := by
  cases s; simp_all [fire]

theorem fireEach_snd (s : StopSignal) (os : List StopOrigin) :
    (s.fireEach os).2 = s.fireAll os := by
  induction os generalizing s with
  | nil => rfl
  | cons o os ih => simpa [fireEach, fireAll] using ih (s.fire o)

theorem fireAll_of_fired {s : StopSignal} {p : StopOrigin} (h : s.origin = some p)
    (os : List StopOrigin) : s.fireAll os = s := by
  induction os with
  | nil => rfl
  | cons o os ih => simpa [fireAll, fire_origin_of_fired h] using ih

end StopSignal

end Testbed
