import Testbed.Stop

/-!
# Steps that race against the stop signal

A step runs on a thread of its own while its caller waits on a channel. The caller subscribes to
the signal first, so that a firing puts a message on the channel, as the end of the work does; the
message that comes first decides what the caller is told. Whatever the signal and its subscribers
share is changed under one lock, so each such change is one event here, and the events of any
number of firings and steps may come in any order that `Race.Admits` lets them.

`StopSignal.run` is the race of a single step whose own firings are the only ones.
-/

namespace Testbed

deriving instance DecidableEq for Outcome

instance decidableEqExcept {ε α : Type} [DecidableEq ε] [DecidableEq α] :
    DecidableEq (Except ε α)
  | .ok a, .ok b => decidable_of_iff (a = b) (by simp)
  | .error a, .error b => decidable_of_iff (a = b) (by simp)
  | .ok _, .error _ => .isFalse nofun
  | .error _, .ok _ => .isFalse nofun

namespace Race

/-- A message that wakes the caller of a step. -/
inductive Wake
  /-- The work has ended. -/
  | done
  /-- The signal has fired. -/
  | stop (origin : StopOrigin)
  deriving DecidableEq

/-- What a caller sees of a step's output after this message woke it. -/
def Wake.outcome {α : Type} : Wake → α → Outcome α
  | done, a => .finished a
  | stop o, a => .interrupted o a

/-- A caller's subscription to the signal. -/
inductive Subscription
  /-- The signal had fired already, and said so at once. -/
  | told
  /-- In the list of subscribers under this number. -/
  | entered (id : Nat)
  deriving DecidableEq

/-- One step that is run against the signal, as far as it has got. -/
structure Attempt (ε α : Type) where
  subscription : Option Subscription := none
  /-- How the work ended, by an output or by breaking down. -/
  ending : Option (Except ε α) := none
  /-- The messages that were put on the channel, oldest first. -/
  sent : List Wake := []
  /-- The one message that the caller takes off the channel. -/
  first : Option Wake := none
  /-- What the caller was given, or was made to pass on. -/
  returned : Option (Except ε (Outcome α)) := none

/-- What the caller gets once it has its message and the thread of the work is over. A breakdown
of the work is passed on. -/
def Attempt.result? {ε α : Type} (a : Attempt ε α) : Option (Except ε (Outcome α)) :=
  match a.first, a.ending with
  | some w, some e => if .done ∈ a.sent then some (e.map w.outcome) else none
  | _, _ => none

theorem Attempt.result?_eq_some_iff {ε α : Type} {a : Attempt ε α} {r : Except ε (Outcome α)} :
    a.result? = some r ↔ ∃ w e, a.first = some w ∧ a.ending = some e ∧ .done ∈ a.sent ∧
      r = e.map w.outcome := by
  unfold result?
  split
  next w e first ending =>
    split
    next done => simp [first, ending, done, eq_comm]
    next absent => simp [absent]
  next missing =>
    constructor
    · intro none
      cases none
    · rintro ⟨w, e, first, ending, -⟩
      exact (missing w e first ending).elim

/-- Something that happens in a race. -/
inductive Event (ι ε α : Type)
  /-- Someone fires the signal, and is told whether it was the first to. -/
  | fired (origin : StopOrigin) (first : Bool)
  /-- A step subscribes and starts its work. -/
  | subscribed (i : ι)
  /-- The work comes to its end. -/
  | worked (i : ι) (ending : Except ε α)
  /-- The thread of the work sends its message. -/
  | done (i : ι)
  /-- The caller takes its first message. -/
  | received (i : ι) (w : Wake)
  /-- The caller drops its subscription and gets its result. -/
  | left (i : ι) (result : Except ε (Outcome α))
  deriving DecidableEq

end Race

open Race

/-- A stop signal with the steps that are run against it. -/
structure Race (ι ε α : Type) where
  signal : StopSignal := {}
  /-- The subscribers, each with its number and the step whose channel it sends to. -/
  subscribers : List (Nat × ι) := []
  /-- The number of the next subscriber. It has no bound: a run whose steps subscribe fewer than
  2^64 times never comes to the end of a 64-bit counter. -/
  nextId : Nat := 0
  attempt : ι → Attempt ε α := fun _ => {}

namespace Race

variable {ι ε α : Type} [DecidableEq ι]

/-- Change what is known of one step. -/
def set (s : Race ι ε α) (i : ι) (a : Attempt ε α) : Race ι ε α :=
  { s with attempt := fun j => if j = i then a else s.attempt j }

/-- Fire the signal: tell all subscribers and forget them. Later firings change nothing. -/
def fire (s : Race ι ε α) (o : StopOrigin) : Race ι ε α :=
  if s.signal.isFired then s else
    { s with
      signal := s.signal.fire o
      subscribers := []
      attempt := fun i => { s.attempt i with
        sent := (s.attempt i).sent ++
          (s.subscribers.filter fun entry => entry.2 = i).map fun _ => .stop o } }

/-- Subscribe a step: it is told at once if the signal has fired, and entered otherwise. -/
def subscribe (s : Race ι ε α) (i : ι) : Race ι ε α :=
  match s.signal.origin with
  | some o => s.set i { s.attempt i with
      subscription := some .told
      sent := (s.attempt i).sent ++ [.stop o] }
  | none => { s.set i { s.attempt i with subscription := some (.entered s.nextId) } with
      subscribers := s.subscribers ++ [(s.nextId, i)]
      nextId := s.nextId + 1 }

/-- Drop the subscription of a step. -/
def unsubscribe (s : Race ι ε α) (i : ι) : Race ι ε α :=
  match (s.attempt i).subscription with
  | some (.entered id) =>
    { s with subscribers := s.subscribers.filter fun entry => entry.1 ≠ id }
  | _ => s

/-- The race after an event. -/
def next (s : Race ι ε α) : Event ι ε α → Race ι ε α
  | .fired o _ => s.fire o
  | .subscribed i => s.subscribe i
  | .worked i e => s.set i { s.attempt i with ending := some e }
  | .done i => s.set i { s.attempt i with sent := (s.attempt i).sent ++ [.done] }
  | .received i w => s.set i { s.attempt i with first := some w }
  | .left i r => (s.unsubscribe i).set i { s.attempt i with returned := some r }

/-- Whether this can happen next: a step goes through its events in their order, a caller waits
for its first message and then for the thread of the work. -/
def Admits (s : Race ι ε α) : Event ι ε α → Prop
  | .fired _ first => first = !s.signal.isFired
  | .subscribed i => (s.attempt i).subscription = none
  | .worked i _ => (s.attempt i).subscription ≠ none ∧ (s.attempt i).ending = none
  | .done i => (s.attempt i).ending ≠ none ∧ .done ∉ (s.attempt i).sent
  | .received i w => (s.attempt i).first = none ∧ (s.attempt i).sent.head? = some w
  | .left i r => (s.attempt i).returned = none ∧ (s.attempt i).result? = some r

instance [DecidableEq ε] [DecidableEq α] (s : Race ι ε α) : DecidablePred s.Admits
  | .fired .. => inferInstanceAs (Decidable (_ = _))
  | .subscribed _ => inferInstanceAs (Decidable (_ = _))
  | .worked .. | .done _ | .received .. | .left .. => inferInstanceAs (Decidable (_ ∧ _))

/-- The race after several events. -/
def run (s : Race ι ε α) (log : List (Event ι ε α)) : Race ι ε α := log.foldl next s

/-- Whether these events can happen, one after the other. -/
def AdmitsAll (s : Race ι ε α) : List (Event ι ε α) → Prop
  | [] => True
  | e :: log => s.Admits e ∧ (s.next e).AdmitsAll log

instance AdmitsAll.decidable [DecidableEq ε] [DecidableEq α] :
    (s : Race ι ε α) → (log : List (Event ι ε α)) → Decidable (s.AdmitsAll log)
  | _, [] => inferInstanceAs (Decidable True)
  | s, e :: log =>
    have := AdmitsAll.decidable (s.next e) log
    inferInstanceAs (Decidable (s.Admits e ∧ (s.next e).AdmitsAll log))

theorem admitsAll_append {s : Race ι ε α} {log more : List (Event ι ε α)} :
    s.AdmitsAll (log ++ more) ↔ s.AdmitsAll log ∧ (s.run log).AdmitsAll more := by
  induction log generalizing s with
  | nil => simp [AdmitsAll, run]
  | cons e log ih => simp only [List.cons_append, AdmitsAll, ih, run, List.foldl_cons, and_assoc]

end Race

end Testbed
