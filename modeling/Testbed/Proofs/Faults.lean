import Testbed.Proofs.Opening
import Testbed.Proofs.Removals

/-!
# What a teardown tells of its failures

A teardown goes on when a deletion or a save fails, and tells of all that failed in the end.

**Theorem (`down_tells`).** A teardown that comes to its end reports exactly the deletions and saves
that failed, in the order in which they did, and succeeds if there are none. Any other teardown was
not allowed to begin, or it came to something that cannot be driven.

**Counterexample (`down_conceals`).** A teardown that comes to something that cannot be driven ends
there and then, and says nothing of what failed before.
-/

namespace Testbed.Session

variable {ω : Type}

/-- What the result of a teardown tells of its failures, if the teardown took the session from `s`
to `t` by these events. -/
def Tells (s t : Session ω) (events : List Event) : Except SagaError Unit → Prop
  | .ok _ => events.filterMap Event.fault? = []
  | .error (.teardown faults) => faults = events.filterMap Event.fault? ∧ faults ≠ []
  | .error (.missingHandle k) => t.document.isCreated k = true ∧ t.registry.drives k = false
  | .error (.readOnly saga) => saga = .down ∧ s.writable = false ∧ events = []
  | .error _ => False

theorem tells_result {s : Session ω} {u : Teardown ω} {es : List Event}
    (faults : u.faults = es.filterMap Event.fault?) : Tells s u.session es u.result := by
  unfold Teardown.result
  cases none : u.faults with
  | nil => exact (faults.symm.trans none)
  | cons f fs => exact ⟨none.symm.trans faults, List.cons_ne_nil f fs⟩

/-- **A teardown tells of all that failed**, unless something that it comes to cannot be driven. -/
theorem down_tells (h : Host ω) (s : Session ω) :
    ∃ rs es, Grows s (s.down h).2 rs es ∧ Tells s (s.down h).2 es (s.down h).1 := by
  unfold down allow
  cases writable : s.writable with
  | false => exact ⟨_, _, .refl s, rfl, writable, rfl⟩
  | true =>
    obtain ⟨u, rs, es, tallied, ended, result⟩ := tallied_teardown h s
    refine ⟨rs, es, ended ▸ tallied.down.runs.grows, ?_⟩
    show Tells s (s.teardown h).2 es (s.teardown h).1
    rw [ended]
    rcases result with result | ⟨e, result, k, rfl, undriven⟩
    · rw [result]
      exact tells_result tallied.faults
    · rw [result]
      exact undriven

/-- The faults that a result reports. -/
def reportedFaults : Except SagaError Unit → List TeardownFault
  | .error (.teardown faults) => faults
  | _ => []

/-- A bench on which the key pair cannot be deleted and the add-on cannot be driven. -/
def mutedBench : Bench where
  now := "noon"
  rehearsal := (Rehearsal.failOn {} "delete key_pair" "busy").withoutHandle "add_on:nlb_hello_world"

/-- **A teardown may conceal what failed.** On this bench the deletion of the key pair fails before
the add-on is found out of reach, and the result says nothing of it. -/
theorem down_conceals :
    ∃ s : Session Bench, Opened sampleHost true s ∧
      (s.down sampleHost).1 = .error (.missingHandle (.addOn .nlbHelloWorld)) ∧
      ((s.down sampleHost).2.eventsSince s).filterMap Event.fault? =
        [.step "delete key_pair" (.failed "delete key_pair" "busy")] ∧
      ¬ (((s.down sampleHost).2.eventsSince s).filterMap Event.fault?).Sublist
        (reportedFaults (s.down sampleHost).1) := by
  have failed : ((sampleSession [.resource .keyPair, .addOn .nlbHelloWorld] mutedBench).down
      sampleHost).1 = .error (.missingHandle (.addOn .nlbHelloWorld)) :=
    error_of_failureOf (by decide +kernel)
  refine ⟨_, opened_sampleSession [.resource .keyPair, .addOn .nlbHelloWorld] (w := mutedBench)
    rfl rfl, failed, by decide +kernel, ?_⟩
  rw [failed]
  decide +kernel

end Testbed.Session
