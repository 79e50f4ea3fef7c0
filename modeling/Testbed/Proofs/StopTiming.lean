import Testbed.Proofs.Lockstep

/-!
# Teardowns and the stop signal

The stop signal shortens the pauses of a teardown and does nothing else to it. This compares two
teardowns on hosts that answer alike and may differ in when the signal fires and in what the clock
shows.

**Theorem (`parallel_down`).** Such teardowns make the same calls with the same answers, give the
same result and end with the same document, but for its times.

They are in lockstep, and all calls matter.
-/

namespace Testbed.Session

variable {ω : Type} {h h' : Host ω} {R : ω → ω → Prop} {s t : Session ω}

/-- In worlds that correspond, both hosts give the same answers, and the worlds go on to correspond.
Nothing is said about the clock or about the firings of the stop signal. -/
structure Alike (h h' : Host ω) (R : ω → ω → Prop) : Prop where
  perform (c : Call) {w w' : ω} (same : R w w') :
    (h.provider.perform c w).1.result = (h'.provider.perform c w').1.result ∧
      R (h.provider.perform c w).2 (h'.provider.perform c w').2
  save {d d' : StateDocument} {w w' : ω} (same : R w w') (docs : d.timeless = d'.timeless) :
    (h.save d w).1 = (h'.save d' w').1 ∧ R (h.save d w).2 (h'.save d' w').2
  pause (n : Nat) {w w' : ω} (same : R w w') : R (h.pause n w).2 (h'.pause n w').2

/-- Two sessions that differ in their times and pauses only. -/
structure Parallel (R : ω → ω → Prop) (s t : Session ω) : Prop where
  config : s.config = t.config
  writable : s.writable = t.writable
  registry : s.registry = t.registry
  document : s.document.timeless = t.document.timeless
  calls : s.history.filterMap Event.answer? = t.history.filterMap Event.answer?
  world : R s.world t.world

theorem Alike.corresponding (alike : Alike h h' R) : Corresponding (fun _ => true) h h' R where
  perform c _ _ same :=
    have answers := alike.perform c same
    ⟨fun _ => answers.1, answers.2⟩
  save same docs := alike.save same docs
  pause n _ _ same := alike.pause n same

theorem parallel_iff : Parallel R s t ↔ Lockstep (fun _ => true) R s t := by
  constructor
  · intro par
    exact { par with calls := by rw [decisive_all, decisive_all, par.calls] }
  · intro par
    exact { par with calls := by rw [← decisive_all, ← decisive_all, par.calls] }

/-- **The stop signal changes nothing about a teardown** but its pauses. -/
theorem parallel_down (alike : Alike h h' R) (par : Parallel R s t) :
    (s.down h).1 = (t.down h').1 ∧ Parallel R (s.down h).2 (t.down h').2 := by
  have down := lockstep_down (fun _ => rfl) alike.corresponding (parallel_iff.1 par)
  exact ⟨down.1, parallel_iff.2 down.2⟩

end Testbed.Session
