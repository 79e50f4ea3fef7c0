/-!
# Results of steps that can fail

What a computation in several steps gives is taken apart step by step: backwards from a result that
was given (`exists_of_bind`, `exists_of_map`), or forwards to a property of whatever result is given
(`forall_mem_bind`, `forall_mem_map`).
-/

namespace Testbed

section

variable {ε α β : Type}

/-- A computation in two parts gives a result only if both do. -/
theorem exists_of_bind {x : Except ε α} {f : α → Except ε β} {b : β}
    (done : (x >>= f) = .ok b) : ∃ a, x = .ok a ∧ f a = .ok b := by
  cases x with
  | error e => cases done
  | ok a => exact ⟨a, rfl, done⟩

/-- A result that is changed was a result before. -/
theorem exists_of_map {x : Except ε α} {f : α → β} {b : β} (done : x.map f = .ok b) :
    ∃ a, x = .ok a ∧ f a = b := by
  cases x with
  | error e => cases done
  | ok a => exact ⟨a, rfl, Except.ok.inj done⟩

variable {o : Option α} {P : β → Prop}

theorem forall_mem_none : ∀ b ∈ (none : Option β), P b := by
  rintro b ⟨⟩

theorem forall_mem_some {b : β} (holds : P b) : ∀ c ∈ some b, P c := by
  rintro c ⟨⟩
  exact holds

theorem forall_mem_bind {f : α → Option β} (each : ∀ a ∈ o, ∀ b ∈ f a, P b) :
    ∀ b ∈ o.bind f, P b := by
  intro b mem
  obtain ⟨a, here, mem⟩ := Option.bind_eq_some_iff.1 mem
  exact each a here b mem

theorem forall_mem_map {f : α → β} (each : ∀ a ∈ o, P (f a)) : ∀ b ∈ o.map f, P b := by
  intro b mem
  obtain ⟨a, here, rfl⟩ := Option.map_eq_some_iff.1 mem
  exact each a here

end

end Testbed
