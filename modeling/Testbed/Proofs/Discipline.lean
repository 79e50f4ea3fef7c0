import Mathlib.Data.List.Chain
import Testbed.Proofs.Lives

/-!
# Creations and deletions take turns

A component *stands* after some events if the last successful creation or deletion among them was
a creation. What a session asks its provider for is guarded by the flags of its document, and the
ledger says that these flags tell what stands.

**Theorem (`turns_of_life`).** Throughout the life of an environment, a creation is attempted only
of what the configuration of the session wants and what does not stand, and a deletion only of what
stands. So the successful creations and deletions of each component alternate, and nothing is ever
deleted that was not created before.
-/

namespace Testbed

/-- After these events the component has been created and not deleted since. -/
def Stands (k : Component) (log : List Event) : Prop := (turns k log).getLast? = some true

/-- A call that may be made under a configuration after the events of the log. -/
def InOrder (c : Config) (log : List Event) : Call → Prop
  | .create k => c.wants k = true ∧ ¬ Stands k log
  | .delete k => Stands k log
  | _ => True

/-- Creations (`true`) and deletions (`false`) take turns, and a creation begins. -/
structure Alternating (ts : List Bool) : Prop where
  chain : ts.IsChain (· ≠ ·)
  first : ts.head? ≠ some false

/-! ## Guards -/

/-- The document calls for what the event asks for: what is created is wanted and not recorded,
and what is deleted is recorded. -/
def Event.Guarded (c : Config) : Event → Prop
  | .call (.create k) d _ => c.wants k = true ∧ d.isCreated k = false
  | .call (.delete k) d _ => d.isCreated k = true
  | _ => True

theorem Event.guarded_of_harmless {call : Call} (harmless : call.isHarmless = true) (c : Config)
    (d : StateDocument) (f : Option ProviderError) : (Event.call call d f).Guarded c := by
  cases call with
  | create => cases harmless
  | delete => cases harmless
  | _ => trivial

namespace Session

variable {c : Config} {d d' : StateDocument} {rs : List Record} {log es : List Event}
  {k : Component} {call : Call} {f : Option ProviderError}

theorem Move.guarded (m : Move c d rs es d') : ∀ e ∈ es, e.Guarded c := by
  cases m with
  | pause => simp
  | query harmless =>
    intro e he
    rw [List.mem_singleton.1 he]
    exact Event.guarded_of_harmless harmless ..
  | step harmless =>
    intro e he
    rcases List.mem_append.1 he with he | he
    · obtain ⟨x, -, rfl⟩ := List.mem_map.1 he
      exact Event.guarded_of_harmless harmless ..
    · rw [List.mem_singleton.1 he]
      exact Event.guarded_of_harmless harmless ..
  | createFailed wanted absent => simp [Event.Guarded, wanted, absent]
  | created wanted absent => simp [Event.Guarded, wanted, absent]
  | deleteFailed present => simp [Event.Guarded, present]
  | deleted present => simp [Event.Guarded, present]
  | markUp => simp [Event.Guarded]
  | markDown => simp [Event.Guarded]

/-- **All that a session asks for is guarded.** -/
theorem Moves.guarded (m : Moves c d rs es d') : ∀ e ∈ es, e.Guarded c := by
  induction m with
  | none => simp
  | move first _ ih =>
    intro e he
    exact (List.mem_append.1 he).elim (first.guarded e) (ih e)

/-- What is guarded is in order if the ledger is accurate. -/
theorem Ledger.inOrder (ledger : Ledger log d) (guarded : (Event.call call d f).Guarded c) :
    InOrder c log call := by
  cases call with
  | create k =>
    refine ⟨guarded.1, fun stands => ?_⟩
    have recorded := (ledger.turned k).2 stands
    rw [guarded.2] at recorded
    cases recorded
  | delete k => exact (ledger.turned k).1 guarded
  | _ => trivial

end Session

/-! ## Turns -/

/-- All calls among the events are in order, one after the other. -/
def AllInOrder (c : Config) (log es : List Event) : Prop :=
  ∀ before call d f after, es = before ++ .call call d f :: after →
    InOrder c (log ++ before) call

theorem AllInOrder.tail {c : Config} {log es : List Event} {e : Event}
    (inOrder : AllInOrder c log (e :: es)) : AllInOrder c (log ++ [e]) es := by
  intro before call d f after split
  rw [List.append_assoc]
  exact inOrder (e :: before) call d f after (congrArg (e :: ·) split)

/-- A turn in its order goes on with the alternation. -/
theorem Alternating.concat {ts : List Bool} (alternating : Alternating ts) {b : Bool}
    (turn : ts.getLast? = some true ↔ b = false) : Alternating (ts ++ [b]) where
  chain := by
    refine List.isChain_append.2 ⟨alternating.chain, .singleton b, fun x hx y hy => ?_⟩
    obtain rfl : b = y := by simpa using hy
    have last : ts.getLast? = some x := hx
    cases x <;> cases b <;> simp_all
  first := by
    cases ts with
    | nil => simpa using turn
    | cons a ts => simpa using alternating.first

theorem Alternating.event {k : Component} {c : Config} {log : List Event} {e : Event}
    (alternating : Alternating (turns k log))
    (inOrder : ∀ call d f, e = .call call d f → InOrder c log call) :
    Alternating (turns k (log ++ [e])) := by
  rw [turns_append]
  cases e with
  | save d f => simpa using alternating
  | call call d f =>
    have now := inOrder call d f rfl
    cases taken : Event.turn? k (.call call d f) with
    | none =>
      have none : turns k [.call call d f] = [] := by simp [turns, taken]
      rwa [none, List.append_nil]
    | some b =>
      have one : turns k [.call call d f] = [b] := by simp [turns, taken]
      rw [one]
      refine alternating.concat ?_
      -- Only a successful creation or deletion of the component takes a turn.
      cases call with
      | create k' =>
        cases f <;> simp only [Event.turn?, reduceCtorEq] at taken
        split at taken
        · next same =>
          obtain rfl := Option.some.inj taken
          simpa [Stands, ← same] using now.2
        · cases taken
      | delete k' =>
        cases f <;> simp only [Event.turn?, reduceCtorEq] at taken
        split at taken
        · next same =>
          obtain rfl := Option.some.inj taken
          simpa [InOrder, Stands, ← same] using now
        · cases taken
      | _ => cases taken

/-- **Where all calls are in order, creations and deletions alternate.** -/
theorem Alternating.events {k : Component} {c : Config} {log es : List Event}
    (alternating : Alternating (turns k log)) (inOrder : AllInOrder c log es) :
    Alternating (turns k (log ++ es)) := by
  induction es generalizing log with
  | nil => simpa using alternating
  | cons e es ih =>
    have now : ∀ call d f, e = .call call d f → InOrder c log call := fun call d f he => by
      simpa using inOrder [] call d f es (by rw [he]; rfl)
    rw [← List.singleton_append, ← List.append_assoc]
    exact ih (alternating.event now) inOrder.tail

/-! ## The life of an environment -/

namespace Moment

open Session

variable {ω : Type} {m n n' : Moment ω} {o : Option Operation} {allowed : Operation → Prop}

/-- What comes next makes its calls in order. -/
theorem Next.inOrder (next : Next m o n) (kept : m.Kept) (saved : Saved n.log) :
    ∃ es, n.log = m.log ++ es ∧ AllInOrder n.session.config m.log es := by
  cases next with
  | operate o stop w =>
    obtain ⟨rs, es, runs⟩ := runs_operate (opened_operate kept.opened stop w) o
    have grown := log_operate runs.grows.history
    refine ⟨es, grown, fun before call d f after split => ?_⟩
    rw [grown] at saved
    obtain ⟨savedBefore, savedSince⟩ := saved_append.1 saved
    obtain ⟨-, accurate⟩ := (kept.ledger savedBefore).1.moves runs.moves savedSince
    have guarded := runs.moves.guarded (.call call d f) (by simp [split])
    rw [config_operate kept.opened]
    exact (accurate before call d f after split).inOrder guarded
  | @reopen h c stop w w' d x s last loaded same opened =>
    refine ⟨s.history, rfl, fun before call y f after split => ?_⟩
    rw [(reopened loaded same opened).2] at split
    cases before with
    | nil => cases split
    | cons e before => simp at split

theorem Path.alternating (path : Path allowed m n) (first : m.First) (saved : Saved n.log)
    (k : Component) : Alternating (turns k n.log) := by
  induction path with
  | here =>
    rw [first.starts.2.1]
    exact ⟨.nil, by simp⟩
  | next before next _ ih =>
    obtain ⟨es, grown, inOrder⟩ := next.inOrder (before.kept first.kept) saved
    rw [grown] at saved ⊢
    exact (ih (saved_append.1 saved).1).events inOrder

/-- **Creations and deletions take turns** throughout the life of an environment, whatever sessions
are opened with whatever configurations, whatever fails in them and whenever the stop signal fires,
as long as no save fails. In all that comes next at any moment `n`, a creation is attempted only of
a component that the configuration of the session wants and that does not stand, and a deletion
only of one that stands; and the successful creations and deletions of each component alternate,
beginning with a creation. -/
theorem turns_of_life (first : m.First) (life : Path (fun _ => True) m n) (next : Next n o n')
    (saved : Saved n'.log) :
    (∀ before call d f after, n'.log = n.log ++ before ++ .call call d f :: after →
      InOrder n'.session.config (n.log ++ before) call) ∧
      ∀ k, Alternating (turns k n'.log) := by
  refine ⟨fun before call d f after split => ?_, fun k => ?_⟩
  · obtain ⟨es, grown, inOrder⟩ := next.inOrder (life.kept first.kept) saved
    rw [grown, List.append_assoc] at split
    exact inOrder before call d f after (List.append_cancel_left split)
  · exact (life.next next (by simp)).alternating first saved k

/-- On this bench the network cannot be created; what exists by then is deleted again at once, and
nothing is left for the teardown that follows. -/
theorem turns_of_life_narrowBench :
    Alternating (turns (.resource .bucket) (sampleLife narrowBench).log) ∧
      turns (.resource .bucket) (sampleLife narrowBench).log = [true, false] := by
  have first : First (⟨sampleHost, firstSession sampleHost sampleConfig {} narrowBench, []⟩ :
      Moment Bench) := first_sampleLife rfl rfl
  have broughtUp : Path (fun _ => True) _ (_ : Moment Bench) :=
    .next (.here (m := ⟨sampleHost, firstSession sampleHost sampleConfig {} narrowBench, []⟩))
      (.operate .up {} (firstSession sampleHost sampleConfig {} narrowBench).world) (by simp)
  obtain ⟨-, alternating⟩ := turns_of_life first broughtUp (.operate .down ..) (by decide +kernel :
    Saved (sampleLife narrowBench).log)
  exact ⟨alternating _, by decide +kernel⟩

end Moment

end Testbed
