import Testbed.Proofs.Lives
import Testbed.Proofs.StopTiming
import Testbed.Proofs.TeardownPlan

/-!
# What a teardown leaves behind

**Theorem (`down_outcome`).** A teardown that finds all handles and whose saves succeed leaves
exactly those components recorded as created that it failed to delete, and it succeeds if there are
none. The next teardown tries to delete these and no others, so that after a success nothing is
ever deleted again before the environment is brought up. The stop signal has no part in any of it.
-/

namespace Testbed

/-- The component that an event failed to delete. -/
def Event.failedDeletion? : Event → Option Component
  | .call (.delete k) _ (some _) => some k
  | _ => none

/-- The components that could not be deleted. -/
def failures (es : List Event) : List Component := es.filterMap Event.failedDeletion?

/-- Whether a component was deleted. -/
def WasDeleted (k : Component) (es : List Event) : Prop := ∃ d, .call (.delete k) d none ∈ es

namespace Session

variable {ω : Type} {h h' : Host ω} {s t : Session ω} {rs : List Record} {es : List Event}
  {c : Config} {d d' : StateDocument}

/-! ## Attempts and flags -/

/-- Where nothing is created, every attempt to delete either is a turn or has failed. -/
theorem count_deletions (k : Component) (creations : es.filterMap Event.creation? = []) :
    (es.filterMap Event.deletion?).count k = (turns k es).length + (failures es).count k ∧
      ∀ b ∈ turns k es, b = false := by
  induction es with
  | nil => exact ⟨rfl, by simp⟩
  | cons e es ih =>
    cases e with
    | save x f => exact ih creations
    | call call x f =>
      cases call with
      | create k' => cases creations
      | delete k' =>
        obtain ⟨count, deleted⟩ := ih creations
        cases f with
        | none =>
          rw [turns_delete]
          have heads : (Event.call (.delete k') x none :: es).filterMap Event.deletion? =
              k' :: es.filterMap Event.deletion? := rfl
          have none : failures (.call (.delete k') x none :: es) = failures es := rfl
          rw [heads, none, List.count_cons, count]
          by_cases hk : k' = k
          · simp only [hk, if_true, beq_self_eq_true, List.length_cons]
            exact ⟨by omega, by simpa using deleted⟩
          · simp only [hk, if_false, beq_iff_eq]
            exact ⟨rfl, deleted⟩
        | some e =>
          have heads : (Event.call (.delete k') x (some e) :: es).filterMap Event.deletion? =
              k' :: es.filterMap Event.deletion? := rfl
          have failed : failures (.call (.delete k') x (some e) :: es) = k' :: failures es := rfl
          rw [heads, failed, List.count_cons, List.count_cons, count, Nat.add_assoc]
          exact ⟨rfl, deleted⟩
      | _ => exact ih creations

/-- A component that one attempt was made to delete is still recorded exactly if that failed. -/
theorem TornDown.isCreated_iff (torn : TornDown s t rs es) (k : Component) :
    t.document.isCreated k = true ↔ s.document.isCreated k = true ∧ k ∈ failures es := by
  obtain ⟨count, deleted⟩ := count_deletions k torn.creations
  rw [torn.deletions, (nodup_teardownOrder.sublist List.filter_sublist).count] at count
  simp only [List.mem_filter, mem_teardownOrder, true_and] at count
  rw [torn.runs.moves.isCreated_eq k]
  cases created : s.document.isCreated k with
  | false =>
    -- No attempt was made, so there was no turn either.
    have none : turns k es = [] := List.length_eq_zero_iff.1 (by simp [created] at count; omega)
    simp [none]
  | true =>
    simp only [created, if_true] at count
    cases ts : turns k es with
    | nil =>
      rw [ts] at count
      have failed : 0 < (failures es).count k := by simp at count; omega
      simp [List.count_pos_iff.1 failed]
    | cons b bs =>
      rw [ts, List.length_cons] at count
      have last : bs = [] := List.length_eq_zero_iff.1 (by omega)
      have gone : b = false := deleted b (by simp [ts])
      have none : k ∉ failures es := List.count_eq_zero.1 (by omega)
      simp [last, gone, none]

theorem TornDown.isCreated_of_failure (torn : TornDown s t rs es) {k : Component}
    (failed : k ∈ failures es) : s.document.isCreated k = true := by
  obtain ⟨count, -⟩ := count_deletions k torn.creations
  have attempted : 0 < (es.filterMap Event.deletion?).count k := by
    have := List.count_pos_iff.2 failed
    omega
  rw [List.count_pos_iff, torn.deletions] at attempted
  exact (List.mem_filter.1 attempted).2

/-! ## The control plane's references -/

theorem cluster_set_false (d : StateDocument) (k : Component) (now : String) :
    (d.set k false now).cluster = if k = .resource .cluster then {} else d.cluster := by
  cases k with
  | resource k => cases k <;> rfl
  | nodeGroup k => rfl
  | addOn k => rfl

/-- Deleting the control plane takes its references out of the document, and nothing but its
creation puts any there. -/
theorem Move.cluster_eq (m : Move c d rs es d') (creations : es.filterMap Event.creation? = [])
    (empty : d.cluster = {} ∨ WasDeleted (.resource .cluster) es) :
    d'.cluster = {} := by
  cases m with
  | pause => simpa [WasDeleted] using empty
  | query harmless =>
    refine empty.resolve_right fun ⟨x, mem⟩ => ?_
    obtain ⟨rfl, -⟩ := Event.call.inj (List.mem_singleton.1 mem)
    cases harmless
  | step harmless =>
    refine empty.resolve_right fun ⟨x, mem⟩ => ?_
    rcases List.mem_append.1 mem with mem | mem
    · simp at mem
    · obtain ⟨rfl, -⟩ := Event.call.inj (List.mem_singleton.1 mem)
      cases harmless
  | createFailed => cases creations
  | created => cases creations
  | deleteFailed => simpa [WasDeleted] using empty
  | deleted _ _ recorded =>
    rw [recorded]
    show (StateDocument.set _ _ false _).cluster = _
    rw [cluster_set_false]
    split
    · rfl
    · next other => simpa [WasDeleted, Ne.symm other] using empty
  | markUp recorded =>
    simpa [recorded, WasDeleted, StateDocument.touch, StateDocument.markUp] using empty
  | markDown recorded =>
    simpa [recorded, WasDeleted, StateDocument.touch, StateDocument.markDown] using empty

theorem Moves.cluster_eq (m : Moves c d rs es d') (creations : es.filterMap Event.creation? = [])
    (empty : d.cluster = {} ∨ WasDeleted (.resource .cluster) es) :
    d'.cluster = {} := by
  induction m with
  | none => simpa [WasDeleted] using empty
  | move first _ ih =>
    rw [List.filterMap_append, List.append_eq_nil_iff] at creations
    refine ih creations.2 ?_
    rcases empty with empty | ⟨x, mem⟩
    · exact .inl (first.cluster_eq creations.1 (.inl empty))
    · rcases List.mem_append.1 mem with mem | mem
      · exact .inl (first.cluster_eq creations.1 (.inr ⟨x, mem⟩))
      · exact .inr ⟨x, mem⟩

/-! ## The outcome -/

/-- What a teardown that could not delete the components `failed` leaves behind, if it began with
the document of `s`. -/
structure Outcome (s : Session ω) (x : Except SagaError Unit × Session ω) (events : List Event) :
    Prop where
  flags : ∀ k, x.2.document.isCreated k = true ↔
    s.document.isCreated k = true ∧ k ∈ failures events
  notUp : x.2.document.up = false
  refs : WasDeleted (.resource .cluster) events → x.2.document.cluster = {}
  stored : lastSaved x.2.history = some x.2.document
  result : x.1 = .ok () ↔ failures events = []

/-- If no save fails, all faults are deletions that failed. -/
theorem faults_eq_nil_iff (saved : Saved es) :
    es.filterMap Event.fault? = [] ↔ failures es = [] := by
  unfold failures
  rw [List.filterMap_eq_nil_iff, List.filterMap_eq_nil_iff]
  refine forall₂_congr fun e he => ?_
  cases e with
  | save x f =>
    cases f with
    | none => simp [Event.fault?, Event.failedDeletion?]
    | some e => exact nomatch saved _ he
  | call call x f => cases call <;> cases f <;> simp [Event.fault?, Event.failedDeletion?]

theorem teardownResult_ok_iff (faults : List TeardownFault) :
    teardownResult faults = .ok () ↔ faults = [] := by
  cases faults with
  | nil => simp [teardownResult]
  | cons f faults => simp [teardownResult]

theorem outcome (opened : Opened h true s)
    (driven : ∀ k, s.document.isCreated k = true → s.registry.drives k = true)
    (saved : Saved ((s.down h).2.eventsSince s)) :
    Outcome s (s.down h) ((s.down h).2.eventsSince s) := by
  obtain ⟨rs, es, torn, result⟩ := tornDown opened driven
  rw [torn.runs.grows.eventsSince] at saved ⊢
  obtain ⟨before, d, f, now, closing, marked⟩ := torn.closing
  have unfailed : f = none := by
    cases f with
    | none => rfl
    | some e => exact nomatch saved (.save (s.down h).2.document (some e)) (by simp [closing])
  exact {
    flags := torn.isCreated_iff
    notUp := by rw [marked]; rfl
    refs := fun gone => torn.runs.moves.cluster_eq torn.creations (.inr gone)
    stored := by
      rw [torn.runs.grows.history, closing, unfailed, ← List.append_assoc, lastSaved_append]
      rfl
    result := by rw [result, teardownResult_ok_iff, faults_eq_nil_iff saved] }

/-- A teardown of nothing is quiet. -/
theorem quiet_down (opened : Opened h true s) (nothing : ∀ k, s.document.isCreated k = false) :
    ∃ rs es, Quiet s (s.down h).2 rs es := by
  obtain ⟨rs, es, torn, -⟩ := tornDown opened fun k created => by simp [nothing k] at created
  refine ⟨rs, es, torn.runs, torn.creations, ?_⟩
  rw [torn.deletions, List.filter_eq_nil_iff]
  exact fun k _ => by simp [nothing k]

end Session

/-! ## Afterwards -/

namespace Moment

open Session

variable {ω : Type} {m n : Moment ω} {o : Option Operation} {allowed : Operation → Prop}
  {flags : Component → Bool}

/-- A moment at which the open session and the store record the components with these flags. -/
structure Left (flags : Component → Bool) (m : Moment ω) : Prop where
  opened : Opened m.host true m.session
  recorded : Recorded m.log m.session.document
  flags : m.session.document.isCreated = flags

/-- Whether an operation neither creates nor deletes anything, whenever it is begun. -/
def QuietAt (m : Moment ω) (p : Operation) : Prop :=
  ∀ (stop : StopSignal) (w : ω), ∃ rs es,
    Quiet { m.session with stop := stop, world := w } (m.operate p stop w).session rs es

theorem Left.next (left : m.Left flags) (next : Next m o n) (quiet : ∀ p ∈ o, m.QuietAt p) :
    n.Left flags ∧ ∃ es, n.log = m.log ++ es ∧ es.filterMap Event.deletion? = [] := by
  cases next with
  | operate p stop w =>
    obtain ⟨rs, es, quiet⟩ := quiet p rfl stop w
    have grown := log_operate quiet.runs.grows.history
    refine ⟨⟨?_, ?_, quiet.isCreated_eq.trans left.flags⟩, es, grown, quiet.deletions⟩
    · exact (opened_operate left.opened stop w).grows quiet.runs.grows
    · rw [grown]
      exact left.recorded.moves quiet.runs.moves (.inr quiet.turns_eq_nil)
  | @reopen h c stop w w' d x s last loaded same opened =>
    obtain ⟨same', history⟩ := reopened loaded same opened
    obtain ⟨x', last', recorded⟩ := left.recorded
    obtain rfl : x' = x := Option.some.inj (last'.symm.trans last)
    have grown : (Moment.mk h s m.log).log = m.log ++ [.save s.document none] :=
      congrArg (m.log ++ ·) history
    refine ⟨⟨⟨_, _, _, _, _, opened, rfl, rfl, rfl⟩, ?_, ?_⟩, _, grown, rfl⟩
    · rw [grown]
      exact ⟨_, by rw [lastSaved_append]; rfl, rfl⟩
    · exact (same'.trans recorded).trans left.flags

theorem Left.path (left : m.Left flags) (path : Path allowed m n)
    (quiet : ∀ p, allowed p → ∀ n : Moment ω, n.Left flags → n.QuietAt p) :
    n.Left flags ∧ ∃ es, n.log = m.log ++ es ∧ es.filterMap Event.deletion? = [] := by
  induction path with
  | here => exact ⟨left, [], (List.append_nil _).symm, rfl⟩
  | next _ next permitted ih =>
    obtain ⟨left', es, grown, deletions⟩ := ih
    obtain ⟨left'', es', grown', deletions'⟩ :=
      left'.next next fun p hp => quiet p (permitted p hp) _ left'
    refine ⟨left'', es ++ es', by rw [grown', grown, List.append_assoc], ?_⟩
    rw [List.filterMap_append, deletions, deletions']
    rfl

theorem quietAt_of_query {p : Operation} (query : p = .isUp ∨ p = .dumpLogs) (n : Moment ω) :
    n.QuietAt p := by
  intro stop w
  rcases query with rfl | rfl
  · exact ⟨_, quiet_isUp n.host _⟩
  · exact ⟨_, quiet_dumpLogs n.host _⟩

theorem Left.quietAt (nothing : ∀ k, flags k = false) {p : Operation} (other : p ≠ .up)
    (left : n.Left flags) : n.QuietAt p := by
  intro stop w
  cases p with
  | up => exact absurd rfl other
  | isUp => exact quietAt_of_query (.inl rfl) n stop w
  | dumpLogs => exact quietAt_of_query (.inr rfl) n stop w
  | down =>
    refine quiet_down (opened_operate left.opened stop w) fun k => ?_
    rw [← nothing k, ← left.flags]

/-- What remains is what the next teardown tries to delete. -/
theorem Left.deletions (left : n.Left flags) (stop : StopSignal) (w : ω)
    (driven : ∀ k, flags k = true → n.session.registry.drives k = true) :
    ((n.operate .down stop w).session.eventsSince n.session).filterMap Event.deletion? =
      teardownOrder.filter flags := by
  obtain ⟨rs, es, torn, -⟩ := tornDown (opened_operate left.opened stop w) fun k created =>
    driven k (left.flags ▸ created)
  have since : (n.operate .down stop w).session.eventsSince n.session = es :=
    torn.runs.grows.eventsSince
  rw [since, torn.deletions]
  exact congrArg (teardownOrder.filter ·) left.flags

end Moment

namespace Session

open Moment

variable {ω : Type} {h : Host ω} {s : Session ω}

/-- **The outcome of a teardown** that finds all handles and whose saves succeed: what it failed to
delete, and only that, is still recorded as created. The next teardown, in this session or a later
one, tries to delete just that; after a success, whatever is done but bringing the environment up,
nothing is deleted again. Result, document and calls are the same on every host that answers alike,
whenever the stop signal fires. -/
theorem down_outcome (opened : Opened h true s)
    (driven : ∀ k, s.document.isCreated k = true → s.registry.drives k = true)
    (saved : Saved ((s.down h).2.eventsSince s)) :
    let t := (s.down h).2
    let failed := failures (t.eventsSince s)
    Outcome s (s.down h) (t.eventsSince s) ∧
      (∀ past n stop w, Path (fun o => o = .isUp ∨ o = .dumpLogs) ⟨h, t, past⟩ n →
        (∀ k ∈ failed, n.session.registry.drives k = true) →
        ((n.operate .down stop w).session.eventsSince n.session).filterMap Event.deletion? =
          teardownOrder.filter fun k => k ∈ failed) ∧
      ((s.down h).1 = .ok () → ∀ past n, Path (fun o => o ≠ .up) ⟨h, t, past⟩ n →
        ∃ es, n.log = past ++ t.history ++ es ∧ es.filterMap Event.deletion? = []) ∧
      ∀ (h' : Host ω) (R : ω → ω → Prop) (stop : StopSignal) (w : ω), Alike h h' R → R s.world w →
        let r := ({ s with stop := stop, world := w } : Session ω).down h'
        r.1 = (s.down h).1 ∧ r.2.document.timeless = t.document.timeless ∧
          r.2.history.filterMap Event.answer? = t.history.filterMap Event.answer? := by
  intro t failed
  have out := outcome opened driven saved
  obtain ⟨rs, es, torn, -⟩ := tornDown opened driven
  have flags : t.document.isCreated = fun k => decide (k ∈ failed) := by
    funext k
    rw [Bool.eq_iff_iff, decide_eq_true_iff, out.flags k]
    refine and_iff_right_of_imp fun mem => torn.isCreated_of_failure ?_
    rwa [← torn.runs.grows.eventsSince]
  have left (past : List Event) : Left (fun k => decide (k ∈ failed)) ⟨h, t, past⟩ := {
    opened := opened.grows torn.runs.grows
    recorded := ⟨t.document, by
      show lastSaved (past ++ t.history) = _
      rw [lastSaved_append, out.stored]
      rfl, rfl⟩
    flags := flags }
  refine ⟨out, ?_, ?_, ?_⟩
  · intro past n stop w path drives
    obtain ⟨left', -⟩ := (left past).path path fun p query n _ => quietAt_of_query query n
    exact left'.deletions stop w fun k hk => drives k (by simpa using hk)
  · intro ok past n path
    have none : failed = [] := out.result.1 ok
    have nothing (k : Component) : decide (k ∈ failed) = false := by simp [none]
    exact ((left past).path path fun p other n left => left.quietAt nothing other).2
  · intro h' R stop w alike same
    have par : Parallel R s { s with stop := stop, world := w } := ⟨rfl, rfl, rfl, rfl, rfl, same⟩
    obtain ⟨result, after⟩ := parallel_down alike par
    exact ⟨result.symm, after.document.symm, after.calls.symm⟩

/-! ## A teardown on a bench -/

/-- Two benches with the same rehearsals, whatever their clocks and signals show. -/
structure SameRehearsals (w w' : Bench) : Prop where
  old : w.oldRehearsals = w'.oldRehearsals
  current : w.rehearsal = w'.rehearsal
  failing : w.failingSaves = w'.failingSaves
  saves : w.saves = w'.saves
  memory : ∃ d d', w.store = .memory d ∧ w'.store = .memory d'

/-- A bench on which the stop signal fires in every pause, and time passes. -/
def hastyHost : Host Bench :=
  { sampleHost with pause := fun _ w => ([.requested], { w with now := w.now ++ " and later" }) }

/-- Firings change signals only. -/
theorem SameRehearsals.fired {w w' : Bench} (same : SameRehearsals w w')
    (fs : List (Nat × StopOrigin)) :
    SameRehearsals (fs.foldl Bench.fireAt w) (fs.foldl Bench.fireAt w') := by
  have fired (w : Bench) : ∃ olds signal,
      fs.foldl Bench.fireAt w = { w with oldSignals := olds, signal := signal } := by
    induction fs generalizing w with
    | nil => exact ⟨_, _, rfl⟩
    | cons f fs ih =>
      obtain ⟨olds, signal, after⟩ := ih (w.fireAt f)
      rw [List.foldl_cons, after]
      unfold Bench.fireAt Bench.setSignal
      split <;> exact ⟨_, _, rfl⟩
  obtain ⟨olds, signal, after⟩ := fired w
  obtain ⟨olds', signal', after'⟩ := fired w'
  rw [after, after']
  exact { same with }

theorem SameRehearsals.rehearsed {w w' : Bench} (same : SameRehearsals w w') (r : Rehearsal) :
    SameRehearsals (Bench.setRehearsal 0 w r) (Bench.setRehearsal 0 w' r) := by
  unfold Bench.setRehearsal Bench.rehearsalNumber
  rw [same.old]
  split
  · exact { same with old := rfl }
  · exact { same with old := rfl, current := rfl }

/-- A hasty bench answers like any other. -/
theorem alike_hastyHost : Alike sampleHost hastyHost SameRehearsals where
  perform := fun c w w' same => by
    have rehearsal : w.rehearsalAt 0 = w'.rehearsalAt 0 := by
      unfold Bench.rehearsalAt
      rw [same.old, same.current]
    refine ⟨?_, ?_⟩
    · show ((w.rehearsalAt 0).perform c).1 = ((w'.rehearsalAt 0).perform c).1
      rw [rehearsal]
    · show SameRehearsals
        (((w.rehearsalAt 0).firedBy c).foldl Bench.fireAt
          (Bench.setRehearsal 0 w ((w.rehearsalAt 0).perform c).2))
        (((w'.rehearsalAt 0).firedBy c).foldl Bench.fireAt
          (Bench.setRehearsal 0 w' ((w'.rehearsalAt 0).perform c).2))
      rw [rehearsal]
      exact (same.rehearsed _).fired _
  save := fun {d d'} w w' same docs => by
    obtain ⟨x, x', memory, memory'⟩ := same.memory
    show (Bench.save d w).1 = (Bench.save d' w').1 ∧
      SameRehearsals (Bench.save d w).2 (Bench.save d' w').2
    unfold Bench.save Bench.put
    simp only [memory, memory', same.saves, same.failing]
    split
    · exact ⟨rfl, { same with failing := rfl, saves := rfl, memory := ⟨x, x', rfl, rfl⟩ }⟩
    · exact ⟨rfl, { same with failing := rfl, saves := rfl, memory := ⟨d, d', rfl, rfl⟩ }⟩
  pause := fun _ _ _ same => { same with }

theorem down_outcome_troubledSession :
    let t := (troubledSession.down sampleHost).2
    Outcome troubledSession (troubledSession.down sampleHost) (t.eventsSince troubledSession) ∧
      failures (t.eventsSince troubledSession) = [.resource .cluster] ∧
      (troubledSession.down hastyHost).1 = (troubledSession.down sampleHost).1 := by
  obtain ⟨out, -, -, alike⟩ := down_outcome opened_troubledSession drives_troubledSession
    (by decide +kernel)
  have same : SameRehearsals troubledBench troubledBench :=
    ⟨rfl, rfl, rfl, rfl, none, none, rfl, rfl⟩
  refine ⟨out, by decide +kernel, ?_⟩
  exact (alike hastyHost SameRehearsals {} troubledBench alike_hastyHost same).1

end Session

end Testbed
