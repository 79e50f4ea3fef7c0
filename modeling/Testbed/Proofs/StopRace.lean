import Testbed.Proofs.StopSubscribers

/-!
# A step against the stop signal

Any number of firings and steps race, and their events come in any order that is possible at all.

**Theorem (`settled_run`).** Of all firings the first to take effect, and no other, is told that it
was the first; the signal remembers its origin from then on. A step is interrupted, with that
origin, when the firing came before the message that ends its work, and is finished otherwise. Each
channel gets at most one stop message, and none after its step has left; and no subscriber is left
in the list once the signal has fired, or once all steps have left.

The message that a caller takes first was put on its channel no later than the one that ends the
work, so what it says was settled by then; the rest is read off from what the channels and the list
of subscribers hold. A step that runs alone is the simplest race, and there the callers get what
`StopSignal.run` says (`exists_run`).
-/

namespace Testbed

namespace Race

variable {ι ε α : Type} [DecidableEq ι] {s : Race ι ε α} {log more : List (Event ι ε α)}
variable {x : Event ι ε α} {i : ι} {o : StopOrigin}

/-! ## Who fires first -/

omit [DecidableEq ι] in
theorem exists_first (fired : origins log ≠ []) :
    ∃ pre o first post, log = pre ++ .fired o first :: post ∧ origins pre = [] := by
  induction log with
  | nil => exact absurd rfl fired
  | cons x log ih =>
    cases silent : origins [x] with
    | nil =>
      rw [origins_cons, silent, List.nil_append] at fired
      obtain ⟨pre, o, first, post, rfl, unfired⟩ := ih fired
      exact ⟨x :: pre, o, first, post, rfl, by
        rw [origins_cons, silent, unfired, List.nil_append]⟩
    | cons o os =>
      cases x with
      | fired o first => exact ⟨[], o, first, log, rfl, rfl⟩
      | _ => cases silent

/-- A firing is told the truth. -/
theorem Kept.answer (kept : Kept log s) {first : Bool} (admits : s.Admits (.fired o first)) :
    first = true ↔ origins log = [] := by
  have told : first = !s.signal.isFired := admits
  rw [told, StopSignal.isFired, kept.origin]
  simp

theorem Kept.later (kept : Kept log s) (fired : origins log ≠ []) (admits : s.AdmitsAll more)
    (first : Bool) (mem : .fired o first ∈ more) : first = false := by
  induction more generalizing log s with
  | nil => cases mem
  | cons x more ih =>
    obtain rfl | mem := List.mem_cons.1 mem
    · simpa [fired] using kept.answer admits.1
    · exact ih (kept.next admits.1) (origins_append_ne_nil fired) admits.2 mem

/-- Nothing is put on the channel of a step that has left. -/
theorem Kept.sent_next (kept : Kept log s) (admits : s.Admits x) {r : Except ε (Outcome α)}
    (gone : .left i r ∈ log) : ((s.next x).attempt i).sent = (s.attempt i).sent := by
  have returned := ((kept.fits i).returned r).2 gone
  obtain ⟨done, -⟩ := (kept.fits i).result r returned
  have unchanged {j : ι} {b : Attempt ε α} {t : Race ι ε α} (attempt : t.attempt = s.attempt)
      (sent : j = i → b.sent = (s.attempt i).sent) :
      ((t.set j b).attempt i).sent = (s.attempt i).sent := by
    by_cases same : i = j
    · subst same
      simpa using sent rfl
    · rw [set_attempt_of_ne t b same, attempt]
  cases x with
  | fired o first =>
    show ((s.fire o).attempt i).sent = _
    unfold Race.fire
    split
    · rfl
    · have unlisted : number? (s.attempt i) s.signal = none := by
        rw [Option.eq_none_iff_forall_ne_some]
        intro id entry
        cases returned.symm.trans (number?_eq_some_iff.1 entry).2.2
      simp [kept.listed, unlisted]
  | subscribed j =>
    have ne : j ≠ i := by
      rintro rfl
      have blank := (kept.fits j).blank admits
      rw [blank] at returned
      cases returned
    show ((s.subscribe j).attempt i).sent = _
    unfold Race.subscribe
    split <;> exact unchanged rfl fun same => absurd same ne
  | worked j e => exact unchanged rfl fun same => same ▸ rfl
  | done j =>
    refine unchanged rfl fun same => absurd ?_ admits.2
    rw [same]
    exact (kept.fits i).done_mem_sent.2 done
  | received j w => exact unchanged rfl fun same => same ▸ rfl
  | left j r =>
    refine unchanged ?_ fun same => same ▸ rfl
    unfold unsubscribe
    split <;> rfl

theorem Kept.sent_run (kept : Kept log s) (admits : s.AdmitsAll more) {r : Except ε (Outcome α)}
    (gone : .left i r ∈ log) : ((s.run more).attempt i).sent = (s.attempt i).sent := by
  induction more generalizing log s with
  | nil => rfl
  | cons x more ih =>
    exact (ih (kept.next admits.1) admits.2 (List.mem_append_left _ gone)).trans
      (kept.sent_next admits.1 gone)

/-! ## What comes of a race -/

/-- What a step's caller is given, when the events `pre` came before the message that ended the
work and `e` is what the work gave. -/
structure Tells (pre : List (Event ι ε α)) (e : Except ε α) (r : Except ε (Outcome α)) : Prop where
  judged : r = e.map (StopSignal.fireAll {} (origins pre)).judge
  interrupted : ∀ o a, r = .ok (.interrupted o a) ↔ e = .ok a ∧ (origins pre).head? = some o
  finished : ∀ a, r = .ok (.finished a) ↔ e = .ok a ∧ origins pre = []
  passedOn : ∀ x, r = .error x ↔ e = .error x

/-- What holds after the events `log`, and for ever after. -/
structure Settled (log : List (Event ι ε α)) (s : Race ι ε α) : Prop where
  /-- One firing is the first, and the only one to be told so; its origin stays. -/
  fired : origins log ≠ [] → ∃ pre o post, log = pre ++ .fired o true :: post ∧
    (∀ p first, .fired p first ∉ pre) ∧ (∀ p first, .fired p first ∈ post → first = false) ∧
    ∀ more, s.AdmitsAll more → (∀ p first, .fired p first ∈ more → first = false) ∧
      (s.run more).signal.origin = some o ∧
      ∀ i p, .stop p ∈ ((s.run more).attempt i).sent → p = o
  unfired : origins log = [] → s.signal.origin = none ∧ ∀ i p, .stop p ∉ (s.attempt i).sent
  /-- A step is told how its own work ended, once, and whether the signal came before that. -/
  left : ∀ i r, .left i r ∈ log → (∀ r', .left i r' ∈ log → r' = r) ∧
    ∃ pre e post, log = pre ++ .done i :: post ∧ .done i ∉ pre ∧ .done i ∉ post ∧
      .subscribed i ∈ pre ∧ .worked i e ∈ pre ∧ (∀ e', .worked i e' ∈ log → e' = e) ∧
      .left i r ∈ post ∧ Tells pre e r
  /-- Work that has ended can always be followed by its step's own remaining events. -/
  returns : ∀ i e, .worked i e ∈ log → (∀ r, .left i r ∉ log) → ∃ own r,
    s.AdmitsAll (own ++ [.left i r]) ∧ ∀ x ∈ own, x = .done i ∨ ∃ w, x = .received i w
  stops : ∀ i, ((s.attempt i).sent.filter (· ≠ .done)).length ≤ 1
  silent : ∀ i r, .left i r ∈ log → ∀ more, s.AdmitsAll more →
    ((s.run more).attempt i).sent = (s.attempt i).sent
  emptied : origins log ≠ [] → s.subscribers = []
  dropped : (∀ i, .subscribed i ∈ log → ∃ r, .left i r ∈ log) → s.subscribers = []

omit [DecidableEq ι] in
theorem tells_map_judge (pre : List (Event ι ε α)) (e : Except ε α) :
    Tells pre e (e.map (StopSignal.fireAll {} (origins pre)).judge) := by
  have origin : (StopSignal.fireAll {} (origins pre)).origin = (origins pre).head? :=
    StopSignal.origin_fireAll {} (origins pre)
  have nothing := List.head?_eq_none_iff (l := origins pre)
  cases e with
  | error x => constructor <;> simp [Except.map]
  | ok a =>
    show Tells pre (.ok a) (.ok (StopSignal.judge _ a))
    unfold StopSignal.judge
    split
    next o fired =>
      have first := origin.symm.trans fired
      have some : origins pre ≠ [] := fun none => by simp [none] at first
      constructor
      case judged => simp [Except.map, StopSignal.judge, fired]
      case interrupted => simp [first, and_comm]
      case finished => simp [some]
      case passedOn => simp
    next still =>
      have none := origin.symm.trans still
      constructor
      case judged => simp [Except.map, StopSignal.judge, still]
      case interrupted => simp [none]
      case finished => simp [nothing.1 none]
      case passedOn => simp

theorem Kept.tells (kept : Kept log s) {r : Except ε (Outcome α)} (gone : .left i r ∈ log) :
    (∀ r', .left i r' ∈ log → r' = r) ∧
    ∃ pre e post, log = pre ++ .done i :: post ∧ .done i ∉ pre ∧ .done i ∉ post ∧
      .subscribed i ∈ pre ∧ .worked i e ∈ pre ∧ (∀ e', .worked i e' ∈ log → e' = e) ∧
      .left i r ∈ post ∧ Tells pre e r := by
  have fits := kept.fits i
  have returned := (fits.returned r).2 gone
  obtain ⟨done, result⟩ := fits.result r returned
  obtain ⟨w, e, first, ending, -, rfl⟩ := Attempt.result?_eq_some_iff.1 result
  obtain ⟨pre, post, late, cut, before, after, joined, ⟨e', worked⟩, stays, sent, -⟩ :=
    fits.ended done
  have same (e' : Except ε α) (mem : .worked i e' ∈ log) : e' = e :=
    Option.some.inj (((fits.ending e').2 mem).symm.trans ending)
  have later : .left i (e.map w.outcome) ∈ post := by
    rw [cut, List.mem_append, List.mem_cons] at gone
    exact (gone.resolve_left (stays _)).resolve_left nofun
  have head := fits.first w first
  rw [sent] at head
  refine ⟨fun r' mem => ?_, pre, e, post, cut, before, after, joined, ?_, same, later, ?_⟩
  · exact Option.some.inj (((fits.returned r').2 mem).symm.trans returned)
  · rwa [← same e' (by simp [cut, worked])]
  · rw [outcome_head head]
    exact tells_map_judge pre e

/-- A caller that has its message leaves once the thread of the work is over, and one that has not
yet its message takes it first. -/
theorem exists_left {e : Except ε α} (ending : (s.attempt i).ending = some e)
    (done : .done ∈ (s.attempt i).sent) (stays : (s.attempt i).returned = none) : ∃ own r,
      s.AdmitsAll (own ++ [.left i r]) ∧ ∀ x ∈ own, ∃ w, x = .received i w := by
  cases first : (s.attempt i).first with
  | some w =>
    have result := Attempt.result?_eq_some_iff.2 ⟨w, e, first, ending, done, rfl⟩
    exact ⟨[], _, ⟨⟨stays, result⟩, trivial⟩, nofun⟩
  | none =>
    have some : (s.attempt i).sent ≠ [] := List.ne_nil_of_mem done
    let w := (s.attempt i).sent.head some
    have head : (s.attempt i).sent.head? = .some w := List.head?_eq_some_head some
    have result : ((s.next (.received i w)).attempt i).result? = .some (e.map w.outcome) := by
      rw [Attempt.result?_eq_some_iff]
      exact ⟨w, e, by simp [Race.next], by simp [Race.next, ending], by simp [Race.next, done], rfl⟩
    refine ⟨[.received i w], _, ⟨⟨first, head⟩, ⟨?_, result⟩, trivial⟩, by simp⟩
    simp [Race.next, stays]

theorem Kept.returns (kept : Kept log s) {e : Except ε α} (worked : .worked i e ∈ log)
    (stays : ∀ r, .left i r ∉ log) : ∃ own r, s.AdmitsAll (own ++ [.left i r]) ∧
      ∀ x ∈ own, x = .done i ∨ ∃ w, x = .received i w := by
  have fits := kept.fits i
  have ending := (fits.ending e).2 worked
  have stays : (s.attempt i).returned = none := by
    rw [Option.eq_none_iff_forall_ne_some]
    exact fun r returned => stays r ((fits.returned r).1 returned)
  by_cases done : .done ∈ (s.attempt i).sent
  · obtain ⟨own, r, admits, mine⟩ := exists_left ending done stays
    exact ⟨own, r, admits, fun x mem => .inr (mine x mem)⟩
  · have admits : s.Admits (.done i) := ⟨by simp [ending], done⟩
    obtain ⟨own, r, rest, mine⟩ := exists_left (s := s.next (.done i)) (i := i) (e := e)
      (by simpa [Race.next] using ending) (by simp [Race.next])
      (by simpa [Race.next] using stays)
    refine ⟨.done i :: own, r, ⟨admits, rest⟩, fun x mem => ?_⟩
    obtain rfl | mem := List.mem_cons.1 mem
    · exact .inl rfl
    · exact .inr (mine x mem)

theorem Kept.subscribers_eq_nil (kept : Kept log s)
    (none : ∀ i id, number? (s.attempt i) s.signal ≠ some id) : s.subscribers = [] :=
  List.eq_nil_iff_forall_not_mem.2 fun _ mem => none _ _ (kept.entered mem)

/-- **Firings and steps settle in every order.** Whatever firings and steps there are, and however
their events interleave: the first firing to take effect is the one that counts, a step is
interrupted exactly when it came before the end of the step's work was announced, every wake-up is
delivered once, and no subscriber is forgotten in the list. -/
theorem settled_run (admits : ({} : Race ι ε α).AdmitsAll log) :
    Settled log (({} : Race ι ε α).run log) := by
  have kept : Kept log (({} : Race ι ε α).run log) := by
    simpa using Kept.nil.run admits
  have remembered (more : List (Event ι ε α)) (can : (Race.run {} log).AdmitsAll more) :
      Kept (log ++ more) ((Race.run {} log).run more) := kept.run can
  constructor
  case fired =>
    intro fired
    obtain ⟨pre, o, first, post, cut, unfired⟩ := exists_first fired
    have parts := admits
    rw [cut, admitsAll_append] at parts
    have before : Kept pre (({} : Race ι ε α).run pre) := by simpa using Kept.nil.run parts.1
    obtain rfl : first = true := (before.answer parts.2.1).2 unfired
    have head : (origins log).head? = some o := by
      rw [cut, origins_append, origins_cons, unfired]
      rfl
    have after := before.next parts.2.1
    refine ⟨pre, o, post, cut, origins_eq_nil_iff.1 unfired,
      fun p first => after.later (by simp) parts.2.2 first, fun more can => ?_⟩
    have still : (origins (log ++ more)).head? = some o := (head?_origins_append fired).trans head
    refine ⟨fun p first => kept.later fired can first, (remembered more can).origin.trans still,
      fun i p mem => ?_⟩
    exact Option.some.inj ((((remembered more can).fits i).stop_mem mem).symm.trans still)
  case unfired =>
    intro unfired
    refine ⟨by simp [kept.origin, unfired], fun i p mem => ?_⟩
    simpa [unfired] using (kept.fits i).stop_mem mem
  case left => exact fun i r gone => kept.tells gone
  case returns => exact fun i e worked stays => kept.returns worked stays
  case stops => exact fun i => (kept.fits i).stops_le_one
  case silent => exact fun i r gone more can => kept.sent_run can gone
  case emptied =>
    intro fired
    refine kept.subscribers_eq_nil fun i id entry => fired ?_
    rw [← List.head?_eq_none_iff, ← kept.origin]
    exact (number?_eq_some_iff.1 entry).2.1
  case dropped =>
    intro gone
    refine kept.subscribers_eq_nil fun i id entry => ?_
    obtain ⟨entered, -, stays⟩ := number?_eq_some_iff.1 entry
    obtain ⟨r, left⟩ := gone i ((kept.fits i).subscribed.1 (by simp [entered]))
    cases stays.symm.trans (((kept.fits i).returned r).2 left)

/-- Two steps that the signal finds at work, of which one has just ended, and a third that starts
after it. -/
def crossing : List (Event Nat String Nat) :=
  [.subscribed 0, .subscribed 1, .worked 0 (.ok 10), .done 0, .fired .signal true,
    .fired .requested false, .subscribed 2, .received 0 .done, .worked 1 (.ok 20),
    .received 1 (.stop .signal), .left 0 (.ok (.finished 10)), .worked 2 (.error "broke"), .done 1,
    .left 1 (.ok (.interrupted .signal 20)), .received 2 (.stop .signal), .done 2,
    .left 2 (.error "broke")]

theorem settled_run_crossing : AdmitsAll {} crossing ∧ Settled crossing (run {} crossing) := by
  have admits : AdmitsAll {} crossing := by decide +kernel
  exact ⟨admits, settled_run admits⟩

/-! ## A step that fires the signal itself -/

/-- The firings that `StopSignal.fireEach` makes, as events. -/
def firings (signal : StopSignal) (fires : List StopOrigin) : List (Event ι ε α) :=
  List.zipWith .fired fires (signal.fireEach fires).1

theorem admitsAll_firings (s : Race ι ε α) (fires : List StopOrigin) :
    s.AdmitsAll (firings s.signal fires) := by
  induction fires generalizing s with
  | nil => trivial
  | cons o fires ih =>
    refine ⟨rfl, ?_⟩
    have signal : (s.next (.fired o (!s.signal.isFired))).signal = s.signal.fire o :=
      signal_next s _
    have rest := ih (s.next (.fired o (!s.signal.isFired)))
    rwa [signal] at rest

omit [DecidableEq ι] in
theorem step?_of_mem_firings {signal : StopSignal} {fires : List StopOrigin}
    (mem : x ∈ (firings signal fires : List (Event ι ε α))) : x.step? = none := by
  induction fires generalizing signal with
  | nil => cases mem
  | cons o fires ih =>
    obtain rfl | mem := List.mem_cons.1 mem
    · rfl
    · exact ih mem

omit [DecidableEq ι] in
theorem origins_firings (signal : StopSignal) (fires : List StopOrigin) :
    origins (firings signal fires : List (Event ι ε α)) = fires := by
  induction fires generalizing signal with
  | nil => rfl
  | cons o fires ih => exact congrArg (o :: ·) (ih (signal.fire o))

/-- Work that has just ended sends its message, which wakes the caller unless a firing has. -/
theorem Kept.finishes (kept : Kept log s) {e : Except ε α} (worked : .worked i e ∈ log)
    (undone : .done i ∉ log) (waits : ∀ w, .received i w ∉ log) :
    ∃ w, s.AdmitsAll [.done i, .received i w,
      .left i (e.map (StopSignal.fireAll {} (origins log)).judge)] := by
  have fits := kept.fits i
  have ending := (fits.ending e).2 worked
  have begun : (s.attempt i).subscription ≠ none := by
    intro none
    rw [fits.blank none] at ending
    cases ending
  have sent := fits.waiting undone begun
  have first : (s.attempt i).first = none := by
    rw [Option.eq_none_iff_forall_ne_some]
    exact fun w took => waits w ((fits.received w).1 took)
  have stays : (s.attempt i).returned = none := by
    rw [Option.eq_none_iff_forall_ne_some]
    exact fun r returned => undone (fits.result r returned).1
  let w := (wakes log ++ [Wake.done]).head (by simp)
  have head : (wakes log ++ [Wake.done]).head? = some w := List.head?_eq_some_head _
  refine ⟨w, ⟨by simp [ending], ?_⟩, ⟨by simpa [Race.next] using first, ?_⟩, ⟨?_, ?_⟩, trivial⟩
  · rw [sent]
    exact done_notMem_wakes
  · simpa [Race.next, sent] using head
  · simpa [Race.next] using stays
  · rw [← outcome_head head, Attempt.result?_eq_some_iff]
    exact ⟨w, e, by simp [Race.next], by simp [Race.next, ending], by simp [Race.next], rfl⟩

/-- **A step on its own.** Steps that run one after the other, each with no firings but its own, are
a race as well, and their callers get what `StopSignal.run` says. -/
theorem exists_run {β : Type} {log : List (Event ι ε (β × List Bool))}
    (admits : ({} : Race ι ε (β × List Bool)).AdmitsAll log) (new : .subscribed i ∉ log)
    (fires : List StopOrigin) (ending : Except ε β) :
    let s := ({} : Race ι ε (β × List Bool)).run log
    ∃ w, s.AdmitsAll (.subscribed i :: firings s.signal fires ++
      [.worked i (ending.map (·, (s.signal.fireEach fires).1)), .done i, .received i w,
        .left i (s.signal.run fires ending).1]) := by
  intro s
  have kept : Kept log s := by simpa using Kept.nil.run admits
  have fresh : (s.attempt i).subscription = none := by
    by_cases none : (s.attempt i).subscription = none
    · exact none
    · exact absurd ((kept.fits i).subscribed.1 none) new
  have signal : (s.next (.subscribed i)).signal = s.signal := signal_next s _
  have fired := admitsAll_firings (s.next (.subscribed i)) fires
  rw [signal] at fired
  have own : s.AdmitsAll (.subscribed i :: firings s.signal fires) := ⟨fresh, fired⟩
  have after := kept.run own
  let begun := log ++ .subscribed i :: firings s.signal fires
  obtain ⟨unworked, undone, waits, -⟩ := (kept.fits i).absent fresh
  have absent {y : Event ι ε (β × List Bool)} (new : y ∉ log) (mine : y.step? = some i)
      (late : y ≠ .subscribed i) : y ∉ begun := by
    intro mem
    obtain mem | mem := List.mem_append.1 mem
    · exact new mem
    obtain same | mem := List.mem_cons.1 mem
    · exact late same
    · cases mine.symm.trans (step?_of_mem_firings mem)
  let e := ending.map (·, (s.signal.fireEach fires).1)
  have works : (s.run (.subscribed i :: firings s.signal fires)).Admits (.worked i e) := by
    refine ⟨((after.fits i).subscribed).2 (by simp), ?_⟩
    rw [Option.eq_none_iff_forall_ne_some]
    exact fun e' worked => absent (unworked e') rfl (by simp) (((after.fits i).ending e').1 worked)
  have signal : StopSignal.fireAll {} (origins (begun ++ [.worked i e])) =
      s.signal.fireAll fires := by
    have fired : origins (begun ++ [.worked i e]) = origins log ++ fires := by
      rw [origins_append, origins_append, origins_cons, origins_firings]
      exact List.append_nil _
    rw [fired, StopSignal.fireAll_append, signal_run]
  obtain ⟨w, ends⟩ := (after.next works).finishes (i := i) (e := e) (by simp)
    (by simpa [begun] using absent undone rfl (by simp))
    fun w => by simpa [begun] using absent (waits w) rfl (by simp)
  refine ⟨w, admitsAll_append.2 ⟨own, works, ?_⟩⟩
  rw [signal] at ends
  have result : e.map (s.signal.fireAll fires).judge = (s.signal.run fires ending).1 := by
    rw [← StopSignal.fireEach_snd]
    cases ending <;> rfl
  rwa [result] at ends

end Race

end Testbed
