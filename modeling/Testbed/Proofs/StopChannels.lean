import Testbed.Proofs.Acts
import Testbed.Stop.Race

/-!
# The channel of a step

What has happened in a race says what the channel of each step holds: up to the end of its work the
one stop message that the firings so far call for, and after it at most one that nobody reads.
`Fits` states this together with how far the step has got. It is kept by an event of another step
(`Fits.frame`), by the firing that reaches the step (`Fits.stopped`) and by each event of its own.
-/

namespace Testbed

namespace Race

variable {ι ε α : Type} {log more pre post : List (Event ι ε α)} {x : Event ι ε α}
variable {i j : ι} {a : Attempt ε α} {o : StopOrigin} {late : List Wake}

/-! ## What has been fired -/

/-- The firings among some events, in their order. -/
def origins (log : List (Event ι ε α)) : List StopOrigin :=
  log.filterMap fun
    | .fired o _ => some o
    | _ => none

@[simp] theorem origins_nil : origins ([] : List (Event ι ε α)) = [] := rfl

@[simp] theorem origins_fired (o : StopOrigin) (first : Bool) :
    origins [(.fired o first : Event ι ε α)] = [o] := rfl

@[simp] theorem origins_append (log more : List (Event ι ε α)) :
    origins (log ++ more) = origins log ++ origins more := List.filterMap_append

theorem origins_cons (x : Event ι ε α) (log : List (Event ι ε α)) :
    origins (x :: log) = origins [x] ++ origins log := origins_append [x] log

theorem origins_eq_nil_iff :
    origins log = [] ↔ ∀ o first, .fired o first ∉ log := by
  rw [origins, List.filterMap_eq_nil_iff]
  constructor
  · intro none o first mem
    cases none _ mem
  · intro none x mem
    cases x with
    | fired o first => exact absurd mem (none o first)
    | _ => rfl

theorem origins_append_ne_nil (fired : origins log ≠ []) : origins (log ++ more) ≠ [] := by
  simp [fired]

theorem head?_origins_append (fired : origins log ≠ []) :
    (origins (log ++ more)).head? = (origins log).head? := by
  cases first : origins log with
  | nil => exact absurd first fired
  | cons o os => simp [first]

/-- The stop message that some events call for: that of the first firing. -/
def wakes (log : List (Event ι ε α)) : List Wake := (origins log).head?.toList.map .stop

theorem wakes_of_unfired (unfired : origins log = []) : wakes log = [] := by simp [wakes, unfired]

theorem wakes_append_of_fired (fired : origins log ≠ []) : wakes (log ++ more) = wakes log := by
  rw [wakes, head?_origins_append fired]
  rfl

theorem wakes_append_of_unfired (unfired : origins log = []) :
    wakes (log ++ more) = wakes more := by simp [wakes, unfired]

theorem wakes_append_of_silent (silent : origins more = []) : wakes (log ++ more) = wakes log := by
  simp [wakes, silent]

theorem done_notMem_wakes : .done ∉ wakes log := by simp [wakes]

/-- Whatever came first, the caller is told as the signal stood when the work's message was sent. -/
theorem outcome_head {w : Wake}
    (head : (wakes pre ++ .done :: late).head? = some w) :
    w.outcome = (StopSignal.fireAll {} (origins pre)).judge (α := α) := by
  have origin := StopSignal.origin_fireAll {} (origins pre)
  funext a
  unfold StopSignal.judge
  unfold wakes at head
  cases first : (origins pre).head? with
  | none =>
    rw [first] at head
    cases head
    rw [origin]
    simp [first, Wake.outcome]
  | some o =>
    rw [first] at head
    cases head
    rw [origin]
    simp [first, Wake.outcome]

/-- The step that an event belongs to. -/
def Event.step? : Event ι ε α → Option ι
  | fired .. => none
  | subscribed i | worked i _ | done i | received i _ | left i _ => some i

/-! ## What a channel holds -/

/-- The channel of a step whose work has sent its message: before that message stands the stop
message that was called for by then, and after it at most one. -/
def Ended (log : List (Event ι ε α)) (i : ι) (a : Attempt ε α) : Prop :=
  ∃ pre post late, log = pre ++ .done i :: post ∧ .done i ∉ pre ∧ .done i ∉ post ∧
    .subscribed i ∈ pre ∧ (∃ e, .worked i e ∈ pre) ∧ (∀ r, .left i r ∉ pre) ∧
    a.sent = wakes pre ++ .done :: late ∧ (late = [] ∨ origins pre = [] ∧ late = wakes log)

/-- What is known of a step after the events `log`. -/
structure Fits (log : List (Event ι ε α)) (i : ι) (a : Attempt ε α) : Prop where
  subscribed : a.subscription ≠ none ↔ .subscribed i ∈ log
  /-- A step begins with its subscription. -/
  blank : a.subscription = none → a = {}
  told : a.subscription = some .told → origins log ≠ []
  ending : ∀ e, a.ending = some e ↔ .worked i e ∈ log
  waiting : .done i ∉ log → a.subscription ≠ none → a.sent = wakes log
  ended : .done i ∈ log → Ended log i a
  received : ∀ w, a.first = some w ↔ .received i w ∈ log
  first : ∀ w, a.first = some w → a.sent.head? = some w
  returned : ∀ r, a.returned = some r ↔ .left i r ∈ log
  result : ∀ r, a.returned = some r → .done i ∈ log ∧ a.result? = some r

theorem Fits.nil (i : ι) : Fits ([] : List (Event ι ε α)) i {} := by
  constructor <;> simp

theorem Ended.done_mem_sent (ended : Ended log i a) : .done ∈ a.sent := by
  obtain ⟨pre, post, late, -, -, -, -, -, -, sent, -⟩ := ended
  simp [sent]

theorem Fits.done_mem_sent (fits : Fits log i a) : .done ∈ a.sent ↔ .done i ∈ log := by
  constructor
  · intro mem
    by_cases blank : a.subscription = none
    · rw [fits.blank blank] at mem
      cases mem
    by_cases ended : .done i ∈ log
    · exact ended
    · rw [fits.waiting ended blank] at mem
      exact absurd mem done_notMem_wakes
  · exact fun mem => (fits.ended mem).done_mem_sent

/-- What came on the channel before the work's message does not change any more. -/
theorem Ended.append (ended : Ended log i a) (other : x ≠ .done i) : Ended (log ++ [x]) i a := by
  obtain ⟨pre, post, late, cut, before, after, joined, worked, stays, sent, last⟩ := ended
  refine ⟨pre, post ++ [x], late, by simp [cut], before, ?_, joined, worked, stays, sent, ?_⟩
  · simpa [after] using other.symm
  · obtain none | ⟨quiet, some⟩ := last
    · exact .inl none
    by_cases fired : origins log = []
    · exact .inl (some.trans (wakes_of_unfired fired))
    · exact .inr ⟨quiet, some.trans (wakes_append_of_fired fired).symm⟩

/-- An event of another step, or a firing that the step's channel does not get. -/
theorem Fits.frame (fits : Fits log i a) (other : x.step? ≠ some i)
    (quiet : a.subscription ≠ none → .done i ∉ log → wakes (log ++ [x]) = wakes log) :
    Fits (log ++ [x]) i a := by
  have apart (y : Event ι ε α) (own : y.step? = some i) : y ∈ log ++ [x] ↔ y ∈ log := by
    have ne : y ≠ x := fun same => other (same ▸ own)
    simp [ne]
  constructor
  case subscribed => rw [fits.subscribed, apart _ rfl]
  case blank => exact fits.blank
  case told =>
    exact fun told => origins_append_ne_nil (fits.told told)
  case ending => exact fun e => by rw [fits.ending, apart _ rfl]
  case waiting =>
    intro absent subscribed
    rw [apart _ rfl] at absent
    rw [fits.waiting absent subscribed, quiet subscribed absent]
  case ended =>
    intro mem
    rw [apart _ rfl] at mem
    exact (fits.ended mem).append fun same => other (same ▸ rfl)
  case received => exact fun w => by rw [fits.received, apart _ rfl]
  case first => exact fits.first
  case returned => exact fun r => by rw [fits.returned, apart _ rfl]
  case result =>
    intro r returned
    rw [apart _ rfl]
    exact fits.result r returned

/-- The first firing reaches a step that has subscribed and has not left. -/
theorem Fits.stopped (fits : Fits log i a) (unfired : origins log = [])
    (subscribed : a.subscription ≠ none) (first : Bool) :
    Fits (log ++ [.fired o first]) i { a with sent := a.sent ++ [.stop o] } := by
  have fired : wakes (log ++ [.fired o first]) = [.stop o] := wakes_append_of_unfired unfired
  constructor
  case subscribed => simpa using fits.subscribed
  case blank => exact fun none => absurd none subscribed
  case told => simp [origins]
  case ending => simpa using fits.ending
  case waiting =>
    intro absent _
    have absent : .done i ∉ log := fun mem => absent (by simp [mem])
    show a.sent ++ [.stop o] = _
    rw [fits.waiting absent subscribed, wakes_of_unfired unfired, fired, List.nil_append]
  case ended =>
    intro mem
    have mem : .done i ∈ log := by simpa using mem
    obtain ⟨pre, post, late, cut, before, after, joined, worked, stays, sent, last⟩ :=
      fits.ended mem
    have none : late = [] := by
      obtain none | ⟨-, some⟩ := last
      · exact none
      · exact some.trans (wakes_of_unfired unfired)
    have quiet : origins pre = [] := by
      rw [cut, origins_append, List.append_eq_nil_iff] at unfired
      exact unfired.1
    refine ⟨pre, post ++ [.fired o first], [.stop o], by simp [cut], before, by simp [after],
      joined, worked, stays, ?_, .inr ⟨quiet, fired.symm⟩⟩
    show a.sent ++ [.stop o] = _
    simp [sent, none]
  case received => simpa using fits.received
  case first =>
    intro w took
    simp [List.head?_append, fits.first w took]
  case returned => simpa using fits.returned
  case result =>
    intro r returned
    obtain ⟨done, result⟩ := fits.result r returned
    rw [Attempt.result?_eq_some_iff] at result ⊢
    obtain ⟨w, e, first, ending, sent, result⟩ := result
    exact ⟨by simp [done], w, e, first, ending, List.mem_append_left _ sent, result⟩

/-- Nothing of a step that has not subscribed is among the events. -/
theorem Fits.absent (fits : Fits log i a) (none : a.subscription = none) :
    (∀ e, .worked i e ∉ log) ∧ .done i ∉ log ∧ (∀ w, .received i w ∉ log) ∧
      ∀ r, .left i r ∉ log := by
  have blank := fits.blank none
  refine ⟨fun e mem => ?_, fun mem => ?_, fun w mem => ?_, fun r mem => ?_⟩
  · rw [← fits.ending, blank] at mem
    cases mem
  · rw [← fits.done_mem_sent, blank] at mem
    cases mem
  · rw [← fits.received, blank] at mem
    cases mem
  · rw [← fits.returned, blank] at mem
    cases mem

/-- A step subscribes; its channel has a stop message at once if one is called for. -/
theorem Fits.subscribe (fits : Fits log i a) (none : a.subscription = none) (entry : Subscription)
    (told : entry = .told → origins log ≠ []) :
    Fits (log ++ [.subscribed i]) i
      { a with subscription := some entry, sent := wakes log } := by
  obtain ⟨unworked, undone, waits, stays⟩ := fits.absent none
  have blank := fits.blank none
  subst blank
  constructor
  case subscribed => simp
  case blank => simp
  case told => exact fun same => origins_append_ne_nil (told (Option.some.inj same))
  case ending => simp [unworked]
  case waiting => exact fun _ _ => (wakes_append_of_silent rfl).symm
  case ended => simp [undone]
  case received => simp [waits]
  case first => simp
  case returned => simp [stays]
  case result => simp

/-- An event of a step that puts nothing on its channel. -/
theorem Fits.proceed {b : Attempt ε α} (fits : Fits log i a) (begun : a.subscription ≠ none)
    (silent : origins [x] = []) (late : x ≠ .subscribed i) (other : x ≠ .done i)
    (subscription : b.subscription = a.subscription) (sent : b.sent = a.sent)
    (ending : ∀ e, b.ending = some e ↔ .worked i e ∈ log ++ [x])
    (received : ∀ w, b.first = some w ↔ .received i w ∈ log ++ [x])
    (first : ∀ w, b.first = some w → a.sent.head? = some w)
    (returned : ∀ r, b.returned = some r ↔ .left i r ∈ log ++ [x])
    (result : ∀ r, b.returned = some r → .done i ∈ log ∧ b.result? = some r) :
    Fits (log ++ [x]) i b := by
  have keeps : .done i ∈ log ++ [x] ↔ .done i ∈ log := by simp [other.symm]
  constructor
  case subscribed =>
    rw [subscription, fits.subscribed]
    simp [late.symm]
  case blank => exact fun none => absurd (subscription ▸ none) begun
  case told => exact fun told => origins_append_ne_nil (fits.told (subscription ▸ told))
  case ending => exact ending
  case waiting =>
    intro undone _
    rw [sent, wakes_append_of_silent silent]
    exact fits.waiting (fun mem => undone (keeps.2 mem)) begun
  case ended =>
    intro mem
    have ended := (fits.ended (keeps.1 mem)).append other
    unfold Ended at ended ⊢
    rwa [sent]
  case received => exact received
  case first => exact fun w took => sent ▸ first w took
  case returned => exact returned
  case result => exact fun r gone => ⟨keeps.2 (result r gone).1, (result r gone).2⟩

/-- The work of a step ends. -/
theorem Fits.work (fits : Fits log i a) (begun : a.subscription ≠ none)
    (working : a.ending = none) (e : Except ε α) :
    Fits (log ++ [.worked i e]) i { a with ending := some e } := by
  have unworked (e' : Except ε α) : .worked i e' ∉ log := by simp [← fits.ending, working]
  refine fits.proceed begun rfl nofun nofun rfl rfl ?ending ?received fits.first ?returned ?result
  case ending => simp [unworked, eq_comm]
  case received => simpa using fits.received
  case returned => simpa using fits.returned
  case result =>
    intro r returned
    obtain ⟨w, e', -, ended, -⟩ := Attempt.result?_eq_some_iff.1 (fits.result r returned).2
    cases working.symm.trans ended

/-- The thread of a step sends its message. -/
theorem Fits.finish (fits : Fits log i a) (ended : a.ending ≠ none) (undone : .done ∉ a.sent) :
    Fits (log ++ [.done i]) i { a with sent := a.sent ++ [.done] } := by
  rw [fits.done_mem_sent] at undone
  have subscribed : a.subscription ≠ none := fun none => ended (by rw [fits.blank none])
  obtain ⟨e, ending⟩ := Option.ne_none_iff_exists'.1 ended
  have stays (r : Except ε (Outcome α)) : a.returned ≠ some r := fun returned =>
    undone (fits.result r returned).1
  constructor
  case subscribed => simpa using fits.subscribed
  case blank => exact fun none => absurd none subscribed
  case told => exact fun told => origins_append_ne_nil (fits.told told)
  case ending => simpa using fits.ending
  case waiting => simp
  case ended =>
    intro _
    refine ⟨log, [], [], rfl, undone, List.not_mem_nil, fits.subscribed.1 subscribed,
      ⟨e, (fits.ending e).1 ending⟩, fun r mem => stays r ((fits.returned r).2 mem), ?_, .inl rfl⟩
    rw [← fits.waiting undone subscribed]
  case received => simpa using fits.received
  case first =>
    intro w took
    simp [List.head?_append, fits.first w took]
  case returned => simpa using fits.returned
  case result => exact fun r returned => absurd returned (stays r)

/-- The caller of a step takes its message. -/
theorem Fits.receive {w : Wake} (fits : Fits log i a) (waits : a.first = none)
    (head : a.sent.head? = some w) :
    Fits (log ++ [.received i w]) i { a with first := some w } := by
  have begun : a.subscription ≠ none := by
    intro none
    rw [fits.blank none] at head
    cases head
  have absent (w' : Wake) : .received i w' ∉ log := by simp [← fits.received, waits]
  refine fits.proceed begun rfl nofun nofun rfl rfl ?ending ?received ?first ?returned ?result
  case ending => simpa using fits.ending
  case received => simp [absent, eq_comm]
  case first => exact fun _ took => Option.some.inj took ▸ head
  case returned => simpa using fits.returned
  case result =>
    intro r returned
    obtain ⟨w, e, took, -⟩ := Attempt.result?_eq_some_iff.1 (fits.result r returned).2
    cases waits.symm.trans took

/-- The caller of a step gets its result. -/
theorem Fits.leave {r : Except ε (Outcome α)} (fits : Fits log i a) (stays : a.returned = none)
    (result : a.result? = some r) : Fits (log ++ [.left i r]) i { a with returned := some r } := by
  obtain ⟨w, e, first, ending, done, -⟩ := Attempt.result?_eq_some_iff.1 result
  have begun : a.subscription ≠ none := by
    intro none
    rw [fits.blank none] at ending
    cases ending
  have absent (r' : Except ε (Outcome α)) : .left i r' ∉ log := by simp [← fits.returned, stays]
  refine fits.proceed begun rfl nofun nofun rfl rfl ?ending ?received fits.first ?returned ?result
  case ending => simpa using fits.ending
  case received => simpa using fits.received
  case returned => simp [absent, eq_comm]
  case result =>
    intro r' same
    cases same
    exact ⟨fits.done_mem_sent.1 done, result⟩

theorem Fits.stop_mem (fits : Fits log i a) (mem : .stop o ∈ a.sent) :
    (origins log).head? = some o := by
  have called {log : List (Event ι ε α)} (mem : .stop o ∈ wakes log) :
      (origins log).head? = some o := by simpa [wakes] using mem
  by_cases blank : a.subscription = none
  · rw [fits.blank blank] at mem
    cases mem
  by_cases done : .done i ∈ log
  · obtain ⟨pre, post, late, cut, -, -, -, -, -, sent, last⟩ := fits.ended done
    have mem : .stop o ∈ wakes pre ∨ .stop o ∈ late := by simpa [sent] using mem
    obtain before | after := mem
    · have first := called before
      have fired : origins pre ≠ [] := by
        intro none
        simp [none] at first
      rw [cut, head?_origins_append fired, first]
    · obtain rfl | ⟨-, rfl⟩ := last
      · cases after
      · exact called after
  · exact called (fits.waiting done blank ▸ mem)

theorem length_wakes_le (log : List (Event ι ε α)) : (wakes log).length ≤ 1 := by
  unfold wakes
  cases (origins log).head? <;> simp

theorem filter_wakes (log : List (Event ι ε α)) :
    (wakes log).filter (· ≠ .done) = wakes log := by
  rw [List.filter_eq_self]
  rintro w mem
  have ne : w ≠ .done := fun same => done_notMem_wakes (same ▸ mem)
  simpa using ne

theorem Fits.stops_le_one (fits : Fits log i a) : (a.sent.filter (· ≠ .done)).length ≤ 1 := by
  by_cases blank : a.subscription = none
  · rw [fits.blank blank]
    exact Nat.zero_le _
  by_cases done : .done i ∈ log
  · obtain ⟨pre, post, late, -, -, -, -, -, -, sent, last⟩ := fits.ended done
    rw [sent, List.filter_append, filter_wakes, List.filter_cons_of_neg (by simp)]
    obtain rfl | ⟨unfired, rfl⟩ := last
    · simpa using length_wakes_le pre
    · rw [filter_wakes, wakes_of_unfired unfired]
      exact length_wakes_le log
  · rw [fits.waiting done blank, filter_wakes]
    exact length_wakes_le log

end Race

end Testbed
