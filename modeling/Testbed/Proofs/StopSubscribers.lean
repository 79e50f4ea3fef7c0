import Testbed.Proofs.StopChannels

/-!
# The subscribers of the signal

A firing reaches a step through the list of subscribers. A step stands in it under a number of its
own, from its subscription until it leaves, unless the signal has fired before (`Kept.listed`). So
a firing puts its message on just those channels that have none and still want one, and a step that
leaves takes off its own entry and no other. With that, what each channel holds is kept by every
event (`Kept.next`), hence by every run (`Kept.run`).
-/

namespace Testbed

namespace Race

variable {ι ε α : Type} {log more : List (Event ι ε α)} {x : Event ι ε α}
variable {i j : ι} {a : Attempt ε α}

/-- The number under which a step stands in the list of subscribers: from its subscription until it
leaves, unless the signal has fired. -/
def number? (a : Attempt ε α) (signal : StopSignal) : Option Nat :=
  match a.subscription, signal.origin, a.returned with
  | some (.entered id), none, none => some id
  | _, _, _ => none

theorem number?_eq_some_iff {signal : StopSignal} {id : Nat} : number? a signal = some id ↔
    a.subscription = some (.entered id) ∧ signal.origin = none ∧ a.returned = none := by
  unfold number?
  split
  next subscription origin returned => simp [subscription, origin, returned]
  next other =>
    constructor
    · intro none
      cases none
    · rintro ⟨subscription, origin, returned⟩
      exact (other id subscription origin returned).elim

/-- A step stands in the list until its work has sent its message, as long as nothing has fired. -/
theorem Fits.number?_ne_none {signal : StopSignal} (fits : Fits log i a)
    (begun : a.subscription ≠ none) (undone : .done i ∉ log) (unfired : origins log = [])
    (still : signal.origin = none) : number? a signal ≠ none := by
  obtain ⟨entry, subscription⟩ := Option.ne_none_iff_exists'.1 begun
  cases entry with
  | told => exact absurd unfired (fits.told subscription)
  | entered id =>
    have stays : a.returned = none := by
      cases returned : a.returned with
      | none => rfl
      | some r => exact absurd (fits.result r returned).1 undone
    rw [number?_eq_some_iff.2 ⟨subscription, still, stays⟩]
    nofun

variable [DecidableEq ι] {s : Race ι ε α}

/-- The signal of a race knows the firings. -/
theorem signal_next (s : Race ι ε α) (x : Event ι ε α) :
    (s.next x).signal = s.signal.fireAll (origins [x]) := by
  cases x with
  | fired o first =>
    show (s.fire o).signal = s.signal.fire o
    unfold fire StopSignal.isFired
    cases fired : s.signal.origin with
    | some p => simp [StopSignal.fire_origin_of_fired fired]
    | none => simp
  | subscribed i =>
    show (s.subscribe i).signal = s.signal
    unfold subscribe
    split <;> rfl
  | left i r =>
    show (s.unsubscribe i).signal = s.signal
    unfold unsubscribe
    split <;> rfl
  | _ => rfl

theorem signal_run (s : Race ι ε α) (log : List (Event ι ε α)) :
    (s.run log).signal = s.signal.fireAll (origins log) := by
  induction log generalizing s with
  | nil => rfl
  | cons x log ih =>
    rw [run, List.foldl_cons, ← run, ih, signal_next, ← StopSignal.fireAll_append, ← origins_cons]

/-- What holds of a race after the events `log`. -/
structure Kept (log : List (Event ι ε α)) (s : Race ι ε α) : Prop where
  origin : s.signal.origin = (origins log).head?
  numbered : ∀ i id, (s.attempt i).subscription = some (.entered id) → id < s.nextId
  apart : ∀ i j id, (s.attempt i).subscription = some (.entered id) →
    (s.attempt j).subscription = some (.entered id) → i = j
  listed : ∀ i, s.subscribers.filter (fun entry => entry.2 = i) =
    (number? (s.attempt i) s.signal).toList.map fun id => (id, i)
  fits : ∀ i, Fits log i (s.attempt i)

theorem Kept.nil : Kept [] ({} : Race ι ε α) where
  origin := rfl
  numbered := nofun
  apart := nofun
  listed _ := rfl
  fits := Fits.nil

@[simp] theorem set_attempt_self (s : Race ι ε α) (i : ι) (a : Attempt ε α) :
    (s.set i a).attempt i = a := by simp [set]

theorem set_attempt_of_ne (s : Race ι ε α) (a : Attempt ε α) (ne : j ≠ i) :
    (s.set i a).attempt j = s.attempt j := by simp [set, ne]

/-- Who stands in the list is there under the number of its subscription. -/
theorem Kept.entered (kept : Kept log s) {entry : Nat × ι} (mem : entry ∈ s.subscribers) :
    number? (s.attempt entry.2) s.signal = some entry.1 := by
  have mine : entry ∈ s.subscribers.filter fun e => e.2 = entry.2 := by simp [mem]
  rw [kept.listed, List.mem_map] at mine
  obtain ⟨id, listed, same⟩ := mine
  rw [← same]
  simpa using listed

theorem Kept.fits_set (kept : Kept log s) (own : x.step? = some i) (silent : origins [x] = [])
    {b : Attempt ε α} (fits : Fits (log ++ [x]) i b) (j : ι) :
    Fits (log ++ [x]) j ((s.set i b).attempt j) := by
  by_cases same : j = i
  · subst same
    simpa using fits
  · rw [set_attempt_of_ne s b same]
    refine (kept.fits j).frame ?_ fun _ _ => wakes_append_of_silent silent
    rw [own]
    exact fun other => same (Option.some.inj other).symm

theorem Kept.origin_append (kept : Kept log s) (silent : origins [x] = []) :
    s.signal.origin = (origins (log ++ [x])).head? := by
  simpa [silent] using kept.origin

theorem entered_set {b : Attempt ε α} (entered : ∀ id, b.subscription = some (.entered id) ↔
    (s.attempt i).subscription = some (.entered id)) (j : ι) (id : Nat) :
    ((s.set i b).attempt j).subscription = some (.entered id) ↔
      (s.attempt j).subscription = some (.entered id) := by
  by_cases same : j = i
  · subst same
    simpa using entered id
  · rw [set_attempt_of_ne s b same]

/-- An event that only one step sees. -/
theorem Kept.set (kept : Kept log s) (own : x.step? = some i) (silent : origins [x] = [])
    {b : Attempt ε α} (fits : Fits (log ++ [x]) i b)
    (entered : ∀ id, b.subscription = some (.entered id) ↔
      (s.attempt i).subscription = some (.entered id))
    (returned : b.returned = (s.attempt i).returned) : Kept (log ++ [x]) (s.set i b) := by
  have same := entered_set entered
  have stays (j : ι) : ((s.set i b).attempt j).returned = (s.attempt j).returned := by
    by_cases same : j = i
    · subst same
      simpa using returned
    · rw [set_attempt_of_ne s b same]
  have entry (j : ι) :
      number? ((s.set i b).attempt j) s.signal = number? (s.attempt j) s.signal := by
    ext id
    rw [number?_eq_some_iff, number?_eq_some_iff, same, stays]
  exact {
    origin := kept.origin_append silent
    numbered := fun j id entered => kept.numbered j id ((same j id).1 entered)
    apart := fun j k id left right => kept.apart j k id ((same j id).1 left) ((same k id).1 right)
    listed := fun j => (kept.listed j).trans (by rw [← entry j]; rfl)
    fits := kept.fits_set own silent fits }

theorem Kept.fire (kept : Kept log s) (o : StopOrigin) (first : Bool) :
    Kept (log ++ [.fired o first]) (s.fire o) := by
  have nobody (i : ι) : (Event.fired o first : Event ι ε α).step? ≠ some i :=
    fun own => by cases own
  unfold Race.fire
  split
  next fired =>
    have fired : origins log ≠ [] := by
      intro unfired
      simp [StopSignal.isFired, kept.origin, unfired] at fired
    have same : wakes (log ++ [.fired o first]) = wakes log := wakes_append_of_fired fired
    exact { kept with
      origin := kept.origin.trans (head?_origins_append fired).symm
      fits := fun i => (kept.fits i).frame (nobody i) fun _ _ => same }
  next still =>
    have still : s.signal.origin = none := by simpa [StopSignal.isFired] using still
    have unfired : origins log = [] := by simpa [still] using kept.origin.symm
    exact {
      origin := by simp [StopSignal.fire, still, unfired]
      numbered := kept.numbered
      apart := kept.apart
      listed := fun i => by simp [number?, StopSignal.fire, still]
      fits := by
        intro i
        have fits := kept.fits i
        show Fits _ i { s.attempt i with sent := _ }
        rw [kept.listed]
        cases entry : number? (s.attempt i) s.signal with
        | some id =>
          have begun : (s.attempt i).subscription ≠ none := by
            rw [(number?_eq_some_iff.1 entry).1]
            exact Option.some_ne_none _
          exact fits.stopped unfired begun first
        | none =>
          simp only [Option.toList_none, List.map_nil, List.append_nil]
          exact fits.frame (nobody i) fun begun undone =>
            absurd (fits.number?_ne_none begun undone unfired still) (not_not_intro entry) }

/-- A step that subscribes before the signal fires goes into the list under a number of its own. -/
theorem Kept.enter (kept : Kept log s) (none : (s.attempt i).subscription = none)
    (still : s.signal.origin = .none) : Kept (log ++ [.subscribed i])
      { s.set i { s.attempt i with subscription := some (.entered s.nextId) } with
        subscribers := s.subscribers ++ [(s.nextId, i)]
        nextId := s.nextId + 1 } := by
  have blank := (kept.fits i).blank none
  have unfired : origins log = [] := by simpa [still] using kept.origin.symm
  have after := (kept.fits i).subscribe none (.entered s.nextId) nofun
  have called : wakes log = (s.attempt i).sent := by simp [wakes_of_unfired unfired, blank]
  rw [called] at after
  let b : Attempt ε α := { s.attempt i with subscription := some (.entered s.nextId) }
  have entered (j : ι) (id : Nat) : ((s.set i b).attempt j).subscription = some (.entered id) ↔
      j = i ∧ id = s.nextId ∨ j ≠ i ∧ (s.attempt j).subscription = some (.entered id) := by
    by_cases same : j = i
    · subst same
      simp [b, eq_comm]
    · simp [set_attempt_of_ne s b same, same]
  constructor
  case origin => exact kept.origin_append rfl
  case numbered =>
    intro j id new
    obtain ⟨-, rfl⟩ | ⟨-, old⟩ := (entered j id).1 new
    · exact Nat.lt_succ_self _
    · exact Nat.lt_succ_of_lt (kept.numbered j id old)
  case apart =>
    intro j k id left right
    obtain ⟨rfl, rfl⟩ | ⟨-, oldLeft⟩ := (entered j id).1 left
    · obtain ⟨rfl, -⟩ | ⟨-, oldRight⟩ := (entered k _).1 right
      · rfl
      · exact absurd (kept.numbered k _ oldRight) (Nat.lt_irrefl _)
    · obtain ⟨rfl, rfl⟩ | ⟨-, oldRight⟩ := (entered k id).1 right
      · exact absurd (kept.numbered j _ oldLeft) (Nat.lt_irrefl _)
      · exact kept.apart j k id oldLeft oldRight
  case listed =>
    intro j
    show (s.subscribers ++ [(s.nextId, i)]).filter _ =
      (number? ((s.set i b).attempt j) s.signal).toList.map _
    rw [List.filter_append, kept.listed]
    by_cases same : j = i
    · subst same
      simp [b, blank, number?, still]
    · simp [set_attempt_of_ne s b same, Ne.symm same]
  case fits => exact kept.fits_set rfl rfl after

theorem Kept.subscribe (kept : Kept log s) (none : (s.attempt i).subscription = none) :
    Kept (log ++ [.subscribed i]) (s.subscribe i) := by
  unfold Race.subscribe
  split
  next o fired =>
    have first : (origins log).head? = some o := kept.origin.symm.trans fired
    have nonempty : origins log ≠ [] := by
      intro unfired
      simp [unfired] at first
    have after := (kept.fits i).subscribe none .told fun _ => nonempty
    have called : wakes log = (s.attempt i).sent ++ [.stop o] := by
      simp [wakes, first, (kept.fits i).blank none]
    rw [called] at after
    exact kept.set rfl rfl after (by simp [none]) rfl
  next still => exact kept.enter none still

/-- A step that drops its subscription takes its own entry off the list, and no other. -/
theorem Kept.filter_unsubscribe (kept : Kept log s) (i j : ι) :
    (s.unsubscribe i).subscribers.filter (fun entry => entry.2 = j) =
      if j = i then [] else s.subscribers.filter fun entry => entry.2 = j := by
  have own (entry : Nat × ι) (mem : entry ∈ s.subscribers) :
      (s.attempt entry.2).subscription = some (.entered entry.1) :=
    (number?_eq_some_iff.1 (kept.entered mem)).1
  unfold unsubscribe
  split
  next id entered =>
    show (s.subscribers.filter _).filter _ = _
    rw [List.filter_filter]
    by_cases same : j = i
    · subst same
      rw [if_pos rfl, List.filter_eq_nil_iff]
      rintro entry mem
      have mine : entry.2 = j → entry.1 = id := by
        intro mine
        have number := own entry mem
        rw [mine, entered] at number
        cases number
        rfl
      simpa using mine
    · rw [if_neg same]
      refine List.filter_congr fun entry mem => ?_
      have other : entry.2 = j → entry.1 ≠ id := by
        rintro rfl rfl
        exact same (kept.apart _ _ _ (own entry mem) entered)
      simpa using other
  next missing =>
    by_cases same : j = i
    · subst same
      rw [if_pos rfl, List.filter_eq_nil_iff]
      intro entry mem mine
      have mine : entry.2 = j := by simpa using mine
      exact missing _ (mine ▸ own entry mem)
    · rw [if_neg same]

theorem Kept.leave (kept : Kept log s) {r : Except ε (Outcome α)}
    (stays : (s.attempt i).returned = none) (result : (s.attempt i).result? = some r) :
    Kept (log ++ [.left i r])
      ((s.unsubscribe i).set i { s.attempt i with returned := some r }) := by
  have filtered := kept.filter_unsubscribe i
  have rest : s.unsubscribe i = { s with subscribers := (s.unsubscribe i).subscribers } := by
    unfold unsubscribe
    split <;> rfl
  rw [rest]
  have same := entered_set (s := s) (b := { s.attempt i with returned := some r }) fun _ => .rfl
  constructor
  case origin => exact kept.origin_append rfl
  case numbered => exact fun j id entered => kept.numbered j id ((same j id).1 entered)
  case apart =>
    exact fun j k id left right => kept.apart j k id ((same j id).1 left) ((same k id).1 right)
  case listed =>
    intro j
    refine (filtered j).trans ?_
    show _ = (number? ((s.set i { s.attempt i with returned := some r }).attempt j)
      s.signal).toList.map _
    by_cases same : j = i
    · subst same
      simp [number?]
    · rw [if_neg same, set_attempt_of_ne s _ same, kept.listed]
  case fits => exact kept.fits_set rfl rfl ((kept.fits i).leave stays result)

/-- **One event keeps what holds of a race.** -/
theorem Kept.next (kept : Kept log s) (admits : s.Admits x) : Kept (log ++ [x]) (s.next x) := by
  cases x with
  | fired o first => exact kept.fire o first
  | subscribed i => exact kept.subscribe admits
  | worked i e =>
    exact kept.set rfl rfl ((kept.fits i).work admits.1 admits.2 e) (fun _ => .rfl) rfl
  | done i => exact kept.set rfl rfl ((kept.fits i).finish admits.1 admits.2) (fun _ => .rfl) rfl
  | received i w =>
    exact kept.set rfl rfl ((kept.fits i).receive admits.1 admits.2) (fun _ => .rfl) rfl
  | left i r => exact kept.leave admits.1 admits.2

theorem Kept.run (kept : Kept log s) (admits : s.AdmitsAll more) :
    Kept (log ++ more) (s.run more) := by
  induction more generalizing log s with
  | nil => simpa [Race.run] using kept
  | cons x more ih =>
    rw [← List.singleton_append, ← List.append_assoc]
    exact ih (kept.next admits.1) admits.2

end Race

end Testbed
