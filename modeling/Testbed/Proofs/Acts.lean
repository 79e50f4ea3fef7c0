import Testbed.Proofs.Growth

/-!
# Sessions as sequences of acts

Whatever a session does is a sequence of acts, each of which its host answers: a call, a pause, a
save and so on. Between the acts a session only reads its own fields. So two sessions that agree in
all but their world do the same, on whatever hosts, for as long as their hosts give the same
answers.

`Traced` says this of one operation at one state, with the policy that its calls and changes keep
to. Operations are put together by `Traced.bind`, and each is described once.
-/

namespace Testbed

/-- Something that a session does. -/
inductive Act
  /-- Ask the provider. -/
  | call (c : Call)
  /-- Let so many seconds pass. -/
  | pause (seconds : Nat)
  /-- Take note of the firings of the stop signal. -/
  | listen
  /-- Change the document and save it. -/
  | save (change : String → StateDocument → StateDocument)
  /-- Write in the journal. -/
  | note (journal : Journal)
  /-- Write the result of a hook. -/
  | write (path body : String)
  /-- See whether the provider can set up GPUs. -/
  | look

/-- What a host answers to an act. -/
@[reducible] def Act.Answer : Act → Type
  | call c => Reply c.Yield
  | pause _ | listen => List StopOrigin
  | save _ => String × Except StoreError Unit
  | note _ => Unit
  | write _ _ => Except FileError Unit
  | look => Bool

theorem StopSignal.fireAll_append (s : StopSignal) (os os' : List StopOrigin) :
    s.fireAll (os ++ os') = (s.fireAll os).fireAll os' := List.foldl_append

/-- A signal remembers the first that fired it. -/
theorem StopSignal.origin_fireAll (s : StopSignal) (os : List StopOrigin) :
    (s.fireAll os).origin = (s.origin.toList ++ os).head? := by
  cases fired : s.origin with
  | some o =>
    rw [fireAll_of_fired fired, fired]
    rfl
  | none =>
    cases os with
    | nil => exact fired
    | cons o os =>
      have first : (s.fire o).origin = some o := by simp [fire, fired]
      show ((s.fire o).fireAll os).origin = _
      rw [fireAll_of_fired first, first]
      rfl

namespace Session

variable {ω : Type} {h : Host ω} {s t : Session ω} {acts rest : List Act}

/-! ## Following acts -/

/-- What the host answers if the session does this now. -/
def answer (h : Host ω) (s : Session ω) : (a : Act) → a.Answer
  | .call c => (h.provider.perform c s.world).1
  | .pause n => (h.pause n s.world).1
  | .listen => h.between s.world
  | .save change =>
    let now := h.now s.world
    (now, (h.save ((change now s.document).touch now) s.world).1)
  | .note _ => ()
  | .write path body => (h.writeResult path body s.world).1
  | .look => h.provider.hasGpu s.world

/-- The session once it has done this. -/
def act (h : Host ω) (s : Session ω) : Act → Session ω
  | .call c => (perform h c s).2
  | .pause n => (s.pause h n).2
  | .listen => s.listen h
  | .save change => (s.update h change).2
  | .note journal => { s with journal := journal }
  | .write path body => { s with world := (h.writeResult path body s.world).2 }
  | .look => s

/-- The session once it has done all this. -/
def follow (h : Host ω) (acts : List Act) (s : Session ω) : Session ω := acts.foldl (act h) s

@[simp] theorem follow_nil (h : Host ω) (s : Session ω) : follow h [] s = s := rfl

@[simp] theorem follow_cons (h : Host ω) (a : Act) (acts : List Act) (s : Session ω) :
    follow h (a :: acts) s = follow h acts (s.act h a) := rfl

theorem follow_append (h : Host ω) (acts rest : List Act) (s : Session ω) :
    follow h (acts ++ rest) s = follow h rest (follow h acts s) := List.foldl_append

/-! ## Firings of the stop signal -/

/-- The firings of the stop signal that the session hears of by this act. -/
def firingsOf (h : Host ω) (s : Session ω) : Act → List StopOrigin
  | .call c => (h.provider.perform c s.world).1.fired
  | .pause n => (h.pause n s.world).1
  | .listen => h.between s.world
  | _ => []

/-- The firings of the stop signal that the session hears of by these acts. -/
def firings (h : Host ω) : List Act → Session ω → List StopOrigin
  | [], _ => []
  | a :: acts, s => firingsOf h s a ++ firings h acts (s.act h a)

theorem stop_act (h : Host ω) (a : Act) (s : Session ω) :
    (s.act h a).stop = s.stop.fireAll (firingsOf h s a) := by
  cases a <;> rfl

theorem stop_follow (h : Host ω) (acts : List Act) (s : Session ω) :
    (follow h acts s).stop = s.stop.fireAll (firings h acts s) := by
  induction acts generalizing s with
  | nil => rfl
  | cons a acts ih => rw [follow_cons, ih, stop_act, firings, StopSignal.fireAll_append]

/-! ## Policies -/

/-- Which calls may be made, by how the stop signal stands, and which changes to the document. -/
structure Policy where
  call : StopSignal → Call → Prop
  change : (String → StateDocument → StateDocument) → Prop

/-- Whether a policy allows an act. -/
def Policy.Allows (P : Policy) (stop : StopSignal) : Act → Prop
  | .call c => P.call stop c
  | .save change => P.change change
  | _ => True

/-- Whether each of these acts is allowed when its turn comes. -/
def Obeys (P : Policy) (h : Host ω) : List Act → Session ω → Prop
  | [], _ => True
  | a :: acts, s => P.Allows s.stop a ∧ Obeys P h acts (s.act h a)

variable {P Q : Policy}

/-- What one policy allows, the other allows, too. -/
structure Policy.Within (P Q : Policy) : Prop where
  call : ∀ stop c, P.call stop c → Q.call stop c
  change : ∀ change, P.change change → Q.change change

theorem Policy.Within.allows (within : P.Within Q) {stop : StopSignal} {a : Act}
    (allowed : P.Allows stop a) : Q.Allows stop a := by
  cases a with
  | call c => exact within.call stop c allowed
  | save change => exact within.change change allowed
  | _ => trivial

theorem Obeys.mono (within : P.Within Q) (obeys : Obeys P h acts s) : Obeys Q h acts s := by
  induction acts generalizing s with
  | nil => trivial
  | cons a acts ih => exact ⟨within.allows obeys.1, ih obeys.2⟩

theorem obeys_append : Obeys P h (acts ++ rest) s ↔
    Obeys P h acts s ∧ Obeys P h rest (follow h acts s) := by
  induction acts generalizing s with
  | nil => exact (iff_of_eq (true_and _)).symm
  | cons a acts ih => exact (and_congr_right fun _ => ih).trans and_assoc.symm

/-- The events that an act adds to the history. -/
def eventsOf (h : Host ω) (s : Session ω) : Act → List Event
  | .call c => [.call c s.document (failureOf (perform h c s).1)]
  | .save change =>
    [.save (s.update h change).2.document (failureOf (s.update h change).1)]
  | _ => []

theorem history_act (h : Host ω) (a : Act) (s : Session ω) :
    (s.act h a).history = s.history ++ eventsOf h s a := by
  cases a with
  | call c => rfl
  | save change => rfl
  | _ => exact (List.append_nil _).symm

/-- **An invariant of all acts that a policy allows** holds in the end, and what it says of the
events of one act holds of all. -/
theorem Obeys.invariant (inv : Session ω → Prop) (ok : Event → Prop)
    (step : ∀ s a, inv s → P.Allows s.stop a → inv (s.act h a) ∧ ∀ e ∈ eventsOf h s a, ok e)
    (obeys : Obeys P h acts s) (holds : inv s) :
    inv (follow h acts s) ∧
      ∃ es, (follow h acts s).history = s.history ++ es ∧ ∀ e ∈ es, ok e := by
  induction acts generalizing s with
  | nil => exact ⟨holds, [], (List.append_nil _).symm, by simp⟩
  | cons a acts ih =>
    obtain ⟨next, first⟩ := step s a holds obeys.1
    obtain ⟨holds', es, grown, all⟩ := ih obeys.2 next
    refine ⟨holds', eventsOf h s a ++ es, ?_, List.forall_mem_append.2 ⟨first, all⟩⟩
    rw [follow_cons, grown, history_act, List.append_assoc]

/-- From `s` to `t` the session has done what a policy allows. -/
def Does (P : Policy) (h : Host ω) (s t : Session ω) : Prop :=
  ∃ acts, Obeys P h acts s ∧ t = follow h acts s

theorem Does.refl (s : Session ω) : Does P h s s := ⟨[], trivial, rfl⟩

theorem Does.trans {u : Session ω} (first : Does P h s t) (rest : Does P h t u) :
    Does P h s u := by
  obtain ⟨acts, obeys, rfl⟩ := first
  obtain ⟨acts', obeys', rfl⟩ := rest
  exact ⟨acts ++ acts', obeys_append.2 ⟨obeys, obeys'⟩, (follow_append ..).symm⟩

theorem Does.mono (within : P.Within Q) (does : Does P h s t) : Does Q h s t := by
  obtain ⟨acts, obeys, rfl⟩ := does
  exact ⟨acts, obeys.mono within, rfl⟩

/-- What holds of all that a policy allows holds of what was done. -/
theorem Does.invariant (inv : Session ω → Prop) (ok : Event → Prop) (does : Does P h s t)
    (step : ∀ s a, inv s → P.Allows s.stop a → inv (s.act h a) ∧ ∀ e ∈ eventsOf h s a, ok e)
    (holds : inv s) : inv t ∧ ∃ es, t.history = s.history ++ es ∧ ∀ e ∈ es, ok e := by
  obtain ⟨acts, obeys, rfl⟩ := does
  exact obeys.invariant inv ok step holds

/-- A stop signal that was heard is not forgotten. -/
theorem calm_of_does (does : Does P h s t) (calm : t.stop.origin = none) :
    s.stop.origin = none := by
  obtain ⟨acts, -, rfl⟩ := does
  rw [stop_follow, StopSignal.origin_fireAll, List.head?_eq_none_iff, List.append_eq_nil_iff,
    Option.toList_eq_nil_iff] at calm
  exact calm.1

/-! ## Twins -/

variable {ω' : Type} {h' : Host ω'} {s' t' : Session ω'}

/-- Two sessions, perhaps on different hosts, that have come to the same point. They may differ in
what their configurations say about failed provisioning. -/
structure Twin (s : Session ω) (s' : Session ω') : Prop where
  config : s'.config = { s.config with onFailure := s'.config.onFailure }
  writable : s'.writable = s.writable
  registry : s'.registry = s.registry
  document : s'.document = s.document
  journal : s'.journal = s.journal
  stop : s'.stop = s.stop
  history : s'.history = s.history

theorem Twin.refl (s : Session ω) : Twin s s := ⟨rfl, rfl, rfl, rfl, rfl, rfl, rfl⟩

/-- Both hosts answer all these acts alike. -/
def SameAnswers (h : Host ω) (h' : Host ω') : List Act → Session ω → Session ω' → Prop
  | [], _, _ => True
  | a :: acts, s, s' =>
    answer h s a = answer h' s' a ∧ SameAnswers h h' acts (s.act h a) (s'.act h' a)

theorem sameAnswers_append : SameAnswers h h' (acts ++ rest) s s' ↔
    SameAnswers h h' acts s s' ∧ SameAnswers h h' rest (follow h acts s) (follow h' acts s') := by
  induction acts generalizing s s' with
  | nil => exact (iff_of_eq (true_and _)).symm
  | cons a acts ih => exact (and_congr_right fun _ => ih).trans and_assoc.symm

/-- Twins whose hosts answer an act alike remain twins. -/
theorem Twin.act (twin : Twin s s') {a : Act} (same : answer h s a = answer h' s' a) :
    Twin (s.act h a) (s'.act h' a) := by
  have stop (os : List StopOrigin) : s'.stop.fireAll os = s.stop.fireAll os := by rw [twin.stop]
  cases a with
  | call c =>
    refine { twin with stop := ?_, history := ?_ }
    · show s'.stop.fireAll (answer h' s' (.call c)).fired = _
      rw [← same]
      exact stop _
    · show s'.history ++ [Event.call c s'.document (failureOf (answer h' s' (.call c)).result)] = _
      rw [← same, twin.history, twin.document]
      rfl
  | pause n =>
    refine { twin with stop := ?_ }
    show s'.stop.fireAll (answer h' s' (.pause n)) = _
    rw [← same]
    exact stop _
  | listen =>
    refine { twin with stop := ?_ }
    show s'.stop.fireAll (answer h' s' .listen) = _
    rw [← same]
    exact stop _
  | save change =>
    obtain ⟨now, result⟩ := Prod.mk.inj same
    refine { twin with document := ?_, history := ?_ }
    · show (change (h'.now s'.world) s'.document).touch (h'.now s'.world) = _
      rw [← now, twin.document]
      rfl
    · show s'.history ++ [Event.save ((change (h'.now s'.world) s'.document).touch
        (h'.now s'.world)) (failureOf (answer h' s' (.save change)).2)] = _
      rw [← same, ← now, twin.history, twin.document]
      rfl
  | note journal => exact { twin with journal := rfl }
  | write path body => exact { twin with }
  | look => exact twin

theorem Twin.follow (twin : Twin s s') (same : SameAnswers h h' acts s s') :
    Twin (follow h acts s) (follow h' acts s') := by
  induction acts generalizing s s' with
  | nil => exact twin
  | cons a acts ih => exact ih (twin.act same.1) same.2

/-- Twins in the same world of one host get the same answers. -/
theorem Twin.sameAnswers {s' : Session ω} (twin : Twin s s') (world : s'.world = s.world)
    (acts : List Act) : SameAnswers h h acts s s' := by
  induction acts generalizing s s' with
  | nil => trivial
  | cons a acts ih =>
    have same : answer h s a = answer h s' a := by
      cases a with
      | save change => simp only [answer, world, twin.document]
      | _ => simp only [answer, world]
    refine ⟨same, ih (twin.act same) ?_⟩
    cases a with
    | save change =>
      show (h.save ((change (h.now s'.world) s'.document).touch (h.now s'.world)) s'.world).2 = _
      rw [world, twin.document]
      rfl
    | call c =>
      show (h.provider.perform c s'.world).2 = _
      rw [world]
      rfl
    | pause n =>
      show (h.pause n s'.world).2 = _
      rw [world]
      rfl
    | write path body =>
      show (h.writeResult path body s'.world).2 = _
      rw [world]
      rfl
    | _ => exact world

/-! ## Traced operations -/

variable {α β : Type}

/-- An operation of sessions on whatever host. -/
abbrev Program (α : Type) := ⦃ω : Type⦄ → Host ω → Session ω → α × Session ω

/-- What an operation does at a state is these acts, which obey a policy; it does the same and gives
the same at every twin whose host gives the same answers. -/
structure Performs (P : Policy) (op : Program α) (h : Host ω) (s : Session ω) (acts : List Act) :
    Prop where
  obeys : Obeys P h acts s
  ends : (op h s).2 = follow h acts s
  same : ∀ ⦃ω' : Type⦄ (h' : Host ω') (s' : Session ω'), Twin s s' →
    SameAnswers h h' acts s s' →
      (op h' s').1 = (op h s).1 ∧ (op h' s').2 = Session.follow h' acts s'

/-- What an operation does at a state is a sequence of acts that obey a policy. -/
def Traced (P : Policy) (op : Program α) (h : Host ω) (s : Session ω) : Prop :=
  ∃ acts, Performs P op h s acts

theorem Traced.mono {op : Program α} (within : P.Within Q) (traced : Traced P op h s) :
    Traced Q op h s := by
  obtain ⟨acts, obeys, ends, same⟩ := traced
  exact ⟨acts, obeys.mono within, ends, same⟩

theorem Traced.does {op : Program α} (traced : Traced P op h s) : Does P h s (op h s).2 := by
  obtain ⟨acts, obeys, ends, -⟩ := traced
  exact ⟨acts, obeys, ends⟩

/-- Operations that are the same at all twins are traced alike. -/
theorem Traced.congr {op op' : Program α}
    (eq : ∀ ⦃ω' : Type⦄ (h' : Host ω') (s' : Session ω'), Twin s s' → op h' s' = op' h' s')
    (traced : Traced P op' h s) : Traced P op h s := by
  obtain ⟨acts, obeys, ends, same⟩ := traced
  refine ⟨acts, obeys, by rw [eq h s (.refl s), ends], fun ω' h' s' twin answers => ?_⟩
  rw [eq h' s' twin, eq h s (.refl s)]
  exact same h' s' twin answers

theorem Traced.pure (a : α) : Traced P (fun _ _ s => (a, s)) h s :=
  ⟨[], trivial, rfl, fun _ _ _ _ _ => ⟨rfl, rfl⟩⟩

/-- One operation after the other. -/
theorem Traced.bind {p : Program α} {q : α → Program β} (first : Traced P p h s)
    (rest : Traced P (q (p h s).1) h (p h s).2) :
    Traced P (fun _ h s => q (p h s).1 h (p h s).2) h s := by
  obtain ⟨acts, obeys, ends, same⟩ := first
  obtain ⟨acts', obeys', ends', same'⟩ := rest
  rw [ends] at obeys' ends'
  refine ⟨acts ++ acts', obeys_append.2 ⟨obeys, obeys'⟩, ?_, ?_⟩
  · show (q (p h s).1 h (p h s).2).2 = _
    rw [ends, ends', follow_append]
  · intro ω' h' s' twin answers
    obtain ⟨before, after⟩ := sameAnswers_append.1 answers
    obtain ⟨result, ended⟩ := same h' s' twin before
    have twin' : Twin (p h s).2 (p h' s').2 := by
      rw [ends, ended]
      exact twin.follow before
    have answers' : SameAnswers h h' acts' (p h s).2 (p h' s').2 := by rwa [ends, ended]
    obtain ⟨result', ended'⟩ := same' h' (p h' s').2 twin' answers'
    refine ⟨?_, ?_⟩
    · show (q (p h' s').1 h' (p h' s').2).1 = _
      rw [result, result']
    · show (q (p h' s').1 h' (p h' s').2).2 = _
      rw [result, ended', ended, follow_append]

/-- One operation after the other, the second whatever the first has done. -/
theorem Traced.andThen {p : Program α} {q : α → Program β} (first : Traced P p h s)
    (rest : ∀ a t, Traced P (q a) h t) :
    Traced P (fun _ h s => q (p h s).1 h (p h s).2) h s :=
  first.bind (rest _ _)

/-! ## Single acts -/

/-- An operation that is one act, and whose result is part of the answer. -/
theorem traced_act {op : Program α} (a : Act) (result : a.Answer → StopSignal → α)
    (allowed : P.Allows s.stop a)
    (eq : ∀ ⦃ω' : Type⦄ (h' : Host ω') (s' : Session ω'),
      op h' s' = (result (answer h' s' a) s'.stop, s'.act h' a)) : Traced P op h s := by
  refine ⟨[a], ⟨allowed, trivial⟩, by rw [eq]; rfl, fun ω' h' s' twin answers => ?_⟩
  rw [eq, eq, ← answers.1, twin.stop]
  exact ⟨rfl, rfl⟩

theorem traced_perform (c : Call) (allowed : P.call s.stop c) :
    Traced P (fun _ h => perform h c) h s :=
  traced_act (.call c) (fun reply _ => reply.result) allowed fun _ _ _ => rfl

theorem traced_pause (n : Nat) : Traced P (fun _ h s => s.pause h n) h s :=
  traced_act (.pause n) (fun fired stop => (stop.fireAll fired).pauseEnd) trivial fun _ _ _ => rfl

theorem traced_listen : Traced P (fun _ h s => ((), s.listen h)) h s :=
  traced_act .listen (fun _ _ => ()) trivial fun _ _ _ => rfl

theorem traced_update (change : String → StateDocument → StateDocument)
    (allowed : P.change change) : Traced P (fun _ h s => s.update h change) h s :=
  traced_act (.save change) (fun answer _ => answer.2) allowed fun _ _ _ => rfl

theorem traced_look : Traced P (fun _ h s => (h.provider.hasGpu s.world, s)) h s :=
  traced_act .look (fun available _ => available) trivial fun _ _ _ => rfl

/-- Writing in the journal. -/
theorem traced_note (write : Journal → Journal) (a : α) :
    Traced P (fun _ _ s => (a, { s with journal := write s.journal })) h s := by
  have written : Traced P (fun _ _ s' => (a, { s' with journal := write s.journal })) h s :=
    traced_act (.note (write s.journal)) (fun _ _ => a) trivial fun _ _ _ => rfl
  exact written.congr fun _ _ s' twin => by rw [twin.journal]

end Session

end Testbed
