import Testbed.Proofs.Flags
import Testbed.Proofs.Growth

/-!
# What a session can do to its document

A `Move` is the smallest thing a session does that leaves its books in order: a pause, a call that
creates or deletes nothing, a creation or deletion together with the save that records it, or the
marking of the environment as up or down. It says which records and events it adds and under which
guard it is made.

Everything a session does is a sequence of moves. Invariants of the document, the journal and the
history are therefore proved for one move and hold for every run.
-/

namespace Testbed

/-- What stands somewhere in a list that was put together stands in its first part or its second. -/
theorem append_eq_append_cons {α : Type} {l l' before after : List α} {a : α}
    (split : l ++ l' = before ++ a :: after) :
    (∃ mid, l = before ++ a :: mid ∧ after = mid ++ l') ∨
      ∃ mid, before = l ++ mid ∧ l' = mid ++ a :: after := by
  rcases List.append_eq_append_iff.1 split with second | ⟨mid, first, tail⟩
  · exact .inr second
  · cases mid with
    | nil => exact .inr ⟨[], by simpa using first.symm, tail.symm⟩
    | cons b mid =>
      obtain ⟨rfl, after⟩ := List.cons.inj tail
      exact .inl ⟨mid, first, after⟩

/-- The document in memory when something was done to the host. -/
def Event.document : Event → StateDocument
  | .call _ d _ => d
  | .save d _ => d

/-- The component that an event asks to create. -/
def Event.creation? : Event → Option Component
  | .call (.create k) _ _ => some k
  | _ => none

/-- The component that an event asks to delete. -/
def Event.deletion? : Event → Option Component
  | .call (.delete k) _ _ => some k
  | _ => none

/-- Whether an event is a successful creation (`true`) or deletion (`false`) of a component. -/
def Event.turn? (k : Component) : Event → Option Bool
  | .call (.create c) _ none => if c = k then some true else none
  | .call (.delete c) _ none => if c = k then some false else none
  | _ => none

/-- The successful creations (`true`) and deletions (`false`) of a component, in order. -/
def turns (k : Component) (es : List Event) : List Bool := es.filterMap (Event.turn? k)

@[simp] theorem turns_append (k : Component) (es es' : List Event) :
    turns k (es ++ es') = turns k es ++ turns k es' := List.filterMap_append ..

@[simp] theorem turns_nil (k : Component) : turns k [] = [] := rfl

@[simp] theorem turns_save (k : Component) (d : StateDocument) (f : Option StoreError)
    (es : List Event) : turns k (.save d f :: es) = turns k es := rfl

@[simp] theorem turns_create (k c : Component) (d : StateDocument) (es : List Event) :
    turns k (.call (.create c) d none :: es) =
      if c = k then true :: turns k es else turns k es := by
  unfold turns
  by_cases hc : c = k <;> simp [Event.turn?, hc]

@[simp] theorem turns_delete (k c : Component) (d : StateDocument) (es : List Event) :
    turns k (.call (.delete c) d none :: es) =
      if c = k then false :: turns k es else turns k es := by
  unfold turns
  by_cases hc : c = k <;> simp [Event.turn?, hc]

/-- A component that no call is about takes no turn. -/
theorem turns_eq_nil {k : Component} {es : List Event}
    (creations : k ∉ es.filterMap Event.creation?) (deletions : k ∉ es.filterMap Event.deletion?) :
    turns k es = [] := by
  refine List.filterMap_eq_nil_iff.2 fun e he => ?_
  have created := fun h => creations (List.mem_filterMap.2 ⟨e, he, h⟩)
  have deleted := fun h => deletions (List.mem_filterMap.2 ⟨e, he, h⟩)
  cases e with
  | save d f => rfl
  | call c d f =>
    cases c with
    | create c =>
      cases f with
      | none => exact if_neg fun hc => created (congrArg some hc)
      | some e => rfl
    | delete c =>
      cases f with
      | none => exact if_neg fun hc => deleted (congrArg some hc)
      | some e => rfl
    | _ => rfl

/-- A component has taken a turn if it was created, or deleted. -/
theorem mem_turns {k : Component} {es : List Event} {b : Bool} :
    b ∈ turns k es ↔ ∃ d, .call (if b then .create k else .delete k) d none ∈ es := by
  constructor
  · intro taken
    obtain ⟨e, he, turn⟩ := List.mem_filterMap.1 taken
    cases e with
    | save d f => cases turn
    | call c d f =>
      cases f with
      | some e => cases c <;> cases turn
      | none =>
        cases c with
        | create k' =>
          by_cases same : k' = k
          · simp only [Event.turn?, same, if_true, Option.some.injEq] at turn
            exact ⟨d, by simpa [← turn, ← same] using he⟩
          · simp [Event.turn?, same] at turn
        | delete k' =>
          by_cases same : k' = k
          · simp only [Event.turn?, same, if_true, Option.some.injEq] at turn
            exact ⟨d, by simpa [← turn, ← same] using he⟩
          · simp [Event.turn?, same] at turn
        | _ => cases turn
  · rintro ⟨d, he⟩
    refine List.mem_filterMap.2 ⟨_, he, ?_⟩
    cases b <;> simp [Event.turn?]

/-- Whether a component was created. -/
def WasCreated (k : Component) (es : List Event) : Prop := ∃ d, .call (.create k) d none ∈ es

theorem true_mem_turns {k : Component} {es : List Event} : true ∈ turns k es ↔ WasCreated k es :=
  mem_turns

theorem false_mem_turns {k : Component} {es : List Event} :
    false ∈ turns k es ↔ ∃ d, .call (.delete k) d none ∈ es :=
  mem_turns

/-- Where nothing is deleted, all turns are creations. -/
theorem turns_of_creations {k : Component} {es : List Event}
    (deletions : es.filterMap Event.deletion? = []) : ∀ b ∈ turns k es, b = true := by
  rintro (_ | _) taken
  · obtain ⟨d, mem⟩ := false_mem_turns.1 taken
    cases List.filterMap_eq_nil_iff.1 deletions _ mem
  · rfl

/-- Whether a call leaves all components as they are. -/
def Call.isHarmless : Call → Bool
  | .create _ | .delete _ => false
  | _ => true

/-- What counts as the failure of a step whose call failed in this way: that a hook's command
fails is no failure of the step. -/
def Call.stepFailure : Call → Option ProviderError → Option ProviderError
  | .run _ _, _ => none
  | _, f => f

/-- A record of a step that failed in this way, or was interrupted. -/
def Record.Reports (r : Record) (f : Option ProviderError) : Prop :=
  r = .ofStep r.saga r.name f ∨ r = .closed .up .step r.name .interrupted none

theorem Record.reports_ofStep (saga : Saga) (name : String) (f : Option ProviderError) :
    (Record.ofStep saga name f).Reports f := by
  cases f <;> exact .inl rfl

theorem Record.reports_interrupted (name : String) (f : Option ProviderError) :
    (Record.closed .up .step name .interrupted none).Reports f := .inr rfl

namespace Session

variable {ω : Type} {h : Host ω} {s t u : Session ω} {rs rs' : List Record} {es es' : List Event}
  {c : Config} {d d' d'' : StateDocument}

/-! ## Moves -/

/-- Under the configuration `c`, a session takes its document from one state to the other and
adds these records and events. -/
inductive Move (c : Config) :
    StateDocument → List Record → List Event → StateDocument → Prop
  | pause {d : StateDocument} {saga : Saga} {reason : SettleReason} {ended : PauseEnd} :
      Move c d [.closed saga .settle reason.text (statusOf ended) none] [] d
  | query {d : StateDocument} {call : Call} {f : Option ProviderError}
      (harmless : call.isHarmless = true) : Move c d [] [.call call d f] d
  /-- Only a health check is tried again within one step. -/
  | step {d : StateDocument} {call : Call} {f : Option ProviderError} {r : Record}
      {tries : List ProviderError} (harmless : call.isHarmless = true)
      (once : call ≠ .checkHealth → tries = []) (reports : r.Reports (call.stepFailure f)) :
      Move c d [r] ((tries.map fun e => .call call d (some e)) ++ [.call call d f]) d
  | createFailed {d : StateDocument} {k : Component} {r : Record} {e : ProviderError}
      (wanted : c.wants k = true) (absent : d.isCreated k = false) (reports : r.Reports (some e)) :
      Move c d [r] [.call (.create k) d (some e)] d
  | created {d d' : StateDocument} {k : Component} {r : Record} {f : Option StoreError}
      {y : (Call.create k).Yield} {now : String}
      (wanted : c.wants k = true) (absent : d.isCreated k = false) (reports : r.Reports none)
      (recorded : d' = (recordCreated k y now d).touch now) :
      Move c d [r] [.call (.create k) d none, .save d' f] d'
  | deleteFailed {d : StateDocument} {k : Component} {r : Record} {e : ProviderError}
      (present : d.isCreated k = true) (reports : r.Reports (some e)) :
      Move c d [r] [.call (.delete k) d (some e)] d
  | deleted {d d' : StateDocument} {k : Component} {r : Record} {f : Option StoreError}
      {now : String} (present : d.isCreated k = true) (reports : r.Reports none)
      (recorded : d' = (d.set k false now).touch now) :
      Move c d [r] [.call (.delete k) d none, .save d' f] d'
  | markUp {d d' : StateDocument} {f : Option StoreError} {now : String}
      (recorded : d' = (d.markUp now).touch now) : Move c d [] [.save d' f] d'
  | markDown {d d' : StateDocument} {f : Option StoreError} {now : String}
      (recorded : d' = (d.markDown now).touch now) : Move c d [] [.save d' f] d'

/-- Several moves, one after the other. -/
inductive Moves (c : Config) :
    StateDocument → List Record → List Event → StateDocument → Prop
  | none (d : StateDocument) : Moves c d [] [] d
  | move {d d' d'' : StateDocument} {rs rs' : List Record} {es es' : List Event}
      (first : Move c d rs es d') (rest : Moves c d' rs' es' d'') :
      Moves c d (rs ++ rs') (es ++ es') d''

theorem Move.moves (m : Move c d rs es d') : Moves c d rs es d' := by
  simpa using Moves.move m (.none d')

theorem Moves.trans (h₁ : Moves c d rs es d') (h₂ : Moves c d' rs' es' d'') :
    Moves c d (rs ++ rs') (es ++ es') d'' := by
  induction h₁ with
  | none => exact h₂
  | move first _ ih =>
    rw [List.append_assoc, List.append_assoc]
    exact .move first (ih h₂)

/-- A step of one call. -/
theorem Move.stepOnce {call : Call} {f : Option ProviderError} {r : Record}
    (harmless : call.isHarmless = true) (reports : r.Reports (call.stepFailure f)) :
    Move c d [r] [.call call d f] d :=
  @Move.step c d call f r [] harmless (fun _ => rfl) reports

/-! ## Flags -/

/-- A harmless call is no turn. -/
theorem turn?_of_harmless {call : Call} (harmless : call.isHarmless = true) (k : Component)
    (d : StateDocument) (f : Option ProviderError) : (Event.call call d f).turn? k = none := by
  cases call <;> first | rfl | exact nomatch harmless

theorem Move.isCreated_eq (m : Move c d rs es d') (k : Component) :
    d'.isCreated k = ((turns k es).getLast?).getD (d.isCreated k) := by
  cases m with
  | pause => rfl
  | createFailed => rfl
  | deleteFailed => rfl
  | @query call f harmless =>
    have none : turns k [.call call d f] = [] :=
      List.filterMap_eq_nil_iff.2 (by simp [turn?_of_harmless harmless])
    rw [none]
    rfl
  | @step call f r tries harmless =>
    have none : turns k ((tries.map fun e => .call call d (some e)) ++ [.call call d f]) = [] :=
      List.filterMap_eq_nil_iff.2 (by
        rintro e he
        rcases List.mem_append.1 he with he | he
        · obtain ⟨x, -, rfl⟩ := List.mem_map.1 he
          exact turn?_of_harmless harmless k d _
        · rw [List.mem_singleton.1 he]
          exact turn?_of_harmless harmless k d f)
    rw [none]
    rfl
  | @created _ c' _ _ _ _ _ _ _ recorded =>
    rw [recorded, StateDocument.isCreated_touch, StateDocument.isCreated_recordCreated]
    by_cases hc : c' = k
    · simp [hc]
    · simp [hc, Ne.symm hc]
  | @deleted _ c' _ _ _ _ _ recorded =>
    rw [recorded, StateDocument.isCreated_touch, StateDocument.isCreated_set]
    by_cases hc : c' = k
    · simp [hc]
    · simp [hc, Ne.symm hc]
  | markUp recorded =>
    rw [recorded, StateDocument.isCreated_touch, StateDocument.isCreated_markUp]
    rfl
  | markDown recorded =>
    rw [recorded, StateDocument.isCreated_touch, StateDocument.isCreated_markDown]
    rfl

/-- **The flag of a component follows its calls.** After some moves it tells whether the last
successful creation or deletion was a creation; without any, it is as before. -/
theorem Moves.isCreated_eq (m : Moves c d rs es d') (k : Component) :
    d'.isCreated k = ((turns k es).getLast?).getD (d.isCreated k) := by
  induction m with
  | none => rfl
  | move first _ ih =>
    rw [ih, first.isCreated_eq, turns_append, List.getLast?_append]
    cases (turns k _).getLast? <;> rfl

/-- Where nothing is deleted, what is recorded in the end was recorded before or was created. -/
theorem isCreated_of_creations {c : Config} {d d' : StateDocument} {rs : List Record}
    {es : List Event} (m : Moves c d rs es d') (deletions : es.filterMap Event.deletion? = [])
    (k : Component) : d'.isCreated k = true ↔ d.isCreated k = true ∨ WasCreated k es := by
  rw [m.isCreated_eq k, ← true_mem_turns]
  cases last : (turns k es).getLast? with
  | none => simp [List.getLast?_eq_none_iff.1 last]
  | some b =>
    have mem := List.mem_of_getLast? last
    obtain rfl : b = true := turns_of_creations deletions b mem
    simp [mem]

/-- All that is flagged in the course of some moves satisfies what holds of all that was flagged
before and all that is wanted. -/
theorem Move.flagged (m : Move c d rs es d') {P : Component → Prop}
    (recorded : ∀ k, d.isCreated k = true → P k) (wanted : ∀ k, c.wants k = true → P k) :
    (∀ k, d'.isCreated k = true → P k) ∧
      ∀ e ∈ es, ∀ k, e.document.isCreated k = true → P k := by
  cases m with
  | pause => exact ⟨recorded, by simp⟩
  | query => exact ⟨recorded, by simpa [Event.document] using recorded⟩
  | step =>
    refine ⟨recorded, fun e he => ?_⟩
    rcases List.mem_append.1 he with he | he
    · obtain ⟨f, -, rfl⟩ := List.mem_map.1 he
      exact recorded
    · rw [List.mem_singleton.1 he]
      exact recorded
  | createFailed => exact ⟨recorded, by simpa [Event.document] using recorded⟩
  | @created _ k' _ _ _ _ wanted' _ _ new =>
    have after : ∀ k, d'.isCreated k = true → P k := by
      intro k flagged
      rw [new, StateDocument.isCreated_touch, StateDocument.isCreated_recordCreated] at flagged
      split at flagged
      · next same => exact same ▸ wanted k' wanted'
      · exact recorded k flagged
    exact ⟨after, by simpa [Event.document] using ⟨recorded, after⟩⟩
  | deleteFailed => exact ⟨recorded, by simpa [Event.document] using recorded⟩
  | @deleted _ k' _ _ _ _ _ new =>
    have after : ∀ k, d'.isCreated k = true → P k := by
      intro k flagged
      rw [new, StateDocument.isCreated_touch, StateDocument.isCreated_set] at flagged
      split at flagged
      · cases flagged
      · exact recorded k flagged
    exact ⟨after, by simpa [Event.document] using ⟨recorded, after⟩⟩
  | markUp new =>
    exact ⟨by simpa [new] using recorded, by simpa [Event.document, new] using recorded⟩
  | markDown new =>
    exact ⟨by simpa [new] using recorded, by simpa [Event.document, new] using recorded⟩

theorem Moves.flagged (m : Moves c d rs es d') {P : Component → Prop}
    (recorded : ∀ k, d.isCreated k = true → P k) (wanted : ∀ k, c.wants k = true → P k) :
    (∀ k, d'.isCreated k = true → P k) ∧
      ∀ e ∈ es, ∀ k, e.document.isCreated k = true → P k := by
  induction m with
  | none => exact ⟨recorded, by simp⟩
  | move first _ ih =>
    obtain ⟨recorded', events⟩ := first.flagged recorded wanted
    obtain ⟨recorded'', events'⟩ := ih recorded'
    exact ⟨recorded'', List.forall_mem_append.2 ⟨events, events'⟩⟩

/-! ## Runs -/

/-- `t` is a later state of the session `s`, reached by moves that added these records and
events. -/
structure Runs (s t : Session ω) (records : List Record) (events : List Event) : Prop where
  grows : Grows s t records events
  moves : Moves s.config s.document records events t.document

theorem Runs.refl (s : Session ω) : Runs s s [] [] := ⟨.refl s, .none _⟩

theorem Runs.trans (h₁ : Runs s t rs es) (h₂ : Runs t u rs' es') :
    Runs s u (rs ++ rs') (es ++ es') where
  grows := h₁.grows.trans h₂.grows
  moves := h₁.moves.trans (h₁.grows.config ▸ h₂.moves)

/-- What neither calls nor saves makes no move. -/
theorem Runs.of_idle (g : Grows s t [] []) (hd : t.document = s.document) : Runs s t [] [] :=
  ⟨g, hd ▸ .none _⟩

/-- Growth that leaves the document where one move takes it is a run. -/
theorem Runs.of_move (g : Grows s t rs es) (m : Move s.config s.document rs es t.document) :
    Runs s t rs es := ⟨g, m.moves⟩

theorem runs_settle (h : Host ω) (saga : Saga) (reason : SettleReason) (s : Session ω) :
    Runs s (s.settle h saga reason).2
      [.closed saga .settle reason.text (statusOf (s.settle h saga reason).1) none] [] :=
  .of_move (grows_settle h saga reason s) (by rw [document_settle]; exact .pause)

/-- A step that makes one harmless call and goes on whatever the stop signal says. -/
theorem runs_attempt (saga : Saga) (step : String) (work : Action ω ProviderError Unit)
    {call : Call} (harmless : call.isHarmless = true)
    (direct : ∀ f, call.stepFailure f = f)
    (g : Grows (s.begin saga .step step).2 (work (s.begin saga .step step).2).2 []
      [.call call s.document (failureOf (work (s.begin saga .step step).2).1)])
    (hd : (work (s.begin saga .step step).2).2.document = s.document) :
    Runs s (s.attempt saga step work).2
      [.ofStep saga step (failureOf (s.attempt saga step work).1)]
      [.call call s.document (failureOf (s.attempt saga step work).1)] := by
  refine .of_move (grows_attempt g) ?_
  rw [document_attempt, hd]
  exact .stepOnce harmless (by rw [direct]; exact Record.reports_ofStep _ _ _)

theorem runs_uploadArtifacts (h : Host ω) (saga : Saga) (s : Session ω) :
    ∃ f, Runs s (s.uploadArtifacts h saga) [.ofStep saga "upload artifacts" f]
      [.call .uploadArtifacts s.document f] :=
  ⟨_, runs_attempt _ _ _ rfl (fun _ => rfl) (grows_perform h .uploadArtifacts _) rfl⟩

@[simp] theorem document_uploadArtifacts (h : Host ω) (saga : Saga) (s : Session ω) :
    (s.uploadArtifacts h saga).document = s.document :=
  document_attempt saga _ _ s

end Session

end Testbed
