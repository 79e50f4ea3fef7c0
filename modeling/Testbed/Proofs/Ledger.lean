import Testbed.Proofs.Moves

/-!
# The ledger

The store is the ledger of an environment: what it holds is what a later session starts from. A
`Ledger log d` says that after the events of the log, the document `d` in memory and the document
that was saved last record the same components as created, and that these are the components whose
last successful creation or deletion was a creation.

**Theorem (`Ledger.moves`).** Whatever a session does keeps the ledger, as long as no save fails,
and the ledger is accurate whenever a call begins.
-/

namespace Testbed

/-- The document that an event put into the store. -/
def Event.saved? : Event → Option StateDocument
  | .save d none => some d
  | _ => none

/-- The document that was saved last. -/
def lastSaved (log : List Event) : Option StateDocument := (log.filterMap Event.saved?).getLast?

theorem lastSaved_append (log es : List Event) :
    lastSaved (log ++ es) = (lastSaved es).or (lastSaved log) := by
  rw [lastSaved, List.filterMap_append, List.getLast?_append]
  rfl

theorem mem_saved {log : List Event} {d : StateDocument} :
    d ∈ log.filterMap Event.saved? ↔ .save d none ∈ log := by
  refine ⟨fun mem => ?_, fun mem => List.mem_filterMap.2 ⟨_, mem, rfl⟩⟩
  obtain ⟨e, mem, saved⟩ := List.mem_filterMap.1 mem
  cases e with
  | call c d f => cases saved
  | save d f =>
    cases f with
    | some f => cases saved
    | none =>
      cases saved
      exact mem

/-- What was saved last was saved. -/
theorem mem_of_lastSaved {log : List Event} {d : StateDocument} (last : lastSaved log = some d) :
    .save d none ∈ log := mem_saved.1 (List.mem_of_getLast? last)

/-- Calls put nothing into the store. -/
theorem lastSaved_calls {log es : List Event} (calls : es.filterMap Event.saved? = []) :
    lastSaved (log ++ es) = lastSaved log := by
  rw [lastSaved_append, lastSaved, calls]
  rfl

/-- Whether an event is a save that failed. -/
def Event.isFailedSave : Event → Bool
  | .save _ (some _) => true
  | _ => false

/-- No save among the events failed. -/
def Saved (es : List Event) : Prop := ∀ e ∈ es, e.isFailedSave = false

instance (es : List Event) : Decidable (Saved es) :=
  inferInstanceAs (Decidable (∀ e ∈ es, e.isFailedSave = false))

theorem saved_append {es es' : List Event} : Saved (es ++ es') ↔ Saved es ∧ Saved es' :=
  List.forall_mem_append

namespace Session

variable {c : Config} {d d' : StateDocument} {rs : List Record} {log es es' : List Event}

/-! ## The document in the store -/

/-- The document that was saved last records the same components as this one. -/
def Recorded (log : List Event) (d : StateDocument) : Prop :=
  ∃ x, lastSaved log = some x ∧ x.isCreated = d.isCreated

theorem Recorded.of_calls (recorded : Recorded log d) (calls : es.filterMap Event.saved? = []) :
    Recorded (log ++ es) d := by
  obtain ⟨x, saved, same⟩ := recorded
  exact ⟨x, (lastSaved_calls calls).trans saved, same⟩

/-- A save that succeeds records the document, and one that fails does no harm if the document
records nothing new. -/
theorem Recorded.of_save (recorded : Recorded log d) (es : List Event)
    (calls : es.filterMap Event.saved? = []) (f : Option StoreError)
    (same : f = none ∨ d'.isCreated = d.isCreated) :
    Recorded (log ++ (es ++ [.save d' f])) d' := by
  cases f with
  | none =>
    refine ⟨d', ?_, rfl⟩
    rw [lastSaved_append, lastSaved_append]
    rfl
  | some e =>
    obtain ⟨x, saved, sameX⟩ := recorded
    refine ⟨x, ?_, sameX.trans (same.resolve_left (by simp)).symm⟩
    rw [lastSaved_calls]
    · exact saved
    · rw [List.filterMap_append, calls]
      rfl

theorem saved?_of_calls {call : Call} (tries : List ProviderError) (f : Option ProviderError) :
    ((tries.map fun e => Event.call call d (some e)) ++ [Event.call call d f]).filterMap
      Event.saved? = [] := by
  simp [List.filterMap_append, List.filterMap_map, Event.saved?, Function.comp_def]

/-- Where a component took a turn, what was saved has not failed to be. -/
theorem none_of_kept (k : Component) (d : StateDocument) {f : Option StoreError}
    (kept : Saved es ∨ ∀ k, turns k es = []) (mem : .save d f ∈ es) (turn : turns k es ≠ []) :
    f = none := by
  rcases kept with saved | quiet
  · cases f with
    | none => rfl
    | some e => exact nomatch saved _ mem
  · exact absurd (quiet k) turn

/-- A move keeps the store up to date, unless a creation or deletion cannot be recorded. -/
theorem Recorded.move (recorded : Recorded log d) (m : Move c d rs es d')
    (kept : Saved es ∨ ∀ k, turns k es = []) : Recorded (log ++ es) d' := by
  cases m with
  | pause => simpa using recorded
  | query => exact recorded.of_calls rfl
  | step => exact recorded.of_calls (saved?_of_calls _ _)
  | createFailed => exact recorded.of_calls rfl
  | deleteFailed => exact recorded.of_calls rfl
  | @created _ k _ f =>
    refine recorded.of_save [.call (.create k) d none] rfl f (.inl ?_)
    exact none_of_kept k d' kept (by simp) (by simp)
  | @deleted _ k _ f =>
    refine recorded.of_save [.call (.delete k) d none] rfl f (.inl ?_)
    exact none_of_kept k d' kept (by simp) (by simp)
  | markUp new =>
    exact recorded.of_save [] rfl _ (.inr (by simp [new]))
  | markDown new =>
    exact recorded.of_save [] rfl _ (.inr (by simp [new]))

theorem Recorded.moves (recorded : Recorded log d) (m : Moves c d rs es d')
    (kept : Saved es ∨ ∀ k, turns k es = []) : Recorded (log ++ es) d' := by
  induction m generalizing log with
  | none => simpa using recorded
  | move first _ ih =>
    rw [← List.append_assoc]
    rcases kept with saved | quiet
    · obtain ⟨savedFirst, savedRest⟩ := saved_append.1 saved
      exact ih (recorded.move first (.inl savedFirst)) (.inl savedRest)
    · simp only [turns_append, List.append_eq_nil_iff] at quiet
      exact ih (recorded.move first (.inr fun k => (quiet k).1)) (.inr fun k => (quiet k).2)

/-! ## The ledger -/

/-- After the events of the log, the document and the store record as created what was created and
not deleted since. -/
structure Ledger (log : List Event) (d : StateDocument) : Prop where
  recorded : Recorded log d
  turned : ∀ k, d.isCreated k = true ↔ (turns k log).getLast? = some true

theorem Ledger.move (ledger : Ledger log d) (m : Move c d rs es d') (saved : Saved es) :
    Ledger (log ++ es) d' where
  recorded := ledger.recorded.move m (.inl saved)
  turned := fun k => by
    rw [m.isCreated_eq k, turns_append, List.getLast?_append]
    cases (turns k es).getLast? with
    | none => exact ledger.turned k
    | some b => simp

/-- The ledger is accurate whenever a call begins. -/
def AccurateAtCalls (log es : List Event) : Prop :=
  ∀ before call x f after, es = before ++ .call call x f :: after → Ledger (log ++ before) x

theorem AccurateAtCalls.append (first : AccurateAtCalls log es)
    (rest : AccurateAtCalls (log ++ es) es') : AccurateAtCalls log (es ++ es') := by
  intro before call x f after split
  rcases append_eq_append_cons split with ⟨mid, here, -⟩ | ⟨mid, rfl, there⟩
  · exact first before call x f mid here
  · rw [← List.append_assoc]
    exact rest mid call x f after there

theorem AccurateAtCalls.call (ledger : Ledger log d) (call : Call) (f : Option ProviderError) :
    AccurateAtCalls log [.call call d f] := by
  intro before call' x f' after split
  cases before with
  | nil =>
    injection split with he
    injection he with _ hd
    rw [List.append_nil, ← hd]
    exact ledger
  | cons e before => simp at split

theorem AccurateAtCalls.save (log : List Event) (d : StateDocument) (f : Option StoreError) :
    AccurateAtCalls log [.save d f] := by
  intro before call x f' after split
  cases before with
  | nil => injection split with he; cases he
  | cons e before => simp at split

/-- Tries of a harmless call leave the ledger as it is. -/
theorem Ledger.tries (c : Config) (ledger : Ledger log d) {call : Call}
    (harmless : call.isHarmless = true) (tries : List ProviderError) :
    Ledger (log ++ tries.map fun e => .call call d (some e)) d ∧
      AccurateAtCalls log (tries.map fun e => .call call d (some e)) := by
  induction tries generalizing log with
  | nil => exact ⟨by simpa using ledger, fun before _ _ _ _ split => by simp at split⟩
  | cons e tries ih =>
    have query : Move c d [] [.call call d (some e)] d := .query harmless
    obtain ⟨kept, accurate⟩ := ih (ledger.move query (by simp [Saved, Event.isFailedSave]))
    refine ⟨by simpa using kept, ?_⟩
    exact AccurateAtCalls.append (.call ledger call (some e)) accurate

theorem Move.accurateAtCalls (ledger : Ledger log d) (m : Move c d rs es d') :
    AccurateAtCalls log es := by
  cases m with
  | pause => exact fun before _ _ _ _ split => by simp at split
  | query => exact .call ledger _ _
  | @step call f _ tries harmless =>
    obtain ⟨kept, accurate⟩ := ledger.tries c harmless tries
    exact accurate.append (.call kept call f)
  | createFailed => exact .call ledger _ _
  | deleteFailed => exact .call ledger _ _
  | created => exact AccurateAtCalls.append (.call ledger _ _) (.save _ _ _)
  | deleted => exact AccurateAtCalls.append (.call ledger _ _) (.save _ _ _)
  | markUp => exact .save _ _ _
  | markDown => exact .save _ _ _

/-- **The ledger is kept**, and it is accurate whenever a call begins. -/
theorem Ledger.moves (ledger : Ledger log d) (m : Moves c d rs es d') (saved : Saved es) :
    Ledger (log ++ es) d' ∧ AccurateAtCalls log es := by
  induction m generalizing log with
  | none => exact ⟨by simpa using ledger, fun before _ _ _ _ split => by simp at split⟩
  | move first _ ih =>
    obtain ⟨savedFirst, savedRest⟩ := saved_append.1 saved
    obtain ⟨kept, accurate⟩ := ih (ledger.move first savedFirst) savedRest
    exact ⟨by rwa [← List.append_assoc], (first.accurateAtCalls ledger).append accurate⟩

end Session

end Testbed
