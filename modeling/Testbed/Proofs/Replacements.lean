import Testbed.Proofs.SavedState
import Testbed.State.Break

/-!
# Replacements up to where they break off

An attempt at a replacement takes its steps one by one and stops in one of them or is done
(`attempt_done`, `exists_stop`). Between the directory and its flushing there is little that it can
have in hand: nothing yet, or a fresh file with some content beside the tree that it began with
(`Underway`). Each step goes from one to the other (`Underway.advance`), and what a step leaves that
breaks off is no different (`Underway.part`).

A fresh file that is taken away again was never there (`FileTree.erase_withFresh`). So a replacement
that fails before its end gives back the tree that it began with, and one that was killed leaves at
most a fresh file (`Underway.stopped`).
-/

namespace Testbed

/-- One step of a save comes right before the other. -/
def SaveStep.Precedes (a b : SaveStep) : Prop := (a, b) ∈ SaveStep.all.zip SaveStep.all.tail

instance : DecidableRel SaveStep.Precedes := fun a b =>
  inferInstanceAs (Decidable ((a, b) ∈ SaveStep.all.zip SaveStep.all.tail))

namespace Replacement

variable {r : Replacement} {b : Option Break} {steps : List SaveStep} {next : SaveStep}
  {u v v' : Saving} {ending : Ending} {t : FileTree}

/-! ## Attempts -/

/-- How an attempt that has come as far as `u` stops in a step. -/
inductive Stopped (r : Replacement) (u : Saving) (next : SaveStep) : Ending → Saving → Prop
  | refused {e : FileError} (refused : r.step u next = .error e) :
      Stopped r u next (.failed next e) u
  | failed (e : FileError) (extent : Nat) : Stopped r u next (.failed next e) (r.part extent u next)
  | killed (extent : Nat) : Stopped r u next (.killed next) (r.part extent u next)

theorem attempt_done (ran : r.attempt b steps v = (.done, v')) :
    steps.foldlM r.step v = .ok v' := by
  induction steps generalizing v with
  | nil =>
    cases ran
    rfl
  | cons next steps ih =>
    unfold attempt at ran
    split at ran
    · next x _ =>
      cases reported : x.failure <;> simp [reported] at ran
    · cases stepped : r.step v next with
      | error e =>
        rw [stepped] at ran
        cases ran
      | ok u =>
        rw [stepped] at ran
        rw [List.foldlM_cons, stepped]
        exact ih ran

theorem exists_stop (ran : r.attempt b steps v = (ending, v')) (undone : ending ≠ .done) :
    ∃ before next after u, steps = before ++ next :: after ∧
      before.foldlM r.step v = .ok u ∧ Stopped r u next ending v' := by
  induction steps generalizing v with
  | nil =>
    cases ran
    exact absurd rfl undone
  | cons next steps ih =>
    unfold attempt at ran
    split at ran
    · next x _ =>
      refine ⟨[], next, steps, v, rfl, rfl, ?_⟩
      cases reported : x.failure with
      | none =>
        rw [reported] at ran
        cases ran
        exact .killed x.extent
      | some e =>
        rw [reported] at ran
        cases ran
        exact .failed e x.extent
    · cases stepped : r.step v next with
      | error e =>
        rw [stepped] at ran
        cases ran
        exact ⟨[], next, steps, _, rfl, rfl, .refused stepped⟩
      | ok u =>
        rw [stepped] at ran
        obtain ⟨before, last, after, w, rfl, reached, stop⟩ := ih ran
        refine ⟨next :: before, last, after, w, rfl, ?_, stop⟩
        rw [List.foldlM_cons, stepped]
        exact reached

/-! ## From step to step -/

/-- What a replacement has in hand before a step, if it began with a tree in which its directory
is. After it has taken its file's place nothing more is said. -/
inductive Underway (r : Replacement) (t : FileTree) : SaveStep → Saving → Prop
  | bare : Underway r t .makeTemporary ⟨t, none⟩
  | fresh {next : SaveStep} {here : Place} (inside : t.locate r.directory = .ok here)
      (dir : t.isDirectoryAt here) (content : ByteArray)
      (later : next ∈ [.write, .flush, .replace]) :
      Underway r t next ⟨t.withFresh here content, some (t.freshPlace here)⟩
  | last (v : Saving) : Underway r t .flushDirectory v

theorem Underway.advance {a b : SaveStep} (underway : Underway r t a u) (order : a.Precedes b)
    (stepped : r.step u a = .ok v) : Underway r t b v := by
  cases underway with
  | bare =>
    obtain rfl : b = .write := by simpa [SaveStep.Precedes, SaveStep.all] using order
    obtain ⟨⟨t', p⟩, made, ⟨⟩⟩ := exists_of_bind stepped
    obtain ⟨here, inside, dir, rfl, rfl⟩ := FileTree.makeTemporary_eq_ok.1 made
    rw [← FileTree.withFresh_eq]
    exact .fresh inside dir .empty (by simp)
  | @fresh _ here inside dir content later =>
    simp only [List.mem_cons, List.not_mem_nil, or_false] at later
    obtain rfl | rfl | rfl := later
    · obtain rfl : b = .flush := by simpa [SaveStep.Precedes, SaveStep.all] using order
      cases stepped
      rw [Option.elim_some, FileTree.fill_withFresh]
      exact .fresh inside dir r.content (by simp)
    · obtain rfl : b = .replace := by simpa [SaveStep.Precedes, SaveStep.all] using order
      cases stepped
      exact .fresh inside dir content (by simp)
    · obtain rfl : b = .flushDirectory := by simpa [SaveStep.Precedes, SaveStep.all] using order
      exact .last v
  | last => simp [SaveStep.Precedes, SaveStep.all] at order

theorem Underway.reach {a next : SaveStep} {before after : List SaveStep}
    (underway : Underway r t a u) (order : (before ++ next :: after).IsChain SaveStep.Precedes)
    (first : (before ++ next :: after).head? = some a)
    (reached : before.foldlM r.step u = .ok v) : Underway r t next v := by
  induction before generalizing a u with
  | nil =>
    cases reached
    cases first
    exact underway
  | cons c before ih =>
    cases first
    obtain ⟨w, stepped, reached⟩ := exists_of_bind reached
    cases before with
    | nil =>
      cases reached
      exact underway.advance (List.isChain_cons_cons.1 order).1 stepped
    | cons d before =>
      exact ih (underway.advance (List.isChain_cons_cons.1 order).1 stepped)
        (List.isChain_cons_cons.1 order).2 rfl reached

/-- A step that breaks off leaves nothing that the step could not begin with. -/
theorem Underway.part (underway : Underway r t next u) (extent : Nat) :
    Underway r t next (r.part extent u next) := by
  cases underway with
  | bare => exact .bare
  | @fresh _ here inside dir content later =>
    have whole := later
    simp only [List.mem_cons, List.not_mem_nil, or_false] at later
    obtain rfl | rfl | rfl := later
    · rw [Replacement.part, Option.elim_some, FileTree.fill_withFresh]
      exact .fresh inside dir _ whole
    · exact .fresh inside dir content whole
    · exact .fresh inside dir content whole
  | last => exact .last _

theorem Underway.settle (underway : Underway r t next u) (early : next ≠ .flushDirectory) :
    FileStore.Saving.settle u = t := by
  cases underway with
  | bare => rfl
  | fresh => exact t.erase_withFresh _ _
  | last => exact absurd rfl early

theorem Underway.tree (underway : Underway r t next u) (early : next ≠ .flushDirectory) :
    u.tree = t ∨ ∃ here content, t.locate r.directory = .ok here ∧ t.isDirectoryAt here ∧
      u.tree = t.withFresh here content := by
  cases underway with
  | bare => exact .inl rfl
  | @fresh _ here inside dir content => exact .inr ⟨here, content, inside, dir, rfl⟩
  | last => exact absurd rfl early

/-- **A replacement that stops before its end** gives back the tree that it began with if it failed,
and leaves at most a fresh file if it was killed. -/
theorem Underway.stopped (underway : Underway r t next u) (early : next ≠ .flushDirectory)
    (stop : Stopped r u next ending v) :
    (∃ e, ending = .failed next e ∧ ending.leave v = t) ∨
    ending = .killed next ∧ (ending.leave v = t ∨ ∃ here content,
      t.locate r.directory = .ok here ∧ t.isDirectoryAt here ∧
        ending.leave v = t.withFresh here content) := by
  cases stop with
  | @refused e _ => exact .inl ⟨e, rfl, underway.settle early⟩
  | failed e extent => exact .inl ⟨e, rfl, (underway.part extent).settle early⟩
  | killed extent => exact .inr ⟨rfl, (underway.part extent).tree early⟩

end Replacement

end Testbed
