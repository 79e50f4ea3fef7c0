import Testbed.Proofs.Replacements
import Testbed.Proofs.SteadyPaths

/-!
# Saves that break off

A save makes the directory of its document, writes the document to a fresh file, moves that into
place and flushes the directory. It may fail in each of these steps, or be killed in it.

**Theorem (`load_of_saveAmid`).** However a save ends, a load sees what it saw before the save, or
what it sees after a whole one. If the save fails before the document is in its place, a load sees
what it saw before, and the save leaves nothing behind but directories.

A save is a replacement (`run_eq_iff`), so what it leaves is known (`left_of_saveAmid`): new
directories, a fresh file with them if the process was killed, or all of it in place. What a load
sees depends on what the path of the document shows (`load_of_look`), and that changes neither with
new directories nor with a fresh file, unless the path goes up out of a directory that was not there
(`load_of_saveAmid_unsteady`).

Without a break the save is the usual one (`save_eq_saveAmid`), and however it ends, it leaves a
tree of the kind that the next one may begin with (`sound_of_saveAmid`).
-/

namespace Testbed.FileStore

variable {s : FileStore} {d : StateDocument} {b : Option Break} {t t' : FileTree} {v v' : Saving}
  {steps : List SaveStep} {next : SaveStep} {ending : Ending}

/-! ## Saves as replacements -/

theorem step_replacement (s : FileStore) (d : StateDocument) (v : Saving) (next : SaveStep) :
    s.step d.sealed.text.toUTF8 v next = (s.replacement d).step v next := by
  cases next <;> rfl

theorem run_eq_iff : s.run d.sealed.text.toUTF8 steps v = (none, v') ↔
    steps.foldlM (s.replacement d).step v = .ok v' := by
  induction steps generalizing v with
  | nil => simp [run, pure, Except.pure]
  | cons next steps ih =>
    rw [run_cons_eq, List.foldlM_cons]
    constructor
    · rintro ⟨u, stepped, rest⟩
      rw [step_replacement] at stepped
      rw [stepped]
      exact ih.1 rest
    · intro walked
      obtain ⟨u, stepped, rest⟩ := exists_of_bind walked
      exact ⟨u, (step_replacement s d v next).trans stepped, ih.2 rest⟩

/-- Without a break, an attempt takes the steps of a save. -/
theorem attempt_none (s : FileStore) (d : StateDocument) (steps : List SaveStep) (v : Saving) :
    ∃ ending v', (s.replacement d).attempt none steps v = (ending, v') ∧
      (ending = .done ∧ s.run d.sealed.text.toUTF8 steps v = (none, v') ∨
        ∃ next e, ending = .failed next e ∧
          s.run d.sealed.text.toUTF8 steps v = (some e, v')) := by
  induction steps generalizing v with
  | nil => exact ⟨.done, v, rfl, .inl ⟨rfl, rfl⟩⟩
  | cons next steps ih =>
    simp only [run, Replacement.attempt, Option.filter_none, step_replacement s d]
    cases (s.replacement d).step v next with
    | error e => exact ⟨.failed next e, v, rfl, .inr ⟨next, e, rfl, rfl⟩⟩
    | ok u => exact ih u

/-- Without a break, a save ends as it does. -/
theorem save_eq_saveAmid (s : FileStore) (d : StateDocument) (t : FileTree) :
    s.save d t = match s.saveAmid none d t with
      | (.failed _ e, t') => (.error (.file e), t')
      | (_, t') => (.ok (), t') := by
  obtain ⟨ending, v, ran, ⟨rfl, run⟩ | ⟨next, e, rfl, run⟩⟩ :=
    attempt_none s d SaveStep.all ⟨t, none⟩
  · rw [save, saveAmid, ran, run]
    rfl
  · rw [save, saveAmid, ran, run]
    rfl

/-! ## What a load sees -/

theorem load_of_look (same : t'.look s.path = t.look s.path) : s.load t' = s.load t := by
  unfold FileTree.look at same
  unfold load FileTree.exists? FileTree.readText FileTree.read
  cases found : t.locate s.path with
  | error e =>
    cases found' : t'.locate s.path with
    | error e' => rfl
    | ok p => simp [found, found', Except.toOption] at same
  | ok p =>
    cases found' : t'.locate s.path with
    | error e => simp [found, found', Except.toOption] at same
    | ok p' =>
      have entry : t'.get? p' = t.get? p := by simpa [found, found', Except.toOption] using same
      simp [Except.toBool, bind, Except.bind, entry]

theorem own_stateFileName : FileTree.Own Layout.stateFileName := by
  constructor <;> decide

theorem load_lengthened {path : String} (sound : t.Sound)
    (steady : t.Steady (s.layout.directory s.name))
    (longer : FileTree.Lengthened t t' path)
    (names : Path.route path <+: Path.route (s.layout.directory s.name))
    (root : Path.isAbsolute path = Path.isAbsolute (s.layout.directory s.name)) :
    s.load t' = s.load t :=
  load_of_look (FileTree.look_lengthened sound steady (longer.mono names root) own_stateFileName)

theorem load_withFresh (home : Place) (content : ByteArray) :
    s.load (t.withFresh home content) = s.load t :=
  load_of_look (t.look_withFresh home content own_stateFileName)

/-! ## What a save leaves -/

/-- What a save leaves, however it ends: nothing new, some new directories, a fresh file with them
if the process was killed, or the document in place. -/
inductive Left (s : FileStore) (d : StateDocument) (t : FileTree) : Ending → FileTree → Prop
  | nothing {ending : Ending} : Left s d t ending t
  | directories {path : String} {t₁ : FileTree} {ending : Ending}
      (names : Path.route path <+: Path.route (s.layout.directory s.name))
      (root : Path.isAbsolute path = Path.isAbsolute (s.layout.directory s.name))
      (made : t.makeDirectories path = .ok t₁) : Left s d t ending t₁
  | fresh {t₁ : FileTree} {step : SaveStep} {home : Place}
      (made : t.makeDirectories (s.layout.directory s.name) = .ok t₁)
      (dir : t₁.isDirectoryAt home) (content : ByteArray) :
      Left s d t (.killed step) (t₁.withFresh home content)
  | whole {t' : FileTree} {ending : Ending} (saved : s.save d t = (.ok (), t'))
      (late : ∀ step e, ending = .failed step e → step = .flushDirectory) : Left s d t ending t'

/-- An attempt to make the directory leaves new directories. -/
theorem left_of_stopped_makeDirectory
    (stop : (s.replacement d).Stopped ⟨t, none⟩ .makeDirectory ending v) :
    Left s d t ending (ending.leave v) := by
  have part (extent : Nat) : Left s d t ending
      ((s.replacement d).part extent ⟨t, none⟩ .makeDirectory).tree := by
    unfold Replacement.part
    dsimp only
    cases above : Path.ancestor? (s.replacement d).directory extent with
    | none => exact .nothing
    | some path =>
      obtain ⟨names, root⟩ := Path.route_ancestor? above
      cases made : t.makeDirectories path with
      | error e => simpa [made, Except.toOption] using Left.nothing
      | ok t₁ =>
        simpa [made, Except.toOption] using
          Left.directories names root made
  cases stop with
  | refused => exact .nothing
  | failed e extent => exact part extent
  | killed extent => exact part extent

/-- Once the document is in its place, all that is left of the save is to flush the directory. -/
theorem save_of_placed {t₁ : FileTree} {u : Saving}
    (made : t.makeDirectories (s.layout.directory s.name) = .ok t₁)
    (placed : SaveStep.placing.foldlM (s.replacement d).step ⟨t₁, none⟩ = .ok u) :
    Saving.settle u = u.tree ∧ s.save d t = (.ok (), u.tree) := by
  have steps : SaveStep.all =
      .makeDirectory :: (SaveStep.placing ++ [SaveStep.flushDirectory]) := rfl
  have first : (s.replacement d).step ⟨t, none⟩ .makeDirectory = .ok ⟨t₁, none⟩ := by
    simp [Replacement.step, replacement, made, bind, Except.bind]
  have later : (SaveStep.placing ++ [SaveStep.flushDirectory]).foldlM (s.replacement d).step
      ⟨t₁, none⟩ = .ok u := by
    rw [List.foldlM_append, placed]
    rfl
  have run : s.run d.sealed.text.toUTF8 SaveStep.all ⟨t, none⟩ = (none, u) := by
    refine run_eq_iff.2 ?_
    rw [steps, List.foldlM_cons, first]
    exact later
  have settled := settle_of_run run
  exact ⟨settled, save_eq_ok.2 ⟨u, run, settled.symm⟩⟩

/-- A save that stops later has its directory. -/
theorem left_of_stopped {t₁ : FileTree} {before after : List SaveStep} {u : Saving}
    (made : t.makeDirectories (s.layout.directory s.name) = .ok t₁)
    (split : SaveStep.all.tail = before ++ next :: after)
    (reached : before.foldlM (s.replacement d).step ⟨t₁, none⟩ = .ok u)
    (stop : (s.replacement d).Stopped u next ending v) : Left s d t ending (ending.leave v) := by
  by_cases late : next = .flushDirectory
  · subst late
    have whole : SaveStep.placing ++ [SaveStep.flushDirectory] =
        before ++ SaveStep.flushDirectory :: after := split
    obtain ⟨rfl, -, -⟩ :=
      (List.append_cons_inj_of_notMem (by decide) List.not_mem_nil).1 whole
    obtain ⟨settled, saved⟩ := save_of_placed made reached
    cases stop with
    | refused refused => cases refused
    | failed e extent =>
      show Left s d t _ (Saving.settle u)
      rw [settled]
      exact .whole saved fun step e same => (Ending.failed.inj same).1.symm
    | killed extent => exact .whole saved nofun
  · have order : (before ++ next :: after).IsChain SaveStep.Precedes :=
      split ▸ (by decide : SaveStep.all.tail.IsChain SaveStep.Precedes)
    have first : (before ++ next :: after).head? = some .makeTemporary :=
      split ▸ (rfl : SaveStep.all.tail.head? = some .makeTemporary)
    have underway := Replacement.Underway.bare.reach order first reached
    obtain ⟨e, -, left⟩ | ⟨rfl, left | ⟨home, content, -, dir, left⟩⟩ := underway.stopped late stop
    · rw [left]
      exact .directories (List.prefix_refl _) rfl made
    · rw [left]
      exact .directories (List.prefix_refl _) rfl made
    · rw [left]
      exact .fresh made dir content

theorem left_of_saveAmid (ran : s.saveAmid b d t = (ending, t')) : Left s d t ending t' := by
  unfold saveAmid at ran
  cases attempted : (s.replacement d).attempt b SaveStep.all ⟨t, none⟩ with
  | mk ended v =>
    rw [attempted] at ran
    cases ran
    by_cases done : ending = .done
    · subst done
      have run := run_eq_iff.2 (Replacement.attempt_done attempted)
      exact .whole (save_eq_ok.2 ⟨v, run, rfl⟩) nofun
    · obtain ⟨before, next, after, u, split, reached, stop⟩ :=
        Replacement.exists_stop attempted done
      cases before with
      | nil =>
        cases reached
        obtain rfl : SaveStep.makeDirectory = next := (List.cons.inj split).1
        exact left_of_stopped_makeDirectory stop
      | cons first before =>
        obtain rfl : SaveStep.makeDirectory = first := (List.cons.inj split).1
        obtain ⟨w, stepped, reached⟩ := exists_of_bind reached
        obtain ⟨t₁, made, ⟨⟩⟩ := exists_of_bind stepped
        exact left_of_stopped made (List.cons.inj split).2 reached stop

/-- A save leaves a sound tree, so what is said of saves here can be said of the next one again. -/
theorem sound_of_saveAmid (sound : t.Sound) (ran : s.saveAmid b d t = (ending, t')) : t'.Sound := by
  cases left_of_saveAmid ran with
  | nothing => exact sound
  | directories _ _ made => exact sound.makeDirectories made
  | fresh made dir content => exact (sound.makeDirectories made).withFresh dir content
  | whole saved =>
    obtain ⟨v, run, rfl⟩ := save_eq_ok.1 saved
    obtain ⟨t₁, t₂, p, made, fresh, moved, -⟩ := run_all_eq.1 run
    obtain ⟨here, -, dir, rfl, rfl⟩ := FileTree.makeTemporary_eq_ok.1 fresh
    rw [← FileTree.withFresh] at moved
    rw [settle_of_run run]
    exact (sound.makeDirectories made).rename_withFresh dir moved

/-- Nothing is lost or changed from one tree to another, and only directories are new. -/
def OnlyDirectories (t t' : FileTree) : Prop :=
  ∀ p, t'.get? p = t.get? p ∨ t.get? p = none ∧ t'.get? p = some .directory

theorem onlyDirectories_of_lengthened {path : String} (longer : FileTree.Lengthened t t' path) :
    OnlyDirectories t t' := by
  intro p
  cases before : t.get? p with
  | some e =>
    exact .inl ((longer.toGrown.kept p (Option.isSome_of_eq_some before)).trans before)
  | none =>
    cases after : t'.get? p with
    | none => exact .inl rfl
    | some e =>
      have new := (longer.made p before (Option.isSome_of_eq_some after)).1
      exact .inr ⟨rfl, after.symm.trans new⟩

/-- **A save that breaks off shows the old document or the new one.** -/
theorem load_of_saveAmid (sound : t.Sound) (steady : t.Steady (s.layout.directory s.name))
    (b : Option Break) (d : StateDocument) (ran : s.saveAmid b d t = (ending, t')) :
    (s.load t' = s.load t ∨ ∃ t'', s.save d t = (.ok (), t'') ∧ s.load t' = s.load t'') ∧
    ∀ step e, ending = .failed step e → step ≠ .flushDirectory →
      s.load t' = s.load t ∧ OnlyDirectories t t' := by
  cases left_of_saveAmid ran with
  | nothing => exact ⟨.inl rfl, fun _ _ _ _ => ⟨rfl, fun p => .inl rfl⟩⟩
  | directories names root made =>
    have longer := FileTree.lengthened_makeDirectories made
    have same := load_lengthened sound steady longer names root
    exact ⟨.inl same, fun _ _ _ _ => ⟨same, onlyDirectories_of_lengthened longer⟩⟩
  | @fresh t₁ _ home made _ content =>
    have longer := FileTree.lengthened_makeDirectories made
    have same := load_lengthened sound steady longer (List.prefix_refl _) rfl
    exact ⟨.inl ((load_withFresh home content).trans same), nofun⟩
  | whole saved late =>
    exact ⟨.inr ⟨_, saved, rfl⟩, fun step e failed early => absurd (late step e failed) early⟩

/-- A disk that is full in the middle of the text. -/
theorem load_of_saveAmid_diskFull :
    let s : FileStore := ⟨⟨"state"⟩, "demo"⟩
    let t := FileTree.ofFiles [("state/demo/state.json", some "spoilt".toUTF8)]
    let r := s.saveAmid (some ⟨.write, 10, some (.device "disk full")⟩) sampleDocument t
    t.Sound ∧ t.Steady (s.layout.directory s.name) ∧
      r.1 = .failed .write (.device "disk full") ∧ s.load r.2 = s.load t ∧
      OnlyDirectories t r.2 := by
  intro s t r
  have sound : t.Sound := FileTree.sound_ofFiles _
  have steady : t.Steady (s.layout.directory s.name) := FileTree.steady_of_notMem (by decide)
  have failed : r.1 = .failed .write (.device "disk full") := by decide +kernel
  have ran : s.saveAmid (some ⟨.write, 10, some (.device "disk full")⟩) sampleDocument t =
      (.failed .write (.device "disk full"), r.2) := Prod.ext failed rfl
  exact ⟨sound, steady, failed, (load_of_saveAmid sound steady _ _ ran).2 _ _ rfl (by decide)⟩

/-- The hypothesis on the path is needed: a way up out of a directory that only the save makes can
lead to something that was there all along. -/
theorem load_of_saveAmid_unsteady :
    let s : FileStore := ⟨⟨"state"⟩, "gone/../demo"⟩
    let t := FileTree.ofFiles [("state/demo/state.json", none)]
    let r := s.saveAmid none sampleDocument t
    t.Sound ∧ r.1 = .failed .replace .isDirectory ∧ s.load t = .ok none ∧
      s.load r.2 = .error (.file .isDirectory) ∧
      ¬ ∃ t'', s.save sampleDocument t = (.ok (), t'') := by
  intro s t r
  have failed : r.1 = .failed .replace .isDirectory := by decide +kernel
  refine ⟨FileTree.sound_ofFiles _, failed, ?_, ?_, ?_⟩
  · decide +kernel
  · decide +kernel
  · rintro ⟨t'', saved⟩
    have ran : s.saveAmid none sampleDocument t = (.failed .replace .isDirectory, r.2) :=
      Prod.ext failed rfl
    rw [save_eq_saveAmid, ran] at saved
    cases saved

end Testbed.FileStore
