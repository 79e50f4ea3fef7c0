import Testbed.Cli.Break
import Testbed.Proofs.ConfigRoundTrip
import Testbed.Proofs.Replacements
import Testbed.Proofs.Validation

/-!
# Starter configurations are written whole or not at all

A starter configuration is written to a fresh file that is then moved into place, and each step of
this may be refused, fail half-way, or be the last one of a process that is killed.

**Theorem (`init_wholeOrNothing`).** If the command fails, it leaves all files as they were. If it
succeeds, the path leads to the starter configuration, and unless it was told to overwrite nothing
was there before. If nothing breaks off, it succeeds exactly if it may write, the name and the
region are valid, and a file can be put where the path leads (`Placeable`).

What a writing leaves that fails is known of all replacements (`Replacement.Underway.stopped`). What
one leaves that is done is read back first as a text (`FileTree.read_of_rename`), then as the
configuration, whatever characters its region has, since its numbers are small (`small_template`).
Without a break this is the command itself (`runInitAmid_none`).
-/

namespace Testbed

namespace Config

/-- The numbers of a starter configuration fit their fields. -/
theorem small_template (name region : String) : (template name region).Small := by
  have groups : (template name region).nodeGroups.Small := by
    intro g mem n has
    obtain rfl : g = { name := s!"{name}-ng", desiredNodes := some 2 } := by
      simpa [template] using mem
    cases has
    decide
  have provider : ({} : ProviderSection).commandTimeout < Nat.pow 2 63 := by decide
  have hooks : ({} : HooksSection).timeout < Nat.pow 2 63 := by decide
  have onFailure : ({} : OnFailureSection).deleteWait < Nat.pow 2 63 := by decide
  have timings : ({} : Timings).Small := by constructor <;> decide
  have version : configVersion < Nat.pow 2 32 := by decide
  exact ⟨version, provider, groups, nofun, hooks, onFailure, timings⟩

theorem validate_template {name region : String} :
    (template name region).validate = .ok () ↔ IsName name ∧ Substantial region := by
  rw [validate_eq_ok_iff, fault?_eq_none_iff]
  constructor
  · exact fun valid => ⟨valid.name, valid.region⟩
  · rintro ⟨named, placed⟩
    exact {
      version := rfl
      name := named
      region := placed
      addOns := fun key s has => by simp [template] at has
      groups := by simp [template, allGroups]
      hooks := fun p has => by cases p <;> cases has }

end Config

namespace Cli

variable {b : Option Break} {t t' : FileTree} {path text name region : String} {force : Bool}
  {f : Failure}

/-! ## Writing -/

/-- A writing that fails leaves nothing. -/
theorem writeConfigAmid_failed
    (failed : writeConfigAmid b t path text = (some (.error f), t')) :
    t' = t ∧ ∀ e, f ≠ .config e := by
  unfold writeConfigAmid at failed
  generalize (Path.directory? path).getD "." = directory at failed
  dsimp only at failed
  cases ran : Replacement.attempt ⟨directory, path, text.toUTF8⟩ b SaveStep.placing ⟨t, none⟩ with
  | mk ending v =>
    rw [ran] at failed
    cases ending with
    | done => cases failed
    | killed step => cases failed
    | failed step e =>
      cases failed
      obtain ⟨before, next, after, u, split, reached, stop⟩ :=
        Replacement.exists_stop ran (by simp)
      have order : (before ++ next :: after).IsChain SaveStep.Precedes :=
        split ▸ (by decide : SaveStep.placing.IsChain SaveStep.Precedes)
      have first : (before ++ next :: after).head? = some .makeTemporary :=
        split ▸ (rfl : SaveStep.placing.head? = some .makeTemporary)
      have early : next ≠ .flushDirectory := by
        rintro rfl
        have last : SaveStep.flushDirectory ∈ SaveStep.placing := by simp [split]
        simp [SaveStep.placing] at last
      have underway := Replacement.Underway.bare.reach order first reached
      obtain ⟨e', -, left⟩ | ⟨killed, -⟩ := underway.stopped early stop
      · refine ⟨left, fun fault same => ?_⟩
        cases step <;> cases same
      · cases killed

/-- What was written is what the path leads to. -/
theorem writeConfigAmid_written (written : writeConfigAmid b t path text = (some (.ok ()), t')) :
    t'.readText path = .ok text := by
  unfold writeConfigAmid at written
  generalize (Path.directory? path).getD "." = directory at written
  dsimp only at written
  cases ran : Replacement.attempt ⟨directory, path, text.toUTF8⟩ b SaveStep.placing ⟨t, none⟩ with
  | mk ending v =>
    rw [ran] at written
    cases ending with
    | killed step => cases written
    | failed step e => cases written
    | done =>
      cases written
      obtain ⟨v₁, step₁, done⟩ := exists_of_bind (Replacement.attempt_done ran)
      obtain ⟨v₂, step₂, done⟩ := exists_of_bind done
      obtain ⟨v₃, step₃, done⟩ := exists_of_bind done
      obtain ⟨v₄, step₄, ⟨⟩⟩ := exists_of_bind done
      obtain ⟨⟨t₁, p⟩, made, ⟨⟩⟩ := exists_of_bind step₁
      obtain ⟨here, -, -, rfl, rfl⟩ := FileTree.makeTemporary_eq_ok.1 made
      cases step₂
      cases step₃
      obtain ⟨t₂, moved, ⟨⟩⟩ := exists_of_bind step₄
      exact FileTree.readText_of_read (FileTree.read_of_rename moved)

/-- A file can be put where a path leads: the directory in which it is first written stands, and no
directory stands in its place. -/
structure Placeable (t : FileTree) (path : String) : Prop where
  directory : t.isDirectory ((Path.directory? path).getD ".")
  place : ∃ here name, t.target path = .ok (here, some name, false) ∧
    FileTree.isDots name = false ∧ ¬ t.isDirectoryAt (here ++ [name])

/-- Nothing else keeps a writing from being done. The fresh file that is moved is in no one's way:
it is no directory, and the path leads to the same place without it. -/
theorem writeConfig_eq_ok : (writeConfig t path text).1 = .ok () ↔ Placeable t path := by
  unfold writeConfig
  dsimp only
  cases made : t.makeTemporary ((Path.directory? path).getD ".") with
  | error e =>
    refine iff_of_false nofun fun placeable => ?_
    obtain ⟨here, found, dir⟩ := FileTree.isDirectory_iff.1 placeable.directory
    rw [FileTree.makeTemporary_eq_ok.2 ⟨here, found, dir, rfl, rfl⟩] at made
    cases made
  | ok x =>
    obtain ⟨t₁, p⟩ := x
    obtain ⟨here, found, dir, rfl, rfl⟩ := FileTree.makeTemporary_eq_ok.1 made
    dsimp only
    rw [← FileTree.withFresh]
    have keeps := t.keeps_withFresh here text.toUTF8
    have back := t.keeps_of_withFresh here text.toUTF8
    constructor
    · intro written
      cases moved : (t.withFresh here text.toUTF8).rename (t.freshPlace here) path with
      | error e =>
        rw [moved] at written
        cases written
      | ok t₂ =>
        obtain ⟨home, name, e, aim, plain, free, -⟩ := FileTree.rename_eq_ok.1 moved
        exact ⟨FileTree.isDirectory_iff.2 ⟨here, found, dir⟩, home, name,
          FileTree.target_keeps back aim, plain, fun dir => free (keeps.directory _ dir)⟩
    · rintro ⟨-, home, name, aim, plain, free⟩
      have there : (t.withFresh here text.toUTF8).get? (t.freshPlace here) =
          some (.file text.toUTF8 FileTree.privateMode) := by
        rw [FileTree.get?_withFresh, if_pos rfl]
      rw [FileTree.rename_eq_ok.2 ⟨home, name, _, FileTree.target_keeps keeps aim, plain,
        fun dir => free (back.directory _ dir), there, rfl⟩]

/-! ## Starter configurations -/

/-- The overwrite check passes. -/
def MayWrite (t : FileTree) (path : String) (force : Bool) : Prop :=
  t.exists? path = false ∨ force = true

theorem startConfigAmid_refused (refused : ¬ MayWrite t path force) :
    startConfigAmid b t path name region force = (some (.error (.wouldOverwrite path)), t) := by
  have check : (t.exists? path && !force) = true := by simpa [MayWrite] using refused
  rw [startConfigAmid, if_pos check]

theorem startConfigAmid_passed (passed : MayWrite t path force) :
    startConfigAmid b t path name region force =
      match (Config.template name region).validate with
      | .error e => (some (.error (.config e)), t)
      | .ok _ => writeConfigAmid b t path (Config.template name region).render := by
  have check : ¬ (t.exists? path && !force) = true := by
    rcases passed with absent | forced
    · simp [absent]
    · simp [forced]
  exact if_neg check

theorem startConfigAmid_invalid
    (invalid : MayWrite t path force ∧ ¬ (Config.IsName name ∧ Config.Substantial region)) :
    ∃ e, startConfigAmid b t path name region force = (some (.error (.config e)), t) := by
  rw [startConfigAmid_passed invalid.1]
  cases valid : (Config.template name region).validate with
  | ok _ => exact absurd (Config.validate_template.1 valid) invalid.2
  | error e => exact ⟨e, rfl⟩

theorem startConfigAmid_failed
    (failed : startConfigAmid b t path name region force = (some (.error f), t')) :
    t' = t ∧ ((∃ e, f = .config e) ↔ MayWrite t path force ∧
      ¬ (Config.IsName name ∧ Config.Substantial region)) := by
  by_cases passed : MayWrite t path force
  · rw [startConfigAmid_passed passed] at failed
    rw [← Config.validate_template]
    cases valid : (Config.template name region).validate with
    | error e =>
      rw [valid] at failed
      cases failed
      simp [passed]
    | ok _ =>
      rw [valid] at failed
      obtain ⟨same, other⟩ := writeConfigAmid_failed failed
      simp [same, other]
  · rw [startConfigAmid_refused passed] at failed
    cases failed
    simp [passed]

theorem startConfigAmid_written
    (written : startConfigAmid b t path name region force = (some (.ok ()), t')) :
    MayWrite t path force ∧ (Config.IsName name ∧ Config.Substantial region) ∧
      Config.load t' path = .ok (Config.template name region) := by
  by_cases passed : MayWrite t path force
  · rw [startConfigAmid_passed passed] at written
    cases valid : (Config.template name region).validate with
    | error e =>
      rw [valid] at written
      cases written
    | ok _ =>
      rw [valid] at written
      have text := writeConfigAmid_written written
      have parsed := (Config.small_template name region).parse_render.2
      refine ⟨passed, Config.validate_template.1 valid, ?_⟩
      simp [Config.load, text, parsed, valid, Except.mapError, bind, Except.bind]
  · rw [startConfigAmid_refused passed] at written
    cases written

/-- Without a break this is how configurations are written. -/
theorem writeConfigAmid_none : writeConfigAmid none t path text =
    (some (writeConfig t path text).1, (writeConfig t path text).2) := by
  unfold writeConfigAmid writeConfig
  generalize (Path.directory? path).getD "." = directory
  generalize text.toUTF8 = content
  cases made : t.makeTemporary directory with
  | error e =>
    simp [SaveStep.placing, Replacement.attempt, Replacement.step, made, bind, Except.bind,
      writeFailure, Ending.leave, FileStore.Saving.settle]
  | ok x =>
    obtain ⟨t₁, p⟩ := x
    obtain ⟨here, -, -, rfl, rfl⟩ := FileTree.makeTemporary_eq_ok.1 made
    cases moved : (t.withFresh here content).rename (t.freshPlace here) path with
    | error e =>
      have left := t.erase_withFresh here content
      have bare := FileTree.erase_put (t.freshPlace_ne_root here) (t.get?_freshPlace here)
        (.file .empty FileTree.privateMode)
      rw [FileTree.withFresh] at moved left
      simp [SaveStep.placing, Replacement.attempt, Replacement.step, made, moved, bind, Except.bind,
        writeFailure, Ending.leave, FileStore.Saving.settle, left, bare]
    | ok t₂ =>
      rw [FileTree.withFresh] at moved
      simp [SaveStep.placing, Replacement.attempt, Replacement.step, made, moved, bind, Except.bind,
        Ending.leave, FileStore.Saving.settle]

theorem startConfigAmid_none : startConfigAmid none t path name region force =
    (some (startConfig t path name region force).1, (startConfig t path name region force).2) := by
  unfold startConfigAmid startConfig
  split
  · rfl
  · dsimp only
    cases (Config.template name region).validate with
    | error e => rfl
    | ok _ => exact writeConfigAmid_none

/-- Without a break this is how the command runs. -/
theorem runInitAmid_none (s : Settings) (name region : String) (force : Bool) (w : Workplace) :
    runInitAmid none s name region force w =
      (some (runInit s name region force w).1, (runInit s name region force w).2) := by
  unfold runInitAmid runInit
  rw [startConfigAmid_none]
  generalize startConfig w.files s.config name region force = x
  obtain ⟨r, t⟩ := x
  cases r with
  | error e => rfl
  | ok _ =>
    simp only [Option.map_some, initReport]
    split <;> rfl

/-- Without a break a starter configuration is written unless something stands in its way. -/
theorem startConfigAmid_none_eq_ok :
    (startConfigAmid none t path name region force).1 = some (.ok ()) ↔
      MayWrite t path force ∧ (Config.IsName name ∧ Config.Substantial region) ∧
        Placeable t path := by
  by_cases passed : MayWrite t path force
  · have written : (writeConfig t path (Config.template name region).render).1 = .ok () ↔
        Placeable t path := writeConfig_eq_ok
    rw [startConfigAmid_passed passed, ← Config.validate_template, ← written]
    cases (Config.template name region).validate with
    | error e => simp
    | ok _ => simp [writeConfigAmid_none, passed]
  · rw [startConfigAmid_refused passed]
    simp [passed]

theorem ending_initReport (s : Settings) (name region : String) (r : Except Failure Unit) :
    (initReport s name region r).ending = r.map fun _ => 0 := by
  cases r with
  | error e => rfl
  | ok _ =>
    simp only [initReport]
    split <;> rfl

/-- What a report ends with is what the writing came to, and a killed process reports nothing. -/
theorem reports_iff {s : Settings} {result : Option (Except Failure Unit)}
    {ending : Except Failure Nat} :
    (∃ r, result.map (initReport s name region) = some r ∧ r.ending = ending) ↔
      ∃ q, result = some q ∧ ending = q.map fun _ => 0 := by
  constructor
  · rintro ⟨r, reported, rfl⟩
    obtain ⟨q, rfl, rfl⟩ := Option.map_eq_some_iff.1 reported
    exact ⟨q, rfl, ending_initReport s name region q⟩
  · rintro ⟨q, rfl, rfl⟩
    exact ⟨_, rfl, ending_initReport s name region q⟩

theorem reports_error {s : Settings} {result : Option (Except Failure Unit)} :
    (∃ r, result.map (initReport s name region) = some r ∧ r.ending = .error f) ↔
      result = some (.error f) := by
  rw [reports_iff]
  constructor
  · rintro ⟨q, rfl, ending⟩
    cases q with
    | ok _ => cases ending
    | error e =>
      cases ending
      rfl
  · rintro rfl
    exact ⟨_, rfl, rfl⟩

theorem reports_ok {s : Settings} {result : Option (Except Failure Unit)} :
    (∃ r code, result.map (initReport s name region) = some r ∧ r.ending = .ok code) ↔
      result = some (.ok ()) := by
  constructor
  · rintro ⟨r, code, told⟩
    obtain ⟨q, rfl, ending⟩ := reports_iff.1 ⟨r, told⟩
    cases q with
    | ok _ => rfl
    | error e => cases ending
  · rintro rfl
    exact ⟨_, 0, rfl, ending_initReport s name region (.ok ())⟩

/-- **A starter configuration is written whole or not at all**, whatever breaks off. If the command
fails, it leaves all files as they were; if it succeeds, nothing was there or it was told to
overwrite, and the path leads to the starter configuration. It fails for the configuration exactly
if it may write, but the name or the region is not valid. A process that was killed reports
nothing. If nothing breaks off this is the command itself, and it succeeds unless it may not write,
the name or the region is not valid, or no file can be put where the path leads. -/
theorem init_wholeOrNothing (b : Option Break) (s : Settings) (name region : String) (force : Bool)
    (w : Workplace) :
    let (report, w') := runInitAmid b s name region force w
    (∀ r f, report = some r → r.ending = .error f → w' = w) ∧
    (∀ r code, report = some r → r.ending = .ok code →
      (w.files.exists? s.config = false ∨ force = true) ∧
        Config.load w'.files s.config = .ok (Config.template name region)) ∧
    ((∃ r e, report = some r ∧ r.ending = .error (.config e)) ↔
      (w.files.exists? s.config = false ∨ force = true) ∧
        ¬ (Config.IsName name ∧ Config.Substantial region)) ∧
    (b = none →
      (report, w') =
        (some (runInit s name region force w).1, (runInit s name region force w).2) ∧
      ((∃ r code, report = some r ∧ r.ending = .ok code) ↔
        (w.files.exists? s.config = false ∨ force = true) ∧
          (Config.IsName name ∧ Config.Substantial region) ∧ Placeable w.files s.config)) := by
  have bare := runInitAmid_none s name region force w
  unfold runInitAmid at bare ⊢
  cases ran : startConfigAmid b w.files s.config name region force with
  | mk result t =>
    dsimp only
    refine ⟨fun r f reported failed => ?_, fun r code reported passed => ?_,
      ⟨?_, fun invalid => ?_⟩, ?_⟩
    · obtain rfl := reports_error.1 ⟨r, reported, failed⟩
      rw [(startConfigAmid_failed ran).1]
    · obtain rfl := reports_ok.1 ⟨r, code, reported, passed⟩
      obtain ⟨mayWrite, -, loaded⟩ := startConfigAmid_written ran
      exact ⟨mayWrite, loaded⟩
    · rintro ⟨r, e, told⟩
      obtain rfl := reports_error.1 ⟨r, told⟩
      exact (startConfigAmid_failed ran).2.1 ⟨e, rfl⟩
    · obtain ⟨e, same⟩ := startConfigAmid_invalid (b := b) invalid
      rw [ran] at same
      cases same
      obtain ⟨r, told⟩ := reports_error.2 rfl
      exact ⟨r, e, told⟩
    · rintro rfl
      rw [ran] at bare
      have written : (startConfigAmid none w.files s.config name region force).1 = some (.ok ()) ↔
          _ := startConfigAmid_none_eq_ok
      rw [ran] at written
      exact ⟨bare, reports_ok.trans written⟩

/-- In an empty directory the command writes its configuration. -/
theorem init_wholeOrNothing_emptyTree :
    ∃ r w' code,
      runInitAmid none {} "demo" "eu-1" false ⟨.empty, "noon", [], [], {}⟩ = (some r, w') ∧
      r.ending = .ok code ∧
      Config.load w'.files "kubetester.toml" = .ok (Config.template "demo" "eu-1") := by
  have placeable : Placeable .empty "kubetester.toml" :=
    ⟨by decide +kernel, ["work"], "kubetester.toml", by decide +kernel, by decide, by decide⟩
  have valid : Config.IsName "demo" ∧ Config.Substantial "eu-1" :=
    Config.validate_template.1 (by decide +kernel)
  have absent : FileTree.empty.exists? "kubetester.toml" = false := by decide +kernel
  have told := init_wholeOrNothing none {} "demo" "eu-1" false ⟨.empty, "noon", [], [], {}⟩
  -- The run is kept closed: unfolded, it is the whole writing of the file.
  generalize runInitAmid none {} "demo" "eu-1" false ⟨.empty, "noon", [], [], {}⟩ = run at told ⊢
  obtain ⟨report, w'⟩ := run
  obtain ⟨-, loads, -, bare⟩ := told
  obtain ⟨r, code, rfl, passed⟩ := (bare rfl).2.2 ⟨.inl absent, valid, placeable⟩
  exact ⟨r, w', code, rfl, passed, (loads r code rfl passed).2⟩

end Cli

end Testbed
