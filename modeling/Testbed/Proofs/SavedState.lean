import Testbed.Proofs.FileTrees
import Testbed.Proofs.WrittenJson
import Testbed.State.Store

/-!
# Saved state loads back

A save prints the document under its own seal, writes the text to a fresh file and moves that into
place. A load reads the text back and takes the digest once more, now of the document that was read.

**Theorem (`load_of_save`).** Once a document of the current version was saved, over whatever was
there before, loading gives it back under its seal, the same in all other fields; and saving what
was loaded succeeds and changes no file.

The text comes first: each part of a document is printed as an object that has its fields in the
order in which the rules of its record stand, a text that is absent left out and absent from the
start (`fills_optionalText`). So a document is what its text is read as (`parse_text`), and the seal
that is checked is the one that was taken. Then the files: what a save leaves in place (`InPlace`)
is what the path of the document leads to, and the next save can replace it.
-/

namespace Testbed

open Json

/-! ## Documents as text -/

section Fields

variable {σ : Type} {rules : List (FieldRule σ)} {s t : σ} {fs : List (String × Json)}

/-- A text that is left out where there is none, read into a record that has none yet. -/
theorem fills_optionalText {name : String} {set : Option String → σ → σ} (o : Option String)
    (none : set none s = s) (later : Fills rules (set o s) fs t) :
    Fills (StateDocument.optionalText name set :: rules) s (optionalField name o ++ fs) t := by
  cases o with
  | none => exact .absent rfl (by rwa [none] at later)
  | some x => exact .optional (reads_nullable_text x) later

end Fields

theorem reads_resource (r : ResourceState) :
    Reads (.record "ResourceState" StateDocument.resourceFields {}) r.toJson r := by
  refine Fills.reads ?_ (by decide) _
  refine .needed (reads_boolean r.created) ?_
  rw [← List.append_nil (optionalField _ _)]
  exact fills_optionalText r.createdAt rfl .done

theorem reads_component (c : ComponentState) :
    Reads (.record "ComponentState" StateDocument.componentFields {}) c.toJson c := by
  refine Fills.reads ?_ (by decide) _
  refine .needed (reads_boolean c.enabled) ?_
  refine .needed (reads_boolean c.created) ?_
  refine .optional (reads_boolean c.fetchLogsRequested) ?_
  refine fills_optionalText c.nameSpace rfl ?_
  rw [← List.append_nil (optionalField _ _)]
  exact fills_optionalText c.createdAt rfl .done

theorem reads_clusterRefs (r : ClusterRefs) :
    Reads (.record "ClusterRefs" StateDocument.clusterFields {}) r.toJson r := by
  refine Fills.reads ?_ (by decide) _
  rw [List.append_assoc]
  refine fills_optionalText r.endpoint rfl ?_
  refine fills_optionalText r.arn rfl ?_
  rw [← List.append_nil (optionalField _ _)]
  exact fills_optionalText r.certificateAuthority rfl .done

namespace StateDocument

variable {d : StateDocument}

/-- A document is read back from its text. -/
theorem parse_text (small : d.version < Nat.pow 2 32) : parse d.text = .ok d := by
  apply readAll_pretty
  refine Fills.reads ?_ (by decide) _
  simp only [List.append_assoc, List.cons_append, List.nil_append]
  -- Each field is put into the record so far, which is brought back to a plain record at once.
  refine .needed (reads_word32 small) ?_
  dsimp only
  refine .needed (reads_text d.name) ?_
  dsimp only
  refine .needed (reads_boolean d.up) ?_
  dsimp only
  refine .needed (reads_text d.createdAt) ?_
  dsimp only
  refine .needed (reads_text d.updatedAt) ?_
  dsimp only
  refine fills_optionalText d.upAt rfl ?_
  dsimp only
  refine fills_optionalText d.downAt rfl ?_
  dsimp only
  refine .optional (reads_clusterRefs d.cluster) ?_
  dsimp only
  refine .optional (reads_named reads_resource d.resources) ?_
  dsimp only
  refine .optional (reads_named reads_component d.nodeGroups) ?_
  dsimp only
  refine .optional (reads_named reads_component d.addOns) ?_
  dsimp only
  rw [← List.append_nil (optionalField _ _)]
  exact fills_optionalText d.checksum rfl .done

/-- The digest is that of the document without its seal. -/
theorem sealed_sealed (d : StateDocument) : d.sealed.sealed = d.sealed := rfl

theorem accept_sealed (path : String) (current : d.version = stateFormatVersion) :
    accept path d.sealed.text = .ok d.sealed := by
  have small : d.sealed.version < Nat.pow 2 32 := by
    rw [sealed, current]
    decide
  have version : d.sealed.version = stateFormatVersion := current
  rw [accept, parse_text small]
  simp only [Except.mapError, bind, Except.bind, version, ne_eq, not_true_eq_false, if_false]
  simp [sealed, digest]

end StateDocument

namespace FileStore

variable {s : FileStore} {content : ByteArray} {t t' : FileTree} {v : Saving}
  {d : StateDocument}

/-! ## Saved files -/

theorem run_cons_eq {next : SaveStep} {steps : List SaveStep} {v' : Saving} :
    s.run content (next :: steps) v = (none, v') ↔
      ∃ u, s.step content v next = .ok u ∧ s.run content steps u = (none, v') := by
  rw [run]
  cases s.step content v next <;> simp

/-- A save that comes to its end made a fresh file, filled it and put it in place. -/
theorem run_all_eq :
    s.run content SaveStep.all ⟨t, none⟩ = (none, v) ↔
      ∃ t₁ t₂ p, t.makeDirectories (s.layout.directory s.name) = .ok t₁ ∧
        t₁.makeTemporary (s.layout.directory s.name) = .ok (t₂, p) ∧
        (t₂.fill p content).rename p s.path = .ok v.tree ∧ v.temporary = none := by
  simp only [SaveStep.all, run_cons_eq]
  constructor
  · rintro ⟨v₁, step₁, v₂, step₂, v₃, step₃, v₄, step₄, v₅, step₅, v₆, step₆, ended⟩
    obtain ⟨t₁, made, ⟨⟩⟩ := exists_of_bind step₁
    obtain ⟨⟨t₂, p⟩, fresh, ⟨⟩⟩ := exists_of_bind step₂
    cases step₃
    cases step₄
    obtain ⟨t₃, put, ⟨⟩⟩ := exists_of_bind step₅
    cases step₆
    cases ended
    exact ⟨t₁, t₂, p, made, fresh, put, rfl⟩
  · rintro ⟨t₁, t₂, p, made, fresh, put, ended⟩
    have whole : v = ⟨v.tree, none⟩ := by rw [← ended]
    refine ⟨⟨t₁, none⟩, ?_, ⟨t₂, some p⟩, ?_, ⟨t₂.fill p content, some p⟩, rfl, _, rfl, v, ?_, v,
      rfl, rfl⟩
    · simp [step, made, bind, Except.bind]
    · simp [step, fresh, bind, Except.bind]
    · rw [whole]
      simp [step, put, bind, Except.bind]

/-- The file of the document is in its directory, with a content. -/
structure InPlace (s : FileStore) (content : ByteArray) (t : FileTree) : Prop where
  /-- The directory is there. -/
  directory : ∃ here, t.locate (s.layout.directory s.name) = .ok here ∧ t.isDirectoryAt here
  /-- And the file, where the path of the document leads. -/
  file : ∃ here name, t.target s.path = .ok (here, some name, false) ∧
    FileTree.isDots name = false ∧
    t.get? (here ++ [name]) = some (.file content FileTree.privateMode)

theorem InPlace.read (inPlace : s.InPlace content t) :
    t.exists? s.path ∧ t.read s.path = .ok content := by
  obtain ⟨here, name, aim, plain, file⟩ := inPlace.file
  have found := FileTree.locate_of_target aim plain (by rw [file]; rfl)
  simp [FileTree.exists?, FileTree.read, found, file, Except.toBool, bind, Except.bind]

/-- What a save leaves behind. -/
theorem inPlace_of_run (saved : s.run content SaveStep.all ⟨t, none⟩ = (none, v)) :
    s.InPlace content v.tree := by
  obtain ⟨t₁, t₂, p, -, fresh, put, -⟩ := run_all_eq.1 saved
  obtain ⟨home, found, dir, rfl, rfl⟩ := FileTree.makeTemporary_eq_ok.1 fresh
  rw [← FileTree.withFresh] at put
  obtain ⟨keeps, placed⟩ := FileTree.placed_of_rename put
  exact ⟨⟨home, FileTree.locate_keeps keeps found dir, keeps.directory home dir⟩, placed⟩

/-- Once its file is in place, a document can be saved anew; with the same content this changes
nothing. -/
theorem InPlace.run_again (inPlace : s.InPlace content t) :
    ∃ v, s.run content SaveStep.all ⟨t, none⟩ = (none, v) ∧ ∀ p, v.tree.get? p = t.get? p := by
  obtain ⟨⟨home, found, dir⟩, here, name, aim, plain, file⟩ := inPlace
  have other : here ++ [name] ≠ t.freshPlace home := by
    intro same
    rw [same, FileTree.get?_freshPlace] at file
    cases file
  have kept : (t.withFresh home content).get? (here ++ [name]) =
      some (.file content FileTree.privateMode) := by
    rw [FileTree.get?_withFresh, if_neg other, file]
  refine ⟨⟨((t.withFresh home content).erase (t.freshPlace home)).put (here ++ [name])
    (.file content FileTree.privateMode), none⟩, run_all_eq.2 ?_, fun p => ?_⟩
  · refine ⟨t, _, _, FileTree.makeDirectories_of_locate found dir,
      FileTree.makeTemporary_eq_ok.2 ⟨home, found, dir, rfl, rfl⟩,
      FileTree.rename_eq_ok.2 ⟨here, name, _,
        FileTree.target_keeps (t.keeps_withFresh home content) aim, plain, ?_, ?_, rfl⟩, rfl⟩
    · rw [← FileTree.withFresh, FileTree.isDirectoryAt_iff, kept]
      simp
    · rw [← FileTree.withFresh, FileTree.get?_withFresh, if_pos rfl]
  · rw [FileTree.get?_move (t.freshPlace_ne_root home) (by simp)]
    split_ifs with replaced fresh
    · rw [replaced, file]
    · rw [fresh, FileTree.get?_freshPlace]
    · rw [FileTree.get?_withFresh, if_neg fresh]

/-! ## Saving and loading -/

theorem save_eq_ok :
    s.save d t = (.ok (), t') ↔
      ∃ v, s.run d.sealed.text.toUTF8 SaveStep.all ⟨t, none⟩ = (none, v) ∧
        t' = Saving.settle v := by
  unfold save
  constructor
  · intro saved
    split at saved
    · next v ran => exact ⟨v, ran, (Prod.mk.inj saved).2.symm⟩
    · cases (Prod.mk.inj saved).1
  · rintro ⟨v, ran, rfl⟩
    rw [ran]

theorem settle_of_run (ran : s.run content SaveStep.all ⟨t, none⟩ = (none, v)) :
    Saving.settle v = v.tree := by
  obtain ⟨-, -, -, -, -, -, ended⟩ := run_all_eq.1 ran
  rw [Saving.settle, ended]
  rfl

/-- What is in place under its seal is loaded. -/
theorem InPlace.load (inPlace : s.InPlace d.sealed.text.toUTF8 t)
    (current : d.version = stateFormatVersion) : s.load t = .ok (some d.sealed) := by
  obtain ⟨there, read⟩ := inPlace.read
  have text := FileTree.readText_of_read read
  simp [FileStore.load, there, text, StateDocument.accept_sealed s.path current, Except.mapError,
    bind, Except.bind]

/-- **Saved state loads back.** -/
theorem load_of_save (current : d.version = stateFormatVersion)
    (saved : s.save d t = (.ok (), t')) :
    ∃ d', s.load t' = .ok (some d') ∧ { d' with checksum := d.checksum } = d ∧
      d'.checksum = some (Digest.hex ({ d with checksum := none }.text.toUTF8)) ∧
      t'.read s.path = .ok d'.text.toUTF8 ∧
      ∃ t'', s.save d' t' = (.ok (), t'') ∧ t''.read s.path = t'.read s.path ∧
        ∀ p, t''.get? p = t'.get? p := by
  obtain ⟨v, ran, rfl⟩ := save_eq_ok.1 saved
  rw [settle_of_run ran]
  have inPlace := inPlace_of_run ran
  obtain ⟨v', again, same⟩ := inPlace.run_again
  have inPlace' := inPlace_of_run again
  have savedAgain : s.save d.sealed v.tree = (.ok (), v'.tree) :=
    save_eq_ok.2 ⟨v', d.sealed_sealed.symm ▸ again, (settle_of_run again).symm⟩
  refine ⟨d.sealed, inPlace.load current, rfl, rfl, inPlace.read.2, v'.tree, savedAgain, ?_, same⟩
  rw [inPlace'.read.2, inPlace.read.2]

/-- A document under a stale seal, with names and texts that have to be escaped. -/
def sampleDocument : StateDocument :=
  { StateDocument.new "demo" "2024-05-01T08:00:00Z" with
    cluster := { endpoint := some "https://example" }
    resources := .ofList [("cluster", { created := true, createdAt := some "08:01" })]
    addOns := .ofList
      [("jobs_pi", { enabled := true }), ("a \"quoted\" name", { nameSpace := some "two\nlines" })]
    checksum := some "stale" }

theorem load_of_save_sampleDocument :
    let s : FileStore := ⟨⟨"state"⟩, "demo"⟩
    let t := FileTree.ofFiles [("state/demo/state.json", some "spoilt".toUTF8)]
    sampleDocument.version = stateFormatVersion ∧ ∃ t', s.save sampleDocument t = (.ok (), t') ∧
      ∃ d', s.load t' = .ok (some d') ∧ { d' with checksum := some "stale" } = sampleDocument ∧
        d'.checksum = some (Digest.hex ({ sampleDocument with checksum := none }.text.toUTF8)) ∧
        t'.read s.path = .ok d'.text.toUTF8 ∧
        ∃ t'', s.save d' t' = (.ok (), t'') ∧ t''.read s.path = t'.read s.path ∧
          ∀ p, t''.get? p = t'.get? p := by
  intro s t
  have passed : (s.save sampleDocument t).1.isOk = true := by decide +kernel
  have saved : s.save sampleDocument t = (.ok (), (s.save sampleDocument t).2) := by
    refine Prod.ext ?_ rfl
    cases result : (s.save sampleDocument t).1 with
    | error e =>
      rw [result] at passed
      cases passed
    | ok _ => rfl
  exact ⟨rfl, _, saved, load_of_save rfl saved⟩

end FileStore

end Testbed
