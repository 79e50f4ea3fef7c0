import Testbed.Proofs.Completeness
import Testbed.Proofs.Handles

/-!
# The save that closes an up saga

The last thing an up saga does is to record the environment as up. It does so in memory first, and
saves the document afterwards. If this save fails, the saga fails, too, but the document in memory
goes on saying that the environment is up.

**Theorem (`failed_up_iff`).** After an up saga that failed, the document in memory says that the
environment is up exactly if the whole provisioning succeeded, so that nothing but the closing save
can have failed. Nothing that was saved says so.

**Counterexample (`failed_up_claims_up`).** On a full disk the saga fails at its last save, and the
next one in the same session succeeds at once, without having saved anything.
-/

namespace Testbed.Session

variable {ω : Type} {h : Host ω} {s t : Session ω} {e : SagaError} {writable : Bool}

theorem provisioning_within_lowering : provisioning.Within lowering where
  call _ _ _ := trivial
  change _ allowed now d up := by
    obtain ⟨k, y, rfl⟩ := allowed
    rwa [← up_set d k true now]

/-- A provisioning that succeeds has passed all stages before the collection of logs, and it has
collected them. -/
theorem provision_ok (ok : (s.provision h).1 = .ok ()) :
    (s.runPlanned h).1 = .ok () ∧ (s.provision h).2 = (s.runPlanned h).2.collect h := by
  have split : s.provision h = s.runAll (runStage h) (plannedStages s.registry ++ [.collect]) := by
    rw [provision, stages_eq]
  rw [split, runAll_append] at ok ⊢
  unfold runPlanned
  generalize s.runAll (runStage h) (plannedStages s.registry) = x at ok ⊢
  obtain ⟨r, t⟩ := x
  cases r with
  | ok _ => exact ⟨rfl, rfl⟩
  | error e => cases ok

/-- The environment is there, but the save that was to record it as up has failed. -/
structure Unrecorded (h : Host ω) (s t : Session ω) (e : SagaError) : Prop where
  complete : Complete s.config t.document
  failed : ∃ f before, e = .store f ∧ t.history = before ++ [.save t.document (some f)]
  /-- Whatever comes next, another up saga has nothing to do. -/
  idle : ∀ (h' : Host ω) (stop : StopSignal) (w : ω),
    let u := { t with stop := stop, world := w }
    u.up h' = (.ok (), u)

/-- What a failed provisioning leaves behind, a compensation included, is not recorded as up. -/
theorem does_failed_up (isWritable : s.writable = true) (notUp : s.document.up = false)
    (failed : (s.provision h).1 = .error e) : Does lowering h s (s.up h).2 := by
  have provisions := (traced_provision h s).does.mono provisioning_within_lowering
  rw [up_eq_provision isWritable notUp]
  generalize s.provision h = x at failed provisions ⊢
  obtain ⟨r, t⟩ := x
  obtain rfl : r = .error e := failed
  have uploaded : Does lowering h s (t.uploadArtifacts h .up) :=
    provisions.trans (does_uploadArtifacts .up trivial)
  dsimp only
  split
  · exact uploaded.trans ((does_compensate h _).mono tearingDown_within_lowering)
  · exact uploaded

/-- If provisioning succeeds and the saga fails all the same, the closing save has failed. -/
theorem unrecorded_up (opened : Opened h true s) (notUp : s.document.up = false)
    (provisioned : (s.provision h).1 = .ok ()) (failed : (s.up h).1 = .error e) :
    (s.up h).2.document.up = true ∧ Unrecorded h s (s.up h).2 e ∧
      ∃ es, (s.up h).2.history = s.history ++ es ∧ ∀ d, .save d none ∈ es → d.up = false := by
  obtain ⟨passed, collected⟩ := provision_ok provisioned
  have ended : s.up h = (((s.runPlanned h).2.collect h).uploadArtifacts h .up).commit h
      fun now d => d.markUp now := by
    rw [up_eq_provision opened.isWritable notUp, ← collected]
    generalize s.provision h = x at provisioned ⊢
    obtain ⟨r, v⟩ := x
    cases provisioned
    rfl
  have complete :
      Complete s.config (((s.runPlanned h).2.collect h).uploadArtifacts h .up).document := by
    rw [document_uploadArtifacts, document_collect]
    exact complete_of_planned opened passed
  -- Up to the closing save, nothing is saved as up.
  obtain ⟨es, grown, saves⟩ := saves_of_lowering (((traced_runPlanned h s).does.mono
    planned_within_lowering).trans (((does_collect h _).mono collecting_within_lowering).trans
      (does_uploadArtifacts .up trivial))) notUp
  generalize ((s.runPlanned h).2.collect h).uploadArtifacts h .up = v at ended complete grown saves
  have marked := (grows_commit h (fun now d => d.markUp now) v).history
  have up : (s.up h).2.document.up = true := by
    rw [ended]
    rfl
  obtain ⟨f, d, rfl, last⟩ := failed_commit (ended ▸ failed)
  have missed : failureOf (v.update h fun now d => d.markUp now).1 = some f := by
    rw [marked, List.getLast?_concat] at last
    injection last with last
    injection last
  rw [missed, ← ended] at marked
  obtain ⟨rs, es', runs⟩ := runs_up (h := h) opened
  have isWritable := (opened.grows runs.grows).isWritable
  refine ⟨up, ⟨?_, ⟨f, v.history, rfl, marked⟩, ?_⟩, es ++ [.save (s.up h).2.document (some f)],
    ?_, ?_⟩
  · rw [ended]
    exact fun k wanted => complete k wanted
  · intro h' stop w
    generalize (s.up h).2 = t at up isWritable
    exact up_of_writable isWritable up
  · rw [marked, grown, List.append_assoc]
  · intro d mem
    rcases List.mem_append.1 mem with mem | mem
    · exact saves d none mem
    · cases List.mem_singleton.1 mem

/-- **After a failed up saga.** The document in memory says that the environment is up exactly if
provisioning succeeded. Then it is right, but its save has failed, and another up saga of the
session does nothing. No document that was saved says that the environment is up. -/
theorem failed_up_iff {writable : Bool} (opened : Opened h writable s)
    (notUp : s.document.up = false) (failed : (s.up h).1 = .error e) :
    let t := (s.up h).2
    (t.document.up = true ↔ writable = true ∧ (s.provision h).1 = .ok ()) ∧
      (t.document.up = true → Unrecorded h s t e) ∧
      ∃ es, t.history = s.history ++ es ∧ ∀ d, .save d none ∈ es → d.up = false := by
  intro t
  cases writable with
  | false =>
    have refused : t = s := congrArg Prod.snd (up_readOnly opened)
    rw [refused]
    refine ⟨?_, ?_, [], (List.append_nil _).symm, by simp⟩
    · simp [notUp]
    · simp [notUp]
  | true =>
    cases provisioned : (s.provision h).1 with
    | error e' =>
      have lowers : Does lowering h s t := does_failed_up opened.isWritable notUp provisioned
      obtain ⟨es, grown, saves⟩ := saves_of_lowering lowers notUp
      have still : t.document.up = false := by
        rw [Bool.eq_false_iff]
        intro up
        have before := (up_of_lowering lowers).1 up
        rw [notUp] at before
        cases before
      exact ⟨by simp [still], by simp [still], es, grown, fun d mem => saves d none mem⟩
    | ok _ =>
      obtain ⟨up, unrecorded, saves⟩ := unrecorded_up opened notUp provisioned failed
      exact ⟨by simp [t, up], fun _ => unrecorded, saves⟩

/-- A bench whose disk is full when the environment is to be recorded as up. -/
def fullBench : Bench := { Moment.calmBench with failingSaves := [9] }

theorem start_fullBench :
    start sampleHost sampleConfig true {} fullBench =
      (.ok (firstSession sampleHost sampleConfig {} fullBench),
        (firstSession sampleHost sampleConfig {} fullBench).world) :=
  start_of_empty {} (by decide) rfl rfl

theorem up_fails_fullBench :
    ((firstSession sampleHost sampleConfig {} fullBench).up sampleHost).1 =
      .error (.store (Bench.deviceFailure "disk full")) :=
  error_of_failureOf (by decide +kernel)

theorem failed_up_iff_fullBench :
    let s := firstSession sampleHost sampleConfig {} fullBench
    (s.provision sampleHost).1 = .ok () ∧
      Unrecorded sampleHost s (s.up sampleHost).2 (.store (Bench.deviceFailure "disk full")) := by
  intro s
  have opened : Opened sampleHost true s := ⟨_, _, _, _, _, start_fullBench, rfl, rfl, rfl⟩
  obtain ⟨claims, unrecorded, -⟩ := failed_up_iff opened rfl up_fails_fullBench
  have up : (s.up sampleHost).2.document.up = true := by decide +kernel
  exact ⟨(claims.1 up).2, unrecorded up⟩

/-- A failed saga may leave a document in memory that says that the environment is up. The next one
then succeeds without doing anything, while the store holds a document that says it is not up. -/
theorem failed_up_claims_up :
    let s := firstSession sampleHost sampleConfig {} fullBench
    let t := (s.up sampleHost).2
    start sampleHost sampleConfig true {} fullBench = (.ok s, s.world) ∧ s.document.up = false ∧
      (s.up sampleHost).1 = .error (.store (Bench.deviceFailure "disk full")) ∧
      t.document.up = true ∧ t.up sampleHost = (.ok (), t) ∧
      (lastSaved t.history).map (·.up) = some false := by
  intro s t
  have up : t.document.up = true := by decide +kernel
  have isWritable : t.writable = true := by decide +kernel
  exact ⟨start_fullBench, rfl, up_fails_fullBench, up, up_of_writable isWritable up,
    by decide +kernel⟩

end Testbed.Session
