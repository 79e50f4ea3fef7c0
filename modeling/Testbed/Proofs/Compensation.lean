import Testbed.Proofs.TeardownOutcome
import Testbed.Proofs.Transcripts

/-!
# Compensation

When provisioning fails, the up saga uploads the artifacts and then, if the configuration says so,
tears down what exists. None of that can change what the saga reports.

**Theorem (`up_compensates`).** The failure of a provisioning is what the up saga fails with. It is
settled, together with everything done up to the closing upload, before the configuration is asked
whether to tear down: a run whose host answers the same until then comes to the same failure. A
compensation is one teardown after the cool-down, of exactly what is recorded as created.
-/

namespace Testbed.Session

variable {ω : Type} {h : Host ω} {s t : Session ω} {e : SagaError}

/-! ## Up to the closing upload -/

/-- Provisioning with the upload that closes it. -/
def provisionAndUpload (h : Host ω) : Action ω SagaError Unit := fun s =>
  ((s.provision h).1, (s.provision h).2.uploadArtifacts h .up)

theorem traced_provisionAndUpload (h : Host ω) (s : Session ω) :
    Traced provisioning (fun _ h => provisionAndUpload h) h s :=
  (traced_provision h s).andThen fun r _ =>
    (traced_uploadArtifacts .up (by simp [provisioning])).andThen fun _ _ => .pure r

/-- The end of an up saga whose provisioning failed. -/
theorem up_of_failed (writable : s.writable = true) (notUp : s.document.up = false)
    (failed : (s.provisionAndUpload h).1 = .error e) :
    s.up h = (.error e,
      let u := (s.provisionAndUpload h).2
      if u.config.onFailure.delete then u.compensate h else u) := by
  rw [up_eq_provision writable notUp]
  unfold provisionAndUpload at failed ⊢
  generalize s.provision h = x at failed ⊢
  obtain ⟨r, t⟩ := x
  obtain rfl : r = .error e := failed
  rfl

theorem history_compensate (h : Host ω) (u : Session ω) :
    u.history <+: (u.compensate h).history := by
  obtain ⟨rs, es, runs, -⟩ := runs_compensate h u
  exact ⟨es, runs.grows.history.symm⟩

/-- A provisioning deletes nothing. -/
theorem deletions_provision (h : Host ω) (s : Session ω) :
    ∃ es, (s.provision h).2.history = s.history ++ es ∧ es.filterMap Event.deletion? = [] := by
  have step (s : Session ω) (a : Act) (allowed : provisioning.Allows s.stop a) :
      ∀ e ∈ eventsOf h s a, e.deletion? = none := by
    intro e he
    cases a with
    | call c =>
      rw [List.mem_singleton.1 he]
      cases c with
      | delete k => exact absurd rfl (allowed k)
      | _ => rfl
    | save change =>
      rw [List.mem_singleton.1 he]
      rfl
    | _ => cases he
  obtain ⟨-, es, grown, kept⟩ := (traced_provision h s).does.invariant (fun _ => True)
    (fun e => e.deletion? = none) (fun s a _ allowed => ⟨trivial, step s a allowed⟩) trivial
  exact ⟨es, grown, List.filterMap_eq_nil_iff.2 kept⟩

/-! ## The compensation -/

/-- What a teardown is that follows a failed provisioning: with the document of `u`, after the
cool-down. -/
structure Reverted (h : Host ω) (u w : Session ω) (records : List Record) (events : List Event) :
    Prop where
  once : w = ((u.settle h .up .compensationCooldown).2.down h).2
  grows : Grows u w records events
  records : ∃ cooldown rs, records = cooldown :: rs ∧ cooldown.saga = .up ∧
    cooldown.heading = SettleReason.compensationCooldown.heading ∧ ∀ r ∈ rs, r.saga = .down

/-- What a compensation does that finds all handles. -/
structure FullyReverted (u w : Session ω) (records : List Record) (events : List Event) :
    Prop where
  headings : records.map Record.heading =
    SettleReason.compensationCooldown.heading :: downPlan u.config u.document
  deletions : ∀ k, (events.filterMap Event.deletion?).count k =
    if u.document.isCreated k then 1 else 0
  clean : failures events = [] → Saved events →
    (∀ k, w.document.isCreated k = false) ∧ w.document.up = false ∧
      lastSaved w.history = some w.document

theorem reverted (h : Host ω) (u : Session ω) :
    ∃ rs es, Reverted h u (u.compensate h) rs es := by
  obtain ⟨rs, es, down⟩ := runsDown_down h (u.settle h .up .compensationCooldown).2
  refine ⟨_, _, rfl, (grows_settle h .up .compensationCooldown u).trans down.runs.grows, ?_⟩
  exact ⟨_, rs, rfl, rfl, rfl, down.saga⟩

theorem Reverted.fully {u w : Session ω} {rs : List Record} {es : List Event}
    (reverted : Reverted h u w rs es) (opened : Opened h true u)
    (driven : ∀ k, u.document.isCreated k = true → u.registry.drives k = true) :
    FullyReverted u w rs es := by
  have pause := grows_settle h .up .compensationCooldown u
  have same : (u.settle h .up .compensationCooldown).2.document = u.document :=
    document_settle ..
  have ready := opened.grows pause
  have driven' : ∀ k, (u.settle h .up .compensationCooldown).2.document.isCreated k = true →
      (u.settle h .up .compensationCooldown).2.registry.drives k = true := by
    rw [same, pause.registry]
    exact driven
  obtain ⟨rs', es', torn, -⟩ := tornDown ready driven'
  have whole := pause.trans torn.runs.grows
  rw [← reverted.once] at whole torn
  -- Both descriptions are of the same run.
  obtain rfl : rs = _ := List.append_cancel_left (reverted.grows.journal.symm.trans whole.journal)
  obtain rfl : es = _ := List.append_cancel_left (reverted.grows.history.symm.trans whole.history)
  refine ⟨?_, fun k => ?_, fun none saved => ?_⟩
  · rw [List.singleton_append, List.map_cons, torn.headings, same, pause.config]
    rfl
  · rw [torn.deletions, same, (nodup_teardownOrder.sublist List.filter_sublist).count]
    simp [mem_teardownOrder]
  · have out := outcome ready driven' (by rwa [← reverted.once, torn.runs.grows.eventsSince])
    have notUp := out.notUp
    have stored := out.stored
    rw [← reverted.once] at notUp stored
    refine ⟨fun k => ?_, notUp, stored⟩
    cases created : w.document.isCreated k with
    | false => rfl
    | true =>
      have failed := ((torn.isCreated_iff k).1 created).2
      rw [none] at failed
      cases failed

/-! ## The whole run -/

/-- **A failed provisioning and what comes after it.** Provisioning fails with `e`, and the closing
upload leaves the session as `u`. Then the up saga fails with `e`, whatever comes after.

What leads to `u` are some acts. In every session `s'` that may differ from `s` in what its
configuration says about failures, on a host that answers these acts alike and later ones as it
likes, the saga fails with `e`, too, and begins with the same calls and saves.

Without a compensation `u` is the end; nothing was deleted, and the flags are those that
provisioning left. A compensation is one teardown, which deletes just what is recorded as created if
it finds all handles. -/
theorem up_compensates (opened : Opened h true s) (notUp : s.document.up = false)
    (failed : (s.provision h).1 = .error e) :
    let t := (s.provision h).2
    let u := t.uploadArtifacts h .up
    let w := (s.up h).2
    (s.up h).1 = .error e ∧
      (∃ acts, follow h acts s = u ∧
        ∀ ⦃ω' : Type⦄ (h' : Host ω') (s' : Session ω'), Twin s s' → SameAnswers h h' acts s s' →
          (s'.up h').1 = .error e ∧ u.history <+: (s'.up h').2.history) ∧
      (∀ onFailure, let s' := { s with config := { s.config with onFailure := onFailure } }
        (s'.up h).1 = .error e ∧ u.history <+: (s'.up h).2.history) ∧
      (∃ f before, u.history = s.history ++ before ++ [.call .uploadArtifacts t.document f] ∧
        before.filterMap Event.deletion? = []) ∧
      u.document = t.document ∧
      (s.config.onFailure.delete = false → w = u) ∧
      (s.config.onFailure.delete = true →
        ∃ rs es, Reverted h u w rs es ∧
          ((∀ k, t.document.isCreated k = true → s.registry.drives k = true) →
            FullyReverted u w rs es)) := by
  intro t u w
  have failed' : (s.provisionAndUpload h).1 = .error e := failed
  obtain ⟨acts, obeys, ends, same⟩ := traced_provisionAndUpload h s
  have ended : w = if u.config.onFailure.delete then u.compensate h else u :=
    congrArg Prod.snd (up_of_failed opened.isWritable notUp failed')
  have twins : ∀ ⦃ω' : Type⦄ (h' : Host ω') (s' : Session ω'), Twin s s' →
      SameAnswers h h' acts s s' →
        (s'.up h').1 = .error e ∧ u.history <+: (s'.up h').2.history := by
    intro ω' h' s' twin answers
    obtain ⟨result, ended'⟩ := same h' s' twin answers
    have after := (twin.follow answers).history
    rw [← ends, ← ended'] at after
    rw [up_of_failed (twin.writable.trans opened.isWritable) (by rw [twin.document, notUp])
      (result.trans failed')]
    refine ⟨rfl, ?_⟩
    show u.history <+: (if _ then _ else _ : Session ω').history
    rw [show u.history = _ from after.symm]
    split
    · exact history_compensate h' _
    · exact List.prefix_rfl
  obtain ⟨es, grown, kept⟩ := deletions_provision h s
  obtain ⟨ran, logs, _, _, provisioned⟩ := provisioned opened
  obtain ⟨f, upload⟩ := runs_uploadArtifacts h .up t
  have grows := provisioned.runs.grows.trans upload.grows
  have uploaded : u.document = t.document := document_uploadArtifacts ..
  refine ⟨congrArg Prod.fst (up_of_failed opened.isWritable notUp failed'),
    ⟨acts, ends.symm, twins⟩, fun onFailure => ?_, ⟨f, es, ?_, kept⟩, uploaded, fun keep => ?_,
    fun delete => ?_⟩
  · have twin : Twin s { s with config := { s.config with onFailure := onFailure } } :=
      { Twin.refl s with config := rfl }
    exact twins h _ twin (twin.sameAnswers rfl acts)
  · rw [upload.grows.history, ← grown]
  · rw [ended, grows.config, if_neg (by simp [keep])]
  · obtain ⟨rs, es, reverted⟩ := reverted h u
    rw [ended, grows.config, if_pos delete]
    refine ⟨rs, es, reverted, fun driven => reverted.fully (opened.grows grows) fun k created => ?_⟩
    rw [grows.registry]
    exact driven k (uploaded ▸ created)

/-- A session on a bench where the network cannot be created; the bucket exists. -/
def narrowSession : Session Bench := sampleSession [.resource .bucket] narrowBench

/-- Why bringing it up fails. -/
def narrowFailure : SagaError := .step "create network" (.failed "create network" "no address left")

/-- The bucket is deleted together with what the run has created. A configuration that keeps it all
reports the same. -/
theorem up_compensates_narrowSession :
    (narrowSession.up sampleHost).1 = .error narrowFailure ∧
      (∀ k, (narrowSession.up sampleHost).2.document.isCreated k = false) ∧
      (narrowSession.up sampleHost).2.document.up = false ∧
      (({ narrowSession with config := { sampleConfig with onFailure := { delete := false } } } :
        Session Bench).up sampleHost).1 = .error narrowFailure := by
  have opened : Opened sampleHost true narrowSession := opened_sampleSession _ rfl rfl
  have failed : (narrowSession.provision sampleHost).1 = .error narrowFailure :=
    error_of_failureOf (by decide +kernel)
  obtain ⟨reported, -, alike, -, -, -, compensated⟩ := up_compensates opened rfl failed
  obtain ⟨rs, es, reverted, fully⟩ := compensated rfl
  have driven : ∀ k ∈ teardownOrder,
      (narrowSession.provision sampleHost).2.document.isCreated k = true →
        narrowSession.registry.drives k = true := by decide +kernel
  have clean := (fully fun k => driven k (mem_teardownOrder k)).clean
  rw [← reverted.grows.eventsSince] at clean
  obtain ⟨nothing, notUp, -⟩ := clean (by decide +kernel) (by decide +kernel)
  exact ⟨reported, nothing, notUp, (alike { delete := false }).1⟩

end Testbed.Session
