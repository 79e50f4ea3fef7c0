import Testbed.Proofs.Handles
import Testbed.Proofs.Intent
import Testbed.Proofs.Questions

/-!
# Sessions that change nothing

A session that is opened read-only can be asked, but its sagas are refused. An opening that is
refused has not touched its host. An opening that succeeds for writing saves once, and what it saves
is the document of the store with what the configuration says of its components.

**Theorem (`frame_of_start`).** All of this, for every host, configuration and moment, and for
whatever is tried in a read-only session afterwards.
-/

namespace Testbed.Session

variable {ω : Type} {h : Host ω} {c : Config} {writable : Bool} {stop : StopSignal} {w w' : ω}
  {s t : Session ω} {d : StateDocument} {e : SagaError}

/-! ## Read-only sessions -/

theorem down_readOnly (opened : Opened h false s) : s.down h = (.error (.readOnly .down), s) := by
  rw [down, allow, opened.isWritable]
  rfl

/-- All that is done in a read-only session is to ask. -/
theorem does_readOnly (opened : Opened h false s) (o : Operation) :
    Does asking h s (s.operate h o) := by
  cases o with
  | up =>
    rw [operate, up_readOnly opened]
    exact .refl s
  | down =>
    rw [operate, down_readOnly opened]
    exact .refl s
  | isUp => exact does_isUp h s
  | dumpLogs => exact does_dumpLogs h s

/-- Whatever is done in a read-only session, its document is the same and it only asked. -/
theorem Operated.questions (life : Operated h s t) (opened : Opened h false s)
    (untouched : s.history = []) :
    Opened h false t ∧ t.document = s.document ∧ ∀ e ∈ t.history, e.Question s.document := by
  induction life with
  | here => exact ⟨opened, rfl, by simp [untouched]⟩
  | @next t _ o stop w ih =>
    obtain ⟨opened', same, asked⟩ := ih
    have resumed : Opened h false { t with stop := stop, world := w } :=
      opened'.grows ⟨rfl, rfl, rfl, (List.append_nil _).symm, (List.append_nil _).symm⟩
    obtain ⟨rs, es, runs⟩ := runs_operation resumed o
    obtain ⟨same', es', grown, asked'⟩ := (does_readOnly resumed o).questions
    refine ⟨resumed.grows runs.grows, same'.trans same, ?_⟩
    rw [grown]
    exact List.forall_mem_append.2 ⟨asked, fun e mem => same ▸ asked' e mem⟩

/-! ## Openings -/

/-- An opening is refused before anything is saved: the configuration is invalid, the document
cannot be loaded, or it is that of another environment. -/
def Refused (h : Host ω) (w : ω) (e : SagaError) : Prop :=
  (∃ f, e = .config f) ∨ (∃ f, h.load w = .error f) ∨ ∃ expected found,
    e = .stateMismatch expected found

/-- An opening that came to its document was not refused. -/
theorem not_refused_of_loaded (loaded : startingDocument h c w = .ok d) (f : StoreError) :
    ¬ Refused h w (.store f) := by
  rintro (⟨f, other⟩ | ⟨f, failed⟩ | ⟨x, y, other⟩)
  · cases other
  · unfold startingDocument at loaded
    rw [failed] at loaded
    cases loaded
  · cases other

/-- What is refused is so whatever the provider and the saves would do, and nothing has happened. -/
theorem start_of_refused (failed : start h c writable stop w = (.error e, w'))
    (refused : Refused h w e) (provider : Provider ω)
    (save : StateDocument → ω → Except StoreError Unit × ω) :
    w' = w ∧ start { h with provider := provider, save := save } c writable stop w =
      (.error e, w) := by
  cases valid : c.validate with
  | error f =>
    rw [start_of_invalid valid] at failed
    cases failed
    exact ⟨rfl, start_of_invalid valid⟩
  | ok _ =>
    cases loaded : startingDocument h c w with
    | error f =>
      rw [start_of_missing valid loaded] at failed
      cases failed
      exact ⟨rfl, start_of_missing valid loaded⟩
    | ok d =>
      -- From here on only the save can fail.
      rw [start_of_loaded valid loaded] at failed
      cases writable with
      | false => cases failed
      | true =>
        cases saved : (starting h c true stop w (d.syncIntent c)).update h fun _ d => d with
        | mk r s =>
          rw [saved] at failed
          cases r with
          | ok _ => cases failed
          | error f =>
            cases failed
            exact absurd refused (not_refused_of_loaded loaded f)

/-- A read-only opening leaves the world as it is. -/
theorem world_of_readOnly (opened : start h c false stop w = (.ok s, w')) : w' = w := by
  obtain ⟨d, st⟩ := started opened
  rw [start_of_loaded st.valid st.loaded] at opened
  cases opened
  rfl

/-- An opening for writing leaves the world as the save of its document does. -/
theorem save_of_start (opened : start h c true stop w = (.ok s, w')) :
    h.save s.document w = (.ok (), w') := by
  obtain ⟨d, st⟩ := started opened
  have document : s.document = (d.syncIntent c).touch (h.now w) := st.document
  rw [start_of_loaded st.valid st.loaded] at opened
  have update : (starting h c true stop w (d.syncIntent c)).update h (fun _ d => d) =
      ((h.save s.document w).1, { starting h c true stop w (d.syncIntent c) with
        document := s.document
        history := [.save s.document (failureOf (h.save s.document w).1)]
        world := (h.save s.document w).2 }) := by
    rw [document]
    rfl
  rw [update] at opened
  generalize h.save s.document w = x at opened
  obtain ⟨r, w₁⟩ := x
  cases r with
  | error f => cases opened
  | ok _ => exact congrArg (Prod.mk _) (congrArg Prod.snd opened)

/-- **Who may not change anything does not.** A read-only opening leaves the host as it is, and
whatever is tried in the session afterwards, both sagas are refused, the document stays what was
loaded, synced with the configuration, and nothing is ever done but to ask; in particular nothing is
saved. An opening that is refused, for reading or for writing, does the same whatever the provider
and the store would do, and leaves the host as it is. An opening for writing that succeeds saves
once, and what it saves differs from what was loaded only in what syncing changes. -/
theorem frame_of_start (h : Host ω) (c : Config) (stop : StopSignal) (w : ω) :
    (∀ s w', start h c false stop w = (.ok s, w') → w' = w ∧
      (∃ d, startingDocument h c w = .ok d ∧ s.document = d.syncIntent c ∧
        s.document.up = d.up ∧ s.document.isCreated = d.isCreated) ∧
      ∀ t, Operated h s t → t.document = s.document ∧
        (∀ e ∈ t.history, e.Question s.document) ∧
        ∀ stop₁ w₁, let u : Session ω := { t with stop := stop₁, world := w₁ }
          u.up h = (.error (.readOnly .up), u) ∧ u.down h = (.error (.readOnly .down), u)) ∧
    (∀ writable e w', start h c writable stop w = (.error e, w') → Refused h w e →
      w' = w ∧ ∀ provider save,
        start { h with provider := provider, save := save } c writable stop w = (.error e, w)) ∧
    ∀ s w', start h c true stop w = (.ok s, w') →
      s.history = [.save s.document none] ∧ h.save s.document w = (.ok (), w') ∧
        ∃ d, startingDocument h c w = .ok d ∧ Synced c d s.document := by
  refine ⟨fun s w' opened => ?_, fun writable e w' failed refused => ?_, fun s w' opened => ?_⟩
  · obtain ⟨d, st⟩ := started opened
    have document : s.document = d.syncIntent c := st.document
    have readOnly : Opened h false s := ⟨c, stop, w, w', s, opened, rfl, rfl, rfl⟩
    refine ⟨world_of_readOnly opened, ⟨d, st.loaded, document, by rw [document]; rfl, ?_⟩,
      fun t life => ?_⟩
    · rw [document, StateDocument.isCreated_syncIntent]
    · obtain ⟨opened', same, asked⟩ := life.questions readOnly st.history
      refine ⟨same, asked, fun stop₁ w₁ => ?_⟩
      have resumed : Opened h false { t with stop := stop₁, world := w₁ } :=
        opened'.grows ⟨rfl, rfl, rfl, (List.append_nil _).symm, (List.append_nil _).symm⟩
      exact ⟨up_readOnly resumed, down_readOnly resumed⟩
  · exact ⟨(start_of_refused failed refused h.provider h.save).1,
      fun provider save => (start_of_refused failed refused provider save).2⟩
  · obtain ⟨d, st⟩ := started opened
    refine ⟨st.history, save_of_start opened, d, st.loaded, ?_⟩
    have document : s.document = (d.syncIntent c).touch (h.now w) := st.document
    rw [document]
    exact d.synced c (h.now w)

/-- A bench whose store holds the document of an environment that is up. -/
def standingBench : Bench where
  now := "noon"
  store := .memory (some ((StateDocument.new sampleConfig.name "dawn").markUp "dawn"))

/-- On this bench a read-only session asks whether the environment is up and saves nothing, an
opening that cannot load is refused, and an opening for writing saves. -/
theorem frame_of_start_standingBench :
    (∃ s, start sampleHost sampleConfig false {} standingBench = (.ok s, standingBench) ∧
      (s.isUp sampleHost).2.history = [.call .checkHealth s.document none] ∧
      (s.isUp sampleHost).2.document = s.document ∧ s.document.up = true) ∧
    (∃ e w, start sampleHost sampleConfig true {} { standingBench with failsLoad := true } =
        (.error e, w) ∧ w = { standingBench with failsLoad := true }) ∧
    ∃ s, start sampleHost sampleConfig true {} standingBench = (.ok s, s.world) ∧
      s.history = [.save s.document none] ∧ s.document.up = true := by
  have valid : sampleConfig.validate = .ok () := rfl
  have loaded : startingDocument sampleHost sampleConfig standingBench =
      .ok ((StateDocument.new sampleConfig.name "dawn").markUp "dawn") := rfl
  refine ⟨?_, ?_, ?_⟩
  · have opened : start sampleHost sampleConfig false {} standingBench =
        (.ok (starting sampleHost sampleConfig false {} standingBench _), standingBench) :=
      start_of_loaded valid loaded
    obtain ⟨-, ⟨d, loaded', -, up, -⟩, afterwards⟩ :=
      (frame_of_start sampleHost sampleConfig {} standingBench).1 _ _ opened
    cases loaded.symm.trans loaded'
    obtain ⟨same, -, -⟩ := afterwards _ (.next .here .isUp {} standingBench)
    exact ⟨_, opened, rfl, same, up⟩
  · have failed : start sampleHost sampleConfig true {} { standingBench with failsLoad := true } =
        (.error (.store (Bench.deviceFailure "disk offline")),
          { standingBench with failsLoad := true }) := start_of_missing valid rfl
    exact ⟨_, _, failed, ((frame_of_start sampleHost sampleConfig {} _).2.1 _ _ _ failed
      (.inr (.inl ⟨_, rfl⟩))).1⟩
  · obtain ⟨s, opened⟩ := start_of_stored (h := sampleHost) (w := standingBench) {}
      (by decide : sampleConfig.fault? = none) rfl rfl rfl
    obtain ⟨saved, -, d, loaded', synced⟩ :=
      (frame_of_start sampleHost sampleConfig {} standingBench).2.2 _ _ opened
    cases loaded.symm.trans loaded'
    exact ⟨s, opened, saved, by rw [synced.rest]; rfl⟩

end Testbed.Session
