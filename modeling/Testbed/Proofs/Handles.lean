import Testbed.Proofs.Causes
import Testbed.Proofs.Faults
import Testbed.Proofs.Lives
import Testbed.Proofs.Transcripts

/-!
# What cannot be driven

A session asks its provider once, when it is opened, what can be done with each component that the
configuration wants or the document records. Later the flags of the document change, but a
component is never flagged that was neither wanted nor recorded then.

**Theorem (`missing_handles`).** Whatever is done in a session: an operation that fails because
something cannot be driven names a component that the provider could not drive when the session was
opened, or GPUs that it cannot set up. With the provider that runs commands this never happens.
-/

namespace Testbed

/-! ## Entries of the registry -/

namespace Registry

variable {c : Config} {d : StateDocument} {handle? : Component → Option Handle}

theorem addOn?_materialize {k : AddOnKind} (called : wantsAddOn c d k = true) :
    (materialize c d handle?).addOn? k = some ⟨k, c.addOnEnabled k, handle? (.addOn k)⟩ := by
  cases found : (materialize c d handle?).addOn? k with
  | none =>
    have absent := List.find?_eq_none.1 found (entryOf c handle? k)
      (addOns_materialize ▸
        List.mem_map.2 ⟨k, List.mem_filter.2 ⟨AddOnKind.mem_all k, called⟩, rfl⟩)
    simp [entryOf] at absent
  | some e =>
    obtain ⟨k', -, rfl⟩ := List.mem_map.1 (addOns_materialize ▸ List.mem_of_find?_eq_some found)
    have chosen := List.find?_some found
    have same : k' = k := of_decide_eq_true chosen
    rw [same]
    rfl

theorem nodeGroup_materialize {k : NodeGroupKind} (called : wantsNodeGroup c d k = true) :
    (materialize c d handle?).nodeGroup k =
      ⟨k, (c.nodeGroup k).enable, handle? (.nodeGroup k)⟩ := by
  simp only [materialize, called, if_true]

/-- The registry has the entry of a component, with what the provider said of it. Resources have
none: a provider can always drive them. -/
def Holds (r : Registry) (c : Config) (handle? : Component → Option Handle) : Component → Prop
  | .resource _ => True
  | .nodeGroup k => r.nodeGroup k = ⟨k, (c.nodeGroup k).enable, handle? (.nodeGroup k)⟩
  | .addOn k => r.addOn? k = some ⟨k, c.addOnEnabled k, handle? (.addOn k)⟩

/-- **What is wanted or recorded has an entry.** -/
theorem holds_materialize {k : Component} (called : d.isCreated k = true ∨ c.wants k = true) :
    (materialize c d handle?).Holds c handle? k := by
  cases k with
  | resource k => trivial
  | nodeGroup k => exact nodeGroup_materialize (Bool.or_eq_true_iff.2 called.symm)
  | addOn k => exact addOn?_materialize (Bool.or_eq_true_iff.2 called.symm)

theorem Holds.handle?_eq {r : Registry} {k : Component} (holds : r.Holds c handle? k)
    (other : ∀ q, k ≠ .resource q) : r.handle? k = handle? k := by
  cases k with
  | resource k => exact absurd rfl (other k)
  | nodeGroup k => exact congrArg NodeGroupEntry.handle holds
  | addOn k => exact congrArg (·.bind AddOnEntry.handle) holds

/-- What an entry cannot drive, the provider could not. -/
theorem Holds.unavailable {r : Registry} {k : Component} (holds : r.Holds c handle? k)
    (undriven : r.drives k = false) : (∀ q, k ≠ .resource q) ∧ handle? k = none := by
  have other : ∀ q, k ≠ .resource q := by
    rintro q rfl
    cases undriven
  refine ⟨other, ?_⟩
  rw [← holds.handle?_eq other]
  cases k with
  | resource k => exact absurd rfl (other k)
  | nodeGroup k => simpa [drives] using undriven
  | addOn k => simpa [drives] using undriven

end Registry

namespace Session

variable {ω : Type} {h : Host ω} {c : Config} {writable : Bool} {s t : Session ω} {k : Component}

/-! ## Sessions at work -/

/-- A state of the session `s` in which some operations have returned. Before each of them began,
the world may have changed and the stop signal may have fired. -/
inductive Operated (h : Host ω) (s : Session ω) : Session ω → Prop
  | here : Operated h s s
  | next {t : Session ω} (before : Operated h s t) (o : Operation) (stop : StopSignal) (w : ω) :
      Operated h s ({ t with stop := stop, world := w }.operate h o)

/-- An operation is a run, also in a session that may not change anything. -/
theorem runs_operation (opened : Opened h writable s) (o : Operation) :
    ∃ rs es, Runs s (s.operate h o) rs es := by
  cases writable with
  | true => exact runs_operate opened o
  | false =>
    have refused (saga : Saga) : s.allow saga = .error (.readOnly saga) := by
      simp [allow, opened.isWritable]
    cases o with
    | up =>
      rw [operate, up, refused]
      exact ⟨_, _, .refl s⟩
    | down =>
      rw [operate, down, refused]
      exact ⟨_, _, .refl s⟩
    | isUp =>
      obtain ⟨es, quiet⟩ := quiet_isUp h s
      exact ⟨_, es, quiet.runs⟩
    | dumpLogs =>
      obtain ⟨es, quiet⟩ := quiet_dumpLogs h s
      exact ⟨_, es, quiet.runs⟩

theorem up_readOnly (opened : Opened h false s) : s.up h = (.error (.readOnly .up), s) := by
  rw [up, allow, opened.isWritable]
  rfl

/-- How an operation fails. -/
def failure? (h : Host ω) (s : Session ω) : Operation → Option SagaError
  | .up => failureOf (s.up h).1
  | .down => failureOf (s.down h).1
  | .isUp => failureOf (s.isUp h).1
  | .dumpLogs => failureOf (s.dumpLogs h).1

/-! ## How operations fail -/

theorem undriven_of_up (opened : Opened h writable s)
    (failed : (s.up h).1 = .error (.missingHandle k)) :
    s.config.wants k = true ∧ s.registry.drives k = false := by
  cases writable with
  | false =>
    rw [up_readOnly opened] at failed
    cases failed
  | true =>
    obtain ⟨_, _, report⟩ := reported_plan (h := h) opened
    rcases explained_up opened failed with caused | ⟨f, d, other, -⟩
    · cases caused with
      | missingHandle wanted undriven =>
        exact ⟨report.runs.grows.config ▸ wanted, report.runs.grows.registry ▸ undriven⟩
    · cases other

theorem unavailable_of_up (opened : Opened h writable s)
    (failed : (s.up h).1 = .error .missingGpu) :
    h.provider.hasGpu (s.runPlanned h).2.world = false := by
  cases writable with
  | false =>
    rw [up_readOnly opened] at failed
    cases failed
  | true =>
    rcases explained_up opened failed with caused | ⟨f, d, other, -⟩
    · cases caused with
      | missingGpu needed unavailable => exact unavailable
    · cases other

/-- Collecting the logs of node groups fails because a call does, or because a family that is
recorded as created cannot be driven. -/
theorem undriven_of_dumpLogsOf {q : NodeGroupKind} {e : SagaError}
    (failed : (s.dumpLogsOf h q).1 = .error e) : (∃ name f, e = .step name f) ∨ Undriven s e := by
  unfold dumpLogsOf at failed
  dsimp only at failed
  split at failed
  · cases failed
  · next active =>
    split at failed
    · next handle =>
      cases failed
      simp only [Bool.not_eq_true, Bool.or_eq_false_iff, Bool.not_eq_false'] at active
      exact .inr ⟨.nodeGroup q, rfl, active.2, by simp [Registry.drives, Registry.handle?, handle]⟩
    · split at failed
      · cases failed
      · split at failed
        · cases failed
        · cases failed
          exact .inl ⟨_, _, rfl⟩

theorem undriven_of_dumpLogs {e : SagaError} (failed : (s.dumpLogs h).1 = .error e) :
    (∃ name f, e = .step name f) ∨ Undriven s e := by
  unfold dumpLogs at failed
  generalize NodeGroupKind.all = qs at failed
  induction qs generalizing s with
  | nil => cases failed
  | cons q qs ih =>
    obtain ⟨es, quiet⟩ := quiet_dumpLogsOf h q s
    have here := @undriven_of_dumpLogsOf ω h s q e
    unfold runAll at failed
    generalize s.dumpLogsOf h q = x at quiet here failed
    obtain ⟨r, t⟩ := x
    cases r with
    | error e' => exact here failed
    | ok _ =>
      rcases ih failed with step | ⟨k, missing, present, undriven⟩
      · exact .inl step
      · refine .inr ⟨k, missing, ?_, ?_⟩
        · rwa [← quiet.isCreated_eq]
        · rwa [← quiet.runs.grows.registry]

/-- Asking whether the environment is up fails only because the health check does. -/
theorem step_of_isUp {e : SagaError} (failed : (s.isUp h).1 = .error e) :
    ∃ f, e = .step "check_health" f := by
  unfold isUp at failed
  split at failed
  · cases failed
  · split at failed
    · cases failed
    · cases failed
      exact ⟨_, rfl⟩

/-- **An operation that misses a component** cannot drive it, and the component is wanted, or is
recorded as created before or after. -/
theorem undriven_of_failure (opened : Opened h writable s) {o : Operation}
    (failed : failure? h s o = some (.missingHandle k)) :
    s.registry.drives k = false ∧
      (s.config.wants k = true ∨ s.document.isCreated k = true ∨
        (s.operate h o).document.isCreated k = true) := by
  cases o with
  | up =>
    obtain ⟨wanted, undriven⟩ := undriven_of_up opened (error_of_failureOf failed)
    exact ⟨undriven, .inl wanted⟩
  | down =>
    obtain ⟨rs, es, grows, tells⟩ := down_tells h s
    rw [error_of_failureOf failed] at tells
    exact ⟨grows.registry ▸ tells.2, .inr (.inr tells.1)⟩
  | isUp =>
    obtain ⟨_, other⟩ := step_of_isUp (error_of_failureOf failed)
    cases other
  | dumpLogs =>
    rcases undriven_of_dumpLogs (error_of_failureOf failed) with ⟨_, _, other⟩ | undriven
    · cases other
    · obtain ⟨k', same, present, undriven⟩ := undriven
      cases same
      exact ⟨undriven, .inr (.inl present)⟩

/-- Only bringing the environment up misses GPUs. -/
theorem unavailable_of_failure (opened : Opened h writable s) {o : Operation}
    (failed : failure? h s o = some .missingGpu) :
    o = .up ∧ h.provider.hasGpu (s.runPlanned h).2.world = false := by
  cases o with
  | up => exact ⟨rfl, unavailable_of_up opened (error_of_failureOf failed)⟩
  | down =>
    obtain ⟨rs, es, grows, tells⟩ := down_tells h s
    rw [error_of_failureOf failed] at tells
    exact tells.elim
  | isUp =>
    obtain ⟨_, other⟩ := step_of_isUp (error_of_failureOf failed)
    cases other
  | dumpLogs =>
    rcases undriven_of_dumpLogs (error_of_failureOf failed) with ⟨_, _, other⟩ | ⟨_, other, -⟩
    · cases other
    · cases other

/-! ## The whole session -/

/-- A session that was opened on the configuration `c`, with the document `d`, in the world `w`:
its registry was made then, and nothing was ever flagged since but what was recorded or is
wanted. -/
structure Underway (h : Host ω) (c : Config) (writable : Bool) (d : StateDocument) (w : ω)
    (s : Session ω) : Prop where
  opened : Opened h writable s
  config : s.config = c
  registry : s.registry = .materialize c d (h.provider.handle? · w)
  flagged : ∀ k, s.document.isCreated k = true → d.isCreated k = true ∨ c.wants k = true
  history : ∀ e ∈ s.history, ∀ k, e.document.isCreated k = true →
    d.isCreated k = true ∨ c.wants k = true

theorem underway_of_start {stop : StopSignal} {w w' : ω}
    (opened : start h c writable stop w = (.ok s, w')) : ∃ d, Underway h c writable d w s := by
  obtain ⟨d, st⟩ := started opened
  have flags : s.document.isCreated = (d.syncIntent c).isCreated := by
    rw [st.document]
    split
    · exact StateDocument.isCreated_touch ..
    · rfl
  have flagged (k : Component) (flag : s.document.isCreated k = true) :
      (d.syncIntent c).isCreated k = true ∨ c.wants k = true := .inl (flags ▸ flag)
  refine ⟨d.syncIntent c, ⟨c, stop, w, w', s, opened, rfl, rfl, rfl⟩, st.config, st.registry,
    flagged, fun e mem => ?_⟩
  rw [st.history] at mem
  split at mem
  · rw [List.mem_singleton.1 mem]
    exact flagged
  · cases mem

theorem Underway.runs {d : StateDocument} {w : ω} {rs : List Record} {es : List Event}
    (underway : Underway h c writable d w s) (runs : Runs s t rs es) :
    Underway h c writable d w t := by
  obtain ⟨flagged, events⟩ := runs.moves.flagged underway.flagged fun k wanted =>
    .inr (underway.config ▸ wanted)
  exact {
    opened := underway.opened.grows runs.grows
    config := runs.grows.config.trans underway.config
    registry := runs.grows.registry.trans underway.registry
    flagged := flagged
    history := by
      rw [runs.grows.history]
      exact List.forall_mem_append.2 ⟨underway.history, events⟩ }

/-- Before an operation begins, the world may change and the stop signal may fire. -/
theorem Underway.resume {d : StateDocument} {w : ω} (underway : Underway h c writable d w s)
    (stop : StopSignal) (w₁ : ω) :
    Underway h c writable d w { s with stop := stop, world := w₁ } :=
  { underway with
    opened := underway.opened.grows
      ⟨rfl, rfl, rfl, (List.append_nil _).symm, (List.append_nil _).symm⟩ }

theorem Operated.underway {d : StateDocument} {w : ω} (life : Operated h s t)
    (underway : Underway h c writable d w s) : Underway h c writable d w t := by
  induction life with
  | here => exact underway
  | next _ o stop w₁ ih =>
    obtain ⟨rs, es, runs⟩ := runs_operation (ih.resume stop w₁).opened o
    exact (ih.resume stop w₁).runs runs

/-- What an operation misses, the provider could not drive when the session was opened. -/
theorem Underway.missing {d : StateDocument} {w : ω} (underway : Underway h c writable d w s)
    {o : Operation} (failed : failure? h s o = some (.missingHandle k)) :
    (∀ q, k ≠ .resource q) ∧ h.provider.handle? k w = none := by
  obtain ⟨undriven, reason⟩ := undriven_of_failure underway.opened failed
  obtain ⟨rs, es, runs⟩ := runs_operation underway.opened o
  have called : d.isCreated k = true ∨ c.wants k = true := by
    rcases reason with wanted | flagged | flagged
    · exact .inr (underway.config ▸ wanted)
    · exact underway.flagged k flagged
    · exact (underway.runs runs).flagged k flagged
  rw [underway.registry] at undriven
  exact (Registry.holds_materialize called).unavailable undriven

/-- **What is missing is the provider's doing.** Whatever was done in a session, an operation that
fails because a component cannot be driven names one for which the provider had no handle when the
session was opened; it misses GPUs only if the provider cannot set them up. The provider that runs
commands is never found lacking. All components that are ever flagged have their entries in the
registry, with the handles that the provider gave at the opening. -/
theorem missing_handles {stop : StopSignal} {w w' : ω} {s₀ : Session ω}
    (opened : start h c writable stop w = (.ok s₀, w')) (life : Operated h s₀ s) :
    (∀ (o : Operation) (stop₁ : StopSignal) (w₁ : ω),
      let t : Session ω := { s with stop := stop₁, world := w₁ }
      (∀ k, failure? h t o = some (.missingHandle k) →
        (∀ q, k ≠ .resource q) ∧ h.provider.handle? k w = none) ∧
      (failure? h t o = some .missingGpu →
        o = .up ∧ h.provider.hasGpu (t.runPlanned h).2.world = false) ∧
      ∀ c' environment part setPart,
        h.provider = (Commands.provider c' environment).within part setPart →
        (∀ k, failure? h t o ≠ some (.missingHandle k)) ∧ failure? h t o ≠ some .missingGpu) ∧
    ∀ d, (d = s.document ∨ ∃ e ∈ s.history, d = e.document) → ∀ k, d.isCreated k = true →
      s.registry.Holds c (h.provider.handle? · w) k := by
  obtain ⟨d₀, start'⟩ := underway_of_start opened
  have underway := life.underway start'
  refine ⟨fun o stop₁ w₁ => ?_, fun d seen k flagged => ?_⟩
  · intro t
    have underway' := underway.resume stop₁ w₁
    refine ⟨fun k => underway'.missing, unavailable_of_failure underway'.opened, ?_⟩
    intro c' environment part setPart commands
    refine ⟨fun k failed => ?_, fun failed => ?_⟩
    · have none := (underway'.missing failed).2
      rw [commands] at none
      cases none
    · have unavailable := (unavailable_of_failure underway'.opened failed).2
      rw [commands] at unavailable
      cases unavailable
  · rw [underway.registry]
    refine Registry.holds_materialize ?_
    rcases seen with rfl | ⟨e, mem, rfl⟩
    · exact underway.flagged k flagged
    · exact underway.history e mem k flagged

/-- On a bench without a handle for the add-on, bringing the environment up fails, and the provider
is to blame. -/
theorem missing_handles_mutedBench :
    ∃ s w', start sampleHost sampleConfig true {} mutedBench = (.ok s, w') ∧
      failure? sampleHost s .up = some (.missingHandle (.addOn .nlbHelloWorld)) ∧
      sampleHost.provider.handle? (.addOn .nlbHelloWorld) mutedBench = none := by
  have opened := start_of_empty (h := sampleHost) {} (by decide : sampleConfig.fault? = none)
    (w := mutedBench) rfl rfl
  have failed : failure? sampleHost (firstSession sampleHost sampleConfig {} mutedBench) .up =
      some (.missingHandle (.addOn .nlbHelloWorld)) := by decide +kernel
  refine ⟨_, _, opened, failed, ?_⟩
  exact (((missing_handles opened .here).1 .up {} _).1 _ failed).2

end Session

end Testbed
