import Testbed.Proofs.BestEffort
import Testbed.Proofs.Handles
import Testbed.Proofs.Registries

/-!
# Which logs are collected

After its steps the up saga collects logs. `fetchers` and `aggregating` say from what, by the
configuration, the flags that the steps left and what the provider said of its components when the
session was opened.

**Theorem (`up_collects`).** The calls that follow the steps are a fetch for each of the fetchers,
then, if one of these fetches succeeded, an aggregation for each of the add-ons that can, then the
closing upload. All are made with one document, and it is recorded as up, whatever fails.
-/

namespace Testbed

/-- Whether the logs of a component are asked for. -/
def Config.requestsLogs (c : Config) : Component → Bool
  | .resource _ => false
  | .nodeGroup k => (c.nodeGroup k).fetchLogs
  | .addOn k => (c.addOn? k).any fun s => s.fetchLogs

/-- Calls that only a collection of logs makes. -/
def Event.collects : Event → Bool
  | .call (.fetchLogs _) _ _ | .call (.aggregate _) _ _ => true
  | _ => false

namespace Session

variable {ω : Type} {h : Host ω} {s t : Session ω} {c : Config} {d : StateDocument}
  {handle? : Component → Option Handle}

/-! ## Whose logs -/

/-- The node groups and then the add-ons, each in creation order. -/
def collectionOrder : List Component :=
  NodeGroupKind.all.map .nodeGroup ++ AddOnKind.all.map .addOn

/-- Whether the logs of a component are to be had: it is enabled, they are asked for, and it is
created. -/
def offersLogs (c : Config) (d : StateDocument) (k : Component) : Bool :=
  c.wants k && c.requestsLogs k && d.isCreated k

/-- The components whose logs are to be had and whose handles fetch logs. -/
def fetchers (c : Config) (d : StateDocument) (handle? : Component → Option Handle) :
    List Component :=
  collectionOrder.filter fun k =>
    offersLogs c d k && (handle? k).any fun o => o.fetchesLogs

/-- The add-ons that are created, enabled or not, and whose handles aggregate results. -/
def aggregating (d : StateDocument) (handle? : Component → Option Handle) : List Component :=
  (AddOnKind.all.map .addOn).filter fun k =>
    d.isCreated k && (handle? k).any fun o => o.aggregates

/-- The targets of a collection in a session whose registry was made with these handles. -/
theorem logTargets_eq {d₀ : StateDocument} (config : s.config = c)
    (registry : s.registry = .materialize c d₀ handle?) :
    s.logTargets = collectionOrder.filterMap fun k =>
      if offersLogs c s.document k then (handle? k).map fun o => (k, o) else none := by
  unfold logTargets collectionOrder
  rw [List.filterMap_append, registry, config]
  dsimp only
  congr 1
  · rw [List.filterMap_map]
    refine List.filterMap_congr fun k _ => ?_
    cases enabled : (c.nodeGroup k).enable with
    | false => simp [offersLogs, Config.wants, Registry.materialize, enabled]
    | true =>
      have called : Registry.wantsNodeGroup c d₀ k = true := by
        simp [Registry.wantsNodeGroup, enabled]
      simp only [Registry.nodeGroup_materialize called, Function.comp, offersLogs, Config.wants,
        Config.requestsLogs, StateDocument.isCreated]
      rfl
  · rw [Registry.addOns_materialize, List.filterMap_map, List.filterMap_map, List.filterMap_filter]
    refine List.filterMap_congr fun k _ => ?_
    cases enabled : c.addOnEnabled k with
    | false => simp [offersLogs, Config.wants, Registry.entryOf, enabled]
    | true =>
      have called : Registry.wantsAddOn c d₀ k = true := by simp [Registry.wantsAddOn, enabled]
      simp only [called, if_true, Function.comp, offersLogs, Config.wants, Config.requestsLogs,
        StateDocument.isCreated, Registry.entryOf, enabled]

/-- There are none if nothing can be driven whose logs are to be had. -/
theorem logTargets_eq_nil {d₀ : StateDocument} (config : s.config = c)
    (registry : s.registry = .materialize c d₀ handle?) :
    s.logTargets = [] ↔ ¬∃ k, offersLogs c s.document k = true ∧ (handle? k).isSome = true := by
  have listed (k : Component) (asked : offersLogs c s.document k = true) : k ∈ collectionOrder := by
    cases k with
    | resource k => simp [offersLogs, Config.requestsLogs] at asked
    | nodeGroup k => simp [collectionOrder, NodeGroupKind.mem_all]
    | addOn k => simp [collectionOrder, AddOnKind.mem_all]
  rw [logTargets_eq config registry, List.filterMap_eq_nil_iff, not_exists]
  refine ⟨fun none k ⟨asked, driven⟩ => ?_, fun none k _ => ?_⟩
  · have := none k (listed k asked)
    simp [asked, ← Option.not_isSome_iff_eq_none, driven] at this
  · have := none k
    cases asked : offersLogs c s.document k <;> simp_all

/-- Those of the targets that fetch logs. -/
theorem fetchers_eq {d₀ : StateDocument} (config : s.config = c)
    (registry : s.registry = .materialize c d₀ handle?) :
    (s.logTargets.filter fun x => x.2.fetchesLogs).map (·.1) = fetchers c s.document handle? := by
  rw [logTargets_eq config registry, fetchers]
  induction collectionOrder with
  | nil => rfl
  | cons k ks ih =>
    cases asked : offersLogs c s.document k <;> cases handle : handle? k with
    | none => simpa [asked, handle] using ih
    | some o => cases fetches : o.fetchesLogs <;> simpa [asked, handle, fetches] using ih

/-- Every created add-on has an entry, so none is left out. -/
theorem aggregators_eq {d₀ : StateDocument} (registry : s.registry = .materialize c d₀ handle?)
    (flagged : ∀ k, s.document.isCreated k = true → d₀.isCreated k = true ∨ c.wants k = true) :
    s.aggregators = aggregating s.document handle? := by
  rw [aggregators, aggregating, registry, Registry.addOns_materialize, List.filter_map,
    List.map_map, List.filter_filter, List.filter_map]
  refine congrArg₂ List.map rfl (List.filter_congr fun k _ => ?_)
  cases created : s.document.addOnCreated k with
  | false => simp [StateDocument.isCreated, Registry.entryOf, created]
  | true =>
    have called : Registry.wantsAddOn c d₀ k = true :=
      Bool.or_eq_true_iff.2 (flagged (.addOn k) created).symm
    simp [StateDocument.isCreated, Registry.entryOf, created, called]

/-! ## The calls -/

theorem Stage.Carried.collects {st : Stage} {es : List Event} (other : st ≠ .collect)
    (carried : st.Carried c d es) : ∀ e ∈ es, e.collects = false := by
  cases st with
  | create k =>
    simp only [Carried] at carried
    split at carried
    · obtain ⟨x, x', rfl⟩ := carried
      simp [Event.collects]
    · simp [carried]
  | settle reason =>
    obtain rfl : es = [] := carried
    simp
  | health gate =>
    obtain ⟨x, tries, rfl⟩ := carried
    simp only [List.forall_mem_append, List.forall_mem_map, List.forall_mem_singleton]
    exact ⟨fun _ _ => rfl, rfl⟩
  | hook p =>
    simp only [Carried] at carried
    split at carried
    · simp [carried]
    · obtain ⟨x, f, rfl⟩ := carried
      simp [Event.collects]
  | gpu =>
    simp only [Carried] at carried
    split at carried
    · obtain ⟨x, x', rfl⟩ := carried
      simp [Event.collects]
    · simp [carried]
  | upload =>
    obtain ⟨x, f, rfl⟩ := carried
    simp [Event.collects]
  | collect => exact absurd rfl other

/-- The steps before make no such calls. -/
theorem CarriedOut.collects {sts : List Stage} {es : List Event} (planned : .collect ∉ sts)
    (out : CarriedOut c d sts es) : ∀ e ∈ es, e.collects = false := by
  induction sts generalizing es with
  | nil =>
    obtain rfl : es = [] := out
    simp
  | cons st sts ih =>
    obtain ⟨here, rest, rfl, carried, out⟩ := out
    obtain ⟨other, planned⟩ := not_or.1 (fun mem => planned (List.mem_cons.2 mem))
    exact List.forall_mem_append.2 ⟨carried.collects (Ne.symm other), ih planned out⟩

/-- The only pause among the steps is that after the creation of the control plane. -/
theorem logFetch_notMem_upPlan (c : Config) (d : StateDocument) :
    SettleReason.logFetch.heading ∉ upPlan c d := by
  have creations (ks : List Component) : SettleReason.logFetch.heading ∉ creations c d ks := by
    simp [Session.creations, creation, SettleReason.heading]
  have hooks (p : HookPoint) : SettleReason.logFetch.heading ∉ hookPlan c p := by
    unfold hookPlan
    split <;> simp [SettleReason.heading]
  have gpus : SettleReason.logFetch.heading ∉ gpuPlan c := by
    unfold gpuPlan
    split <;> simp [SettleReason.heading, stepHeading]
  simp only [upPlan, List.mem_append, creations, hooks, gpus, or_false, false_or]
  simp [SettleReason.heading, SettleReason.text, stepHeading]

/-! ## The whole run -/

/-- What a run of the up saga comes to after its steps, if these left the document `d` behind and
the provider said `handle?` of its components: `x` is how the run ends that begins in `t`. -/
structure LogsCollected (c : Config) (d : StateDocument) (handle? : Component → Option Handle)
    (t : Session ω) (x : Except SagaError Unit × Session ω) : Prop where
  /-- Logs are fetched, and if there are any, results are aggregated, all with one document. -/
  calls : ∃ steps fetches aggregates f g,
    x.2.history = t.history ++ (steps ++ (callsFor .fetchLogs d fetches
      ++ callsFor .aggregate d aggregates) ++ [.call .uploadArtifacts d f, .save x.2.document g]) ∧
    (∀ e ∈ steps, e.collects = false) ∧
    fetches.map (·.1) = fetchers c d handle? ∧
    aggregates.map (·.1) =
      (if fetches.any fun y => y.2.isNone then aggregating d handle? else []) ∧
    (x.1 = .ok () ↔ g = none)
  /-- There is a pause for it if there is something to collect from. -/
  journal : ∃ rs, x.2.journal.records = t.journal.records ++ rs ∧
    ((∃ r ∈ rs, r.heading = SettleReason.logFetch.heading) ↔
      ∃ k, offersLogs c d k = true ∧ (handle? k).isSome = true)
  flags : ∀ k, x.2.document.isCreated k = d.isCreated k
  up : x.2.document.up = true

theorem commit_eq_ok_iff {change : String → StateDocument → StateDocument} :
    (s.commit h change).1 = .ok () ↔ failureOf (s.update h change).1 = none := by
  unfold commit
  generalize s.update h change = x
  obtain ⟨r, t⟩ := x
  cases r <;> simp [Except.mapError]

/-- **Which logs are collected.** Take any session, whatever was done in it before, and run the up
saga. If all its steps succeed, with the document `d` as they leave it, then it fetches the logs of
each of the fetchers once, in order, and it aggregates the results of each of the add-ons that can
once, in order, if it got any logs at all. The journal has a pause for that if there is something
that can be driven whose logs are to be had. Whatever fails of this, no flag changes, and the
environment is recorded as up; the saga fails only if that cannot be saved. -/
theorem up_collects {stop stop₁ : StopSignal} {w w' w₁ : ω} {s₀ : Session ω}
    (opened : start h c true stop w = (.ok s₀, w')) (life : Operated h s₀ s)
    (resumed : t = { s with stop := stop₁, world := w₁ }) (notUp : t.document.up = false)
    (ok : (t.runPlanned h).1 = .ok ()) :
    LogsCollected c (t.runPlanned h).2.document (h.provider.handle? · w) t (t.up h) := by
  obtain ⟨d₀, underway⟩ := underway_of_start opened
  have before : Underway h c true d₀ w t := resumed ▸ (life.underway underway).resume stop₁ w₁
  obtain ⟨planned, es, report⟩ := reported_plan (h := h) before.opened
  obtain ⟨steps, grown, carried⟩ := carriedOut_runPlanned before.opened ok
  have after : Underway h c true d₀ w (t.runPlanned h).2 := before.runs report.runs
  have headings : planned.map Record.heading = upPlan c t.document :=
    before.config ▸ (report.along.whole ok).1
  have journal : (t.runPlanned h).2.journal.records = t.journal.records ++ planned :=
    report.runs.grows.journal
  rw [up_eq before.opened.isWritable notUp]
  generalize t.runPlanned h = x at ok grown after journal
  obtain ⟨r, u⟩ := x
  cases r with
  | error e => cases ok
  | ok _ =>
    dsimp only at grown after journal ⊢
    obtain ⟨logs, fetches, aggregates, collected, fetched, aggregated, paused⟩ := collected h u
    obtain ⟨f, upload⟩ := runs_uploadArtifacts h .up (u.collect h)
    rw [document_collect] at upload
    have marked := grows_commit h (fun now d => d.markUp now) ((u.collect h).uploadArtifacts h .up)
    have rest := (collected.runs.grows.trans upload.grows).trans marked
    rw [fetchers_eq after.config after.registry] at fetched
    rw [aggregators_eq after.registry after.flagged] at aggregated
    rw [Ne, logTargets_eq_nil after.config after.registry, not_not] at paused
    refine ⟨⟨steps, fetches, aggregates, f, _, ?_, carried.collects (by simp [plannedStages]),
      fetched, aggregated, commit_eq_ok_iff⟩,
      ⟨planned ++ (logs ++ [.ofStep .up "upload artifacts" f]), ?_, ?_⟩, ?_, rfl⟩
    · rw [rest.history, grown]
      simp only [List.append_assoc]
      rfl
    · rw [rest.journal, journal, List.append_nil, List.append_assoc]
    · rw [← paused]
      constructor
      · rintro ⟨r, mem, heading⟩
        rcases List.mem_append.1 mem with mem | mem
        · have planned := List.mem_map_of_mem (f := Record.heading) mem
          rw [headings, heading] at planned
          exact absurd planned (logFetch_notMem_upPlan c t.document)
        · rcases List.mem_append.1 mem with mem | mem
          · exact ⟨r, mem, heading⟩
          · rw [List.mem_singleton.1 mem, Record.heading_ofStep] at heading
            cases heading
      · rintro ⟨r, mem, heading⟩
        exact ⟨r, List.mem_append_right _ (List.mem_append_left _ mem), heading⟩
    · intro k
      show ((StateDocument.markUp _ _).touch _).isCreated k = _
      rw [StateDocument.isCreated_touch, StateDocument.isCreated_markUp, document_uploadArtifacts,
        document_collect]

/-- In a rehearsal without failures the logs of the node groups are fetched, and the results of the
add-on are aggregated. -/
theorem up_collects_inquisitiveConfig :
    let t := firstSession rehearsalHost inquisitiveConfig {} {}
    let d := (t.runPlanned rehearsalHost).2.document
    fetchers inquisitiveConfig d (rehearsalHost.provider.handle? · {}) = [.nodeGroup .unmanaged] ∧
      aggregating d (rehearsalHost.provider.handle? · {}) = [.addOn .csrsRemote] ∧
      LogsCollected inquisitiveConfig d (rehearsalHost.provider.handle? · {}) t
        (t.up rehearsalHost) :=
  ⟨by decide +kernel, by decide +kernel,
    up_collects (start_of_empty {} (by decide +kernel) rfl rfl) .here rfl rfl
      (ok_of_failureOf (by decide +kernel))⟩

end Session

end Testbed
