import Testbed.Proofs.Syncing
import Testbed.Proofs.TeardownPlan
import Testbed.Proofs.Validation

/-!
# Who is in the registry

Which add-ons a session deals with is said in four places: under the keys of the configuration, by
the names of the kinds, by their order and tiers, and in the entries of the document. A session
brings these together once, when it is opened.

**Theorem (`registry_of_start`).** The registry of a session that is opened on a valid configuration
has exactly the add-ons that the configuration enables or the document records as created, in
creation order, and marks those that are enabled. So provisioning has a stage for each that is
enabled, and a teardown has a removal for each that exists.
-/

namespace Testbed

variable {c : Config} {d : StateDocument} {handle? : Component → Option Handle}

/-! ## Keys of a configuration -/

/-- A configuration enables what stands under a key. -/
def Config.Enables (c : Config) (key : String) : Prop :=
  ∃ s, c.addOns.get? key = some s ∧ s.enable = true

theorem Config.addOnEnabled_iff {k : AddOnKind} : c.addOnEnabled k = true ↔ c.Enables k.name :=
  Option.any_eq_true _ _

/-- **Every key of a valid configuration is the name of an add-on.** -/
theorem Config.name_of_key (valid : c.fault? = none) {key : String} {s : AddOnSection}
    (said : c.addOns.get? key = some s) : ∃ k : AddOnKind, k.name = key :=
  ((Config.fault?_eq_none_iff.1 valid).addOns key s said).known

/-! ## Creation order -/

namespace AddOnKind

theorem increasing_all : all.Pairwise fun a b => a.position < b.position := by decide

/-- The add-ons of the first tier come first. -/
theorem filter_tiers (p : AddOnKind → Bool) :
    (all.filter fun k => p k && k.tier = .cluster)
      ++ (all.filter fun k => p k && k.tier = .workload) = all.filter p := by
  have tiers : all =
      (all.filter fun k => k.tier = .cluster) ++ all.filter fun k => k.tier = .workload := by
    decide
  conv_rhs => rw [tiers, List.filter_append, List.filter_filter, List.filter_filter]

theorem filter_eq (k : AddOnKind) : (all.filter fun k' => k' = k) = [k] := by
  cases k <;> decide

end AddOnKind

/-! ## The registry -/

/-- A registry has the add-ons that a configuration enables or a document records as created. -/
structure Registry.Exact (r : Registry) (c : Config) (d : StateDocument) : Prop where
  inOrder : r.addOns.Pairwise fun a b => a.kind.position < b.kind.position
  mem_iff : ∀ k, k ∈ r.addOns.map (·.kind) ↔ c.Enables k.name ∨ d.addOnCreated k = true
  enabled_iff : ∀ e ∈ r.addOns, e.enabled = true ↔ c.Enables e.kind.name
  /-- What is enabled has one entry, whatever its key. -/
  once : ∀ key, c.Enables key →
    ∃ e, r.addOns.filter (fun e => e.enabled && e.kind.name = key) = [e]
  /-- The document says the same of what is enabled. -/
  recorded : ∀ e ∈ r.addOns, (d.addOns.get? e.kind.name).map (·.enabled) = some e.enabled
  tiers : r.enabledIn .cluster ++ r.enabledIn .workload = r.addOns.filter (·.enabled)

namespace Registry

theorem Exact.of_addOns {r : Registry} {d' : StateDocument} (exact : r.Exact c d)
    (same : d'.addOns = d.addOns) : r.Exact c d' where
  inOrder := exact.inOrder
  mem_iff k := by
    rw [StateDocument.addOnCreated, same]
    exact exact.mem_iff k
  enabled_iff := exact.enabled_iff
  once := exact.once
  recorded e mem := by
    rw [same]
    exact exact.recorded e mem
  tiers := exact.tiers

/-- What is asked of enabled entries only can be asked of all add-ons. -/
theorem filter_enabled (p : AddOnEntry → Bool) :
    ((materialize c d handle?).addOns.filter fun e => e.enabled && p e) =
      (AddOnKind.all.filter fun k => c.addOnEnabled k && p (entryOf c handle? k)).map
        (entryOf c handle?) := by
  rw [addOns_materialize, List.filter_map, List.filter_filter]
  congr 1
  refine List.filter_congr fun k _ => ?_
  show (c.addOnEnabled k && p _ && (c.addOnEnabled k || d.addOnCreated k)) = _
  cases c.addOnEnabled k <;> simp

theorem mem_addOns_materialize {e : AddOnEntry} : e ∈ (materialize c d handle?).addOns ↔
    wantsAddOn c d e.kind = true ∧ e = entryOf c handle? e.kind := by
  rw [addOns_materialize, List.mem_map]
  constructor
  · rintro ⟨k, mem, rfl⟩
    exact ⟨(List.mem_filter.1 mem).2, rfl⟩
  · rintro ⟨wanted, made⟩
    exact ⟨e.kind, List.mem_filter.2 ⟨AddOnKind.mem_all _, wanted⟩, made.symm⟩

/-- **A registry that is made for a valid configuration and a document that was synced with it is
exact.** -/
theorem exact_materialize (valid : c.fault? = none) (d : StateDocument) :
    (materialize c (d.syncIntent c) handle?).Exact c (d.syncIntent c) where
  inOrder := by
    rw [addOns_materialize, List.pairwise_map]
    exact AddOnKind.increasing_all.sublist List.filter_sublist
  mem_iff k := by
    rw [Session.kinds_materialize, List.mem_filter, wantsAddOn, Bool.or_eq_true,
      Config.addOnEnabled_iff]
    exact and_iff_right (AddOnKind.mem_all k)
  enabled_iff e mem := by
    rw [(mem_addOns_materialize.1 mem).2]
    exact Config.addOnEnabled_iff
  once key enables := by
    obtain ⟨s, said, on⟩ := enables
    obtain ⟨k, rfl⟩ := Config.name_of_key valid said
    have enabled : c.addOnEnabled k = true := Config.addOnEnabled_iff.2 ⟨s, said, on⟩
    refine ⟨entryOf c handle? k, ?_⟩
    rw [filter_enabled]
    have only : (AddOnKind.all.filter fun k' =>
        c.addOnEnabled k' && decide ((entryOf c handle? k').kind.name = k.name)) = [k] := by
      rw [← AddOnKind.filter_eq k]
      refine List.filter_congr fun k' _ => ?_
      by_cases same : k' = k
      · simp [same, enabled, entryOf]
      · simp [same, entryOf, AddOnKind.name_inj]
    rw [only]
    rfl
  recorded e mem := by
    obtain ⟨wanted, made⟩ := mem_addOns_materialize.1 mem
    have synced := (d.readInto_addOns c).known e.kind
    cases entry : (d.syncIntent c).addOns.get? e.kind.name with
    | some e' =>
      rw [entry] at synced
      rw [Intent.eq_write_of_read synced.symm, made]
      rfl
    | none =>
      -- Without an entry nothing is recorded as created, so the add-on is enabled and has an entry.
      have enabled : c.addOnEnabled e.kind = true := by
        simpa [wantsAddOn, StateDocument.addOnCreated, entry] using wanted
      rw [entry] at synced
      exact absurd synced.symm (Intent.read_ne_none enabled)
  tiers := by
    have enabled : (materialize c (d.syncIntent c) handle?).addOns.filter (·.enabled) =
        (AddOnKind.all.filter c.addOnEnabled).map (entryOf c handle?) := by
      have all : ((materialize c (d.syncIntent c) handle?).addOns.filter
          fun e => e.enabled && true) = _ := filter_enabled fun _ => true
      simpa using all
    rw [enabled, ← AddOnKind.filter_tiers, List.map_append]
    exact congrArg₂ (· ++ ·) (filter_enabled fun e => e.kind.tier = .cluster)
      (filter_enabled fun e => e.kind.tier = .workload)

end Registry

/-! ## Opened sessions -/

namespace Session

open Registry

variable {ω : Type}

/-- A valid configuration can be opened on the document that the store gives, if that can be
saved. -/
theorem exists_start {h : Host ω} {writable : Bool} {w : ω} (stop : StopSignal)
    (valid : c.validate = .ok ()) (loaded : startingDocument h c w = .ok d)
    (saved : writable = true → (h.save ((d.syncIntent c).touch (h.now w)) w).1 = .ok ()) :
    ∃ s w', start h c writable stop w = (.ok s, w') := by
  rw [start_of_loaded valid loaded]
  cases writable with
  | false => exact ⟨_, _, rfl⟩
  | true =>
    have first : (starting h c true stop w (d.syncIntent c)).update h (fun _ d => d) =
        (.ok (), ((starting h c true stop w (d.syncIntent c)).update h fun _ d => d).2) :=
      Prod.ext (saved rfl) rfl
    rw [first]
    exact ⟨_, _, rfl⟩

/-- Every enabled add-on has a stage of provisioning. -/
theorem create_mem_stages {r : Registry} (exact : r.Exact c d) {k : AddOnKind}
    (enables : c.Enables k.name) : .create (.addOn k) ∈ stages r := by
  obtain ⟨e, mem, rfl⟩ := List.mem_map.1 ((exact.mem_iff k).2 (.inl enables))
  have enabled : e ∈ r.enabledIn .cluster ++ r.enabledIn .workload := by
    rw [exact.tiers]
    exact List.mem_filter.2 ⟨mem, (exact.enabled_iff e mem).2 enables⟩
  have tier : Stage.create (.addOn e.kind) ∈
      (r.enabledIn .cluster ++ r.enabledIn .workload).map fun e => Stage.create (.addOn e.kind) :=
    List.mem_map_of_mem enabled
  rw [List.map_append, List.mem_append] at tier
  simp only [stages, List.mem_append]
  tauto

/-- A teardown has a removal for every add-on of the registry. -/
theorem addOn_mem_beforeRelease {r : Registry} {k : AddOnKind} (mem : k ∈ r.addOns.map (·.kind)) :
    .addOn k ∈ Removal.beforeRelease r := by
  rw [beforeRelease_eq, List.mem_cons, ← List.map_append, List.mem_map]
  refine .inr ⟨k, ?_, rfl⟩
  rw [List.mem_append, List.mem_filter, List.mem_filter, List.mem_reverse]
  cases k.holdsLoadBalancer
  · exact .inl ⟨mem, rfl⟩
  · exact .inr ⟨mem, rfl⟩

/-- **The registry of a session is exactly what is wanted.** A valid configuration can be opened on
whatever document of this environment the store gives, with whatever provider. The registry then has
the add-ons that the configuration enables or the document records as created, once each and in
creation order; so none that is enabled is skipped, and none that exists escapes a teardown. -/
theorem registry_of_start {h : Host ω} {writable : Bool} {w : ω} (stop : StopSignal)
    (valid : c.validate = .ok ()) (loaded : startingDocument h c w = .ok d)
    (saved : writable = true → (h.save ((d.syncIntent c).touch (h.now w)) w).1 = .ok ()) :
    ∃ s w', start h c writable stop w = (.ok s, w') ∧
      s.registry.Exact c s.document ∧ s.document.addOnCreated = d.addOnCreated ∧
      (∀ k : AddOnKind, c.Enables k.name → .create (.addOn k) ∈ stages s.registry) ∧
      ∀ k, d.addOnCreated k = true → .addOn k ∈ Removal.beforeRelease s.registry := by
  obtain ⟨s, w', opened⟩ := exists_start stop valid loaded saved
  obtain ⟨d', st⟩ := started opened
  cases loaded.symm.trans st.loaded
  have faultless : c.fault? = none := by
    unfold Config.validate at valid
    split at valid
    · cases valid
    · assumption
  have addOns : s.document.addOns = (d.syncIntent c).addOns := by
    rw [st.document]
    split <;> rfl
  have flags : s.document.addOnCreated = d.addOnCreated := by
    funext k
    have same := congrFun (StateDocument.isCreated_syncIntent d c) (.addOn k)
    exact Eq.trans (by rw [StateDocument.addOnCreated, addOns]; rfl) same
  have exact : s.registry.Exact c s.document := by
    rw [st.registry]
    exact (exact_materialize faultless d).of_addOns addOns
  refine ⟨s, w', opened, exact, flags, fun k enables => create_mem_stages exact enables,
    fun k created => addOn_mem_beforeRelease ((exact.mem_iff k).2 (.inr ?_))⟩
  rw [flags, created]

/-- A bench whose store knows of an add-on that the sample configuration does not mention, and of
something that is no add-on. -/
def staleBench : Bench where
  now := "noon"
  store := .memory (some { StateDocument.new sampleConfig.name "dawn" with
    addOns := .ofList [(AddOnKind.irsa.name, { created := true }),
      (AddOnKind.kubeflow.name, { enabled := true }), ("ghost", { created := true })] })

theorem registry_of_start_staleBench : ∃ s w',
    start sampleHost sampleConfig true {} staleBench = (.ok s, w') ∧
      s.registry.Exact sampleConfig s.document ∧
      .addOn .irsa ∈ Removal.beforeRelease s.registry ∧
      s.registry.addOns.map (fun e => (e.kind, e.enabled)) =
        [(.nlbHelloWorld, true), (.irsa, false)] := by
  obtain ⟨s, w', opened, exact, -, -, removed⟩ :=
    @registry_of_start sampleConfig _ _ sampleHost true staleBench {} rfl rfl fun _ => rfl
  refine ⟨s, w', opened, exact, removed .irsa (by decide), ?_⟩
  have kinds : (start sampleHost sampleConfig true {} staleBench).1.toOption.map
      (fun s => s.registry.addOns.map fun e => (e.kind, e.enabled)) =
      some [(.nlbHelloWorld, true), (.irsa, false)] := by decide +kernel
  rw [opened] at kinds
  exact Option.some.inj kinds

end Session

end Testbed
