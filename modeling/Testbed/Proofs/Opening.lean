import Testbed.Proofs.Flags
import Testbed.Proofs.Growth
import Testbed.Rehearsal.Bench
import Testbed.Session.Open

/-!
# Opened sessions

A session is opened on a valid configuration, with a registry made for it and a document that has
just been brought up to date. `Opened h writable s` says that `s` is some state of a session opened
on the host `h`: its configuration and registry are those of the opening, and its document,
journal, stop signal and world may be anything.
-/

namespace Testbed.Session

variable {ω : Type} {h : Host ω} {c : Config} {writable : Bool} {stop : StopSignal} {w w' : ω}
  {s t : Session ω} {rs : List Record} {es : List Event}

/-! ## Opening -/

/-- What an opening that succeeds gives. -/
structure Started (h : Host ω) (c : Config) (writable : Bool) (stop : StopSignal) (w : ω)
    (d : StateDocument) (s : Session ω) : Prop where
  valid : c.validate = .ok ()
  loaded : startingDocument h c w = .ok d
  config : s.config = c
  isWritable : s.writable = writable
  registry : s.registry = .materialize c (d.syncIntent c) (h.provider.handle? · w)
  journal : s.journal.records = []
  signal : s.stop = stop
  document : s.document = if writable then (d.syncIntent c).touch (h.now w) else d.syncIntent c
  history : s.history = if writable then [.save s.document none] else []

theorem startingDocument_of_empty (empty : h.load w = .ok none) :
    startingDocument h c w = .ok (.new c.name (h.now w)) := by
  unfold startingDocument
  rw [empty]
  rfl

theorem startingDocument_of_stored {d : StateDocument} (stored : h.load w = .ok (some d)) :
    startingDocument h c w =
      if d.name = c.name then .ok d else .error (.stateMismatch c.name d.name) := by
  unfold startingDocument
  rw [stored]
  rfl

theorem start_of_invalid {e : ConfigError} (invalid : c.validate = .error e) :
    start h c writable stop w = (.error (.config e), w) := by
  unfold start
  rw [invalid]
  rfl

theorem start_of_missing {e : SagaError} (valid : c.validate = .ok ())
    (missing : startingDocument h c w = .error e) : start h c writable stop w = (.error e, w) := by
  unfold start
  rw [valid, missing]
  rfl

theorem start_of_loaded {d : StateDocument} (valid : c.validate = .ok ())
    (loaded : startingDocument h c w = .ok d) :
    start h c writable stop w =
      if !writable then (.ok (starting h c writable stop w (d.syncIntent c)), w)
      else
        match (starting h c writable stop w (d.syncIntent c)).update h fun _ d => d with
        | (.ok _, s) => (.ok s, s.world)
        | (.error e, s) => (.error (.store e), s.world) := by
  unfold start
  rw [valid, loaded]
  rfl

/-- **An opening that succeeds** starts from the document of the store, synced with the
configuration, and a writable session has saved it. -/
theorem started (opened : start h c writable stop w = (.ok s, w')) :
    ∃ d, Started h c writable stop w d s := by
  cases valid : c.validate with
  | error e =>
    rw [start_of_invalid valid] at opened
    cases opened
  | ok _ =>
    cases loaded : startingDocument h c w with
    | error e =>
      rw [start_of_missing valid loaded] at opened
      cases opened
    | ok d =>
      refine ⟨d, ?_⟩
      rw [start_of_loaded valid loaded] at opened
      cases writable with
      | false =>
        cases opened
        exact ⟨valid, loaded, rfl, rfl, rfl, rfl, rfl, rfl, rfl⟩
      | true =>
        have g := grows_update h (fun _ d => d) (starting h c true stop w (d.syncIntent c))
        have hd := document_update h (fun _ d => d) (starting h c true stop w (d.syncIntent c))
        cases saved : (starting h c true stop w (d.syncIntent c)).update h fun _ d => d with
        | mk r t =>
          rw [saved] at opened g hd
          cases r with
          | error e => cases opened
          | ok _ =>
            cases opened
            refine ⟨valid, loaded, g.config, g.writable, g.registry, ?_, ?_, hd, g.history⟩
            · exact g.journal
            · exact congrArg (fun x => x.2.stop) saved.symm

/-- The document of a new environment on a host, synced with the configuration. -/
def freshDocument (h : Host ω) (c : Config) (w : ω) : StateDocument :=
  (StateDocument.new c.name (h.now w)).syncIntent c

/-- The session that is opened on an empty store. -/
def firstSession (h : Host ω) (c : Config) (stop : StopSignal) (w : ω) : Session ω :=
  ((starting h c true stop w (freshDocument h c w)).update h fun _ d => d).2

/-- A store that holds nothing and takes the first save lets a valid configuration be opened. -/
theorem start_of_empty (stop : StopSignal) (valid : c.fault? = none) (empty : h.load w = .ok none)
    (saved : (h.save ((freshDocument h c w).touch (h.now w)) w).1 = .ok ()) :
    start h c true stop w = (.ok (firstSession h c stop w), (firstSession h c stop w).world) := by
  have accepted : c.validate = .ok () := by rw [Config.validate, valid]
  have first : (starting h c true stop w (freshDocument h c w)).update h (fun _ d => d) =
      (.ok (), firstSession h c stop w) := Prod.ext saved rfl
  rw [freshDocument] at first
  rw [start_of_loaded accepted (startingDocument_of_empty empty), first]
  rfl

/-- So does a store that holds a document of this name. -/
theorem start_of_stored {d : StateDocument} (stop : StopSignal) (valid : c.fault? = none)
    (stored : h.load w = .ok (some d)) (name : d.name = c.name)
    (saved : (h.save ((d.syncIntent c).touch (h.now w)) w).1 = .ok ()) :
    ∃ s, start h c true stop w = (.ok s, s.world) := by
  have accepted : c.validate = .ok () := by rw [Config.validate, valid]
  have loaded : startingDocument h c w = .ok d := by
    rw [startingDocument_of_stored stored, if_pos name]
  have first : (starting h c true stop w (d.syncIntent c)).update h (fun _ d => d) =
      (.ok (), ((starting h c true stop w (d.syncIntent c)).update h fun _ d => d).2) :=
    Prod.ext saved rfl
  rw [start_of_loaded accepted loaded, first]
  exact ⟨_, rfl⟩

/-! ## States of an opened session -/

/-- `s` is a state of a session that was opened on the host `h`. -/
def Opened (h : Host ω) (writable : Bool) (s : Session ω) : Prop :=
  ∃ (c : Config) (stop : StopSignal) (w w' : ω) (s₀ : Session ω),
    start h c writable stop w = (.ok s₀, w') ∧
    s.config = s₀.config ∧ s.writable = s₀.writable ∧ s.registry = s₀.registry

theorem Opened.grows (opened : Opened h writable s) (g : Grows s t rs es) :
    Opened h writable t := by
  obtain ⟨c, stop, w, w', s₀, hs, hc, hw, hr⟩ := opened
  exact ⟨c, stop, w, w', s₀, hs, g.config.trans hc, g.writable.trans hw, g.registry.trans hr⟩

theorem Opened.isWritable (opened : Opened h writable s) : s.writable = writable := by
  obtain ⟨c, stop, w, w', s₀, hs, -, hw, -⟩ := opened
  obtain ⟨d, st⟩ := started hs
  rw [hw, st.isWritable]

theorem Opened.allow (opened : Opened h true s) (saga : Saga) : s.allow saga = .ok () := by
  simp [Session.allow, opened.isWritable]

/-- The registry of an opened session was made for its configuration and some document. -/
theorem Opened.materialized (opened : Opened h writable s) :
    ∃ d handle?, s.registry = .materialize s.config d handle? := by
  obtain ⟨c, stop, w, w', s₀, hs, hc, -, hr⟩ := opened
  obtain ⟨d, st⟩ := started hs
  exact ⟨_, _, by rw [hr, hc, st.registry, st.config]⟩

/-! ## The add-ons of a registry -/

theorem kinds_materialize (c : Config) (d : StateDocument)
    (handle? : Component → Option Handle) :
    (Registry.materialize c d handle?).addOns.map (·.kind) =
      AddOnKind.all.filter (Registry.wantsAddOn c d) := by
  rw [Registry.addOns_materialize, List.map_map]
  exact List.map_id _

/-- What a registry can drive, it holds. -/
theorem mem_kinds_of_drives {r : Registry} {k : AddOnKind} (driven : r.drives (.addOn k) = true) :
    k ∈ r.addOns.map (·.kind) := by
  cases found : r.addOn? k with
  | none => simp [Registry.drives, Registry.handle?, found] at driven
  | some e =>
    have hk : e.kind = k := by simpa using List.find?_some found
    exact hk ▸ List.mem_map_of_mem (List.mem_of_find?_eq_some found)

/-! ## A session on a bench -/

/-- A configuration with a node group and an add-on that holds a load balancer. -/
def sampleConfig : Config :=
  { Config.template "demo" "us-west-2" with
    addOns := .ofList [(AddOnKind.nlbHelloWorld.name, { enable := true })] }

/-- A bench with a rehearsal. -/
def sampleHost : Host Bench := Bench.host (Bench.rehearsing 0 0)

/-- A session on a bench, whose document records these components as created. -/
def sampleSession (created : List Component) (w : Bench) : Session Bench where
  config := sampleConfig
  writable := true
  registry := .materialize sampleConfig (freshDocument sampleHost sampleConfig w)
    (sampleHost.provider.handle? · w)
  document := created.foldl (fun d k => d.set k true w.now)
    (freshDocument sampleHost sampleConfig w)
  stop := {}
  world := w

theorem mem_of_isCreated_sampleSession {created : List Component} {w : Bench} {k : Component}
    (hk : (sampleSession created w).document.isCreated k = true) : k ∈ created := by
  have fold (d : StateDocument) (hd : d.isCreated k = false) (ks : List Component)
      (hk : (ks.foldl (fun d k => d.set k true w.now) d).isCreated k = true) : k ∈ ks := by
    induction ks generalizing d with
    | nil => exact absurd hk (by simp [hd])
    | cons a ks ih =>
      by_cases ha : k = a
      · exact ha ▸ List.mem_cons_self
      · exact List.mem_cons_of_mem _ (ih _ (by simp [StateDocument.isCreated_set, ha, hd]) hk)
  exact fold _ (by simp [freshDocument]) created hk

theorem opened_sampleSession (created : List Component) {w : Bench} (empty : w.load = .ok none)
    (saved : (w.save ((freshDocument sampleHost sampleConfig w).touch w.now)).1 = .ok ()) :
    Opened sampleHost true (sampleSession created w) := by
  have opened := start_of_empty (h := sampleHost) {} (by decide : sampleConfig.fault? = none)
    empty saved
  exact ⟨sampleConfig, {}, w, _, _, opened, rfl, rfl, rfl⟩

end Testbed.Session
