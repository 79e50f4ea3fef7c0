import Testbed.Proofs.Moves

/-!
# What a removal does

A removal of something that is recorded as created makes one attempt to delete it, with the pauses
that belong to it, and goes on whether the attempt succeeds or not. `Removed` lists the four ways
in which a removal ends, with all that it adds to the journal, the history and the faults.

**Theorem (`teardown_eq`).** A teardown is two rounds of removals with a pause between them. Whether
it pauses is noted while the first round goes on, but the flags with which the teardown began
already tell.
-/

namespace Testbed

/-- The fault that an event is to a teardown. -/
def Event.fault? : Event → Option TeardownFault
  | .call (.delete k) _ (some e) => some (.step s!"delete {k.label}" e)
  | .save _ (some e) => some (.persist e)
  | _ => none

theorem faults_save (d : StateDocument) (f : Option StoreError) :
    [Event.save d f].filterMap Event.fault? = (f.map TeardownFault.persist).toList := by
  cases f <;> rfl

namespace Session

variable {ω : Type} {h : Host ω} {s : Session ω} {t u : Teardown ω} {rs : List Record}
  {es : List Event}

/-- The headings of the records of a removal that is carried out. -/
def Removal.headings (r : Removal) : List (RecordKind × String) :=
  (r.before.map SettleReason.heading).toList ++ [(.step, s!"delete {r.component.label}")] ++
    (r.after.map SettleReason.heading).toList

/-! ## Pauses -/

/-- A pause that may be left out adds its record and nothing else. -/
theorem Teardown.runs_pause (h : Host ω) (reason : Option SettleReason) (t : Teardown ω) :
    ∃ rs, Runs t.session (reason.elim t fun r => t.settle h r).session rs [] ∧
      rs.map Record.heading = (reason.map SettleReason.heading).toList ∧
      (∀ r ∈ rs, r.saga = .down) ∧
      (reason.elim t fun r => t.settle h r).session.document = t.session.document ∧
      (reason.elim t fun r => t.settle h r).faults = t.faults := by
  cases reason with
  | none => exact ⟨[], .refl _, rfl, by simp, rfl, rfl⟩
  | some reason =>
    refine ⟨_, runs_settle h .down reason t.session, rfl, ?_, ?_, rfl⟩
    · intro r hr
      rw [List.mem_singleton.1 hr]
      rfl
    · exact document_settle h .down reason t.session

/-! ## Deletions -/

/-- What an attempt to delete does. -/
inductive Deleted (c : Component) (t u : Teardown ω) : List Event → Prop
  | failed {e : ProviderError}
      (grows : Grows t.session u.session [.ofStep .down s!"delete {c.label}" (some e)]
        [.call (.delete c) t.session.document (some e)])
      (document : u.session.document = t.session.document)
      (faults : u.faults = t.faults ++ [.step s!"delete {c.label}" e]) :
      Deleted c t u [.call (.delete c) t.session.document (some e)]
  | gone {f : Option StoreError} {now : String}
      (grows : Grows t.session u.session [.ofStep .down s!"delete {c.label}" none]
        [.call (.delete c) t.session.document none, .save u.session.document f])
      (document : u.session.document = (t.session.document.set c false now).touch now)
      (faults : u.faults = t.faults ++ (f.map TeardownFault.persist).toList) :
      Deleted c t u [.call (.delete c) t.session.document none, .save u.session.document f]

/-- A change to the document is one save; that it failed is a fault. -/
theorem Teardown.grows_update (h : Host ω) (change : String → StateDocument → StateDocument)
    (t : Teardown ω) :
    ∃ f, Grows t.session (t.update h change).session []
        [.save (t.update h change).session.document f] ∧
      (t.update h change).session.document =
        (change (h.now t.session.world) t.session.document).touch (h.now t.session.world) ∧
      (t.update h change).faults = t.faults ++ (f.map TeardownFault.persist).toList := by
  have g := Session.grows_update h change t.session
  have hd := document_update h change t.session
  unfold Teardown.update
  cases hu : t.session.update h change with
  | mk r v =>
    rw [hu] at g hd
    cases r with
    | ok _ => exact ⟨none, g, hd, (List.append_nil _).symm⟩
    | error e => exact ⟨some e, g, hd, rfl⟩

theorem grows_attemptDelete (h : Host ω) (c : Component) (s : Session ω) :
    let a := s.attempt .down s!"delete {c.label}" (perform h (.delete c))
    Grows s a.2 [.ofStep .down s!"delete {c.label}" (failureOf a.1)]
      [.call (.delete c) s.document (failureOf a.1)] ∧ a.2.document = s.document :=
  ⟨grows_attempt (grows_perform h (.delete c) _), document_attempt .down _ _ s⟩

theorem Teardown.delete_eq (h : Host ω) (c : Component) (t : Teardown ω) :
    t.delete h c =
      match t.session.attempt .down s!"delete {c.label}" (perform h (.delete c)) with
      | (.ok _, s) => update h (fun now d => d.set c false now) { t with session := s }
      | (.error e, s) => ⟨s, t.faults ++ [.step s!"delete {c.label}" e]⟩ := rfl

theorem Teardown.deleted (h : Host ω) (c : Component) (t : Teardown ω) :
    ∃ es, Deleted c t (t.delete h c) es := by
  obtain ⟨g, hd⟩ := grows_attemptDelete h c t.session
  rw [delete_eq]
  cases ha : t.session.attempt .down s!"delete {c.label}" (perform h (.delete c)) with
  | mk r v =>
    rw [ha] at g hd
    cases r with
    | error e => exact ⟨_, .failed g hd rfl⟩
    | ok _ =>
      obtain ⟨f, gu, du, fu⟩ :=
        Teardown.grows_update h (fun now d => d.set c false now) { t with session := v }
      dsimp only at hd gu du
      rw [hd] at du
      exact ⟨_, .gone (g.trans gu) du fu⟩

/-! ## Removals -/

/-- How a removal ends. -/
inductive Removed (r : Removal) (t : Teardown ω) : Except SagaError Unit × Teardown ω → Prop
  | absent (absent : t.session.document.isCreated r.component = false) : Removed r t (.ok (), t)
  | undriven (present : t.session.document.isCreated r.component = true)
      (undriven : t.session.registry.drives r.component = false) :
      Removed r t (.error (.missingHandle r.component), t)
  | failed {u : Teardown ω} {rs : List Record} {e : ProviderError}
      (present : t.session.document.isCreated r.component = true)
      (driven : t.session.registry.drives r.component = true)
      (runs : Runs t.session u.session rs
        [.call (.delete r.component) t.session.document (some e)])
      (headings : rs.map Record.heading = r.headings) (saga : ∀ x ∈ rs, x.saga = .down)
      (document : u.session.document = t.session.document)
      (faults : u.faults = t.faults ++ [.step s!"delete {r.component.label}" e]) :
      Removed r t (.ok (), u)
  | gone {u : Teardown ω} {rs : List Record} {f : Option StoreError} {now : String}
      (present : t.session.document.isCreated r.component = true)
      (driven : t.session.registry.drives r.component = true)
      (runs : Runs t.session u.session rs
        [.call (.delete r.component) t.session.document none, .save u.session.document f])
      (headings : rs.map Record.heading = r.headings) (saga : ∀ x ∈ rs, x.saga = .down)
      (document : u.session.document =
        (t.session.document.set r.component false now).touch now)
      (faults : u.faults = t.faults ++ (f.map TeardownFault.persist).toList) :
      Removed r t (.ok (), u)

theorem Teardown.removed (h : Host ω) (r : Removal) (t : Teardown ω) :
    Removed r t (t.remove h r) := by
  unfold Teardown.remove
  cases present : t.session.document.isCreated r.component with
  | false => exact .absent present
  | true =>
    cases driven : t.session.registry.drives r.component with
    | false => exact .undriven present driven
    | true =>
      obtain ⟨bs, runsB, headB, sagaB, docB, faultsB⟩ := Teardown.runs_pause h r.before t
      show Removed r t (.ok (), r.after.elim _ fun reason => Teardown.settle h reason _)
      generalize (r.before.elim t fun reason => t.settle h reason) = b at *
      obtain ⟨es, deleted⟩ := Teardown.deleted h r.component b
      obtain ⟨as, runsA, headA, sagaA, docA, faultsA⟩ :=
        Teardown.runs_pause h r.after (b.delete h r.component)
      generalize b.delete h r.component = v at *
      generalize (r.after.elim v fun reason => v.settle h reason) = a at *
      have head (f : Option ProviderError) :
          (bs ++ [Record.ofStep .down s!"delete {r.component.label}" f] ++ as).map Record.heading =
            r.headings := by
        rw [List.map_append, List.map_append, headB, headA, List.map_singleton,
          Record.heading_ofStep]
        rfl
      have saga (f : Option ProviderError) :
          ∀ x ∈ bs ++ [Record.ofStep .down s!"delete {r.component.label}" f] ++ as,
            x.saga = .down := by
        intro x hx
        rcases List.mem_append.1 hx with hx | hx
        · rcases List.mem_append.1 hx with hx | hx
          · exact sagaB x hx
          · rw [List.mem_singleton.1 hx, Record.saga_ofStep]
        · exact sagaA x hx
      have presentB : b.session.document.isCreated r.component = true := docB ▸ present
      cases deleted with
      | failed grows document faults =>
        have runsD := Runs.of_move grows (by
          rw [document]
          exact .deleteFailed presentB (Record.reports_ofStep _ _ _))
        have runs := (runsB.trans runsD).trans runsA
        rw [List.append_nil, List.nil_append, docB] at runs
        exact .failed present driven runs (head _) (saga _) (by rw [docA, document, docB])
          (by rw [faultsA, faults, faultsB])
      | gone grows document faults =>
        have runsD := Runs.of_move grows
          (.deleted presentB (Record.reports_ofStep _ _ none) document)
        have runs := (runsB.trans runsD).trans runsA
        rw [List.append_nil, List.nil_append, docB, ← docA] at runs
        exact .gone present driven runs (head _) (saga _) (by rw [docA, document, docB])
          (by rw [faultsA, faults, faultsB])

/-! ## Several removals -/

/-- What removals that come to their end have done: every component that was recorded as created
when they began was attempted once, in their order. -/
structure RemovedAll (ks : List Removal) (t u : Teardown ω) (records : List Record)
    (events : List Event) : Prop where
  runs : Runs t.session u.session records events
  headings : records.map Record.heading =
    (ks.filter fun r => t.session.document.isCreated r.component).flatMap Removal.headings
  saga : ∀ r ∈ records, r.saga = .down
  creations : events.filterMap Event.creation? = []
  deletions : events.filterMap Event.deletion? =
    (ks.map Removal.component).filter t.session.document.isCreated
  faults : u.faults = t.faults ++ events.filterMap Event.fault?

theorem RemovedAll.nil (t : Teardown ω) : RemovedAll [] t t [] [] where
  runs := .refl _
  headings := rfl
  saga := by simp
  creations := rfl
  deletions := rfl
  faults := (List.append_nil _).symm

/-- Removals leave the flags of other components alone. -/
theorem RemovedAll.isCreated_of_notMem {ks : List Removal} (all : RemovedAll ks t u rs es)
    {k : Component} (hk : k ∉ ks.map Removal.component) :
    u.session.document.isCreated k = t.session.document.isCreated k := by
  have none : turns k es = [] := turns_eq_nil (by simp [all.creations]) (by
    rw [all.deletions]
    exact fun mem => hk (List.mem_filter.1 mem).1)
  rw [all.runs.moves.isCreated_eq k, none]
  rfl

/-- Removals of different components can be put together. -/
theorem RemovedAll.append {ks ks' : List Removal} {v : Teardown ω} {rs' : List Record}
    {es' : List Event} (apart : ∀ r ∈ ks', r.component ∉ ks.map Removal.component)
    (first : RemovedAll ks t u rs es) (rest : RemovedAll ks' u v rs' es') :
    RemovedAll (ks ++ ks') t v (rs ++ rs') (es ++ es') := by
  have same : ∀ r ∈ ks', u.session.document.isCreated r.component =
      t.session.document.isCreated r.component := fun r hr =>
    first.isCreated_of_notMem (apart r hr)
  exact {
    runs := first.runs.trans rest.runs
    headings := by
      rw [List.map_append, first.headings, rest.headings, List.filter_append,
        List.flatMap_append, List.filter_congr same]
    saga := fun r hr => (List.mem_append.1 hr).elim (first.saga r) (rest.saga r)
    creations := by rw [List.filterMap_append, first.creations, rest.creations]; rfl
    deletions := by
      rw [List.filterMap_append, first.deletions, rest.deletions, List.map_append,
        List.filter_append]
      congr 1
      refine List.filter_congr fun k hk => ?_
      obtain ⟨r, hr, rfl⟩ := List.mem_map.1 hk
      exact same r hr
    faults := by
      rw [rest.faults, first.faults, List.filterMap_append, List.append_assoc] }

/-- A removal of something that can be driven is carried out if it is recorded as created. -/
theorem Removed.removedAll {r : Removal} {x : Except SagaError Unit × Teardown ω}
    (removed : Removed r t x)
    (driven : t.session.document.isCreated r.component = true →
      t.session.registry.drives r.component = true) :
    ∃ u rs es, x = (.ok (), u) ∧ RemovedAll [r] t u rs es := by
  cases removed with
  | absent absent =>
    refine ⟨t, [], [], rfl, ?_⟩
    exact {
      RemovedAll.nil t with
      headings := by simp [absent]
      deletions := by simp [absent] }
  | undriven present undriven => simp [driven present] at undriven
  | @failed u rs e present _ runs headings saga document faults =>
    refine ⟨u, rs, _, rfl, runs, ?_, saga, rfl, ?_, faults⟩
    · simp [present, headings]
    · simp [present, Event.deletion?]
  | @gone u rs f now present _ runs headings saga document faults =>
    refine ⟨u, rs, _, rfl, runs, ?_, saga, rfl, ?_, ?_⟩
    · simp [present, headings]
    · simp [present, Event.deletion?]
    · rw [faults, ← faults_save u.session.document]
      rfl

/-- **Removals of which none lacks a handle come to their end.** -/
theorem Teardown.removedAll (h : Host ω) {ks : List Removal} {t : Teardown ω}
    (nodup : (ks.map Removal.component).Nodup)
    (driven : ∀ r ∈ ks, t.session.document.isCreated r.component = true →
      t.session.registry.drives r.component = true) :
    ∃ u rs es, t.removeAll h ks = (.ok (), u) ∧ RemovedAll ks t u rs es := by
  induction ks generalizing t with
  | nil => exact ⟨t, [], [], rfl, .nil t⟩
  | cons r ks ih =>
    rw [List.map_cons, List.nodup_cons] at nodup
    obtain ⟨u, rs, es, hu, first⟩ :=
      (Teardown.removed h r t).removedAll (driven r List.mem_cons_self)
    have apart : ∀ q ∈ ks, q.component ∉ [r].map Removal.component := fun q hq mem =>
      nodup.1 (List.mem_singleton.1 mem ▸ List.mem_map_of_mem hq)
    obtain ⟨v, rs', es', hv, rest⟩ := ih (t := u) nodup.2 fun q hq present => by
      rw [first.runs.grows.registry]
      refine driven q (List.mem_cons_of_mem _ hq) ?_
      rwa [← first.isCreated_of_notMem (apart q hq)]
    refine ⟨v, _, _, ?_, first.append apart rest⟩
    rw [Teardown.removeAll, hu]
    exact hv

/-! ## Two rounds of removals -/

/-- What two rounds of removals have done, with a pause between them that may be left out. The
second round goes by the flags with which the first began. -/
structure Rounds (ks ks' : List Removal) (reason : Option SettleReason) (t u : Teardown ω)
    (records : List Record) (events : List Event) : Prop where
  runs : Runs t.session u.session records events
  headings : records.map Record.heading =
    (ks.filter fun r => t.session.document.isCreated r.component).flatMap Removal.headings ++
    (reason.map SettleReason.heading).toList ++
    (ks'.filter fun r => t.session.document.isCreated r.component).flatMap Removal.headings
  saga : ∀ r ∈ records, r.saga = .down
  creations : events.filterMap Event.creation? = []
  deletions : events.filterMap Event.deletion? =
    ((ks ++ ks').map Removal.component).filter t.session.document.isCreated
  faults : u.faults = t.faults ++ events.filterMap Event.fault?

theorem Teardown.rounds (h : Host ω) {ks ks' : List Removal} (reason : Option SettleReason)
    {t : Teardown ω} (nodup : ((ks ++ ks').map Removal.component).Nodup)
    (driven : ∀ r ∈ ks ++ ks', t.session.document.isCreated r.component = true →
      t.session.registry.drives r.component = true) :
    ∃ u v rs es, t.removeAll h ks = (.ok (), u) ∧
      (reason.elim u fun q => u.settle h q).removeAll h ks' = (.ok (), v) ∧
      Rounds ks ks' reason t v rs es := by
  rw [List.map_append, List.nodup_append] at nodup
  obtain ⟨nodup₁, nodup₂, apart⟩ := nodup
  obtain ⟨u, rs, es, hu, first⟩ :=
    Teardown.removedAll h nodup₁ fun r hr => driven r (List.mem_append_left _ hr)
  obtain ⟨ps, pause, headings, saga, document, faults⟩ := Teardown.runs_pause h reason u
  have same : ∀ r ∈ ks', (reason.elim u fun q => u.settle h q).session.document.isCreated
      r.component = t.session.document.isCreated r.component := fun r hr => by
    rw [document]
    exact first.isCreated_of_notMem fun mem => apart _ mem _ (List.mem_map_of_mem hr) rfl
  obtain ⟨v, rs', es', hv, rest⟩ :=
    Teardown.removedAll h (t := reason.elim u fun q => u.settle h q) nodup₂ fun r hr present => by
      rw [pause.grows.registry, first.runs.grows.registry]
      exact driven r (List.mem_append_right _ hr) (same r hr ▸ present)
  refine ⟨u, v, rs ++ ps ++ rs', es ++ [] ++ es', hu, hv, ?_⟩
  exact {
    runs := (first.runs.trans pause).trans rest.runs
    headings := by
      rw [List.map_append, List.map_append, first.headings, headings, rest.headings,
        List.filter_congr same]
    saga := by
      intro r hr
      rcases List.mem_append.1 hr with hr | hr
      · exact (List.mem_append.1 hr).elim (first.saga r) (saga r)
      · exact rest.saga r hr
    creations := by
      rw [List.append_nil, List.filterMap_append, first.creations, rest.creations]
      rfl
    deletions := by
      rw [List.append_nil, List.filterMap_append, first.deletions, rest.deletions,
        List.map_append, List.filter_append]
      congr 1
      refine List.filter_congr fun k hk => ?_
      obtain ⟨r, hr, rfl⟩ := List.mem_map.1 hk
      exact same r hr
    faults := by
      rw [rest.faults, faults, first.faults, List.append_nil, List.filterMap_append,
        List.append_assoc] }

/-! ## Teardowns that may lack handles -/

/-- A part of a teardown: a run that adds records of that saga only. -/
structure RunsDown (s t : Session ω) (records : List Record) (events : List Event) : Prop where
  runs : Runs s t records events
  saga : ∀ r ∈ records, r.saga = .down

theorem RunsDown.refl (s : Session ω) : RunsDown s s [] [] := ⟨.refl s, by simp⟩

theorem RunsDown.trans {s t u : Session ω} {rs' : List Record} {es' : List Event}
    (h₁ : RunsDown s t rs es) (h₂ : RunsDown t u rs' es') :
    RunsDown s u (rs ++ rs') (es ++ es') where
  runs := h₁.runs.trans h₂.runs
  saga := fun r hr => (List.mem_append.1 hr).elim (h₁.saga r) (h₂.saga r)

/-- What a part of a teardown does: all that fails in it is added to the faults. -/
structure Tallied (t u : Teardown ω) (records : List Record) (events : List Event) : Prop where
  down : RunsDown t.session u.session records events
  faults : u.faults = t.faults ++ events.filterMap Event.fault?

theorem Tallied.refl (t : Teardown ω) : Tallied t t [] [] := ⟨.refl _, (List.append_nil _).symm⟩

theorem Tallied.trans {v : Teardown ω} {rs' : List Record} {es' : List Event}
    (h₁ : Tallied t u rs es) (h₂ : Tallied u v rs' es') :
    Tallied t v (rs ++ rs') (es ++ es') where
  down := h₁.down.trans h₂.down
  faults := by rw [h₂.faults, h₁.faults, List.filterMap_append, List.append_assoc]

/-- What ends a teardown early: something is recorded as created that cannot be driven. -/
def Undriven (s : Session ω) (e : SagaError) : Prop :=
  ∃ k, e = .missingHandle k ∧ s.document.isCreated k = true ∧ s.registry.drives k = false

theorem Removed.tallied {r : Removal} {x : Except SagaError Unit × Teardown ω}
    (removed : Removed r t x) :
    ∃ rs es, Tallied t x.2 rs es ∧ ∀ e, x.1 = .error e → Undriven x.2.session e := by
  cases removed with
  | absent => exact ⟨_, _, .refl t, nofun⟩
  | undriven present undriven =>
    refine ⟨_, _, .refl t, fun e ended => ?_⟩
    cases ended
    exact ⟨r.component, rfl, present, undriven⟩
  | failed _ _ runs _ saga _ faults => exact ⟨_, _, ⟨⟨runs, saga⟩, faults⟩, nofun⟩
  | @gone u rs f now _ _ runs _ saga _ faults =>
    refine ⟨_, _, ⟨⟨runs, saga⟩, ?_⟩, nofun⟩
    rw [faults, ← faults_save u.session.document]
    rfl

theorem Teardown.tallied_removeAll (h : Host ω) (ks : List Removal) (t : Teardown ω) :
    ∃ rs es, Tallied t (t.removeAll h ks).2 rs es ∧
      ∀ e, (t.removeAll h ks).1 = .error e → Undriven (t.removeAll h ks).2.session e := by
  induction ks generalizing t with
  | nil => exact ⟨_, _, .refl t, nofun⟩
  | cons r ks ih =>
    obtain ⟨rs, es, first, ended⟩ := (Teardown.removed h r t).tallied
    unfold Teardown.removeAll
    generalize t.remove h r = x at first ended ⊢
    obtain ⟨q, u⟩ := x
    cases q with
    | error e => exact ⟨rs, es, first, ended⟩
    | ok _ =>
      obtain ⟨rs', es', rest, ended'⟩ := ih u
      exact ⟨_, _, first.trans rest, ended'⟩

theorem Teardown.tallied_pause (h : Host ω) (reason : Option SettleReason) (t : Teardown ω) :
    ∃ rs, Tallied t (reason.elim t fun r => t.settle h r) rs [] := by
  obtain ⟨rs, runs, -, saga, -, faults⟩ := Teardown.runs_pause h reason t
  exact ⟨rs, ⟨runs, saga⟩, by rw [faults]; exact (List.append_nil _).symm⟩

theorem Teardown.tallied_markDown (h : Host ω) (t : Teardown ω) :
    ∃ es, Tallied t (t.update h fun now d => d.markDown now) [] es := by
  obtain ⟨f, grows, document, faults⟩ :=
    Teardown.grows_update h (fun now d => d.markDown now) t
  refine ⟨_, ⟨.of_move grows (.markDown document), by simp⟩, ?_⟩
  rw [faults, faults_save]

/-! ## The pause in the middle

A teardown notes while it deletes load balancers whether there were any. It could have known this
before it began: what it deletes until then is something else, and a removal that finds nothing
changes nothing. -/

/-- A removal leaves the flags of other components alone. -/
theorem Removed.isCreated_of_ne {r : Removal} {x : Except SagaError Unit × Teardown ω}
    (removed : Removed r t x) {k : Component} (other : k ≠ r.component) :
    x.2.session.document.isCreated k = t.session.document.isCreated k := by
  cases removed with
  | absent | undriven => rfl
  | failed _ _ _ _ _ document => rw [document]
  | gone _ _ _ _ _ document =>
    rw [document, StateDocument.isCreated_touch, StateDocument.isCreated_set, if_neg other]

theorem Teardown.isCreated_removeAll (h : Host ω) {ks : List Removal} (t : Teardown ω)
    {k : Component} (other : k ∉ ks.map Removal.component) :
    (t.removeAll h ks).2.session.document.isCreated k = t.session.document.isCreated k := by
  induction ks generalizing t with
  | nil => rfl
  | cons r ks ih =>
    rw [List.map_cons, List.mem_cons, not_or] at other
    have first := (Teardown.removed h r t).isCreated_of_ne other.1
    unfold Teardown.removeAll
    generalize t.remove h r = x at first ⊢
    obtain ⟨q, u⟩ := x
    cases q with
    | error e => exact first
    | ok _ => exact (ih u other.2).trans first

theorem Teardown.removeAll_append (h : Host ω) (ks ks' : List Removal) (t : Teardown ω) :
    t.removeAll h (ks ++ ks') =
      match t.removeAll h ks with
      | (.ok _, u) => u.removeAll h ks'
      | (.error e, u) => (.error e, u) := by
  induction ks generalizing t with
  | nil => rfl
  | cons r ks ih =>
    rw [List.cons_append, Teardown.removeAll, Teardown.removeAll]
    cases t.remove h r with
    | mk q u =>
      cases q with
      | ok _ => exact ih u
      | error e => rfl

/-- What is noted in the course of removals that come to their end could be read off the flags with
which they began. -/
theorem Teardown.removeNoting_eq (h : Host ω) (ks : List Removal) (found : Bool) (t : Teardown ω) :
    t.removeNoting h ks found =
      match t.removeAll h ks with
      | (.ok _, u) =>
        (.ok (found || ks.any fun r => t.session.document.isCreated r.component), u)
      | (.error e, u) => (.error e, u) := by
  induction ks generalizing found t with
  | nil => simp [Teardown.removeNoting, Teardown.removeAll]
  | cons r ks ih =>
    have removed := Teardown.removed h r t
    unfold Teardown.removeNoting Teardown.removeAll
    generalize t.remove h r = x at removed ⊢
    -- Only a removal that finds nothing leaves it open what was noted.
    cases removed with
    | absent absent => simp [ih, absent]
    | undriven => rfl
    | failed present | gone present =>
      dsimp only
      rw [ih, List.any_cons, present]
      simp

/-- Whether a teardown that begins now will wait for load balancers to release the network: it
deletes one, and there are node groups that hold on to the network. -/
def awaitsRelease (s : Session ω) : Bool :=
  (s.registry.addOns.any fun e => e.kind.holdsLoadBalancer && s.document.addOnCreated e.kind)
    && s.config.anyNodeGroupEnabled

theorem any_balanced (r : Registry) (d : StateDocument) :
    ((Removal.balanced r).any fun q => d.isCreated q.component) =
      r.addOns.any fun e => e.kind.holdsLoadBalancer && d.addOnCreated e.kind := by
  unfold Removal.balanced
  rw [List.any_map, List.any_filter, List.any_reverse, List.any_map]
  rfl

/-- What goes before the add-ons with a load balancer is something else. -/
theorem notMem_unbalanced {r : Registry} {q : Removal} (mem : q ∈ Removal.balanced r) :
    q.component ∉ (Removal.unbalanced r).map Removal.component := by
  obtain ⟨k, balanced, rfl⟩ := List.mem_map.1 mem
  intro again
  obtain ⟨q', mem', same⟩ := List.mem_map.1 again
  rcases List.mem_cons.1 mem' with rfl | mem'
  · cases same
  · obtain ⟨k', plain, rfl⟩ := List.mem_map.1 mem'
    cases same
    have holds := (List.mem_filter.1 balanced).2
    simp [holds] at plain

/-- When its load balancers are due, a teardown finds those that it found at the start. -/
theorem any_balanced_removeAll (h : Host ω) (s : Session ω) :
    ((Removal.balanced s.registry).any fun q =>
      (Teardown.removeAll h (Removal.unbalanced s.registry)
        ⟨s.uploadArtifacts h .down, []⟩).2.session.document.isCreated q.component) =
      s.registry.addOns.any fun e =>
        e.kind.holdsLoadBalancer && s.document.addOnCreated e.kind := by
  have uploaded : (s.uploadArtifacts h .down).document = s.document := document_uploadArtifacts ..
  rw [← any_balanced, ← uploaded, Bool.eq_iff_iff, List.any_eq_true, List.any_eq_true]
  refine exists_congr fun q => and_congr_right fun mem => ?_
  rw [Teardown.isCreated_removeAll h _ (notMem_unbalanced mem)]

/-- The pause between the two halves of a teardown. -/
def releasePause (s : Session ω) : Option SettleReason :=
  if s.awaitsRelease then some .loadBalancerNetwork else none

/-- A teardown is two rounds of removals with a pause between them. -/
theorem teardown_eq (h : Host ω) (s : Session ω) :
    s.teardown h =
      match (Teardown.mk (s.uploadArtifacts h .down) []).removeAll h
        (Removal.beforeRelease s.registry) with
      | (.error e, t) => (.error e, t.session)
      | (.ok _, t) =>
        match (s.releasePause.elim t fun reason => t.settle h reason).removeAll h
          Removal.afterRelease with
        | (.error e, t) => (.error e, t.session)
        | (.ok _, t) =>
          ((t.update h fun now d => d.markDown now).result,
            (t.update h fun now d => d.markDown now).session) := by
  have noted := any_balanced_removeAll h s
  unfold teardown Removal.beforeRelease
  dsimp only
  rw [Teardown.removeAll_append]
  generalize Teardown.removeAll h (Removal.unbalanced s.registry)
    ⟨s.uploadArtifacts h .down, []⟩ = x at noted ⊢
  obtain ⟨q, t⟩ := x
  cases q with
  | error e => rfl
  | ok _ =>
    dsimp only at noted ⊢
    rw [Teardown.removeNoting_eq, Bool.false_or, noted]
    unfold releasePause awaitsRelease
    generalize Teardown.removeAll h (Removal.balanced s.registry) t = y
    obtain ⟨q, u⟩ := y
    cases q with
    | error e => rfl
    | ok _ =>
      dsimp only
      generalize (s.registry.addOns.any _ && s.config.anyNodeGroupEnabled) = awaits
      cases awaits <;> rfl

/-- **All that fails in a teardown is among its faults**, and these are its result, unless it ends
early. -/
theorem tallied_teardown (h : Host ω) (s : Session ω) :
    ∃ u rs es, Tallied ⟨s, []⟩ u rs es ∧ (s.teardown h).2 = u.session ∧
      ((s.teardown h).1 = u.result ∨ ∃ e, (s.teardown h).1 = .error e ∧ Undriven u.session e) := by
  obtain ⟨f, upload⟩ := runs_uploadArtifacts h .down s
  have uploaded : Tallied ⟨s, []⟩ ⟨s.uploadArtifacts h .down, []⟩ _ _ :=
    ⟨⟨upload, by simp⟩, rfl⟩
  obtain ⟨rs, es, before, ended⟩ := Teardown.tallied_removeAll h
    (Removal.beforeRelease s.registry) ⟨s.uploadArtifacts h .down, []⟩
  have first := uploaded.trans before
  rw [teardown_eq]
  generalize Teardown.removeAll h (Removal.beforeRelease s.registry)
    ⟨s.uploadArtifacts h .down, []⟩ = x at first ended ⊢
  obtain ⟨q, t⟩ := x
  cases q with
  | error e => exact ⟨t, _, _, first, rfl, .inr ⟨e, rfl, ended e rfl⟩⟩
  | ok _ =>
    obtain ⟨ps, pause⟩ := Teardown.tallied_pause h s.releasePause t
    obtain ⟨rs', es', after, ended'⟩ := Teardown.tallied_removeAll h Removal.afterRelease
      (s.releasePause.elim t fun reason => t.settle h reason)
    have both := (first.trans pause).trans after
    dsimp only at both ⊢
    generalize Teardown.removeAll h Removal.afterRelease
      (s.releasePause.elim t fun reason => t.settle h reason) = x at both ended' ⊢
    obtain ⟨q, u⟩ := x
    cases q with
    | error e => exact ⟨u, _, _, both, rfl, .inr ⟨e, rfl, ended' e rfl⟩⟩
    | ok _ =>
      obtain ⟨es'', mark⟩ := Teardown.tallied_markDown h u
      exact ⟨_, _, _, both.trans mark, rfl, .inl rfl⟩

/-- **Every teardown is a run**, also one that ends because something cannot be driven. -/
theorem runsDown_down (h : Host ω) (s : Session ω) : ∃ rs es, RunsDown s (s.down h).2 rs es := by
  unfold down
  cases s.allow .down with
  | error e => exact ⟨_, _, .refl s⟩
  | ok _ =>
    obtain ⟨u, rs, es, tallied, ended, -⟩ := tallied_teardown h s
    exact ⟨rs, es, ended ▸ tallied.down⟩

end Session

end Testbed
