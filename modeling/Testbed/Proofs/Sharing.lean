import Mathlib.Data.List.Induction
import Testbed.Proofs.Deeds

/-!
# Processes on one environment

Any number of processes run commands on one environment, and their deeds interleave in whatever way
the lock allows.

**Theorem (`serial_of_interleaving`).** Between the load of a process and any save of it no other
process saves. What a process loads is what was saved last. A process that does not get the lock
does nothing more than to exit with the code 3, and a query saves nothing.

A process that has the lock and has not given it back is its holder, whatever the others do
(`Held`). One that loads for writing has the lock by then and saves only as long as it has it, so
two that save at such a time are one.
-/

namespace Testbed.Cli

/-! ## Ways through the phases -/

section Phases

variable {writes : Bool} {p q : Phase} {d : Deed} {ds : List Deed}

theorem Phase.after_cons : Phase.after writes p (d :: ds) = some q ↔
    ∃ p', Phase.next writes p d = some p' ∧ Phase.after writes p' ds = some q :=
  Option.bind_eq_some_iff

/-- What cannot be done in any of some phases, which a process does not leave again, is not done
any more. -/
theorem Phase.notMem_of_kept {K : Phase → Prop}
    (kept : ∀ {p d q}, Phase.next writes p d = some q → K p → K q)
    (barred : ∀ {p q}, Phase.next writes p d = some q → ¬ K p)
    (inside : K p) (reached : Phase.after writes p ds = some q) : d ∉ ds := by
  induction ds generalizing p with
  | nil => exact List.not_mem_nil
  | cons d' ds ih =>
    obtain ⟨p', step, onwards⟩ := Phase.after_cons.1 reached
    rw [List.mem_cons, not_or]
    refine ⟨?_, ih (kept step inside) onwards⟩
    rintro rfl
    exact barred step inside

/-- Whether a process in this phase has the lock. -/
def Phase.locked : Phase → Bool
  | holding | working => true
  | _ => false

/-- A process has the lock if it has just taken it, or had it and has not given it back. -/
theorem Phase.locked_of_next (step : Phase.next writes p d = some q) (locked : q.locked = true) :
    d = .tried none ∨ d ≠ .tried none ∧ d.frees = false ∧ p.locked = true := by
  unfold Phase.next at step
  split at step
  case h_3 => exact .inl rfl
  case h_6 | h_7 | h_8 =>
    cases step
    exact .inr ⟨nofun, rfl, rfl⟩
  case h_5 =>
    split at step <;> cases step
    cases locked
  all_goals
    cases step
    try cases locked

/-- Only a process with the lock and a document saves. -/
theorem Phase.of_saved {doc : StateDocument} {f : Option SaveFailure}
    (step : Phase.next writes p (.saved doc f) = some q) : writes = true ∧ p = .working := by
  cases writes <;> cases p <;> first | exact ⟨rfl, rfl⟩ | cases step

theorem Phase.working_of_loaded {r : Except StoreError (Option StateDocument)}
    (step : Phase.next true p (.loaded r) = some q) : q = .working := by
  cases p <;> cases step
  rfl

/-- The last phases of a process that wrote. -/
def Phase.done : Phase → Bool
  | leaving | gone => true
  | _ => false

theorem Phase.done_of_next (step : Phase.next writes p d = some q) (done : p.done = true) :
    q.done = true := by
  cases p with
  | gone =>
    rw [next_gone] at step
    cases step
  | leaving => cases writes <;> cases d <;> first | cases step; rfl | cases step
  | _ => cases done

/-- In its session a process stays until it gives the lock back. -/
theorem Phase.of_working (step : Phase.next true .working d = some q) :
    q = .working ∨ q.done = true := by
  cases d <;> cases step <;> first | exact .inl rfl | exact .inr rfl

/-- A process that is done does not save. -/
theorem Phase.done_notSaved {doc : StateDocument} {f : Option SaveFailure} (done : p.done = true)
    (reached : Phase.after writes p ds = some q) : .saved doc f ∉ ds := by
  refine Phase.notMem_of_kept (K := fun p => p.done = true) Phase.done_of_next ?_ done reached
  intro p q step done
  obtain ⟨-, rfl⟩ := Phase.of_saved step
  cases done

/-- A process that will save has been in its session since it loaded the document. -/
theorem Phase.working_of_saved {doc : StateDocument} {f : Option SaveFailure} {es : List Deed}
    (reached : Phase.after true .working (ds ++ es) = some q) (mem : .saved doc f ∈ es) :
    Phase.after true .working ds = some .working := by
  induction ds with
  | nil => rfl
  | cons d ds ih =>
    obtain ⟨p', step, onwards⟩ := Phase.after_cons.1 reached
    obtain rfl | done := Phase.of_working step
    · exact Phase.after_cons.2 ⟨_, step, ih onwards⟩
    · exact absurd (List.mem_append_right ds mem) (Phase.done_notSaved done onwards)

/-- Whether a process in this phase may still try to take the lock. -/
def Phase.early : Phase → Bool
  | fresh | ready => true
  | _ => false

theorem Phase.early_of_next (step : Phase.next writes p d = some q) (early : q.early = true) :
    q = .ready ∧ writes = true ∧ p = .fresh ∧ d = .prepared none := by
  unfold Phase.next at step
  split at step
  case h_1 => exact ⟨(Option.some.inj step).symm, rfl, rfl, rfl⟩
  case h_5 =>
    split at step <;> cases step
    cases early
  all_goals
    cases step
    try cases early

/-- A process tries to take the lock when it has made the directory. -/
theorem Phase.of_tried {f : Option LockError} (step : Phase.next writes p (.tried f) = some q) :
    writes = true ∧ p = .ready ∧ (f = none ∨ q = .refused) := by
  cases writes <;> cases p <;> cases f <;>
    first | exact ⟨rfl, rfl, .inl rfl⟩ | (cases step; exact ⟨rfl, rfl, .inr rfl⟩) | cases step

theorem Phase.notTried_of_late {f : Option LockError} (late : p.early = false)
    (reached : Phase.after writes p ds = some q) : .tried f ∉ ds := by
  refine Phase.notMem_of_kept (K := fun p => p.early = false) ?_ ?_ late reached
  case refine_1 =>
    intro p d q step late
    cases early : q.early with
    | false => rfl
    | true =>
      obtain ⟨-, -, rfl, -⟩ := Phase.early_of_next step early
      cases late
  case refine_2 =>
    intro p q step late
    obtain ⟨-, rfl, -⟩ := Phase.of_tried step
    cases late

/-- A process that was refused can only exit, with the code 3. -/
theorem Phase.of_refused (reached : Phase.after writes .refused ds = some q) :
    ds = [] ∧ q = .refused ∨ ds = [.exited 3] ∨ ds = [.killed] := by
  cases ds with
  | nil => exact .inl ⟨rfl, (Option.some.inj reached).symm⟩
  | cons d ds =>
    obtain ⟨p', step, onwards⟩ := Phase.after_cons.1 reached
    have last : p' = .gone ∧ (d = .exited 3 ∨ d = .killed) := by
      cases d with
      | exited code =>
        cases writes with
        | false => cases step
        | true =>
          by_cases state : code = 3
          · subst state
            cases step
            exact ⟨rfl, .inl rfl⟩
          · have stuck : Phase.next true .refused (.exited code) = none := if_neg state
            cases stuck.symm.trans step
      | killed =>
        cases writes <;> cases step <;> exact ⟨rfl, .inr rfl⟩
      | _ => cases writes <;> cases step
    obtain ⟨rfl, deed⟩ := last
    cases ds with
    | cons d' ds => cases (after_gone d' ds).symm.trans onwards
    | nil => exact .inr (deed.imp (congrArg ([·])) (congrArg ([·])))

/-- What a process has done whose try to take the lock failed. -/
theorem Phase.of_refused_try {e : LockError}
    (reached : Phase.after writes .fresh ds = some q) (mem : .tried (some e) ∈ ds) :
    writes = true ∧ ∃ rest, ds = .prepared none :: .tried (some e) :: rest ∧
      Phase.after writes .refused rest = some q := by
  have late {p : Phase} {ds : List Deed} (mem : .tried (some e) ∈ ds)
      (reached : Phase.after writes p ds = some q) : p.early = true := by
    cases early : p.early with
    | true => rfl
    | false => exact absurd mem (Phase.notTried_of_late early reached)
  cases ds with
  | nil => cases mem
  | cons d ds =>
    obtain ⟨p, step, onwards⟩ := Phase.after_cons.1 reached
    replace mem : .tried (some e) ∈ ds := by
      obtain rfl | mem := List.mem_cons.1 mem
      · cases (Phase.of_tried step).2.1
      · exact mem
    obtain ⟨rfl, writing, -, rfl⟩ := Phase.early_of_next step (late mem onwards)
    refine ⟨writing, ?_⟩
    cases ds with
    | nil => cases mem
    | cons d ds =>
      obtain ⟨p, step, onwards⟩ := Phase.after_cons.1 onwards
      obtain rfl | mem := List.mem_cons.1 mem
      · obtain ⟨-, -, none | rfl⟩ := Phase.of_tried step
        · cases none
        · exact ⟨ds, rfl, onwards⟩
      · obtain ⟨-, -, other, -⟩ := Phase.early_of_next step (late mem onwards)
        cases other

/-- A query only loads and asks. -/
theorem Phase.of_query (reached : Phase.after false p ds = some q) (doc : StateDocument)
    (f : Option SaveFailure) : .saved doc f ∉ ds := by
  refine Phase.notMem_of_kept (K := fun _ => True) (fun _ => id) ?_ trivial reached
  intro p q step
  cases (Phase.of_saved step).1

end Phases

/-! ## The deeds of one process among those of all -/

variable {ι : Type} [DecidableEq ι] {errand : ι → Errand} {stored : Option StateDocument}
variable {log more pre post : List (ι × Deed)} {i j : ι} {d : Deed} {v : Shared ι}

@[simp] theorem own_append (i : ι) (log more : List (ι × Deed)) :
    own i (log ++ more) = own i log ++ own i more := by simp [own]

@[simp] theorem own_cons_self (i : ι) (d : Deed) (log : List (ι × Deed)) :
    own i ((i, d) :: log) = d :: own i log := by simp [own]

theorem own_cons_of_ne (ne : j ≠ i) (d : Deed) (log : List (ι × Deed)) :
    own i ((j, d) :: log) = own i log := by simp [own, ne]

theorem mem_own : d ∈ own i log ↔ (i, d) ∈ log := by simp [own]

/-- The phase that a process is in after these deeds of all. -/
def phaseOf (errand : ι → Errand) (log : List (ι × Deed)) (i : ι) : Option Phase :=
  Phase.after (errand i).writes .fresh (own i log)

theorem phaseOf_concat_self {q : Phase} (reached : phaseOf errand (log ++ [(i, d)]) i = some q) :
    ∃ p, phaseOf errand log i = some p ∧ Phase.next (errand i).writes p d = some q := by
  unfold phaseOf at reached
  rw [own_append, own_cons_self, Phase.after_append] at reached
  obtain ⟨p, before, last⟩ := Option.bind_eq_some_iff.1 reached
  exact ⟨p, before, (Option.bind_fun_some _).symm.trans last⟩

theorem phaseOf_concat_of_ne (ne : j ≠ i) :
    phaseOf errand (log ++ [(j, d)]) i = phaseOf errand log i := by
  rw [phaseOf, own_append, own_cons_of_ne ne]
  simp [phaseOf, own]

/-! ## The lock and the store -/

theorem Shared.run_append (v : Shared ι) (log more : List (ι × Deed)) :
    v.run (log ++ more) = (v.run log).run more := List.foldl_append

theorem Shared.admitsAll_append {v : Shared ι} :
    v.AdmitsAll (log ++ more) ↔ v.AdmitsAll log ∧ (v.run log).AdmitsAll more := by
  induction log generalizing v with
  | nil => simp [Shared.AdmitsAll, Shared.run]
  | cons entry log ih =>
    simp only [List.cons_append, Shared.AdmitsAll, ih, Shared.run, List.foldl_cons, and_assoc]

/-- Whoever has the lock by what it did is the holder. -/
def Held (errand : ι → Errand) (log : List (ι × Deed)) (v : Shared ι) : Prop :=
  ∀ i p, phaseOf errand log i = some p → p.locked = true → v.holder = some i

theorem Held.nil (stored : Option StateDocument) :
    Held errand [] (⟨stored, none⟩ : Shared ι) := by
  intro i p fresh locked
  cases fresh
  cases locked

/-- **One deed keeps the lock** with whoever has it. -/
theorem Held.next (held : Held errand log v) (admits : v.Admits d) :
    Held errand (log ++ [(i, d)]) (v.next i d) := by
  intro j q reached locked
  by_cases own : j = i
  · subst own
    obtain ⟨p, before, step⟩ := phaseOf_concat_self reached
    obtain rfl | ⟨other, keeps, had⟩ := Phase.locked_of_next step locked
    · rfl
    · have holder := held j p before had
      unfold Shared.next
      split
      · exact absurd rfl other
      · simp [keeps, holder]
  · rw [phaseOf_concat_of_ne (Ne.symm own)] at reached
    have holder := held j q reached locked
    unfold Shared.next
    split
    · have free : v.holder = none := admits
      cases holder.symm.trans free
    · simp [holder, own]

/-- The documents that were put in their place, in order. -/
def saves (log : List (ι × Deed)) : List StateDocument := log.filterMap (·.2.stores?)

/-- The document of the last save, under its seal. -/
def latest (log : List (ι × Deed)) : Option StateDocument :=
  (saves log).getLast?.map (·.sealed)

omit [DecidableEq ι] in
theorem latest_concat (log : List (ι × Deed)) (i : ι) (d : Deed) :
    latest (log ++ [(i, d)]) = (d.stores?.map (·.sealed) <|> latest log) := by
  unfold latest saves
  cases put : d.stores? <;> simp [put]

/-- The store holds what was saved last. -/
theorem stored_run (v : Shared ι) (log : List (ι × Deed)) :
    (v.run log).stored = (latest log <|> v.stored) := by
  induction log using List.reverseRecOn with
  | nil => rfl
  | append_singleton log entry ih =>
    obtain ⟨i, d⟩ := entry
    rw [Shared.run_append, latest_concat]
    show (d.stores?.map (·.sealed) <|> (v.run log).stored) = _
    rw [ih]
    cases d.stores? <;> rfl

/-! ## Interleavings -/

theorem Held.run (admits : (⟨stored, none⟩ : Shared ι).AdmitsAll log) :
    Held errand log (Shared.run ⟨stored, none⟩ log) := by
  induction log using List.reverseRecOn with
  | nil => exact .nil stored
  | append_singleton log entry ih =>
    obtain ⟨i, d⟩ := entry
    obtain ⟨before, last, -⟩ := Shared.admitsAll_append.1 admits
    rw [Shared.run_append]
    exact (ih before).next last

theorem Interleaving.phase (run : Interleaving errand stored (log ++ more)) (i : ι) :
    ∃ p q, phaseOf errand log i = some p ∧
      Phase.after (errand i).writes p (own i more) = some q := by
  obtain ⟨q, reached⟩ := phase_of_trace (run.traces i)
  rw [own_append, Phase.after_append] at reached
  obtain ⟨p, before, onwards⟩ := Option.bind_eq_some_iff.1 reached
  exact ⟨p, q, before, onwards⟩

theorem Interleaving.held (run : Interleaving errand stored (log ++ more)) :
    Held errand log (Shared.run ⟨stored, none⟩ log) :=
  .run (Shared.admitsAll_append.1 run.shared).1

/-- A process has the lock when it saves. -/
theorem Interleaving.saver_holds {doc : StateDocument} {f : Option SaveFailure}
    (run : Interleaving errand stored (log ++ (i, .saved doc f) :: more)) :
    (Shared.run ⟨stored, none⟩ log).holder = some i := by
  obtain ⟨p, q, before, onwards⟩ := run.phase i
  rw [own_cons_self] at onwards
  obtain ⟨p', step, -⟩ := Phase.after_cons.1 onwards
  obtain ⟨-, rfl⟩ := Phase.of_saved step
  exact run.held i _ before rfl

/-- A process has the lock from its load to any save that follows. -/
theorem Interleaving.loader_holds (run : Interleaving errand stored (log ++ more))
    {r : Except StoreError (Option StateDocument)} {doc : StateDocument} {f : Option SaveFailure}
    (loaded : (i, .loaded r) ∈ log) (saves : (i, .saved doc f) ∈ more) :
    (Shared.run ⟨stored, none⟩ log).holder = some i := by
  obtain ⟨p, q, before, onwards⟩ := run.phase i
  have mem : .saved doc f ∈ own i more := mem_own.2 saves
  have writing : (errand i).writes = true := by
    cases writes : (errand i).writes with
    | true => rfl
    | false =>
      rw [writes] at onwards
      exact absurd mem (Phase.of_query onwards doc f)
  obtain ⟨begun, since, cut⟩ := List.append_of_mem (mem_own.2 loaded)
  unfold phaseOf at before
  rw [writing] at before onwards
  have course := before
  rw [cut, Phase.after_append] at course
  obtain ⟨p₀, -, course⟩ := Option.bind_eq_some_iff.1 course
  obtain ⟨p₁, load, course⟩ := Phase.after_cons.1 course
  obtain rfl : p₁ = .working := Phase.working_of_loaded load
  have working : p = .working := by
    have whole : Phase.after true .working (since ++ own i more) = some q := by
      rw [Phase.after_append, course]
      exact onwards
    exact Option.some.inj (course.symm.trans (Phase.working_of_saved whole mem))
  have reached : phaseOf errand log i = some p := by rw [phaseOf, writing, before]
  exact run.held i p reached (by rw [working]; rfl)

/-- What holds of the deeds of all processes. -/
structure Serial (errand : ι → Errand) (stored : Option StateDocument) (log : List (ι × Deed)) :
    Prop where
  /-- Between the load of a process and a save of it, nobody else saves. -/
  alone : ∀ i j pre r mid d f post d' f',
    log = pre ++ (i, .loaded r) :: mid ++ (i, .saved d f) :: post →
    (j, .saved d' f') ∈ mid → j = i
  /-- What is loaded is what was saved last, or what was there at first. -/
  latest : ∀ i pre d post, log = pre ++ (i, .loaded (.ok d)) :: post → d = (latest pre <|> stored)
  /-- Who does not get the lock exits with the code 3, unless it is killed before. -/
  refused : ∀ i e, (i, .tried (some e)) ∈ log → (errand i).writes = true ∧
    ∃ rest, own i log = .prepared none :: .tried (some e) :: rest ∧
      (rest = [] ∧ (errand i).Trace (own i log ++ [.exited 3]) ∨
        rest = [.exited 3] ∨ rest = [.killed])
  /-- A query saves nothing. -/
  queries : ∀ i, (errand i).writes = false → ∀ d f, (i, .saved d f) ∉ log

/-- **No update is lost.** -/
theorem serial_of_interleaving (run : Interleaving errand stored log) :
    Serial errand stored log := by
  have whole : Interleaving errand stored (log ++ []) := by rwa [List.append_nil]
  constructor
  case alone =>
    intro i j pre r mid d f post d' f' cut mem
    obtain ⟨before, after, rfl⟩ := List.append_of_mem mem
    have run : Interleaving errand stored ((pre ++ (i, .loaded r) :: before) ++
        (j, .saved d' f') :: (after ++ (i, .saved d f) :: post)) := by
      rw [cut] at run
      simpa using run
    have mine := run.loader_holds (List.mem_append_right pre List.mem_cons_self)
      (List.mem_cons_of_mem _ (List.mem_append_right after List.mem_cons_self))
    exact Option.some.inj (run.saver_holds.symm.trans mine)
  case latest =>
    intro i pre d post cut
    rw [cut] at run
    obtain ⟨-, loads, -⟩ := Shared.admitsAll_append.1 run.shared
    have same : d = (Shared.run ⟨stored, none⟩ pre).stored := loads
    rw [same, stored_run]
  case refused =>
    intro i e mem
    obtain ⟨p, q, reached, -⟩ := whole.phase i
    obtain ⟨writing, rest, deeds, onwards⟩ := Phase.of_refused_try reached (mem_own.2 mem)
    refine ⟨writing, rest, deeds, ?_⟩
    obtain ⟨rfl, rfl⟩ | ended := Phase.of_refused onwards
    · refine .inl ⟨rfl, ?_⟩
      obtain ⟨d, unkilled, trace⟩ := exists_next_of_trace (run.traces i) reached nofun
      obtain ⟨q, further⟩ := phase_of_trace trace
      unfold phaseOf at reached
      rw [Phase.after_append, reached] at further
      replace further : Phase.after (errand i).writes .refused [d] = some q := further
      obtain ⟨none, -⟩ | exits | killed := Phase.of_refused further
      · cases none
      · rwa [← exits]
      · exact absurd (List.cons.inj killed).1 unkilled
    · exact .inr ended
  case queries =>
    intro i query d f mem
    obtain ⟨p, q, reached, -⟩ := whole.phase i
    unfold phaseOf at reached
    rw [query] at reached
    exact Phase.of_query reached d f (mem_own.2 mem)

/-! ## Four processes -/

theorem Errand.Trace.of_deeds {e : Errand} {ω : Type} {site : Site ω} {s : Settings} {w : ω}
    {ds : List Deed} (whole : ds = site.deeds s e w) : e.Trace ds :=
  ⟨ω, site, s, w, ds, whole ▸ List.prefix_refl _, .inl rfl⟩

/-- A site where all goes well but what the provider does. -/
def calmSite (lock : Except LockError Unit) (stored : Option StateDocument) : Site Unit where
  config _ := .ok Session.sampleConfig
  provider _ _ := .ok {
    name := "none"
    perform := fun _ w => ({ result := .error (.unavailable "none") }, w)
    handle? := fun _ _ => none
    hasGpu := fun _ => false }
  prepare _ w := (.ok (), w)
  tryLock _ w := (lock, w)
  release _ w := w
  load _ w := (.ok stored, w)
  save _ _ w := (.ok (), w)
  writeResult _ _ w := (.ok (), w)
  pause _ w := ([], w)
  between _ := []
  now _ := "noon"

/-- What a teardown saves that finds no document. -/
def openedDocument : StateDocument :=
  ((StateDocument.new Session.sampleConfig.name "noon").syncIntent Session.sampleConfig).touch
    "noon"

/-- What it saves at its end. -/
def closedDocument : StateDocument := (openedDocument.markDown "noon").touch "noon"

/-- A teardown, a provisioning and a query that run at once, and a provisioning that comes later. -/
def crowd : Fin 4 → Errand
  | 0 => .down
  | 1 => .up
  | 2 => .status
  | 3 => .up

/-- The provisioning comes too late for the lock, the query sees no document, and the provisioning
that comes later finds the teardown's last document and is killed. -/
def crowdLog : List (Fin 4 × Deed) :=
  [(0, .prepared none), (1, .prepared none), (0, .tried none),
    (1, .tried (some (.held "lock"))), (0, .loaded (.ok none)), (2, .loaded (.ok none)),
    (0, .saved openedDocument none), (1, .exited 3),
    (0, .called .uploadArtifacts (some (.unavailable "none"))), (2, .exited 0),
    (0, .saved closedDocument none), (3, .prepared none), (0, .released), (3, .tried none),
    (3, .loaded (.ok (some closedDocument.sealed))), (0, .exited 0), (3, .killed)]

theorem interleaving_crowd : Interleaving crowd none crowdLog := by
  constructor
  case traces =>
    intro i
    match i with
    | 0 =>
      have whole : own 0 crowdLog = (calmSite (.ok ()) none).deeds {} .down () := by
        set_option maxRecDepth 20000 in rfl
      exact .of_deeds whole
    | 1 =>
      have whole : own 1 crowdLog = (calmSite (.error (.held "lock")) none).deeds {} .up () := by
        set_option maxRecDepth 20000 in rfl
      exact .of_deeds whole
    | 2 =>
      have whole : own 2 crowdLog = (calmSite (.ok ()) none).deeds {} .status () := by
        set_option maxRecDepth 20000 in rfl
      exact .of_deeds whole
    | 3 =>
      let site := calmSite (.ok ()) (some closedDocument.sealed)
      let done : List Deed :=
        [.prepared none, .tried none, .loaded (.ok (some closedDocument.sealed))]
      have first : site.deeds {} .up () = done ++ (site.deeds {} .up ()).drop 3 := by
        set_option maxRecDepth 20000 in rfl
      refine ⟨Unit, site, {}, (), done, ⟨_, first.symm⟩, .inr ⟨fun whole => ?_, rfl⟩⟩
      have length : (site.deeds {} .up ()).length ≠ 3 := by
        set_option maxRecDepth 20000 in decide
      exact length (congrArg List.length whole.symm)
  case shared =>
    exact ⟨trivial, trivial, rfl, trivial, rfl, rfl, trivial, trivial, trivial, trivial, trivial,
      trivial, trivial, rfl, rfl, trivial, trivial, trivial⟩

/-- In this order of events the later provisioning starts from what the teardown left. -/
theorem serial_of_interleaving_crowd :
    Interleaving crowd none crowdLog ∧ Serial crowd none crowdLog ∧
      latest (crowdLog.take 14) = some closedDocument.sealed ∧
      own 1 crowdLog = [.prepared none, .tried (some (.held "lock")), .exited 3] :=
  ⟨interleaving_crowd, serial_of_interleaving interleaving_crowd, rfl, rfl⟩

end Testbed.Cli
