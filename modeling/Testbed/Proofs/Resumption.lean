import Mathlib.Data.List.Basic
import Testbed.Proofs.Interruption
import Testbed.Proofs.Success

/-!
# Resuming a provisioning

A provisioning that fails leaves behind what it created, and the document says what that is. The
next one skips what it finds recorded. `remaining c d` lists what the configuration wants and the
document does not record, in the order in which it is created.

**Invariant (`remaining_up`).** Whatever happens in a run of the up saga that deletes nothing: what
it creates is a prefix of what remained, and the rest is what remains afterwards.

**Theorem (`resumed_eq_clean`).** However often the up saga was tried before and whatever went wrong
then, a session in which nothing goes wrong succeeds. The environment is then recorded as one that
was brought up at once, and all creations that succeeded, taken together, are those of that single
run, in the same order.
-/

namespace Testbed

/-! ## What is made -/

/-- The component that an event has created. -/
def Event.made? : Event → Option Component
  | .call (.create k) _ none => some k
  | _ => none

/-- The components that were created in the course of some events, in order. -/
def made (es : List Event) : List Component := es.filterMap Event.made?

theorem made_append (es es' : List Event) : made (es ++ es') = made es ++ made es' :=
  List.filterMap_append ..

theorem mem_made {k : Component} {es : List Event} : k ∈ made es ↔ WasCreated k es := by
  constructor
  · intro mem
    obtain ⟨e, mem, done⟩ := List.mem_filterMap.1 mem
    cases e with
    | save d f => cases done
    | call c d f =>
      cases c with
      | create k' =>
        cases f with
        | some f => cases done
        | none =>
          cases done
          exact ⟨d, mem⟩
      | _ => cases done
  · rintro ⟨d, mem⟩
    exact List.mem_filterMap.2 ⟨_, mem, rfl⟩

/-- What is made was asked for. -/
theorem creation_of_made {k : Component} {es : List Event} (mem : k ∈ made es) :
    k ∈ es.filterMap Event.creation? := by
  obtain ⟨d, mem⟩ := mem_made.1 mem
  exact List.mem_filterMap.2 ⟨_, mem, rfl⟩

theorem made_eq_nil {es : List Event} (creations : es.filterMap Event.creation? = []) :
    made es = [] :=
  List.eq_nil_iff_forall_not_mem.2 fun k mem => by simpa [creations] using creation_of_made mem

/-- Whether an event is a call or a save that failed. -/
def Event.failed : Event → Bool
  | .call _ _ f => f.isSome
  | .save _ f => f.isSome

/-- Where nothing fails, all that is asked for is made. -/
theorem made_of_sound {es : List Event} (sound : ∀ e ∈ es, e.failed = false) :
    made es = es.filterMap Event.creation? := by
  refine List.filterMap_congr fun e mem => ?_
  have passed := sound e mem
  cases e with
  | save d f => rfl
  | call c d f =>
    cases f with
    | some f => cases passed
    | none => cases c <;> rfl

theorem saved_of_sound {es : List Event} (sound : ∀ e ∈ es, e.failed = false) : Saved es := by
  intro e mem
  have passed := sound e mem
  cases e with
  | call c d f => rfl
  | save d f =>
    cases f with
    | none => rfl
    | some f => cases passed

namespace Session

variable {ω : Type} {h : Host ω} {c : Config} {d d' : StateDocument} {s : Session ω}
  {rs : List Record} {es : List Event} {k : Component} {st : Stage} {sts : List Stage}
  {ps : List (RecordKind × String)} {x : Except SagaError Unit × Session ω}

/-- A move creates at most one component, which was wanted and not recorded. -/
theorem Move.makes_once (m : Move c d rs es d') :
    (made es).Nodup ∧ ∀ k ∈ made es, c.wants k = true ∧ d.isCreated k = false := by
  have none (creations : es.filterMap Event.creation? = []) :
      (made es).Nodup ∧ ∀ k ∈ made es, c.wants k = true ∧ d.isCreated k = false := by
    simp [made_eq_nil creations]
  have harmless {call : Call} (harmless : call.isHarmless = true) (f : Option ProviderError) :
      (Event.call call d f).creation? = .none := by
    cases call <;> first | rfl | exact nomatch harmless
  cases m with
  | created wanted absent =>
    exact ⟨List.pairwise_singleton _ _, List.forall_mem_singleton.2 ⟨wanted, absent⟩⟩
  | query quiet => exact none (by simp [harmless quiet])
  | step quiet => exact none (by simp [List.filterMap_map, harmless quiet])
  | createFailed => exact ⟨.nil, by simp [made, Event.made?]⟩
  | _ => exact none rfl

/-- **Where nothing is deleted, nothing is created twice**, and what is created was wanted and not
recorded before. -/
theorem Moves.makes_once (m : Moves c d rs es d') (deletions : es.filterMap Event.deletion? = []) :
    (made es).Nodup ∧ ∀ k ∈ made es, c.wants k = true ∧ d.isCreated k = false := by
  induction m with
  | none => exact ⟨.nil, by simp [made]⟩
  | @move d d' _ _ _ es es' first rest ih =>
    rw [List.filterMap_append, List.append_eq_nil_iff] at deletions
    obtain ⟨nodup, new⟩ := first.makes_once
    obtain ⟨nodup', new'⟩ := ih deletions.2
    have flags (k : Component) := isCreated_of_creations first.moves deletions.1 k
    -- What is created later was not recorded after the first move, so not before it either.
    have later : ∀ k ∈ made es', d.isCreated k = false ∧ k ∉ made es := by
      intro k mem
      have absent := (new' k mem).2
      rwa [← Bool.not_eq_true, flags k, not_or, Bool.not_eq_true, ← mem_made] at absent
    rw [made_append]
    refine ⟨List.nodup_append.2 ⟨nodup, nodup', ?_⟩, List.forall_mem_append.2 ⟨new, ?_⟩⟩
    · rintro k here _ there rfl
      exact (later k there).2 here
    · exact fun k mem => ⟨(new' k mem).1, (later k mem).1⟩

/-! ## What is outstanding -/

/-- Where at most this component is created, it is outstanding afterwards, or it was made. -/
theorem Moves.outstanding_singleton (m : Moves c d rs es d')
    (deletions : es.filterMap Event.deletion? = []) (only : ∀ k' ∈ made es, k' = k) :
    outstanding c d [k] = made es ++ outstanding c d' [k] := by
  obtain ⟨nodup, new⟩ := m.makes_once deletions
  have flags := isCreated_of_creations m deletions k
  rw [← mem_made] at flags
  cases all : made es with
  | nil =>
    rw [all, List.mem_nil_iff, or_false] at flags
    have same : d'.isCreated k = d.isCreated k := Bool.eq_iff_iff.2 flags
    exact (outstanding_congr (by simpa using same)).symm
  | cons k' rest =>
    rw [all] at nodup new only flags
    obtain rfl : k' = k := only k' List.mem_cons_self
    obtain rfl : rest = [] := List.eq_nil_iff_forall_not_mem.2 fun b mem =>
      (List.nodup_cons.1 nodup).1 (only b (List.mem_cons_of_mem _ mem) ▸ mem)
    obtain ⟨wanted, absent⟩ := new k' List.mem_cons_self
    simp [outstanding, wanted, absent, flags.2 (.inr List.mem_cons_self)]

/-- What a stage was to create, it has made or leaves outstanding. -/
theorem Reported.outstanding {component : Option Component}
    (report : Reported component.toList ps s x rs es) :
    outstanding s.config s.document component.toList =
      made es ++ outstanding s.config x.2.document component.toList := by
  cases component with
  | none =>
    have none : made es = [] := List.eq_nil_iff_forall_not_mem.2 fun k mem => by
      simpa using report.creations k (creation_of_made mem)
    rw [none]
    rfl
  | some k =>
    exact report.runs.moves.outstanding_singleton report.deletions fun k' mem =>
      List.mem_singleton.1 (report.creations k' (creation_of_made mem))

/-- A stage that is passed leaves nothing outstanding. -/
theorem outstanding_of_passed (ok : (runStage h st s).1 = .ok ()) :
    outstanding s.config (runStage h st s).2.document st.component?.toList = [] := by
  cases st with
  | create k =>
    exact outstanding_eq_nil.2 fun k' mem wanted => by
      obtain rfl : k' = k := List.mem_singleton.1 mem
      exact isCreated_of_create wanted ok
  | _ => rfl

/-- **What stages make comes first of what was outstanding**, because they stop where one fails,
and no two create the same component. -/
theorem outstanding_runAll (h : Host ω) (planned : .collect ∉ sts)
    (nodup : (sts.filterMap Stage.component?).Nodup) (s : Session ω) :
    ∃ es, (s.runAll (runStage h) sts).2.history = s.history ++ es ∧
      outstanding s.config s.document (sts.filterMap Stage.component?) =
        made es ++ outstanding s.config (s.runAll (runStage h) sts).2.document
          (sts.filterMap Stage.component?) := by
  induction sts generalizing s with
  | nil => exact ⟨[], (List.append_nil _).symm, rfl⟩
  | cons st sts ih =>
    obtain ⟨rs, here, report⟩ := staged h (fun he => planned (he ▸ List.mem_cons_self)) s
    have passed := @outstanding_of_passed ω h s st
    have components : (st :: sts).filterMap Stage.component? =
        st.component?.toList ++ sts.filterMap Stage.component? := by
      cases st <;> rfl
    rw [components] at nodup ⊢
    rw [outstanding_append, report.outstanding]
    unfold runAll
    generalize runStage h st s = x at report passed ⊢
    obtain ⟨r, t⟩ := x
    -- What the later stages are to create, this stage leaves alone.
    have same : outstanding s.config t.document (sts.filterMap Stage.component?) =
        outstanding s.config s.document (sts.filterMap Stage.component?) :=
      outstanding_congr fun k hk => report.isCreated_of_notMem fun mem =>
        (List.nodup_append.1 nodup).2.2 k mem k hk rfl
    rw [← same]
    cases r with
    | error e =>
      refine ⟨here, report.runs.grows.history, ?_⟩
      rw [outstanding_append, List.append_assoc]
    | ok _ =>
      have rest : .collect ∉ sts := fun mem => planned (List.mem_cons_of_mem _ mem)
      obtain ⟨later, grown, left⟩ := ih rest (List.nodup_append.1 nodup).2.1 t
      have config : t.config = s.config := report.runs.grows.config
      rw [config] at left
      have history : t.history = s.history ++ here := report.runs.grows.history
      refine ⟨here ++ later, by rw [grown, history, List.append_assoc], ?_⟩
      have done := outstanding_eq_nil.1 (passed rfl)
      have kept := outstanding_eq_nil.2 fun k mem wanted =>
        isCreated_of_runAll (h := h) rest (done k mem wanted)
      rw [outstanding_append, passed rfl, kept, left, made_append]
      simp only [List.append_nil, List.nil_append, List.append_assoc]

/-! ## What remains -/

/-- What the configuration wants and the document does not record, in the order in which it is
created. -/
def remaining (c : Config) (d : StateDocument) : List Component := outstanding c d provisioningOrder

theorem remaining_eq_nil : remaining c d = [] ↔ Complete c d :=
  outstanding_eq_nil.trans ⟨fun all k => all k (mem_provisioningOrder k), fun all k _ => all k⟩

/-- The stages of a registry are to create what remains. -/
theorem outstanding_stages (c : Config) (d d₀ : StateDocument)
    (handle? : Component → Option Handle) :
    outstanding c d ((plannedStages (.materialize c d₀ handle?)).filterMap Stage.component?) =
      remaining c d := by
  rw [components_stages, remaining, provisioningOrder]
  simp only [outstanding_append, outstanding_filter]

theorem remaining_runPlanned {writable : Bool} (opened : Opened h writable s) :
    ∃ es, (s.runPlanned h).2.history = s.history ++ es ∧
      remaining s.config s.document =
        made es ++ remaining s.config (s.runPlanned h).2.document := by
  obtain ⟨d₀, handle?, materialized⟩ := opened.materialized
  have stages (d : StateDocument) := outstanding_stages s.config d d₀ handle?
  rw [← materialized] at stages
  rw [← stages, ← stages]
  exact outstanding_runAll h (by simp [plannedStages]) opened.nodup_stages s

/-- The aftermath of stages creates nothing, and it deletes nothing if the configuration does not
have it so. -/
theorem quiet_aftermath {passed : Bool} {t : Session ω}
    (does : Does (aftermath passed false) h s t) :
    ∃ es, t.history = s.history ++ es ∧ es.filterMap Event.creation? = [] ∧
      es.filterMap Event.deletion? = [] := by
  have step (t : Session ω) (a : Act) (allowed : (aftermath passed false).Allows t.stop a) :
      ∀ e ∈ eventsOf h t a, e.creation? = none ∧ e.deletion? = none := by
    cases a with
    | call call =>
      intro e mem
      rw [List.mem_singleton.1 mem]
      obtain rfl | ⟨-, k, rfl | rfl⟩ | ⟨-, delete, -⟩ := allowed
      · exact ⟨rfl, rfl⟩
      · exact ⟨rfl, rfl⟩
      · exact ⟨rfl, rfl⟩
      · cases delete
    | save change =>
      intro e mem
      rw [List.mem_singleton.1 mem]
      exact ⟨rfl, rfl⟩
    | _ => simp [eventsOf]
  obtain ⟨-, es, grown, quiet⟩ := does.invariant (fun _ => True) _
    (fun t a _ allowed => ⟨trivial, step t a allowed⟩) trivial
  exact ⟨es, grown, List.filterMap_eq_nil_iff.2 fun e mem => (quiet e mem).1,
    List.filterMap_eq_nil_iff.2 fun e mem => (quiet e mem).2⟩

/-- **What a run of the up saga makes comes first of what remained**, and the rest remains. -/
theorem remaining_up (opened : Opened h true s) (keeps : s.config.onFailure.delete = false) :
    ∃ rs es, Runs s (s.up h).2 rs es ∧ es.filterMap Event.deletion? = [] ∧
      remaining s.config s.document = made es ++ remaining s.config (s.up h).2.document := by
  cases notUp : s.document.up with
  | true =>
    rw [up_of_up opened notUp]
    exact ⟨_, _, .refl s, rfl, rfl⟩
  | false =>
    obtain ⟨rs, es, runs⟩ := runs_up (h := h) opened
    obtain ⟨_, ran, report⟩ := reported_plan (h := h) opened
    obtain ⟨-, does, -⟩ := afterwards (h := h) opened notUp
    rw [keeps] at does
    obtain ⟨late, grown, creations, deletions⟩ := quiet_aftermath does
    obtain rfl : es = ran ++ late := by
      rw [report.runs.grows.history, runs.grows.history, List.append_assoc] at grown
      exact List.append_cancel_left grown
    have kept : (ran ++ late).filterMap Event.deletion? = [] := by
      rw [List.filterMap_append, report.deletions, deletions, List.append_nil]
    have same : made (ran ++ late) = made ran := by
      rw [made_append, made_eq_nil creations, List.append_nil]
    refine ⟨rs, _, runs, kept, ?_⟩
    obtain ⟨ran', grown', left⟩ := remaining_runPlanned (h := h) opened
    obtain rfl := List.append_cancel_left (report.runs.grows.history.symm.trans grown')
    have flags (k : Component) : (s.up h).2.document.isCreated k =
        (s.runPlanned h).2.document.isCreated k := by
      rw [Bool.eq_iff_iff, isCreated_of_creations runs.moves kept,
        isCreated_of_creations report.runs.moves report.deletions, ← mem_made, ← mem_made, same]
    rw [same, left, remaining, remaining, outstanding_congr fun k _ => flags k]

/-! ## Flawless sessions -/

/-- A session in which nothing goes wrong when the environment is brought up: everything that is
wanted can be driven, GPUs can be set up, the files of hooks can be written, no call and no save of
the session fails, and the stop signal has not fired by the end. -/
structure Flawless (h : Host ω) (s : Session ω) : Prop where
  driven : ∀ k, s.config.wants k = true → s.registry.drives k = true
  gpu : s.config.needsGpuDrivers = true → ∀ w, h.provider.hasGpu w = true
  written : ∀ (p : HookPoint) path, p.output s.config.hooks = some path →
    ∀ body w, (h.writeResult path body w).1 = .ok ()
  sound : ∀ e ∈ (s.up h).2.history, e.failed = false
  calm : (s.up h).2.stop.origin = none

theorem Flawless.no_cause (flawless : Flawless h s) (opened : Opened h true s)
    (notUp : s.document.up = false) (e : SagaError) : ¬ Caused h (s.runPlanned h).2 e := by
  obtain ⟨_, _, report⟩ := reported_plan (h := h) opened
  obtain ⟨-, ⟨acts, obeys, ended⟩, -⟩ := afterwards (h := h) opened notUp
  have grows := report.runs.grows
  -- What went wrong in the stages would be known in the end.
  have sound (e : Event) (last : (s.runPlanned h).2.history.getLast? = some e) :
      e.failed = false := by
    obtain ⟨-, es, grown, -⟩ := obeys.invariant (fun _ => True) (fun _ => True)
      (fun _ _ _ _ => ⟨trivial, fun _ _ => trivial⟩) trivial
    refine flawless.sound e ?_
    rw [ended, grown]
    exact List.mem_append_left _ (List.mem_of_getLast? last)
  have calm := calm_of_does ⟨acts, obeys, ended⟩ flawless.calm
  intro caused
  cases caused with
  | step _ failed => cases sound _ failed
  | interrupted fired => cases calm.symm.trans fired
  | store failed => cases sound _ failed
  | hookOutput output failed =>
    rw [grows.config] at output
    cases (flawless.written _ _ output _ _).symm.trans (congrArg Prod.fst failed)
  | missingHandle wanted undriven =>
    rw [grows.config] at wanted
    rw [grows.registry] at undriven
    cases (flawless.driven _ wanted).symm.trans undriven
  | missingGpu needed unavailable =>
    rw [grows.config] at needed
    cases (flawless.gpu needed _).symm.trans unavailable

/-- **A flawless session brings the environment up.** -/
theorem Flawless.succeeds (flawless : Flawless h s) (opened : Opened h true s) :
    (s.up h).1 = .ok () := by
  cases notUp : s.document.up with
  | true => rw [up_of_up opened notUp]
  | false =>
    cases failed : (s.up h).1 with
    | ok _ => rfl
    | error e =>
      rcases explained_up opened failed with caused | ⟨f, d, -, last⟩
      · exact absurd caused (flawless.no_cause opened notUp e)
      · cases flawless.sound _ (List.mem_of_getLast? last)

end Session

open Session

/-! ## Trying again -/

namespace Moment

variable {ω ω' : Type} {m n : Moment ω} {m' : Moment ω'} {o : Option Operation} {c : Config}

/-- A moment that comes some time after another; all sessions until then had this configuration, and
in each nothing was done but that the environment was brought up, or that this was tried. -/
inductive Retried (c : Config) (m : Moment ω) : Moment ω → Prop
  | here (config : m.session.config = c) : Retried c m m
  | next {n n' : Moment ω} {o : Option Operation} (before : Retried c m n) (next : Next n o n')
      (config : n'.session.config = c) (retry : ∀ p ∈ o, p = .up) : Retried c m n'

/-- Where nothing was ever deleted, what is recorded is what was made. -/
theorem Kept.isCreated_iff (kept : m.Kept) (deletions : m.log.filterMap Event.deletion? = [])
    (saved : Saved m.log) (k : Component) :
    m.session.document.isCreated k = true ↔ k ∈ made m.log := by
  rw [(kept.ledger saved).1.turned k, mem_made, ← true_mem_turns]
  refine ⟨List.mem_of_getLast?, fun mem => ?_⟩
  obtain ⟨b, last⟩ := Option.isSome_iff_exists.1 (List.getLast?_isSome.2 (List.ne_nil_of_mem mem))
  rw [last, turns_of_creations deletions b (List.mem_of_getLast? last)]

/-- At this moment what was made so far comes first of what the configuration wants, and the rest
remains. -/
structure Resumable (c : Config) (m : Moment ω) : Prop where
  kept : m.Kept
  vouched : Vouched c m
  deletions : m.log.filterMap Event.deletion? = []
  progress : Saved m.log →
    provisioningOrder.filter c.wants = made m.log ++ remaining c m.session.document

/-- What is recorded as up is complete. -/
theorem Resumable.complete (resumable : Resumable c m) (up : m.session.document.up = true) :
    Complete c m.session.document := by
  obtain ⟨f, mem⟩ := resumable.vouched.current
  obtain ⟨past, x, f, since, split, -, -, lost⟩ := resumable.vouched.onceComplete mem up
  intro k wanted
  by_contra absent
  obtain ⟨y, mem⟩ := lost k wanted (Bool.not_eq_true _ ▸ absent)
  have mem' : Event.call (.delete k) y none ∈ m.log := by
    rw [split]
    exact List.mem_append_right _ (List.mem_cons_of_mem _ mem)
  cases List.filterMap_eq_nil_iff.1 resumable.deletions _ mem'

theorem First.resumable (first : m.First) (config : m.session.config = c) : Resumable c m := by
  obtain ⟨-, log, c', now, fresh⟩ := first.starts
  refine ⟨first.kept, first.vouched config, by rw [log]; rfl, fun _ => ?_⟩
  rw [log, fresh]
  simp [made, Event.made?, remaining, outstanding]

theorem Next.resumable (next : Next m o n) (resumable : Resumable c m)
    (config : n.session.config = c) (retry : ∀ p ∈ o, p = .up)
    (keeps : c.onFailure.delete = false) : Resumable c n := by
  have kept := next.kept resumable.kept
  have vouched := next.vouched resumable.vouched config
  cases next with
  | operate o stop w =>
    obtain rfl : o = .up := retry o rfl
    have before : m.session.config = c := resumable.vouched.config
    have opened := opened_operate resumable.kept.opened stop w
    obtain ⟨rs, es, runs, deletions, left⟩ := remaining_up opened (before ▸ keeps)
    have grown : (m.operate .up stop w).log = m.log ++ es := log_operate runs.grows.history
    refine ⟨kept, vouched, ?_, fun saved => ?_⟩
    · rw [grown, List.filterMap_append, resumable.deletions, deletions]
      rfl
    · rw [grown] at saved ⊢
      rw [resumable.progress (saved_append.1 saved).1, made_append, List.append_assoc]
      exact congrArg (made m.log ++ ·) (before ▸ left)
  | @reopen h c' stop w w' d x s last loaded same opened =>
    obtain ⟨-, history⟩ := reopened loaded same opened
    have grown : (Moment.mk h s m.log).log = m.log ++ [.save s.document none] :=
      congrArg (m.log ++ ·) history
    have deletions : (Moment.mk h s m.log).log.filterMap Event.deletion? = [] := by
      rw [grown, List.filterMap_append, resumable.deletions]
      rfl
    refine ⟨kept, vouched, deletions, fun saved => ?_⟩
    have before : Saved m.log := (saved_append.1 (grown ▸ saved)).1
    have same : made (Moment.mk h s m.log).log = made m.log := by
      rw [grown, made_append]
      exact List.append_nil _
    rw [same, resumable.progress before]
    refine congrArg (made m.log ++ ·) (outstanding_congr fun k _ => Bool.eq_iff_iff.2 ?_)
    rw [resumable.kept.isCreated_iff resumable.deletions before, ← same]
    exact (kept.isCreated_iff deletions saved k).symm

theorem Retried.resumable (life : Retried c m n) (first : m.First)
    (keeps : c.onFailure.delete = false) : Resumable c n := by
  induction life with
  | here config => exact first.resumable config
  | next _ next config retry ih => exact next.resumable ih config retry keeps

/-- What a flawless session brings to its end. -/
structure Finished (c : Config) (m : Moment ω) : Prop where
  flags : m.session.document.isCreated = c.wants
  up : m.session.document.up = true
  creations : made m.log = provisioningOrder.filter c.wants

/-- **A flawless session finishes what was begun.** -/
theorem Resumable.finish (resumable : Resumable c n) (saved : Saved n.log)
    (keeps : c.onFailure.delete = false) {w : ω}
    (flawless : Flawless n.host { n.session with stop := {}, world := w }) :
    ({ n.session with stop := {}, world := w }.up n.host).1 = .ok () ∧
      Finished c (n.operate .up {} w) := by
  have config : n.session.config = c := resumable.vouched.config
  have opened := opened_operate resumable.kept.opened {} w
  have ok := flawless.succeeds opened
  have after : Resumable c (n.operate .up {} w) := (Next.operate .up {} w).resumable resumable
    ((config_operate resumable.kept.opened .up {} w).trans config) (by simp) keeps
  have saved' : Saved (n.operate .up {} w).log := by
    obtain ⟨rs, es, runs⟩ := runs_up opened
    have grown : (n.operate .up {} w).log = n.log ++ es := log_operate runs.grows.history
    rw [grown]
    refine saved_append.2 ⟨saved, saved_of_sound fun e mem => flawless.sound e ?_⟩
    rw [runs.grows.history]
    exact List.mem_append_right _ mem
  have up : (n.operate .up {} w).session.document.up = true := by
    cases before : n.session.document.up with
    | true =>
      show ({ n.session with stop := {}, world := w }.up n.host).2.document.up = true
      rw [up_of_up opened before]
      exact before
    | false => exact (up_succeeds opened before ok).up
  have all : made (n.operate .up {} w).log = provisioningOrder.filter c.wants := by
    rw [after.progress saved', remaining_eq_nil.2 (after.complete up), List.append_nil]
  refine ⟨ok, funext fun k => Bool.eq_iff_iff.2 ?_, up, all⟩
  rw [after.kept.isCreated_iff after.deletions saved', all]
  simp [mem_provisioningOrder]

/-- **Resuming equals a clean run.** Bringing the environment up was tried any number of times, in
any number of sessions of one configuration that does not delete what exists when a provisioning
fails; anything may have failed or been missing, and the stop signal may have fired, but all saves
succeeded. Then a flawless session with a fresh stop signal succeeds; it ends with the flags of a
flawless first session, on any other host, and all creations that ever succeeded are, in their
order, the creations of that single run. -/
theorem resumed_eq_clean (first : m.First) (life : Retried c m n)
    (keeps : c.onFailure.delete = false) (saved : Saved n.log) {w : ω}
    (flawless : Flawless n.host { n.session with stop := {}, world := w })
    (first' : m'.First) (config' : m'.session.config = c) {w' : ω'}
    (flawless' : Flawless m'.host { m'.session with stop := {}, world := w' }) :
    let resumed := n.operate .up {} w
    let clean := m'.operate .up {} w'
    ({ n.session with stop := {}, world := w }.up n.host).1 = .ok () ∧
      ({ m'.session with stop := {}, world := w' }.up m'.host).1 = .ok () ∧
      resumed.session.document.isCreated = clean.session.document.isCreated ∧
      resumed.session.document.up = clean.session.document.up ∧
      made resumed.log = clean.log.filterMap Event.creation? := by
  intro resumed clean
  obtain ⟨ok, finished⟩ := (life.resumable first keeps).finish saved keeps flawless
  have fresh : Saved m'.log := by
    rw [first'.starts.2.1]
    simp [Saved, Event.isFailedSave]
  obtain ⟨ok', finished'⟩ := (first'.resumable config').finish fresh keeps flawless'
  have sound : ∀ e ∈ clean.log, e.failed = false := by
    intro e mem
    rw [log, show clean.past = [] from first'.past] at mem
    exact flawless'.sound e mem
  refine ⟨ok, ok', finished.flags.trans finished'.flags.symm,
    finished.up.trans finished'.up.symm, ?_⟩
  rw [finished.creations, ← made_of_sound sound, finished'.creations]

/-- A configuration that keeps what exists when a provisioning fails. -/
def keepingConfig : Config :=
  { sampleConfig with onFailure := { delete := false } }

/-- A bench with two rehearsals: in the first the network cannot be created. -/
def mendedBench : Bench where
  now := "noon"
  oldRehearsals := [Rehearsal.failOn {} "create network" "no address left"]

/-- The first session on this bench, after it has failed to bring the environment up. -/
def brokenOff : Moment Bench :=
  let m : Moment Bench := ⟨sampleHost, firstSession sampleHost keepingConfig {} mendedBench, []⟩
  m.operate .up {} m.session.world

/-- The host of the second rehearsal. -/
def mendedHost : Host Bench := Bench.host (Bench.rehearsing 1 0)

/-- A session of this configuration, which has no GPUs and no hooks, is flawless if it can drive
what is wanted, nothing fails and nobody stops it. -/
theorem flawless_keeping {h : Host Bench} {s : Session Bench} (config : s.config = keepingConfig)
    (driven : ∀ k ∈ provisioningOrder, keepingConfig.wants k = true → s.registry.drives k = true)
    (sound : ∀ e ∈ (s.up h).2.history, e.failed = false)
    (calm : (s.up h).2.stop.origin = none) : Flawless h s where
  driven k wanted := driven k (mem_provisioningOrder k) (config ▸ wanted)
  gpu needed := by
    rw [config] at needed
    cases needed
  written p path output := by
    rw [config] at output
    cases p <;> cases output
  sound := sound
  calm := calm

/-- After a session in which the network could not be created, the next creates the network and what
comes after it. Together the two do what a first session does on a bench on which all goes well. -/
theorem resumed_eq_clean_mendedBench :
    let clean : Moment Bench := ⟨sampleHost, firstSession sampleHost keepingConfig {} calmBench, []⟩
    made brokenOff.log = [.resource .bucket, .resource .keyPair, .resource .clusterRole] ∧
      ∃ s w, start mendedHost keepingConfig true {} brokenOff.session.world = (.ok s, w) ∧
        made ((Moment.mk mendedHost s brokenOff.log).operate .up {} w).log =
          (clean.operate .up {} calmBench).log.filterMap Event.creation? := by
  have first : First (⟨sampleHost, firstSession sampleHost keepingConfig {} mendedBench, []⟩ :
      Moment Bench) :=
    ⟨rfl, keepingConfig, {}, mendedBench, _, rfl, start_of_empty {} (by decide) rfl rfl⟩
  have first' : First (⟨sampleHost, firstSession sampleHost keepingConfig {} calmBench, []⟩ :
      Moment Bench) :=
    ⟨rfl, keepingConfig, {}, calmBench, _, rfl, start_of_empty {} (by decide) rfl rfl⟩
  have life : Retried keepingConfig _ brokenOff :=
    .next (.here rfl) (.operate .up ..) (config_operate first.starts.1 .up {} _) (by simp)
  obtain ⟨x, last⟩ := Option.isSome_iff_exists.1
    (by decide +kernel : (lastSaved brokenOff.log).isSome = true)
  have stored : (mendedHost.load brokenOff.session.world).toOption =
      some (lastSaved brokenOff.log) := by decide +kernel
  -- What is needed of the second session, by running it.
  have checked : (match start mendedHost keepingConfig true {} brokenOff.session.world with
      | (.ok s, w) => decide
        ((∀ k ∈ provisioningOrder, keepingConfig.wants k = true → s.registry.drives k = true) ∧
          (∀ e ∈ ({ s with stop := {}, world := w }.up mendedHost).2.history, e.failed = false) ∧
          ({ s with stop := {}, world := w }.up mendedHost).2.stop.origin = none)
      | (.error _, _) => false) = true := by decide +kernel
  refine ⟨by decide +kernel, ?_⟩
  cases loaded : mendedHost.load brokenOff.session.world with
  | error e => rw [loaded] at stored; cases stored
  | ok d =>
    rw [loaded, last] at stored
    obtain rfl : d = some x := Option.some.inj stored
    cases opened : start mendedHost keepingConfig true {} brokenOff.session.world with
    | mk r w =>
      rw [opened] at checked
      cases r with
      | error e => cases checked
      | ok s =>
        obtain ⟨driven, sound, calm⟩ := of_decide_eq_true checked
        obtain ⟨_, st⟩ := started opened
        have life' : Retried keepingConfig _ ⟨mendedHost, s, brokenOff.log⟩ :=
          .next life (.reopen last loaded rfl opened) st.config (by simp)
        have saved : Saved (Moment.mk mendedHost s brokenOff.log).log := by
          rw [log, st.history]
          exact saved_append.2
            ⟨(by decide +kernel : Saved brokenOff.log), by simp [Saved, Event.isFailedSave]⟩
        obtain ⟨-, -, -, -, same⟩ := resumed_eq_clean first life' rfl saved
          (flawless_keeping st.config driven sound calm) first' rfl
          (flawless_keeping (s := { firstSession sampleHost keepingConfig {} calmBench with
            stop := {}, world := calmBench }) rfl (by decide +kernel) (by decide +kernel)
              (by decide +kernel))
        exact ⟨s, w, rfl, same⟩

end Moment

end Testbed
