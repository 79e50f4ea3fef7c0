import Testbed.Proofs.Removals
import Testbed.Proofs.Timestamps

/-!
# Sessions in lockstep

Some calls matter to a saga, and of others nobody minds how they fare. Two sessions, perhaps on
different hosts, are in lockstep if they have made the same calls that matter with the same answers
and have come to the same point. They may differ in all times, in their journals, in what they heard
of the stop signal, and in the calls that do not matter.

**Theorem (`lockstep_down`).** Teardowns that begin in lockstep end in lockstep and give the same
result, if the deletions matter.
-/

namespace Testbed

/-- A call and how it failed. -/
def Event.answer? : Event → Option (Call × Option ProviderError)
  | .call c _ f => some (c, f)
  | .save _ _ => none

/-- A call that matters and how it failed. -/
def Event.decisive? (matters : Call → Bool) (e : Event) : Option (Call × Option ProviderError) :=
  e.answer?.filter fun a => matters a.1

/-- The calls that matter among events, in order, with how they failed. -/
def decisive (matters : Call → Bool) (es : List Event) : List (Call × Option ProviderError) :=
  es.filterMap (Event.decisive? matters)

theorem decisive_append (matters : Call → Bool) (es es' : List Event) :
    decisive matters (es ++ es') = decisive matters es ++ decisive matters es' :=
  List.filterMap_append

/-- If all calls matter, then these are all calls. -/
theorem decisive_all (es : List Event) :
    decisive (fun _ => true) es = es.filterMap Event.answer? := by
  have all : Event.decisive? (fun _ => true) = Event.answer? := by
    funext e
    cases e <;> rfl
  rw [decisive, all]

theorem decisive_of_harmless {matters : Call → Bool} {c : Call} (harmless : matters c = false)
    (d : StateDocument) (f : Option ProviderError) : decisive matters [.call c d f] = [] := by
  simp [decisive, Event.decisive?, Event.answer?, Option.filter, harmless]

namespace Session

variable {ω ω' : Type} {h : Host ω} {h' : Host ω'} {matters : Call → Bool} {R S : ω → ω' → Prop}
  {s : Session ω} {t : Session ω'}

/-- In worlds that correspond, both hosts give the same answers to what matters, and the worlds go
on to correspond. Nothing is said about the clock or about the firings of the stop signal. -/
structure Corresponding (matters : Call → Bool) (h : Host ω) (h' : Host ω') (R : ω → ω' → Prop) :
    Prop where
  perform (c : Call) {w : ω} {w' : ω'} (same : R w w') :
    (matters c = true → (h.provider.perform c w).1.result = (h'.provider.perform c w').1.result) ∧
      R (h.provider.perform c w).2 (h'.provider.perform c w').2
  save {d d' : StateDocument} {w : ω} {w' : ω'} (same : R w w') (docs : d.timeless = d'.timeless) :
    (h.save d w).1 = (h'.save d' w').1 ∧ R (h.save d w).2 (h'.save d' w').2
  pause (n : Nat) {w : ω} {w' : ω'} (same : R w w') : R (h.pause n w).2 (h'.pause n w').2

/-- Two sessions in lockstep. -/
structure Lockstep (matters : Call → Bool) (R : ω → ω' → Prop) (s : Session ω) (t : Session ω') :
    Prop where
  config : s.config = t.config
  writable : s.writable = t.writable
  registry : s.registry = t.registry
  document : s.document.timeless = t.document.timeless
  calls : decisive matters s.history = decisive matters t.history
  world : R s.world t.world

theorem Lockstep.isCreated_eq (par : Lockstep matters R s t) :
    s.document.isCreated = t.document.isCreated := by
  rw [← StateDocument.isCreated_timeless, par.document, StateDocument.isCreated_timeless]

theorem Lockstep.cluster_eq (par : Lockstep matters R s t) :
    s.document.cluster = t.document.cluster := by
  have same := congrArg StateDocument.cluster par.document
  exact same

theorem Lockstep.up_eq (par : Lockstep matters R s t) : s.document.up = t.document.up := by
  have same := congrArg StateDocument.up par.document
  exact same

theorem Lockstep.allow_eq (par : Lockstep matters R s t) (saga : Saga) :
    s.allow saga = t.allow saga := by
  rw [allow, allow, par.writable]

theorem Lockstep.symm (par : Lockstep matters R s t) :
    Lockstep matters (fun w' w => R w w') t s where
  config := par.config.symm
  writable := par.writable.symm
  registry := par.registry.symm
  document := par.document.symm
  calls := par.calls.symm
  world := par.world

/-! ## Calls, pauses and saves -/

/-- The worlds may from now on correspond in another way. -/
theorem Lockstep.mono (par : Lockstep matters R s t) (world : S s.world t.world) :
    Lockstep matters S s t :=
  { par with world := world }

/-- Journals and stop signals are not compared. -/
theorem Lockstep.of_notes (par : Lockstep matters R s t) (j j' : Journal)
    (stop stop' : StopSignal) :
    Lockstep matters R { s with journal := j, stop := stop }
      { t with journal := j', stop := stop' } :=
  { par with }

/-- A call that both make. -/
theorem Lockstep.call (par : Lockstep matters R s t) {c : Call}
    (same : matters c = true →
      (h.provider.perform c s.world).1.result = (h'.provider.perform c t.world).1.result)
    (world : S (h.provider.perform c s.world).2 (h'.provider.perform c t.world).2) :
    Lockstep matters S (perform h c s).2 (perform h' c t).2 := by
  refine { par with calls := ?_, world := world }
  show decisive matters (s.history ++ [.call c s.document _]) =
    decisive matters (t.history ++ [.call c t.document _])
  rw [decisive_append, decisive_append, par.calls]
  cases decides : matters c with
  | false => rw [decisive_of_harmless decides, decisive_of_harmless decides]
  | true =>
    rw [same decides]
    rfl

/-- A call that only the first of them makes. -/
theorem Lockstep.callLeft (par : Lockstep matters R s t) {c : Call} (harmless : matters c = false)
    (world : S (h.provider.perform c s.world).2 t.world) :
    Lockstep matters S (perform h c s).2 t := by
  refine { par with calls := ?_, world := world }
  show decisive matters (s.history ++ [.call c s.document _]) = decisive matters t.history
  rw [decisive_append, decisive_of_harmless harmless, List.append_nil, par.calls]

theorem Lockstep.perform (alike : Corresponding matters h h' R) (par : Lockstep matters R s t)
    (c : Call) :
    (matters c = true → (perform h c s).1 = (perform h' c t).1) ∧
      Lockstep matters R (perform h c s).2 (perform h' c t).2 :=
  have answers := alike.perform c par.world
  ⟨answers.1, par.call answers.1 answers.2⟩

theorem Lockstep.settle (alike : Corresponding matters h h' R) (par : Lockstep matters R s t)
    (saga : Saga) (reason : SettleReason) :
    Lockstep matters R (s.settle h saga reason).2 (t.settle h' saga reason).2 := by
  rw [settle_eq, settle_eq, par.config]
  exact { par with world := alike.pause _ par.world }

theorem Lockstep.conclude {α : Type} (par : Lockstep matters R s t) (n n' : Nat)
    (r r' : Except ProviderError α) : Lockstep matters R (s.conclude n r) (t.conclude n' r') := by
  cases r <;> cases r' <;> exact par.of_notes _ _ _ _

theorem Lockstep.concludeLeft {α : Type} (par : Lockstep matters R s t) (n : Nat)
    (r : Except ProviderError α) : Lockstep matters R (s.conclude n r) t := by
  cases r <;> exact { par with }

/-- A step that goes on whatever the stop signal says. -/
theorem Lockstep.attempt (par : Lockstep matters R s t) (saga : Saga) (step : String)
    {work : Action ω ProviderError Unit} {work' : Action ω' ProviderError Unit}
    (works : ∀ {s : Session ω} {t : Session ω'}, Lockstep matters R s t →
      Lockstep matters S (work s).2 (work' t).2) :
    Lockstep matters S (s.attempt saga step work).2 (t.attempt saga step work').2 := by
  rw [attempt_eq, attempt_eq]
  exact (works (par.of_notes _ _ _ _)).conclude _ _ _ _

/-- A step that only the first of them takes. -/
theorem Lockstep.attemptLeft (par : Lockstep matters R s t) (saga : Saga) (step : String)
    {work : Action ω ProviderError Unit}
    (works : ∀ {s : Session ω}, Lockstep matters R s t → Lockstep matters S (work s).2 t) :
    Lockstep matters S (s.attempt saga step work).2 t := by
  have worked : Lockstep matters S (work (s.begin saga .step step).2).2 t := works { par with }
  rw [attempt_eq]
  exact worked.concludeLeft _ _

/-- A change that is no matter of time. -/
theorem Lockstep.change (par : Lockstep matters R s t)
    {change change' : String → StateDocument → StateDocument}
    (docs : (s.update h change).2.document.timeless = (t.update h' change').2.document.timeless)
    (world : S (s.update h change).2.world (t.update h' change').2.world) :
    Lockstep matters S (s.update h change).2 (t.update h' change').2 := by
  refine { par with document := docs, calls := ?_, world := world }
  show decisive matters (s.history ++ [.save _ _]) = decisive matters (t.history ++ [.save _ _])
  rw [decisive_append, decisive_append, par.calls]
  rfl

theorem Lockstep.update (alike : Corresponding matters h h' R) (par : Lockstep matters R s t)
    {change change' : String → StateDocument → StateDocument}
    (timeless : ∀ now now',
      (change now s.document).timeless = (change' now' t.document).timeless) :
    (s.update h change).1 = (t.update h' change').1 ∧
      Lockstep matters R (s.update h change).2 (t.update h' change').2 := by
  have docs : ((change (h.now s.world) s.document).touch (h.now s.world)).timeless =
      ((change' (h'.now t.world) t.document).touch (h'.now t.world)).timeless := timeless _ _
  obtain ⟨result, world⟩ := alike.save par.world docs
  exact ⟨result, par.change docs world⟩

theorem Lockstep.uploadArtifacts (alike : Corresponding matters h h' R)
    (par : Lockstep matters R s t) (saga : Saga) :
    Lockstep matters R (s.uploadArtifacts h saga) (t.uploadArtifacts h' saga) :=
  par.attempt saga "upload artifacts" fun par => (par.perform alike .uploadArtifacts).2

/-! ## Teardowns -/

namespace Teardown

/-- Two teardowns under way in lockstep. -/
structure Lockstep (matters : Call → Bool) (R : ω → ω' → Prop) (a : Teardown ω) (b : Teardown ω') :
    Prop where
  session : Session.Lockstep matters R a.session b.session
  faults : a.faults = b.faults

variable {a : Teardown ω} {b : Teardown ω'}

theorem Lockstep.pause (alike : Corresponding matters h h' R) (par : Lockstep matters R a b)
    (reason : Option SettleReason) :
    Lockstep matters R (reason.elim a fun r => a.settle h r)
      (reason.elim b fun r => b.settle h' r) := by
  cases reason with
  | none => exact par
  | some reason => exact ⟨par.session.settle alike .down reason, par.faults⟩

theorem Lockstep.update (alike : Corresponding matters h h' R) (par : Lockstep matters R a b)
    (change : String → StateDocument → StateDocument)
    (timeless : ∀ now now', (change now a.session.document).timeless =
      (change now' b.session.document).timeless) :
    Lockstep matters R (a.update h change) (b.update h' change) := by
  obtain ⟨result, session⟩ := par.session.update alike timeless
  unfold Teardown.update
  generalize a.session.update h change = x at result session ⊢
  generalize b.session.update h' change = y at result session ⊢
  obtain ⟨r, s⟩ := x
  obtain ⟨r', t⟩ := y
  obtain rfl : r = r' := result
  cases r with
  | ok _ => exact ⟨session, par.faults⟩
  | error e => exact ⟨session, congrArg (· ++ [TeardownFault.persist e]) par.faults⟩

theorem Lockstep.delete (alike : Corresponding matters h h' R) (par : Lockstep matters R a b)
    {k : Component} (decides : matters (.delete k) = true) :
    Lockstep matters R (a.delete h k) (b.delete h' k) := by
  have session := par.session.attempt .down s!"delete {k.label}"
    fun par => (par.perform alike (.delete k)).2
  have result : (a.session.attempt .down s!"delete {k.label}" (Session.perform h (.delete k))).1 =
      (b.session.attempt .down s!"delete {k.label}" (Session.perform h' (.delete k))).1 :=
    (alike.perform (.delete k) par.session.world).1 decides
  rw [delete_eq, delete_eq]
  generalize a.session.attempt .down s!"delete {k.label}" (Session.perform h (.delete k)) = x
    at result session ⊢
  generalize b.session.attempt .down s!"delete {k.label}" (Session.perform h' (.delete k)) = y
    at result session ⊢
  obtain ⟨r, s⟩ := x
  obtain ⟨r', t⟩ := y
  obtain rfl : r = r' := result
  cases r with
  | error e => exact ⟨session, congrArg (· ++ [_]) par.faults⟩
  | ok _ =>
    have attempted : Lockstep matters R { a with session := s } { b with session := t } :=
      ⟨session, par.faults⟩
    exact attempted.update alike _ fun now now' =>
      StateDocument.timeless_set session.document k false now now'

variable (decides : ∀ k, matters (.delete k) = true)

include decides

theorem Lockstep.remove (alike : Corresponding matters h h' R) (par : Lockstep matters R a b)
    (r : Removal) :
    (a.remove h r).1 = (b.remove h' r).1 ∧
      Lockstep matters R (a.remove h r).2 (b.remove h' r).2 := by
  unfold Teardown.remove
  rw [par.session.isCreated_eq, par.session.registry]
  split
  · exact ⟨rfl, par⟩
  · split
    · exact ⟨rfl, par⟩
    · exact ⟨rfl, ((par.pause alike r.before).delete alike (decides _)).pause alike r.after⟩

theorem Lockstep.removeAll (alike : Corresponding matters h h' R) (par : Lockstep matters R a b)
    (ks : List Removal) :
    (a.removeAll h ks).1 = (b.removeAll h' ks).1 ∧
      Lockstep matters R (a.removeAll h ks).2 (b.removeAll h' ks).2 := by
  induction ks generalizing a b with
  | nil => exact ⟨rfl, par⟩
  | cons r ks ih =>
    obtain ⟨result, after⟩ := par.remove decides alike r
    unfold Teardown.removeAll
    generalize a.remove h r = x at result after ⊢
    generalize b.remove h' r = y at result after ⊢
    obtain ⟨q, u⟩ := x
    obtain ⟨q', v⟩ := y
    obtain rfl : q = q' := result
    cases q with
    | error e => exact ⟨rfl, after⟩
    | ok _ => exact ih after

end Teardown

theorem Lockstep.releasePause_eq (par : Lockstep matters R s t) :
    s.releasePause = t.releasePause := by
  have flags : s.document.addOnCreated = t.document.addOnCreated := by
    funext k
    exact congrFun par.isCreated_eq (.addOn k)
  unfold releasePause awaitsRelease
  rw [par.registry, par.config, flags]

variable (decides : ∀ k, matters (.delete k) = true)

include decides

theorem Lockstep.teardown (alike : Corresponding matters h h' R) (par : Lockstep matters R s t) :
    (s.teardown h).1 = (t.teardown h').1 ∧
      Lockstep matters R (s.teardown h).2 (t.teardown h').2 := by
  have uploaded : Teardown.Lockstep matters R ⟨s.uploadArtifacts h .down, []⟩
      ⟨t.uploadArtifacts h' .down, []⟩ := ⟨par.uploadArtifacts alike .down, rfl⟩
  obtain ⟨result, before⟩ := uploaded.removeAll decides alike (Removal.beforeRelease s.registry)
  rw [teardown_eq, teardown_eq, ← par.releasePause_eq, ← par.registry]
  generalize Teardown.removeAll h (Removal.beforeRelease s.registry)
    ⟨s.uploadArtifacts h .down, []⟩ = x at result before ⊢
  generalize Teardown.removeAll h' (Removal.beforeRelease s.registry)
    ⟨t.uploadArtifacts h' .down, []⟩ = y at result before ⊢
  obtain ⟨q, u⟩ := x
  obtain ⟨q', v⟩ := y
  obtain rfl : q = q' := result
  cases q with
  | error e => exact ⟨rfl, before.session⟩
  | ok _ =>
    obtain ⟨result, after⟩ :=
      (before.pause alike s.releasePause).removeAll decides alike Removal.afterRelease
    dsimp only at result after ⊢
    generalize Teardown.removeAll h Removal.afterRelease
      (s.releasePause.elim u fun reason => u.settle h reason) = x at result after ⊢
    generalize Teardown.removeAll h' Removal.afterRelease
      (s.releasePause.elim v fun reason => v.settle h' reason) = y at result after ⊢
    obtain ⟨q, u⟩ := x
    obtain ⟨q', v⟩ := y
    obtain rfl : q = q' := result
    cases q with
    | error e => exact ⟨rfl, after.session⟩
    | ok _ =>
      have docs := after.session.document
      have marked := after.update alike (fun now d => d.markDown now) fun now now' => by
        rw [StateDocument.timeless_markDown, StateDocument.timeless_markDown, docs]
      refine ⟨?_, marked.session⟩
      dsimp only [Teardown.result]
      rw [marked.faults]

/-- **Teardowns stay in lockstep.** -/
theorem lockstep_down (alike : Corresponding matters h h' R) (par : Lockstep matters R s t) :
    (s.down h).1 = (t.down h').1 ∧ Lockstep matters R (s.down h).2 (t.down h').2 := by
  unfold down
  rw [← par.allow_eq .down]
  cases s.allow .down with
  | error e => exact ⟨rfl, par⟩
  | ok _ => exact par.teardown decides alike

end Session

end Testbed
