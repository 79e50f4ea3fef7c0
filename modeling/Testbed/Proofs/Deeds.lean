import Testbed.Cli.Sharing
import Testbed.Proofs.Compensation
import Testbed.Proofs.Questions

/-!
# The course of a process

A process that works on an environment goes through a few phases. For writing it makes the
directory, takes the lock, loads the document, saves and asks the provider as often as it likes,
gives the lock back and exits; to ask it loads the document and exits. It leaves early when
something fails, and when it does not get the lock it exits with the code 3.

**Theorem (`phase_deeds`).** The deeds of every command, on every site, lead from the first phase to
the last one. The deeds of a process that was killed lead there as well (`phase_of_trace`).

Of what happens inside a session only its policy matters (`inSession_of_does`): the sagas keep the
process in its phase because all they do is to save and to call, and a query may not save.
-/

namespace Testbed

namespace Session

variable {ω : Type} {h : Host ω} {P : Policy}

/-- Anything may be done. -/
def anything : Policy where
  call _ _ := True
  change _ := True

theorem within_anything : P.Within anything := ⟨fun _ _ _ => trivial, fun _ _ => trivial⟩

/-- **The up saga is a sequence of acts.** -/
theorem does_up (h : Host ω) (s : Session ω) : Does anything h s (s.up h).2 := by
  have provisioned := (traced_provision h s).does.mono (Q := anything) within_anything
  have uploaded (t : Session ω) : Does anything h t (t.uploadArtifacts h .up) :=
    does_uploadArtifacts .up trivial
  have committed (t : Session ω) (change : String → StateDocument → StateDocument) :
      Does anything h t (t.commit h change).2 :=
    (traced_update (P := anything) change trivial).does
  have compensated (t : Session ω) : Does anything h t (t.compensate h) :=
    (does_compensate h t).mono within_anything
  unfold up
  cases s.allow .up with
  | error e => exact .refl s
  | ok _ =>
    dsimp only
    split
    · exact .refl s
    · generalize s.provision h = x at provisioned ⊢
      obtain ⟨r, t⟩ := x
      have closed := provisioned.trans (uploaded t)
      cases r with
      | ok _ => exact closed.trans (committed _ _)
      | error e =>
        dsimp only
        split
        · exact closed.trans (compensated _)
        · exact closed

end Session

namespace Cli

/-! ## Phases -/

/-- How far a process has got with its environment. -/
inductive Phase
  | fresh
  /-- It has made the directory. -/
  | ready
  /-- It has failed before it had the lock. -/
  | refused
  /-- It has the lock. -/
  | holding
  /-- It has the lock and has loaded the document. -/
  | working
  /-- It has loaded the document, without the lock. -/
  | asking
  /-- It has given the lock back. -/
  | leaving
  | gone
  deriving DecidableEq

/-- The phase after a deed, if the deed can be done in this phase. -/
def Phase.next : Bool → Phase → Deed → Option Phase
  | true, fresh, .prepared none => some ready
  | true, fresh, .prepared (some _) => some refused
  | true, ready, .tried none => some holding
  | true, ready, .tried (some _) => some refused
  | true, refused, .exited code => if code = 3 then some gone else none
  | true, holding, .loaded _ => some working
  | true, working, .saved _ _ => some working
  | true, working, .called _ _ => some working
  | true, holding, .released => some leaving
  | true, working, .released => some leaving
  | true, leaving, .exited _ => some gone
  | false, fresh, .loaded _ => some asking
  | false, asking, .called _ _ => some asking
  | false, asking, .exited _ => some gone
  | _, fresh, .exited _ => some gone
  | _, gone, .killed => none
  | _, _, .killed => some gone
  | _, _, _ => none

/-- The phase after several deeds. -/
def Phase.after (writes : Bool) (p : Phase) (ds : List Deed) : Option Phase :=
  ds.foldlM (Phase.next writes) p

theorem Phase.after_append (writes : Bool) (p : Phase) (ds es : List Deed) :
    Phase.after writes p (ds ++ es) = (Phase.after writes p ds).bind (Phase.after writes · es) :=
  List.foldlM_append ..

theorem Phase.after_concat {writes : Bool} {p q r : Phase} {ds : List Deed} {d : Deed}
    (before : Phase.after writes p ds = some q) (step : Phase.next writes q d = some r) :
    Phase.after writes p (ds ++ [d]) = some r := by
  rw [after_append, before]
  show (Phase.next writes q d).bind some = _
  rw [step]
  rfl

/-- The phase of a process that is in its session. -/
def Phase.inSession (writes : Bool) : Phase := if writes then working else asking

/-- The phase of a process that may open its session. -/
def Phase.opening (writes : Bool) : Phase := if writes then holding else fresh

/-! ## Sessions on a site that takes note -/

variable {ω : Type} {site : Site ω} {c : Config} {p : Provider ω} {writes : Bool}
variable {s t : Session (ω × List Deed)}

/-- The process of a session is in it. -/
def InSession (writes : Bool) (s : Session (ω × List Deed)) : Prop :=
  Phase.after writes .fresh s.world.2 = some (.inSession writes)

/-- What a policy must not allow to a process that only asks. -/
def Fitting (writes : Bool) (P : Session.Policy) : Prop :=
  writes = false → ∀ change, ¬ P.change change

theorem fitting_true (P : Session.Policy) : Fitting true P := nofun

theorem next_saved {d : StateDocument} {f : Option SaveFailure} :
    Phase.next true (.inSession true) (.saved d f) = some (.inSession true) := rfl

theorem next_called {k : Call} {f : Option ProviderError} :
    Phase.next writes (.inSession writes) (.called k f) = some (.inSession writes) := by
  cases writes <;> rfl

theorem inSession_act {P : Session.Policy} (fitting : Fitting writes P) (a : Act)
    (allowed : P.Allows s.stop a) (inside : InSession writes s) :
    InSession writes (s.act (site.noting.host c (noting p)) a) := by
  cases a with
  | call k => exact Phase.after_concat inside next_called
  | save change =>
    cases writes with
    | false => exact absurd allowed (fitting rfl change)
    | true => exact Phase.after_concat inside next_saved
  | _ => exact inside

/-- Whatever a session does, its process stays in it. -/
theorem inSession_of_does {P : Session.Policy} (fitting : Fitting writes P)
    (does : Session.Does P (site.noting.host c (noting p)) s t) (inside : InSession writes s) :
    InSession writes t :=
  (does.invariant (InSession writes) (fun _ => True)
    (fun _ a holds allowed => ⟨inSession_act fitting a allowed holds, fun _ _ => trivial⟩)
    inside).1

/-! ## The course of a command -/

/-- An opening that is refused or only reads leaves the world; one for writing saves. -/
theorem world_of_start {h : Host ω} {writable : Bool} {w w' : ω}
    {r : Except SagaError (Session ω)} (ran : Session.start h c writable {} w = (r, w')) :
    (w' = w ∧ ∀ s, r = .ok s → s.world = w) ∨
    writable = true ∧ ∃ s₀ : Session ω, s₀.world = w ∧
      w' = (s₀.update h fun _ d => d).2.world ∧
      ∀ s, r = .ok s → s = (s₀.update h fun _ d => d).2 := by
  cases valid : c.validate with
  | error e =>
    rw [Session.start_of_invalid valid] at ran
    cases ran
    exact .inl ⟨rfl, fun s same => by cases same⟩
  | ok _ =>
    cases loaded : Session.startingDocument h c w with
    | error e =>
      rw [Session.start_of_missing valid loaded] at ran
      cases ran
      exact .inl ⟨rfl, fun s same => by cases same⟩
    | ok d =>
      rw [Session.start_of_loaded valid loaded] at ran
      have world : (Session.starting h c writable {} w (d.syncIntent c)).world = w := rfl
      generalize Session.starting h c writable {} w (d.syncIntent c) = s₀ at ran world
      cases writable with
      | false =>
        cases ran
        exact .inl ⟨rfl, fun s same => Except.ok.inj same ▸ world⟩
      | true =>
        refine .inr ⟨rfl, s₀, world, ?_⟩
        simp only [Bool.not_true, Bool.false_eq_true, if_false] at ran
        generalize s₀.update h (fun _ d => d) = x at ran ⊢
        obtain ⟨q, t⟩ := x
        cases q with
        | error e =>
          cases ran
          exact ⟨rfl, fun s same => by cases same⟩
        | ok _ =>
          cases ran
          exact ⟨rfl, fun s same => (Except.ok.inj same).symm⟩

theorem openOn_of_invalid {site : Site ω} {writable : Bool} {w : ω} {e : ConfigError}
    (invalid : c.validate = .error e) :
    site.openOn c p writable w = (.error (.saga (.config e)), w) := by
  unfold Site.openOn
  rw [invalid]

theorem openOn_of_valid {site : Site ω} {writable : Bool} {w : ω} (valid : c.validate = .ok ()) :
    site.openOn c p writable w =
      let x := Session.start { site.host c p with load := fun _ => (site.load c w).1 } c writable {}
        (site.load c w).2
      (x.1.mapError .saga, x.2) := by
  unfold Site.openOn
  rw [valid]

/-- Opening a session loads the document, unless the configuration is invalid, and saves it only for
writing. -/
theorem phase_of_openOn {v v' : ω × List Deed} {r : Except Failure (Session (ω × List Deed))}
    (opening : Phase.after writes .fresh v.2 = some (.opening writes))
    (ran : site.noting.openOn c (noting p) writes v = (r, v')) :
    (∃ q, Phase.after writes .fresh v'.2 = some q ∧
      (q = .opening writes ∨ q = .inSession writes)) ∧
    ∀ s, r = .ok s → InSession writes s := by
  cases valid : c.validate with
  | error e =>
    rw [openOn_of_invalid valid] at ran
    cases ran
    exact ⟨⟨_, opening, .inl rfl⟩, fun s same => by cases same⟩
  | ok _ =>
    rw [openOn_of_valid valid] at ran
    have loads : Phase.after writes .fresh (site.noting.load c v).2.2 = some (.inSession writes) :=
      Phase.after_concat opening (by cases writes <;> rfl)
    generalize site.noting.load c v = loaded at ran loads
    obtain ⟨answer, v₁⟩ := loaded
    cases result : Session.start { site.noting.host c (noting p) with load := fun _ => answer } c
        writes {} v₁ with
    | mk q v₂ =>
      rw [result] at ran
      have passed (s : Session (ω × List Deed)) (same : r = .ok s) : q = .ok s := by
        cases q with
        | error e =>
          cases ran
          cases same
        | ok t =>
          cases ran
          cases same
          rfl
      obtain rfl : v₂ = v' := congrArg Prod.snd ran
      obtain ⟨world, session⟩ | ⟨writing, s₀, world₀, world, session⟩ := world_of_start result
      · refine ⟨⟨_, world ▸ loads, .inr rfl⟩, fun s same => ?_⟩
        unfold InSession
        rw [session s (passed s same)]
        exact loads
      · subst writing
        have before : InSession true s₀ := by
          unfold InSession
          rw [world₀]
          exact loads
        have inside : InSession true
            (s₀.act (site.noting.host c (noting p)) (.save fun _ d => d)) :=
          inSession_act (fitting_true Session.anything) _ trivial before
        refine ⟨⟨_, world ▸ inside, .inr rfl⟩, fun s same => ?_⟩
        rw [session s (passed s same)]
        exact inside

/-- What a command does in its session leaves its process in it. -/
def Stays (writes : Bool)
    (job : Host (ω × List Deed) → Session (ω × List Deed) → Report × Session (ω × List Deed))
    (site : Site ω) : Prop :=
  ∀ c p s, InSession writes s → InSession writes (job (site.noting.host c (noting p)) s).2

theorem stays_upJob (settings : Settings) (site : Site ω) :
    Stays true (upJob settings) site := fun _ _ s =>
  inSession_of_does (fitting_true _) (Session.does_up _ s)

theorem stays_downJob (settings : Settings) (site : Site ω) :
    Stays true (downJob settings) site := fun _ _ s =>
  inSession_of_does (fitting_true _) (Session.does_down _ s)

theorem stays_isUpJob (settings : Settings) (site : Site ω) :
    Stays false (isUpJob settings) site := fun _ _ s =>
  inSession_of_does (fun _ _ => id) (Session.does_isUp _ s)

theorem stays_logsJob (settings : Settings) (site : Site ω) :
    Stays false (logsJob settings) site := fun _ _ s =>
  inSession_of_does (fun _ _ => id) (Session.does_dumpLogs _ s)

/-- A session ends where it was opened, or in the session. -/
theorem phase_within {v : ω × List Deed}
    {job : Host (ω × List Deed) → Session (ω × List Deed) → Report × Session (ω × List Deed)}
    (stays : Stays writes job site)
    (opening : Phase.after writes .fresh v.2 = some (.opening writes)) :
    ∃ q, Phase.after writes .fresh (site.noting.within c (noting p) writes job v).2.2 = some q ∧
      (q = .opening writes ∨ q = .inSession writes) := by
  unfold Site.within
  cases ran : site.noting.openOn c (noting p) writes v with
  | mk r v' =>
    obtain ⟨phase, inside⟩ := phase_of_openOn opening ran
    cases r with
    | error e => exact phase
    | ok s => exact ⟨_, stays c p s (inside s rfl), .inr rfl⟩

/-! ## Exit codes -/

theorem beginsWith_append (words rest : String) : beginsWith (words ++ rest) words = true := by
  simp [beginsWith]

theorem beginsWith_of_first {message words : String} {a b : Char}
    (first : message.toList.head? = some a) (other : words.toList.head? = some b) (ne : b ≠ a) :
    beginsWith message words = false := by
  unfold beginsWith
  cases m : message.toList with
  | nil => simp [m] at first
  | cons x xs =>
    cases w : words.toList with
    | nil => simp [w] at other
    | cons y ys =>
      rw [m] at first
      rw [w] at other
      cases first
      cases other
      simp [List.isPrefixOf, ne]

theorem exitCodeOf_state {words : String}
    (known : words = "state store error:" ∨ words = "state lock:") (rest : String) :
    exitCodeOf (words ++ rest) = 3 := by
  have begins := beginsWith_append words rest
  have other : beginsWith (words ++ rest) "config error:" = false := by
    refine beginsWith_of_first (a := 's') (b := 'c') ?_ rfl (by decide)
    obtain rfl | rfl := known <;> simp
  have kind : FailureKind.ofMessage (words ++ rest) = .state := by
    unfold FailureKind.ofMessage
    rw [other]
    obtain rfl | rfl := known <;> simp [begins]
  exact congrArg FailureKind.exitCode kind

/-- Failures of the store and of the lock end a command with the exit code for the state. -/
theorem exitCode_store (e : StoreError) : (Report.failed (.store e)).exitCode = 3 := by
  have message : (Failure.store e).message = "state store error:" ++ (" " ++ e.message) := by
    rw [← String.append_assoc]
    rfl
  show exitCodeOf (Failure.store e).message = 3
  rw [message]
  exact exitCodeOf_state (.inl rfl) _

theorem exitCode_lock (e : LockError) : (Report.failed (.lock e)).exitCode = 3 := by
  have message : (Failure.lock e).message = "state lock:" ++ (" " ++ e.message) := by
    rw [← String.append_assoc]
    rfl
  show exitCodeOf (Failure.lock e).message = 3
  rw [message]
  exact exitCodeOf_state (.inr rfl) _

/-! ## Whole commands -/

/-- A session for writing begins with the directory and the lock, and gives the lock back; without
them the process has failed with the exit code for the state. -/
theorem phase_underLock {v : ω × List Deed}
    {job : Host (ω × List Deed) → Session (ω × List Deed) → Report × Session (ω × List Deed)}
    (stays : Stays true job site) (fresh : Phase.after true .fresh v.2 = some .fresh) :
    Phase.after true .fresh ((site.noting.underLock c (noting p) job v).2.2 ++
      [.exited (site.noting.underLock c (noting p) job v).1.exitCode]) = some .gone := by
  unfold Site.underLock
  have prepare : site.noting.prepare c v = ((site.prepare c v.1).1,
      ((site.prepare c v.1).2, v.2 ++ [.prepared (failureOf (site.prepare c v.1).1)])) := rfl
  rw [prepare]
  cases (site.prepare c v.1).1 with
  | error e =>
    have refused := Phase.after_concat fresh (d := .prepared (some e)) rfl
    refine Phase.after_concat refused ?_
    dsimp only
    rw [exitCode_store]
    rfl
  | ok made =>
    have ready := Phase.after_concat fresh (d := .prepared none) rfl
    dsimp only [failureOf]
    generalize v.2 ++ [.prepared none] = ds at ready ⊢
    have tryLock (w : ω) : site.noting.tryLock c (w, ds) = ((site.tryLock c w).1,
        ((site.tryLock c w).2, ds ++ [.tried (failureOf (site.tryLock c w).1)])) := rfl
    rw [tryLock]
    cases (site.tryLock c (site.prepare c v.1).2).1 with
    | error e =>
      have refused := Phase.after_concat ready (d := .tried (some e)) rfl
      refine Phase.after_concat refused ?_
      dsimp only
      rw [exitCode_lock]
      rfl
    | ok taken =>
      have holding := Phase.after_concat ready (d := .tried none) rfl
      dsimp only [failureOf]
      obtain ⟨q, ended, phase⟩ := phase_within (c := c) (p := p) (v := (_, ds ++ [.tried none]))
        stays holding
      have leaving : Phase.next true q .released = some .leaving := by
        obtain rfl | rfl := phase <;> rfl
      exact Phase.after_concat (Phase.after_concat ended leaving) rfl

theorem phase_inSession {w : ω}
    {job : Host (ω × List Deed) → Session (ω × List Deed) → Report × Session (ω × List Deed)}
    (stays : Stays writes job site) :
    Phase.after writes .fresh ((site.noting.inSession writes job (w, [])).2.2 ++
      [.exited (site.noting.inSession writes job (w, [])).1.exitCode]) = some .gone := by
  have fresh : Phase.after writes .fresh [] = some .fresh := rfl
  have ends (code : Nat) : Phase.next writes .fresh (.exited code) = some .gone := by
    cases writes <;> rfl
  have config : site.noting.config (w, []) = site.config w := rfl
  unfold Site.inSession
  rw [config]
  cases site.config w with
  | error e => exact Phase.after_concat fresh (ends _)
  | ok c =>
    have provider : site.noting.provider c (w, []) = (site.provider c w).map noting := rfl
    simp only [bind, Except.bind]
    rw [provider]
    cases site.provider c w with
    | error e => exact Phase.after_concat fresh (ends _)
    | ok p =>
      simp only [Except.map]
      cases writes with
      | true => exact phase_underLock (v := (w, [])) stays fresh
      | false =>
        obtain ⟨q, ended, phase⟩ := phase_within (c := c) (p := p) (v := (w, [])) stays fresh
        refine Phase.after_concat ended ?_
        obtain rfl | rfl := phase <;> rfl

theorem phase_showStatus (s : Settings) (w : ω) :
    Phase.after false .fresh ((site.noting.showStatus s (w, [])).2.2 ++
      [.exited (site.noting.showStatus s (w, [])).1.exitCode]) = some .gone := by
  have config : site.noting.config (w, []) = site.config w := rfl
  unfold Site.showStatus
  rw [config]
  cases site.config w with
  | error e => rfl
  | ok c =>
    have load : site.noting.load c (w, []) = ((site.load c w).1, ((site.load c w).2,
        [.loaded (site.load c w).1])) := rfl
    dsimp only
    rw [load]
    cases (site.load c w).1 <;> rfl

/-- **Every command goes through the phases to their end.** -/
theorem phase_deeds (site : Site ω) (s : Settings) (e : Errand) (w : ω) :
    Phase.after e.writes .fresh (site.deeds s e w) = some .gone := by
  cases e with
  | up => exact phase_inSession (stays_upJob s site)
  | down => exact phase_inSession (stays_downJob s site)
  | status => exact phase_showStatus s w
  | isUp => exact phase_inSession (stays_isUpJob s site)
  | logs => exact phase_inSession (stays_logsJob s site)

theorem next_gone (d : Deed) : Phase.next writes .gone d = none := by
  cases writes <;> cases d <;> rfl

theorem after_gone (d : Deed) (ds : List Deed) : Phase.after writes .gone (d :: ds) = none := by
  show (Phase.next writes .gone d).bind _ = none
  rw [next_gone]
  rfl

theorem next_killed {q : Phase} (alive : q ≠ .gone) :
    Phase.next writes q .killed = some .gone := by
  cases q <;> cases writes <;> first | rfl | exact absurd rfl alive

/-- **A trace is a way through the phases**, also of a process that was killed. -/
theorem phase_of_trace {e : Errand} {ds : List Deed} (trace : e.Trace ds) :
    ∃ q, Phase.after e.writes .fresh ds = some q := by
  obtain ⟨ω, site, s, w, done, ⟨rest, whole⟩, ended⟩ := trace
  have all := phase_deeds site s e w
  rw [← whole, Phase.after_append] at all
  obtain ⟨q, reached, onwards⟩ := Option.bind_eq_some_iff.1 all
  obtain rfl | ⟨unfinished, rfl⟩ := ended
  · exact ⟨q, reached⟩
  · refine ⟨.gone, Phase.after_concat reached (next_killed ?_)⟩
    rintro rfl
    cases rest with
    | nil => exact unfinished ((List.append_nil done).symm.trans whole)
    | cons d rest => cases (after_gone d rest).symm.trans onwards

theorem after_killed {q r : Phase} {ds : List Deed}
    (reached : Phase.after writes q (ds ++ [.killed]) = some r) : r = .gone := by
  rw [Phase.after_append] at reached
  obtain ⟨p, -, last⟩ := Option.bind_eq_some_iff.1 reached
  have killed : Phase.next writes p .killed = some r := (Option.bind_fun_some _).symm.trans last
  by_cases alive : p = .gone
  · rw [alive, next_gone] at killed
    cases killed
  · exact Option.some.inj (killed.symm.trans (next_killed alive))

/-- No command kills itself: its last deed is to exit. -/
theorem killed_notMem_deeds (site : Site ω) (s : Settings) (e : Errand) (w : ω) :
    .killed ∉ site.deeds s e w := by
  intro mem
  obtain ⟨ds, rest, whole⟩ := List.append_of_mem mem
  have all := phase_deeds site s e w
  rw [whole, ← List.singleton_append, ← List.append_assoc, Phase.after_append] at all
  obtain ⟨q, reached, onwards⟩ := Option.bind_eq_some_iff.1 all
  obtain rfl := after_killed reached
  cases rest with
  | nil =>
    have last : (site.deeds s e w).getLast? = some .killed := by simp [whole]
    simp [Site.deeds] at last
  | cons d rest => cases (after_gone d rest).symm.trans onwards

/-- A process that has not come to its end has a next deed. -/
theorem exists_next_of_trace {e : Errand} {ds : List Deed} {q : Phase} (trace : e.Trace ds)
    (reached : Phase.after e.writes .fresh ds = some q) (alive : q ≠ .gone) :
    ∃ d, d ≠ .killed ∧ e.Trace (ds ++ [d]) := by
  obtain ⟨ω, site, s, w, done, ⟨rest, whole⟩, ended⟩ := trace
  obtain rfl | ⟨unfinished, rfl⟩ := ended
  · cases rest with
    | nil =>
      have gone := phase_deeds site s e w
      rw [← whole, List.append_nil, reached] at gone
      exact absurd (Option.some.inj gone) alive
    | cons d rest =>
      refine ⟨d, ?_, ω, site, s, w, ds ++ [d], ⟨rest, by simp [← whole]⟩, .inl rfl⟩
      rintro rfl
      exact killed_notMem_deeds site s e w (by simp [← whole])
  · exact absurd (after_killed reached) alive

end Cli

end Testbed
