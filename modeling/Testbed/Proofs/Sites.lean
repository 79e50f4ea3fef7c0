import Testbed.Cli.Site
import Testbed.Proofs.Opening
import Testbed.Proofs.SavedState

/-!
# Workplaces as sites

**Theorem (`run_site`).** What a command does at a workplace is what `Site.run` does on the site of
that workplace. So whatever is shown of commands on all sites holds of the program.

A save and a load of this site are those of the file store: after a save that succeeded the store
has the document under its seal (`load_of_save_site`). Its lock is that of a file, which nobody else
may hold (`notMem_held_of_tryLock_site`).
-/

namespace Testbed

/-- An opening looks at the store once. -/
theorem Session.start_of_load {ω : Type} (h : Host ω) (c : Config) (writable : Bool)
    (stop : StopSignal) (w : ω) :
    start { h with load := fun _ => h.load w } c writable stop w = start h c writable stop w := by
  have loaded : startingDocument { h with load := fun _ => h.load w } c w =
      startingDocument h c w := rfl
  unfold start
  rw [loaded]
  rfl

namespace Cli

namespace Workplace

theorem load_site (s : Settings) (c : Config) (w : Workplace) :
    (site s).load c w = ((s.store c).load w.files, w) := by simp only [site]

theorem save_site (s : Settings) (c : Config) (d : StateDocument) (w : Workplace) :
    (site s).save c d w = (((s.store c).save d w.files).1.mapError (SaveFailure.mk · false),
      { w with files := ((s.store c).save d w.files).2 }) := by simp only [site]

theorem load_host (p : Provider Workplace) (store : FileStore) (w : Workplace) :
    (host p store).load w = store.load w.files := by simp only [host]

/-- The sessions of a workplace are those on its site. -/
theorem host_site (s : Settings) (c : Config) (p : Provider Workplace) :
    (site s).host c p = host p (s.store c) := by
  unfold Site.host site host
  congr 1
  funext d w
  dsimp only
  cases ((s.store c).save d w.files).1 <;> rfl

theorem openOn_site (s : Settings) (c : Config) (p : Provider Workplace) (writable : Bool)
    (w : Workplace) : (site s).openOn c p writable w =
      ((Session.start (host p (s.store c)) c writable {} w).1.mapError .saga,
        (Session.start (host p (s.store c)) c writable {} w).2) := by
  unfold Site.openOn
  rw [host_site, load_site, ← load_host p]
  cases valid : c.validate with
  | error e =>
    rw [Session.start_of_invalid valid]
    rfl
  | ok _ =>
    dsimp only
    rw [Session.start_of_load]

theorem within_site (s : Settings) (c : Config) (p : Provider Workplace) (writable : Bool)
    (job : Host Workplace → Session Workplace → Report × Session Workplace) (w : Workplace) :
    (site s).within c p writable job w =
      match w.openOn c p (s.store c) writable with
      | (.error e, w) => (.failed e, w)
      | (.ok o, _) => ((job o.host o.session).1, (job o.host o.session).2.world) := by
  unfold Site.within openOn
  rw [openOn_site, host_site]
  dsimp only
  generalize Session.start (host p (s.store c)) c writable {} w = x
  obtain ⟨r, v⟩ := x
  cases r <;> rfl

theorem underLock_site (s : Settings) (c : Config) (p : Provider Workplace)
    (job : Host Workplace → Session Workplace → Report × Session Workplace) (w : Workplace) :
    (site s).underLock c p job w =
      match w.lock (s.store c) with
      | (.error e, w) => (.failed e, w)
      | (.ok _, w) => (site s).within c p true job w := by
  have directory : (s.store c).layout.directory (s.store c).name =
      (s.store c).layout.directory c.name := rfl
  have file : (s.store c).layout.lockFile (s.store c).name = (s.store c).layout.lockFile c.name :=
    rfl
  unfold Site.underLock lock
  rw [directory, file]
  cases made : w.files.makeDirectories ((s.store c).layout.directory c.name) with
  | error e => simp only [site, made]
  | ok t =>
    simp only [site, made]
    generalize Lock.acquire w.held t ((s.store c).layout.lockFile c.name) = x
    obtain ⟨r, u⟩ := x
    cases r <;> rfl

theorem inSession_site (s : Settings) (writable : Bool)
    (job : Host Workplace → Session Workplace → Report × Session Workplace) (w : Workplace) :
    (site s).inSession writable job { w with rehearsal := {} } =
      Cli.inSession s writable (fun o => job o.host o.session) w := by
  unfold Site.inSession Cli.inSession enter
  generalize { w with rehearsal := {} } = w
  have config : (site s).config w = s.load w.files := rfl
  dsimp only
  rw [config]
  cases s.load w.files with
  | error e => rfl
  | ok c =>
    have provider : (site s).provider c w = w.provider c (s.providerName c) := rfl
    simp only [bind, Except.bind]
    rw [provider]
    cases w.provider c (s.providerName c) with
    | error e => rfl
    | ok p =>
      cases writable with
      | false => exact within_site s c p false job w
      | true =>
        simp only [if_true]
        rw [underLock_site]
        generalize w.lock (s.store c) = x
        obtain ⟨r, v⟩ := x
        cases r with
        | error e => rfl
        | ok lock => exact within_site s c p true job v

/-- The lock is taken only if its file is not among those that are held. -/
theorem notMem_held_of_tryLock_site {s : Settings} {c : Config} {w w' : Workplace}
    (taken : (site s).tryLock c w = (.ok (), w')) :
    ∃ t place, Lock.openFile w.files ((s.store c).layout.lockFile c.name) = .ok (t, place) ∧
      place ∉ w.held ∧ w' = { w with files := t } := by
  simp only [site, Lock.acquire] at taken
  cases opened : Lock.openFile w.files ((s.store c).layout.lockFile c.name) with
  | error e =>
    rw [opened] at taken
    cases taken
  | ok opening =>
    obtain ⟨t, place⟩ := opening
    rw [opened] at taken
    dsimp only at taken
    split at taken
    · cases taken
    case isFalse free =>
      cases taken
      exact ⟨t, place, rfl, free, rfl⟩

/-- What was saved is what the store has, under its seal. -/
theorem load_of_save_site {s : Settings} {c : Config} {d : StateDocument} {w w' : Workplace}
    (current : d.version = stateFormatVersion) (saved : (site s).save c d w = (.ok (), w')) :
    (site s).load c w' = (.ok (some d.sealed), w') := by
  rw [save_site] at saved
  cases stored : (s.store c).save d w.files with
  | mk r t =>
    rw [stored] at saved
    cases r with
    | error e => cases saved
    | ok _ =>
      cases saved
      obtain ⟨v, ran, rfl⟩ := FileStore.save_eq_ok.1 stored
      rw [load_site, FileStore.settle_of_run ran, (FileStore.inPlace_of_run ran).load current]

/-- Checking the configuration at a workplace is checking it on its site. -/
theorem checkConfig_site (s : Settings) (w : Workplace) :
    (site s).checkConfig s w = runValidate s w := rfl

/-- **Commands on a workplace** are what the site of the workplace makes of them. -/
theorem run_site (s : Settings) (e : Errand) (w : Workplace) (fresh : w.rehearsal = {}) :
    (site s).run s e w = Invocation.run ⟨s, e.command⟩ w := by
  have same : { w with rehearsal := {} } = w := by rw [← fresh]
  cases e with
  | up =>
    have run := inSession_site s true (upJob s) w
    rw [same] at run
    exact run
  | down =>
    have run := inSession_site s true (downJob s) w
    rw [same] at run
    exact run
  | status =>
    show (site s).showStatus s w = runStatus s w
    have config : (site s).config w = s.load w.files := rfl
    unfold Site.showStatus runStatus
    rw [config]
    cases s.load w.files with
    | error e => rfl
    | ok c =>
      dsimp only
      rw [load_site]
      cases (s.store c).load w.files <;> rfl
  | isUp =>
    have run := inSession_site s false (isUpJob s) w
    rw [same] at run
    exact run
  | logs =>
    have run := inSession_site s false (logsJob s) w
    rw [same] at run
    exact run

end Workplace

end Cli

end Testbed
