import Testbed.Cli.Arguments
import Testbed.Cli.Failure
import Testbed.Config.File
import Testbed.Hook
import Testbed.Provider.Commands
import Testbed.Rehearsal.Basic
import Testbed.Session.Open

/-!
# Where commands work

A command works on files, in an environment of variables, while other programs hold locks. It
opens a session on the environment that its configuration describes; a session that may change
something holds the environment's lock.
-/

namespace Testbed.Cli

/-- What a command finds and leaves. -/
structure Workplace where
  files : FileTree
  /-- What the clock shows. -/
  now : String
  /-- The variables of the environment. -/
  environment : List (String × String) := []
  /-- The locks that other programs hold. -/
  held : List Place := []
  /-- The rehearsal of the command at work. -/
  rehearsal : Rehearsal := {}

/-- A session with the host it works on. -/
structure OpenSession where
  host : Host Workplace
  session : Session Workplace

/-! ## Settings -/

/-- The configuration that the settings name. -/
def Settings.load (s : Settings) (t : FileTree) : Except Failure Config :=
  (Config.load t s.config).mapError .config

/-- Where the settings keep state. -/
def Settings.layout (s : Settings) : Layout := s.stateDirectory.elim (.besideConfig s.config) (⟨·⟩)

/-- The store of an environment's state document. -/
def Settings.store (s : Settings) (c : Config) : FileStore := ⟨s.layout, c.name⟩

/-- The name of the provider to be used. -/
def Settings.providerName (s : Settings) (c : Config) : String := s.provider.getD c.provider.kind

namespace Workplace

/-! ## Providers -/

/-- The variable that is `1` where missing tools do not matter. -/
def skipVariable : String := "KUBETESTER_SKIP_PREREQS"

/-- The tools that a provider needs and that are not installed. -/
def missingTools (w : Workplace) (c : Config) (provider : String) : List MissingTool :=
  if provider = Commands.providerName && w.environment.lookup skipVariable ≠ some "1" then
    MissingTool.among Shell.isInstalled c.provider.requiredTools
  else []

/-- The provider that only rehearses. -/
def rehearsing : Provider Workplace :=
  (Rehearsal.provider 0).within (·.rehearsal) fun w r => { w with rehearsal := r }

/-- The provider that runs the commands of a configuration. -/
def commanding (c : Config) (w : Workplace) : Provider Workplace :=
  (Commands.provider c w.environment).within (·.files) fun w t => { w with files := t }

/-- The provider of a name. -/
def provider (w : Workplace) (c : Config) (name : String) : Except Failure (Provider Workplace) :=
  match w.missingTools c name with
  | [] =>
    if name = Commands.providerName then .ok (commanding c w)
    else if name = Rehearsal.providerName then .ok rehearsing
    else .error (.provider (.unavailable name))
  | tools => .error (.missingTools tools)

/-! ## Sessions -/

/-- A workplace as the host of a session. Nothing fires the stop signal during its pauses: no
operator interrupts them. -/
def host (p : Provider Workplace) (store : FileStore) : Host Workplace where
  provider := p
  load w := store.load w.files
  save d w :=
    let (r, t) := store.save d w.files
    (r, { w with files := t })
  writeResult path body w :=
    let (r, t) := Hook.writeResult w.files path body
    (r, { w with files := t })
  pause _ w := ([], w)
  now w := w.now

/-- Take the lock of an environment, making the directory that it lies in. -/
def lock (w : Workplace) (store : FileStore) : Except Failure Lock × Workplace :=
  match w.files.makeDirectories (store.layout.directory store.name) with
  | .error e => (.error (.store (.file e)), w)
  | .ok t =>
    let (r, t) := Lock.acquire w.held t (store.layout.lockFile store.name)
    (r.mapError .lock, { w with files := t })

/-- Open a session on a store. -/
def openOn (w : Workplace) (c : Config) (p : Provider Workplace) (store : FileStore)
    (writable : Bool) : Except Failure OpenSession × Workplace :=
  let h := host p store
  let (r, w) := Session.start h c writable {} w
  ((r.map fun s => ⟨h, s⟩).mapError .saga, w)

/-- Open the session that the settings ask for; only a writable one takes the lock. -/
def enter (w : Workplace) (s : Settings) (writable : Bool) :
    Except Failure OpenSession × Workplace :=
  let w := { w with rehearsal := {} }
  match (do let c ← s.load w.files; .ok (c, ← w.provider c (s.providerName c))) with
  | .error e => (.error e, w)
  | .ok (c, p) =>
    if writable then
      match w.lock (s.store c) with
      | (.ok _, w) => w.openOn c p (s.store c) true
      | (.error e, w) => (.error e, w)
    else w.openOn c p (s.store c) false

end Workplace

end Testbed.Cli
