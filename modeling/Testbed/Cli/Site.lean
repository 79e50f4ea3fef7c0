import Testbed.Cli.Run

/-!
# Commands on any site

The commands that work on an environment see the rest of the world through a few operations: they
read the configuration, find the provider, make the environment's directory, take its lock, load and
save its document. A `Site` is whatever offers these, and `Site.run` is each command in these terms.
`Workplace.site` offers them as they are (`Workplace.run_site`); another site may share its
environment with other processes, so that its answers depend on what those have done.
-/

namespace Testbed.Cli

/-- The commands that work on an environment. -/
inductive Errand
  | up | down | status | isUp | logs
  deriving DecidableEq

/-- What the command line calls it. -/
def Errand.command : Errand → Command
  | up => .up
  | down => .down
  | status => .status
  | isUp => .isUp
  | logs => .logs

/-- Whether the command may change the environment. -/
def Errand.writes : Errand → Bool
  | up | down => true
  | status | isUp | logs => false

/-- A save that failed. -/
structure SaveFailure where
  error : StoreError
  /-- Whether the document was in place already when something went wrong. -/
  late : Bool
  deriving DecidableEq

/-- What a command works on. -/
structure Site (ω : Type) where
  /-- Read the configuration. -/
  config : ω → Except Failure Config
  /-- Find the provider. -/
  provider : Config → ω → Except Failure (Provider ω)
  /-- Make the environment's directory. -/
  prepare : Config → ω → Except FileError Unit × ω
  /-- Take the environment's lock, if nobody holds it. -/
  tryLock : Config → ω → Except LockError Unit × ω
  /-- Give the lock back. -/
  release : Config → ω → ω
  /-- Load the state document. -/
  load : Config → ω → Except StoreError (Option StateDocument) × ω
  /-- Save the state document. -/
  save : Config → StateDocument → ω → Except SaveFailure Unit × ω
  /-- Write a hook's result to a path. -/
  writeResult : String → String → ω → Except FileError Unit × ω
  /-- Let so many seconds pass; gives the firings of the stop signal meanwhile. -/
  pause : Nat → ω → List StopOrigin × ω
  /-- The firings of the stop signal since the last call or pause ended. -/
  between : ω → List StopOrigin
  /-- What the clock shows. -/
  now : ω → String

/-! ## What a command does in its session -/

section Jobs

variable {ω : Type}

/-- Bring the environment up. -/
def upJob (s : Settings) (h : Host ω) (session : Session ω) : Report × Session ω :=
  let (r, session) := session.up h
  let c := session.config
  (upReport s (s.store c).path c.name session.journal r, session)

/-- Tear the environment down. -/
def downJob (s : Settings) (h : Host ω) (session : Session ω) : Report × Session ω :=
  let existed := session.document.anythingCreated
  let (r, session) := session.down h
  (downReport s existed session.config.name session.journal r, session)

/-- Say whether the environment is up. -/
def isUpJob (s : Settings) (h : Host ω) (session : Session ω) : Report × Session ω :=
  let (r, session) := session.isUp h
  let reason := match r with
    | .ok true => none
    | .ok false => some "not up"
    | .error e => some e.message
  (healthReport s session.config.name reason, session)

/-- Collect the logs of the node groups. -/
def logsJob (s : Settings) (h : Host ω) (session : Session ω) : Report × Session ω :=
  let (r, session) := session.dumpLogs h
  let report : Report := match r with
    | .error e => .failed (.saga e)
    | .ok _ =>
      if s.json then
        .value [("name", .string session.config.name), ("status", .string "collected")]
      else {}
  (report, session)

end Jobs

namespace Site

variable {ω : Type}

/-- A site as the host of a session. -/
def host (site : Site ω) (c : Config) (p : Provider ω) : Host ω where
  provider := p
  load w := (site.load c w).1
  save d w :=
    let (r, w) := site.save c d w
    (r.mapError (·.error), w)
  writeResult := site.writeResult
  pause := site.pause
  between := site.between
  now := site.now

/-- Open a session, on a valid configuration and what loading gives. -/
def openOn (site : Site ω) (c : Config) (p : Provider ω) (writable : Bool) (w : ω) :
    Except Failure (Session ω) × ω :=
  match c.validate with
  | .error e => (.error (.saga (.config e)), w)
  | .ok _ =>
    let (r, w) := site.load c w
    let (r, w) := Session.start { site.host c p with load := fun _ => r } c writable {} w
    (r.mapError .saga, w)

/-- Do something in a session and end it. -/
def within (site : Site ω) (c : Config) (p : Provider ω) (writable : Bool)
    (job : Host ω → Session ω → Report × Session ω) (w : ω) : Report × ω :=
  match site.openOn c p writable w with
  | (.error e, w) => (.failed e, w)
  | (.ok session, _) =>
    let (report, session) := job (site.host c p) session
    (report, session.world)

/-- Do something in a session for writing, which holds the lock to its end. -/
def underLock (site : Site ω) (c : Config) (p : Provider ω)
    (job : Host ω → Session ω → Report × Session ω) (w : ω) : Report × ω :=
  match site.prepare c w with
  | (.error e, w) => (.failed (.store (.file e)), w)
  | (.ok _, w) =>
    match site.tryLock c w with
    | (.error e, w) => (.failed (.lock e), w)
    | (.ok _, w) =>
      let (report, w) := site.within c p true job w
      (report, site.release c w)

/-- Do something in the session that the command asks for. -/
def inSession (site : Site ω) (writable : Bool)
    (job : Host ω → Session ω → Report × Session ω) (w : ω) : Report × ω :=
  match (do let c ← site.config w; .ok (c, ← site.provider c w)) with
  | .error e => (.failed e, w)
  | .ok (c, p) =>
    if writable then site.underLock c p job w else site.within c p false job w

/-- Show the recorded state without asking the provider. -/
def showStatus (site : Site ω) (s : Settings) (w : ω) : Report × ω :=
  match site.config w with
  | .error e => (.failed e, w)
  | .ok c =>
    match site.load c w with
    | (.error e, w) => (.failed (.store e), w)
    | (.ok d, w) => (statusReport s (s.store c).path c.name d, w)

/-- Check the configuration. -/
def checkConfig (site : Site ω) (s : Settings) (w : ω) : Report × ω :=
  match site.config w with
  | .error e => (.failed e, w)
  | .ok c => (validReport s c (s.providerName c), w)

/-- Run a command. -/
def run (site : Site ω) (s : Settings) : Errand → ω → Report × ω
  | .up => site.inSession true (upJob s)
  | .down => site.inSession true (downJob s)
  | .status => site.showStatus s
  | .isUp => site.inSession false (isUpJob s)
  | .logs => site.inSession false (logsJob s)

end Site

/-! ## Workplaces as sites -/

namespace Workplace

/-- A workplace with settings as a site. A command leaves its lock when it ends, and nothing in the
workplace tells of it any more. -/
def site (s : Settings) : Site Workplace where
  config w := s.load w.files
  provider c w := w.provider c (s.providerName c)
  prepare c w :=
    match w.files.makeDirectories ((s.store c).layout.directory c.name) with
    | .error e => (.error e, w)
    | .ok t => (.ok (), { w with files := t })
  tryLock c w :=
    let (r, t) := Lock.acquire w.held w.files ((s.store c).layout.lockFile c.name)
    (r.map fun _ => (), { w with files := t })
  release _ w := w
  load c w := ((s.store c).load w.files, w)
  save c d w :=
    let (r, t) := (s.store c).save d w.files
    (r.mapError (⟨·, false⟩), { w with files := t })
  writeResult path body w :=
    let (r, t) := Hook.writeResult w.files path body
    (r, { w with files := t })
  pause _ w := ([], w)
  between _ := []
  now w := w.now

end Workplace

end Testbed.Cli
