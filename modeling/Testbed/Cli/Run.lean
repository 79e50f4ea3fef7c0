import Testbed.Cli.Parser
import Testbed.Cli.Report
import Testbed.Cli.Workplace
import Testbed.Config.Printer
import Testbed.Saga.Up
import Testbed.Session.Query

/-!
# Running commands

Each command takes its settings and the workplace, and gives a report and the workplace as it
left it. `run` reads a command line and runs what it asks for.
-/

namespace Testbed.Cli

/-- What a command does. -/
abbrev Job := Workplace → Report × Workplace

/-! ## Files that commands write -/

/-- Write a configuration under a fresh name and put it in its place in one step. -/
def writeConfig (t : FileTree) (path text : String) : Except Failure Unit × FileTree :=
  let directory := (Path.directory? path).getD "."
  match t.makeTemporary directory with
  | .error e => (.error (.temporary directory e), t)
  | .ok (t, fresh) =>
    match (t.fill fresh text.toUTF8).rename fresh path with
    | .ok t => (.ok (), t)
    | .error e => (.error (.replace e), t.erase fresh)

/-- Write a starter configuration, whole or not at all. -/
def startConfig (t : FileTree) (path name region : String) (force : Bool) :
    Except Failure Unit × FileTree :=
  if t.exists? path && !force then (.error (.wouldOverwrite path), t)
  else
    let c := Config.template name region
    match c.validate with
    | .error e => (.error (.config e), t)
    | .ok _ => writeConfig t path c.render

/-- Write texts to files until one fails. -/
def writePages : List (String × String) → FileTree → Except Failure Unit × FileTree
  | [], t => (.ok (), t)
  | (path, text) :: rest, t =>
    match t.write path text.toUTF8 FileTree.publicMode with
    | .ok t => writePages rest t
    | .error e => (.error (.page path e), t)

/-- The manual in a directory: a page for the program and one for each command. -/
def manual (directory : String) : List (String × String) :=
  (Path.join directory s!"{programName}.1", Level.program.page)
    :: CommandName.working.map fun c =>
      (Path.join directory s!"{programName}-{c.word}.1", (Level.command c).page)

/-! ## Commands -/

/-- Write a starter configuration. -/
def runInit (s : Settings) (name region : String) (force : Bool) : Job := fun w =>
  let (r, t) := startConfig w.files s.config name region force
  let w := { w with files := t }
  match r with
  | .error e => (.failed e, w)
  | .ok _ =>
    if s.json then
      (.value [("status", .string "written"), ("path", .string s.config), ("name", .string name),
        ("region", .string region)], w)
    else (.lines [s!"wrote {s.config} for '{name}' ({region})"], w)

/-- Check the configuration. -/
def runValidate (s : Settings) : Job := fun w =>
  match s.load w.files with
  | .error e => (.failed e, w)
  | .ok c => (validReport s c (s.providerName c), w)

/-- Do something in a session; gives a report of it. -/
def inSession (s : Settings) (writable : Bool)
    (job : OpenSession → Report × Session Workplace) : Job := fun w =>
  match w.enter s writable with
  | (.error e, w) => (.failed e, w)
  | (.ok o, _) =>
    let (report, session) := job o
    (report, session.world)

/-- Bring the environment up. -/
def runUp (s : Settings) : Job := inSession s true fun o =>
  let (r, session) := Session.up o.host o.session
  let c := session.config
  (upReport s (s.store c).path c.name session.journal r, session)

/-- Tear the environment down. -/
def runDown (s : Settings) : Job := inSession s true fun o =>
  let (r, session) := Session.down o.host o.session
  let existed := o.session.document.anythingCreated
  (downReport s existed session.config.name session.journal r, session)

/-- Show the recorded state without asking the provider. -/
def runStatus (s : Settings) : Job := fun w =>
  match s.load w.files with
  | .error e => (.failed e, w)
  | .ok c =>
    match (s.store c).load w.files with
    | .error e => (.failed (.store e), w)
    | .ok d => (statusReport s (s.store c).path c.name d, w)

/-- Say whether the environment is up. -/
def runIsUp (s : Settings) : Job := inSession s false fun o =>
  let (r, session) := Session.isUp o.host o.session
  let reason := match r with
    | .ok true => none
    | .ok false => some "not up"
    | .error e => some e.message
  (healthReport s session.config.name reason, session)

/-- Collect the logs of the node groups. -/
def runLogs (s : Settings) : Job := inSession s false fun o =>
  let (r, session) := Session.dumpLogs o.host o.session
  let report : Report := match r with
    | .error e => .failed (.saga e)
    | .ok _ =>
      if s.json then
        .value [("name", .string session.config.name), ("status", .string "collected")]
      else {}
  (report, session)

/-- Write the manual. -/
def runManPages (s : Settings) (directory : String) : Job := fun w =>
  match w.files.makeDirectories directory with
  | .error e => (.failed (.pageDirectory e), w)
  | .ok t =>
    let pages := manual directory
    let (r, t) := writePages pages t
    let w := { w with files := t }
    match r with
    | .error e => (.failed e, w)
    | .ok _ =>
      if s.json then (.value [("pages", namesJson (pages.map (·.1)))], w)
      else (.lines [s!"{pages.length} man pages written to {directory}"], w)

/-- Run what was asked for. -/
def Invocation.run (i : Invocation) : Job :=
  match i.command with
  | .init name region force => runInit i.settings name region force
  | .validate => runValidate i.settings
  | .up => runUp i.settings
  | .down => runDown i.settings
  | .status => runStatus i.settings
  | .isUp => runIsUp i.settings
  | .logs => runLogs i.settings
  | .completions shell => fun w => ({ output := completionScript shell }, w)
  | .manPages directory => runManPages i.settings directory

/-! ## The program -/

/-- What the program leaves behind. -/
structure Result where
  exitCode : Nat
  output : String := ""
  complaint : String := ""

/-- What is told where reading the command line ended without an invocation. -/
def Ending.result : Ending → Result
  | .usage e => { exitCode := 2, complaint := e.message }
  | .help l => { exitCode := 0, output := l.help }
  | .bare => { exitCode := 2, complaint := Level.program.help }
  | .version => { exitCode := 0, output := versionText ++ "\n" }

/-- Run the program. -/
def run (words : List String) (w : Workplace) : Result × Workplace :=
  match parse words with
  | .error e => (e.result, w)
  | .ok i =>
    let (report, w) := i.run w
    (⟨report.exitCode, report.output, report.complaint⟩, w)

end Testbed.Cli
