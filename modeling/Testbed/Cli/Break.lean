import Testbed.Cli.Run
import Testbed.State.Break

/-!
# Starter configurations whose writing breaks off

The command that writes a starter configuration, when a step of the writing fails or the process is
killed in it. A process that was killed gives no report.
-/

namespace Testbed.Cli

/-- Why a configuration was not written. The fresh file is named once there is one. -/
def writeFailure (directory : String) (v : Saving) : SaveStep → FileError → Failure
  | .flush, e => .flush e
  | .replace, e => .replace e
  | _, e => .temporary (v.temporary.elim directory FileTree.pathOf) e

/-- Put a configuration in its place, unless something breaks off. -/
def writeConfigAmid (b : Option Break) (t : FileTree) (path text : String) :
    Option (Except Failure Unit) × FileTree :=
  let directory := (Path.directory? path).getD "."
  let (ending, v) :=
    Replacement.attempt ⟨directory, path, text.toUTF8⟩ b SaveStep.placing ⟨t, none⟩
  let result := match ending with
    | .done => some (.ok ())
    | .failed step e => some (.error (writeFailure directory v step e))
    | .killed _ => none
  (result, ending.leave v)

/-- Write a starter configuration, unless something breaks off. -/
def startConfigAmid (b : Option Break) (t : FileTree) (path name region : String) (force : Bool) :
    Option (Except Failure Unit) × FileTree :=
  if t.exists? path && !force then (some (.error (.wouldOverwrite path)), t)
  else
    let c := Config.template name region
    match c.validate with
    | .error e => (some (.error (.config e)), t)
    | .ok _ => writeConfigAmid b t path c.render

/-- What is told of a starter configuration that was written, or not. -/
def initReport (s : Settings) (name region : String) : Except Failure Unit → Report
  | .error e => .failed e
  | .ok _ =>
    if s.json then
      .value [("status", .string "written"), ("path", .string s.config), ("name", .string name),
        ("region", .string region)]
    else .lines [s!"wrote {s.config} for '{name}' ({region})"]

/-- Write a starter configuration, unless something breaks off; no report if the process was
killed. -/
def runInitAmid (b : Option Break) (s : Settings) (name region : String) (force : Bool)
    (w : Workplace) : Option Report × Workplace :=
  let (r, t) := startConfigAmid b w.files s.config name region force
  (r.map (initReport s name region), { w with files := t })

end Testbed.Cli
