import Std.Time.Format
import Testbed.Cli.Run
import Testbed.Files.Change

/-!
# The program

Reads the files that a command line is about, runs it on them, and writes back what it changed.
The commands of a configuration see these files and no others.
-/

namespace Testbed.Main

/-- Add what lies at a path; what is there but is not a file that can be read counts as a
directory. -/
def addPath (t : FileTree) (path : String) : IO FileTree := do
  try
    return t.add path (some (← IO.FS.readBinFile path))
  catch
    | .noFileOrDirectory .. => return t
    | _ => return t.add path none

/-- The paths that a configuration leads to. -/
def pathsOf (s : Cli.Settings) (c : Config) : List String :=
  [(s.store c).path, s.layout.lockFile c.name] ++ HookPoint.all.filterMap fun p => p.output c.hooks

/-- The files that settings lead to. -/
def readFiles (s : Cli.Settings) : IO FileTree := do
  let t ← addPath (.startingIn (← IO.currentDir).toString) s.config
  match s.load t with
  | .ok c => (pathsOf s c).foldlM addPath t
  | .error _ => return t

/-- Make one change to the files. -/
def apply (change : String × Option ByteArray) : IO Unit := do
  match change with
  | (path, some content) =>
    IO.FS.createDirAll ((Path.directory? path).getD "/")
    IO.FS.writeBinFile path content
  | (path, none) => IO.FS.removeFile path

/-- What the clock shows. -/
def clockText : IO String := do
  return (Std.Time.DateTime.ofTimestamp (← Std.Time.Timestamp.now) .UTC).toISO8601String

/-- The variables that matter. -/
def environment : IO (List (String × String)) := do
  let value ← IO.getEnv Cli.Workplace.skipVariable
  return (value.map fun v => (Cli.Workplace.skipVariable, v)).toList

/-- Run a command line in the working directory. The files are read before the run and written after
it, so no lock of the operating system is held in between: two programs at work on one environment
do not see each other. -/
def run (words : List String) : IO UInt32 := do
  let files ← match Cli.parse words with
    | .ok i => readFiles i.settings
    | .error _ => pure .empty
  let w : Cli.Workplace := ⟨files, ← clockText, ← environment, [], {}⟩
  let (result, w) := Cli.run words w
  for change in files.changes w.files do
    apply change
  IO.print result.output
  IO.eprint result.complaint
  return result.exitCode.toUInt32

end Testbed.Main

/-- Run the program. -/
def main (words : List String) : IO UInt32 := Testbed.Main.run words
