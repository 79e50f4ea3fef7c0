import Testbed.Config.Basic
import Testbed.Files.Tree
import Testbed.Provider.Basic
import Testbed.State.Document
import Testbed.Text.Template

/-!
# Hooks

A hook's command may refer to values of the environment, and its outcome is written to a file
that only the owner may read.
-/

namespace Testbed.Hook

/-- The values that hook commands may refer to. -/
def refs (c : Config) (d : StateDocument) : List (String × String) :=
  [("name", c.name), ("region", c.region)]
  ++ (c.kubeconfig.map fun v => ("kubeconfig", v)).toList
  ++ (d.cluster.arn.map fun v => ("cluster_arn", v)).toList
  ++ (d.cluster.endpoint.map fun v => ("cluster_endpoint", v)).toList

/-- The section of a result file that tells of a failure. -/
def errorSection (text : String) : String := s!"\n\n# error\n{text}\n"

/-- The text of a result file: the command, what it put out, and what went wrong. -/
def render (command : String) (result : Except ProviderError CommandOutput) : String :=
  s!"{command}\n\n# output\n" ++
    match result with
    | .ok out => out.stdout ++ out.stderr ++ (if out.success then "" else errorSection out.status)
    | .error e => errorSection e.message

/-- Write a result file with the directories it lies in; what was done before a failure stays. -/
def writeResult (t : FileTree) (path body : String) : Except FileError Unit × FileTree :=
  let made := (Path.directory? path).elim (.ok t) t.makeDirectories
  match made with
  | .error e => (.error e, t)
  | .ok t =>
    match t.write path body.toUTF8 FileTree.privateMode with
    | .ok t => (.ok (), t)
    | .error e => (.error e, t)

end Testbed.Hook
