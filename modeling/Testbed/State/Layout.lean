import Testbed.Files.Path

/-!
# Where state is kept

Every environment has a directory of its own under one root, with its state document and the lock
that keeps two sessions from driving it at once.
-/

namespace Testbed

/-- The directory under which the directories of the environments lie. -/
structure Layout where
  /-- The path of that directory. -/
  root : String
  deriving DecidableEq

namespace Layout

/-- The name of the state document in an environment's directory. -/
def stateFileName : String := "state.json"

/-- The layout that belongs to a configuration file: a hidden directory beside it. -/
def besideConfig (configPath : String) : Layout :=
  ⟨Path.join ((Path.directory? configPath).getD ".") ".kubetester"⟩

/-- The directory of an environment. -/
def directory (l : Layout) (name : String) : String := Path.join l.root name

/-- The state document of an environment. -/
def stateFile (l : Layout) (name : String) : String := Path.join (l.directory name) stateFileName

/-- The lock of an environment. -/
def lockFile (l : Layout) (name : String) : String := Path.join (l.directory name) ".lock"

end Layout

end Testbed
