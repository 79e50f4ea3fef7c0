import Testbed.Config.Reader
import Testbed.Files.Tree

/-!
# Configuration files

A configuration file is read, and accepted only if it has no fault.
-/

namespace Testbed.Config

/-- Read the configuration in a file and validate it. -/
def load (t : FileTree) (path : String) : Except ConfigError Config := do
  let text ← (t.readText path).mapError .file
  let c ← parse text
  c.validate
  .ok c

end Testbed.Config
