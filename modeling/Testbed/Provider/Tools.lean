/-!
# Installed tools

Commands can only run if the shell and the tools that the configuration lists are installed.
-/

namespace Testbed

/-- A tool that is needed and not installed. -/
structure MissingTool where
  name : String
  /-- What it is needed for. -/
  purpose : String
  deriving DecidableEq

namespace MissingTool

/-- The tools, the shell first, that are not installed. -/
def among (installed : String → Bool) (required : List String) : List MissingTool :=
  let shell := MissingTool.mk "sh" "running provisioning commands and hooks"
  let tools := required.map fun name => MissingTool.mk name "listed in provider.required_tools"
  (shell :: tools).filter fun m => !installed m.name

/-- What to tell about missing tools. -/
def report (missing : List MissingTool) : String :=
  "missing prerequisites:\n"
  ++ String.join (missing.map fun m => s!"  - {m.name}: {m.purpose}\n")
  ++ "\ninstall them or run with --provider mock for a dry run."

end MissingTool

end Testbed
