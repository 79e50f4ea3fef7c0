/-!
# What the command line takes

The program and each of its commands is a level of its own, with options and positional
arguments; the options of the program may be given at every level. `Param` lists all that can be
given, each once, and `Invocation` is what a well-formed command line asks for.
-/

namespace Testbed.Cli

/-- The program's name. -/
def programName : String := "kubetester"

/-- What `--version` tells. -/
def versionText : String := s!"{programName} 0.1.0"

/-! ## Shells -/

/-- The shells that completions can be made for. -/
inductive ShellName
  | bash | elvish | fish | powershell | zsh
  deriving DecidableEq

namespace ShellName

/-- All of them, in name order. -/
def all : List ShellName := [bash, elvish, fish, powershell, zsh]

/-- The name of a shell. -/
def name : ShellName → String
  | bash => "bash"
  | elvish => "elvish"
  | fish => "fish"
  | powershell => "powershell"
  | zsh => "zsh"

/-- The shell of that name. -/
def ofName? (s : String) : Option ShellName := all.find? fun k => k.name = s

end ShellName

/-! ## Parameters -/

/-- Which values a parameter takes. -/
inductive ValueRule
  | anyText
  /-- A path, which is never empty. -/
  | path
  | shell
  deriving DecidableEq

/-- Whether a value is taken. -/
def ValueRule.admits : ValueRule → String → Bool
  | anyText, _ => true
  | path, v => !v.isEmpty
  | shell, v => (ShellName.ofName? v).isSome

/-- Everything that can be given beside a command. -/
inductive Param
  | config | stateDirectory | provider | json | verbose | trace | help | version
  | region | force
  | environmentName | shell | directory
  deriving DecidableEq

namespace Param

/-- The word an option is given by, after two hyphens; none for a positional argument. -/
def long? : Param → Option String
  | config => some "config"
  | stateDirectory => some "state-dir"
  | provider => some "provider"
  | json => some "json"
  | verbose => some "verbose"
  | trace => some "trace"
  | help => some "help"
  | version => some "version"
  | region => some "region"
  | force => some "force"
  | environmentName | shell | directory => none

/-- The letter an option is given by, after one hyphen. -/
def short? : Param → Option Char
  | config => some 'c'
  | verbose => some 'v'
  | help => some 'h'
  | version => some 'V'
  | stateDirectory | provider | json | trace | region | force | environmentName | shell
  | directory => none

/-- What stands for a parameter's value, and which values it takes; none for a switch. -/
def value? : Param → Option (String × ValueRule)
  | config => some ("CONFIG", .path)
  | stateDirectory => some ("STATE_DIR", .path)
  | provider => some ("PROVIDER", .anyText)
  | region => some ("REGION", .anyText)
  | environmentName => some ("NAME", .anyText)
  | shell => some ("SHELL", .shell)
  | directory => some ("DIR", .path)
  | json | verbose | trace | help | version | force => none

/-- Whether a command line without it is refused. -/
def isRequired (p : Param) : Bool := p = environmentName || p = shell

/-- A parameter as messages show it. -/
def text (p : Param) : String :=
  let placeholder := p.value?.map fun v => if p = directory then s!"[{v.1}]" else s!"<{v.1}>"
  " ".intercalate ((p.long?.map fun w => s!"--{w}").toList ++ placeholder.toList)

/-- What a parameter is for. -/
def purpose : Param → String
  | config => "Path to the environment config file"
  | stateDirectory => "Directory holding state documents"
  | provider => "Override the provider named in the config"
  | json => "Output results as structured JSON"
  | verbose => "Enable verbose logging output"
  | trace => "Enable trace-level logging"
  | help => "Print help"
  | version => "Print version"
  | region => "Cloud region for the environment"
  | force => "Overwrite an existing config file"
  | environmentName => "Environment name"
  | shell => "Shell to generate completions for"
  | directory => "Output directory for man pages"

end Param

/-! ## Levels -/

/-- The commands by name. -/
inductive CommandName
  | init | validate | up | down | status | isUp | logs | completions | manPages
  /-- Tells about the program or a command. -/
  | help
  deriving DecidableEq

namespace CommandName

/-- All commands. -/
def all : List CommandName :=
  [init, validate, up, down, status, isUp, logs, completions, manPages, help]

/-- The word for a command. -/
def word : CommandName → String
  | init => "init"
  | validate => "validate"
  | up => "up"
  | down => "down"
  | status => "status"
  | isUp => "is-up"
  | logs => "logs"
  | completions => "completions"
  | manPages => "man-pages"
  | help => "help"

/-- The command of that word. -/
def ofWord? (s : String) : Option CommandName := all.find? fun c => c.word = s

/-- What a command does. -/
def purpose : CommandName → String
  | init => "Write a starter config file"
  | validate => "Parse and validate the config file"
  | up => "Provision the environment, resuming after whatever already exists"
  | down => "Delete everything recorded as created"
  | status => "Show the recorded state of the environment"
  | isUp => "Exit 0 if the environment is up and healthy, 1 otherwise"
  | logs => "Collect logs from the environment's node groups"
  | completions => "Generate shell completions"
  | manPages => "Generate man pages in the specified directory"
  | help => "Print help of the program or a command"

/-- The commands that do something. -/
def working : List CommandName := all.filter fun c => c ≠ help

end CommandName

/-- A level of the command line: the program itself, or a command. -/
inductive Level
  | program
  | command (c : CommandName)
  deriving DecidableEq

namespace Level

/-- The options that every level takes. -/
def sharedOptions : List Param :=
  [.config, .stateDirectory, .provider, .json, .verbose, .trace, .help]

/-- The options of a level. -/
def options : Level → List Param
  | program => sharedOptions ++ [.version]
  | command .init => [.region, .force] ++ sharedOptions
  | command _ => sharedOptions

/-- The positional arguments of a level, in order. -/
def positionals : Level → List Param
  | command .init => [.environmentName]
  | command .completions => [.shell]
  | command .manPages => [.directory]
  | _ => []

end Level

/-! ## Invocations -/

/-- What every command may be told. -/
structure Settings where
  /-- The path of the configuration. -/
  config : String := "kubetester.toml"
  /-- Where state is kept, if not beside the configuration. -/
  stateDirectory : Option String := none
  /-- The provider that replaces that of the configuration. -/
  provider : Option String := none
  /-- Whether results are written as JSON. -/
  json : Bool := false
  deriving DecidableEq

/-- What is to be done. -/
inductive Command
  | init (name region : String) (force : Bool)
  | validate
  | up
  | down
  | status
  | isUp
  | logs
  | completions (shell : ShellName)
  | manPages (directory : String)
  deriving DecidableEq

/-- A command with its settings. -/
structure Invocation where
  settings : Settings
  command : Command
  deriving DecidableEq

end Testbed.Cli
