import Testbed.Config.Basic
import Testbed.Files.Error
import Testbed.Schema.Misfit
import Testbed.Text.Blank

/-!
# Faults of a configuration

`Config.validate` names the first fault of a configuration: its version, its name, its region,
its add-ons in name order, its node groups in order, its hooks.
-/

namespace Testbed

/-- Why a configuration cannot be used. -/
inductive ConfigError
  /-- Its file cannot be read. -/
  | file (e : FileError)
  /-- Its text is not a document of the format. -/
  | notToml
  /-- A value in it does not fit. -/
  | misfit (m : Schema.Misfit)
  | unsupportedVersion (version : Nat)
  | invalidName (name : String)
  | emptyRegion
  | unknownAddOn (name : String)
  | duplicateNodeGroup (name : String)
  | missingHookOutput (point : HookPoint)
  | emptyNamespace (addOn : String)
  deriving DecidableEq

/-- The text of a configuration error. -/
def ConfigError.message : ConfigError → String
  | file e => s!"failed to read config file: {e.message}"
  | notToml => "failed to parse config: not a TOML document"
  | misfit m => s!"failed to parse config: {m.message}"
  | unsupportedVersion v => s!"unsupported config_version: {v}, expected {configVersion}"
  | invalidName name =>
    s!"invalid environment name '{name}': must be 1-100 characters of [a-zA-Z0-9-]"
  | emptyRegion => "region must not be empty"
  | unknownAddOn name => s!"unknown add-on '{name}'"
  | duplicateNodeGroup name => s!"duplicate node group name '{name}'"
  | missingHookOutput point => s!"hook '{point.name}' has a command but no output path"
  | emptyNamespace addOn => s!"add-on '{addOn}' declares an empty namespace"

namespace Config

/-- The characters of environment names. -/
def isNameChar (c : Char) : Bool := c.isAlphanum || c = '-'

/-- Whether a text names an environment: 1 to 100 letters, digits and hyphens. -/
def validName (name : String) : Bool :=
  let cs := name.toList
  1 ≤ cs.length && cs.length ≤ 100 && cs.all isNameChar

/-- The fault of one add-on. -/
def addOnFault? (entry : String × AddOnSection) : Option ConfigError :=
  if (AddOnKind.ofName? entry.1).isNone then some (.unknownAddOn entry.1)
  else if entry.2.nameSpace.any Text.allBlank then some (.emptyNamespace entry.1)
  else none

/-- The first name that repeats an earlier one. -/
def firstRepeat? (seen : List String) : List String → Option String
  | [] => none
  | name :: rest => if name ∈ seen then some name else firstRepeat? (name :: seen) rest

/-- All node groups, the unmanaged before the managed. -/
def allGroups (c : Config) : List NodeGroup := c.nodeGroups.groups ++ c.managedNodeGroups.groups

/-- Whether a hook has a command but no file for its output. -/
def lacksOutput (h : HooksSection) (p : HookPoint) : Bool :=
  (p.command h).isSome && (p.output h).isNone

/-- The first fault of a configuration. -/
def fault? (c : Config) : Option ConfigError :=
  if c.version ≠ configVersion then some (.unsupportedVersion c.version)
  else if !validName c.name then some (.invalidName c.name)
  else if Text.allBlank c.region then some .emptyRegion
  else (c.addOns.entries.findSome? addOnFault?) <|>
    ((firstRepeat? [] (c.allGroups.map (·.name))).map .duplicateNodeGroup) <|>
    ((HookPoint.all.find? (lacksOutput c.hooks)).map .missingHookOutput)

/-- Accept a configuration without fault. -/
def validate (c : Config) : Except ConfigError Unit :=
  match c.fault? with
  | some e => .error e
  | none => .ok ()

end Config

end Testbed
