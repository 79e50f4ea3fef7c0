import Testbed.Lock
import Testbed.Provider.Tools
import Testbed.Saga.Error

/-!
# Failures of commands

A command that fails reports one message. The exit code is read off the message's first words, so
that whoever sees only the report comes to the same code.
-/

namespace Testbed.Cli

/-- Why a command failed. -/
inductive Failure
  | config (e : ConfigError)
  | store (e : StoreError)
  | lock (e : LockError)
  | saga (e : SagaError)
  | provider (e : ProviderError)
  | missingTools (tools : List MissingTool)
  /-- The configuration file exists already. -/
  | wouldOverwrite (path : String)
  /-- No new file could be written in a directory. -/
  | temporary (directory : String) (e : FileError)
  /-- The new file could not be brought to the device. -/
  | flush (e : FileError)
  /-- The new file could not take its place. -/
  | replace (e : FileError)
  /-- The directory of the manual could not be made. -/
  | pageDirectory (e : FileError)
  /-- A page of the manual could not be written. -/
  | page (path : String) (e : FileError)
  deriving DecidableEq

/-- The message of a failure. -/
def Failure.message : Failure → String
  | config e => s!"config error: {e.message}"
  | store e => e.text
  | lock e => s!"state lock: {e.message}"
  | saga e => e.message
  | provider e => e.message
  | missingTools tools => MissingTool.report tools
  | wouldOverwrite path => s!"refusing to overwrite existing {path} (pass --force)"
  | temporary directory e => s!"write temp file: {e.message} at path \"{directory}\""
  | flush e => s!"fsync temp file: {e.message}"
  | replace e => s!"persist config: {e.message}"
  | pageDirectory e => s!"failed to create dir: {e.message}"
  | page path e => s!"failed to write {path}: {e.message}"

/-! ## Exit codes -/

/-- The kinds of failure that an exit code tells apart. -/
inductive FailureKind
  | configuration
  /-- The state document or its lock. -/
  | state
  /-- The stop signal ended a saga. -/
  | interruption
  | other
  deriving DecidableEq

/-- The exit code of a kind of failure. -/
def FailureKind.exitCode : FailureKind → Nat
  | configuration => 2
  | state => 3
  | interruption => 4
  | other => 1

/-- The kind of a failure. -/
def Failure.kind : Failure → FailureKind
  | config _ | saga (.config _) => .configuration
  | store _ | lock _ | saga (.store _) => .state
  | saga (.interrupted ..) => .interruption
  | _ => .other

/-- Whether a message begins with some words. -/
def beginsWith (message words : String) : Bool := words.toList.isPrefixOf message.toList

/-- The kind of failure that a message tells of, by its first words. -/
def FailureKind.ofMessage (message : String) : FailureKind :=
  if beginsWith message "config error:" then configuration
  else if beginsWith message "state store error:" || beginsWith message "state lock:" then state
  else if beginsWith message "interrupted" then interruption
  else other

/-- The exit code that goes with a message. -/
def exitCodeOf (message : String) : Nat := (FailureKind.ofMessage message).exitCode

end Testbed.Cli
