import Testbed.Provider.Basic
import Testbed.Shell.Run

/-!
# Commands with a time limit

A command is a script that runs with empty input, and both of its outputs are kept. Every few
milliseconds somebody looks whether it has ended; if it has not when its time is over, it is
killed. Its outputs must be closed by then too: a process in the background that keeps one open
counts against the limit.
-/

namespace Testbed.Shell

/-- How often somebody looks whether a command has ended, in milliseconds. -/
def pollInterval : Nat := 50

/-- The first look at or after a moment. -/
def nextPoll (t : Nat) : Nat := (t + pollInterval - 1) / pollInterval * pollInterval

/-- The status of a command in words. -/
def statusText : Option Halt → Nat → String
  | some (.signalled _ n), _ => s!"signal: {n} ({Signal.name n})"
  | _, status => s!"exit status: {status}"

/-- The machine that a command starts on. -/
def startOn (files : FileTree) (environment : List (String × String)) (timeout : Nat) :
    Machine where
  files := files
  limit := some (nextPoll timeout)
  process := { bindings := environment, exported := environment.map (·.1) }

/-- What a command put out, if its outputs were closed in time. -/
def closedOutput? (m : Machine) (timeout : Nat) : Option (String × String) :=
  let last := max timeout (nextPoll m.clock)
  if last < m.heldUntil outChannel || last < m.heldUntil errChannel then none
  else some (Text.lossy ⟨(m.output outChannel).toArray⟩, Text.lossy ⟨(m.output errChannel).toArray⟩)

/-- Run a command for so many milliseconds at most. -/
def run (environment : List (String × String)) (command : String) (timeout : Nat)
    (files : FileTree) : Except ProviderError CommandOutput × FileTree :=
  if command.toList.contains '\x00' then
    (.error (.file (.device "nul byte found in provided data")), files)
  else
    let start : Run (Option Halt) := do
      let halt ← observe (runShell depth command)
      match halt with
      | some .expired => pure halt
      | _ =>
        waitUntil 1
        pure halt
    let (halt, m) := (observeAll start).run (startOn files environment timeout)
    let files := { m.files with current := files.current }
    let late : ProviderError := .timeout command (timeout / 1000)
    match halt with
    | some .expired => (.error late, files)
    | halt =>
      match closedOutput? m timeout with
      | none => (.error late, files)
      | some (out, err) =>
        let signalled := match halt with
          | some (.signalled ..) => true
          | _ => false
        let output : CommandOutput :=
          ⟨!signalled && m.process.status = 0, statusText halt m.process.status, out, err⟩
        (.ok output, files)
where
  /-- Run something to its end, whatever keeps it from going on. -/
  observeAll (r : Run (Option Halt)) : StateM Machine (Option Halt) := do
    match ← r.run with
    | .ok h => pure h
    | .error h => pure (some h)

end Testbed.Shell
