import Testbed.Files.Tree
import Testbed.Shell.Printing
import Testbed.Shell.Syntax

/-!
# The machine that scripts run on

A shell has variables and descriptors; around it are the files, a clock that only sleeping moves,
and channels that take output together with the time of each piece. Several processes never run
at once: each is carried out on its own from the time at which it starts, and output is put into
order afterwards.
-/

namespace Testbed.Shell

/-- What a descriptor leads to. -/
inductive Descriptor
  /-- A place that takes output. -/
  | channel (n : Nat)
  /-- A file that is appended to. -/
  | file (place : Place)
  /-- A place that gives input. -/
  | source (n : Nat)
  /-- Takes everything and gives nothing. -/
  | null
  deriving DecidableEq

/-- The channel of what a script puts out. -/
def outChannel : Nat := 0

/-- The channel of what a script complains about. -/
def errChannel : Nat := 1

/-- Input that has not been read, and the time from which it is there. -/
structure Source where
  rest : List UInt8
  ready : Nat := 0

/-- What belongs to one shell and is copied when it forks. -/
structure Process where
  /-- The number of the shell. -/
  number : Nat := 1000
  bindings : List (String × String) := []
  /-- The variables that programs see. -/
  exported : List String := []
  /-- The variables that cannot be changed. -/
  fixed : List String := []
  functions : List (String × Command) := []
  /-- What is done on a signal, by its number; zero is the end of the shell. -/
  traps : List (Nat × String) := []
  /-- The letters of the options that are on. -/
  options : List Char := []
  descriptors : List (Nat × Descriptor) :=
    [(0, .null), (1, .channel outChannel), (2, .channel errChannel)]
  /-- The status of the last command. -/
  status : Nat := 0
  /-- The line of the current command. -/
  line : Nat := 1
  /-- The arguments of the script or function. -/
  arguments : List String := []
  /-- What `$0` stands for. -/
  scriptName : String := "sh"
  /-- The values that the variables of the function under way had before; none outside of
  functions. -/
  hidden : Option (List (String × Option String)) := none
  /-- The number of loops under way. -/
  loops : Nat := 0
  /-- Whether a failure is being looked for, so that it does not end the shell. -/
  tested : Bool := false
  /-- The number of the last process in the background. -/
  job : Option Nat := none

/-- Why a script does not go on. -/
inductive Halt
  | exit
  /-- The function or script under way has returned. -/
  | returned
  /-- A signal ended the shell of a number. -/
  | signalled (shell signal : Nat)
  /-- It has run for too long. -/
  | expired
  /-- So many loops are left. -/
  | leave (loops : Nat)
  /-- The loop after so many goes on with its next round. -/
  | again (loops : Nat)
  deriving DecidableEq

/-- A process in the background. -/
structure Job where
  number : Nat
  /-- When it ends. -/
  finish : Nat
  status : Nat
  /-- The channels that it keeps open. -/
  channels : List Nat

/-- Everything that a script works on. -/
structure Machine where
  files : FileTree
  /-- The time in milliseconds. -/
  clock : Nat := 0
  /-- The time after which the script is killed. -/
  limit : Option Nat := none
  /-- The output with its times and channels, last first. -/
  log : List (Nat × Nat × List UInt8) := []
  /-- The number of channels so far. -/
  channels : Nat := 2
  sources : List Source := []
  /-- The processes in the background. -/
  jobs : List Job := []
  /-- The number that the next process gets. -/
  nextNumber : Nat := 1001
  process : Process := {}

/-- Something that a script does. -/
abbrev Run := ExceptT Halt (StateM Machine)

namespace Machine

/-- What a channel has taken, in the order of time. -/
def output (m : Machine) (channel : Nat) : List UInt8 :=
  let pieces := m.log.reverse.filter fun e => e.2.1 = channel
  (pieces.mergeSort fun a b => a.1 ≤ b.1).flatMap fun e => e.2.2

/-- The time until which a channel is kept open. -/
def heldUntil (m : Machine) (channel : Nat) : Nat :=
  (m.jobs.filter fun j => j.channels.contains channel).foldl (fun t j => max t j.finish) m.clock

/-- What a descriptor leads to. -/
def descriptor? (m : Machine) (n : Nat) : Option Descriptor := m.process.descriptors.lookup n

/-- The value of a variable. -/
def setting? (m : Machine) (name : String) : Option String := m.process.bindings.lookup name

end Machine

/-! ## Processes -/

/-- Change what belongs to the shell. -/
def setProcess (f : Process → Process) : Run Unit :=
  modify fun m => { m with process := f m.process }

/-- Set the status. -/
def setStatus (n : Nat) : Run Unit := setProcess fun p => { p with status := n }

/-- Set a variable. -/
def setVariable (name value : String) : Run Unit :=
  setProcess fun p =>
    { p with bindings := (name, value) :: p.bindings.filter fun v => v.1 ≠ name }

/-- A number that no process has had. -/
def newNumber : Run Nat := do
  let n := (← get).nextNumber
  modify fun m => { m with nextNumber := n + 1 }
  pure n

/-- Remove a variable. -/
def unsetVariable (name : String) : Run Unit :=
  setProcess fun p => { p with bindings := p.bindings.filter fun v => v.1 ≠ name }

/-- Let a descriptor lead elsewhere, or close it. -/
def setDescriptor (n : Nat) (d : Option Descriptor) : Run Unit :=
  setProcess fun p =>
    let others := p.descriptors.filter fun e => e.1 ≠ n
    { p with descriptors := d.elim others fun d => (n, d) :: others }

/-- Do something and say what came of it. -/
def attempt {α : Type} (body : Run α) : Run (Except Halt α) :=
  tryCatch (do pure (.ok (← body))) fun h => pure (.error h)

/-- Go on with what came of something. -/
def resume {α : Type} (outcome : Except Halt α) : Run α := ExceptT.mk (pure outcome)

/-- Do something and say what kept it from going on. -/
def observe (body : Run Unit) : Run (Option Halt) := do
  match ← attempt body with
  | .ok () => pure none
  | .error h => pure (some h)

/-- Do something in a copy of the shell, which does on a signal only what is nothing; gives the
status. What ends the whole script is passed on. -/
def forked (body : Run Unit) : Run Nat := do
  let before ← get
  setProcess fun p => { p with traps := p.traps.filter fun t => t.2.isEmpty }
  let halt ← observe body
  let status := (← get).process.status
  modify fun m =>
    { m with process := before.process, files := { m.files with current := before.files.current } }
  match halt with
  | some (.signalled shell n) => throw (.signalled shell n)
  | some .expired => throw .expired
  | _ => pure status

/-! ## Time -/

/-- Let time pass up to a moment. -/
def waitUntil (t : Nat) : Run Unit := do
  modify fun m => { m with clock := max m.clock t }
  let m ← get
  if m.limit.any fun l => l < m.clock then throw .expired

/-- Let so many milliseconds pass. -/
def sleep (ms : Nat) : Run Unit := do waitUntil ((← get).clock + ms)

/-! ## Input and output -/

/-- Write to a descriptor; says whether that was possible. -/
def write (n : Nat) (bytes : List UInt8) : Run Bool := do
  let m ← get
  match m.descriptor? n with
  | some (.channel c) =>
    set { m with log := (m.clock, c, bytes) :: m.log }
    pure true
  | some (.file p) =>
    match m.files.get? p with
    | some (.file old _) =>
      set { m with files := m.files.fill p (old ++ ByteArray.mk bytes.toArray) }
    | _ => pure ()
    pure true
  | some .null => pure true
  | some (.source _) | none => pure false

/-- Read everything that a descriptor gives. -/
def readAll (n : Nat) : Run (List UInt8) := do
  let m ← get
  match m.descriptor? n with
  | some (.source k) =>
    match m.sources[k]? with
    | some s =>
      set { m with sources := m.sources.set k { s with rest := [] } }
      waitUntil s.ready
      pure s.rest
    | none => pure []
  | _ => pure []

/-- Read one line without its end; the flag says that it had one. -/
def readLine (n : Nat) : Run (List UInt8 × Bool) := do
  let m ← get
  match m.descriptor? n with
  | some (.source k) =>
    match m.sources[k]? with
    | some s =>
      let (line, rest) := s.rest.span (· ≠ 10)
      set { m with sources := m.sources.set k { s with rest := rest.drop 1 } }
      waitUntil s.ready
      pure (line, !rest.isEmpty)
    | none => pure ([], false)
  | _ => pure ([], false)

/-- Provide input. -/
def newSource (rest : List UInt8) (ready : Nat) : Run Descriptor := do
  let m ← get
  set { m with sources := m.sources ++ [Source.mk rest ready] }
  pure (.source m.sources.length)

/-- Open a channel. -/
def newChannel : Run Nat := do
  let m ← get
  set { m with channels := m.channels + 1 }
  pure m.channels

/-- Complain. -/
def complain (text : String) : Run Unit := do
  let _ ← write 2 (bytesOf s!"sh: {(← get).process.line}: {text}\n")

/-- Complain and end with a status. -/
def fail (text : String) (status : Nat) : Run Unit := do
  complain text
  setStatus status

/-- Complain and end the shell. -/
def abort {α : Type} (text : String) : Run α := do
  fail text 2
  throw .exit

/-- Set a variable that may be fixed. -/
def assign (name value : String) : Run Unit := do
  if (← get).process.fixed.contains name then abort s!"{name}: is read only"
  else setVariable name value

/-! ## Redirections -/

/-- The descriptor that a path stands for. -/
def deviceDescriptor? (path : String) : Option Nat :=
  match path with
  | "/dev/stdin" => some 0
  | "/dev/stdout" => some 1
  | "/dev/stderr" => some 2
  | path => if path.startsWith "/dev/fd/" then (path.drop 8).toNat? else none

/-- How many bytes of an endless device are there to be read. -/
def deviceBytes : Nat := 0x40000

/-- The bytes of a file or device. -/
def Machine.read (m : Machine) (path : String) : Except FileError (List UInt8) :=
  if path = "/dev/zero" then .ok (List.replicate deviceBytes 0)
  else (m.files.read path).map (·.toList)

/-- Carry out a redirection to a target; says whether that was possible. -/
def redirect (n : Nat) (kind : RedirectKind) (target : String) : Run Bool := do
  let m ← get
  let create (append : Bool) : Run Bool := do
    match m.files.openFile target FileTree.publicMode with
    | .ok (files, p) =>
      set { m with files := if append then files else files.fill p .empty }
      setDescriptor n (some (.file p))
      pure true
    | .error e =>
      let why := match e with
        | .notFound => "Directory nonexistent"
        | .isDirectory => "Is a directory"
        | .notDirectory => "Directory nonexistent"
        | e => e.message
      fail s!"cannot create {target}: {why}" 2
      pure false
  let copy (source : Option Descriptor) : Run Bool := do
    match source with
    | some d =>
      setDescriptor n (some d)
      pure true
    | none =>
      fail s!"{target}: Bad file descriptor" 2
      pure false
  match kind, (deviceDescriptor? target).bind m.descriptor? with
  | .write, some d | .append, some d | .read, some d => copy (some d)
  | .write, none => create false
  | .append, none => create true
  | .read, none =>
    match m.read target with
    | .ok b =>
      setDescriptor n (some (← newSource b 0))
      pure true
    | .error _ =>
      fail s!"cannot open {target}: No such file" 2
      pure false
  | .document, _ =>
    setDescriptor n (some (← newSource (bytesOf target) 0))
    pure true
  | .duplicate, _ =>
    if target = "-" then
      setDescriptor n none
      pure true
    else copy (target.toNat?.bind m.descriptor?)

end Testbed.Shell
