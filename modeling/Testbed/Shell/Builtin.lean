import Testbed.Shell.Condition
import Testbed.Shell.Expansion
import Testbed.Shell.Parser
import Testbed.Shell.Signal
import Testbed.Shell.Tools

/-!
# What is part of the shell

The commands that a shell carries out itself and that need no other command. The special ones
among them end the shell when they are used wrongly.
-/

namespace Testbed.Shell

/-- The commands whose faults end the shell. -/
def specialCommands : List String :=
  [".", ":", "break", "continue", "eval", "exec", "exit", "export", "readonly", "return", "set",
   "shift", "times", "trap", "unset"]

/-- The commands that need other commands. -/
def nestingNames : List String := [".", "command", "eval", "exec", "trap", "wait"]

/-- Complain on behalf of a command; gives the status. -/
def complainAs (name text : String) (status : Nat) : Run Nat := do
  complain s!"{name}: {text}"
  pure status

/-! ## Directories -/

/-- Go to another directory. -/
def changeDirectory (path : String) : Run Nat := do
  let m ← get
  match m.files.locate path with
  | .ok p =>
    if m.files.isDirectoryAt p then
      set { m with files := { m.files with current := p } }
      pure 0
    else complainAs "cd" s!"can't cd to {path}" 2
  | .error _ => complainAs "cd" s!"can't cd to {path}" 2

/-! ## Processes -/

/-- End the processes in the background that have a number. -/
def endJobs (numbers : List Nat) (signal : Nat) : Run Unit :=
  modify fun m =>
    let ended (j : Job) : Job :=
      if numbers.contains j.number && m.clock < j.finish then
        { j with finish := m.clock, status := 128 + signal }
      else j
    { m with jobs := m.jobs.map ended }

/-- The signal that the first argument of `kill` names, and the arguments after it. -/
def killSignal (args : List String) : Except String (Nat × List String) :=
  match args with
  | "-s" :: name :: rest =>
    match Signal.ofText? name with
    | some n => .ok (n, rest)
    | none => .error s!"invalid signal number or name: {name}"
  | a :: rest =>
    match a.toList with
    | '-' :: c :: cs =>
      match Signal.ofText? (String.ofList (c :: cs)) with
      | some n => .ok (n, rest)
      | none => .error s!"Illegal option -{c}"
    | _ => .ok (15, a :: rest)
  | [] => .ok (15, [])

/-- Send a signal to processes; gives the signal, if the shell itself is to take it. -/
def sendSignal (signal : Nat) (targets : List String) : Run (Nat × Option Nat) := do
  let m ← get
  let mut status := 0
  let mut taken := none
  for target in targets do
    match target.toNat? with
    | none => status := (← complainAs "kill" s!"Illegal number: {target}" 2)
    | some n =>
      if n = m.process.number then taken := some signal
      else if m.jobs.any fun j => j.number = n then
        if signal ≠ 0 then endJobs [n] signal
      else if 1000 ≤ n && n < m.nextNumber then throw (.signalled n signal)
      else status := (← complainAs "kill" "No such process\n" 1)
  pure (status, taken)

/-- Name a signal, or all of them. -/
def listSignals (args : List String) : Run Nat := do
  match args with
  | [] => putLines "kill" ("0" :: Signal.names)
  | a :: _ =>
    match a.toNat? with
    | some n => putLines "kill" [Signal.bareName (n % 128)]
    | none => complainAs "kill" s!"Illegal number: {a}" 2

/-- The time at which the processes in the background have ended. -/
def Machine.jobsEnd (m : Machine) : Nat := m.jobs.foldl (fun t j => max t j.finish) 0

/-- Wait for processes in the background. -/
def waitFor (args : List String) : Run Nat := do
  match args with
  | [] =>
    waitUntil (← get).jobsEnd
    pure 0
  | args =>
    let mut status := 0
    for a in args do
      match (← get).jobs.find? fun j => some j.number = a.toNat? with
      | none => status := 127
      | some j =>
        waitUntil j.finish
        status := j.status
        if 128 < j.status && !Signal.quiet.contains (j.status - 128) then
          report (Signal.description (j.status - 128))
    pure status

/-! ## Variables -/

/-- The name and value that an argument sets. -/
def splitAssignment (a : String) : String × Option String :=
  let cs := a.toList
  match cs.dropWhile (· ≠ '=') with
  | _ :: value => (String.ofList (cs.takeWhile (· ≠ '=')), some (String.ofList value))
  | [] => (a, none)

/-- Set variables and say more about each of them. -/
def declare (command : String) (args : List String) (more : String → Run Unit) : Run Nat := do
  for a in args do
    let (name, value) := splitAssignment a
    if !isName name then abort s!"{command}: {name}: bad variable name"
    else
      match value with
      | some v => assign name v
      | none => pure ()
      more name
  pure 0

/-- Remember the value that a variable has, to restore it when the function returns. -/
def hide (name : String) : Run Unit := do
  let m ← get
  setProcess fun p =>
    { p with hidden := p.hidden.map fun h =>
        if h.any fun v => v.1 = name then h else (name, m.setting? name) :: h }

/-- Set variables of the function under way. -/
def declareLocal (args : List String) : Run Nat := do
  if (← get).process.hidden.isNone then abort "local: not in a function"
  else
    for a in args do
      let (name, value) := splitAssignment a
      hide name
      match value with
      | some v => assign name v
      | none => unsetVariable name
    pure 0

/-- Remove variables or functions. -/
def unset (args : List String) : Run Nat := do
  let (options, names) := Filter.options args
  for name in names do
    if options.contains 'f' then
      setProcess fun p => { p with functions := p.functions.filter fun f => f.1 ≠ name }
    else if !isName name then abort s!"unset: {name}: bad variable name"
    else if (← get).process.fixed.contains name then abort s!"unset: {name}: is read only"
    else unsetVariable name
  pure 0

/-- Set variables from the fields of a line; the last takes the rest. -/
def readInto (args : List String) : Run Nat := do
  let (options, names) := Filter.options args
  let (line, complete) ← readLine 0
  let raw := charsOf line
  let rec plain : List Char → List Char
    | '\\' :: c :: rest => c :: plain rest
    | '\\' :: [] => []
    | c :: rest => c :: plain rest
    | [] => []
  let text := if options.contains 'r' then raw else plain raw
  let trimmed := ((text.dropWhile isSeparator).reverse.dropWhile isSeparator).reverse
  let rec share : List String → List Char → Run Unit
    | [], _ => pure ()
    | [name], cs => assign name (String.ofList cs)
    | name :: names, cs => do
      assign name (String.ofList (cs.takeWhile fun c => !isSeparator c))
      share names ((cs.dropWhile fun c => !isSeparator c).dropWhile isSeparator)
  share names trimmed
  pure (if complete then 0 else 1)

/-! ## Options -/

/-- The options that have names. -/
def optionNames : List (String × Char) :=
  [("errexit", 'e'), ("nounset", 'u'), ("xtrace", 'x'), ("noglob", 'f'), ("noexec", 'n'),
   ("verbose", 'v'), ("allexport", 'a'), ("noclobber", 'C'), ("notify", 'b'), ("monitor", 'm')]

/-- Turn an option on or off. -/
def setOption (on : Bool) (c : Char) : Run Unit :=
  setProcess fun p =>
    let others := p.options.filter (· ≠ c)
    { p with options := if on then c :: others else others }

/-- Set options, and arguments if there are any. -/
def setOptions : List String → Run Nat
  | [] => pure 0
  | a :: rest => do
    let sign := a.toList.head?
    if a = "--" then
      setProcess fun p => { p with arguments := rest }
      pure 0
    else if (sign = some '-' || sign = some '+') && a.length ≠ 1 then
      let letters := a.toList.drop 1
      for c in letters do
        if c ≠ 'o' && !(optionNames.any fun o => o.2 = c) then
          abort s!"set: Illegal option -{c}"
        else if c ≠ 'o' then setOption (sign = some '-') c
      if letters.contains 'o' then
        match rest with
        | [] => pure 0
        | name :: rest =>
          match optionNames.lookup name with
          | some c =>
            setOption (sign = some '-') c
            setOptions rest
          | none => abort s!"set: Illegal option -o {name}"
      else setOptions rest
    else
      setProcess fun p => { p with arguments := a :: rest }
      pure 0

/-- The status that an argument asks for. -/
def statusOf (command : String) (args : List String) : Run Nat := do
  match args with
  | [] => pure (← get).process.status
  | a :: _ =>
    match a.toNat? with
    | some n =>
      if n < 0x80000000 then pure (n % 256) else abort s!"{command}: Illegal number: {a}"
    | none => abort s!"{command}: Illegal number: {a}"

/-- Leave so many loops as an argument names, or go on with the outermost of them; outside of
loops that is nothing. -/
def leaveLoops (args : List String) (halt : Nat → Halt) : Run Nat := do
  let asked := max 1 ((args.head?.bind (·.toNat?)).getD 1)
  match min asked (← get).process.loops with
  | 0 => pure 0
  | n => throw (halt n)

/-- Drop arguments. -/
def shift (args : List String) : Run Nat := do
  let n := (args.head?.bind (·.toNat?)).getD 1
  if (← get).process.arguments.length < n then abort "shift: can't shift that many"
  else
    setProcess fun p => { p with arguments := p.arguments.drop n }
    pure 0

/-! ## Printing and testing -/

/-- Print arguments in a format. -/
def printFormatted (args : List String) : Run Nat := do
  let args := if args.head? = some "--" then args.drop 1 else args
  match args with
  | [] => complainAs "printf" "usage: printf format [arg ...]" 2
  | formatText :: args =>
    let p := Printing.printf formatText args
    let status ← put "printf" p.out
    for c in p.complaints do complain s!"printf: {c}"
    pure (if p.wrong then 2 else if p.complaints.isEmpty then status else 1)

/-- Test a condition. -/
def testCondition (command : String) (args : List String) : Run Nat := do
  if command = "[" && args.getLast? ≠ some "]" then complainAs command "missing ]" 2
  else
    let words := if command = "[" then args.dropLast else args
    match Condition.eval (← get).files words with
    | .ok b => pure (if b then 0 else 1)
    | .error why => complainAs command why 2

/-! ## Commands by name -/

/-- A command that is part of the shell and needs no other command. -/
def builtin? (name : String) (args : List String) : Option (Run Nat) :=
  match name with
  | ":" | "true" | "ulimit" | "times" | "hash" | "alias" | "unalias" => some (pure 0)
  | "false" => some (pure 1)
  | "echo" => some (put "echo" (Printing.echo args))
  | "printf" => some (printFormatted args)
  | "test" | "[" => some (testCondition name args)
  | "exit" => some do
    setStatus (← statusOf "exit" args)
    throw .exit
  | "return" => some do
    setStatus (← statusOf "return" args)
    throw .returned
  | "cd" => some (match args with
    | [] => pure 0
    | path :: _ => changeDirectory path)
  | "pwd" => some do putLines "pwd" [FileTree.pathOf (← get).files.current]
  | "export" => some (declare "export" (args.filter (· ≠ "-p")) fun name =>
      setProcess fun p => { p with exported := name :: p.exported })
  | "readonly" => some (declare "readonly" args fun name =>
      setProcess fun p => { p with fixed := name :: p.fixed })
  | "local" => some (declareLocal args)
  | "unset" => some (unset args)
  | "set" => some (setOptions args)
  | "shift" => some (shift args)
  | "read" => some (readInto args)
  | "umask" => some (if args.isEmpty then putLines "umask" ["0022"] else pure 0)
  | "break" => some (leaveLoops args .leave)
  | "continue" => some (leaveLoops args .again)
  | _ => none

/-- Whether a name is that of a command that is part of the shell. -/
def isBuiltin (name : String) : Bool :=
  nestingNames.contains name || name = "kill" || name = "type" || (builtin? name []).isSome

/-- What a name stands for, in words, and whether it is known. -/
def describe (p : Process) (name : String) : String × Bool :=
  if keywords.contains name then (s!"{name} is a shell keyword", true)
  else if p.functions.any fun f => f.1 = name then (s!"{name} is a shell function", true)
  else if isBuiltin name then
    if specialCommands.contains name then (s!"{name} is a special shell builtin", true)
    else (s!"{name} is a shell builtin", true)
  else
    match programPath? name with
    | some path => (s!"{name} is {path}", true)
    | none => (s!"{name}: not found", false)

/-- How a name would be called. -/
def callPath? (p : Process) (name : String) : Option String :=
  if keywords.contains name || isBuiltin name || p.functions.any fun f => f.1 = name then some name
  else programPath? name

end Testbed.Shell
