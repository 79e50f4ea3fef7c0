import Testbed.Shell.Builtin

/-!
# Running scripts

Words are expanded, programs looked up and commands carried out. Scripts may hold scripts; the
bound of the recursion is the depth of that nesting, and a loop makes at most `rounds` rounds.
-/

namespace Testbed.Shell

/-- How many rounds a loop makes before it counts as endless. -/
def rounds : Nat := 100000

/-- How deep commands and scripts may be nested. -/
def depth : Nat := 4000

/-! ## Processes -/

/-- The descriptors that lead to channels. -/
def openChannels : Run (List Nat) := do
  pure ((← get).process.descriptors.filterMap fun e =>
    match e.2 with
    | .channel c => some c
    | _ => none)

/-- Carry out one round of a loop; says whether the loop goes on. -/
def round (body : Run Unit) : Run Bool := do
  let before := (← get).process.loops
  setProcess fun p => { p with loops := before + 1 }
  let halt ← observe body
  setProcess fun p => { p with loops := before }
  match halt with
  | none => pure true
  | some (.leave n) => if n ≤ 1 then pure false else throw (.leave (n - 1))
  | some (.again n) => if n ≤ 1 then pure true else throw (.again (n - 1))
  | some h => throw h

/-- Look for a failure that is not to end the shell. -/
def tested (body : Run Unit) : Run Unit := do
  let before := (← get).process.tested
  setProcess fun p => { p with tested := true }
  let outcome ← attempt body
  setProcess fun p => { p with tested := before }
  resume outcome

/-- End the shell on a failure, if that is asked for. -/
def checkFailure : Run Unit := do
  let p := (← get).process
  if p.status ≠ 0 && p.options.contains 'e' && !p.tested then throw .exit

/-- Show a command before it is carried out, if that is asked for. -/
def trace (texts : List String) : Run Unit := do
  if (← get).process.options.contains 'x' && !texts.isEmpty then
    let _ ← write 2 (bytesOf ("+ " ++ " ".intercalate texts ++ "\n"))

/-- The status of a process that a signal ended, which the shell tells. -/
def signalStatus (n : Nat) : Run Nat := do
  unless Signal.quiet.contains n do report (Signal.description n)
  pure (128 + n)

/-- Run something as a new shell, which takes over the variables that programs see. -/
def newShell (body : Run Unit) : Run Nat := do
  let number ← newNumber
  let fresh (p : Process) : Process :=
    { number := number
      bindings := p.bindings.filter fun v => p.exported.contains v.1
      exported := p.exported
      traps := p.traps.filter fun t => t.2.isEmpty
      descriptors := p.descriptors }
  let before := (← get).process
  let halt ← observe do
    setStatus (← forked do
      setProcess fresh
      body)
  match halt with
  | some (.signalled shell n) =>
    if shell = number then
      setProcess fun _ => before
      signalStatus n
    else throw (.signalled shell n)
  | some h => throw h
  | none =>
    let status := (← get).process.status
    pure status

/-- Give a shell something to do on signals. -/
def setTraps (action : Option String) (names : List String) : Run Nat := do
  let mut status := 0
  for name in names do
    match (if name = "EXIT" then some 0 else Signal.ofText? name) with
    | none =>
      report s!"trap: {name}: bad trap"
      status := 1
    | some n =>
      setProcess fun p =>
        let others := p.traps.filter fun t => t.1 ≠ n
        { p with traps := (action.map fun a => (n, a)).toList ++ others }
  pure status

/-! ## Words, redirections and commands -/

mutual

/-- The value of a name that is asked for; without one the shell may have to end. -/
def need : Nat → String → Run String
  | 0, _ => throw .expired
  | _ + 1, name => do
    let m ← get
    match valueOf? name m with
    | some v => pure v
    | none =>
      if m.process.options.contains 'u' && !alwaysSet.contains name then
        abort s!"{name}: parameter not set"
      else pure ""

/-- Expand a part of a word. -/
def expandPart : Nat → Part → Run (List Piece)
  | 0, _ => throw .expired
  | _ + 1, .text quoted s => pure [if quoted then .quoted s else .literal s]
  | n + 1, .value quoted name modifier => do
    let piece (s : String) : Piece := if quoted then .quoted s else .divided s
    let value := valueOf? name (← get)
    let has (emptyToo : Bool) : Bool := value.any fun v => !(emptyToo && v.isEmpty)
    match modifier with
    | .plain =>
      let arguments := (← get).process.arguments
      if name = "@" then pure (argumentPieces quoted arguments)
      else if name = "*" && !quoted then pure (argumentPieces false arguments)
      else pure [piece (← need n name)]
    | .length => pure [piece (toString (← need n name).length)]
    | .fallback e w =>
      if has e then pure [piece (value.getD "")]
      else expandParts n (modifierWord quoted w)
    | .alternative e w =>
      if has e then expandParts n (modifierWord quoted w) else pure [piece ""]
    | .assign e w =>
      if has e then pure [piece (value.getD "")]
      else
        let s := joined (← expandParts n (modifierWord quoted w))
        assign name s
        pure [piece s]
    | .demand e w =>
      if has e then pure [piece (value.getD "")]
      else
        let s := joined (← expandParts n (modifierWord quoted w))
        let usual := if e then "parameter not set or null" else "parameter not set"
        let said := if s.isEmpty then usual else s
        abort s!"{name}: {said}"
    | .trim atEnd longest w =>
      let v := (← need n name).toList
      let p := Glob.ofMarked (joinedMarked (← expandParts n (modifierWord false w)))
      let rest := if atEnd then Glob.trimEnd p longest v else Glob.trimStart p longest v
      pure [piece (String.ofList rest)]
    | .bad => abort "Bad substitution"
  | n + 1, .output quoted script => do
    let c ← newChannel
    let status ← forked do
      setDescriptor 1 (some (.channel c))
      runShell n script
    setStatus status
    let text := Text.lossy ⟨((← get).output c).toArray⟩
    let s := String.ofList (dropLineEnds (text.toList.filter (· ≠ '\x00')))
    pure [if quoted then .quoted s else .divided s]
  | n + 1, .arithmetic quoted e => do
    let text := joined (← expandParts n (modifierWord true e))
    let m ← get
    let number (name : String) : Except Arithmetic.Fault Int :=
      match valueOf? name m with
      | none | some "" => .ok 0
      | some s =>
        match Arithmetic.numberOf? s with
        | some k => .ok k
        | none => .error (.notANumber s)
    match Arithmetic.eval number text with
    | .ok (k, changes) =>
      for (name, v) in changes.reverse do assign name (toString v)
      let s := toString k
      pure [if quoted then .quoted s else .divided s]
    | .error f => abort (f.message text)

/-- Expand the parts of a word. -/
def expandParts : Nat → Word → Run (List Piece)
  | 0, _ => throw .expired
  | n + 1, w => do
    let mut pieces := []
    for p in w do pieces := pieces ++ (← expandPart n p)
    pure pieces

/-- Expand words to texts. -/
def expandWords : Nat → List Word → Run (List String)
  | 0, _ => throw .expired
  | n + 1, ws => do
    let mut texts := []
    for w in ws do
      if !(isArguments w && (← get).process.arguments.isEmpty) then
        let fields := fieldsOf (← expandParts n w)
        let m ← get
        let expand (f : Field) : List String :=
          if m.process.options.contains 'f' then [f.text] else f.expand m.files
        texts := texts ++ fields.flatMap expand
    pure texts

/-- Carry out redirections up to the first that fails; says whether none did. -/
def redirectAll : Nat → List Redirect → Run Bool
  | 0, _ => throw .expired
  | n + 1, rs => do
    for r in rs do
      let target := joined (← expandParts n r.target)
      unless ← redirect r.descriptor r.kind target do return false
    pure true

/-- Carry out a command with redirections for its time; says whether they were possible. -/
def redirected : Nat → List Redirect → Run Unit → Run Bool
  | 0, _, _ => throw .expired
  | n + 1, rs, body => do
    let before := (← get).process.descriptors
    let outcome ← attempt do
      let possible ← redirectAll n rs
      if possible then body
      pure possible
    setProcess fun p => { p with descriptors := before }
    resume outcome

/-- Do what is to be done on a signal; without that the signal ends the shell. -/
def takeSignal : Nat → Nat → Run Unit
  | 0, _ => throw .expired
  | n + 1, signal => do
    let p := (← get).process
    match p.traps.lookup signal with
    | some action =>
      if Signal.bareName signal = "KILL" then throw (.signalled p.number signal)
      else if !action.isEmpty then
        runScript n action
        setStatus p.status
    | none =>
      if Signal.ignored.contains signal then pure ()
      else if Signal.halting.contains signal then throw .expired
      else throw (.signalled p.number signal)

/-- Call a function. -/
def callFunction : Nat → Command → List String → Run Nat
  | 0, _, _ => throw .expired
  | n + 1, body, args => do
    let before := (← get).process
    setProcess fun p => { p with arguments := args, hidden := some [], loops := 0 }
    let halt ← observe (evaluate n body)
    for (name, value) in (← get).process.hidden.getD [] do
      match value with
      | some v => setVariable name v
      | none => unsetVariable name
    setProcess fun p =>
      { p with arguments := before.arguments, hidden := before.hidden, loops := before.loops }
    match halt with
    | none | some .returned => pure (← get).process.status
    | some h => throw h

/-- Run a command of a name that is part of the shell or a program. -/
def invoke : Nat → String → String → List String → Run Nat
  | 0, _, _, _ => throw .expired
  | n + 1, place, name, args => do
    match name, args with
    | "eval", args =>
      setStatus 0
      runScript n (" ".intercalate args)
      pure (← get).process.status
    | ".", [] => pure 0
    | ".", path :: _ =>
      if path.toList.contains '/' then
        match (← get).read path with
        | .ok b =>
          setStatus 0
          match ← observe (runScript n (String.ofList (charsOf b))) with
          | none | some .returned => pure (← get).process.status
          | some h => throw h
        | .error _ => abort s!".: cannot open {path}: No such file"
      else abort s!".: {path}: not found"
    | "command", "-v" :: names =>
      let found := names.filterMap (callPath? (← get).process)
      let _ ← putLines "command" found
      pure (if found.isEmpty then 127 else 0)
    | "command", c :: args => invoke n "" c args
    | "command", [] => pure 0
    | "type", names =>
      let told := names.map (describe (← get).process)
      let _ ← putLines "type" (told.map (·.1))
      pure (if told.all (·.2) then 0 else 127)
    | "exec", c :: args =>
      setStatus (← invoke n "exec: " c args)
      setProcess fun p => { p with traps := [] }
      throw .exit
    | "exec", [] => pure 0
    | "kill", "-l" :: args => listSignals args
    | "kill", [] =>
      complainAs "kill"
        "Usage: kill [-s sigspec | -signum | -sigspec] [pid | job]... or\nkill -l [exitstatus]" 2
    | "kill", args =>
      match killSignal args with
      | .error why => complainAs "kill" why 2
      | .ok (signal, targets) =>
        let (status, taken) ← sendSignal signal targets
        match taken with
        | some signal => takeSignal n signal
        | none => pure ()
        pure status
    | "wait", args => waitFor args
    | "trap", [] =>
      let shown := (← get).process.traps.map fun (k, action) =>
        let name := if k = 0 then "EXIT" else Signal.bareName k
        "trap -- '" ++ action ++ "' " ++ name
      putLines "trap" shown
    | "trap", args =>
      let args := if args.head? = some "--" then args.drop 1 else args
      match args with
      | "-" :: names => setTraps none names
      | [name] => setTraps none [name]
      | action :: names => setTraps (some action) names
      | [] => pure 0
    | "sh", "-c" :: script :: args =>
      newShell do
        setProcess fun p =>
          { p with arguments := args.drop 1, scriptName := (args.head?).getD "sh" }
        runShell n script
    | "sh", path :: args =>
      match (← get).read path with
      | .ok b =>
        newShell do
          setProcess fun p => { p with arguments := args, scriptName := path }
          runShell n (String.ofList (charsOf b))
      | .error _ =>
        report s!"sh: 0: cannot open {path}: No such file"
        pure 2
    | "sh", [] =>
      let bytes ← readAll 0
      newShell (runShell n (String.ofList (charsOf bytes)))
    | "env", args =>
      let settings := args.takeWhile fun a => a.toList.contains '='
      match args.drop settings.length with
      | [] => external place "env" []
      | c :: rest =>
        forked do
          for a in settings do
            let (name, value) := splitAssignment a
            setVariable name (value.getD "")
            setProcess fun p => { p with exported := name :: p.exported }
          setStatus (← invoke n "env: " c rest)
    | name, args =>
      match builtin? name args with
      | some run => run
      | none => external place name args

/-- Call a command of a name: a function before what is part of the shell, except for what is
special. -/
def call : Nat → String → List String → Run Nat
  | 0, _, _ => throw .expired
  | n + 1, name, args => do
    match (← get).process.functions.lookup name with
    | some body =>
      if specialCommands.contains name then invoke n "" name args else callFunction n body args
    | none => invoke n "" name args

/-- Carry out a command; its status is kept. -/
def evaluate : Nat → Command → Run Unit
  | 0, _ => throw .expired
  | _ + 1, .nothing => setStatus 0
  | n + 1, .simple line assignments words redirects => do
    setProcess fun p => { p with line := line }
    let last := (← get).process.status
    let texts ← expandWords n words
    setStatus 0
    let mut values := []
    for a in assignments do
      values := values ++ [(a.1, joined (← expandParts n a.2))]
    let expanded := (← get).process.status
    setStatus (if words.isEmpty then expanded else last)
    trace (values.map (fun v => s!"{v.1}={v.2}") ++ texts)
    match texts with
    | [] =>
      for v in values do assign v.1 v.2
      let status := if words.isEmpty then expanded else 0
      let _ ← redirected n redirects (setStatus status)
    | ["exec"] =>
      if ← redirectAll n redirects then setStatus 0 else throw .exit
    | name :: args =>
      let before := (← get).process
      for v in values do
        assign v.1 v.2
        setProcess fun p => { p with exported := v.1 :: p.exported }
      let outcome ← attempt (redirected n redirects do setStatus (← call n name args))
      unless values.isEmpty || specialCommands.contains name do
        setProcess fun p => { p with bindings := before.bindings, exported := before.exported }
      let possible ← resume outcome
      if !possible && specialCommands.contains name then throw .exit
    checkFailure
  | n + 1, .redirected c redirects => do
    let _ ← redirected n redirects (evaluate n c)
  | n + 1, .pipe a b => do
    let start := (← get).clock
    let c ← newChannel
    let _ ← forked do
      setDescriptor 1 (some (.channel c))
      inShell n (evaluate n a)
    let m ← get
    let input ← newSource (m.output c) m.clock
    modify fun m => { m with clock := start }
    let status ← forked do
      setDescriptor 0 (some input)
      inShell n (evaluate n b)
    waitUntil m.clock
    setStatus status
    checkFailure
  | n + 1, .negate c => do
    tested (evaluate n c)
    setStatus (if (← get).process.status = 0 then 1 else 0)
  | n + 1, .both a b => do
    tested (evaluate n a)
    if (← get).process.status = 0 then evaluate n b
  | n + 1, .either a b => do
    tested (evaluate n a)
    if (← get).process.status ≠ 0 then evaluate n b
  | n + 1, .sequence a b => do
    evaluate n a
    evaluate n b
  | n + 1, .background c => do
    let start ← get
    let number ← newNumber
    modify fun m => { m with limit := none }
    let channels := do
      let (rs, c) := match c with
        | .redirected c rs => (rs, c)
        | .simple l as ws rs => (rs, .simple l as ws [])
        | c => ([], c)
      setDescriptor 0 (some .null)
      if ← redirectAll n rs then
        let held ← openChannels
        let outcome ← attempt (inShell n (evaluate n c))
        modify fun m =>
          { m with jobs := ⟨number, m.clock, m.process.status, held⟩ :: m.jobs }
        resume outcome
    let _ ← forked channels
    modify fun m => { m with clock := start.clock, limit := start.limit }
    setProcess fun p => { p with status := 0, job := some number }
  | n + 1, .subshell c => do
    setStatus (← forked (inShell n (evaluate n c)))
    checkFailure
  | n + 1, .choose condition yes no => do
    tested (evaluate n condition)
    if (← get).process.status = 0 then evaluate n yes else evaluate n no
  | n + 1, .loop untilTrue condition body => do
    let mut status := 0
    for _ in [0:rounds] do
      tested (evaluate n condition)
      if ((← get).process.status = 0) = untilTrue then
        setStatus status
        return
      if !(← round (evaluate n body)) then return
      status := (← get).process.status
    throw .expired
  | n + 1, .each name words body => do
    setStatus 0
    for v in ← expandWords n words do
      assign name v
      if !(← round (evaluate n body)) then return
  | n + 1, .select word branches => do
    let text := joined (← expandParts n word)
    setStatus 0
    selectFrom n text branches
  | _ + 1, .branch .. => setStatus 0
  | _ + 1, .define name body => do
    setProcess fun p =>
      { p with
        functions := (name, body) :: p.functions.filter (fun f => f.1 ≠ name)
        status := 0 }

/-- Carry out the first branch that a text fits. -/
def selectFrom : Nat → String → Command → Run Unit
  | 0, _, _ => throw .expired
  | n + 1, text, .branch patterns body others => do
    for w in patterns do
      let p := Glob.ofMarked (joinedMarked (← expandParts n w))
      if Glob.fits p text.toList then
        evaluate n body
        return
    selectFrom n text others
  | _ + 1, _, _ => pure ()

/-- Run something to the end of its shell, where that has something left to be done. -/
def inShell : Nat → Run Unit → Run Unit
  | 0, _ => throw .expired
  | n + 1, body => do
    let outcome ← attempt body
    let stopped : Bool := match outcome with
      | .error .expired | .error (.signalled ..) => true
      | _ => false
    let p := (← get).process
    match (if stopped then none else p.traps.lookup 0) with
    | none => resume outcome
    | some action =>
      setProcess fun p => { p with traps := p.traps.filter fun t => t.1 ≠ 0 }
      match ← observe (runScript n action) with
      | none => setStatus p.status
      | some .exit => pure ()
      | some h => throw h
      throw .exit

/-- Run a script as all that its shell does. -/
def runShell : Nat → String → Run Unit
  | 0, _ => throw .expired
  | n + 1, script => inShell n (runScript n script)

/-- Run a script. -/
def runScript : Nat → String → Run Unit
  | 0, _ => throw .expired
  | n + 1, script => do
    let (commands, fault) := parse script
    for c in commands do evaluate n c
    match fault with
    | some f =>
      setProcess fun p => { p with line := f.line }
      abort s!"Syntax error: {f.text}"
    | none => pure ()

end

end Testbed.Shell
