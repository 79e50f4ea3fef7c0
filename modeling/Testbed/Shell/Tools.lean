import Testbed.Shell.Filter
import Testbed.Shell.Installed
import Testbed.Shell.Machine

/-!
# Programs

The programs that scripts can call besides what is part of the shell: filters, programs that
change files or let time pass, and a few that answer questions. Each gives its status.
-/

namespace Testbed.Shell

/-! ## Complaints -/

/-- A failure with files in words. -/
def fileErrorText : FileError → String
  | .notFound => "No such file or directory"
  | .alreadyExists => "File exists"
  | .notDirectory => "Not a directory"
  | .isDirectory => "Is a directory"
  | .nameTooLong => "File name too long"
  | e => e.message

/-- Complain as a program does. -/
def report (text : String) : Run Unit := do
  let _ ← write 2 (bytesOf (text ++ "\n"))

/-- What a program says of a path that it cannot use. -/
def pathComplaint (program path : String) (e : FileError) : String :=
  let why := fileErrorText e
  match program with
  | "head" | "tail" => s!"{program}: cannot open '{path}' for reading: {why}"
  | "sort" => s!"sort: cannot read: {path}: {why}"
  | "ls" => s!"ls: cannot access '{path}': {why}"
  | "mkdir" => s!"mkdir: cannot create directory '{path}': {why}"
  | "rm" => s!"rm: cannot remove '{path}': {why}"
  | "rmdir" => s!"rmdir: failed to remove '{path}': {why}"
  | "touch" => s!"touch: cannot touch '{path}': {why}"
  | "cp" | "mv" => s!"{program}: cannot stat '{path}': {why}"
  | _ => s!"{program}: {path}: {why}"

/-- Complain of an argument and point to the help. -/
def complainOfUsage (program text : String) : Run Nat := do
  report s!"{program}: {text}"
  report s!"Try '{program} --help' for more information."
  pure 1

/-! ## Input and output -/

/-- Write output; a closed descriptor is a failure. -/
def put (program : String) (bytes : List UInt8) : Run Nat := do
  if ← write 1 bytes then pure 0
  else
    complain s!"{program}: {program}: I/O error"
    pure 1

/-- Read files one after the other, or the input if there are none; the flag says that one could
not be read. -/
def gather (program : String) (paths : List String) : Run (List UInt8 × Bool) := do
  if paths.isEmpty then pure (← readAll 0, false)
  else
    let mut bytes := []
    let mut failed := false
    for path in paths do
      match (← get).read path with
      | .ok b => bytes := bytes ++ b
      | .error e =>
        report (pathComplaint program path e)
        failed := true
    pure (bytes, failed)

/-- Run a filter. -/
def runFilter (program : String) (f : Filter) : Run Nat := do
  let (bytes, failed) ← gather program f.files
  let out := f.apply bytes
  let status ← if out.isEmpty then pure 0 else put program out
  let failure := if program = "grep" then 2 else 1
  pure (if failed then failure else if status ≠ 0 then status else f.status bytes)

/-! ## Changing files -/

/-- Change the files for a path; says whether that failed. -/
def changeFiles (program path : String) (f : FileTree → Except FileError FileTree) : Run Bool := do
  match f (← get).files with
  | .ok files =>
    modify fun m => { m with files := files }
    pure false
  | .error e =>
    report (pathComplaint program path e)
    pure true

/-- Change the files for one path after the other. -/
def changeEach (program : String) (paths : List String)
    (f : String → FileTree → Except FileError FileTree) : Run Nat := do
  let mut failed := false
  for path in paths do
    failed := (← changeFiles program path (f path)) || failed
  pure (if failed then 1 else 0)

/-- Remove what lies at a path; a directory only with all it holds. -/
def removePath (options : List Char) (path : String) (t : FileTree) :
    Except FileError FileTree :=
  match t.locate path with
  | .error e => if options.contains 'f' then .ok t else .error e
  | .ok place =>
    if t.isDirectoryAt place && !(options.contains 'r' || options.contains 'R') then
      .error .isDirectory
    else .ok { t with entries := t.entries.filter fun e => !place.isPrefixOf e.1 }

/-- Remove an empty directory. -/
def removeDirectory (path : String) (t : FileTree) : Except FileError FileTree := do
  let place ← t.locate path
  if !t.isDirectoryAt place then .error .notDirectory
  else if t.entries.any fun e => place.isPrefixOf e.1 && e.1 ≠ place then
    .error (.device "Directory not empty")
  else .ok (t.erase place)

/-- Where something is put that goes to a path: below it if it is a directory. -/
def destination (t : FileTree) (source target : String) : String :=
  if t.isDirectory target then
    Path.join target (((Path.segments source).reverse.find? fun s => !s.isEmpty).getD "")
  else target

/-- Copy a file or a directory with all it holds. -/
def copyPath (source target : String) (t : FileTree) : Except FileError FileTree := do
  let here ← t.locate source
  match ← t.target (destination t source target) with
  | (_, none, _) => .error .alreadyExists
  | (there, some name, _) =>
    let copies := t.entries.filterMap fun e =>
      if here.isPrefixOf e.1 then some (there ++ [name] ++ e.1.drop here.length, e.2) else none
    .ok (copies.foldl (fun t e => t.put e.1 e.2) t)

/-- Move a file or directory. -/
def movePath (source target : String) (t : FileTree) : Except FileError FileTree := do
  let here ← t.locate source
  let t ← copyPath source target t
  .ok { t with entries := t.entries.filter fun e => !here.isPrefixOf e.1 }

/-- Copy or move paths to the last of them. -/
def transfer (program : String) (options : List Char) (paths : List String) : Run Nat := do
  match paths.reverse with
  | [] => complainOfUsage program "missing file operand"
  | [only] => complainOfUsage program s!"missing destination file operand after '{only}'"
  | target :: sources =>
    let mut failed := false
    for source in sources.reverse do
      let m ← get
      let recursive := program = "mv" || options.any fun c => "rRa".toList.contains c
      if !recursive && m.files.isDirectory source then
        report s!"cp: -r not specified; omitting directory '{source}'"
        failed := true
      else
        let change := if program = "mv" then movePath source target else copyPath source target
        failed := (← changeFiles program source change) || failed
    pure (if failed then 1 else 0)

/-- Copy the input to the output and to files. -/
def tee (options : List Char) (paths : List String) : Run Nat := do
  let bytes ← readAll 0
  let mut failed := false
  for path in paths do
    let change (t : FileTree) : Except FileError FileTree := do
      let (t, p) ← t.openFile path FileTree.publicMode
      let old := if options.contains 'a' then (t.read path).toOption.getD .empty else .empty
      .ok (t.fill p (old ++ ⟨bytes.toArray⟩))
    failed := (← changeFiles "tee" path change) || failed
  let status ← put "tee" bytes
  pure (if failed then 1 else status)

/-! ## Showing files -/

/-- The names in a directory that are shown. -/
def shownNames (all : Bool) (t : FileTree) (here : Place) : List String :=
  let names := t.entries.filterMap fun e =>
    if e.1.length = here.length + 1 && here.isPrefixOf e.1 then e.1.getLast? else none
  let names := names.filter fun n => all || n.toList.head? ≠ some '.'
  (if all then [".", ".."] else []) ++ names.mergeSort fun a b => decide (a ≤ b)

/-- List files, then directories with what they hold. -/
def list (options : List Char) (paths : List String) : Run Nat := do
  let given := if paths.isEmpty then ["."] else paths
  let t := (← get).files
  let mut failed := false
  let mut lines := []
  let mut directories := []
  for path in given do
    match t.locate path with
    | .error e =>
      report (pathComplaint "ls" path e)
      failed := true
    | .ok p =>
      if t.isDirectoryAt p && !options.contains 'd' then directories := directories ++ [(path, p)]
      else lines := lines ++ [path]
  for (path, p) in directories do
    if 1 < given.length then
      lines := lines ++ (if lines.isEmpty then [] else [""]) ++ [s!"{path}:"]
    lines := lines ++ shownNames (options.contains 'a') t p
  let status ← put "ls" (bytesOf (String.join (lines.map fun l => l ++ "\n")))
  pure (if failed then 2 else status)

/-- The number of words in bytes. -/
def countWords (l : List UInt8) : Nat :=
  let blank (b : UInt8) := b = 32 || (9 ≤ b && b ≤ 13)
  let step (s : Nat × Bool) (b : UInt8) : Nat × Bool :=
    if blank b then (s.1, false) else (if s.2 then s.1 else s.1 + 1, true)
  (l.foldl step (0, false)).1

/-- Count lines, words and bytes. -/
def countAll (options : List Char) (paths : List String) : Run Nat := do
  let chosen (l : List UInt8) : List Nat :=
    [('l', l.count 10), ('w', countWords l), ('c', l.length)].filterMap fun (c, n) =>
      if options.isEmpty || options.contains c then some n else none
  let line (width : Nat) (numbers : List Nat) (name : String) : String :=
    " ".intercalate (numbers.map (Filter.column width)) ++ name ++ "\n"
  if paths.isEmpty then
    let numbers := chosen (← readAll 0)
    put "wc" (bytesOf (line (if numbers.length = 1 then 0 else 7) numbers ""))
  else
    let mut failed := false
    let mut rows := []
    for path in paths do
      match (← get).read path with
      | .ok b => rows := rows ++ [(chosen b, path)]
      | .error e =>
        report (pathComplaint "wc" path e)
        failed := true
    let total := rows.foldl (fun t r => if t.isEmpty then r.1 else t.zipWith (· + ·) r.1) []
    if 1 < paths.length then rows := rows ++ [(total, "total")]
    let width := (rows.flatMap fun r => r.1.map fun n => (toString n).length).foldl max 1
    let status ← put "wc" (bytesOf (String.join (rows.map fun r => line width r.1 s!" {r.2}")))
    pure (if failed then 1 else status)

/-! ## Time -/

/-- The milliseconds of a duration such as `0.4` or `2s`. -/
def milliseconds? (s : String) : Option Nat := do
  let (whole, rest) := s.toList.span Char.isDigit
  let (fraction, rest) := match rest with
    | '.' :: rest => rest.span Char.isDigit
    | rest => ([], rest)
  let unit ← match rest with
    | [] | ['s'] => some 1
    | ['m'] => some 60
    | ['h'] => some 3600
    | ['d'] => some 86400
    | _ => none
  if whole.isEmpty && fraction.isEmpty then none
  else some (Printing.count (whole ++ (fraction ++ ['0', '0', '0']).take 3) * unit)

/-- Sleep for the sum of durations. -/
def sleepFor (args : List String) : Run Nat := do
  if args.isEmpty then complainOfUsage "sleep" "missing operand"
  else if args.contains "infinity" then throw .expired
  else
    match args.find? fun a => (milliseconds? a).isNone with
    | some a => complainOfUsage "sleep" s!"invalid time interval '{a}'"
    | none =>
      sleep ((args.filterMap milliseconds?).foldl (· + ·) 0)
      pure 0

/-! ## Answers -/

/-- The numbers from one to another in steps. -/
def countUp (first step last : Int) : List UInt8 :=
  let span := if 0 < step then last - first else first - last
  let n := if step = 0 || span < 0 then 0 else (span / step.natAbs).toNat + 1
  (List.range n).flatMap fun (i : Nat) => bytesOf (toString (first + step * (i : Int)) ++ "\n")

/-- Print a range of numbers. -/
def sequence (args : List String) : Run Nat := do
  match args.find? fun a => (Arithmetic.numberOf? a).isNone with
  | some a => complainOfUsage "seq" s!"invalid floating point argument: '{a}'"
  | none =>
    match args.filterMap Arithmetic.numberOf? with
    | [b] => put "seq" (countUp 1 1 b)
    | [a, b] => put "seq" (countUp a 1 b)
    | [a, s, b] => put "seq" (countUp a s b)
    | [] => complainOfUsage "seq" "missing operand"
    | _ =>
      let extra := (args[3]?).getD ""
      complainOfUsage "seq" s!"extra operand '{extra}'"

/-- The last name of a path, without an ending. -/
def lastName (path ending : String) : String :=
  match (Path.segments path).reverse.find? fun s => !s.isEmpty with
  | none => if path.isEmpty then "" else "/"
  | some name =>
    if name ≠ ending && name.endsWith ending then (name.dropEnd ending.length).toString else name

/-- The path without its last name. -/
def directoryName (path : String) : String :=
  let trimmed := path.toList.reverse.dropWhile (· = '/')
  let above := (trimmed.dropWhile (· ≠ '/')).dropWhile (· = '/')
  if !above.isEmpty then String.ofList above.reverse
  else if path.startsWith "/" then "/"
  else "."

/-- Print lines. -/
def putLines (program : String) (lines : List String) : Run Nat :=
  put program (bytesOf (String.join (lines.map fun l => l ++ "\n")))

/-- Print the values of variables that programs see. -/
def printVariables (names : List String) : Run Nat := do
  let p := (← get).process
  let seen := p.bindings.filter fun v => p.exported.contains v.1
  if names.isEmpty then putLines "env" (seen.map fun v => s!"{v.1}={v.2}")
  else
    let values := names.filterMap fun n => seen.lookup n
    let _ ← putLines "printenv" values
    pure (if values.length < names.length then 1 else 0)

/-- Say one thing again and again; without somebody who stops reading there is no end. -/
def repeatLine (args : List String) : Run Nat := do
  let line := bytesOf ((if args.isEmpty then "y" else " ".intercalate args) ++ "\n")
  match (← get).descriptor? 1 with
  | some (.channel c) =>
    if c = outChannel || c = errChannel then throw .expired
    else
      put "yes" (List.replicate (deviceBytes / line.length) line).flatten
  | _ => throw .expired

/-! ## Programs by name -/

/-- Say that a command cannot be run. -/
def notRunnable (place name : String) : Run Nat := do
  if name.toList.contains '/' && (← get).files.exists? name || systemDirectories.contains name then
    complain s!"{place}{name}: Permission denied"
    pure 126
  else
    complain s!"{place}{name}: not found"
    pure 127

/-- The name of a program given by its path. -/
def programName (name : String) : String :=
  (programDirectories.findSome? fun d =>
    if name.startsWith d then some (name.drop d.length).toString else none).getD name

/-- Run a program that is not part of the shell; `place` is where it was asked for. -/
def external (place name : String) (args : List String) : Run Nat := do
  let (options, paths) := Filter.options args
  match programName name with
  | "sleep" => sleepFor args
  | "mkdir" =>
    changeEach "mkdir" paths fun path t =>
      if options.contains 'p' then t.makeDirectories path else t.makeDirectory path
  | "touch" =>
    changeEach "touch" paths fun path t =>
      if t.isDirectory path then .ok t else (t.openFile path FileTree.publicMode).map (·.1)
  | "rm" => changeEach "rm" paths (removePath options)
  | "rmdir" => changeEach "rmdir" paths removeDirectory
  | "cp" => transfer "cp" options paths
  | "mv" => transfer "mv" options paths
  | "tee" => tee options paths
  | "ls" => list options paths
  | "wc" => countAll options paths
  | "seq" => sequence args
  | "yes" => repeatLine args
  | "env" | "printenv" => printVariables args
  | "uname" => putLines "uname" ["Linux"]
  | "basename" =>
    match args with
    | [] => complainOfUsage "basename" "missing operand"
    | path :: rest => putLines "basename" [lastName path (rest.headD "")]
  | "dirname" =>
    if args.isEmpty then complainOfUsage "dirname" "missing operand"
    else putLines "dirname" (args.map directoryName)
  | "which" =>
    let found := paths.filterMap programPath?
    let _ ← putLines "which" found
    pure (if paths.isEmpty || found.length < paths.length then 1 else 0)
  | program =>
    match Filter.ofArguments? program args with
    | some f => runFilter program f
    | none => notRunnable place name

end Testbed.Shell
