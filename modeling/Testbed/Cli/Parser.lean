import Testbed.Cli.Usage

/-!
# Reading a command line

Words are read from left to right. An option whose value is a word of its own, and a positional
argument, stay *pending* until the next option, the next positional argument or the end of their
level, and are checked only then. A command's level is read to its end before what is pending at
the program's level is checked. `parse` gives an invocation, or says how reading ended without
one.
-/

namespace Testbed.Cli

/-- How reading ends without an invocation. -/
inductive Ending
  | usage (e : UsageError)
  /-- Somebody asked for help on a level. -/
  | help (l : Level)
  /-- Nothing was given at all. -/
  | bare
  /-- Somebody asked for the version. -/
  | version
  deriving DecidableEq

/-- What was read of a level so far. -/
structure Reading where
  /-- What was given and checked, the latest first. -/
  given : List (Param × String) := []
  /-- What is not checked yet; without a value if that is still to come. -/
  pending : Option (Param × Option String) := none
  /-- The positional arguments still to come. -/
  expected : List Param
  /-- Whether words with hyphens are positional too. -/
  literal : Bool := false
  deriving DecidableEq

namespace Reading

/-- Whether the next word is a value. -/
def awaitsValue (r : Reading) : Bool :=
  match r.pending with
  | some (_, none) => true
  | _ => false

/-- Whether a parameter was given and checked. -/
def has (r : Reading) (p : Param) : Bool := r.given.any fun g => g.1 = p

/-! ## Checking -/

/-- Check a value: none at all, a repetition and an unfit value are refused, in this order. -/
def check (r : Reading) (p : Param) (value : Option String) : Except Ending Reading :=
  match value with
  | none => .error (.usage (.missingValue p))
  | some v =>
    if r.has p then .error (.usage (.repeated p))
    else
      match p.value? with
      | none => .ok { r with given := (p, v) :: r.given }
      | some (_, rule) =>
        if rule.admits v then .ok { r with given := (p, v) :: r.given }
        else if v.isEmpty then .error (.usage (.missingValue p))
        else .error (.usage (.invalidValue p v))

/-- Check what is pending. -/
def settle (r : Reading) : Except Ending Reading :=
  match r.pending with
  | none => .ok r
  | some (p, value) => { r with pending := none }.check p value

/-- Take a switch; two of them end the reading at once. -/
def flip (l : Level) (r : Reading) (p : Param) : Except Ending Reading := do
  let r ← r.settle
  match p with
  | .help => .error (.help l)
  | .version => .error .version
  | p => r.check p (some "")

/-- Take an option with the value attached to it, or wait for its value. -/
def option (r : Reading) (p : Param) (attached : Option String) : Except Ending Reading := do
  let r ← r.settle
  match attached with
  | some v => r.check p (some v)
  | none => .ok { r with pending := some (p, none) }

/-! ## Words -/

/-- Take an option given by its word. -/
def long (l : Level) (r : Reading) (word : String) (attached : Option String) :
    Except Ending Reading :=
  match l.options.find? fun p => p.long? = some word with
  | none => .error (.usage (.unexpected s!"--{word}"))
  | some p =>
    if p.value?.isSome then r.option p attached
    else
      match attached with
      | some v => .error (.usage (.surplusValue p v))
      | none => r.flip l p

/-- Take options given by letters; what follows the letter of an option with a value is the
value. -/
def letters (l : Level) (r : Reading) : List Char → Except Ending Reading
  | [] => .ok r
  | c :: rest =>
    match l.options.find? fun p => p.short? = some c with
    | none => .error (.usage (.unexpected s!"-{c}"))
    | some p =>
      if p.value?.isSome then
        match rest with
        | [] => r.option p none
        | '=' :: v => r.option p (some (String.ofList v))
        | v => r.option p (some (String.ofList v))
      else do letters l (← r.flip l p) rest

/-- What is wrong with a positional argument that nothing takes. -/
def surplus (l : Level) (literal : Bool) (word : String) : UsageError :=
  match l with
  | .program =>
    if literal && (CommandName.ofWord? word).isSome then .unexpected word
    else .unknownCommand word
  | .command _ => .unexpected word

/-- Take a positional argument. -/
def positional (l : Level) (r : Reading) (word : String) : Except Ending Reading :=
  match r.expected with
  | [] => .error (.usage (surplus l r.literal word))
  | p :: rest => do
    .ok { ← r.settle with pending := some (p, some word), expected := rest }

/-- Take a word that names no command. -/
def word (l : Level) (r : Reading) (w : String) : Except Ending Reading :=
  if r.literal then r.positional l w
  else
    match w.toList with
    | ['-', '-'] => .ok { r with literal := true }
    | '-' :: '-' :: cs =>
      let attached := match cs.dropWhile fun c => c ≠ '=' with
        | '=' :: v => some (String.ofList v)
        | _ => none
      r.long l (String.ofList (cs.takeWhile fun c => c ≠ '=')) attached
    | '-' :: c :: cs => r.letters l (c :: cs)
    | _ =>
      match r.pending with
      | some (p, none) => .ok { r with pending := some (p, some w) }
      | _ => r.positional l w

/-- The command that a word names at a level, unless the word is a value. -/
def command? (l : Level) (r : Reading) (w : String) : Option CommandName :=
  if l = .program && !r.literal && !r.awaitsValue then CommandName.ofWord? w else none

/-- Read a level up to its end or to a command; the words after that are left. -/
def level (l : Level) (r : Reading) :
    List String → Except Ending (Reading × Option (CommandName × List String))
  | [] => .ok (r, none)
  | w :: rest =>
    match r.command? l w with
    | some c => .ok (r, some (c, rest))
    | none => do level l (← r.word l w) rest

end Reading

/-! ## Invocations -/

/-- The value that was given to a parameter; of two levels the deeper one counts. -/
def valueOf (given : List (Param × String)) (p : Param) : Option String := given.lookup p

/-- The settings that were given. -/
def Settings.ofGiven (given : List (Param × String)) : Settings where
  config := (valueOf given .config).getD ({} : Settings).config
  stateDirectory := valueOf given .stateDirectory
  provider := valueOf given .provider
  json := (valueOf given .json).isSome

/-- The command that was given; none if it lacks an argument. -/
def Command.ofGiven? (given : List (Param × String)) : CommandName → Option Command
  | .init => do
    let name ← valueOf given .environmentName
    let region := (valueOf given .region).getD "us-west-2"
    some (.init name region (valueOf given .force).isSome)
  | .validate => some .validate
  | .up => some .up
  | .down => some .down
  | .status => some .status
  | .isUp => some .isUp
  | .logs => some .logs
  | .completions => do some (.completions (← ShellName.ofName? (← valueOf given .shell)))
  | .manPages => some (.manPages ((valueOf given .directory).getD "man"))
  | .help => none

/-- How a command line ends that asks for help in words. -/
def helpOn : List String → Ending
  | [] => .help .program
  | w :: rest =>
    match CommandName.ofWord? w, rest with
    | none, _ => .usage (.unknownCommand w)
    | some c, [] => .help (.command c)
    | some _, w :: _ => .usage (.unknownCommand w)

/-- Read the level of a command; the end of a level is a check. -/
def parseCommand (c : CommandName) (words : List String) :
    Except Ending (List (Param × String)) := do
  let l := Level.command c
  let (r, _) ← Reading.level l { expected := l.positionals } words
  let r ← r.settle
  match r.expected.filter (·.isRequired) with
  | [] => .ok r.given
  | ps => .error (.usage (.missing ps))

/-- Read a command line. -/
def parse (words : List String) : Except Ending Invocation := do
  match ← Reading.level .program { expected := Level.program.positionals } words with
  | (r, none) =>
    let r ← r.settle
    .error (if r.given.isEmpty then .bare else .usage .missingCommand)
  | (r, some (c, rest)) =>
    if c = .help then .error (helpOn rest)
    else
      let own ← parseCommand c rest
      let given := own ++ (← r.settle).given
      match Command.ofGiven? given c with
      | some command => .ok ⟨.ofGiven given, command⟩
      | none => .error (.usage (.missing (Level.command c).positionals))

end Testbed.Cli
