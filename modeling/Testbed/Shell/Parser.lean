import Testbed.Shell.Token

/-!
# From tokens to commands

A script is read line by line, so that the lines before a fault are still carried out. Each
function takes the number of tokens as the bound of its recursion.
-/

namespace Testbed.Shell

/-- Why a script cannot be read on. -/
structure Fault where
  line : Nat
  text : String
  deriving DecidableEq

/-- The tokens that are left, with their lines. -/
abbrev Tokens := List (Token × Nat)

/-- A reader of some tokens. -/
abbrev Parser (α : Type) := Tokens → Except Fault (α × Tokens)

/-- The words that structure scripts. -/
def keywords : List String :=
  ["if", "then", "else", "elif", "fi", "do", "done", "while", "until", "for", "case", "esac", "in",
   "\x7b", "\x7d", "!"]

/-- How a token is named in faults. -/
def Token.name : Token → String
  | word w =>
    match w.bare? with
    | some s => if keywords.contains s then "\"" ++ s ++ "\"" else "word"
    | none => "word"
  | symbol s => "\"" ++ s ++ "\""
  | lineEnd => "newline"
  | descriptor _ | document _ | broken _ => "redirection"

/-- The fault at the next token; `after` is what was expected. -/
def unexpected {α : Type} (after : String) : Parser α
  | [] => .error ⟨0, "end of file unexpected" ++ after⟩
  | (.broken why, line) :: _ => .error ⟨line, why⟩
  | (t, line) :: _ => .error ⟨line, t.name ++ " unexpected" ++ after⟩

/-- What a fault says was expected. -/
def expecting (what : String) : String := " (expecting \"" ++ what ++ "\")"

/-- The next word if nothing in it is quoted or expanded. -/
def bareWord? : Tokens → Option String
  | (.word w, _) :: _ => w.bare?
  | _ => none

/-- Take a reserved word. -/
def reserved (s : String) : Parser Unit := fun ts =>
  if bareWord? ts = some s then .ok ((), ts.drop 1) else unexpected (expecting s) ts

/-- Take a symbol. -/
def closing (s : String) : Parser Unit
  | (.symbol t, line) :: ts =>
    if s = t then .ok ((), ts) else unexpected (expecting s) ((.symbol t, line) :: ts)
  | ts => unexpected (expecting s) ts

/-- Drop line ends. -/
def skipLineEnds : Tokens → Tokens
  | (.lineEnd, _) :: ts => skipLineEnds ts
  | ts => ts

/-- The reserved words that end a list of commands. -/
def terminators : List String := ["then", "else", "elif", "fi", "do", "done", "esac", "\x7d"]

/-- Whether a list of commands ends here. -/
def atEnd (ts : Tokens) : Bool :=
  match ts with
  | [] => true
  | (.symbol s, _) :: _ => s = ")" || s = ";;"
  | _ => (bareWord? ts).any terminators.contains

/-! ## Redirections -/

/-- The redirection of a symbol: what it does, and the descriptor it does it to. -/
def redirectOf? : String → Option (RedirectKind × Nat)
  | "<" => some (.read, 0)
  | ">" | ">|" => some (.write, 1)
  | ">>" => some (.append, 1)
  | "<&" => some (.duplicate, 0)
  | ">&" => some (.duplicate, 1)
  | "<<" | "<<-" => some (.document, 0)
  | _ => none

/-- A redirection, if one comes next. -/
def redirect? : Parser (Option Redirect) := fun ts =>
  let (given, rest) := match ts with
    | (.descriptor n, _) :: rest => (some n, rest)
    | _ => (none, ts)
  match rest with
  | (.symbol s, _) :: more =>
    match redirectOf? s with
    | none => .ok (none, ts)
    | some (kind, usual) =>
      match more with
      | (.word w, _) :: more | (.document w, _) :: more =>
        .ok (some ⟨given.getD usual, kind, w⟩, more)
      | _ => unexpected "" more
  | _ => .ok (none, ts)

/-- All redirections that come next. -/
def redirects : Nat → Parser (List Redirect)
  | 0, ts => .ok ([], ts)
  | n + 1, ts => do
    match ← redirect? ts with
    | (some r, ts) => let (rs, ts) ← redirects n ts; .ok (r :: rs, ts)
    | (none, ts) => .ok ([], ts)

/-! ## Simple commands -/

/-- The parts of a simple command. -/
structure Simple where
  assignments : List (String × Word) := []
  words : List Word := []
  redirects : List Redirect := []

/-- Read a simple command. -/
def simple : Nat → Simple → Parser Simple
  | 0, s, ts => .ok (s, ts)
  | n + 1, s, ts => do
    match ← redirect? ts with
    | (some r, ts) => simple n { s with redirects := s.redirects ++ [r] } ts
    | (none, (.word w, line) :: rest) =>
      match (if s.words.isEmpty then w.assignment? else none) with
      | some a => simple n { s with assignments := s.assignments ++ [a] } rest
      | none =>
        if s.words.isEmpty && atEnd [(.word w, line)] then .ok (s, ts)
        else simple n { s with words := s.words ++ [w] } rest
    | (none, ts) => .ok (s, ts)

/-- The words of a loop up to the end of the line. -/
def loopWords : Tokens → List Word × Tokens
  | (.word w, _) :: ts => let (ws, ts) := loopWords ts; (w :: ws, ts)
  | ts => ([], ts)

/-- The patterns of a branch, up to their bracket. -/
def patterns : Nat → Parser (List Word)
  | 0, ts => unexpected "" ts
  | n + 1, (.word w, _) :: (.symbol "|", _) :: ts => do
    let (ws, ts) ← patterns n ts
    .ok (w :: ws, ts)
  | _ + 1, (.word w, _) :: (.symbol ")", _) :: ts => .ok ([w], ts)
  | _ + 1, (.word _, _) :: ts => unexpected (expecting ")") ts
  | _ + 1, ts => unexpected "" ts

/-- The name of a function whose definition begins here. -/
def functionName? : Tokens → Option String
  | (.word w, _) :: (.symbol "(", _) :: (.symbol ")", _) :: _ => w.bare?.filter isName
  | _ => none

/-! ## Compound commands -/

mutual

/-- Read a command. -/
def command : Nat → Parser Command
  | 0, ts => unexpected "" ts
  | n + 1, ts => do
    let line := (ts.head?.map (·.2)).getD 0
    let compound (r : Command × Tokens) : Except Fault (Command × Tokens) := do
      let (rs, ts) ← redirects n r.2
      .ok (if rs.isEmpty then r.1 else .redirected r.1 rs, ts)
    match ts with
    | (.symbol "(", _) :: ts =>
      let (c, ts) ← commands n ts
      let (_, ts) ← closing ")" ts
      compound (.subshell c, ts)
    | _ =>
      match bareWord? ts with
      | some "\x7b" =>
        let (c, ts) ← commands n (ts.drop 1)
        let (_, ts) ← reserved "\x7d" ts
        compound (c, ts)
      | some "if" =>
        let (c, ts) ← conditional n (ts.drop 1)
        compound (c, ts)
      | some "while" => do compound (← loop n false (ts.drop 1))
      | some "until" => do compound (← loop n true (ts.drop 1))
      | some "for" =>
        match bareWord? (ts.drop 1) with
        | none => .error ⟨line, "Bad for loop variable"⟩
        | some name =>
          if !isName name then .error ⟨line, "Bad for loop variable"⟩
          else
            let (_, ts) ← reserved "in" (ts.drop 2)
            let (words, ts) := loopWords ts
            let ts := match ts with
              | (.symbol ";", _) :: ts => skipLineEnds ts
              | ts => skipLineEnds ts
            let (_, ts) ← reserved "do" ts
            let (body, ts) ← commands n ts
            let (_, ts) ← reserved "done" ts
            compound (.each name words body, ts)
      | some "case" =>
        match ts.drop 1 with
        | (.word w, _) :: ts =>
          let (_, ts) ← reserved "in" (skipLineEnds ts)
          let (c, ts) ← branches n (skipLineEnds ts)
          compound (.select w c, ts)
        | ts => unexpected "" ts
      | _ =>
        match functionName? ts with
        | some name =>
          let (body, ts) ← command n (skipLineEnds (ts.drop 3))
          .ok (.define name body, ts)
        | none =>
          let (s, rest) ← simple (ts.length + 1) {} ts
          if s.assignments.isEmpty && s.words.isEmpty && s.redirects.isEmpty then unexpected "" ts
          else .ok (.simple line s.assignments s.words s.redirects, rest)

/-- Read a condition and what follows it. -/
def conditional : Nat → Parser Command
  | 0, ts => unexpected "" ts
  | n + 1, ts => do
    let (c, ts) ← commands n ts
    let (_, ts) ← reserved "then" ts
    let (yes, ts) ← commands n ts
    match bareWord? ts with
    | some "elif" =>
      let (no, ts) ← conditional n (ts.drop 1)
      .ok (.choose c yes no, ts)
    | some "else" =>
      let (no, ts) ← commands n (ts.drop 1)
      let (_, ts) ← reserved "fi" ts
      .ok (.choose c yes no, ts)
    | _ =>
      let (_, ts) ← reserved "fi" ts
      .ok (.choose c yes .nothing, ts)

/-- Read a loop after its first word. -/
def loop : Nat → Bool → Parser Command
  | 0, _, ts => unexpected "" ts
  | n + 1, until', ts => do
    let (c, ts) ← commands n ts
    let (_, ts) ← reserved "do" ts
    let (body, ts) ← commands n ts
    let (_, ts) ← reserved "done" ts
    .ok (.loop until' c body, ts)

/-- Read the branches of a selection. -/
def branches : Nat → Parser Command
  | 0, ts => unexpected "" ts
  | n + 1, ts => do
    if bareWord? ts = some "esac" then .ok (.nothing, ts.drop 1)
    else
      let ts := match ts with
        | (.symbol "(", _) :: ts => ts
        | ts => ts
      let (ps, ts) ← patterns n ts
      let ts := skipLineEnds ts
      let (body, ts) ← if atEnd ts then .ok (.nothing, ts) else commands n ts
      match ts with
      | (.symbol ";;", _) :: ts =>
        let (others, ts) ← branches n (skipLineEnds ts)
        .ok (.branch ps body others, ts)
      | ts =>
        if bareWord? ts = some "esac" then .ok (.branch ps body .nothing, ts.drop 1)
        else unexpected (expecting ";;") ts

/-- Read commands joined by pipes. -/
def pipeline : Nat → Parser Command
  | 0, ts => unexpected "" ts
  | n + 1, ts => do
    if bareWord? ts = some "!" then
      let (c, ts) ← pipeline n (ts.drop 1)
      .ok (.negate c, ts)
    else
      let (a, ts) ← command n ts
      match ts with
      | (.symbol "|", _) :: ts =>
        let (b, ts) ← pipeline n (skipLineEnds ts)
        .ok (.pipe a b, ts)
      | _ => .ok (a, ts)

/-- Read pipelines joined by conjunctions. -/
def conjunction : Nat → Option (Bool × Command) → Parser Command
  | 0, _, ts => unexpected "" ts
  | n + 1, before, ts => do
    let (b, ts) ← pipeline n ts
    let c := match before with
      | none => b
      | some (true, a) => .both a b
      | some (false, a) => .either a b
    match ts with
    | (.symbol "&&", _) :: ts => conjunction n (some (true, c)) (skipLineEnds ts)
    | (.symbol "||", _) :: ts => conjunction n (some (false, c)) (skipLineEnds ts)
    | _ => .ok (c, ts)

/-- Read commands up to a terminator. -/
def commands : Nat → Parser Command
  | 0, ts => unexpected "" ts
  | n + 1, ts => do
    let (c, ts) ← conjunction n none (skipLineEnds ts)
    let (c, ts, more) := match ts with
      | (.symbol "&", _) :: ts => (.background c, ts, true)
      | (.symbol ";", _) :: ts => (c, ts, true)
      | (.lineEnd, _) :: ts => (c, ts, true)
      | ts => (c, ts, false)
    let ts := skipLineEnds ts
    if more && !atEnd ts then
      let (rest, ts) ← commands n ts
      .ok (.sequence c rest, ts)
    else .ok (c, ts)

end

/-! ## Lines -/

/-- Read the commands of one line. -/
def line : Nat → Parser Command
  | 0, ts => unexpected "" ts
  | n + 1, ts => do
    let (c, ts) ← conjunction (ts.length * 4 + 4) none ts
    let (c, ts, more) := match ts with
      | (.symbol "&", _) :: ts => (Command.background c, ts, true)
      | (.symbol ";", _) :: ts => (c, ts, true)
      | ts => (c, ts, false)
    match ts with
    | [] => .ok (c, [])
    | (.lineEnd, _) :: ts => .ok (c, ts)
    | ts =>
      if !more then unexpected "" ts
      else
        let (rest, ts) ← line n ts
        .ok (.sequence c rest, ts)

/-- The commands of a script line by line, and the fault that ends it. -/
def linesFrom (lastLine : Nat) : Nat → Tokens → List Command × Option Fault
  | 0, _ => ([], none)
  | n + 1, ts =>
    match skipLineEnds ts with
    | [] => ([], none)
    | ts =>
      match line (ts.length + 1) ts with
      | .error f => ([], some (if f.line = 0 then { f with line := lastLine } else f))
      | .ok (c, ts) =>
        let (cs, f) := linesFrom lastLine n ts
        (c :: cs, f)

/-- Read a script. -/
def parse (script : String) : List Command × Option Fault :=
  let (ts, lastLine) := tokens script
  linesFrom lastLine (ts.length + 1) ts

end Testbed.Shell
