/-!
# Scripts

The commands of a shell script as the shell sees them. Words keep apart what was quoted, because
only what was not is split into fields; nested scripts and expressions stay texts until they are
expanded.
-/

namespace Testbed.Shell

/-! ## Words -/

/-- What stands in the place of a variable's value. The flag says whether an empty value counts as
none. -/
inductive Modifier
  | plain
  | length
  /-- The word if there is no value. -/
  | fallback (emptyToo : Bool) (word : String)
  /-- The word if there is a value. -/
  | alternative (emptyToo : Bool) (word : String)
  /-- The word if there is no value, which it becomes. -/
  | assign (emptyToo : Bool) (word : String)
  /-- A complaint if there is no value. -/
  | demand (emptyToo : Bool) (complaint : String)
  /-- The value without what fits a pattern at its end or its start. -/
  | trim (atEnd longest : Bool) (pattern : String)
  /-- A modifier that nothing is known of. -/
  | bad
  deriving DecidableEq

/-- A part of a word. -/
inductive Part
  | text (quoted : Bool) (s : String)
  | value (quoted : Bool) (name : String) (modifier : Modifier)
  /-- What a script puts out. -/
  | output (quoted : Bool) (script : String)
  | arithmetic (quoted : Bool) (expression : String)
  deriving DecidableEq

/-- A word before it is expanded. -/
abbrev Word := List Part

/-- The text of a word in which nothing is quoted or expanded. -/
def Word.bare? : Word → Option String
  | [.text false s] => some s
  | _ => none

/-- Whether a character may stand in a variable's name. -/
def isNameChar (c : Char) : Bool := c.isAlphanum || c = '_'

/-- Whether a text is a variable's name. -/
def isName (s : String) : Bool :=
  s.toList.all isNameChar && (s.toList.head?.any fun c => !c.isDigit)

/-- A word that sets a variable: the name and the value. -/
def Word.assignment? : Word → Option (String × Word)
  | .text false s :: rest =>
    let name := String.ofList (s.toList.takeWhile (· ≠ '='))
    match s.toList.dropWhile (· ≠ '=') with
    | _ :: value =>
      if isName name then some (name, .text false (String.ofList value) :: rest) else none
    | [] => none
  | _ => none

/-! ## Commands -/

/-- What a redirection does to a descriptor. -/
inductive RedirectKind
  | read | write | append | duplicate
  /-- Read the text that stands in the script. -/
  | document
  deriving DecidableEq

/-- A redirection. -/
structure Redirect where
  descriptor : Nat
  kind : RedirectKind
  target : Word
  deriving DecidableEq

/-- A command. -/
inductive Command
  | nothing
  | simple (line : Nat) (assignments : List (String × Word)) (words : List Word)
      (redirects : List Redirect)
  | redirected (c : Command) (redirects : List Redirect)
  | pipe (a b : Command)
  | negate (c : Command)
  | both (a b : Command)
  | either (a b : Command)
  | sequence (a b : Command)
  | background (c : Command)
  | subshell (c : Command)
  | choose (condition yes no : Command)
  /-- Repeat the body while the condition succeeds, or until it does. -/
  | loop (until' : Bool) (condition body : Command)
  | each (name : String) (words : List Word) (body : Command)
  /-- Carry out the first of the branches that the word fits. -/
  | select (word : Word) (branches : Command)
  /-- A branch for words that fit a pattern, and the branches after it. -/
  | branch (patterns : List Word) (body others : Command)
  /-- Give a command a name. -/
  | define (name : String) (body : Command)

end Testbed.Shell
