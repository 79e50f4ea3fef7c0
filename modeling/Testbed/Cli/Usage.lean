import Testbed.Cli.Arguments

/-!
# Usage

What is told to somebody who asks for help, or whose command line cannot be followed. The first
line of a usage error says what is wrong.
-/

namespace Testbed.Cli

/-- What is wrong with a command line. -/
inductive UsageError
  /-- Nothing takes this argument. -/
  | unexpected (word : String)
  | unknownCommand (word : String)
  | missingCommand
  /-- Arguments that must be given. -/
  | missing (ps : List Param)
  | invalidValue (p : Param) (value : String)
  | missingValue (p : Param)
  /-- A value was given to a switch. -/
  | surplusValue (p : Param) (value : String)
  /-- The argument was given before. -/
  | repeated (p : Param)
  deriving DecidableEq

namespace UsageError

/-- What is wrong, in one line. -/
def headline : UsageError → String
  | unexpected word => s!"unexpected argument '{word}' found"
  | unknownCommand word => s!"unrecognized subcommand '{word}'"
  | missingCommand => s!"'{programName}' requires a subcommand but one was not provided"
  | missing _ => "the following required arguments were not provided:"
  | invalidValue p value => s!"invalid value '{value}' for '{p.text}'"
  | missingValue p => s!"a value is required for '{p.text}' but none was supplied"
  | surplusValue p value =>
    s!"unexpected value '{value}' for '{p.text}' found; no more were expected"
  | repeated p => s!"the argument '{p.text}' cannot be used multiple times"

/-- The lines that follow the headline. -/
def details : UsageError → List String
  | missing ps => ps.map fun p => s!"  {p.text}"
  | invalidValue .shell _ =>
    let names := ", ".intercalate (ShellName.all.map (·.name))
    [s!"  [possible values: {names}]"]
  | _ => []

/-- The whole message. -/
def message (e : UsageError) : String :=
  "\n".intercalate ([s!"error: {e.headline}"] ++ e.details
    ++ ["", "For more information, try '--help'.", ""])

end UsageError

/-! ## Help -/

/-- A text filled up with blanks to a width. -/
def padded (width : Nat) (s : String) : String :=
  s ++ String.ofList (List.replicate (width - s.length) ' ')

/-- Lines under a heading; none if there is nothing to list. -/
def listed (heading : String) (entries : List (String × String)) : List String :=
  if entries.isEmpty then []
  else ["", s!"{heading}:"] ++ entries.map fun e => s!"  {padded 24 e.1} {e.2}"

/-- A parameter as help shows it. -/
def Param.synopsis (p : Param) : String :=
  (p.short?.elim "" fun c => s!"-{c}, ") ++ p.text

/-- How a level is used. -/
def Level.synopsis : Level → String
  | .program => s!"{programName} [OPTIONS] <COMMAND>"
  | .command c =>
    let positionals := (Level.command c).positionals.map fun p => " " ++ p.text
    s!"{programName} {c.word} [OPTIONS]" ++ String.join positionals

/-- What a level is for. -/
def Level.purpose : Level → String
  | .program => "Provision and tear down managed Kubernetes test environments"
  | .command c => c.purpose

/-- The help on a level. -/
def Level.help (l : Level) : String :=
  let commands := if l = .program then CommandName.all else []
  "\n".intercalate ([l.purpose, "", s!"Usage: {l.synopsis}"]
    ++ listed "Commands" (commands.map fun c => (c.word, c.purpose))
    ++ listed "Arguments" (l.positionals.map fun p => (p.text, p.purpose))
    ++ listed "Options" (l.options.map fun p => (p.synopsis, p.purpose)) ++ [""])

/-- The manual page of a level. -/
def Level.page (l : Level) : String :=
  let title := match l with
    | .program => programName
    | .command c => s!"{programName}-{c.word}"
  let entry (p : Param) := [".TP", p.synopsis, p.purpose]
  "\n".intercalate ([s!".TH {title} 1", ".SH NAME", s!"{title} \\- {l.purpose}", ".SH SYNOPSIS",
    l.synopsis, ".SH OPTIONS"] ++ (l.positionals ++ l.options).flatMap entry ++ [""])

/-- The script that lets a shell complete the commands. -/
def completionScript (s : ShellName) : String :=
  let commands := " ".intercalate (CommandName.all.map (·.word))
  match s with
  | .bash => s!"complete -W \"{commands}\" {programName}\n"
  | .elvish =>
    s!"set edit:completion:arg-completer[{programName}] = \x7b|@words| put {commands} \x7d\n"
  | .fish => s!"complete -c {programName} -f -a \"{commands}\"\n"
  | .powershell =>
    s!"Register-ArgumentCompleter -Native -CommandName {programName} -ScriptBlock "
      ++ s!"\x7b -split \"{commands}\" \x7d\n"
  | .zsh => s!"#compdef {programName}\n_arguments \"1: :({commands})\"\n"

end Testbed.Cli
