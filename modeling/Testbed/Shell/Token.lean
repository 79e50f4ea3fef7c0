import Testbed.Shell.Syntax

/-!
# Tokens of a script

A script is cut into words, symbols and line ends. A text that stands in the script for a command
to read follows the line that asks for it, and becomes a token in the place where it is asked
for.
-/

namespace Testbed.Shell

/-- A token. -/
inductive Token
  | word (w : Word)
  | symbol (s : String)
  /-- A descriptor that a redirection names. -/
  | descriptor (n : Nat)
  /-- A text that stands in the script. -/
  | document (w : Word)
  | lineEnd
  /-- Where the script cannot be cut any further, and why. -/
  | broken (why : String)
  deriving DecidableEq

/-! ## Expansions -/

/-- Where a scan for a closing bracket is. -/
inductive Quoting
  | none | single | double
  deriving DecidableEq

/-- What stands before the bracket that closes `depth` open ones, and after it. Braces count as
open only after a dollar sign. -/
def beforeClosing (opening closing : Char) (q : Quoting) (depth : Nat) :
    List Char → Option (List Char × List Char)
  | [] => .none
  | '\\' :: c :: rest =>
    if q = .single then
      (beforeClosing opening closing q depth (c :: rest)).map fun r => ('\\' :: r.1, r.2)
    else (beforeClosing opening closing q depth rest).map fun r => ('\\' :: c :: r.1, r.2)
  | '$' :: '{' :: rest =>
    if opening = '{' ∧ q ≠ .single then
      (beforeClosing opening closing q (depth + 1) rest).map fun r => ('$' :: '{' :: r.1, r.2)
    else (beforeClosing opening closing q depth ('{' :: rest)).map fun r => ('$' :: r.1, r.2)
  | c :: rest =>
    let go (q : Quoting) (depth : Nat) :=
      (beforeClosing opening closing q depth rest).map fun r => (c :: r.1, r.2)
    if c = '\'' ∧ q ≠ .double then go (if q = .single then .none else .single) depth
    else if c = '\x22' ∧ q ≠ .single then go (if q = .double then .none else .double) depth
    else if q = .single then go q depth
    else if c = opening ∧ opening ≠ '{' then go q (depth + 1)
    else if c = closing then
      if depth = 0 then some ([], rest) else go q (depth - 1)
    else go q depth

/-- The script between two backquotes. -/
def beforeBackquote : List Char → Option (List Char × List Char)
  | [] => none
  | '\\' :: c :: rest =>
    (beforeBackquote rest).map fun r =>
      (if c = '\x60' ∨ c = '\\' ∨ c = '$' then c :: r.1 else '\\' :: c :: r.1, r.2)
  | c :: rest =>
    if c = '\x60' then some ([], rest) else (beforeBackquote rest).map fun r => (c :: r.1, r.2)

/-- The modifier of a value, given what follows the name between the braces. -/
def modifier? : List Char → Option Modifier
  | [] => some .plain
  | ':' :: '-' :: w => some (.fallback true (String.ofList w))
  | ':' :: '+' :: w => some (.alternative true (String.ofList w))
  | ':' :: '=' :: w => some (.assign true (String.ofList w))
  | '-' :: w => some (.fallback false (String.ofList w))
  | '+' :: w => some (.alternative false (String.ofList w))
  | '=' :: w => some (.assign false (String.ofList w))
  | ':' :: '?' :: w => some (.demand true (String.ofList w))
  | '?' :: w => some (.demand false (String.ofList w))
  | '%' :: '%' :: w => some (.trim true true (String.ofList w))
  | '%' :: w => some (.trim true false (String.ofList w))
  | '#' :: '#' :: w => some (.trim false true (String.ofList w))
  | '#' :: w => some (.trim false false (String.ofList w))
  | _ => none

/-- The variables with a name of one special character. -/
def specialNames : List Char := ['?', '$', '!', '#', '@', '*', '-']

/-- The name that characters begin with, and the rest. -/
def nameSplit : List Char → List Char × List Char
  | [] => ([], [])
  | c :: rest =>
    if specialNames.contains c || c.isDigit then ([c], rest)
    else (c :: rest).span isNameChar

/-- The value between braces. -/
def bracedValue (quoted : Bool) (inside : List Char) : Part :=
  let modified (inside : List Char) : Part :=
    let (name, more) := nameSplit inside
    let m := if name.isEmpty then .bad else (modifier? more).getD .bad
    .value quoted (String.ofList name) m
  match inside with
  | '#' :: c :: rest =>
    let (name, more) := nameSplit (c :: rest)
    if more.isEmpty && !name.isEmpty then .value quoted (String.ofList name) .length
    else modified inside
  | _ => modified inside

/-- What a dollar sign stands for, given what follows it. -/
def dollar (quoted : Bool) : List Char → Except String (Part × List Char)
  | '(' :: '(' :: cs =>
    match beforeClosing '(' ')' .none 0 cs with
    | some (e, ')' :: rest) => .ok (.arithmetic quoted (String.ofList e), rest)
    | _ => .error "Missing '))'"
  | '(' :: cs =>
    match beforeClosing '(' ')' .none 0 cs with
    | some (s, rest) => .ok (.output quoted (String.ofList s), rest)
    | none => .error "end of file unexpected (expecting \")\")"
  | '{' :: cs =>
    match beforeClosing '{' '}' .none 0 cs with
    | some (inside, rest) => .ok (bracedValue quoted inside, rest)
    | none => .error "Missing '\x7d'"
  | cs =>
    match nameSplit cs with
    | ([], _) => .ok (.text quoted "$", cs)
    | (name, rest) => .ok (.value quoted (String.ofList name) .plain, rest)

/-! ## Words -/

/-- A word with a character added at its end. -/
def addChar (quoted : Bool) (c : Char) : Word → Word
  | .text q s :: rest => if q = quoted then .text q (s.push c) :: rest
    else .text quoted c.toString :: .text q s :: rest
  | w => .text quoted c.toString :: w

/-- What a double quote is in a text in which only dollar signs and their like have a meaning. -/
inductive QuoteRole
  /-- It ends the text. -/
  | final
  /-- It is a character like others. -/
  | literal
  /-- It is left out. -/
  | absent
  deriving DecidableEq

/-- Read to the quote that ends a quoted text, or to the end if none does. The parts so far are
given last first. -/
def quotedText (role : QuoteRole) : Nat → Word → List Char → Except String (Word × List Char)
  | 0, _, _ => .error "Unterminated quoted string"
  | _ + 1, w, [] => if role = .final then .error "Unterminated quoted string" else .ok (w, [])
  | n + 1, w, c :: rest =>
    if c = '\x22' ∧ role = .final then .ok (w, rest)
    else if c = '\x22' ∧ role = .absent then quotedText role n w rest
    else if c = '\\' then
      match rest with
      | '\n' :: rest => quotedText role n w rest
      | d :: more =>
        if d = '$' ∨ d = '\x60' ∨ d = '\\' ∨ (d = '\x22' ∧ role ≠ .literal) then
          quotedText role n (addChar true d w) more
        else quotedText role n (addChar true '\\' w) rest
      | [] => quotedText role n (addChar true '\\' w) []
    else if c = '$' then
      match dollar true rest with
      | .ok (p, rest) => quotedText role n (p :: w) rest
      | .error e => .error e
    else if c = '\x60' then
      match beforeBackquote rest with
      | some (s, rest) => quotedText role n (.output true (String.ofList s) :: w) rest
      | none => .error "EOF in backquote substitution"
    else quotedText role n (addChar true c w) rest

/-- The characters that end a word. -/
def endsWord (c : Char) : Bool := " \t\n;&|<>()".toList.contains c

/-- Read a word. The parts so far are given last first. -/
def readWord : Nat → Word → List Char → Except String (Word × List Char)
  | 0, w, cs => .ok (w.reverse, cs)
  | _ + 1, w, [] => .ok (w.reverse, [])
  | n + 1, w, c :: rest =>
    if endsWord c then .ok (w.reverse, c :: rest)
    else if c = '\\' then
      match rest with
      | '\n' :: rest => readWord n w rest
      | d :: rest => readWord n (addChar true d w) rest
      | [] => readWord n (addChar true '\\' w) []
    else if c = '\'' then
      match rest.span (· ≠ '\'') with
      | (inside, _ :: rest) => readWord n (.text true (String.ofList inside) :: w) rest
      | _ => .error "Unterminated quoted string"
    else if c = '\x22' then
      match quotedText .final (rest.length + 1) (.text true "" :: w) rest with
      | .ok (w, rest) => readWord n w rest
      | .error e => .error e
    else if c = '$' then
      match dollar false rest with
      | .ok (p, rest) => readWord n (p :: w) rest
      | .error e => .error e
    else if c = '\x60' then
      match beforeBackquote rest with
      | some (s, rest) => readWord n (.output false (String.ofList s) :: w) rest
      | none => .error "EOF in backquote substitution"
    else readWord n (addChar false c w) rest

/-- The text of a word without its quotes, and whether there were any. -/
def Word.delimiter (w : Word) : String × Bool :=
  (String.join (w.map fun | .text _ s => s | _ => ""), w.any fun | .text q _ => q | _ => false)

/-! ## Documents -/

/-- A document that a line asked for: its last line, whether it is kept as it is, and whether tabs
at the start of its lines are dropped. -/
structure Wanted where
  delimiter : String
  verbatim : Bool
  dropTabs : Bool

/-- The lines up to the delimiter, and what follows it. -/
def documentLines (d : Wanted) : Nat → List Char → List Char × List Char
  | 0, cs => (cs, [])
  | _ + 1, [] => ([], [])
  | n + 1, cs =>
    let (line, rest) := cs.span (· ≠ '\n')
    let line := if d.dropTabs then line.dropWhile (· = '\t') else line
    if line = d.delimiter.toList then ([], rest.drop 1)
    else
      let (more, after) := documentLines d n (rest.drop 1)
      (line ++ (if rest.isEmpty then [] else ['\n']) ++ more, after)

/-- The word that a document is. -/
def documentWord (d : Wanted) (body : List Char) : Word :=
  if d.verbatim then [.text true (String.ofList body)]
  else
    match quotedText .literal (body.length + 1) [] body with
    | .ok (w, _) => w.reverse
    | .error _ => [.text true (String.ofList body)]

/-- Read the documents that a line asked for. -/
def readDocuments : List Wanted → List Char → List Word × List Char
  | [], cs => ([], cs)
  | d :: ds, cs =>
    let (body, rest) := documentLines d (cs.length + 1) cs
    let (words, rest) := readDocuments ds rest
    (documentWord d body :: words, rest)

/-! ## Cutting a script -/

/-- The symbols, longer ones before those they begin with. -/
def symbols : List String :=
  ["<<-", "&&", "||", ";;", "<<", ">>", ">&", "<&", ">|", "<>", ";", "&", "|", "<", ">", "(", ")"]

/-- The symbol that characters begin with. -/
def symbol? (cs : List Char) : Option String := symbols.find? fun s => s.toList.isPrefixOf cs

/-- A script while it is cut: tokens with their lines, last first, and the documents. -/
structure Cutting where
  tokens : List (Token × Nat) := []
  line : Nat := 1
  wanted : List Wanted := []
  documents : List Word := []

/-- The state after more tokens and characters. -/
def Cutting.add (s : Cutting) (t : Token) (consumed : List Char) : Cutting :=
  { s with tokens := (t, s.line) :: s.tokens, line := s.line + consumed.count '\n' }

/-- The tokens that a word may give: the last digits before a redirection name a descriptor. -/
def wordToken (w : Word) (rest : List Char) : Token :=
  match w.bare?, rest.head? with
  | some s, some c =>
    if (c = '<' ∨ c = '>') ∧ s.toList.all Char.isDigit then .descriptor (s.toNat?.getD 0)
    else .word w
  | _, _ => .word w

/-- Cut a script. -/
def cut : Nat → Cutting → List Char → Cutting
  | 0, s, _ => s
  | _ + 1, s, [] => s
  | n + 1, s, c :: rest =>
    if c = ' ' ∨ c = '\t' then cut n s rest
    else if c = '#' then cut n s (rest.dropWhile (· ≠ '\n'))
    else if c = '\n' then
      let (words, after) := readDocuments s.wanted rest
      let taken := c :: rest.take (rest.length - after.length)
      cut n { s.add .lineEnd taken with wanted := [], documents := s.documents ++ words } after
    else if c = '\\' ∧ rest.head? = some '\n' then
      cut n { s with line := s.line + 1 } (rest.drop 1)
    else
      match symbol? (c :: rest) with
      | some name =>
        let rest := (c :: rest).drop name.length
        let s := s.add (.symbol name) []
        if name = "<<" ∨ name = "<<-" then
          match readWord (rest.length + 1) [] (rest.dropWhile fun c => c = ' ' ∨ c = '\t') with
          | .error e => s.add (.broken e) rest
          | .ok (w, rest) =>
            let (delimiter, quoted) := w.delimiter
            cut n { s.add (.document []) [] with
              wanted := s.wanted ++ [⟨delimiter, quoted, name = "<<-"⟩] } rest
        else cut n s rest
      | none =>
        match readWord (rest.length + 2) [] (c :: rest) with
        | .error e => { s with line := s.line + rest.count '\n' }.add (.broken e) []
        | .ok (w, after) =>
          let source := (c :: rest).take (rest.length + 1 - after.length)
          cut n (s.add (wordToken w after) source) after

/-- Put documents into their places. -/
def place : List Word → List (Token × Nat) → List (Token × Nat)
  | d :: ds, (.document _, line) :: rest => (.document d, line) :: place ds rest
  | ds, t :: rest => t :: place ds rest
  | _, [] => []

/-- The tokens of a script with their lines, and its number of lines. -/
def tokens (script : String) : List (Token × Nat) × Nat :=
  let cs := script.toList
  let s := cut (cs.length + 1) {} cs
  (place s.documents s.tokens.reverse, s.line)

end Testbed.Shell
