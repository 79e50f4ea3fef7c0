import Testbed.Shell.Printing
import Testbed.Shell.Regex
import Testbed.Text.Utf8

/-!
# Filters

The programs that turn one stream of bytes into another. `Filter.ofArguments?` gives the filter
of a name with its arguments, and the files it reads.
-/

namespace Testbed.Shell

/-! ## Lines -/

/-- The lines of bytes without their ends. -/
def linesOf (l : List UInt8) : List (List UInt8) :=
  let (done, current) := l.foldl
    (fun (done, current) b =>
      if b = 10 then (current.reverse :: done, []) else (done, b :: current))
    (([], []) : List (List UInt8) × List UInt8)
  (if current.isEmpty then done else current.reverse :: done).reverse

/-- Lines with their ends. -/
def joinLines (l : List (List UInt8)) : List UInt8 := l.flatMap fun x => x ++ [10]

/-- Bytes as characters. -/
def charsOf (l : List UInt8) : List Char := (Text.lossy ⟨l.toArray⟩).toList

/-- A stream that ends as another does, with or without the end of its last line. -/
def endingLike (input : List UInt8) (output : List UInt8) : List UInt8 :=
  if input.getLast?.any (· ≠ 10) && output.getLast? = some 10 then output.dropLast else output

/-- A program that turns bytes into bytes. -/
structure Filter where
  /-- The files that it reads; the input if there are none. -/
  files : List String := []
  /-- What it puts out. -/
  apply : List UInt8 → List UInt8
  /-- Its status, given its input. -/
  status : List UInt8 → Nat := fun _ => 0

namespace Filter

/-! ## Parts of a stream -/

/-- Which part of a stream is meant: lines or bytes, how many, and counted from where. -/
structure Amount where
  lines : Bool := true
  number : Nat := 10
  /-- Whether the number is that of the first one taken. -/
  fromStart : Bool := false

/-- The amount that a text spells. -/
def Amount.ofText (lines : Bool) (s : List Char) : Amount :=
  match s with
  | '+' :: ds => ⟨lines, Printing.count ds, true⟩
  | '-' :: ds => ⟨lines, Printing.count ds, false⟩
  | ds => ⟨lines, Printing.count ds, false⟩

/-- The amount that arguments ask for, and the files after them. -/
def amount : List String → Amount × List String
  | "-n" :: k :: rest => (.ofText true k.toList, rest)
  | "-c" :: k :: rest => (.ofText false k.toList, rest)
  | a :: rest =>
    match a.toList with
    | '-' :: 'n' :: k => (.ofText true k, rest)
    | '-' :: 'c' :: k => (.ofText false k, rest)
    | '-' :: k =>
      if !k.isEmpty && k.all Char.isDigit then (.ofText true k, rest) else ({}, a :: rest)
    | _ => ({}, a :: rest)
  | [] => ({}, [])

/-- The last so many of a list. -/
def lastOf {α : Type} (n : Nat) (l : List α) : List α := l.drop (l.length - n)

/-- The first part of a stream. -/
def head (a : Amount) (l : List UInt8) : List UInt8 :=
  if a.lines then endingLike l (joinLines ((linesOf l).take a.number)) else l.take a.number

/-- The last part of a stream. -/
def tail (a : Amount) (l : List UInt8) : List UInt8 :=
  let part {α : Type} (l : List α) : List α :=
    if a.fromStart then l.drop (a.number - 1) else lastOf a.number l
  if a.lines then endingLike l (joinLines (part (linesOf l))) else part l

/-! ## Characters -/

/-- The bytes of a class of characters. -/
def classOf? : String → Option (List UInt8)
  | "upper" => some (bytesOf "ABCDEFGHIJKLMNOPQRSTUVWXYZ")
  | "lower" => some (bytesOf "abcdefghijklmnopqrstuvwxyz")
  | "digit" => some (bytesOf "0123456789")
  | "space" => some [9, 10, 11, 12, 13, 32]
  | _ => none

/-- The bytes that a set of `tr` lists. -/
def byteSetFrom : Nat → List Char → List UInt8
  | 0, _ => []
  | _ + 1, [] => []
  | n + 1, '[' :: ':' :: rest =>
    let (name, after) := rest.span (· ≠ ':')
    match classOf? (String.ofList name), after with
    | some l, ':' :: ']' :: rest => l ++ byteSetFrom n rest
    | _, _ => bytesOf "[:" ++ byteSetFrom n rest
  | n + 1, '\\' :: rest =>
    let (here, rest) := Printing.escaped false rest
    here ++ byteSetFrom n rest
  | n + 1, a :: '-' :: b :: rest =>
    (List.range (b.toNat + 1 - a.toNat)).map (fun i => (a.toNat + i).toUInt8) ++ byteSetFrom n rest
  | n + 1, c :: rest => bytesOf c.toString ++ byteSetFrom n rest

/-- The bytes that a set of `tr` lists. -/
def byteSet (s : String) : List UInt8 := byteSetFrom (s.length + 1) s.toList

/-- Replace the bytes of one set by those of another, whose last one stands for all further. -/
def replaceByte (source target : List UInt8) (b : UInt8) : UInt8 :=
  match source.idxOf? b with
  | some i => (target[i]?).getD (target.getLast?.getD b)
  | none => b

/-- Of bytes of a set that follow each other and are equal only the first. -/
def squeeze (s : List UInt8) (l : List UInt8) : List UInt8 :=
  (l.foldl (fun (out : List UInt8) b =>
    if s.contains b && out.head? = some b then out else b :: out) []).reverse

/-- The filter of `tr`. -/
def byteMap? : List String → Option (List UInt8 → List UInt8)
  | ["-d", a] => some fun l => l.filter fun b => !(byteSet a).contains b
  | ["-s", a] => some (squeeze (byteSet a))
  | [a, b] =>
    let source := byteSet a
    let target := byteSet b
    some fun l => l.map (replaceByte source target)
  | _ => none

/-! ## Fields -/

/-- The ranges that a list of `cut` names; without an end a range goes on for ever. -/
def ranges (s : String) : List (Nat × Option Nat) :=
  (s.splitOn ",").map fun r =>
    match r.splitOn "-" with
    | [a] => (Printing.count a.toList, some (Printing.count a.toList))
    | a :: b :: _ =>
      (max 1 (Printing.count a.toList), if b.isEmpty then none else some (Printing.count b.toList))
    | [] => (1, none)

/-- The members of a list whose places, from 1, lie in the ranges. -/
def pick {α : Type} (rs : List (Nat × Option Nat)) (l : List α) : List α :=
  ((l.zipIdx 1).filter fun m => rs.any fun r => r.1 ≤ m.2 && r.2.all fun last => m.2 ≤ last).map
    (·.1)

/-- The parts of bytes between separators. -/
def fieldsOf (separator : UInt8) (l : List UInt8) : List (List UInt8) :=
  let (done, current) := l.foldl
    (fun (done, current) b =>
      if b = separator then (current.reverse :: done, []) else (done, b :: current))
    (([], []) : List (List UInt8) × List UInt8)
  (current.reverse :: done).reverse

/-- What `cut` leaves of a line. -/
def cutLine (separator : UInt8) (fields : Bool) (rs : List (Nat × Option Nat))
    (line : List UInt8) : List UInt8 :=
  if !fields then pick rs line
  else if !line.contains separator then line
  else [separator].intercalate (pick rs (fieldsOf separator line))

/-- The filter of `cut`: what is given of the separator, the kind and the ranges. -/
def cutFrom : UInt8 → Option (Bool × String) → List String → Option Filter
  | d, chosen, a :: rest =>
    match a.toList, rest with
    | ['-', 'd'], s :: rest => cutFrom ((bytesOf s).headD d) chosen rest
    | '-' :: 'd' :: s, rest => cutFrom ((bytesOf (String.ofList s)).headD d) chosen rest
    | ['-', 'f'], s :: rest => cutFrom d (some (true, s)) rest
    | '-' :: 'f' :: s, rest => cutFrom d (some (true, String.ofList s)) rest
    | ['-', 'c'], s :: rest | ['-', 'b'], s :: rest => cutFrom d (some (false, s)) rest
    | '-' :: 'c' :: s, rest | '-' :: 'b' :: s, rest =>
      cutFrom d (some (false, String.ofList s)) rest
    | _, _ => build d chosen (a :: rest)
  | d, chosen, [] => build d chosen []
where
  /-- The filter of what was given. -/
  build (d : UInt8) (chosen : Option (Bool × String)) (files : List String) : Option Filter :=
    chosen.map fun (fields, s) =>
      { files := files
        apply := fun l => joinLines ((linesOf l).map (cutLine d fields (ranges s))) }

/-! ## Order -/

/-- The number that a line begins with. -/
def leadingNumber (line : List UInt8) : Int :=
  match Arithmetic.skipBlanks (charsOf line) with
  | '-' :: cs => -(Arithmetic.digits 10 0 cs).1
  | cs => (Arithmetic.digits 10 0 cs).1

/-- Lines in order, as the options say. -/
def sorted (options : List Char) (lines : List (List UInt8)) : List (List UInt8) :=
  let before (a b : List UInt8) : Bool :=
    if options.contains 'n' && leadingNumber a ≠ leadingNumber b then
      leadingNumber a ≤ leadingNumber b
    else decide (a ≤ b)
  let lines := lines.mergeSort before
  let lines := if options.contains 'r' then lines.reverse else lines
  if options.contains 'u' then lines.eraseDups else lines

/-- Lines without those that repeat the line before, each with how often it occurred. -/
def runs (lines : List (List UInt8)) : List (Nat × List UInt8) :=
  (lines.foldl (fun (out : List (Nat × List UInt8)) l =>
    match out with
    | (k, m) :: more => if l = m then (k + 1, m) :: more else (1, l) :: out
    | [] => [(1, l)]) []).reverse

/-- A number in a column. -/
def column (width n : Nat) : String :=
  let s := toString n
  String.ofList (List.replicate (width - s.length) ' ') ++ s

/-! ## Search -/

/-- Whether a line is one that is searched for. -/
def selects (options : List Char) (pattern : String) (line : List UInt8) : Bool :=
  let lower (cs : List Char) := if options.contains 'i' then cs.map Char.toLower else cs
  let cs := lower (charsOf line)
  let wanted := String.ofList (lower pattern.toList)
  let expressions := Regex.alternatives (options.contains 'E') wanted
  let found :=
    if options.contains 'F' then (Glob.ends cs).any wanted.toList.isPrefixOf
    else expressions.any fun e =>
      if options.contains 'x' then Regex.take? (e.items ++ [.lineEnd]) cs |>.isSome else e.isIn cs
  found != options.contains 'v'

/-- The filter of `grep`. -/
def search (options : List Char) (pattern : String) (files : List String) : Filter where
  files := files
  apply l :=
    let chosen := ((linesOf l).zipIdx 1).filter fun m => selects options pattern m.1
    if options.contains 'q' then []
    else if options.contains 'c' then bytesOf s!"{chosen.length}\n"
    else joinLines (chosen.map fun m =>
      if options.contains 'n' then bytesOf s!"{m.2}:" ++ m.1 else m.1)
  status l := if (linesOf l).any (selects options pattern) then 0 else 1

/-! ## Filters by name -/

/-- The letters of the options in front, and the other arguments. -/
def options : List String → List Char × List String
  | a :: rest =>
    match a.toList with
    | '-' :: c :: cs =>
      let (os, files) := options rest
      (c :: cs ++ os, files)
    | _ => ([], a :: rest)
  | [] => ([], [])

/-- The filter of a program with its arguments. -/
def ofArguments? (program : String) (args : List String) : Option Filter :=
  let (os, rest) := options args
  match program with
  | "cat" => some { files := args.filter (· ≠ "-"), apply := id }
  | "head" =>
    let (a, files) := amount args
    some { files := files, apply := head a }
  | "tail" =>
    let (a, files) := amount args
    some { files := files, apply := tail a }
  | "sort" => some { files := rest, apply := fun l => joinLines (sorted os (linesOf l)) }
  | "uniq" =>
    let shown (r : Nat × List UInt8) :=
      if os.contains 'c' then bytesOf (column 7 r.1 ++ " ") ++ r.2 else r.2
    some { files := rest, apply := fun l => joinLines ((runs (linesOf l)).map shown) }
  | "rev" =>
    let turned (line : List UInt8) := bytesOf (String.ofList (charsOf line).reverse)
    some { files := rest, apply := fun l => endingLike l (joinLines ((linesOf l).map turned)) }
  | "tac" => some { files := rest, apply := fun l => joinLines (linesOf l).reverse }
  | "tr" => (byteMap? args).map fun f => { apply := f }
  | "cut" => cutFrom 9 none args
  | "grep" | "egrep" | "fgrep" =>
    let os := match program with
      | "egrep" => 'E' :: os
      | "fgrep" => 'F' :: os
      | _ => os
    match rest with
    | pattern :: files => some (search os pattern files)
    | [] => none
  | _ => none

end Filter

end Testbed.Shell
