/-!
# The characters of TOML

Blank space, comments, names and strings as they stand in a document. Each scanner takes the
characters at its place and returns what it read with the characters after it.
-/

namespace Testbed.Toml

/-! ## Character classes -/

/-- Space and tab. -/
def isSpace (c : Char) : Bool := c = ' ' || c = '\t'

/-- A control character that no comment and no string may hold. -/
def isForbidden (c : Char) : Bool := (c.toNat < 0x20 && c != '\t') || c.toNat = 0x7F

/-- The characters of a bare name. -/
def isBareChar (c : Char) : Bool := c.isAlphanum || c = '_' || c = '-'

/-- The value of a hexadecimal digit. -/
def hexValue? (c : Char) : Option Nat :=
  if c.isDigit then some (c.toNat - '0'.toNat)
  else if 'a' ≤ c ∧ c ≤ 'f' then some (c.toNat - 'a'.toNat + 10)
  else if 'A' ≤ c ∧ c ≤ 'F' then some (c.toNat - 'A'.toNat + 10)
  else none

/-- The character with the code point that hexadecimal digits give. -/
def charOfHex? (digits : List Char) : Option Char := do
  let values ← digits.mapM hexValue?
  let code := values.foldl (fun n d => n * 16 + d) 0
  if code.isValidChar then some (Char.ofNat code) else none

/-! ## Space, comments, line ends -/

/-- Skip spaces and tabs. -/
def skipSpace (cs : List Char) : List Char := cs.dropWhile isSpace

/-- What follows a line end, if there is one here. -/
def lineEnd? : List Char → Option (List Char)
  | '\n' :: rest => some rest
  | '\r' :: '\n' :: rest => some rest
  | _ => none

/-- Skip a comment if there is one here, up to its line end. -/
def skipComment (cs : List Char) : List Char :=
  match cs with
  | '#' :: rest => rest.dropWhile fun c => !isForbidden c
  | _ => cs

/-- Skip spaces, comments and line ends; a comment ends at a line end or with the text. -/
def skipLines : Nat → List Char → Option (List Char)
  | 0, cs => some cs
  | fuel + 1, cs =>
    match skipSpace cs with
    | '#' :: rest =>
      let after := skipComment ('#' :: rest)
      match lineEnd? after with
      | some next => skipLines fuel next
      | none => if after.isEmpty then some [] else none
    | here =>
      match lineEnd? here with
      | some next => skipLines fuel next
      | none => some here

/-! ## Strings -/

/-- The character that a one-letter escape stands for. -/
def escaped? : Char → Option Char
  | 'b' => some '\x08'
  | 't' => some '\t'
  | 'n' => some '\n'
  | 'f' => some '\x0c'
  | 'r' => some '\r'
  | '"' => some '"'
  | '\\' => some '\\'
  | _ => none

/-- Put a character in front of a scanned text. -/
def consText (c : Char) (r : Option (List Char × List Char)) : Option (List Char × List Char) :=
  r.map fun p => (c :: p.1, p.2)

/-- The rest of a basic string. -/
def basicBody : List Char → Option (List Char × List Char)
  | [] => none
  | '"' :: rest => some ([], rest)
  | '\\' :: 'u' :: a :: b :: c :: d :: rest =>
    match charOfHex? [a, b, c, d] with
    | some ch => consText ch (basicBody rest)
    | none => none
  | '\\' :: 'U' :: a :: b :: c :: d :: e :: f :: g :: h :: rest =>
    match charOfHex? [a, b, c, d, e, f, g, h] with
    | some ch => consText ch (basicBody rest)
    | none => none
  | '\\' :: c :: rest =>
    match escaped? c with
    | some ch => consText ch (basicBody rest)
    | none => none
  | c :: rest => if isForbidden c then none else consText c (basicBody rest)

/-- The rest of a literal string. -/
def literalBody : List Char → Option (List Char × List Char)
  | [] => none
  | c :: rest =>
    if c = '\'' then some ([], rest)
    else if isForbidden c then none
    else consText c (literalBody rest)

/-- Whether a backslash here ends its line: only space stands between it and the line end. -/
def continues (afterBackslash : List Char) : Bool :=
  (lineEnd? (skipSpace afterBackslash)).isSome

/-- The rest of a multi-line basic string. `joining` says that the last line ended with a
backslash and that blank space up to the next character belongs to it. -/
def multiBasicBody (joining : Bool) : List Char → Option (List Char × List Char)
  | [] => none
  | '"' :: '"' :: '"' :: '"' :: '"' :: rest => some (['"', '"'], rest)
  | '"' :: '"' :: '"' :: '"' :: rest => some (['"'], rest)
  | '"' :: '"' :: '"' :: rest => some ([], rest)
  | '\\' :: 'u' :: a :: b :: c :: d :: rest =>
    match charOfHex? [a, b, c, d] with
    | some ch => consText ch (multiBasicBody false rest)
    | none => none
  | '\\' :: 'U' :: a :: b :: c :: d :: e :: f :: g :: h :: rest =>
    match charOfHex? [a, b, c, d, e, f, g, h] with
    | some ch => consText ch (multiBasicBody false rest)
    | none => none
  | '\\' :: c :: rest =>
    match escaped? c with
    | some ch => consText ch (multiBasicBody false rest)
    | none => if continues (c :: rest) then multiBasicBody true (c :: rest) else none
  | '\r' :: '\n' :: rest =>
    if joining then multiBasicBody true rest else consText '\n' (multiBasicBody false rest)
  | c :: rest =>
    if joining && (isSpace c || c = '\n') then multiBasicBody true rest
    else if c = '\n' then consText '\n' (multiBasicBody false rest)
    else if isForbidden c then none
    else consText c (multiBasicBody false rest)

/-- The rest of a multi-line literal string. -/
def multiLiteralBody : List Char → Option (List Char × List Char)
  | [] => none
  | '\'' :: '\'' :: '\'' :: '\'' :: '\'' :: rest => some (['\'', '\''], rest)
  | '\'' :: '\'' :: '\'' :: '\'' :: rest => some (['\''], rest)
  | '\'' :: '\'' :: '\'' :: rest => some ([], rest)
  | '\r' :: '\n' :: rest => consText '\n' (multiLiteralBody rest)
  | c :: rest =>
    if c != '\n' && isForbidden c then none else consText c (multiLiteralBody rest)

/-- A line end directly after the opening marks of a multi-line string does not count. -/
def dropFirstLineEnd (cs : List Char) : List Char := (lineEnd? cs).getD cs

/-- A string of any of the four forms. -/
def string? : List Char → Option (List Char × List Char)
  | '"' :: '"' :: '"' :: rest => multiBasicBody false (dropFirstLineEnd rest)
  | '\'' :: '\'' :: '\'' :: rest => multiLiteralBody (dropFirstLineEnd rest)
  | '"' :: rest => basicBody rest
  | '\'' :: rest => literalBody rest
  | _ => none

/-! ## Keys -/

/-- One name of a key: bare, or a string on one line. -/
def name? : List Char → Option (String × List Char)
  | '"' :: rest => (basicBody rest).map fun p => (String.ofList p.1, p.2)
  | '\'' :: rest => (literalBody rest).map fun p => (String.ofList p.1, p.2)
  | cs =>
    let bare := cs.takeWhile isBareChar
    if bare.isEmpty then none else some (String.ofList bare, cs.dropWhile isBareChar)

/-- The most names that a key may join, and the most arrays and tables that may stand inside one
another, are both below this number. -/
def nestingLimit : Nat := 80

/-- The names of a key joined by points, at most `fuel` of them. -/
def keyFrom : Nat → List Char → Option (List String × List Char)
  | 0, _ => none
  | fuel + 1, cs => do
    let (first, rest) ← name? (skipSpace cs)
    match skipSpace rest with
    | '.' :: more => do
      let (names, after) ← keyFrom fuel more
      some (first :: names, after)
    | after => some ([first], after)

/-- A key with the space around it; refused when it joins too many names. -/
def key? (cs : List Char) : Option (List String × List Char) := keyFrom (nestingLimit - 1) cs

end Testbed.Toml
