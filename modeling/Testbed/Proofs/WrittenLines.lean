import Testbed.Proofs.WrittenValues

/-!
# Reading back written lines

A document is written as blocks of lines with empty lines between them. Each line is read back
(`Line.read`), and what it makes of the document it is read into is a function of the line alone
(`Line.apply`), so the text of a document counts from here on only as a list of lines.

**Theorem (`Document.read?_writeLines`).** What is written as blocks of lines is read as the
document that these lines make one after the other.
-/

namespace Testbed.Toml

/-! ## Lines -/

/-- The lines that are written. -/
inductive Line
  /-- A key with its value. -/
  | pair (name : String) (v : Value)
  /-- The heading of a table. -/
  | table (path : List String) (name : String)
  /-- The heading of a table in an array. -/
  | element (path : List String) (name : String)

namespace Line

/-- The line as it is written. -/
def text : Line → String
  | pair name v => writeLine name v
  | table path name => "[" ++ writePath (path ++ [name]) ++ "]\n"
  | element path name => "[[" ++ writePath (path ++ [name]) ++ "]]\n"

/-- What the line makes of a document that is read. -/
def apply (d : Draft) : Line → Option Draft
  | pair name v => d.add [name] v
  | table path name =>
    (Node.openTable path name d.fields).map fun fields => ⟨fields, path ++ [name]⟩
  | element path name =>
    (Node.openElement path name d.fields).map fun fields => ⟨fields, path ++ [name]⟩

/-- The value stands on the line of its key, and the path is not longer than a key may be. -/
def Fits : Line → Prop
  | pair _ v => Inline v
  | table path _ | element path _ => path.length + 1 < nestingLimit

theorem finishLine?_newline (rest : List Char) : finishLine? ('\n' :: rest) = some rest := rfl

theorem starts_writePath (path : List String) (name : String) (rest : List Char) :
    ∃ c cs, (writePath (path ++ [name])).toList ++ rest = c :: cs ∧ Opens c := by
  cases path with
  | nil =>
    obtain ⟨c, cs, written, opens⟩ := head_writeName name
    exact ⟨c, cs ++ rest, by simp [writePath, written], opens⟩
  | cons n path =>
    obtain ⟨c, cs, written, opens⟩ := head_writeName n
    cases path with
    | nil => exact ⟨c, _, by simp [writePath, written]; rfl, opens⟩
    | cons m path => exact ⟨c, _, by simp [writePath, written]; rfl, opens⟩

theorem heading?_writePath {path : List String} (name : String)
    (fits : path.length + 1 < nestingLimit) (rest : List Char) :
    heading? ((writePath (path ++ [name])).toList ++ ']' :: rest) =
      some (path, name, ']' :: rest) := by
  have key : keyFrom (nestingLimit - 1) ((writePath (path ++ [name])).toList ++ ']' :: rest) =
      some (path ++ [name], ']' :: rest) := keyFrom_writePath (by simp) (by simp; omega) rest
  simp [heading?, key?, key]

theorem starts (l : Line) (rest : List Char) : Starts (l.text.toList ++ rest) := by
  cases l with
  | pair name v =>
    have written : (text (pair name v)).toList ++ rest =
        (writeName name).toList ++ (" = ".toList ++ ((writeValue v).toList ++ '\n' :: rest)) := by
      simp [text, writeLine]
    rw [written]
    exact starts_writeName name _
  | table path name =>
    simp only [text, String.toList_append]
    exact starts_bracket _
  | element path name =>
    simp only [text, String.toList_append]
    exact starts_bracket _

theorem line?_pair (name : String) {v : Value} {d d' : Draft} {more rest : List Char}
    (starts : Starts more)
    (read : value? (nestingLimit - 1) (2 * (' ' :: more).length + 2) more = some (v, '\n' :: rest))
    (added : d.add [name] v = some d') :
    line? d ((writeName name).toList ++ ' ' :: '=' :: ' ' :: more) = some (d', rest) := by
  have key : key? ((writeName name).toList ++ ' ' :: '=' :: ' ' :: more) =
      some ([name], '=' :: ' ' :: more) :=
    keyFrom_last name (fun c first => by cases first; rfl) nofun
  have blank : skipSpace (' ' :: more) = more := starts.skipSpace
  obtain ⟨c, cs, head, opens⟩ := head_writeName name
  have noHeading : ∀ after,
      (writeName name).toList ++ ' ' :: '=' :: ' ' :: more ≠ '[' :: after := by
    intro after same
    rw [head] at same
    exact opens.ne rfl (List.cons.inj same).1
  rw [line?.eq_3 _ _ (fun _ => noHeading _) noHeading, key]
  simp only [Option.bind_eq_bind, Option.bind_some, blank, read, added, finishLine?_newline]

theorem line?_table {path : List String} {name : String} {d : Draft} {fields : Node.Fields}
    (fits : path.length + 1 < nestingLimit)
    (opened : Node.openTable path name d.fields = some fields) (rest : List Char) :
    line? d ('[' :: ((writePath (path ++ [name])).toList ++ ']' :: '\n' :: rest)) =
      some (⟨fields, path ++ [name]⟩, rest) := by
  have heading := heading?_writePath name fits ('\n' :: rest)
  obtain ⟨c, cs, head, opens⟩ := starts_writePath path name (']' :: '\n' :: rest)
  have single : ∀ after,
      (writePath (path ++ [name])).toList ++ ']' :: '\n' :: rest ≠ '[' :: after := by
    intro after same
    rw [head] at same
    exact opens.ne rfl (List.cons.inj same).1
  rw [line?.eq_2 _ _ single, heading]
  simp only [Option.bind_eq_bind, Option.bind_some, opened, finishLine?_newline]

theorem line?_element {path : List String} {name : String} {d : Draft} {fields : Node.Fields}
    (fits : path.length + 1 < nestingLimit)
    (opened : Node.openElement path name d.fields = some fields) (rest : List Char) :
    line? d ('[' :: '[' :: ((writePath (path ++ [name])).toList ++ ']' :: ']' :: '\n' :: rest)) =
      some (⟨fields, path ++ [name]⟩, rest) := by
  have heading := heading?_writePath name fits (']' :: '\n' :: rest)
  rw [line?.eq_1, heading]
  simp only [Option.bind_eq_bind, Option.bind_some, opened, finishLine?_newline]

/-- **A line is read back**, with the effect it stands for. -/
theorem read {l : Line} {d d' : Draft} (fits : l.Fits) (applied : l.apply d = some d')
    (rest : List Char) : line? d (l.text.toList ++ rest) = some (d', rest) := by
  cases l with
  | pair name v =>
    have inl : Inline v := fits
    have value : value? (nestingLimit - 1)
        (2 * (' ' :: ((writeValue v).toList ++ '\n' :: rest)).length + 2)
        ((writeValue v).toList ++ '\n' :: rest) = some (v, '\n' :: rest) :=
      inl.read ⟨'\n', rest, rfl, .inl rfl⟩ (by simp [String.length_toList]; omega)
    have pair := line?_pair name (inl.starts _) value applied
    simpa [text, writeLine] using pair
  | table path name =>
    obtain ⟨fields, opened, rfl⟩ := Option.map_eq_some_iff.1 applied
    simpa [text] using line?_table fits opened rest
  | element path name =>
    obtain ⟨fields, opened, rfl⟩ := Option.map_eq_some_iff.1 applied
    simpa [text] using line?_element fits opened rest

end Line

/-! ## Documents -/

theorem lines?_newline (fuel : Nat) (d : Draft) (cs : List Char) :
    lines? (fuel + 1) d ('\n' :: cs) = lines? (fuel + 1) d cs := by
  rw [lines?, lines?, List.length_cons, skipLines_newline]

theorem lines?_line {fuel : Nat} {l : Line} {d d' : Draft} (fits : l.Fits)
    (applied : l.apply d = some d') (rest : List Char) :
    lines? (fuel + 1) d (l.text.toList ++ rest) = lines? fuel d' rest := by
  have starts := l.starts rest
  have read := l.read fits applied rest
  have skipped := starts.skipLines (l.text.toList ++ rest).length
  rw [lines?, skipped, Option.bind_eq_bind, Option.bind_some]
  obtain ⟨c, cs, chars, -⟩ := starts
  rw [chars] at read ⊢
  simp only [read, Option.bind_eq_bind, Option.bind_some]

/-- The text of a block of lines. -/
def blockText (ls : List Line) : String := String.join (ls.map Line.text)

/-- The text of several blocks, with empty lines between them. -/
def writeLines (blocks : List (List Line)) : String := "\n".intercalate (blocks.map blockText)

/-- The remaining lines make the first document the second. -/
def Ends (d : Draft) (cs : List Char) (d' : Draft) : Prop :=
  ∀ fuel, cs.length < fuel → lines? fuel d cs = some d'

namespace Ends

variable {d d' : Draft} {cs : List Char}

theorem nil (d : Draft) : Ends d [] d := by
  rintro (_ | fuel) enough
  · cases enough
  · rfl

theorem newline (ends : Ends d cs d') : Ends d ('\n' :: cs) d' := by
  rintro (_ | fuel) enough
  · cases enough
  · rw [lines?_newline]
    exact ends _ (Nat.lt_of_succ_lt enough)

theorem line {l : Line} {after : Draft} (ends : Ends after cs d') (fits : l.Fits)
    (applied : l.apply d = some after) : Ends d (l.text.toList ++ cs) d' := by
  rintro (_ | fuel) enough
  · cases enough
  · obtain ⟨c, text, chars, -⟩ := l.starts []
    rw [List.append_nil] at chars
    rw [lines?_line fits applied]
    exact ends fuel (by simp [chars] at enough; omega)

theorem lines {ls : List Line} {after : Draft} (ends : Ends after cs d') (fits : ∀ l ∈ ls, l.Fits)
    (applied : ls.foldlM Line.apply d = some after) :
    Ends d ((blockText ls).toList ++ cs) d' := by
  induction ls generalizing d with
  | nil =>
    cases applied
    simpa [blockText] using ends
  | cons l ls ih =>
    rw [List.foldlM_cons] at applied
    obtain ⟨next, first, later⟩ := Option.bind_eq_some_iff.1 applied
    have rest := ih (fun k mem => fits k (List.mem_cons_of_mem _ mem)) later
    have whole := rest.line (fits l List.mem_cons_self) first
    simpa [blockText] using whole

end Ends

theorem ends_writeLines {blocks : List (List Line)} {d d' : Draft}
    (fits : ∀ ls ∈ blocks, ∀ l ∈ ls, l.Fits)
    (applied : blocks.flatten.foldlM Line.apply d = some d') :
    Ends d (writeLines blocks).toList d' := by
  induction blocks generalizing d with
  | nil =>
    cases applied
    exact .nil _
  | cons ls blocks ih =>
    rw [List.flatten_cons, List.foldlM_append] at applied
    obtain ⟨next, first, later⟩ := Option.bind_eq_some_iff.1 applied
    have rest := ih (fun k mem => fits k (List.mem_cons_of_mem _ mem)) later
    have here := fits ls List.mem_cons_self
    cases blocks with
    | nil =>
      cases later
      simpa [writeLines] using (Ends.nil _).lines here first
    | cons more blocks =>
      simpa [writeLines] using rest.newline.lines here first

theorem unmarked_writeLines (blocks : List (List Line)) :
    (writeLines blocks).toList.head? ≠ some '\ufeff' := by
  match blocks with
  | [] => simp [writeLines]
  | [[]] => simp [writeLines, blockText]
  | [] :: _ :: _ => simp [writeLines, blockText]
  | (l :: ls) :: blocks =>
    obtain ⟨rest, written⟩ : ∃ rest,
        (writeLines ((l :: ls) :: blocks)).toList = l.text.toList ++ rest := by
      cases blocks <;> exact ⟨_, by simp [writeLines, blockText]; rfl⟩
    obtain ⟨c, cs, chars, -, -, -, -, mark⟩ := l.starts rest
    rw [written, chars]
    simpa using mark

/-- **What is written as blocks of lines is read as the document the lines make.** -/
theorem Document.read?_writeLines {blocks : List (List Line)} {d : Draft}
    (fits : ∀ ls ∈ blocks, ∀ l ∈ ls, l.Fits)
    (applied : blocks.flatten.foldlM Line.apply {} = some d) :
    Document.read? (writeLines blocks) = some (Node.closeFields d.fields) := by
  have read := ends_writeLines fits applied _ (Nat.lt_succ_self _)
  have unmarked := unmarked_writeLines blocks
  simp [Document.read?, unmarked, read]

end Testbed.Toml
