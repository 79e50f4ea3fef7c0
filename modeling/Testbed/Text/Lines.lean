/-!
# Lines and cuts

The lines of a text, and a text cut at the first occurrence of a character.
-/

namespace Testbed.Text

/-- A line without the carriage return at its end. -/
def dropReturn (line : List Char) : List Char :=
  if line.getLast? = some '\r' then line.dropLast else line

/-- The lines of a text, given the characters of the current line in reverse. A line ends at a
line feed, which a carriage return may precede; what follows the last line feed is a line only
if it is not empty, and keeps its carriage return. -/
def linesFrom (current : List Char) : List Char → List (List Char)
  | [] => if current.isEmpty then [] else [current.reverse]
  | c :: rest =>
    if c = '\n' then dropReturn current.reverse :: linesFrom [] rest
    else linesFrom (c :: current) rest

/-- The lines of a text. -/
def lines (cs : List Char) : List (List Char) := linesFrom [] cs

/-- What stands before and after the first occurrence of a character. -/
def cutAt? (mark : Char) : List Char → Option (List Char × List Char)
  | [] => none
  | c :: rest =>
    if c = mark then some ([], rest)
    else (cutAt? mark rest).map fun p => (c :: p.1, p.2)

theorem eq_of_cutAt? {mark : Char} {cs before after : List Char}
    (h : cutAt? mark cs = some (before, after)) : cs = before ++ mark :: after := by
  induction cs generalizing before after with
  | nil => simp [cutAt?] at h
  | cons c rest ih =>
    simp only [cutAt?] at h
    split at h
    · simp_all
    · obtain ⟨p, hp, he⟩ := Option.map_eq_some_iff.1 h
      obtain ⟨rfl, rfl⟩ := Prod.mk.inj he
      simp [ih hp]

end Testbed.Text
