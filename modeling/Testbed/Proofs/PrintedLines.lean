import Mathlib.Data.List.Basic
import Mathlib.Data.List.TakeWhile
import Testbed.Text.Blank
import Testbed.Text.Lines

/-!
# Lines and what is trimmed

What reading a text line by line gives, without the functions that do it.

* `trimChars_eq_iff`: trimming takes away blank characters around a text, and what it leaves has no
  blank character at either end.
* `cutAt?_eq_some_iff`: a cut is at the first occurrence of the mark.
* `lines_printed`: the lines of a text that is printed line by line are those that were printed. A
  carriage return counts as part of the line end, so a line that ends with one loses it.
* `exists_isLines`: every text consists of lines.
-/

namespace Testbed

namespace Text

variable {cs inner before after rest : List Char} {mark : Char}

/-! ## Trimming -/

/-- Neither end of a text is blank. -/
structure Tight (cs : List Char) : Prop where
  first : ∀ c, cs.head? = some c → isBlank c = false
  last : ∀ c, cs.getLast? = some c → isBlank c = false

theorem tight_iff : Tight cs ↔
    cs.head?.any isBlank = false ∧ cs.getLast?.any isBlank = false := by
  have single (o : Option Char) :
      o.any isBlank = false ↔ ∀ c, o = some c → isBlank c = false := by
    cases o <;> simp
  rw [single, single]
  exact ⟨fun tight => ⟨tight.first, tight.last⟩, fun ⟨first, last⟩ => ⟨first, last⟩⟩

instance (cs : List Char) : Decidable (Tight cs) := decidable_of_iff _ tight_iff.symm

/-- What is left of a text without the blank characters around it. -/
structure Trims (cs inner : List Char) : Prop extends Tight inner where
  around : ∃ before after, cs = before ++ inner ++ after ∧
    (∀ c ∈ before, isBlank c = true) ∧ ∀ c ∈ after, isBlank c = true

theorem trimStart_append (blank : ∀ c ∈ before, isBlank c = true)
    (first : ∀ c, rest.head? = some c → isBlank c = false) : trimStart (before ++ rest) = rest := by
  rw [trimStart, List.dropWhile_append_of_pos blank]
  cases rest with
  | nil => rfl
  | cons c rest => exact List.dropWhile_cons_of_neg (by simp [first c rfl])

theorem isBlank_of_head?_trimStart {c : Char} (first : (trimStart cs).head? = some c) :
    isBlank c = false := by
  have stops := List.head?_dropWhile_not isBlank cs
  rw [trimStart] at first
  rw [first] at stops
  simpa using stops

theorem exists_trimStart (cs : List Char) :
    ∃ before, cs = before ++ trimStart cs ∧ ∀ c ∈ before, isBlank c = true :=
  ⟨cs.takeWhile isBlank, List.takeWhile_append_dropWhile.symm, fun _ => List.mem_takeWhile_imp⟩

theorem trims_trimChars (cs : List Char) : Trims cs (trimChars cs) := by
  obtain ⟨before, whole, blank⟩ := exists_trimStart cs
  obtain ⟨behind, whole', blank'⟩ := exists_trimStart (trimStart cs).reverse
  have back : trimStart cs = trimChars cs ++ behind.reverse := by
    rw [trimChars, ← List.reverse_append, ← whole', List.reverse_reverse]
  refine ⟨⟨fun c first => ?_, fun c last => ?_⟩, before, behind.reverse, ?_, blank, ?_⟩
  · have first : (trimStart cs).head? = some c := by
      rw [back, List.head?_append, first]
      rfl
    exact isBlank_of_head?_trimStart first
  · rw [trimChars, List.getLast?_reverse] at last
    exact isBlank_of_head?_trimStart last
  · rw [List.append_assoc, ← back]
    exact whole
  · simpa using blank'

theorem Trims.trimChars_eq (trims : Trims cs inner) : trimChars cs = inner := by
  obtain ⟨before, after, rfl, blank, blank'⟩ := trims.around
  have front : trimStart (inner ++ after).reverse = inner.reverse := by
    rw [List.reverse_append]
    refine trimStart_append (by simpa using blank') fun c last => ?_
    rw [List.head?_reverse] at last
    exact trims.last c last
  by_cases empty : inner = []
  · subst empty
    have nothing : trimStart (before ++ [] ++ after) = [] := by
      rw [List.append_nil]
      refine List.dropWhile_eq_nil_iff.2 fun c mem => ?_
      rcases List.mem_append.1 mem with mem | mem
      · exact blank c mem
      · exact blank' c mem
    rw [trimChars, nothing]
    rfl
  · have start : trimStart (before ++ inner ++ after) = inner ++ after := by
      rw [List.append_assoc]
      refine trimStart_append blank fun c first => trims.first c ?_
      rwa [List.head?_append_of_ne_nil _ empty] at first
    rw [trimChars, start, front, List.reverse_reverse]

theorem trimChars_eq_iff : trimChars cs = inner ↔ Trims cs inner :=
  ⟨fun same => same ▸ trims_trimChars cs, Trims.trimChars_eq⟩

theorem trimChars_concat {c : Char} (blank : isBlank c = true) (cs : List Char) :
    trimChars (cs ++ [c]) = trimChars cs := by
  obtain ⟨tight, before, after, whole, blanks, blanks'⟩ := trims_trimChars cs
  refine trimChars_eq_iff.2 ⟨tight, before, after ++ [c], ?_, blanks, ?_⟩
  · rw [← List.append_assoc, ← whole]
  · intro d mem
    rcases List.mem_append.1 mem with mem | mem
    · exact blanks' d mem
    · exact List.mem_singleton.1 mem ▸ blank

/-! ## Cuts -/

theorem cutAt?_eq_some_iff :
    cutAt? mark cs = some (before, after) ↔ cs = before ++ mark :: after ∧ mark ∉ before := by
  constructor
  · intro cut
    refine ⟨eq_of_cutAt? cut, ?_⟩
    induction cs generalizing before with
    | nil => cases cut
    | cons c cs ih =>
      rw [cutAt?] at cut
      split at cut
      · cases cut
        exact List.not_mem_nil
      · next other =>
        obtain ⟨p, later, same⟩ := Option.map_eq_some_iff.1 cut
        cases same
        simp [Ne.symm other, ih later]
  · rintro ⟨rfl, plain⟩
    induction before with
    | nil => simp [cutAt?]
    | cons c before ih =>
      simp only [List.mem_cons, not_or] at plain
      rw [List.cons_append, cutAt?, if_neg (Ne.symm plain.1), ih plain.2]
      rfl

theorem cutAt?_concat {c : Char} (other : c ≠ mark) (cs : List Char) :
    cutAt? mark (cs ++ [c]) = (cutAt? mark cs).map fun p => (p.1, p.2 ++ [c]) := by
  induction cs with
  | nil => simp [cutAt?, other]
  | cons d cs ih =>
    rw [List.cons_append, cutAt?, cutAt?, ih]
    split
    · rfl
    · cases cutAt? mark cs <;> rfl

/-! ## Lines -/

/-- How a line ends. -/
inductive LineEnd
  | lineFeed
  | returnLineFeed

/-- The characters at the end of a line. -/
def LineEnd.chars : LineEnd → List Char
  | lineFeed => ['\n']
  | returnLineFeed => ['\r', '\n']

/-- The text that consists of lines with their ends, and of a line that has none. -/
def printed (ended : List (List Char × LineEnd)) (last : List Char) : List Char :=
  ended.flatMap (fun l => l.1 ++ l.2.chars) ++ last

/-- What a printed line reads as. -/
def readBack : List Char × LineEnd → List Char
  | (line, .lineFeed) => dropReturn line
  | (line, .returnLineFeed) => line

theorem linesFrom_of_notMem {line : List Char} (plain : '\n' ∉ line) (current : List Char) :
    linesFrom current line =
      if current.reverse ++ line = [] then [] else [current.reverse ++ line] := by
  induction line generalizing current with
  | nil => simp [linesFrom]
  | cons c line ih =>
    simp only [List.mem_cons, not_or] at plain
    rw [linesFrom, if_neg (Ne.symm plain.1), ih plain.2]
    simp

theorem linesFrom_append {line : List Char} (plain : '\n' ∉ line) (current rest : List Char) :
    linesFrom current (line ++ '\n' :: rest) =
      dropReturn (current.reverse ++ line) :: linesFrom [] rest := by
  induction line generalizing current with
  | nil => simp [linesFrom]
  | cons c line ih =>
    simp only [List.mem_cons, not_or] at plain
    rw [List.cons_append, linesFrom, if_neg (Ne.symm plain.1), ih plain.2]
    simp

theorem lines_append {line : List Char} (plain : '\n' ∉ line) (ends : LineEnd)
    (rest : List Char) :
    lines (line ++ ends.chars ++ rest) = readBack (line, ends) :: lines rest := by
  cases ends with
  | lineFeed =>
    have first := linesFrom_append plain [] rest
    rwa [LineEnd.chars, List.append_assoc, List.singleton_append]
  | returnLineFeed =>
    have plain' : '\n' ∉ line ++ ['\r'] := by simpa using plain
    have first := linesFrom_append plain' [] rest
    have same : dropReturn (line ++ ['\r']) = line := by simp [dropReturn]
    rw [List.reverse_nil, List.nil_append, same] at first
    rw [LineEnd.chars, lines, readBack, lines, ← first]
    simp

/-- **The lines of a printed text** are those that were printed. -/
theorem lines_printed {ended : List (List Char × LineEnd)} {last : List Char}
    (plain : ∀ line ∈ ended.map (·.1) ++ [last], '\n' ∉ line) :
    lines (printed ended last) =
      ended.map readBack ++ if last = [] then [] else [last] := by
  induction ended with
  | nil => exact linesFrom_of_notMem (plain last (List.mem_singleton_self last)) []
  | cons l ended ih =>
    obtain ⟨here, plain⟩ := List.forall_mem_cons.1 plain
    have whole : printed (l :: ended) last = l.1 ++ l.2.chars ++ printed ended last := by
      simp [printed]
    rw [whole, lines_append here, ih plain]
    rfl

/-- A text consists of these lines: behind each but the last comes a line feed, with or without a
carriage return before it. Behind a line feed at the end of the text, the last line is empty. -/
def IsLines (cs : List Char) (ls : List (List Char)) : Prop :=
  ∃ ended last, cs = printed ended last ∧ ls = ended.map (·.1) ++ [last] ∧ ∀ line ∈ ls, '\n' ∉ line

theorem exists_isLines (cs : List Char) : ∃ ls, IsLines cs ls := by
  suffices whole : ∃ ended last, cs = printed ended last ∧
      ∀ line ∈ ended.map (·.1) ++ [last], '\n' ∉ line by
    obtain ⟨ended, last, whole, plain⟩ := whole
    exact ⟨_, ended, last, whole, rfl, plain⟩
  induction cs with
  | nil => exact ⟨[], [], rfl, by simp⟩
  | cons c cs ih =>
    obtain ⟨ended, last, rfl, plain⟩ := ih
    by_cases feed : c = '\n'
    · subst feed
      refine ⟨([], .lineFeed) :: ended, last, rfl, ?_⟩
      exact List.forall_mem_cons.2 ⟨List.not_mem_nil, plain⟩
    · cases ended with
      | nil =>
        refine ⟨[], c :: last, rfl, ?_⟩
        simpa [Ne.symm feed] using plain
      | cons l ended =>
        obtain ⟨first, plain⟩ := List.forall_mem_cons.1 plain
        refine ⟨(c :: l.1, l.2) :: ended, last, rfl, ?_⟩
        refine List.forall_mem_cons.2 ⟨?_, plain⟩
        simpa [Ne.symm feed] using first

end Text

end Testbed
