import Testbed.Toml.Printer
import Testbed.Toml.Reader

/-!
# Reading back written strings

A string is written in the plainest of four forms that can hold it, and the reader tells the forms
apart by their marks. On one line all marks are escaped. On several lines only every third of a run
is, so the closing marks may stand directly behind one or two marks of the text; the reader counts
them from the left (`multiBasicBody_inside`, `multiLiteralBody_plain`).

**Theorem (`string?_writeString`).** Every string is read back, whatever stands in it, if no
quotation mark follows it.
-/

namespace Testbed.Toml

/-! ## Escapes -/

theorem hexValue?_toUpper : ∀ n < 16, hexValue? (Nat.digitChar n).toUpper = some n := by
  decide

/-- A character whose code point has four digits is read back from them. -/
theorem charOfHex?_hexDigits4 {c : Char} (low : c.toNat < 0x10000) :
    charOfHex? (hexDigits4 c.toNat) = some c := by
  have digit (n : Nat) : hexValue? (Nat.digitChar (n % 16)).toUpper = some (n % 16) :=
    hexValue?_toUpper _ (Nat.mod_lt n (by decide))
  have code : ((c.toNat / 4096 % 16 * 16 + c.toNat / 256 % 16) * 16 + c.toNat / 16 % 16) * 16 +
      c.toNat % 16 = c.toNat := by omega
  have valid : c.toNat.isValidChar := c.valid
  simp [charOfHex?, hexDigits4, digit, code, valid]

theorem low_of_isForbidden {c : Char} (forbidden : isForbidden c = true) : c.toNat < 0x10000 := by
  simp only [isForbidden, Bool.or_eq_true, Bool.and_eq_true, decide_eq_true_eq] at forbidden
  omega

theorem basicBody_escapeChar {c : Char} (other : c ≠ '"') (cs : List Char) :
    basicBody (escapeChar false c ++ cs) = consText c (basicBody cs) := by
  unfold escapeChar
  split
  case h_7 backslash _ =>
    split
    · next forbidden =>
      have read := charOfHex?_hexDigits4 (low_of_isForbidden forbidden)
      simp only [hexDigits4, List.map_cons, List.map_nil] at read
      simp [hexDigits4, basicBody, read]
    · next plain => simp_all [basicBody]
  all_goals simp [basicBody, escaped?]

theorem multiBasicBody_escapeChar {c : Char} (other : c ≠ '"') (cs : List Char) :
    multiBasicBody false (escapeChar true c ++ cs) = consText c (multiBasicBody false cs) := by
  unfold escapeChar
  split
  case h_7 backslash _ =>
    split
    · next forbidden =>
      have read := charOfHex?_hexDigits4 (low_of_isForbidden forbidden)
      simp only [hexDigits4, List.map_cons, List.map_nil] at read
      simp [hexDigits4, multiBasicBody, read]
    · next plain => simp_all [multiBasicBody]
  all_goals simp [multiBasicBody, escaped?]

/-! ## Strings on one line -/

theorem basicBody_inside (run : Nat) (cs rest : List Char) :
    basicBody (basicInside false run cs ++ '"' :: rest) = some (cs, rest) := by
  induction cs generalizing run with
  | nil => rfl
  | cons c cs ih =>
    by_cases mark : c = '"'
    · subst mark
      simp [basicInside, basicBody, escaped?, ih, consText]
    · rw [basicInside, if_neg mark, List.append_assoc, basicBody_escapeChar mark, ih]
      rfl

theorem literalBody_plain {cs : List Char} (rest : List Char)
    (plain : ∀ c ∈ cs, c ≠ '\'' ∧ isForbidden c = false) :
    literalBody (cs ++ '\'' :: rest) = some (cs, rest) := by
  induction cs with
  | nil => rfl
  | cons c cs ih =>
    obtain ⟨mark, allowed⟩ := plain c List.mem_cons_self
    rw [List.cons_append, literalBody, if_neg mark, allowed,
      ih fun d mem => plain d (List.mem_cons_of_mem _ mem)]
    rfl

/-! ## Strings on several lines -/

/-- What comes out of an escape is no quotation mark and ends no line, unless the character does. -/
theorem head_escapeChar (multiline : Bool) {c : Char} (other : c ≠ '"') :
    ∃ d ds, escapeChar multiline c = d :: ds ∧ d ≠ '"' ∧ d ≠ '\r' ∧ (c ≠ '\n' → d ≠ '\n') := by
  unfold escapeChar
  split
  case h_6 => cases multiline <;> exact ⟨_, _, rfl, by decide, by decide, by decide⟩
  case h_7 =>
    split
    · exact ⟨_, _, rfl, by decide, by decide, fun _ => by decide⟩
    · next allowed =>
      refine ⟨c, [], rfl, other, ?_, id⟩
      rintro rfl
      exact allowed rfl
  all_goals exact ⟨_, _, rfl, by decide, by decide, fun _ => by decide⟩

/-- A single mark that no two others follow. -/
theorem multiBasicBody_mark {cs : List Char} (apart : ∀ rest, cs ≠ '"' :: '"' :: rest) :
    multiBasicBody false ('"' :: cs) = consText '"' (multiBasicBody false cs) := by
  rw [multiBasicBody.eq_9]
  · simp [isForbidden]
  all_goals grind

/-- After two marks in a row, and where the text has none, what is written next is no mark. -/
theorem head_basicInside (run : Nat) {c : Char} (other : c = '"' → run = 2) (cs : List Char) :
    ∃ d ds, basicInside true run (c :: cs) = d :: ds ∧ d ≠ '"' := by
  by_cases mark : c = '"'
  · rw [other mark]
    exact ⟨'\\', '"' :: basicInside true 0 cs, by simp [basicInside, mark], by decide⟩
  · obtain ⟨d, ds, written, plain, -⟩ := head_escapeChar true mark
    exact ⟨d, ds ++ basicInside true 0 cs, by simp [basicInside, mark, written], plain⟩

/-- The closing marks may follow directly on one or two marks of the text, but no third. -/
theorem multiBasicBody_inside {run : Nat} (few : run ≤ 2) (cs rest : List Char)
    (apart : ∀ c ∈ rest.head?, c ≠ '"') :
    multiBasicBody false (basicInside true run cs ++ '"' :: '"' :: '"' :: rest) =
      some (cs, rest) := by
  -- The marks at the end are read together with those that close the string.
  have ends (marks : List Char) (short : marks = [] ∨ marks = ['"'] ∨ marks = ['"', '"']) :
      multiBasicBody false (marks ++ '"' :: '"' :: '"' :: rest) = some (marks, rest) := by
    cases rest with
    | nil => rcases short with rfl | rfl | rfl <;> rfl
    | cons c rest =>
      have other := apart c rfl
      rcases short with rfl | rfl | rfl <;> simp [multiBasicBody, other]
  induction cs generalizing run with
  | nil => exact ends [] (.inl rfl)
  | cons c cs ih =>
    by_cases mark : c = '"'
    · subst mark
      by_cases third : run = 2
      · subst third
        simp [basicInside, multiBasicBody, escaped?, ih, consText]
      · have two : run < 2 := by omega
        have written : basicInside true run ('"' :: cs) = '"' :: basicInside true (run + 1) cs := by
          simp [basicInside, two]
        have later := @ih (run + 1) (by omega)
        rw [written, List.cons_append]
        cases cs with
        | nil => exact ends ['"'] (.inr (.inl rfl))
        | cons d ds =>
          by_cases again : d = '"' ∧ run = 0
          · obtain ⟨rfl, rfl⟩ := again
            cases ds with
            | nil => exact ends ['"', '"'] (.inr (.inr rfl))
            | cons e es =>
              obtain ⟨x, xs, inside, other⟩ := head_basicInside 2 (c := e) (fun _ => rfl) es
              have second : basicInside true 1 ('"' :: e :: es) = '"' :: x :: xs := by
                rw [← inside]
                simp [basicInside]
              rw [multiBasicBody_mark, later]
              · rfl
              · rw [second]
                exact fun _ same => other (List.cons.inj (List.cons.inj same).2).1
          · obtain ⟨x, xs, inside, other⟩ := head_basicInside (run + 1) (c := d)
              (fun mark => by
                have : run ≠ 0 := fun zero => again ⟨mark, zero⟩
                omega) ds
            rw [multiBasicBody_mark, later]
            · rfl
            · rw [inside]
              exact fun _ same => other (List.cons.inj same).1
    · rw [basicInside, if_neg mark, List.append_assoc, multiBasicBody_escapeChar mark,
        ih (by omega)]
      rfl

/-- In this text no three of these marks stand in a row. -/
def NoTriple (mark : Char) (cs : List Char) : Prop :=
  ∀ front back, cs ≠ front ++ mark :: mark :: mark :: back

theorem NoTriple.tail {mark c : Char} {cs : List Char} (none : NoTriple mark (c :: cs)) :
    NoTriple mark cs := fun front back same => none (c :: front) back (by rw [same]; rfl)

theorem multiLiteralBody_plain {cs : List Char} (rest : List Char)
    (plain : ∀ c ∈ cs, needsEscape c = false) (none : NoTriple '\'' cs)
    (apart : ∀ c ∈ rest.head?, c ≠ '\'') :
    multiLiteralBody (cs ++ '\'' :: '\'' :: '\'' :: rest) = some (cs, rest) := by
  have ends (marks : List Char) (short : marks = [] ∨ marks = ['\''] ∨ marks = ['\'', '\'']) :
      multiLiteralBody (marks ++ '\'' :: '\'' :: '\'' :: rest) = some (marks, rest) := by
    cases rest with
    | nil => rcases short with rfl | rfl | rfl <;> rfl
    | cons c rest =>
      have other := apart c rfl
      rcases short with rfl | rfl | rfl <;> simp [multiLiteralBody, other]
  induction cs with
  | nil => exact ends [] (.inl rfl)
  | cons c cs ih =>
    have allowed := plain c List.mem_cons_self
    have later := ih (fun d mem => plain d (List.mem_cons_of_mem _ mem)) none.tail
    by_cases short : c :: cs = ['\''] ∨ c :: cs = ['\'', '\'']
    · exact ends _ (.inr short)
    · have apart' : ∀ back, c = '\'' →
          cs ++ '\'' :: '\'' :: '\'' :: rest ≠ '\'' :: '\'' :: back := by
        rintro back rfl same
        match cs with
        | [] => exact short (.inl rfl)
        | [d] =>
          cases same
          exact short (.inr rfl)
        | d :: e :: es =>
          cases same
          exact none [] es rfl
      have noReturn : c ≠ '\r' := by
        rintro rfl
        cases allowed
      rw [List.cons_append, multiLiteralBody.eq_6, later]
      · simp only [needsEscape] at allowed
        simp [allowed, consText]
      all_goals grind

/-! ## Strings of any form -/

/-- What `longestRun` does at one character: the run so far, and the longest. -/
def countRun (mark : Char) (p : Nat × Nat) (c : Char) : Nat × Nat :=
  let now := if c = mark then p.1 + 1 else 0
  (now, max now p.2)

theorem le_countRun (mark : Char) (p : Nat × Nat) (cs : List Char) :
    p.2 ≤ (cs.foldl (countRun mark) p).2 := by
  induction cs generalizing p with
  | nil => exact Nat.le_refl _
  | cons c cs ih => exact Nat.le_trans (Nat.le_max_right ..) (ih (countRun mark p c))

theorem le_countRun_replicate (mark : Char) {p : Nat × Nat} (now : p.1 ≤ p.2) (k : Nat) :
    p.1 + k ≤ ((List.replicate k mark).foldl (countRun mark) p).2 := by
  induction k generalizing p with
  | zero => exact now
  | succ k ih =>
    have step : (countRun mark p mark).1 = p.1 + 1 := by simp [countRun]
    have later := ih (p := countRun mark p mark) (Nat.le_max_left ..)
    rw [step] at later
    rw [List.replicate_succ, List.foldl_cons]
    omega

/-- No run is longer than the longest. -/
theorem le_longestRun (mark : Char) (front back : List Char) (k : Nat) :
    k ≤ longestRun mark (front ++ (List.replicate k mark ++ back)) := by
  have now : ((front.foldl (countRun mark) (0, 0)).1 ≤ (front.foldl (countRun mark) (0, 0)).2) := by
    rcases List.eq_nil_or_concat front with rfl | ⟨front, c, rfl⟩
    · exact Nat.le_refl _
    · rw [List.concat_eq_append, List.foldl_append]
      exact Nat.le_max_left ..
  have here := le_countRun_replicate mark now k
  show k ≤ (List.foldl (countRun mark) (0, 0) _).2
  rw [List.foldl_append, List.foldl_append]
  exact Nat.le_trans (by omega) (le_countRun mark _ back)

theorem notMem_of_longestRun {mark : Char} {cs : List Char} (none : longestRun mark cs = 0) :
    mark ∉ cs := by
  intro mem
  obtain ⟨front, back, rfl⟩ := List.append_of_mem mem
  have := le_longestRun mark front back 1
  rw [List.replicate_one, List.singleton_append] at this
  omega

theorem noTriple_of_longestRun {mark : Char} {cs : List Char} (short : longestRun mark cs ≤ 2) :
    NoTriple mark cs := by
  rintro front back rfl
  have := le_longestRun mark front back 3
  simp only [List.replicate, List.cons_append, List.nil_append] at this
  omega

/-- What can follow a string: no quotation mark of either kind. -/
def Unquoted (rest : List Char) : Prop := ∀ c ∈ rest.head?, c ≠ '"' ∧ c ≠ '\''

theorem dropFirstLineEnd_of_head {c : Char} {cs : List Char} (line : c ≠ '\n') (ret : c ≠ '\r') :
    dropFirstLineEnd (c :: cs) = c :: cs := by
  unfold dropFirstLineEnd lineEnd?
  split
  · next same => exact absurd (List.cons.inj same).1 line
  · next same => exact absurd (List.cons.inj same).1 ret
  · rfl

variable {cs rest : List Char}

theorem string?_basic (cs : List Char) (unquoted : Unquoted rest) :
    string? (enclose ['"'] false (basicInside false 0 cs) ++ rest) = some (cs, rest) := by
  have body := basicBody_inside 0 cs rest
  have second : ∀ back, basicInside false 0 cs ++ '"' :: rest ≠ '"' :: '"' :: back := by
    intro back same
    cases cs with
    | nil =>
      obtain ⟨-, same⟩ := List.cons.inj same
      exact (unquoted '"' (by rw [same]; rfl)).1 rfl
    | cons c cs =>
      by_cases mark : c = '"'
      · simp [basicInside, mark] at same
      · obtain ⟨d, ds, written, other, -⟩ := head_escapeChar false mark
        simp [basicInside, mark, written, other] at same
  show string? ('"' :: (basicInside false 0 cs ++ ['"'] ++ rest)) = _
  rw [List.append_assoc, List.singleton_append, string?.eq_3, body]
  exact fun back same => second back same

theorem string?_literal (plain : ∀ c ∈ cs, c ≠ '\'' ∧ isForbidden c = false)
    (unquoted : Unquoted rest) : string? (enclose ['\''] false cs ++ rest) = some (cs, rest) := by
  have body := literalBody_plain rest plain
  have second : ∀ back, cs ++ '\'' :: rest ≠ '\'' :: '\'' :: back := by
    intro back same
    cases cs with
    | nil =>
      obtain ⟨-, same⟩ := List.cons.inj same
      exact (unquoted '\'' (by rw [same]; rfl)).2 rfl
    | cons c cs => exact (plain c List.mem_cons_self).1 (List.cons.inj same).1
  show string? ('\'' :: (cs ++ ['\''] ++ rest)) = _
  rw [List.append_assoc, List.singleton_append, string?.eq_4, body]
  exact fun back same => second back same

theorem string?_multiBasic (cs : List Char) (unquoted : Unquoted rest) :
    string? (enclose ['"', '"', '"'] (cs.contains '\n') (basicInside true 0 cs) ++ rest) =
      some (cs, rest) := by
  have body := multiBasicBody_inside (Nat.zero_le 2) cs rest fun c mem => (unquoted c mem).1
  have start : dropFirstLineEnd ((if cs.contains '\n' then ['\n'] else []) ++
      (basicInside true 0 cs ++ '"' :: '"' :: '"' :: rest)) =
      basicInside true 0 cs ++ '"' :: '"' :: '"' :: rest := by
    split
    · rfl
    · next oneLine =>
      rw [List.nil_append]
      cases cs with
      | nil => exact dropFirstLineEnd_of_head (by decide) (by decide)
      | cons c cs =>
        by_cases mark : c = '"'
        · simp only [basicInside, mark]
          exact dropFirstLineEnd_of_head (by decide) (by decide)
        · obtain ⟨d, ds, written, -, ret, line⟩ := head_escapeChar true mark
          have line : d ≠ '\n' := line fun same => oneLine (by simp [same])
          simp only [basicInside, mark, if_false, written]
          exact dropFirstLineEnd_of_head line ret
  rw [← body, ← start]
  simp [enclose, string?]

theorem string?_multiLiteral (plain : ∀ c ∈ cs, needsEscape c = false)
    (short : NoTriple '\'' cs) (unquoted : Unquoted rest) :
    string? (enclose ['\'', '\'', '\''] (cs.contains '\n') cs ++ rest) = some (cs, rest) := by
  have body := multiLiteralBody_plain rest plain short fun c mem => (unquoted c mem).2
  have start : dropFirstLineEnd ((if cs.contains '\n' then ['\n'] else []) ++
      (cs ++ '\'' :: '\'' :: '\'' :: rest)) = cs ++ '\'' :: '\'' :: '\'' :: rest := by
    split
    · rfl
    · next oneLine =>
      rw [List.nil_append]
      cases cs with
      | nil => exact dropFirstLineEnd_of_head (by decide) (by decide)
      | cons c cs =>
        refine dropFirstLineEnd_of_head (fun same => oneLine (by simp [same])) ?_
        rintro rfl
        cases plain '\r' List.mem_cons_self
  rw [← body, ← start]
  simp [enclose, string?]

/-- **A string is read back** from whichever form it was written in. -/
theorem string?_writeString (s : String) (unquoted : Unquoted rest) :
    string? ((writeString s).toList ++ rest) = some (s.toList, rest) := by
  unfold writeString
  simp only [String.toList_ofList]
  split
  · exact string?_basic _ unquoted
  · split
    · next literal =>
      simp only [Bool.and_eq_true, Bool.not_eq_true', decide_eq_true_eq] at literal
      obtain ⟨⟨plain, oneLine⟩, none⟩ := literal
      refine string?_literal (fun c mem => ⟨?_, ?_⟩) unquoted
      · rintro rfl
        exact notMem_of_longestRun none mem
      · have free := List.any_eq_false.1 plain c mem
        have here : c ≠ '\n' := by
          rintro rfl
          simp [mem] at oneLine
        simpa [needsEscape, here] using free
    · split
      · exact string?_multiBasic _ unquoted
      · split
        · next literal =>
          simp only [Bool.and_eq_true, Bool.not_eq_true', decide_eq_true_eq] at literal
          obtain ⟨plain, short⟩ := literal
          refine string?_multiLiteral (fun c mem => ?_) (noTriple_of_longestRun short) unquoted
          simpa using List.any_eq_false.1 plain c mem
        · split
          · exact string?_multiBasic _ unquoted
          · exact string?_basic _ unquoted

end Testbed.Toml
