import Mathlib.Data.List.Nodup
import Mathlib.Data.List.Perm.Basic
import Testbed.Text.Template

/-!
# References are replaced all at once

`expand` makes one pass for each listed key, over what the passes before it wrote. A template is
written in pieces, texts and references, and where the pieces do not run together no pass sees a
reference that was not there from the start: values hold no opening brace, and behind a text a
reference begins with its own brace.

**Theorem (`expand_eq_substitute`).** Such a template is expanded piece by piece: a reference to a
listed key becomes its value, everything else stays. So the order of the keys does not matter, and
there is nothing left to expand.

A pass for one key takes pieces to pieces (`replaceAll_write`), because it goes over a text and over
a reference to another key without a match (`replaceAll_append`) and replaces the others whole
(`replaceAll_reference`).
-/

namespace Testbed.Text

/-! ## Templates in pieces -/

/-- A piece of a template. -/
inductive Piece
  /-- A text that stays as it is. -/
  | literal (text : List Char)
  /-- A reference to a key. -/
  | reference (key : String)

namespace Piece

/-- How a piece is written. -/
def text : Piece → List Char
  | literal text => text
  | reference key => Text.reference key

/-- What becomes of a piece if the references to the listed keys are replaced by their values. -/
def substitute (refs : List (String × String)) : Piece → Piece
  | literal text => literal text
  | reference key =>
    match refs.lookup key with
    | some value => literal value.toList
    | none => reference key

theorem substitute_first (ref : String × String) (refs : List (String × String)) :
    (reference ref.1).substitute (ref :: refs) = literal ref.2.toList := by
  have found : (ref :: refs).lookup ref.1 = some ref.2 := List.lookup_cons_self
  rw [substitute, found]

theorem substitute_later {key : String} {ref : String × String} (other : key ≠ ref.1)
    (refs : List (String × String)) :
    (reference key).substitute (ref :: refs) = (reference key).substitute refs := by
  have found : (ref :: refs).lookup key = refs.lookup key := by
    rw [List.lookup_cons, beq_false_of_ne other]
  rw [substitute, substitute, found]

end Piece

/-- The template that consists of these pieces. -/
def write (pieces : List Piece) : String := String.ofList (pieces.flatMap Piece.text)

/-- There are no braces in a key. -/
def Braceless (key : String) : Prop := '{' ∉ key.toList ∧ '}' ∉ key.toList

instance (key : String) : Decidable (Braceless key) := inferInstanceAs (Decidable (_ ∧ _))

/-- A text begins no reference, neither by itself nor together with what follows it. -/
structure Closed (text : List Char) : Prop where
  apart : ¬['{', '{'] <:+: text
  ends : text.getLast? ≠ some '{'

/-- A piece does not run together with the pieces around it. -/
def Piece.Proper : Piece → Prop
  | .literal text => Closed text
  | .reference key => Braceless key

/-! ## One pass -/

variable {tail new text rest : List Char} {key other : String}

theorem Closed.of_cons {c : Char} (closed : Closed (c :: text)) : Closed text where
  apart inside := closed.apart (inside.trans (List.suffix_cons c text).isInfix)
  ends last := by
    cases text with
    | nil => cases last
    | cons d text => exact closed.ends (by rw [List.getLast?_cons_cons, last])

/-- What holds no opening brace begins no reference. -/
theorem closed_of_notMem (plain : '{' ∉ text) : Closed text where
  apart inside := plain (inside.subset List.mem_cons_self)
  ends last := plain (List.mem_of_getLast? last)

/-- So does a text whose only opening brace is its first character, but not its last. -/
theorem closed_cons (plain : '{' ∉ text) (more : text ≠ []) : Closed ('{' :: text) where
  apart inside := by
    rcases List.infix_cons_iff.1 inside with start | inside
    · exact plain ((List.cons_prefix_cons.1 start).2.subset List.mem_cons_self)
    · exact plain (inside.subset List.mem_cons_self)
  ends last := by
    cases text with
    | nil => exact more rfl
    | cons c text =>
      rw [List.getLast?_cons_cons] at last
      exact plain (List.mem_of_getLast? last)

/-- A pass goes over a text that begins no reference. -/
theorem replaceAll_append (closed : Closed text) :
    replaceAll '{' ('{' :: tail) new (text ++ rest) =
      text ++ replaceAll '{' ('{' :: tail) new rest := by
  induction text with
  | nil => rfl
  | cons c text ih =>
    have unmatched : ¬(c = '{' ∧ ('{' :: tail).isPrefixOf (text ++ rest) = true) := by
      rintro ⟨rfl, starts⟩
      cases text with
      | nil => exact closed.ends rfl
      | cons d text =>
        obtain ⟨rfl, -⟩ : '{' = d ∧ _ := by simpa using starts
        exact closed.apart ⟨[], text, rfl⟩
    rw [List.cons_append, replaceAll, if_neg unmatched, ih closed.of_cons]
    rfl

/-- A pass replaces the references to its key. -/
theorem replaceAll_reference (key : String) (new rest : List Char) :
    replaceAll '{' (referenceTail key) new (reference key ++ rest) =
      new ++ replaceAll '{' (referenceTail key) new rest := by
  have starts : (referenceTail key).isPrefixOf (referenceTail key ++ rest) = true :=
    List.isPrefixOf_iff_prefix.2 (List.prefix_append ..)
  rw [reference, List.cons_append, replaceAll, if_pos ⟨rfl, starts⟩, List.drop_left]

/-- A reference begins as that to another key only if the keys are the same. -/
theorem eq_of_starts_reference (braceless : Braceless key) (braceless' : Braceless other)
    (starts : referenceTail key <+: referenceTail other ++ rest) : key = other := by
  obtain ⟨more, whole⟩ := starts
  have keys : key.toList ++ '}' :: ('}' :: more) = other.toList ++ '}' :: ('}' :: rest) := by
    simpa [referenceTail] using whole
  have same := congrArg (List.takeWhile (· ≠ '}')) keys
  have upTo {key : String} (braceless : Braceless key) (more : List Char) :
      (key.toList ++ '}' :: more).takeWhile (· ≠ '}') = key.toList := by
    have plain : ∀ c ∈ key.toList, decide (c ≠ '}') = true := fun c mem =>
      decide_eq_true fun brace => braceless.2 (brace ▸ mem)
    rw [List.takeWhile_append_of_pos plain]
    simp
  rw [upTo braceless, upTo braceless'] at same
  exact String.toList_inj.1 same

/-- A pass goes over a reference to another key. -/
theorem replaceAll_other (braceless : Braceless key) (braceless' : Braceless other)
    (different : key ≠ other) :
    replaceAll '{' (referenceTail key) new (reference other ++ rest) =
      reference other ++ replaceAll '{' (referenceTail key) new rest := by
  have unmatched : ¬('{' = '{' ∧ (referenceTail key).isPrefixOf (referenceTail other ++ rest)) :=
    fun both => different (eq_of_starts_reference braceless braceless'
      (List.isPrefixOf_iff_prefix.1 both.2))
  -- Behind its first brace, a reference begins no other.
  have closed : Closed (referenceTail other) :=
    closed_cons (by simpa using braceless'.1) (by simp)
  rw [reference, List.cons_append, replaceAll, if_neg unmatched]
  exact congrArg ('{' :: ·) (replaceAll_append closed)

/-! ## All passes -/

variable {ref : String × String} {refs refs' : List (String × String)} {p : Piece}
  {pieces : List Piece}

/-- A key without braces, with a value that begins no reference. -/
def Plain (ref : String × String) : Prop := Braceless ref.1 ∧ '{' ∉ ref.2.toList

instance (ref : String × String) : Decidable (Plain ref) := inferInstanceAs (Decidable (_ ∧ _))

theorem mem_of_lookup {value : String} (found : refs.lookup key = some value) :
    (key, value) ∈ refs := by
  obtain ⟨before, after, rfl, -⟩ := List.lookup_eq_some_iff.1 found
  exact List.mem_append_right _ List.mem_cons_self

/-- **A pass takes pieces to pieces.** -/
theorem expandOne_pieces (plain : Plain ref) (proper : ∀ p ∈ pieces, p.Proper) :
    expandOne (pieces.flatMap Piece.text) ref =
      (pieces.map (Piece.substitute [ref])).flatMap Piece.text := by
  induction pieces with
  | nil => simp [expandOne, replaceAll]
  | cons p pieces ih =>
    obtain ⟨here, proper⟩ := List.forall_mem_cons.1 proper
    have later := ih proper
    unfold expandOne at later ⊢
    rw [List.flatMap_cons, List.map_cons, List.flatMap_cons, ← later]
    cases p with
    | literal text => exact replaceAll_append here
    | reference key =>
      by_cases same : key = ref.1
      · subst same
        rw [Piece.substitute_first]
        exact replaceAll_reference ref.1 _ _
      · rw [Piece.substitute_later same]
        exact replaceAll_other plain.1 here (Ne.symm same)

namespace Piece

theorem Proper.substitute (proper : p.Proper) (plain : ∀ ref ∈ refs, Plain ref) :
    (p.substitute refs).Proper := by
  cases p with
  | literal text => exact proper
  | reference key =>
    simp only [Piece.substitute]
    split
    · next value found => exact closed_of_notMem (plain _ (mem_of_lookup found)).2
    · exact proper

/-- To replace the references to one key and then those to others is to replace them all. -/
theorem substitute_cons : (p.substitute [ref]).substitute refs = p.substitute (ref :: refs) := by
  cases p with
  | literal text => rfl
  | reference key =>
    by_cases same : key = ref.1
    · rw [same, substitute_first, substitute_first]
      rfl
    · rw [substitute_later same, substitute_later same]
      rfl

/-- A value is left alone, and so is a reference to a key that is not listed. -/
theorem substitute_substitute : (p.substitute refs).substitute refs = p.substitute refs := by
  cases p with
  | literal text => rfl
  | reference key => cases found : refs.lookup key <;> simp [substitute, found]

end Piece

/-- **The passes for all keys** replace the references in the pieces. -/
theorem expand_write (plain : ∀ ref ∈ refs, Plain ref) (proper : ∀ p ∈ pieces, p.Proper) :
    expand (write pieces) refs = write (pieces.map (Piece.substitute refs)) := by
  rw [expand, write, write, String.toList_ofList]
  refine congrArg String.ofList ?_
  induction refs generalizing pieces with
  | nil =>
    have same : pieces.map (Piece.substitute []) = pieces := by
      refine List.map_id'' (fun p => ?_) pieces
      cases p <;> rfl
    rw [same]
    rfl
  | cons ref refs ih =>
    obtain ⟨first, plain⟩ := List.forall_mem_cons.1 plain
    have proper' : ∀ p ∈ pieces.map (Piece.substitute [ref]), p.Proper :=
      List.forall_mem_map.2 fun p mem => (proper p mem).substitute (by simpa using first)
    rw [List.foldl_cons, expandOne_pieces first proper, ih plain proper', List.map_map]
    refine congrArg (List.flatMap Piece.text) (List.map_congr_left fun p _ => ?_)
    exact Piece.substitute_cons

/-- Where the keys are distinct, their order does not decide what is found. -/
theorem lookup_perm (distinct : (refs.map (·.1)).Nodup) (same : refs'.Perm refs) (key : String) :
    refs'.lookup key = refs.lookup key := by
  have unique {l : List (String × String)} (distinct : (l.map (·.1)).Nodup) {value : String}
      (mem : (key, value) ∈ l) : l.lookup key = some value := by
    cases found : l.lookup key with
    | none =>
      have absent := List.lookup_eq_none_iff.1 found _ mem
      simp at absent
    | some value' =>
      have one := List.inj_on_of_nodup_map distinct mem (mem_of_lookup found) rfl
      rw [← (Prod.mk.inj one).2]
  cases found : refs.lookup key with
  | some value =>
    exact unique ((same.map _).nodup_iff.2 distinct) (same.mem_iff.2 (mem_of_lookup found))
  | none =>
    refine List.lookup_eq_none_iff.2 fun ref mem => ?_
    exact List.lookup_eq_none_iff.1 found ref (same.mem_iff.1 mem)

theorem Piece.substitute_perm (distinct : (refs.map (·.1)).Nodup) (same : refs'.Perm refs)
    (p : Piece) : p.substitute refs' = p.substitute refs := by
  cases p with
  | literal text => rfl
  | reference key => rw [substitute, substitute, lookup_perm distinct same]

/-- **References are replaced all at once.** Take a template in pieces that do not run together, and
values under distinct keys, without braces in the keys and without opening braces in the values. Its
expansion has the value in place of each reference to a listed key, and the other pieces as they
were. The order of the keys does not matter, and to expand again changes nothing. -/
theorem expand_eq_substitute (proper : ∀ p ∈ pieces, p.Proper) (plain : ∀ ref ∈ refs, Plain ref)
    (distinct : (refs.map (·.1)).Nodup) :
    expand (write pieces) refs = write (pieces.map (Piece.substitute refs)) ∧
      (∀ refs', refs'.Perm refs → expand (write pieces) refs' = expand (write pieces) refs) ∧
      expand (expand (write pieces) refs) refs = expand (write pieces) refs := by
  have once := expand_write plain proper
  have proper' : ∀ p ∈ pieces.map (Piece.substitute refs), p.Proper :=
    List.forall_mem_map.2 fun p mem => (proper p mem).substitute plain
  refine ⟨once, fun refs' same => ?_, ?_⟩
  · have plain' : ∀ ref ∈ refs', Plain ref := fun ref mem => plain ref (same.mem_iff.1 mem)
    rw [once, expand_write plain' proper]
    exact congrArg write (List.map_congr_left fun p _ => p.substitute_perm distinct same)
  · rw [once, expand_write plain proper', List.map_map]
    exact congrArg write (List.map_congr_left fun p _ => p.substitute_substitute)

/-- The template of a command with single braces in one of its texts, and a key that nobody
lists. -/
def bracedTemplate : List Piece :=
  [.literal "echo {x} ".toList, .reference "name", .literal "/".toList, .reference "region",
   .literal " ".toList, .reference "tool"]

theorem expand_eq_substitute_bracedTemplate :
    expand "echo {x} {{name}}/{{region}} {{tool}}" [("region", "us\x7d\x7d"), ("name", "demo")] =
      "echo {x} demo/us\x7d\x7d {{tool}}" := by
  have proper : ∀ p ∈ bracedTemplate, p.Proper := by
    simp only [bracedTemplate, List.forall_mem_cons]
    exact ⟨⟨by decide +kernel, by decide +kernel⟩, show Braceless _ by decide +kernel,
      ⟨by decide +kernel, by decide +kernel⟩, show Braceless _ by decide +kernel,
      ⟨by decide +kernel, by decide +kernel⟩, show Braceless _ by decide +kernel, nofun⟩
  have template : write bracedTemplate = "echo {x} {{name}}/{{region}} {{tool}}" := by
    decide +kernel
  have command : write (bracedTemplate.map
      (Piece.substitute [("region", "us\x7d\x7d"), ("name", "demo")])) =
        "echo {x} demo/us\x7d\x7d {{tool}}" := by decide +kernel
  have plain : ∀ ref ∈ [("region", "us\x7d\x7d"), ("name", "demo")], Plain ref := by decide +kernel
  have distinct : ([("region", "us\x7d\x7d"), ("name", "demo")].map (·.1)).Nodup := by
    decide +kernel
  rw [← template, ← command]
  exact (expand_eq_substitute proper plain distinct).1

end Testbed.Text
