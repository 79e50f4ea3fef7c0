import Testbed.Json.Schema
import Testbed.Json.Value

/-!
# Reading back what was written as JSON

The printer lays a value out over lines, and the readers take a typed value off the front of a
text. This module goes through both grammars side by side: strings with their escapes, numbers with
their digits, objects with their commas.

**What a reader does** (`Reads`). From what a value is written as, wherever it stands, the reader
takes a given typed value and leaves exactly what follows. Only a number looks at what follows, so
that has to be a comma or the end of the line (`Closes`), as it is everywhere in a printed text.

**Objects** (`Steps`). An object is a fold over its fields. `Steps.object` says that it is enough to
know what each field does to the result so far.

**Records** (`Fills`). A record is read by rules, one a field. If an object has its fields in the
order of the rules, and lacks only such that need not be given, then none is found twice and none is
missing (`Fills.reads`).

**Theorem (`readAll_pretty`).** A reader gives back what a whole text was printed from.
-/

namespace Testbed

/-! ## Maps and lists -/

namespace NameMap

variable {α : Type}

theorem insertEntry_last {name : String} {a : α} {l : List (String × α)}
    (after : ∀ e ∈ l, e.1 < name) : insertEntry name a l = l ++ [(name, a)] := by
  induction l with
  | nil => rfl
  | cons e l ih =>
    obtain ⟨n, v⟩ := e
    have first : n < name := after _ List.mem_cons_self
    have notBefore : ¬ name < n := String.lt_asymm first
    have other : name ≠ n := fun same => String.lt_irrefl n (same ▸ first)
    rw [insertEntry, if_neg notBefore, if_neg other,
      ih fun e mem => after e (List.mem_cons_of_mem _ mem), List.cons_append]

/-- The first of the remaining entries of a map is the next to be put in. -/
theorem entries_insert {m m' : NameMap α} {name : String} {a : α} {l : List (String × α)}
    (whole : m'.entries = m.entries ++ (name, a) :: l) :
    m'.entries = (m.insert name a).entries ++ l := by
  have sorted := whole ▸ m'.sorted
  have after : ∀ e ∈ m.entries, e.1 < name := fun e mem =>
    (List.pairwise_append.1 sorted).2.2 e mem _ List.mem_cons_self
  have inserted : (m.insert name a).entries = m.entries ++ [(name, a)] := insertEntry_last after
  rw [whole, inserted, List.append_assoc, List.singleton_append]

end NameMap

/-- One of several with different keys is found by its key. -/
theorem find?_of_nodup {α β : Type} [DecidableEq β] {key : α → β} {l : List α} {a : α}
    (distinct : (l.map key).Nodup) (mem : a ∈ l) : l.find? (fun b => key b = key a) = some a := by
  induction l with
  | nil => cases mem
  | cons b l ih =>
    obtain ⟨first, distinct⟩ := List.nodup_cons.1 distinct
    rcases List.mem_cons.1 mem with rfl | mem
    · simp
    · have other : key b ≠ key a := fun same => first (List.mem_map.2 ⟨a, mem, same.symm⟩)
      rw [List.find?_cons_of_neg (by simpa using other), ih distinct mem]

namespace Json

/-! ## Blank space -/

theorem skipSpace_cons (c : Char) (cs : List Char) :
    skipSpace (c :: cs) = if isSpace c then skipSpace cs else c :: cs := by
  rw [skipSpace, List.dropWhile_cons]
  rfl

theorem skipSpace_indent (level : Nat) (cs : List Char) :
    skipSpace ((indent level).toList ++ cs) = skipSpace cs := by
  rw [indent, String.toList_ofList]
  generalize 2 * level = n
  induction n with
  | zero => rfl
  | succ n ih => exact ih

/-! ## Strings -/

theorem hexValue?_digitChar : ∀ n < 16, hexValue? (Nat.digitChar n) = some n := by
  decide

/-- The printer writes a control character as a code unit of its own. -/
theorem unicodeEscape_control {c : Char} (control : c.toNat < 0x20) (cs : List Char) :
    unicodeEscape ('0' :: '0' :: (hex2 c.toNat ++ cs)) = .ok (c, cs) := by
  have zero : hexValue? '0' = some 0 := by decide
  have high := hexValue?_digitChar (c.toNat / 16 % 16) (by omega)
  have low := hexValue?_digitChar (c.toNat % 16) (by omega)
  have whole : c.toNat / 16 % 16 * 16 + c.toNat % 16 = c.toNat := by omega
  have read : hex4 ('0' :: '0' :: (hex2 c.toNat ++ cs)) = .ok (c.toNat, cs) := by
    simp [hex4, hex2, zero, high, low, whole]
  have small : ¬ (0xDC00 ≤ c.toNat) ∧ ¬ (0xD800 ≤ c.toNat) := by omega
  simp [unicodeEscape, read, small, bind, Except.bind]

/-- Whatever a character is written as, one step reads it. -/
theorem stringFrom_escape {c : Char} {fuel : Nat} {cs ds rest : List Char}
    (read : stringFrom fuel cs = .ok (ds, rest)) :
    stringFrom (fuel + 1) (escape c ++ cs) = .ok (c :: ds, rest) := by
  unfold escape
  split
  -- All cases but the last are the escapes of one letter.
  case h_8 quote backslash _ _ _ _ _ =>
    split
    · next control =>
      simp [stringFrom, unicodeEscape_control control, read, bind, Except.bind]
    · next plain =>
      have quote : c ≠ '"' := quote
      have backslash : c ≠ '\\' := backslash
      simp [stringFrom, quote, backslash, plain, read, bind, Except.bind]
  all_goals simp [stringFrom, escaped?, read, bind, Except.bind]

theorem stringFrom_escaped {fuel : Nat} (cs rest : List Char) (enough : cs.length < fuel) :
    stringFrom fuel (cs.flatMap escape ++ '"' :: rest) = .ok (cs, rest) := by
  induction cs generalizing fuel with
  | nil =>
    obtain ⟨fuel, rfl⟩ := Nat.exists_eq_add_of_lt enough
    simp [stringFrom]
  | cons c cs ih =>
    cases fuel with
    | zero => cases enough
    | succ fuel =>
      rw [List.flatMap_cons, List.append_assoc]
      exact stringFrom_escape (ih (Nat.lt_of_succ_lt_succ enough))

theorem length_le_escaped (cs : List Char) : cs.length ≤ (cs.flatMap escape).length := by
  induction cs with
  | nil => simp
  | cons c cs ih =>
    have one : 1 ≤ (escape c).length := by
      unfold escape
      split <;> (try split) <;> simp
    simp only [List.flatMap_cons, List.length_append, List.length_cons]
    omega

theorem toList_quote (s : String) (rest : List Char) :
    (quote s).toList ++ rest = '"' :: (s.toList.flatMap escape ++ '"' :: rest) := by
  simp [quote]

theorem stringRest_escaped (s : String) (rest : List Char) :
    stringRest (s.toList.flatMap escape ++ '"' :: rest) = .ok (s, rest) := by
  have enough : s.toList.length < (s.toList.flatMap escape ++ '"' :: rest).length + 1 := by
    have := length_le_escaped s.toList
    simp only [List.length_append]
    omega
  rw [stringRest, stringFrom_escaped _ _ enough]
  simp [bind, Except.bind]

/-! ## Numbers -/

/-- What can follow a value: nothing, a comma or the end of the line. -/
def Closes (rest : List Char) : Prop := ∀ c ∈ rest.head?, c = ',' ∨ c = '\n'

theorem takeDigits_digitChar {m d : Nat} (taken : Nat) (cs : List Char) (digit : d < 10)
    (small : m * 10 + d < Nat.pow 2 64) :
    takeDigits m taken (d.digitChar :: cs) = takeDigits (m * 10 + d) (taken + 1) cs := by
  have value : d.digitChar.toNat - '0'.toNat = d := Nat.toNat_digitChar_sub_48_of_lt_ten digit
  rw [takeDigits, Nat.isDigit_digitChar, value]
  simp only [digit, decide_true, if_true, small]

/-- The digits of a number are taken back whole, up to the greatest significand. -/
theorem takeDigits_toDigits {n : Nat} (taken : Nat) (cs : List Char) (small : n < Nat.pow 2 64) :
    takeDigits 0 taken (Nat.toDigits 10 n ++ cs) =
      takeDigits n (taken + (Nat.toDigits 10 n).length) cs := by
  induction n using Nat.strongRecOn generalizing cs with
  | ind n ih =>
    by_cases single : n < 10
    · rw [Nat.toDigits_of_lt_base single]
      have := takeDigits_digitChar (m := 0) taken cs single (by omega)
      rwa [Nat.zero_mul, Nat.zero_add] at this
    · have all : n / 10 * 10 + n % 10 = n := Nat.div_add_mod' n 10
      rw [Nat.toDigits_of_base_le (by decide) (by omega), List.append_assoc,
        ih (n / 10) (by omega) _ (by omega), List.singleton_append,
        takeDigits_digitChar _ _ (Nat.mod_lt n (by decide)) (by omega), all, List.length_append]
      rfl

/-- Only zero starts with a zero. -/
theorem exists_toDigits (n : Nat) :
    ∃ d ds, Nat.toDigits 10 n = d :: ds ∧ d.isDigit ∧ (d = '0' → n = 0 ∧ ds = []) := by
  induction n using Nat.strongRecOn with
  | ind n ih =>
    by_cases single : n < 10
    · refine ⟨n.digitChar, [], Nat.toDigits_of_lt_base single, ?_, fun zero => ?_⟩
      · simp [Nat.isDigit_digitChar, single]
      · exact ⟨Nat.digitChar_eq_zero.1 zero, rfl⟩
    · obtain ⟨d, ds, digits, isDigit, zero⟩ := ih (n / 10) (by omega)
      refine ⟨d, ds ++ [(n % 10).digitChar], ?_, isDigit, fun first => ?_⟩
      · rw [Nat.toDigits_of_base_le (by decide) (by omega), digits, List.cons_append]
      · have := (zero first).1
        omega

theorem takeDigits_closes {n taken : Nat} {rest : List Char} (closes : Closes rest) :
    takeDigits n taken rest = (n, taken, rest) := by
  cases rest with
  | nil => rfl
  | cons c cs =>
    rcases closes c rfl with rfl | rfl <;> rfl

theorem number_toDigits {n : Nat} {rest : List Char} (small : n < Nat.pow 2 64)
    (closes : Closes rest) :
    number false (Nat.toDigits 10 n ++ rest) = .ok (.whole n, rest) := by
  obtain ⟨d, ds, digits, isDigit, zero⟩ := exists_toDigits n
  have taken : (if d = '0' then (0, 1, ds ++ rest) else takeDigits 0 0 (d :: (ds ++ rest))) =
      (n, (d :: ds).length, rest) := by
    split
    · next first =>
      obtain ⟨rfl, rfl⟩ := zero first
      rfl
    · rw [← List.cons_append, ← digits, takeDigits_toDigits 0 rest small, takeDigits_closes closes,
        Nat.zero_add]
  rw [digits, List.cons_append, number]
  simp only [isDigit, Bool.not_true, Bool.false_eq_true, if_false, taken]
  cases rest with
  | nil => rfl
  | cons c cs => rcases closes c rfl with rfl | rfl <;> rfl

/-! ## Values -/

variable {α σ : Type}

theorem toList_prettyAt_integer (level n : Nat) :
    (prettyAt level (.integer n)).toList = Nat.toDigits 10 n := by
  rw [prettyAt]
  exact Nat.toList_repr

/-- No value is written with blank space in front. -/
theorem exists_prettyAt (level : Nat) (v : Json) :
    ∃ c cs, (prettyAt level v).toList = c :: cs ∧ isSpace c = false := by
  cases v with
  | null => exact ⟨_, _, by rw [prettyAt]; rfl, rfl⟩
  | boolean b => cases b <;> exact ⟨_, _, by rw [prettyAt]; rfl, rfl⟩
  | integer n =>
    cases n with
    | ofNat n =>
      obtain ⟨d, ds, digits, isDigit, -⟩ := exists_toDigits n
      refine ⟨d, ds, (toList_prettyAt_integer level n).trans digits, ?_⟩
      refine Bool.eq_false_iff.2 fun blank => ?_
      simp only [isSpace, Bool.or_eq_true, decide_eq_true_eq] at blank
      rcases blank with ((rfl | rfl) | rfl) | rfl <;> cases isDigit
    | negSucc n =>
      exact ⟨'-', (Nat.repr (n + 1)).toList, by rw [prettyAt]; simp [toString, Int.repr], rfl⟩
  | string s =>
    have written := toList_quote s []
    rw [List.append_nil] at written
    exact ⟨_, _, by rw [prettyAt, written], rfl⟩
  | array items =>
    cases items with
    | nil => exact ⟨_, _, by rw [prettyAt]; rfl, rfl⟩
    | cons v vs => exact ⟨'[', _, by simp only [prettyAt, String.toList_append]; rfl, rfl⟩
  | object fields =>
    cases fields with
    | nil => exact ⟨_, _, by rw [prettyAt]; rfl, rfl⟩
    | cons f fs => exact ⟨'\x7b', _, by simp only [prettyAt, String.toList_append]; rfl, rfl⟩

theorem skipSpace_prettyAt (level : Nat) (v : Json) (rest : List Char) :
    skipSpace ((prettyAt level v).toList ++ rest) = (prettyAt level v).toList ++ rest := by
  obtain ⟨c, cs, written, dense⟩ := exists_prettyAt level v
  rw [written, List.cons_append, skipSpace_cons, dense]
  rfl

/-- From what a value is written as, at any level and after any blank space, a reader takes `a`
and leaves the text that follows. -/
def Reads (r : Reader α) (v : Json) (a : α) : Prop :=
  ∀ level cs rest, Closes rest → skipSpace cs = (prettyAt level v).toList ++ rest →
    r cs = .ok (a, rest)

/-- So it is behind the colon of a field. -/
theorem Reads.field {r : Reader α} {v : Json} {a : α} (reads : Reads r v a) (level : Nat)
    {rest : List Char} (closes : Closes rest) :
    r (' ' :: ((prettyAt level v).toList ++ rest)) = .ok (a, rest) := by
  apply reads level _ _ closes
  exact skipSpace_prettyAt level v rest

theorem reads_text (s : String) : Reads .text (.string s) s := by
  intro level cs rest _ here
  rw [prettyAt, toList_quote] at here
  rw [Reader.text, here]
  exact stringRest_escaped s rest

theorem reads_nullable_text (s : String) : Reads (.nullable .text) (.string s) (some s) := by
  intro level cs rest closes here
  have read := reads_text s level ('"' :: (s.toList.flatMap escape ++ '"' :: rest)) rest closes
  rw [prettyAt, toList_quote] at here read
  rw [Reader.nullable, here]
  simp [read rfl, bind, Except.bind]

theorem reads_boolean (b : Bool) : Reads .boolean (.boolean b) b := by
  intro level cs rest _ here
  rw [Reader.boolean, here, prettyAt]
  cases b <;> rfl

theorem reads_word32 {n : Nat} (small : n < Nat.pow 2 32) : Reads .word32 (.integer n) n := by
  intro level cs rest closes here
  have read := number_toDigits (Nat.lt_trans small (by decide)) closes
  obtain ⟨d, ds, digits, isDigit, -⟩ := exists_toDigits n
  rw [toList_prettyAt_integer, digits, List.cons_append] at here
  rw [digits, List.cons_append] at read
  have fits : (0 : Int) ≤ n ∧ (n : Int) < (Nat.pow 2 32 : Nat) := by omega
  simp only [Reader.word32, here]
  split
  · next same =>
    cases same
    cases isDigit
  · next same =>
    cases same
    simp only [isDigit, if_true, read, bind, Except.bind, if_pos fits]
    rfl
  · next same => cases same

/-! ## Objects -/

/-- What stands in an object, at a level, after some of its fields: those to come, the end of the
object and the text after it. -/
def remaining (level : Nat) (rest : List Char) : List (String × Json) → List Char
  | [] => '\n' :: ((indent level).toList ++ '\x7d' :: rest)
  | (name, v) :: fs =>
    ',' :: '\n' :: ((indent (level + 1)).toList ++ ((quote name).toList ++ ':' :: ' ' ::
      ((prettyAt (level + 1) v).toList ++ remaining level rest fs)))

theorem closes_remaining (level : Nat) (rest : List Char) (fs : List (String × Json)) :
    Closes (remaining level rest fs) := by
  intro c first
  cases fs <;> cases first <;> simp

theorem length_lt_remaining (level : Nat) (rest : List Char) (fs : List (String × Json)) :
    fs.length < (remaining level rest fs).length := by
  induction fs with
  | nil => simp [remaining]
  | cons f fs ih =>
    simp only [remaining, List.length_cons, List.length_append]
    omega

/-- The first field of an object has no comma before it. -/
theorem toList_prettyFields (level : Nat) (rest : List Char) (f : String × Json)
    (fs : List (String × Json)) :
    (prettyFields (level + 1) (f :: fs)).toList ++ ((indent level).toList ++ '\x7d' :: rest) =
      (remaining level rest (f :: fs)).drop 2 := by
  induction fs generalizing f with
  | nil => simp [prettyFields, remaining]
  | cons g gs ih =>
    have later := ih g
    rw [prettyFields]
    · simp only [String.toList_append, List.append_assoc, later]
      simp [remaining]
    · simp

theorem nextField_done (level : Nat) (rest : List Char) :
    nextField false (remaining level rest []) = .ok (.done rest) := by
  simp [remaining, nextField, skipSpace_cons, skipSpace_indent, isSpace, pure, Except.pure]

/-- The first field has no comma before it. -/
theorem nextField_remaining (first : Bool) (level : Nat) (rest : List Char) (name : String)
    (v : Json) (fs : List (String × Json)) :
    nextField first ((remaining level rest ((name, v) :: fs)).drop first.toNat) =
      .ok (.field name (' ' :: ((prettyAt (level + 1) v).toList ++ remaining level rest fs))) := by
  simp only [remaining, nextField, toList_quote]
  cases first <;>
    simp [skipSpace_cons, skipSpace_indent, isSpace, stringRest_escaped, pure, Except.pure, bind,
      Except.bind]

/-- The fields of an object take a fold from one result to another. -/
inductive Steps (step : σ → String → Reader σ) : σ → List (String × Json) → σ → Prop
  | nil {s : σ} : Steps step s [] s
  | cons {s s' t : σ} {name : String} {v : Json} {fs : List (String × Json)} :
      Reads (step s name) v s' → Steps step s' fs t → Steps step s ((name, v) :: fs) t

section Fold

variable {step : σ → String → Reader σ} {s s' t : σ} {rest : List Char} {fs : List (String × Json)}

theorem foldFields_remaining {name : String} {v : Json} (reads : Reads (step s name) v s')
    (first : Bool) (fuel level : Nat) :
    foldFields step (fuel + 1) first s ((remaining level rest ((name, v) :: fs)).drop first.toNat) =
      foldFields step fuel false s' (remaining level rest fs) := by
  have read := reads.field (level + 1) (closes_remaining level rest fs)
  rw [foldFields, nextField_remaining]
  simp only [read, bind, Except.bind]

theorem Steps.fold {fuel level : Nat} (steps : Steps step s fs t) (enough : fs.length < fuel) :
    foldFields step fuel false s (remaining level rest fs) = .ok (t, rest) := by
  induction steps generalizing fuel with
  | nil =>
    obtain ⟨fuel, rfl⟩ := Nat.exists_eq_add_of_lt enough
    simp [foldFields, nextField_done, bind, Except.bind]
  | cons reads _ ih =>
    obtain ⟨fuel, rfl⟩ := Nat.exists_eq_add_of_lt enough
    exact (foldFields_remaining reads false _ level).trans (ih (by simp; omega))

/-- A whole object is read as the fold over its fields, from behind its brace on. -/
theorem Steps.object (steps : Steps step s fs t) (level : Nat) (rest : List Char) :
    ∃ body, (prettyAt level (.object fs)).toList ++ rest = '\x7b' :: body ∧
      foldFields step (body.length + 1) true s body = .ok (t, rest) := by
  cases steps with
  | nil =>
    refine ⟨'\x7d' :: rest, by simp [prettyAt], ?_⟩
    rfl
  | @cons s s' t name v fs reads later =>
    refine ⟨(remaining level rest ((name, v) :: fs)).drop 1, ?_, ?_⟩
    · have fields := toList_prettyFields level rest (name, v) fs
      rw [prettyAt]
      · simp only [String.toList_append, List.append_assoc]
        exact congrArg ('\x7b' :: '\n' :: ·) fields
      · simp
    · have enough := length_lt_remaining level rest ((name, v) :: fs)
      refine (foldFields_remaining reads true _ level).trans (later.fold ?_)
      simp only [List.length_drop, List.length_cons] at enough ⊢
      omega

end Fold

/-! ## Maps -/

/-- The fields of a written map, read onto the entries before them. -/
theorem steps_entries {r : Reader α} {toJson : α → Json} (reads : ∀ a, Reads r (toJson a) a)
    {m m' : NameMap α} {l : List (String × α)} (whole : m'.entries = m.entries ++ l) :
    Steps (fun m name value => do
        let (a, rest) ← r value
        .ok (NameMap.insert m name a, rest))
      m (l.map fun e => (e.1, toJson e.2)) m' := by
  induction l generalizing m with
  | nil =>
    rw [List.append_nil] at whole
    cases NameMap.ext whole
    exact .nil
  | cons e l ih =>
    refine .cons (fun level cs rest closes here => ?_) (ih (NameMap.entries_insert whole))
    simp only [reads e.2 level cs rest closes here, bind, Except.bind]

/-- A printed map has its names in increasing order, so each entry comes last when it is read. -/
theorem reads_named {r : Reader α} {toJson : α → Json} (reads : ∀ a, Reads r (toJson a) a)
    (m : NameMap α) :
    Reads (.named r) (.object (m.entries.map fun e => (e.1, toJson e.2))) m := by
  intro level cs rest _ here
  obtain ⟨body, written, read⟩ :=
    (steps_entries reads (m := .empty) (List.nil_append m.entries).symm).object level rest
  rw [written] at here
  simp only [Reader.named, here, read]

/-! ## Records -/

/-- The fields of an object are those of a record, in the same order; some that need not be given
are left out. What they hold takes the record from one value to another. -/
inductive Fills : List (FieldRule σ) → σ → List (String × Json) → σ → Prop
  | done {s : σ} : Fills [] s [] s
  | given {f : FieldRule σ} {rules : List (FieldRule σ)} {s s' t : σ} {v : Json}
      {fs : List (String × Json)} :
      Reads (f.read s) v s' → Fills rules s' fs t → Fills (f :: rules) s ((f.name, v) :: fs) t
  | absent {f : FieldRule σ} {rules : List (FieldRule σ)} {s t : σ} {fs : List (String × Json)} :
      f.required = false → Fills rules s fs t → Fills (f :: rules) s fs t

namespace Fills

variable {rules all : List (FieldRule σ)} {s t : σ} {fs : List (String × Json)}

theorem required (fills : Fills rules s fs t) {f : FieldRule σ} (mem : f ∈ rules)
    (needs : f.required) : f.name ∈ fs.map (·.1) := by
  induction fills with
  | done => cases mem
  | given _ _ ih =>
    rcases List.mem_cons.1 mem with rfl | mem
    · exact List.mem_cons_self
    · exact List.mem_cons_of_mem _ (ih mem)
  | absent free _ ih =>
    rcases List.mem_cons.1 mem with rfl | mem
    · cases free.symm.trans needs
    · exact ih mem

/-- Going through the rules from some place on, `seen` being the names before it. -/
theorem steps (fills : Fills rules s fs t) (distinct : (all.map (·.name)).Nodup)
    {seen : List String} (sub : rules.Sublist all) (fresh : ∀ f ∈ rules, f.name ∉ seen) :
    Steps (readField all) (s, seen) fs (t, (fs.map (·.1)).reverse ++ seen) := by
  induction fills generalizing seen with
  | done => exact .nil
  | @given f rules s s' t v fs reads _ ih =>
    have found := find?_of_nodup distinct (sub.subset List.mem_cons_self)
    have unseen := fresh f List.mem_cons_self
    have later := (List.nodup_cons.1 ((sub.map (·.name)).nodup distinct)).1
    have fresh' : ∀ g ∈ rules, g.name ∉ f.name :: seen := by
      intro g mem again
      rcases List.mem_cons.1 again with same | again
      · exact later (List.mem_map.2 ⟨g, mem, same⟩)
      · exact fresh g (List.mem_cons_of_mem _ mem) again
    have rest := ih (List.sublist_of_cons_sublist sub) fresh'
    rw [List.map_cons, List.reverse_cons, List.append_assoc, List.singleton_append]
    refine .cons (fun level cs rest closes here => ?_) rest
    simp only [readField, found, if_neg unseen, reads level cs rest closes here, bind, Except.bind]
  | absent _ _ ih =>
    exact ih (List.sublist_of_cons_sublist sub) fun g mem => fresh g (List.mem_cons_of_mem _ mem)

/-- A record is read from an object that fills it. -/
theorem reads (fills : Fills rules s fs t) (distinct : (rules.map (·.name)).Nodup)
    (name : String) : Reads (.record name rules s) (.object fs) t := by
  intro level cs rest _ here
  have fresh : ∀ f ∈ rules, f.name ∉ [] := fun _ _ => List.not_mem_nil
  have steps := fills.steps distinct (.refl _) fresh
  obtain ⟨body, written, read⟩ := steps.object level rest
  have complete : rules.find? (fun f => f.required &&
      !((fs.map (fun e : String × Json => e.1)).reverse ++ []).contains f.name) = none := by
    refine List.find?_eq_none.2 fun f mem => ?_
    cases needs : f.required with
    | false => simp
    | true => simpa using fills.required mem needs
  rw [written] at here
  simp only [Reader.record, here, read, bind, Except.bind, complete]

end Fills

section Rules

variable {rules : List (FieldRule σ)} {s t : σ} {fs : List (String × Json)} {r : Reader α}
  {v : Json} {a : α} {name : String} {set : α → σ → σ}

/-- The rule of a field reads its value into the record. -/
theorem Reads.needed (reads : Reads r v a) (name : String) :
    Reads ((Json.needed name r set).read s) v (set a s) := by
  intro level cs rest closes here
  simp only [Json.needed, reads level cs rest closes here, bind, Except.bind]

theorem Fills.needed (reads : Reads r v a) (later : Fills rules (set a s) fs t) :
    Fills (Json.needed name r set :: rules) s ((name, v) :: fs) t :=
  .given (f := Json.needed name r set) (reads.needed name) later

theorem Fills.optional (reads : Reads r v a) (later : Fills rules (set a s) fs t) :
    Fills (Json.optional name r set :: rules) s ((name, v) :: fs) t :=
  .given (f := Json.optional name r set) (reads.needed name) later

end Rules

/-! ## Whole texts -/

theorem readAll_pretty {r : Reader α} {v : Json} {a : α} (reads : Reads r v a) :
    readAll r v.pretty = .ok a := by
  have dense := skipSpace_prettyAt 0 v []
  have closes : Closes [] := fun _ mem => nomatch mem
  have read := reads 0 (prettyAt 0 v).toList [] closes (by rwa [List.append_nil] at dense ⊢)
  rw [readAll, pretty, read]
  rfl

end Json

end Testbed
