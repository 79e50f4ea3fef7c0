import Testbed.Proofs.WrittenJson
import Testbed.Proofs.WrittenStrings

/-!
# Reading back written names and values

A name, a path of names and a value that stands on the line of its key are each read back if
nothing that could go on with them follows. Names and scalars begin with a character that opens no
comment, no heading and no array (`Opens`), so the reader finds them behind the blank space that
layout puts in front.

**Theorem (`name?_writeName`).** Every name is read back, bare or between marks.

**Theorem (`Inline.read`).** Every string, every truth value, every natural number within 64 bits
with a sign, and every array of these is read back.
-/

namespace Testbed.Toml

variable {rest : List Char}

/-! ## First characters -/

/-- The first character of a name or of a scalar. -/
def Opens (c : Char) : Prop := isBareChar c = true ∨ c = '"' ∨ c = '\''

theorem Opens.ne {c d : Char} (opens : Opens c)
    (other : (isBareChar d || d == '"' || d == '\'') = false) : c ≠ d := by
  rintro rfl
  rcases opens with bare | rfl | rfl
  · simp [bare] at other
  · cases other
  · cases other

/-- The text begins with something that is no blank space, no comment, no line end and no byte order
mark. -/
def Starts (cs : List Char) : Prop :=
  ∃ c rest, cs = c :: rest ∧ isSpace c = false ∧ c ≠ '#' ∧ c ≠ '\n' ∧ c ≠ '\r' ∧ c ≠ '\ufeff'

theorem Opens.starts {c : Char} (opens : Opens c) (cs : List Char) : Starts (c :: cs) := by
  refine ⟨c, cs, rfl, ?_, opens.ne rfl, opens.ne rfl, opens.ne rfl, opens.ne (by decide)⟩
  simp [isSpace, opens.ne (d := ' ') rfl, opens.ne (d := '\t') rfl]

theorem starts_bracket (cs : List Char) : Starts ('[' :: cs) :=
  ⟨'[', cs, rfl, rfl, by decide, by decide, by decide, by decide⟩

theorem Starts.skipSpace {cs : List Char} (starts : Starts cs) : skipSpace cs = cs := by
  obtain ⟨c, cs, rfl, dense, -⟩ := starts
  simp [Toml.skipSpace, dense]

theorem Starts.lineEnd? {cs : List Char} (starts : Starts cs) : lineEnd? cs = none := by
  obtain ⟨c, cs, rfl, -, -, line, ret, -⟩ := starts
  unfold Toml.lineEnd?
  split
  · next same => exact absurd (List.cons.inj same).1 line
  · next same => exact absurd (List.cons.inj same).1 ret
  · rfl

theorem Starts.skipLines {cs : List Char} (starts : Starts cs) (fuel : Nat) :
    skipLines fuel cs = some cs := by
  cases fuel with
  | zero => rfl
  | succ fuel =>
    rw [Toml.skipLines, starts.skipSpace]
    split
    · obtain ⟨c, cs, same, -, comment, -⟩ := starts
      exact absurd (List.cons.inj same).1.symm comment
    · rw [starts.lineEnd?]

/-! ## Names -/

/-- What can follow a name: no character that could go on with it. -/
def Unbare (rest : List Char) : Prop := ∀ c ∈ rest.head?, isBareChar c = false

theorem takeWhile_stops {p : Char → Bool} {cs rest : List Char} (all : ∀ c ∈ cs, p c = true)
    (stops : ∀ c ∈ rest.head?, p c = false) :
    (cs ++ rest).takeWhile p = cs ∧ (cs ++ rest).dropWhile p = rest := by
  rw [List.takeWhile_append_of_pos all, List.dropWhile_append_of_pos all]
  cases rest with
  | nil => simp
  | cons c rest =>
    have stop := stops c rfl
    simp [stop]

theorem name?_bare {cs : List Char} (some' : cs ≠ []) (bare : ∀ c ∈ cs, isBareChar c = true)
    (unbare : Unbare rest) : name? (cs ++ rest) = some (String.ofList cs, rest) := by
  obtain ⟨taken, dropped⟩ := takeWhile_stops bare unbare
  cases cs with
  | nil => exact absurd rfl some'
  | cons c cs =>
    have first := bare c List.mem_cons_self
    rw [name?.eq_3, taken, dropped]
    · simp
    · rintro rest same
      rw [(List.cons.inj same).1] at first
      cases first
    · rintro rest same
      rw [(List.cons.inj same).1] at first
      cases first

theorem name?_basic (cs : List Char) :
    name? (enclose ['"'] false (basicInside false 0 cs) ++ rest) =
      some (String.ofList cs, rest) := by
  have body := basicBody_inside 0 cs rest
  show name? ('"' :: (basicInside false 0 cs ++ ['"'] ++ rest)) = _
  rw [List.append_assoc, List.singleton_append, name?.eq_1, body]
  rfl

theorem name?_literal {cs : List Char} (plain : ∀ c ∈ cs, c ≠ '\'' ∧ isForbidden c = false) :
    name? (enclose ['\''] false cs ++ rest) = some (String.ofList cs, rest) := by
  have body := literalBody_plain rest plain
  show name? ('\'' :: (cs ++ ['\''] ++ rest)) = _
  rw [List.append_assoc, List.singleton_append, name?.eq_2, body]
  rfl

/-- **A name is read back.** -/
theorem name?_writeName (n : String) (unbare : Unbare rest) :
    name? ((writeName n).toList ++ rest) = some (n, rest) := by
  have whole : String.ofList n.toList = n := String.ofList_toList
  unfold writeName
  dsimp only
  split
  · next bare =>
    simp only [Bool.and_eq_true, Bool.not_eq_true', List.isEmpty_eq_false_iff] at bare
    have read := name?_bare bare.1 (List.all_eq_true.1 bare.2) unbare
    rwa [whole] at read
  · split
    · rw [String.toList_ofList, name?_basic, whole]
    · split
      · next literal =>
        simp only [Bool.and_eq_true, Bool.not_eq_true'] at literal
        rw [String.toList_ofList, name?_literal, whole]
        intro c mem
        have free := List.any_eq_false.1 literal.1 c mem
        refine ⟨?_, ?_⟩
        · rintro rfl
          simp [mem] at literal
        · simp only [Bool.or_eq_true, decide_eq_true_eq, not_or] at free
          simp [isForbidden, free]
      · rw [String.toList_ofList, name?_basic, whole]

theorem head_writeName (n : String) : ∃ c cs, (writeName n).toList = c :: cs ∧ Opens c := by
  unfold writeName
  dsimp only
  split
  · next bare =>
    simp only [Bool.and_eq_true, Bool.not_eq_true', List.isEmpty_eq_false_iff] at bare
    obtain ⟨c, cs, chars⟩ := List.exists_cons_of_ne_nil bare.1
    exact ⟨c, cs, chars, .inl (List.all_eq_true.1 bare.2 c (by simp [chars]))⟩
  · split
    · exact ⟨'"', _, String.toList_ofList, .inr (.inl rfl)⟩
    · split
      · exact ⟨'\'', _, String.toList_ofList, .inr (.inr rfl)⟩
      · exact ⟨'"', _, String.toList_ofList, .inr (.inl rfl)⟩

theorem starts_writeName (n : String) (rest : List Char) :
    Starts ((writeName n).toList ++ rest) := by
  obtain ⟨c, cs, written, opens⟩ := head_writeName n
  rw [written]
  exact opens.starts (cs ++ rest)

/-! ## Keys -/

theorem keyFrom_last {fuel : Nat} (n : String) (unbare : Unbare rest)
    (last : ∀ more, skipSpace rest ≠ '.' :: more) :
    keyFrom (fuel + 1) ((writeName n).toList ++ rest) = some ([n], skipSpace rest) := by
  rw [keyFrom, (starts_writeName n rest).skipSpace, name?_writeName n unbare]
  simp only [Option.bind_eq_bind, Option.bind_some]

theorem keyFrom_more {fuel : Nat} (n : String) (more : List Char) :
    keyFrom (fuel + 1) ((writeName n).toList ++ '.' :: more) =
      (keyFrom fuel more).map fun p => (n :: p.1, p.2) := by
  have unbare : Unbare ('.' :: more) := fun c first => by cases first; rfl
  have point : skipSpace ('.' :: more) = '.' :: more := rfl
  rw [keyFrom, (starts_writeName n _).skipSpace, name?_writeName n unbare]
  simp only [Option.bind_eq_bind, Option.bind_some, point]
  cases keyFrom fuel more <;> rfl

/-- A path is read back up to the bracket that closes its heading. -/
theorem keyFrom_writePath {fuel : Nat} {path : List String} (some' : path ≠ [])
    (short : path.length ≤ fuel) (rest : List Char) :
    keyFrom fuel ((writePath path).toList ++ ']' :: rest) = some (path, ']' :: rest) := by
  induction path generalizing fuel with
  | nil => exact absurd rfl some'
  | cons n path ih =>
    obtain ⟨fuel, rfl⟩ : ∃ f, fuel = f + 1 := ⟨fuel - 1, by simp at short; omega⟩
    cases path with
    | nil =>
      have written : (writePath [n]).toList = (writeName n).toList := by
        simp [writePath]
      have unbare : Unbare (']' :: rest) := fun c first => by cases first; rfl
      rw [written, keyFrom_last n unbare nofun]
      rfl
    | cons m path =>
      have written : (writePath (n :: m :: path)).toList =
          (writeName n).toList ++ '.' :: (writePath (m :: path)).toList := by
        simp [writePath]
      have later := @ih fuel (by simp) (by simpa using short)
      rw [written, List.append_assoc, List.cons_append, keyFrom_more, later]
      rfl

/-! ## Scalars -/

/-- What can follow a value: the end of its line, or the comma or bracket of its array. -/
def Stops (rest : List Char) : Prop :=
  ∃ c cs, rest = c :: cs ∧ (c = '\n' ∨ c = ',' ∨ c = ']')

theorem Stops.unquoted (stops : Stops rest) : Unquoted rest := by
  obtain ⟨c, cs, rfl, stop⟩ := stops
  intro d first
  cases first
  rcases stop with rfl | rfl | rfl <;> decide

theorem Stops.wordless (stops : Stops rest) : ∀ c ∈ rest.head?, isWordChar c = false := by
  obtain ⟨c, cs, rfl, stop⟩ := stops
  intro d first
  cases first
  rcases stop with rfl | rfl | rfl <;> decide

theorem digitsWith?_digits {cs : List Char} (some' : cs ≠ [])
    (digits : ∀ c ∈ cs, c.isDigit = true) : digitsWith? Char.isDigit cs = some cs := by
  induction cs with
  | nil => exact absurd rfl some'
  | cons c cs ih =>
    have first := digits c List.mem_cons_self
    cases cs with
    | nil => simp [digitsWith?, first]
    | cons d cs =>
      have second := digits d (by simp)
      rw [digitsWith?.eq_4, ih (by simp) fun e mem => digits e (List.mem_cons_of_mem _ mem)]
      · simp [first]
      · simp
      · rintro _ same
        rw [(List.cons.inj same).1] at second
        cases second

theorem numberOf_toDigits (n : Nat) : numberOf 10 (Nat.toDigits 10 n) = n := by
  have step (cs : List Char) (digits : ∀ c ∈ cs, c.isDigit = true) (m : Nat) :
      cs.foldl (fun n c => n * 10 + (hexValue? c).getD 0) m = Nat.ofDigitChars 10 cs m := by
    induction cs generalizing m with
    | nil => rfl
    | cons c cs ih =>
      have first := digits c List.mem_cons_self
      have value : hexValue? c = some (c.toNat - '0'.toNat) := by simp [hexValue?, first]
      rw [List.foldl_cons, ih fun e mem => digits e (List.mem_cons_of_mem _ mem), value,
        Nat.ofDigitChars_cons]
      rw [Nat.mul_comm]
      rfl
  rw [numberOf, step _ fun c mem => Nat.isDigit_of_mem_toDigits (by decide) (by decide) mem,
    Nat.ofDigitChars_toDigits (by decide) (by decide)]

theorem digits_toDigits {n : Nat} {c : Char} (mem : c ∈ Nat.toDigits 10 n) : c.isDigit = true :=
  Nat.isDigit_of_mem_toDigits (by decide) (by decide) mem

theorem wholeDigits?_toDigits (n : Nat) :
    wholeDigits? (Nat.toDigits 10 n) = some (Nat.toDigits 10 n) := by
  obtain ⟨d, ds, digits, -, zero⟩ := Json.exists_toDigits n
  have read : digitsWith? Char.isDigit (Nat.toDigits 10 n) = some (Nat.toDigits 10 n) :=
    digitsWith?_digits (by simp [digits])    fun c mem => digits_toDigits mem
  rw [wholeDigits?, read]
  rw [digits]
  simp only [Option.bind_eq_bind, Option.bind_some]
  split
  · next same =>
    cases same
    cases (zero rfl).2
  · rfl

theorem integer?_toDigits {n : Nat} (small : n < Nat.pow 2 63) :
    integer? (Nat.toDigits 10 n) = some (.integer n) := by
  have whole := wholeDigits?_toDigits n
  have number := numberOf_toDigits n
  obtain ⟨d, ds, digits, isDigit, zero⟩ := Json.exists_toDigits n
  have alone : ∀ c rest, Nat.toDigits 10 n ≠ '0' :: c :: rest := by
    intro c rest same
    rw [digits] at same
    cases same
    cases (zero rfl).2
  have unsigned : signOf (Nat.toDigits 10 n) = (false, Nat.toDigits 10 n) := by
    rw [digits]
    unfold signOf
    split
    · next same =>
      cases same
      cases isDigit
    · next same =>
      cases same
      cases isDigit
    · rfl
  rw [integer?.eq_4 _ (alone 'x') (alone 'o') (alone 'b'), unsigned]
  dsimp only
  rw [whole, Option.bind_eq_bind, Option.bind_some, number, if_neg Bool.false_ne_true,
    if_pos ⟨Int.neg_natCast_le_natCast _ n, Int.ofNat_lt.2 small⟩]

theorem date?_toDigits (n : Nat) : date? (Nat.toDigits 10 n) = none := by
  refine date?.eq_2 _ fun y1 y2 y3 y4 m1 m2 d1 d2 rest same => ?_
  have mark := digits_toDigits (n := n) (c := '-') (by rw [same]; simp)
  cases mark

theorem time?_toDigits (n : Nat) : time? (Nat.toDigits 10 n) = none := by
  refine time?.eq_2 _ fun h1 h2 m1 m2 s1 s2 rest same => ?_
  have mark := digits_toDigits (n := n) (c := ':') (by rw [same]; simp)
  cases mark

theorem scalarOf?_toDigits {n : Nat} (small : n < Nat.pow 2 63) :
    scalarOf? (Nat.toDigits 10 n) = some (.integer n) := by
  have letter (c : Char) (cs : List Char) (other : c.isDigit = false) :
      Nat.toDigits 10 n ≠ c :: cs := by
    intro same
    have := digits_toDigits (n := n) (c := c) (by rw [same]; simp)
    rw [other] at this
    cases this
  have noDate : datetime? (Nat.toDigits 10 n) = none := by
    rw [datetime?, date?_toDigits, time?_toDigits]
  rw [scalarOf?.eq_3 _ (letter _ _ rfl) (letter _ _ rfl), noDate, integer?_toDigits small]
  rfl

/-- The values that stand on the line of their key, without those of an array. -/
inductive Scalar : Value → Prop
  | string (s : String) : Scalar (.string s)
  | integer {n : Nat} (small : n < Nat.pow 2 63) : Scalar (.integer n)
  | boolean (b : Bool) : Scalar (.boolean b)

theorem scalar?_word {word : List Char} {v : Value} (chars : ∀ c ∈ word, isWordChar c = true)
    (undated : date? word = none) (read : scalarOf? word = some v) (stops : Stops rest) :
    scalar? (word ++ rest) = some (v, rest) := by
  obtain ⟨taken, dropped⟩ := takeWhile_stops chars stops.wordless
  simp [scalar?, taken, dropped, undated, read]

theorem head_writeString (s : String) :
    ∃ c cs, (writeString s).toList = c :: cs ∧ (c = '"' ∨ c = '\'') := by
  have read : string? ((writeString s).toList ++ []) = some (s.toList, []) :=
    string?_writeString s nofun
  rw [List.append_nil] at read
  unfold string? at read
  split at read
  case h_5 => cases read
  all_goals
    next written => exact ⟨_, _, written, by decide⟩

theorem toList_writeValue_integer (n : Nat) :
    (writeValue (.integer n)).toList = Nat.toDigits 10 n := by
  rw [writeValue]
  exact Nat.toList_repr

theorem value?_word {depth fuel : Nat} {word : List Char} {v : Value}
    (opens : ∃ c cs, word = c :: cs ∧ isBareChar c = true)
    (chars : ∀ c ∈ word, isWordChar c = true) (undated : date? word = none)
    (read : scalarOf? word = some v) (stops : Stops rest) :
    value? depth (fuel + 1) (word ++ rest) = some (v, rest) := by
  have scalar := scalar?_word chars undated read stops
  obtain ⟨c, cs, rfl, bare⟩ := opens
  have no {d : Char} (mark : isBareChar d = false) (tail : List Char) :
      c :: cs ++ rest ≠ d :: tail := by
    intro same
    rw [(List.cons.inj same).1, mark] at bare
    cases bare
  rw [value?.eq_8 _ _ _ (no rfl) (no rfl) (no rfl) (no rfl), scalar]

theorem value?_string {depth fuel : Nat} (s : String) (unquoted : Unquoted rest) :
    value? depth (fuel + 1) ((writeString s).toList ++ rest) = some (.string s, rest) := by
  have read := string?_writeString s unquoted
  obtain ⟨c, cs, written, mark⟩ := head_writeString s
  rw [written, List.cons_append] at read ⊢
  rcases mark with rfl | rfl
  · rw [value?.eq_2, read, Option.map_some, String.ofList_toList]
  · rw [value?.eq_3, read, Option.map_some, String.ofList_toList]

/-- **A scalar is read back.** -/
theorem Scalar.read {depth fuel : Nat} {v : Value} (scalar : Scalar v) (stops : Stops rest) :
    value? depth (fuel + 1) ((writeValue v).toList ++ rest) = some (v, rest) := by
  cases scalar with
  | string s => exact value?_string s stops.unquoted
  | @integer n small =>
    obtain ⟨d, ds, digits, isDigit, -⟩ := Json.exists_toDigits n
    rw [toList_writeValue_integer]
    refine value?_word ⟨d, ds, digits, by simp [isBareChar, Char.isAlphanum, isDigit]⟩
      (fun c mem => ?_) (date?_toDigits n) (scalarOf?_toDigits small) stops
    simp [isWordChar, Char.isAlphanum, digits_toDigits mem]
  | boolean b =>
    cases b with
    | false => exact value?_word ⟨'f', _, rfl, rfl⟩ (List.all_eq_true.1 rfl) rfl rfl stops
    | true => exact value?_word ⟨'t', _, rfl, rfl⟩ (List.all_eq_true.1 rfl) rfl rfl stops

theorem Scalar.opens {v : Value} (scalar : Scalar v) :
    ∃ c cs, (writeValue v).toList = c :: cs ∧ Opens c := by
  cases scalar with
  | string s =>
    obtain ⟨c, cs, written, mark⟩ := head_writeString s
    exact ⟨c, cs, written, .inr mark⟩
  | @integer n small =>
    obtain ⟨d, ds, digits, isDigit, -⟩ := Json.exists_toDigits n
    rw [toList_writeValue_integer]
    exact ⟨d, ds, digits, .inl (by simp [isBareChar, Char.isAlphanum, isDigit])⟩
  | boolean b =>
    cases b with
    | false => exact ⟨'f', _, rfl, .inl rfl⟩
    | true => exact ⟨'t', _, rfl, .inl rfl⟩

/-! ## Arrays -/

/-- The values that stand on the line of their key. -/
inductive Inline : Value → Prop
  | scalar {v : Value} (scalar : Scalar v) : Inline v
  | array {items : List Value} (scalars : ∀ v ∈ items, Scalar v) : Inline (.array items)

theorem starts_mark {c : Char} (mark : c = ',' ∨ c = ']') (cs : List Char) : Starts (c :: cs) := by
  rcases mark with rfl | rfl <;> exact ⟨_, cs, rfl, by decide⟩

theorem skipLines_newline (fuel : Nat) (cs : List Char) :
    skipLines (fuel + 1) ('\n' :: cs) = skipLines fuel cs := by
  simp [skipLines, skipSpace, isSpace, lineEnd?]

theorem skipLines_space (fuel : Nat) (cs : List Char) :
    skipLines (fuel + 1) (' ' :: cs) = skipLines (fuel + 1) cs := by
  have blank : skipSpace (' ' :: cs) = skipSpace cs := rfl
  rw [skipLines, blank, skipLines]

section Items

variable {depth fuel : Nat} {v : Value} {cs here : List Char}

theorem items?_item {more : List Char} (skipped : skipLines cs.length cs = some here)
    (closed : ∀ after, here ≠ ']' :: after)
    (read : value? depth fuel here = some (v, ',' :: more)) :
    items? depth (fuel + 1) cs = (items? depth fuel more).map fun p => (v :: p.1, p.2) := by
  have comma := (starts_mark (.inl rfl) more).skipLines (',' :: more).length
  rw [items?.eq_2, skipped, Option.bind_eq_bind, Option.bind_some]
  split
  · next after => exact absurd rfl (closed after)
  · simp only [read, Option.bind_eq_bind, Option.bind_some, comma]
    cases items? depth fuel more <;> rfl

theorem items?_last {after : List Char} (skipped : skipLines cs.length cs = some here)
    (closed : ∀ after, here ≠ ']' :: after)
    (read : value? depth fuel here = some (v, ']' :: after)) :
    items? depth (fuel + 1) cs = some ([v], after) := by
  have bracket := (starts_mark (.inr rfl) after).skipLines (']' :: after).length
  rw [items?.eq_2, skipped, Option.bind_eq_bind, Option.bind_some]
  split
  · next after => exact absurd rfl (closed after)
  · simp only [read, Option.bind_eq_bind, Option.bind_some, bracket]

end Items

theorem Scalar.starts {v : Value} (scalar : Scalar v) (rest : List Char) :
    Starts ((writeValue v).toList ++ rest) ∧
      ∀ after, (writeValue v).toList ++ rest ≠ ']' :: after := by
  obtain ⟨c, cs, written, opens⟩ := scalar.opens
  rw [written]
  exact ⟨opens.starts (cs ++ rest), fun after same => opens.ne rfl (List.cons.inj same).1⟩

/-- The items of a list are read back, each from its own line. -/
theorem items?_writeItems (depth fuel : Nat) {items : List Value} (scalars : ∀ v ∈ items, Scalar v)
    (enough : items.length < fuel) (rest : List Char) :
    items? depth fuel ('\n' :: ((writeItems items).toList ++ ']' :: rest)) =
      some (items, rest) := by
  induction items generalizing fuel with
  | nil =>
    obtain ⟨fuel, rfl⟩ : ∃ f, fuel = f + 1 := ⟨fuel - 1, by simp at enough; omega⟩
    have bracket := (starts_mark (.inr rfl) rest).skipLines (rest.length + 1)
    simp [items?, writeItems, skipLines_newline, bracket]
  | cons v items ih =>
    obtain ⟨fuel, rfl⟩ : ∃ f, fuel = f + 1 := ⟨fuel - 1, by simp at enough; omega⟩
    obtain ⟨fuel, rfl⟩ : ∃ f, fuel = f + 1 := ⟨fuel - 1, by simp at enough; omega⟩
    have scalar := scalars v List.mem_cons_self
    have later := @ih (fuel + 1) (fun w mem => scalars w (List.mem_cons_of_mem _ mem))
      (by simpa using enough)
    have written : (writeItems (v :: items)).toList ++ ']' :: rest =
        ' ' :: ' ' :: ' ' :: ' ' :: ((writeValue v).toList ++
          ',' :: '\n' :: ((writeItems items).toList ++ ']' :: rest)) := by
      simp [writeItems]
    obtain ⟨starts, closed⟩ :=
      scalar.starts (',' :: '\n' :: ((writeItems items).toList ++ ']' :: rest))
    rw [written, items?_item _ closed (scalar.read ⟨_, _, rfl, by decide⟩), later]
    · rfl
    · simp only [List.length_cons, skipLines_newline, skipLines_space]
      exact starts.skipLines _

theorem length_le_writeItems (items : List Value) : items.length ≤ (writeItems items).length := by
  induction items with
  | nil => simp
  | cons v items ih =>
    simp only [writeItems, String.length_append, List.length_cons]
    have : ",\n".length = 2 := rfl
    omega

theorem items?_array (depth fuel : Nat) {items : List Value} (scalars : ∀ v ∈ items, Scalar v)
    (enough : (writeValue (.array items)).toList.length ≤ fuel) (rest : List Char) :
    ∃ inside, (writeValue (.array items)).toList = '[' :: inside ∧
      items? depth fuel (inside ++ rest) = some (items, rest) := by
  match items, scalars with
  | [], _ =>
    have written : (writeValue (.array [])).toList = ['[', ']'] := by simp [writeValue]
    have bracket := (starts_mark (.inr rfl) rest).skipLines (rest.length + 1)
    rw [written] at enough
    obtain ⟨fuel, rfl⟩ := Nat.exists_eq_add_of_le' enough
    exact ⟨_, written, by simp [items?, bracket]⟩
  | [v], scalars =>
    have scalar := scalars v List.mem_cons_self
    have written : (writeValue (.array [v])).toList = '[' :: ((writeValue v).toList ++ [']']) := by
      simp [writeValue]
    rw [written, List.length_cons, List.length_append] at enough
    obtain ⟨fuel, rfl⟩ : ∃ f, fuel = f + 2 := Nat.exists_eq_add_of_le' (by simp at enough; omega)
    obtain ⟨starts, closed⟩ := scalar.starts (']' :: rest)
    refine ⟨_, written, ?_⟩
    rw [List.append_assoc]
    exact items?_last (starts.skipLines _) closed (scalar.read ⟨_, _, rfl, by decide⟩)
  | v :: w :: items, scalars =>
    have lines := length_le_writeItems (v :: w :: items)
    have written : (writeValue (.array (v :: w :: items))).toList =
        '[' :: '\n' :: ((writeItems (v :: w :: items)).toList ++ [']']) := by
      rw [writeValue]
      · simp
      all_goals simp
    rw [written] at enough
    simp only [List.length_cons, List.length_append, String.length_toList] at enough lines
    have read := items?_writeItems depth fuel scalars
      (by simp only [List.length_cons]; omega) rest
    exact ⟨_, written, by simpa using read⟩

/-- **A value on the line of its key is read back.** -/
theorem Inline.read {depth fuel : Nat} {v : Value} (inl : Inline v) (stops : Stops rest)
    (enough : (writeValue v).length < fuel) :
    value? (depth + 1) fuel ((writeValue v).toList ++ rest) = some (v, rest) := by
  obtain ⟨fuel, rfl⟩ : ∃ f, fuel = f + 1 := ⟨fuel - 1, by omega⟩
  cases inl with
  | scalar scalar => exact scalar.read stops
  | array scalars =>
    obtain ⟨inside, written, read⟩ :=
      items?_array depth fuel scalars
        (by rw [String.length_toList]; exact Nat.le_of_lt_succ enough) rest
    rw [written, List.cons_append, value?.eq_5, read]
    rfl

theorem Inline.starts {v : Value} (inl : Inline v) (rest : List Char) :
    Starts ((writeValue v).toList ++ rest) := by
  cases inl with
  | scalar scalar => exact (scalar.starts rest).1
  | array scalars =>
    obtain ⟨inside, written, -⟩ := items?_array 0 _ scalars (Nat.le_refl _) rest
    rw [written]
    exact starts_bracket (inside ++ rest)

end Testbed.Toml
