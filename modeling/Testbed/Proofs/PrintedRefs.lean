import Mathlib.Data.List.Perm.Basic
import Testbed.Proofs.PrintedLines
import Testbed.Provider.Commands

/-!
# What a new control plane prints

The command that creates the control plane prints what it likes. A line that reads `key=value`, with
any blank characters around the key and the value, says something about the control plane if the key
is one of three; the rest of the text counts for nothing.

**Theorem (`ofText_tells`).** Of each key the last line counts that says something about it, and a
key about which no line says anything stays unknown. So what is known of a control plane can be
printed on lines of its own, in any order, with either line ending and among any other lines, and
reads back as it was.

The lines of a text are what stands between the ends of lines. They are read one by one
(`ofText_eq_foldl`), because a carriage return more or less does not matter (`readLine_readBack`).
One line sets the value of its key (`value?_readLine_of_assigns`) and no other
(`value?_readLine_of_silent`), so the last line about a key decides (`value?_foldl_eq_some_iff`).
-/

namespace Testbed

namespace ClusterRefs

open Text (Tight Trims trimChars cutAt? LineEnd printed readBack IsLines)

/-- What can be known of a control plane. -/
inductive Key
  | endpoint
  | arn
  | certificateAuthority
  deriving DecidableEq

namespace Key

/-- All keys. -/
def all : List Key := [endpoint, arn, certificateAuthority]

theorem mem_all (key : Key) : key ∈ all := by cases key <;> decide

/-- How a key is printed. -/
def name : Key → String
  | endpoint => "endpoint"
  | arn => "arn"
  | certificateAuthority => "certificate_authority"

theorem name_injective {key key' : Key} (same : key.name = key'.name) : key = key' := by
  revert same
  cases key <;> cases key' <;> decide

/-- Of a printed key nothing is cut or trimmed away. -/
theorem chars_name (key : Key) : '=' ∉ key.name.toList ∧ '\n' ∉ key.name.toList ∧
    trimChars key.name.toList = key.name.toList := by
  cases key <;> decide

end Key

variable {refs refs' : ClusterRefs} {key key' : Key} {value value' : String} {line : List Char}
  {lines : List (List Char)}

/-- What is known under a key. -/
def value? (refs : ClusterRefs) : Key → Option String
  | .endpoint => refs.endpoint
  | .arn => refs.arn
  | .certificateAuthority => refs.certificateAuthority

theorem eq_of_value? (same : ∀ key, refs.value? key = refs'.value? key) : refs = refs' := by
  have endpoint := same .endpoint
  have arn := same .arn
  have certificateAuthority := same .certificateAuthority
  cases refs
  cases refs'
  cases endpoint
  cases arn
  cases certificateAuthority
  rfl

/-! ## What a line says -/

/-- A line gives a key a value: the key stands before the first equals sign and the value after it,
each among blank characters. -/
def Assigns (line : List Char) (key : Key) (value : String) : Prop :=
  ∃ before after, (line = before ++ '=' :: after ∧ '=' ∉ before) ∧
    Trims before key.name.toList ∧ Trims after value.toList

/-- A line says nothing about a key. -/
def Silent (line : List Char) (key : Key) : Prop := ∀ value, ¬Assigns line key value

theorem assigns_iff : Assigns line key value ↔ ∃ p, cutAt? '=' line = some p ∧
    trimChars p.1 = key.name.toList ∧ trimChars p.2 = value.toList := by
  simp only [Assigns, Prod.exists, Text.cutAt?_eq_some_iff, Text.trimChars_eq_iff]

theorem silent_iff :
    Silent line key ↔ ∀ p ∈ cutAt? '=' line, trimChars p.1 ≠ key.name.toList := by
  constructor
  · intro silent p cut name
    exact silent _ (assigns_iff.2 ⟨p, cut, name, String.toList_ofList.symm⟩)
  · intro others value assigns
    obtain ⟨p, cut, name, -⟩ := assigns_iff.1 assigns
    exact others p cut name

instance (line : List Char) (key : Key) (value : String) : Decidable (Assigns line key value) :=
  decidable_of_iff (∃ p ∈ cutAt? '=' line,
    trimChars p.1 = key.name.toList ∧ trimChars p.2 = value.toList) assigns_iff.symm

instance (line : List Char) (key : Key) : Decidable (Silent line key) :=
  decidable_of_iff _ silent_iff.symm

theorem value?_readLine {before after : List Char} (cut : cutAt? '=' line = some (before, after)) :
    (refs.readLine line).value? key =
      if trimChars before = key.name.toList then some (String.ofList (trimChars after))
      else refs.value? key := by
  have names : trimChars before = key.name.toList ↔
      String.ofList (trimChars before) = key.name := by
    rw [← String.toList_inj, String.toList_ofList]
  simp only [names, readLine, cut]
  split
  · next same => cases key <;> simp [value?, Key.name, same]
  · next same => cases key <;> simp [value?, Key.name, same]
  · next same => cases key <;> simp [value?, Key.name, same]
  · next endpoint arn certificateAuthority =>
    have other : String.ofList (trimChars before) ≠ key.name := by
      cases key with
      | endpoint => exact endpoint
      | arn => exact arn
      | certificateAuthority => exact certificateAuthority
    rw [if_neg other]

/-- **A line sets the value of its key.** -/
theorem value?_readLine_of_assigns (assigns : Assigns line key value) :
    (refs.readLine line).value? key = some value := by
  obtain ⟨⟨before, after⟩, cut, name, trimmed⟩ := assigns_iff.1 assigns
  rw [value?_readLine cut, if_pos name, trimmed, String.ofList_toList]

/-- **And no other.** -/
theorem value?_readLine_of_silent (silent : Silent line key) :
    (refs.readLine line).value? key = refs.value? key := by
  cases cut : cutAt? '=' line with
  | none =>
    unfold readLine
    rw [cut]
  | some p => rw [value?_readLine cut, if_neg (silent_iff.1 silent p cut)]

/-! ## What a text says -/

/-- Of the lines that say something about a key, the last gives it a value. -/
def LastAssigns (lines : List (List Char)) (key : Key) (value : String) : Prop :=
  ∃ before line after, lines = before ++ line :: after ∧ Assigns line key value ∧
    ∀ later ∈ after, Silent later key

theorem silent_or_lastAssigns (lines : List (List Char)) (key : Key) :
    (∀ line ∈ lines, Silent line key) ∨ ∃ value, LastAssigns lines key value := by
  induction lines with
  | nil => exact .inl nofun
  | cons line lines ih =>
    rcases ih with silent | ⟨value, before, last, after, rfl, assigns, later⟩
    · by_cases here : Silent line key
      · exact .inl (List.forall_mem_cons.2 ⟨here, silent⟩)
      · obtain ⟨value, assigns⟩ := not_forall_not.1 here
        exact .inr ⟨value, [], line, lines, rfl, assigns, silent⟩
    · exact .inr ⟨value, line :: before, last, after, rfl, assigns, later⟩

theorem value?_foldl_of_silent (silent : ∀ line ∈ lines, Silent line key) :
    (lines.foldl readLine refs).value? key = refs.value? key := by
  induction lines generalizing refs with
  | nil => rfl
  | cons line lines ih =>
    obtain ⟨here, silent⟩ := List.forall_mem_cons.1 silent
    rw [List.foldl_cons, ih silent, value?_readLine_of_silent here]

theorem value?_foldl_of_lastAssigns (last : LastAssigns lines key value) :
    (lines.foldl readLine refs).value? key = some value := by
  obtain ⟨before, line, after, rfl, assigns, later⟩ := last
  rw [List.foldl_append, List.foldl_cons, value?_foldl_of_silent later,
    value?_readLine_of_assigns assigns]

theorem value?_empty (key : Key) : ({} : ClusterRefs).value? key = none := by cases key <;> rfl

theorem value?_foldl_eq_none_iff :
    (lines.foldl readLine {}).value? key = none ↔ ∀ line ∈ lines, Silent line key := by
  constructor
  · intro unknown
    rcases silent_or_lastAssigns lines key with silent | ⟨value, last⟩
    · exact silent
    · cases unknown.symm.trans (value?_foldl_of_lastAssigns last)
  · intro silent
    rw [value?_foldl_of_silent silent, value?_empty]

/-- **The last line about a key decides.** -/
theorem value?_foldl_eq_some_iff :
    (lines.foldl readLine {}).value? key = some value ↔ LastAssigns lines key value := by
  refine ⟨fun known => ?_, value?_foldl_of_lastAssigns⟩
  rcases silent_or_lastAssigns lines key with silent | ⟨value', last⟩
  · cases (value?_foldl_eq_none_iff.2 silent).symm.trans known
  · cases (value?_foldl_of_lastAssigns last).symm.trans known
    exact last

/-- If all lines about a key agree, it does not matter which is the last. -/
theorem value?_foldl_eq {known : Option String}
    (agree : ∀ value, (∃ line ∈ lines, Assigns line key value) ↔ known = some value) :
    (lines.foldl readLine {}).value? key = known := by
  cases read : (lines.foldl readLine {}).value? key with
  | some value =>
    obtain ⟨before, line, after, rfl, assigns, -⟩ := value?_foldl_eq_some_iff.1 read
    exact ((agree value).1 ⟨line, List.mem_append_right _ List.mem_cons_self, assigns⟩).symm
  | none =>
    cases known with
    | none => rfl
    | some value =>
      obtain ⟨line, mem, assigns⟩ := (agree value).2 rfl
      exact absurd assigns (value?_foldl_eq_none_iff.1 read line mem value)

/-! ## Line ends -/

/-- A carriage return at the end of a line does not matter. -/
theorem readLine_dropReturn (refs : ClusterRefs) (line : List Char) :
    refs.readLine (Text.dropReturn line) = refs.readLine line := by
  unfold Text.dropReturn
  split
  · next last =>
    obtain ⟨front, rfl⟩ := List.getLast?_eq_some_iff.1 last
    have blank : Text.isBlank '\r' = true := by decide
    rw [List.dropLast_concat, readLine, readLine, Text.cutAt?_concat (by decide)]
    cases cutAt? '=' front with
    | none => rfl
    | some p => simp only [Option.map_some, Text.trimChars_concat blank]
  · rfl

theorem readLine_readBack (refs : ClusterRefs) (l : List Char × LineEnd) :
    refs.readLine (readBack l) = refs.readLine l.1 := by
  obtain ⟨line, ends⟩ := l
  cases ends with
  | lineFeed => exact readLine_dropReturn refs line
  | returnLineFeed => rfl

/-- **A text is read line by line.** -/
theorem ofText_eq_foldl {text : String} (consists : IsLines text.toList lines) :
    ofText text = lines.foldl readLine {} := by
  obtain ⟨ended, last, whole, rfl, plain⟩ := consists
  rw [ofText, whole, Text.lines_printed plain, List.foldl_append, List.foldl_append,
    List.foldl_map, List.foldl_map]
  simp only [readLine_readBack]
  -- An empty last line is not read, and there would be nothing to it.
  split
  · next empty =>
    subst empty
    rfl
  · rfl

/-! ## Printing -/

/-- How a value is printed. -/
def assignment (key : Key) (value : String) : List Char :=
  key.name.toList ++ '=' :: value.toList

/-- The lines that say what is known. -/
def assignments (refs : ClusterRefs) : List (List Char) :=
  Key.all.filterMap fun key => (refs.value? key).map (assignment key)

theorem mem_assignments : line ∈ refs.assignments ↔
    ∃ key value, refs.value? key = some value ∧ assignment key value = line := by
  simp [assignments, Key.mem_all]

theorem assigns_assignment (tight : Tight value.toList) :
    Assigns (assignment key value) key' value' ↔ key' = key ∧ value' = value := by
  obtain ⟨plain, -, name⟩ := key.chars_name
  have cut : cutAt? '=' (assignment key value) = some (key.name.toList, value.toList) :=
    Text.cutAt?_eq_some_iff.2 ⟨rfl, plain⟩
  have same : trimChars value.toList = value.toList :=
    Text.trimChars_eq_iff.2 ⟨tight, [], [], by simp, nofun, nofun⟩
  simp only [assigns_iff, cut, Option.some.injEq, exists_eq_left', name, same, String.toList_inj]
  constructor
  · rintro ⟨names, rfl⟩
    exact ⟨(Key.name_injective names).symm, rfl⟩
  · rintro ⟨rfl, rfl⟩
    exact ⟨rfl, rfl⟩

/-- What can be printed on a line and read from it: there is no line feed in the value, and no blank
character at either end. -/
def Printable (refs : ClusterRefs) : Prop :=
  ∀ key value, refs.value? key = some value → '\n' ∉ value.toList ∧ Tight value.toList

theorem ofText_printed {others : List (List Char)} {text : String} (printable : refs.Printable)
    (silent : ∀ line ∈ others, ∀ key, Silent line key)
    (shuffled : lines.Perm (refs.assignments ++ others)) (consists : IsLines text.toList lines) :
    ofText text = refs := by
  refine eq_of_value? fun key => ?_
  rw [ofText_eq_foldl consists]
  refine value?_foldl_eq fun value => ?_
  constructor
  · rintro ⟨line, mem, assigns⟩
    rcases List.mem_append.1 (shuffled.mem_iff.1 mem) with mem | mem
    · obtain ⟨key', value', known, rfl⟩ := mem_assignments.1 mem
      obtain ⟨rfl, rfl⟩ := (assigns_assignment (printable key' value' known).2).1 assigns
      exact known
    · exact absurd assigns (silent line mem key value)
  · intro known
    have mem : assignment key value ∈ refs.assignments := mem_assignments.2 ⟨key, value, known, rfl⟩
    exact ⟨assignment key value, shuffled.mem_iff.2 (List.mem_append_left _ mem),
      (assigns_assignment (printable key value known).2).2 ⟨rfl, rfl⟩⟩

/-- Lines about what is known can be printed together with any others. -/
theorem isLines_printed {ended : List (List Char × LineEnd)} {last : List Char}
    {others : List (List Char)} (printable : refs.Printable)
    (plain : ∀ line ∈ others, '\n' ∉ line)
    (shuffled : (ended.map (·.1) ++ [last]).Perm (refs.assignments ++ others)) :
    IsLines (printed ended last) (ended.map (·.1) ++ [last]) := by
  refine ⟨ended, last, rfl, rfl, fun line mem => ?_⟩
  rcases List.mem_append.1 (shuffled.mem_iff.1 mem) with mem | mem
  · obtain ⟨key, value, known, rfl⟩ := mem_assignments.1 mem
    simp [assignment, key.chars_name.2.1, (printable key value known).1]
  · exact plain line mem

/-- **The last line about a key decides**, whatever the text. So what is known of a control plane
reads back: it may be printed in any order, with either end to each line and none to the last, and
among lines that say nothing about any of the keys. The empty line behind a last line end is one of
those. -/
theorem ofText_tells :
    (∀ text : String, ∃ lines, IsLines text.toList lines) ∧
    (∀ (text : String) (lines : List (List Char)), IsLines text.toList lines → ∀ key,
      (∀ value, (ofText text).value? key = some value ↔ LastAssigns lines key value) ∧
      ((ofText text).value? key = none ↔ ∀ line ∈ lines, Silent line key)) ∧
    ∀ (refs : ClusterRefs) (ended : List (List Char × LineEnd)) (last : List Char)
      (others : List (List Char)), refs.Printable →
      (∀ line ∈ others, '\n' ∉ line ∧ ∀ key, Silent line key) →
      (ended.map (·.1) ++ [last]).Perm (refs.assignments ++ others) →
      ofText (String.ofList (printed ended last)) = refs := by
  refine ⟨fun text => Text.exists_isLines _, fun text lines consists key => ?_, ?_⟩
  · rw [ofText_eq_foldl consists]
    exact ⟨fun value => value?_foldl_eq_some_iff, value?_foldl_eq_none_iff⟩
  · intro refs ended last others printable silent shuffled
    refine ofText_printed printable (fun line mem => (silent line mem).2) shuffled ?_
    rw [String.toList_ofList]
    exact isLines_printed printable (fun line mem => (silent line mem).1) shuffled

/-- What is known of a control plane without a name. -/
def namelessRefs : ClusterRefs where
  endpoint := some "https://k8s"
  certificateAuthority := some "LS0t=="

/-- Lines with either end, in another order, among lines about other things, the last without an
end; and of two lines about one key the second, whose value has an equals sign. -/
theorem ofText_tells_namelessRefs :
    namelessRefs.Printable ∧
      ofText "creating\ncertificate_authority=LS0t==\r\narns = 3\nendpoint=https://k8s" =
        namelessRefs ∧
      (ofText "arn=old\n arn = a=b \r\n").value? .arn = some "a=b" := by
  have printable : namelessRefs.Printable := by
    intro key value known
    cases key with
    | endpoint =>
      cases known
      decide +kernel
    | arn => cases known
    | certificateAuthority =>
      cases known
      decide +kernel
  have silent : ∀ line ∈ ["creating".toList, "arns = 3".toList],
      '\n' ∉ line ∧ ∀ key, Silent line key := by
    intro line mem
    simp only [List.mem_cons, List.not_mem_nil, or_false] at mem
    rcases mem with rfl | rfl
    · exact ⟨by decide, fun key => by cases key <;> decide⟩
    · exact ⟨by decide, fun key => by cases key <;> decide⟩
  obtain ⟨-, last, back⟩ := ofText_tells
  refine ⟨printable, ?_, ?_⟩
  · refine back namelessRefs [("creating".toList, .lineFeed),
      ("certificate_authority=LS0t==".toList, .returnLineFeed), ("arns = 3".toList, .lineFeed)]
      "endpoint=https://k8s".toList _ printable silent ?_
    decide
  · have consists : IsLines "arn=old\n arn = a=b \r\n".toList
        ["arn=old".toList, " arn = a=b ".toList, []] :=
      ⟨[("arn=old".toList, .lineFeed), (" arn = a=b ".toList, .returnLineFeed)], [], by decide⟩
    refine ((last _ _ consists .arn).1 "a=b").2 ⟨["arn=old".toList], _, [[]], rfl, ?_, ?_⟩
    · decide
    · decide

end ClusterRefs

end Testbed
