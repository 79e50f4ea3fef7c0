import Testbed.Proofs.Routes

/-!
# The components of a path

Two texts are one path if they have the same components: the root, if the path starts there, and
then the names along the path. Slashes in a row and points between them do not count, but a point
with which a path begins does. One path lies below another if its components go on from those of the
other.

**Joining** (`components_join`). The path of a name in a directory has the components of the
directory, and then the name.

**Lying in** (`components_of_parent?`). The path that a path lies in has all components but the
last, and there is none for the root and for the path without components. So the directory of a file
is what comes before its name, or the current one (`components_directory?`).

Both come down to lists of parts and to what a part at the end adds to what they name
(`named_concat`). Where parts at the end are dropped, that is nothing (`named_dropIdle`), and the
part that is left at the end is the last component (`named_of_dropIdle`).
-/

namespace Testbed.Path

variable {path p name : String} {parts rest : List String} {absolute : Bool}

/-! ## What parts name -/

/-- What the parts of a path name, one after the other: the root, if the path starts there, and
names. A point counts where it is what a path begins with. -/
def named (absolute : Bool) (parts : List String) : List String :=
  (if absolute then ["/"] else if parts.head? = some "." then ["."] else []) ++
    parts.filter fun name => !isIdle name

/-- The components of a path. -/
def components (path : String) : List String := named (isAbsolute path) (segments path)

theorem components_eq (path : String) : components path =
    (if isAbsolute path then ["/"] else if (segments path).head? = some "." then ["."] else []) ++
      route path := rfl

theorem named_empty_cons : named true ("" :: parts) = named true parts := by
  simp [named, isIdle]

/-- More parts than one begin as all but the last of them. -/
theorem named_append {more : List String} (some : parts ≠ []) :
    named absolute (parts ++ more) =
      named absolute parts ++ more.filter fun name => !isIdle name := by
  rw [named, named, List.head?_append_of_ne_nil _ some, List.filter_append, List.append_assoc]

/-- Whether a part names nothing where it stands, given whether it is the first. -/
def idleAt (absolute first : Bool) (s : String) : Bool :=
  s.isEmpty || (s = "." && (absolute || !first))

theorem dropIdle_cons (s : String) : dropIdle absolute (s :: rest) =
    if idleAt absolute rest.isEmpty s then dropIdle absolute rest else s :: rest := rfl

/-- A part at the end adds what it names there. -/
theorem named_concat (absolute : Bool) (parts : List String) (s : String) :
    named absolute (parts ++ [s]) =
      named absolute parts ++ if idleAt absolute parts.isEmpty s then [] else [s] := by
  cases parts with
  | nil =>
    by_cases empty : s = ""
    · subst empty
      cases absolute <;> rfl
    by_cases point : s = "."
    · subst point
      cases absolute <;> rfl
    · simp [named, idleAt, isIdle, empty, point]
  | cons first parts =>
    have idle : idleAt absolute false s = isIdle s := by
      rw [Bool.eq_iff_iff]
      simp [idleAt, isIdle]
    rw [named_append (List.cons_ne_nil first parts), List.isEmpty_cons, idle]
    cases here : isIdle s <;> simp [here]

/-- What is dropped at the end names nothing. -/
theorem named_dropIdle (absolute : Bool) (parts : List String) :
    named absolute (dropIdle absolute parts).reverse = named absolute parts.reverse := by
  induction parts with
  | nil => rfl
  | cons s rest ih =>
    rw [dropIdle_cons]
    split
    · next idle =>
      rw [ih, List.reverse_cons, named_concat, List.isEmpty_reverse, if_pos idle, List.append_nil]
    · rfl

/-- What is left at the end is a component. -/
theorem named_of_dropIdle {s : String} (kept : dropIdle absolute parts = s :: rest) :
    named absolute parts.reverse = named absolute rest.reverse ++ [s] := by
  rw [← named_dropIdle, kept, List.reverse_cons, named_concat, List.isEmpty_reverse]
  induction parts with
  | nil => cases kept
  | cons first parts ih =>
    rw [dropIdle_cons] at kept
    split at kept
    · exact ih kept
    · next present =>
      cases kept
      rw [if_neg present]

/-! ## The path that a path lies in -/

theorem components_root (body : String) :
    components ("/" ++ body) = named true (segments body) := by
  have parts := segments_append_slash "" body
  rw [String.empty_append] at parts
  rw [components, (route_root body).2, parts]
  exact named_empty_cons

theorem named_segments_intercalate {names : List String}
    (plain : ∀ name ∈ names, '/' ∉ name.toList) :
    named absolute (segments ("/".intercalate names)) = named absolute names := by
  cases names with
  | nil => cases absolute <;> decide
  | cons name names => rw [segments_intercalate plain (by simp)]

/-- The parts of a path behind the root. -/
def inner (path : String) : List String :=
  if isAbsolute path then (segments path).drop 1 else segments path

theorem components_eq_named (path : String) :
    components path = named (isAbsolute path) (inner path) := by
  unfold inner
  cases root : isAbsolute path with
  | false => rw [components, root, if_neg (by simp)]
  | true =>
    obtain ⟨body, -, parts⟩ := segments_absolute root
    rw [components, root, if_pos rfl, parts, named_empty_cons]
    rfl

theorem slash_notMem_inner (mem : name ∈ inner path) : '/' ∉ name.toList := by
  unfold inner at mem
  split at mem
  · exact slash_notMem_segments (List.mem_of_mem_drop mem)
  · exact slash_notMem_segments mem

theorem parent?_eq (path : String) : parent? path =
    match dropIdle (isAbsolute path) (inner path).reverse with
    | [] => none
    | _ :: rest => some (if isAbsolute path
        then "/" ++ "/".intercalate (dropIdle (isAbsolute path) rest).reverse
        else "/".intercalate (dropIdle (isAbsolute path) rest).reverse) := rfl

/-- **The path that a path lies in** has all components but the last. -/
theorem components_of_parent? (inside : parent? path = some p) :
    ∃ last, components path = components p ++ [last] := by
  have root := (route_parent? inside).2
  rw [parent?_eq] at inside
  split at inside
  · cases inside
  · next last rest kept =>
    have cut := named_of_dropIdle kept
    rw [List.reverse_reverse, ← components_eq_named, ← named_dropIdle] at cut
    have front := dropIdle_prefix kept
    have plain : ∀ name ∈ (dropIdle (isAbsolute path) rest).reverse, '/' ∉ name.toList :=
      fun name mem => slash_notMem_inner (front.subset mem)
    refine ⟨last, ?_⟩
    rw [cut]
    cases absolute : isAbsolute path with
    | true =>
      rw [absolute, if_pos rfl] at inside
      rw [absolute] at plain
      cases inside
      rw [components_root, named_segments_intercalate plain]
    | false =>
      rw [absolute, if_neg (by simp)] at inside
      rw [absolute] at plain root
      cases inside
      rw [components, root, named_segments_intercalate plain]

example : parent? "./a//b/." = some "./a" ∧ components "./a//b/." = [".", "a", "b"] := by decide

/-- Only the root and the path without components lie in none. -/
theorem components_of_parent?_eq_none (alone : parent? path = none) :
    components path = [] ∨ components path = ["/"] := by
  rw [parent?_eq] at alone
  split at alone
  · next nothing =>
    have whole := named_dropIdle (isAbsolute path) (inner path).reverse
    rw [nothing, List.reverse_reverse, ← components_eq_named] at whole
    rw [← whole]
    cases isAbsolute path
    · exact .inl rfl
    · exact .inr rfl
  · cases alone

theorem dropLast_components (path : String) :
    (components path).dropLast = (parent? path).elim [] components := by
  cases inside : parent? path with
  | some p =>
    obtain ⟨last, whole⟩ := components_of_parent? inside
    rw [whole, List.dropLast_concat]
    rfl
  | none => rcases components_of_parent?_eq_none inside with none | root <;> simp [*]

/-- Only the empty text has no components. -/
theorem components_eq_nil_iff : components path = [] ↔ path = "" := by
  refine ⟨fun nothing => ?_, fun empty => empty ▸ by decide⟩
  by_contra full
  have more : path.toList ≠ [] := by simpa using full
  obtain ⟨c, cs, chars⟩ := List.exists_cons_of_ne_nil more
  rw [components_eq, List.append_eq_nil_iff] at nothing
  obtain ⟨start, names⟩ := nothing
  by_cases slash : c = '/'
  · simp [isAbsolute, chars, slash] at start
  · obtain ⟨first, rest, parts⟩ := head_segmentsFrom [c] cs
    have whole : segments path = String.ofList (c :: first) :: rest.map String.ofList := by
      rw [segments, chars, segmentsFrom, if_neg slash, parts]
      rfl
    generalize named : String.ofList (c :: first) = name at whole
    have idle : isIdle name = true := by
      simpa using List.filter_eq_nil_iff.1 names name (whole ▸ List.mem_cons_self)
    have full : name ≠ "" := by simp [← named, ← String.toList_inj]
    have point : name = "." := by simpa [isIdle, full] using idle
    rw [whole, point, List.head?_cons, if_pos rfl] at start
    split at start <;> cases start

/-! ## Joining -/

theorem components_slash (front back : String) : components (front ++ "/" ++ back) =
    (if front = "" then ["/"] else components front) ++ route back := by
  split
  · next empty =>
    subst empty
    rw [String.empty_append, components_root]
    rfl
  · next full =>
    have root : isAbsolute (front ++ "/" ++ back) = isAbsolute front := by
      have more : front.toList ≠ [] := by simpa using full
      obtain ⟨c, cs, chars⟩ := List.exists_cons_of_ne_nil more
      simp [isAbsolute, chars]
    rw [components, root, segments_append_slash, named_append (segments_ne_nil front)]
    rfl

/-- **The path of a name in a directory** has the name after the components of the directory. -/
theorem components_join (directory : String) (plain : '/' ∉ name.toList)
    (present : isIdle name = false) :
    components (join directory name) = components directory ++ [name] := by
  have alone : route name = [name] := by
    rw [route, segments_plain plain]
    simp [present]
  have relative : isAbsolute name = false := by
    rw [isAbsolute, decide_eq_false_iff_not]
    exact fun first => plain (List.mem_of_mem_head? first)
  unfold join
  rw [if_neg (by simp [relative])]
  split
  · next closed =>
    simp only [Bool.or_eq_true, String.isEmpty_iff, decide_eq_true_eq] at closed
    rcases closed with rfl | last
    · have other : name ≠ "." := by
        rintro rfl
        cases present
      rw [String.empty_append, components_eq, relative, segments_plain plain, alone]
      simp [other, components_eq_nil_iff.2]
    · obtain ⟨cs, chars⟩ := List.getLast?_eq_some_iff.1 last
      obtain rfl : directory = String.ofList cs ++ "/" := by simp [← String.toList_inj, chars]
      have before := components_slash (String.ofList cs) ""
      rw [String.append_empty] at before
      rw [components_slash, before, alone, List.append_assoc]
      rfl
  · next opened =>
    simp only [Bool.or_eq_true, String.isEmpty_iff, not_or] at opened
    rw [components_slash, if_neg opened.1, alone]

/-! ## The directory of a file -/

/-- The components of the directory of a file, given those of its path: what comes before the name,
or the current directory if nothing does. -/
def home (components : List String) : List String :=
  if components.dropLast = [] then ["."] else components.dropLast

theorem components_directory? (path : String) :
    components ((directory? path).getD ".") = home (components path) := by
  have point : components "." = ["."] := by decide
  rw [home, dropLast_components, directory?]
  cases parent? path with
  | none => exact point
  | some p =>
    by_cases empty : p = ""
    · subst empty
      exact point
    · have names : components p ≠ [] := fun nothing => empty (components_eq_nil_iff.1 nothing)
      have kept : (some p).filter (fun p => !p.isEmpty) = some p := by simpa using empty
      rw [kept, Option.elim_some, if_neg names]
      rfl

end Testbed.Path
