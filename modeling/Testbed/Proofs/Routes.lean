import Testbed.Proofs.FileTrees
import Testbed.State.Break

/-!
# The names along a path

A path is cut at its slashes, and of the parts those count that name something: the route. What the
functions on paths do to the text of a path they do to its route: the path that a path lies in has
fewer names at the end (`route_parent?`, `route_ancestor?`), and the path of a file in a directory
has the name of the file after those of the directory (`segments_join`).

Text and parts come down to each other as long as no part has a slash in it
(`segments_append_slash`, `segments_intercalate`), and no part of a path has one
(`slash_notMem_segments`).
-/

namespace Testbed

namespace Path

/-- Whether a part of a path names nothing. -/
def isIdle (name : String) : Bool := name = "" || name = "."

/-- The names along a path, one after the other. -/
def route (path : String) : List String := (segments path).filter fun name => !isIdle name

variable {path p : String}

/-! ## Parts between slashes -/

theorem segmentsFrom_append_slash (current a b : List Char) :
    segmentsFrom current (a ++ '/' :: b) = segmentsFrom current a ++ segmentsFrom [] b := by
  induction a generalizing current with
  | nil => simp [segmentsFrom]
  | cons c a ih =>
    simp only [List.cons_append, segmentsFrom]
    split
    · rw [ih, List.cons_append]
    · exact ih _

theorem segments_append_slash (a b : String) :
    segments (a ++ "/" ++ b) = segments a ++ segments b := by
  have parts : (a ++ "/" ++ b).toList = a.toList ++ '/' :: b.toList := by simp
  rw [segments, parts, segmentsFrom_append_slash, List.map_append]
  rfl

theorem segmentsFrom_plain {a : List Char} (plain : '/' ∉ a) (current : List Char) :
    segmentsFrom current a = [current.reverse ++ a] := by
  induction a generalizing current with
  | nil => simp [segmentsFrom]
  | cons c a ih =>
    simp only [List.mem_cons, not_or] at plain
    obtain ⟨other, plain⟩ := plain
    rw [segmentsFrom, if_neg (Ne.symm other), ih plain]
    simp

theorem segments_plain (plain : '/' ∉ path.toList) : segments path = [path] := by
  rw [segments, segmentsFrom_plain plain]
  simp

theorem slash_notMem_segmentsFrom {current l s : List Char} (plain : '/' ∉ current)
    (mem : s ∈ segmentsFrom current l) : '/' ∉ s := by
  induction l generalizing current with
  | nil =>
    obtain rfl := List.mem_singleton.1 mem
    simpa using plain
  | cons c l ih =>
    rw [segmentsFrom] at mem
    split at mem
    · rcases List.mem_cons.1 mem with rfl | mem
      · simpa using plain
      · exact ih (by simp) mem
    · next other => exact ih (by simp [plain, Ne.symm other]) mem

theorem slash_notMem_segments {name : String} (mem : name ∈ segments path) :
    '/' ∉ name.toList := by
  obtain ⟨s, inside, rfl⟩ := List.mem_map.1 mem
  rw [String.toList_ofList]
  exact slash_notMem_segmentsFrom List.not_mem_nil inside

theorem segments_intercalate {names : List String} (plain : ∀ name ∈ names, '/' ∉ name.toList)
    (more : names ≠ []) : segments ("/".intercalate names) = names := by
  induction names with
  | nil => exact absurd rfl more
  | cons name names ih =>
    obtain ⟨first, plain⟩ := List.forall_mem_cons.1 plain
    cases names with
    | nil =>
      have whole : "/".intercalate [name] = name := by simp
      rw [whole, segments_plain first]
    | cons next names =>
      have whole : "/".intercalate (name :: next :: names) =
          name ++ "/" ++ "/".intercalate (next :: names) := by simp
      rw [whole, segments_append_slash, segments_plain first, ih plain (by simp)]
      rfl

/-! ## Routes -/

theorem route_intercalate {names : List String} (plain : ∀ name ∈ names, '/' ∉ name.toList) :
    route ("/".intercalate names) = names.filter fun name => !isIdle name := by
  cases names with
  | nil => decide
  | cons name names => rw [route, segments_intercalate plain (by simp)]

theorem dropIdle_suffix (absolute : Bool) (parts : List String) :
    dropIdle absolute parts <:+ parts := by
  induction parts with
  | nil => exact List.suffix_refl _
  | cons s rest ih =>
    rw [dropIdle]
    split
    · exact ih.trans (List.suffix_cons s rest)
    · exact List.suffix_refl _

theorem segments_absolute (absolute : isAbsolute path = true) :
    ∃ body, path = "/" ++ body ∧ segments path = "" :: segments body := by
  obtain ⟨cs, chars⟩ : ∃ cs, path.toList = '/' :: cs := by
    simpa [isAbsolute, List.head?_eq_some_iff] using absolute
  have whole : path = "" ++ "/" ++ String.ofList cs := by simp [← String.toList_inj, chars]
  refine ⟨String.ofList cs, by simpa using whole, ?_⟩
  rw [whole, segments_append_slash]
  rfl

theorem head_segmentsFrom (current l : List Char) :
    ∃ first rest, segmentsFrom current l = (current.reverse ++ first) :: rest := by
  induction l generalizing current with
  | nil => exact ⟨[], [], by simp [segmentsFrom]⟩
  | cons c l ih =>
    rw [segmentsFrom]
    split
    · exact ⟨[], segmentsFrom [] l, by simp⟩
    · obtain ⟨first, rest, whole⟩ := ih (c :: current)
      exact ⟨c :: first, rest, by simp [whole]⟩

/-- Only of a path that starts at the root is the first of several parts empty. -/
theorem isAbsolute_of_segments {next : String} {rest : List String}
    (parts : segments path = "" :: next :: rest) : isAbsolute path = true := by
  unfold segments at parts
  unfold isAbsolute
  cases chars : path.toList with
  | nil => simp [chars, segmentsFrom] at parts
  | cons c cs =>
    rw [chars, segmentsFrom] at parts
    split at parts
    · next slash => simp [slash]
    · obtain ⟨first, more, whole⟩ := head_segmentsFrom [c] cs
      simp [whole, ← String.toList_inj] at parts

theorem segments_ne_nil (path : String) : segments path ≠ [] := by
  obtain ⟨first, rest, whole⟩ := head_segmentsFrom [] path.toList
  simp [segments, whole]

theorem route_root (body : String) :
    route ("/" ++ body) = route body ∧ isAbsolute ("/" ++ body) = true := by
  have parts := segments_append_slash "" body
  rw [String.empty_append] at parts
  refine ⟨?_, by simp [isAbsolute]⟩
  rw [route, parts, List.filter_append]
  rfl

/-- What is left of a path when names at its end are dropped. -/
theorem dropIdle_prefix {absolute : Bool} {parts rest : List String} {s : String}
    (kept : dropIdle absolute parts.reverse = s :: rest) :
    (dropIdle absolute rest).reverse <+: parts := by
  have suffix : dropIdle absolute rest <:+ parts.reverse :=
    ((dropIdle_suffix absolute rest).trans (List.suffix_cons s rest)).trans
      (kept ▸ dropIdle_suffix absolute parts.reverse)
  simpa using List.reverse_prefix.2 suffix

/-- The path that a path lies in has the first of its names. -/
theorem route_parent? (inside : parent? path = some p) :
    route p <+: route path ∧ isAbsolute p = isAbsolute path := by
  unfold parent? at inside
  dsimp only at inside
  split at inside
  · cases inside
  · next s rest kept =>
    have front := dropIdle_prefix kept
    generalize (dropIdle (isAbsolute path) rest).reverse = names at front inside
    cases absolute : isAbsolute path with
    | true =>
      obtain ⟨body, rfl, parts⟩ := segments_absolute absolute
      simp only [absolute, parts, if_true, List.drop_one, List.tail_cons] at front inside
      cases inside
      have plain : ∀ name ∈ names, '/' ∉ name.toList := fun name mem =>
        slash_notMem_segments (front.subset mem)
      rw [(route_root _).1, (route_root _).1, route_intercalate plain]
      exact ⟨front.filter _, (route_root _).2⟩
    | false =>
      simp only [absolute, Bool.false_eq_true, if_false] at front inside
      cases inside
      have plain : ∀ name ∈ names, '/' ∉ name.toList := fun name mem =>
        slash_notMem_segments (front.subset mem)
      rw [route_intercalate plain]
      refine ⟨front.filter _, ?_⟩
      cases root : isAbsolute ("/".intercalate names) with
      | false => rfl
      | true =>
        obtain ⟨body, -, parts⟩ := segments_absolute root
        cases names with
        | nil => cases root
        | cons first more =>
          rw [segments_intercalate plain (by simp)] at parts
          obtain ⟨next, others, two⟩ := List.exists_cons_of_ne_nil (segments_ne_nil body)
          obtain ⟨after, whole⟩ := front
          rw [parts, two] at whole
          exact absurd (isAbsolute_of_segments whole.symm) (by simp [absolute])

theorem route_ancestor? {n : Nat} (above : ancestor? path n = some p) :
    route p <+: route path ∧ isAbsolute p = isAbsolute path := by
  induction n generalizing p with
  | zero =>
    cases above
    exact ⟨List.prefix_refl _, rfl⟩
  | succ n ih =>
    obtain ⟨q, first, inside⟩ := Option.bind_eq_some_iff.1 above
    obtain ⟨names, root⟩ := ih first
    obtain ⟨names', root'⟩ := route_parent? inside
    exact ⟨names'.trans names, root'.trans root⟩

/-- The path of a name in a directory goes along the names of the directory. -/
theorem segments_join (directory : String) {name : String} (plain : '/' ∉ name.toList) :
    ∃ front, segments (join directory name) = front ++ [name] ∧
      (front.filter fun s => !isIdle s) = route directory ∧
      isAbsolute (join directory name) = isAbsolute directory := by
  have relative : isAbsolute name = false := by
    rw [isAbsolute, decide_eq_false_iff_not]
    exact fun first => plain (List.mem_of_mem_head? first)
  unfold join
  rw [if_neg (by simp [relative])]
  split
  · next closed =>
    simp only [Bool.or_eq_true, String.isEmpty_iff, decide_eq_true_eq] at closed
    rcases closed with rfl | last
    · refine ⟨[], ?_, by decide, ?_⟩
      · rw [String.empty_append, segments_plain plain, List.nil_append]
      · rw [String.empty_append, relative]
        decide
    · obtain ⟨cs, chars⟩ := List.getLast?_eq_some_iff.1 last
      obtain rfl : directory = String.ofList cs ++ "/" := by simp [← String.toList_inj, chars]
      refine ⟨segments (String.ofList cs), ?_, ?_, ?_⟩
      · rw [segments_append_slash, segments_plain plain]
      · have parts := segments_append_slash (String.ofList cs) ""
        rw [String.append_empty] at parts
        rw [route, parts, List.filter_append]
        simp [segments, segmentsFrom, isIdle]
      · simp [isAbsolute, List.head?_append]
  · next opened =>
    simp only [Bool.or_eq_true, String.isEmpty_iff, not_or] at opened
    refine ⟨segments directory, ?_, rfl, ?_⟩
    · rw [segments_append_slash, segments_plain plain]
    · have named : directory.toList ≠ [] := by simpa using opened.1
      obtain ⟨c, cs, chars⟩ := List.exists_cons_of_ne_nil named
      simp [isAbsolute, chars]

end Path

end Testbed
