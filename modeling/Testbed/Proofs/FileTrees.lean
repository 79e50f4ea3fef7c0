import Mathlib.Data.List.Perm.Subperm
import Mathlib.Data.List.Nodup
import Testbed.Files.Tree
import Testbed.Proofs.Results

/-!
# What paths lead to

Operations on a tree of files follow paths, and what one of them changes decides where later paths
lead. A path goes through directories only, so it leads to the same place as long as no directory
is lost (`KeepsDirectories`), whatever happens to the files.

**Fresh names** (`get?_freshPlace`). Among more names than there are entries one is free, so a fresh
file never takes the place of anything.

**Operations.** `makeTemporary_eq_ok` and `rename_eq_ok` say when an operation succeeds and what it
then leaves; `makeDirectories_of_locate` says that a directory that exists is left alone.
-/

namespace Testbed

namespace FileTree

variable {t t' : FileTree} {p q here : Place} {e : Entry} {name path : String}

/-! ## Entries -/

theorem get?_root (t : FileTree) : t.get? [] = some .directory := if_pos rfl

theorem get?_of_ne_root (t : FileTree) (named : p ≠ []) :
    t.get? p = (t.entries.find? fun e => e.1 = p).map (·.2) := if_neg named

theorem find?_filter_other {p q : Place} (other : q ≠ p) (l : List (Place × Entry)) :
    (l.filter fun x => x.1 ≠ p).find? (fun e => e.1 = q) = l.find? fun e => e.1 = q := by
  rw [List.find?_filter]
  congr 1
  funext x
  by_cases here : x.1 = q
  · simp [here, other]
  · simp [here]

theorem get?_erase (named : p ≠ []) (q : Place) :
    (t.erase p).get? q = if q = p then none else t.get? q := by
  by_cases root : q = []
  · subst root
    rw [get?_root, get?_root, if_neg named.symm]
  · rw [get?_of_ne_root _ root, get?_of_ne_root _ root, erase]
    split
    · next same => simp [same, List.find?_eq_none.2]
    · next other => rw [find?_filter_other other]

theorem get?_put (named : p ≠ []) (e : Entry) (q : Place) :
    (t.put p e).get? q = if q = p then some e else t.get? q := by
  by_cases root : q = []
  · subst root
    rw [get?_root, get?_root, if_neg named.symm]
  · rw [get?_of_ne_root _ root, get?_of_ne_root _ root, put, List.find?_append]
    split
    · next same => simp [same, List.find?_eq_none.2]
    · next other =>
      rw [find?_filter_other other]
      have : p ≠ q := fun same => other same.symm
      simp [this]

theorem isDirectoryAt_iff : t.isDirectoryAt p ↔ t.get? p = some .directory := by
  unfold isDirectoryAt
  split <;> simp_all

/-! ## Paths that lead to directories -/

/-- No directory of a tree is lost in another, and paths start at the same place. -/
structure KeepsDirectories (t t' : FileTree) : Prop where
  current : t'.current = t.current
  directory : ∀ p, t.isDirectoryAt p → t'.isDirectoryAt p

theorem KeepsDirectories.trans {t₁ t₂ t₃ : FileTree} (first : KeepsDirectories t₁ t₂)
    (second : KeepsDirectories t₂ t₃) : KeepsDirectories t₁ t₃ :=
  ⟨second.current.trans first.current, fun p dir => second.directory p (first.directory p dir)⟩

theorem KeepsDirectories.of_get? (current : t'.current = t.current)
    (same : ∀ q, t.isDirectoryAt q → t'.get? q = t.get? q) : KeepsDirectories t t' := by
  refine ⟨current, fun q dir => ?_⟩
  rw [isDirectoryAt_iff, same q dir]
  exact isDirectoryAt_iff.1 dir

/-- One can only go on from a directory. -/
theorem isDirectoryAt_of_follow (followed : t.follow here name = .ok p) : t.isDirectoryAt here := by
  unfold follow at followed
  split at followed
  · cases followed
  · next dir => simpa using dir

theorem follow_keeps (keeps : KeepsDirectories t t') (followed : t.follow here name = .ok p)
    (dir : t.isDirectoryAt p) : t'.follow here name = .ok p := by
  have start := keeps.directory here (isDirectoryAt_of_follow followed)
  have goal := isDirectoryAt_iff.1 (keeps.directory p dir)
  rw [follow, isDirectoryAt_of_follow followed] at followed
  rw [follow, start]
  split_ifs at followed ⊢ <;> simp_all

/-- A path that leads to a directory leads there through directories. -/
theorem isDirectoryAt_of_foldlM {names : List String}
    (followed : names.foldlM t.follow here = .ok p) (dir : t.isDirectoryAt p) :
    t.isDirectoryAt here := by
  cases names with
  | nil =>
    cases followed
    exact dir
  | cons name names =>
    obtain ⟨q, first, -⟩ := exists_of_bind followed
    exact isDirectoryAt_of_follow first

theorem foldlM_keeps {names : List String} (keeps : KeepsDirectories t t')
    (followed : names.foldlM t.follow here = .ok p) (dir : t.isDirectoryAt p) :
    names.foldlM t'.follow here = .ok p := by
  induction names generalizing here with
  | nil => exact followed
  | cons name names ih =>
    obtain ⟨q, first, later⟩ := exists_of_bind followed
    -- The first name leads to a directory, since the others go on from there.
    rw [List.foldlM_cons, follow_keeps keeps first (isDirectoryAt_of_foldlM later dir)]
    exact ih later

theorem origin_keeps (keeps : KeepsDirectories t t') (path : String) :
    t'.origin path = t.origin path := by
  rw [origin, origin, keeps.current]

theorem checkPath_of_locate (found : t.locate path = .ok p) : checkPath path = .ok () := by
  obtain ⟨⟨⟩, check, -⟩ := exists_of_bind found
  exact check

theorem locate_eq (check : checkPath path = .ok ()) :
    t.locate path = (Path.segments path).foldlM t.follow (t.origin path) := by
  rw [locate, check]
  rfl

theorem locate_keeps (keeps : KeepsDirectories t t') (found : t.locate path = .ok p)
    (dir : t.isDirectoryAt p) : t'.locate path = .ok p := by
  have check := checkPath_of_locate found
  rw [locate_eq check] at found ⊢
  rw [origin_keeps keeps]
  exact foldlM_keeps keeps found dir

/-! ## Where a new entry goes -/

theorem target_eq (check : checkPath path = .ok ()) :
    t.target path = (match (Path.segments path).reverse.dropWhile (·.isEmpty) with
      | [] => .ok ([], none, true)
      | name :: rest => do
        let here ← rest.reverse.foldlM t.follow (t.origin path)
        if !t.isDirectoryAt here then .error .notDirectory
        else if 255 < name.utf8ByteSize then .error .nameTooLong
        else .ok (here, some name, (Path.segments path).reverse.head? = some "")) := by
  rw [target, check]
  rfl

theorem target_keeps {slash : Bool} (keeps : KeepsDirectories t t')
    (aim : t.target path = .ok (here, some name, slash)) :
    t'.target path = .ok (here, some name, slash) := by
  obtain ⟨⟨⟩, check, -⟩ := exists_of_bind aim
  rw [target_eq check] at aim ⊢
  split at aim
  · cases aim
  · next n rest parts =>
    obtain ⟨q, led, aim⟩ := exists_of_bind aim
    split_ifs at aim with file long
    have dir : t.isDirectoryAt q := by simpa using file
    have kept := keeps.directory q dir
    rw [origin_keeps keeps, foldlM_keeps keeps led dir]
    simpa [bind, Except.bind, kept, long] using aim

/-- Without a slash at its end, a path leads to the new entry by its last name. -/
theorem segments_of_target (aim : t.target path = .ok (here, some name, false)) :
    checkPath path = .ok () ∧ ∃ names, Path.segments path = names ++ [name] ∧
      names.foldlM t.follow (t.origin path) = .ok here ∧ t.isDirectoryAt here ∧
      name.utf8ByteSize ≤ 255 ∧ name ≠ "" := by
  obtain ⟨⟨⟩, check, -⟩ := exists_of_bind aim
  refine ⟨check, ?_⟩
  rw [target_eq check] at aim
  split at aim
  · cases aim
  · next n rest parts =>
    obtain ⟨q, led, aim⟩ := exists_of_bind aim
    split_ifs at aim with file long
    simp only [Except.ok.injEq, Prod.mk.injEq, Option.some.injEq, decide_eq_false_iff_not] at aim
    obtain ⟨rfl, rfl, plain⟩ := aim
    have dir : t.isDirectoryAt q := by simpa using file
    cases reversed : (Path.segments path).reverse with
    | nil => simp [reversed] at parts
    | cons first others =>
      have named : first ≠ "" := by simpa [reversed] using plain
      have same : first :: others = n :: rest := by simpa [reversed, named] using parts
      cases same
      refine ⟨rest.reverse, ?_, led, dir, by omega, named⟩
      rw [← List.reverse_cons, ← reversed, List.reverse_reverse]

/-- Once something lies there, the path leads to it. -/
theorem locate_of_target (aim : t.target path = .ok (here, some name, false))
    (plain : isDots name = false) (there : (t.get? (here ++ [name])).isSome) :
    t.locate path = .ok (here ++ [name]) := by
  obtain ⟨check, names, parts, led, dir, short, named⟩ := segments_of_target aim
  have next : t.follow here name = .ok (here ++ [name]) := by
    have other : ¬ (name = "" ∨ name = ".") ∧ name ≠ ".." := by
      simp only [isDots, Bool.or_eq_false_iff, decide_eq_false_iff_not] at plain
      exact ⟨fun same => same.elim named plain.1, plain.2⟩
    have fits : ¬ 255 < name.utf8ByteSize := by omega
    rw [follow, dir, if_neg other.1, if_neg other.2, if_neg fits, there]
    rfl
  rw [locate_eq check, parts, List.foldlM_append, led]
  simp [next, bind, Except.bind, pure, Except.pure]

/-! ## Directories that exist -/

/-- The parts of a path up to the last that is not empty, and those after it. -/
theorem segments_of_dropWhile {rest : List String}
    (parts : (Path.segments path).reverse.dropWhile (·.isEmpty) = name :: rest) :
    name ≠ "" ∧ ∃ blanks, (∀ s ∈ blanks, s = "") ∧
      Path.segments path = rest.reverse ++ name :: blanks := by
  have named : name.isEmpty = false := by
    simpa [parts] using List.head?_dropWhile_not (·.isEmpty) (Path.segments path).reverse
  have split := List.takeWhile_append_dropWhile (p := (·.isEmpty))
    (l := (Path.segments path).reverse)
  have empty := List.all_eq_true.1
    (List.all_takeWhile (p := (·.isEmpty)) (l := (Path.segments path).reverse))
  generalize (Path.segments path).reverse.takeWhile (·.isEmpty) = blanks at split empty
  rw [parts, ← List.reverse_inj, List.reverse_reverse] at split
  refine ⟨by simpa using named, blanks.reverse, fun s mem => ?_, ?_⟩
  · simpa using empty s (List.mem_reverse.1 mem)
  · rw [← split, List.reverse_append, List.reverse_cons, List.append_assoc]
    rfl

/-- A name that can be followed is short and taken. -/
theorem taken_of_follow (followed : t.follow here name = .ok p) (named : name ≠ "") :
    name.utf8ByteSize ≤ 255 ∧ (isDots name || (t.get? (here ++ [name])).isSome) := by
  rw [follow, isDirectoryAt_of_follow followed] at followed
  by_cases dots : isDots name
  · refine ⟨?_, by rw [dots, Bool.true_or]⟩
    simp only [isDots, Bool.or_eq_true, decide_eq_true_eq] at dots
    rcases dots with rfl | rfl <;> decide
  · simp only [isDots, Bool.or_eq_true, decide_eq_true_eq, not_or] at dots
    simp only [Bool.not_true, Bool.false_eq_true, if_false, named, dots, or_self] at followed
    split_ifs at followed with long there
    exact ⟨by omega, by rw [there, Bool.or_true]⟩

theorem makeDirectory_of_locate (found : t.locate path = .ok p) :
    t.makeDirectory path = .error .alreadyExists := by
  have check := checkPath_of_locate found
  rw [makeDirectory, target_eq check]
  split
  · rfl
  · next n rest parts =>
    obtain ⟨named, blanks, -, whole⟩ := segments_of_dropWhile parts
    rw [locate_eq check, whole, List.foldlM_append] at found
    obtain ⟨q, led, found⟩ := exists_of_bind found
    obtain ⟨q', next, -⟩ := exists_of_bind found
    obtain ⟨short, taken⟩ := taken_of_follow next named
    have fits : ¬ 255 < n.utf8ByteSize := by omega
    rw [led]
    simp [bind, Except.bind, isDirectoryAt_of_follow next, fits, taken]

theorem makeDirectories_of_locate (found : t.locate path = .ok p) (dir : t.isDirectoryAt p) :
    t.makeDirectories path = .ok t := by
  have exists_ : t.isDirectory path := by simp [isDirectory, found, dir]
  have made := makeDirectory_of_locate found
  rw [makeDirectories]
  cases path.length with
  | zero => simp [makeDirectoriesFrom, ensureDirectory, made, exists_]
  | succ fuel => simp [makeDirectoriesFrom, made, exists_]

/-! ## Fresh names -/

theorem temporaryName_injective {i j : Nat} (same : s!".tmp{i}" = s!".tmp{j}") : i = j := by
  have digits : Nat.toDigits 10 i = Nat.toDigits 10 j := by
    have names := congrArg String.toList same
    simpa [Nat.toString_eq_repr, Nat.toList_repr] using names
  simpa using congrArg (fun ds => Nat.ofDigitChars 10 ds 0) digits

/-- The name that is given is either free or the last of those tried, all before it being taken. -/
theorem freshName_spec (t : FileTree) (here : Place) (fuel n : Nat) :
    ∃ m, t.freshName here fuel n = s!".tmp{m}" ∧ n ≤ m ∧ m ≤ n + fuel ∧
      (∀ k, n ≤ k → k < m → (t.get? (here ++ [s!".tmp{k}"])).isSome) ∧
      (m < n + fuel → t.get? (here ++ [s!".tmp{m}"]) = none) := by
  induction fuel generalizing n with
  | zero => exact ⟨n, rfl, by omega, by omega, fun k low high => by omega, fun low => by omega⟩
  | succ fuel ih =>
    rw [freshName]
    split
    · next taken =>
      obtain ⟨m, name, low, high, before, free⟩ := ih (n + 1)
      refine ⟨m, name, by omega, by omega, fun k first last => ?_, fun last => free (by omega)⟩
      by_cases same : k = n
      · exact same ▸ taken
      · exact before k (by omega) last
    · next free =>
      exact ⟨n, rfl, by omega, by omega, fun k low high => by omega, fun _ => by simpa using free⟩

theorem mem_places_of_get? {p : Place} (named : p ≠ []) (there : (t.get? p).isSome) :
    p ∈ t.entries.map (·.1) := by
  rw [get?_of_ne_root t named, Option.isSome_map, List.find?_isSome] at there
  obtain ⟨x, mem, same⟩ := there
  exact List.mem_map.2 ⟨x, mem, by simpa using same⟩

/-- Where a fresh file of a directory lies. -/
def freshPlace (t : FileTree) (here : Place) : Place :=
  here ++ [t.freshName here t.entries.length 0]

theorem freshPlace_ne_root (t : FileTree) (here : Place) : t.freshPlace here ≠ [] := by
  simp [freshPlace]

/-- There are more names to try than entries. -/
theorem get?_freshPlace (t : FileTree) (here : Place) : t.get? (t.freshPlace here) = none := by
  obtain ⟨m, name, -, high, before, free⟩ := t.freshName_spec here t.entries.length 0
  rw [freshPlace, name]
  by_cases last : m < 0 + t.entries.length
  · exact free last
  · by_contra taken
    have places : ((List.range (m + 1)).map fun k => here ++ [s!".tmp{k}"]) ⊆
        t.entries.map (·.1) := by
      intro p mem
      obtain ⟨k, low, rfl⟩ := List.mem_map.1 mem
      apply mem_places_of_get? (by simp)
      by_cases same : k = m
      · exact same ▸ Option.isSome_iff_ne_none.2 taken
      · exact before k (by omega) (by have := List.mem_range.1 low; omega)
    have distinct : ((List.range (m + 1)).map fun k => here ++ [s!".tmp{k}"]).Nodup := by
      refine List.nodup_range.map fun i j same => temporaryName_injective ?_
      simpa using same
    have few := (distinct.subperm places).length_le
    rw [List.length_map, List.length_map, List.length_range] at few
    omega

theorem isDirectory_iff :
    t.isDirectory path ↔ ∃ p, t.locate path = .ok p ∧ t.isDirectoryAt p := by
  unfold isDirectory
  cases t.locate path <;> simp

/-! ## Operations -/

theorem makeTemporary_eq_ok {directory : String} :
    t.makeTemporary directory = .ok (t', p) ↔
      ∃ here, t.locate directory = .ok here ∧ t.isDirectoryAt here ∧
        p = t.freshPlace here ∧ t' = t.put p (.file .empty privateMode) := by
  constructor
  · intro made
    obtain ⟨here, found, made⟩ := exists_of_bind made
    split_ifs at made with file
    cases made
    exact ⟨here, found, by simpa using file, rfl, rfl⟩
  · rintro ⟨here, found, dir, rfl, rfl⟩
    simp [makeTemporary, freshPlace, found, dir, bind, Except.bind]

theorem rename_eq_ok :
    t.rename p path = .ok t' ↔
      ∃ here name e, t.target path = .ok (here, some name, false) ∧ isDots name = false ∧
        ¬ t.isDirectoryAt (here ++ [name]) ∧ t.get? p = some e ∧
        t' = (t.erase p).put (here ++ [name]) e := by
  constructor
  · intro renamed
    obtain ⟨⟨here, last, slash⟩, aim, renamed⟩ := exists_of_bind renamed
    cases last with
    | none => cases renamed
    | some name =>
      simp only at renamed
      split_ifs at renamed with occupied trailing
      simp only [Bool.or_eq_true, not_or, Bool.not_eq_true] at occupied
      cases there : t.get? p with
      | none =>
        rw [there] at renamed
        cases renamed
      | some e =>
        rw [there] at renamed
        cases renamed
        cases slash with
        | true => exact absurd rfl trailing
        | false => exact ⟨here, name, e, aim, occupied.1, by simp [occupied.2], rfl, rfl⟩
  · rintro ⟨here, name, e, aim, plain, free, there, rfl⟩
    simp [rename, aim, plain, free, there, bind, Except.bind]

/-! ## Replacing a file by a fresh one -/

/-- A tree with a fresh file in a directory. -/
def withFresh (t : FileTree) (here : Place) (content : ByteArray) : FileTree :=
  (t.put (t.freshPlace here) (.file .empty privateMode)).fill (t.freshPlace here) content

theorem put_put (t : FileTree) (p : Place) (a b : Entry) : (t.put p a).put p b = t.put p b := by
  simp [put, List.filter_append]

theorem withFresh_eq (t : FileTree) (here : Place) (content : ByteArray) :
    t.withFresh here content = t.put (t.freshPlace here) (.file content privateMode) := by
  have there : (t.put (t.freshPlace here) (.file .empty privateMode)).get? (t.freshPlace here) =
      some (.file .empty privateMode) := by
    rw [get?_put (t.freshPlace_ne_root here), if_pos rfl]
  rw [withFresh, fill, there]
  exact put_put t _ _ _

theorem get?_withFresh (t : FileTree) (here : Place) (content : ByteArray) (q : Place) :
    (t.withFresh here content).get? q =
      if q = t.freshPlace here then some (.file content privateMode) else t.get? q := by
  rw [withFresh_eq, get?_put (t.freshPlace_ne_root here)]

theorem keeps_withFresh (t : FileTree) (here : Place) (content : ByteArray) :
    KeepsDirectories t (t.withFresh here content) := by
  refine .of_get? (by rw [withFresh_eq]; rfl) fun q dir => ?_
  have other : q ≠ t.freshPlace here := by
    rintro rfl
    simp [isDirectoryAt_iff, get?_freshPlace] at dir
  rw [get?_withFresh, if_neg other]

/-- A fresh file is no directory, so a tree has none that it had not before. -/
theorem keeps_of_withFresh (t : FileTree) (here : Place) (content : ByteArray) :
    KeepsDirectories (t.withFresh here content) t := by
  refine .of_get? (by rw [withFresh_eq]; rfl) fun q dir => ?_
  have other : q ≠ t.freshPlace here := by
    rintro rfl
    simp [isDirectoryAt_iff, get?_withFresh] at dir
  rw [get?_withFresh, if_neg other]

theorem fill_withFresh (t : FileTree) (here : Place) (content other : ByteArray) :
    (t.withFresh here content).fill (t.freshPlace here) other = t.withFresh here other := by
  have there : (t.withFresh here content).get? (t.freshPlace here) =
      some (.file content privateMode) := by
    rw [get?_withFresh, if_pos rfl]
  rw [fill, there, withFresh_eq, withFresh_eq]
  exact put_put t _ _ _

theorem erase_put (named : p ≠ []) (free : t.get? p = none) (e : Entry) :
    (t.put p e).erase p = t := by
  have other : ∀ x ∈ t.entries, x.1 ≠ p := by
    rw [get?_of_ne_root t named] at free
    simpa using free
  have kept : (t.entries.filter fun x => x.1 ≠ p) = t.entries :=
    List.filter_eq_self.2 fun x mem => by simpa using other x mem
  have whole : (t.put p e).erase p = { t with entries := t.entries.filter fun x => x.1 ≠ p } := by
    simp [put, erase, List.filter_append]
  rw [whole, kept]

/-- A fresh file that is taken away again was never there: the tree is the same. -/
theorem erase_withFresh (t : FileTree) (here : Place) (content : ByteArray) :
    (t.withFresh here content).erase (t.freshPlace here) = t := by
  rw [withFresh_eq]
  exact erase_put (t.freshPlace_ne_root here) (t.get?_freshPlace here) _

/-- What lies where after an entry was moved to another place. -/
theorem get?_move {r : Place} (named : p ≠ []) (named' : q ≠ []) (e : Entry) :
    ((t.erase p).put q e).get? r = if r = q then some e else if r = p then none else t.get? r := by
  rw [get?_put named', get?_erase named]

theorem keeps_move (named : p ≠ []) (named' : q ≠ []) (plain : ¬ t.isDirectoryAt p)
    (vacant : ¬ t.isDirectoryAt q) (e : Entry) :
    KeepsDirectories t ((t.erase p).put q e) := by
  refine .of_get? rfl fun r dir => ?_
  have other : r ≠ p := fun same => plain (same ▸ dir)
  have other' : r ≠ q := fun same => vacant (same ▸ dir)
  rw [get?_move named named', if_neg other', if_neg other]

/-- A fresh file that was moved lies where its path aims, and no directory is lost by it. -/
theorem placed_of_rename {content : ByteArray}
    (moved : (t.withFresh here content).rename (t.freshPlace here) path = .ok t') :
    KeepsDirectories t t' ∧ ∃ home name, t'.target path = .ok (home, some name, false) ∧
      isDots name = false ∧ t'.get? (home ++ [name]) = some (.file content privateMode) := by
  obtain ⟨home, name, e, aim, plain, vacant, there, rfl⟩ := rename_eq_ok.1 moved
  rw [get?_withFresh, if_pos rfl] at there
  cases there
  have named := t.freshPlace_ne_root here
  have named' : home ++ [name] ≠ [] := by simp
  have file : ¬ (t.withFresh here content).isDirectoryAt (t.freshPlace here) := by
    simp [isDirectoryAt_iff, get?_withFresh]
  have keeps := keeps_move named named' file vacant (.file content privateMode)
  refine ⟨(t.keeps_withFresh here content).trans keeps, home, name, target_keeps keeps aim, plain,
    ?_⟩
  rw [get?_move named named', if_pos rfl]

/-- Once a fresh file was moved to where a path leads, the path leads to its content. -/
theorem read_of_rename {content : ByteArray}
    (moved : (t.withFresh here content).rename (t.freshPlace here) path = .ok t') :
    t'.read path = .ok content := by
  obtain ⟨-, home, name, aim, plain, placed⟩ := placed_of_rename moved
  have found := locate_of_target aim plain (by rw [placed]; rfl)
  rw [read, found]
  simp only [bind, Except.bind, placed]

/-- A text is read back from its own bytes. -/
theorem readText_of_read {text : String} (read : t.read path = .ok text.toUTF8) :
    t.readText path = .ok text := by
  have own : String.fromUTF8? text.toUTF8 = some text := dif_pos text.isValidUTF8
  rw [readText, read]
  simp only [bind, Except.bind, own]

end FileTree

end Testbed
