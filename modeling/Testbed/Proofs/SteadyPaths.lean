import Testbed.Proofs.NewDirectories

/-!
# What a path shows

While something is being replaced, directories are made and a fresh file comes and goes. Neither
shows to one who looks at the path of the file that is replaced.

**Fresh files** (`look_withFresh`). A fresh file begins with a dot, and the files of a store do not.

**New directories** (`look_lengthened`). The path of a file can lead somewhere new only if its
directory is new, and then the directory is empty. That is not so for every path: along
`gone/../demo` nothing is found until `gone` is made, and then what lies in `demo` is. A path is
steady if each of its ways up leads away from something that is there, and behind a way up all that
is new lies below all that is old (`Steady.down`, `Steady.foldlM_back`).
-/

namespace Testbed.FileTree

variable {t t' : FileTree} {p q here : Place} {name path directory : String} {names : List String}

/-- What a path leads to, if it leads anywhere. -/
def look (t : FileTree) (path : String) : Option (Option Entry) :=
  (t.locate path).toOption.map t.get?

theorem look_eq (forth : ∀ p, t.locate path = .ok p → t'.locate path = .ok p)
    (back : ∀ p, t'.locate path = .ok p → t.locate path = .ok p)
    (kept : ∀ p, t.locate path = .ok p → t'.get? p = t.get? p) : t'.look path = t.look path := by
  unfold look
  cases found : t.locate path with
  | ok p => simp [forth p found, kept p found, Except.toOption]
  | error e =>
    cases found' : t'.locate path with
    | error e' => rfl
    | ok p => cases found.symm.trans (back p found')

/-! ## Steady paths -/

/-- Every way up along a path leads away from something that is there. -/
def Steady (t : FileTree) (path : String) : Prop :=
  ∀ before after, Path.route path = before ++ ".." :: after →
    ∃ p, before.foldlM t.follow (t.origin path) = .ok p

theorem steady_of_notMem (down : ".." ∉ Path.route path) : t.Steady path :=
  fun before after names => absurd (by simp [names]) down

theorem exists_last_of_mem {s : String} (mem : s ∈ names) :
    ∃ before after, names = before ++ s :: after ∧ s ∉ after := by
  obtain ⟨after, before, whole, later⟩ := List.eq_append_cons_of_mem (List.mem_reverse.2 mem)
  refine ⟨before.reverse, after.reverse, ?_, by simpa using later⟩
  rw [← List.reverse_reverse names, whole]
  simp

/-- Behind something new no way leads up. -/
theorem Steady.down (steady : t.Steady path) (sound : t.Sound) (grown : Grown t t')
    {front back : List String} (names : Path.route path = front ++ back)
    (walked : front.foldlM t'.follow (t.origin path) = .ok q) (new : t.get? q = none) :
    ".." ∉ back := by
  intro mem
  obtain ⟨between, after, rfl⟩ := List.append_of_mem mem
  obtain ⟨p, before⟩ := steady (front ++ between) after (by rw [names, List.append_assoc])
  obtain ⟨q', first, -⟩ := foldlM_of_append before
  obtain rfl : q' = q := Except.ok.inj ((grown.foldlM first).symm.trans walked)
  have there := sound.isSome_of_foldlM (sound.isSome_origin path) first
  simp [new] at there

/-- If the path leads to something that was there before, it led there before. -/
theorem Steady.foldlM_back (steady : t.Steady path) (sound : t.Sound) (grown : Grown t t')
    (there : (t.get? p).isSome)
    (walked : (Path.route path).foldlM t'.follow (t.origin path) = .ok p) :
    (Path.route path).foldlM t.follow (t.origin path) = .ok p := by
  by_cases up : ".." ∈ Path.route path
  · obtain ⟨before, after, names, down⟩ := exists_last_of_mem up
    obtain ⟨q, first⟩ := steady before after names
    rw [names] at walked ⊢
    obtain ⟨q', first', later⟩ := foldlM_of_append walked
    obtain rfl : q' = q := Except.ok.inj (first'.symm.trans (grown.foldlM first))
    obtain ⟨r, turn, later⟩ := exists_of_bind later
    obtain ⟨dir, leads⟩ := follow_eq_ok.1 turn
    have there' := sound.isSome_of_foldlM (sound.isSome_origin path) first
    have turn' : t.follow q' ".." = .ok r := by
      refine follow_eq_ok.2 ⟨grown.directory_back there' dir, ?_⟩
      cases leads with
      | idle idle => exact .idle idle
      | up => exact .up
      | down _ other => exact absurd rfl other
    refine foldlM_append_of first ?_
    rw [List.foldlM_cons, turn']
    exact grown.foldlM_back sound there down later
  · exact grown.foldlM_back sound there up walked

theorem Lengthened.mono {above : String} (longer : Lengthened t t' above)
    (names : Path.route above <+: Path.route path)
    (root : Path.isAbsolute above = Path.isAbsolute path) : Lengthened t t' path :=
  longer.trans names root (.refl t' path)

/-- Nothing new lies in the directory that a steady path leads to, if all that is new lies along the
path. -/
theorem Lengthened.isSome_below (longer : Lengthened t t' path) (sound : t.Sound)
    (steady : t.Steady path)
    (walked : (Path.route path).foldlM t'.follow (t.origin path) = .ok here)
    (there : (t'.get? (here ++ [name])).isSome) : (t.get? (here ++ [name])).isSome := by
  cases new : t.get? (here ++ [name]) with
  | some e => rfl
  | none =>
    obtain ⟨-, front, ⟨back, names⟩, first⟩ := longer.made _ new there
    have down := steady.down sound longer.toGrown names.symm first new
    rw [← names] at walked
    obtain ⟨q, first', later⟩ := foldlM_of_append walked
    obtain rfl : here ++ [name] = q := Except.ok.inj (first.symm.trans first')
    have below := (prefix_of_foldlM down later).length_le
    rw [List.length_append, List.length_singleton] at below
    omega

/-! ## Files in a directory -/

/-- A name that leads down to a file of the directory's own, not to a fresh one. -/
structure Own (name : String) : Prop where
  plain : '/' ∉ name.toList
  named : Path.isIdle name = false
  down : name ≠ ".."
  kept : name.toList.head? ≠ some '.'

theorem follow_own (own : Own name) : t.follow here name = .ok p ↔
    t.isDirectoryAt here ∧ name.utf8ByteSize ≤ 255 ∧ (t.get? (here ++ [name])).isSome ∧
      p = here ++ [name] := by
  rw [follow_eq_ok]
  constructor
  · rintro ⟨dir, leads⟩
    cases leads with
    | idle idle => cases own.named.symm.trans idle
    | up => exact absurd rfl own.down
    | down _ _ short there => exact ⟨dir, short, there, rfl⟩
  · rintro ⟨dir, short, there, rfl⟩
    exact ⟨dir, .down own.named own.down short there⟩

/-- Whether a path leads to a file of a directory depends on the way to the directory. -/
theorem locate_join (directory : String) (own : Own name) : ∃ front : List String,
    (front.filter fun s => !Path.isIdle s) = Path.route directory ∧
    ∀ (t : FileTree) (p : Place), t.locate (Path.join directory name) = .ok p ↔
      checkPath (Path.join directory name) = .ok () ∧ ∃ here,
        front.foldlM t.follow (t.origin directory) = .ok here ∧ t.follow here name = .ok p := by
  obtain ⟨front, parts, names, root⟩ := Path.segments_join directory own.plain
  refine ⟨front, names, fun t p => ?_⟩
  have start : t.origin (Path.join directory name) = t.origin directory := by
    rw [origin, origin, root]
  constructor
  · intro found
    have check := checkPath_of_locate found
    rw [locate_eq check, start, parts] at found
    obtain ⟨here, walked, last⟩ := foldlM_of_append found
    obtain ⟨q, next, ⟨⟩⟩ := exists_of_bind last
    exact ⟨check, here, walked, next⟩
  · rintro ⟨check, here, walked, next⟩
    rw [locate_eq check, start, parts]
    exact foldlM_append_of walked (by simp [next])

/-- **New directories along a steady path show nothing new in its directory.** -/
theorem look_lengthened (sound : t.Sound) (steady : t.Steady directory)
    (longer : Lengthened t t' directory) (own : Own name) :
    t'.look (Path.join directory name) = t.look (Path.join directory name) := by
  obtain ⟨front, names, locate_iff⟩ := locate_join directory own
  have grown := longer.toGrown
  have start := grown.origin directory
  refine look_eq (fun p found => ?_) (fun p found => ?_) fun p found => ?_
  · obtain ⟨check, here, walked, next⟩ := (locate_iff t p).1 found
    refine (locate_iff t' p).2 ⟨check, here, ?_, grown.follow next⟩
    rw [start]
    exact grown.foldlM walked
  · obtain ⟨check, here, walked, next⟩ := (locate_iff t' p).1 found
    obtain ⟨dir, short, there, rfl⟩ := (follow_own own).1 next
    rw [start] at walked
    have along : (Path.route directory).foldlM t'.follow (t.origin directory) = .ok here :=
      names ▸ foldlM_filter walked
    have before := longer.isSome_below sound steady along there
    have inside : t.isDirectoryAt here := by simpa using sound.parent _ before
    have back := steady.foldlM_back sound grown (isSome_of_isDirectoryAt inside) along
    rw [← names] at back
    exact (locate_iff t _).2 ⟨check, here, foldlM_of_filter inside back,
      (follow_own own).2 ⟨inside, short, before, rfl⟩⟩
  · obtain ⟨-, here, -, next⟩ := (locate_iff t p).1 found
    obtain ⟨-, -, there, rfl⟩ := (follow_own own).1 next
    exact grown.kept _ there

/-- A fresh file has another name. -/
theorem freshPlace_ne_own (own : Own name) (home here : Place) :
    here ++ [name] ≠ t.freshPlace home := by
  intro same
  obtain ⟨m, fresh, -⟩ := t.freshName_spec home t.entries.length 0
  rw [freshPlace, fresh] at same
  obtain rfl : name = s!".tmp{m}" := List.singleton_inj.1 (List.append_inj' same rfl).2
  exact own.kept (by rw [String.toList_append]; rfl)

/-- **A fresh file shows in no other place.** -/
theorem look_withFresh (t : FileTree) (home : Place) (content : ByteArray) (own : Own name) :
    (t.withFresh home content).look (Path.join directory name) =
      t.look (Path.join directory name) := by
  obtain ⟨front, names, locate_iff⟩ := locate_join directory own
  have grown : Grown t (t.withFresh home content) := by
    rw [withFresh_eq]
    exact grown_put (t.freshPlace_ne_root home) (t.get?_freshPlace home) _
  -- No directory is lost when the fresh file is taken away again.
  have keeps : KeepsDirectories (t.withFresh home content) t := by
    refine ⟨grown.current.symm, fun p dir => ?_⟩
    rw [isDirectoryAt_iff, get?_withFresh] at dir
    split at dir
    · cases dir
    · exact isDirectoryAt_iff.2 dir
  have there (here : Place) :
      (t.withFresh home content).get? (here ++ [name]) = t.get? (here ++ [name]) := by
    rw [get?_withFresh, if_neg (freshPlace_ne_own own home here)]
  have start := grown.origin directory
  refine look_eq (fun p found => ?_) (fun p found => ?_) fun p found => ?_
  · obtain ⟨check, here, walked, next⟩ := (locate_iff t p).1 found
    exact (locate_iff _ p).2 ⟨check, here, start ▸ grown.foldlM walked, grown.follow next⟩
  · obtain ⟨check, here, walked, next⟩ := (locate_iff _ p).1 found
    obtain ⟨dir, short, taken, rfl⟩ := (follow_own own).1 next
    rw [start] at walked
    exact (locate_iff t _).2 ⟨check, here, foldlM_keeps keeps walked dir,
      (follow_own own).2 ⟨keeps.directory here dir, short, there here ▸ taken, rfl⟩⟩
  · obtain ⟨-, here, -, next⟩ := (locate_iff t p).1 found
    obtain ⟨-, -, -, rfl⟩ := (follow_own own).1 next
    exact there here

end Testbed.FileTree
