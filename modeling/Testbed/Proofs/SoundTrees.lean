import Mathlib.Data.List.Induction
import Testbed.Proofs.Routes

/-!
# Trees in which everything lies in a directory

A tree of files may hold places that no path leads to, such as a file inside another file. None of
the operations makes one: an entry is new in a directory or takes the place of a file
(`isDirectoryAt_of_target`), so a tree that was built up from given files is sound
(`sound_ofFiles`).

In a sound tree the way from one place to the next is known from the entries alone
(`follow_eq_ok`): from what is there one gets only to what is there (`Sound.isSome_of_foldlM`), and
whatever lies above it is there as well (`Sound.isSome_of_prefix`).

Directories are made from the inside out: the path itself is tried, then the one that it lies in. A
property of two trees that holds of one new directory and can be put together holds of all of them
(`makeDirectories_induct`).
-/

namespace Testbed.FileTree

variable {t t' : FileTree} {p q here : Place} {e : Entry} {name path : String} {slash : Bool}

/-! ## Sound trees -/

/-- Everything lies in a directory, and what is current is a directory. -/
structure Sound (t : FileTree) : Prop where
  current : t.isDirectoryAt t.current
  parent : ∀ p, (t.get? p).isSome → t.isDirectoryAt p.dropLast

theorem isSome_of_isDirectoryAt (dir : t.isDirectoryAt p) : (t.get? p).isSome :=
  Option.isSome_of_eq_some (isDirectoryAt_iff.1 dir)

theorem keeps_put (named : p ≠ []) (spares : ¬ t.isDirectoryAt p ∨ e = .directory) :
    KeepsDirectories t (t.put p e) := by
  refine ⟨rfl, fun q dir => ?_⟩
  rw [isDirectoryAt_iff, get?_put named]
  split
  · next same =>
    subst same
    rw [spares.resolve_left (not_not.2 dir)]
  · exact isDirectoryAt_iff.1 dir

theorem keeps_erase (named : p ≠ []) (file : ¬ t.isDirectoryAt p) :
    KeepsDirectories t (t.erase p) := by
  refine .of_get? rfl fun q dir => ?_
  rw [get?_erase named, if_neg]
  rintro rfl
  exact file dir

theorem Sound.put (sound : t.Sound) (named : p ≠ []) (inside : t.isDirectoryAt p.dropLast)
    (spares : ¬ t.isDirectoryAt p ∨ e = .directory) : (t.put p e).Sound := by
  have keeps := keeps_put named spares
  refine ⟨keeps.directory _ sound.current, fun q there => keeps.directory _ ?_⟩
  rw [get?_put named] at there
  split at there
  · next same => exact same ▸ inside
  · exact sound.parent q there

theorem Sound.erase (sound : t.Sound) (named : p ≠ []) (file : ¬ t.isDirectoryAt p) :
    (t.erase p).Sound := by
  have keeps := keeps_erase named file
  refine ⟨keeps.directory _ sound.current, fun q there => keeps.directory _ (sound.parent q ?_)⟩
  rw [get?_erase named] at there
  split at there
  · cases there
  · exact there

theorem sound_empty : empty.Sound := by
  refine ⟨by decide, fun p there => ?_⟩
  by_cases root : p = []
  · subst root
    rfl
  · have mem := mem_places_of_get? root there
    simp only [empty, List.map_cons, List.map_nil, List.mem_cons, List.not_mem_nil, or_false] at mem
    rcases mem with rfl | rfl | rfl | rfl <;> decide

/-! ## Operations on sound trees -/

/-- A new entry goes into a directory. -/
theorem isDirectoryAt_of_target (aim : t.target path = .ok (here, some name, slash)) :
    t.isDirectoryAt here := by
  obtain ⟨⟨⟩, check, -⟩ := exists_of_bind aim
  rw [target_eq check] at aim
  split at aim
  · cases aim
  · obtain ⟨q, -, aim⟩ := exists_of_bind aim
    split_ifs at aim with file long
    cases aim
    simpa using file

theorem makeDirectory_eq_ok (made : t.makeDirectory path = .ok t') :
    ∃ here name slash, t.target path = .ok (here, some name, slash) ∧ isDots name = false ∧
      t.get? (here ++ [name]) = none ∧ t' = t.put (here ++ [name]) .directory := by
  obtain ⟨⟨here, last, slash⟩, aim, made⟩ := exists_of_bind made
  cases last with
  | none => cases made
  | some name =>
    dsimp only at made
    split_ifs at made with taken
    cases made
    simp only [Bool.or_eq_true, not_or, Bool.not_eq_true, Option.isSome_eq_false_iff,
      Option.isNone_iff_eq_none] at taken
    exact ⟨here, name, slash, aim, taken.1, taken.2, rfl⟩

theorem Sound.makeDirectory (sound : t.Sound) (made : t.makeDirectory path = .ok t') :
    t'.Sound := by
  obtain ⟨here, name, slash, aim, -, -, rfl⟩ := makeDirectory_eq_ok made
  exact sound.put (by simp) (by simpa using isDirectoryAt_of_target aim) (.inr rfl)

theorem ensureDirectory_eq_ok (made : t.ensureDirectory path = .ok t') :
    t.makeDirectory path = .ok t' ∨ t' = t ∧ t.isDirectory path = true := by
  unfold ensureDirectory at made
  split at made
  · next made' => exact .inl (made'.trans made)
  · split at made
    · next dir =>
      cases made
      exact .inr ⟨rfl, dir⟩
    · cases made

/-- What making a directory with those it lies in comes down to: nothing, making it, or making those
first. -/
theorem makeDirectoriesFrom_succ {fuel : Nat}
    (made : t.makeDirectoriesFrom (fuel + 1) path = .ok t') :
    t' = t ∨ t.makeDirectory path = .ok t' ∨
      ∃ above t₁, Path.parent? path = some above ∧ t.makeDirectoriesFrom fuel above = .ok t₁ ∧
        t₁.ensureDirectory path = .ok t' := by
  unfold makeDirectoriesFrom at made
  split at made
  · exact .inl (Except.ok.inj made).symm
  · split at made
    · next made' => exact .inr (.inl (made'.trans made))
    · split at made
      · next above inside =>
        obtain ⟨t₁, first, last⟩ := exists_of_bind made
        exact .inr (.inr ⟨above, t₁, inside, first, last⟩)
      · cases made
    · split at made
      · exact .inl (Except.ok.inj made).symm
      · cases made

/-- What every directory that is made keeps is kept when several are made. -/
theorem makeDirectories_induct {P : FileTree → FileTree → String → Prop}
    (refl : ∀ t path, P t t path)
    (make : ∀ {t t' path}, t.makeDirectory path = .ok t' → P t t' path)
    (trans : ∀ {t t₁ t' path above}, Path.parent? path = some above → P t t₁ above →
      P t₁ t' path → P t t' path)
    (made : t.makeDirectories path = .ok t') : P t t' path := by
  have ensured {t t' : FileTree} {path : String} (made : t.ensureDirectory path = .ok t') :
      P t t' path := by
    obtain made | ⟨rfl, -⟩ := ensureDirectory_eq_ok made
    · exact make made
    · exact refl t' path
  unfold makeDirectories at made
  generalize path.length = fuel at made
  induction fuel generalizing path t' with
  | zero => exact ensured made
  | succ fuel ih =>
    obtain rfl | made | ⟨above, t₁, inside, first, last⟩ := makeDirectoriesFrom_succ made
    · exact refl t' path
    · exact make made
    · exact trans inside (ih first) (ensured last)

theorem Sound.makeDirectories (sound : t.Sound) (made : t.makeDirectories path = .ok t') :
    t'.Sound :=
  makeDirectories_induct (P := fun t t' _ => t.Sound → t'.Sound) (fun _ _ => id)
    (fun made sound => sound.makeDirectory made) (fun _ first last => last ∘ first) made sound

theorem Sound.openFile {mode : Nat} (sound : t.Sound)
    (opened : t.openFile path mode = .ok (t', p)) : t'.Sound := by
  obtain ⟨⟨here, last, slash⟩, aim, opened⟩ := exists_of_bind opened
  cases last with
  | none => cases opened
  | some name =>
    dsimp only at opened
    split_ifs at opened with unfit
    split at opened
    · cases opened
    · cases opened
      exact sound
    · next free =>
      cases opened
      have file : ¬ t.isDirectoryAt (here ++ [name]) := by simp [isDirectoryAt_iff, free]
      exact sound.put (by simp) (by simpa using isDirectoryAt_of_target aim) (.inl file)

theorem Sound.fill (sound : t.Sound) (p : Place) (content : ByteArray) :
    (t.fill p content).Sound := by
  unfold FileTree.fill
  split
  · next mode file =>
    have named : p ≠ [] := by
      rintro rfl
      cases (get?_root t).symm.trans file
    exact sound.put named (sound.parent p (Option.isSome_of_eq_some file))
      (.inl (by simp [isDirectoryAt_iff, file]))
  · exact sound

theorem Sound.write {content : ByteArray} {mode : Nat} (sound : t.Sound)
    (written : t.write path content mode = .ok t') : t'.Sound := by
  obtain ⟨⟨t₁, p⟩, opened, ⟨⟩⟩ := exists_of_bind written
  exact (sound.openFile opened).fill p content

theorem Sound.withFresh (sound : t.Sound) (dir : t.isDirectoryAt here) (content : ByteArray) :
    (t.withFresh here content).Sound := by
  have inside : (t.freshPlace here).dropLast = here := List.dropLast_concat
  rw [withFresh_eq]
  refine sound.put (t.freshPlace_ne_root here) (inside.symm ▸ dir) (.inl ?_)
  simp [isDirectoryAt_iff, t.get?_freshPlace here]

theorem Sound.rename (sound : t.Sound) (named : p ≠ []) (file : ¬ t.isDirectoryAt p)
    (moved : t.rename p path = .ok t') : t'.Sound := by
  obtain ⟨here, name, e, aim, -, vacant, -, rfl⟩ := rename_eq_ok.1 moved
  have keeps := keeps_erase named file
  have inside := keeps.directory here (isDirectoryAt_of_target aim)
  refine (sound.erase named file).put (by simp) (by simpa using inside) (.inl fun taken => ?_)
  rw [isDirectoryAt_iff, get?_erase named] at taken
  split at taken
  · cases taken
  · exact vacant (isDirectoryAt_iff.2 taken)

theorem Sound.rename_withFresh {content : ByteArray} (sound : t.Sound) (dir : t.isDirectoryAt here)
    (moved : (t.withFresh here content).rename (t.freshPlace here) path = .ok t') : t'.Sound := by
  refine (sound.withFresh dir content).rename (t.freshPlace_ne_root here) ?_ moved
  simp [isDirectoryAt_iff, get?_withFresh]

theorem Sound.grown {r : Except FileError FileTree} (sound : t.Sound)
    (each : ∀ t', r = .ok t' → t'.Sound) : (r.toOption.getD t).Sound := by
  cases r with
  | error e => exact sound
  | ok t' => exact each t' rfl

theorem Sound.add (sound : t.Sound) (path : String) (content : Option ByteArray) :
    (t.add path content).Sound := by
  cases content with
  | none => exact sound.grown fun t' => sound.makeDirectories
  | some bytes =>
    have inside : ((Path.directory? path).elim t fun d =>
        (t.makeDirectories d).toOption.getD t).Sound := by
      cases Path.directory? path with
      | none => exact sound
      | some d => exact sound.grown fun t' => sound.makeDirectories
    exact inside.grown fun t' => inside.write

/-- **A tree of given files is sound.** -/
theorem sound_ofFiles (l : List (String × Option ByteArray)) : (ofFiles l).Sound := by
  have each (l : List (String × Option ByteArray)) (t : FileTree) (sound : t.Sound) :
      (l.foldl (fun t f => t.add f.1 f.2) t).Sound := by
    induction l generalizing t with
    | nil => exact sound
    | cons f l ih => exact ih _ (sound.add f.1 f.2)
  exact each l empty sound_empty

/-! ## Walks -/

/-- Where a name leads from a directory. -/
inductive Leads (t : FileTree) (here : Place) : String → Place → Prop
  | idle {name : String} (idle : Path.isIdle name = true) : Leads t here name here
  | up : Leads t here ".." here.dropLast
  | down {name : String} (named : Path.isIdle name = false) (down : name ≠ "..")
      (short : name.utf8ByteSize ≤ 255) (there : (t.get? (here ++ [name])).isSome) :
      Leads t here name (here ++ [name])

theorem follow_eq_ok : t.follow here name = .ok p ↔ t.isDirectoryAt here ∧ t.Leads here name p := by
  constructor
  · intro followed
    have dir := isDirectoryAt_of_follow followed
    refine ⟨dir, ?_⟩
    rw [follow, dir] at followed
    split_ifs at followed with no idle up long there
    · cases followed
      exact .idle (by simpa [Path.isIdle] using idle)
    · cases followed
      exact up ▸ .up
    · cases followed
      exact .down (by simpa [Path.isIdle] using idle) up (by omega) there
  · rintro ⟨dir, leads⟩
    cases leads with
    | idle idle =>
      have nothing : name = "" ∨ name = "." := by simpa [Path.isIdle] using idle
      rw [follow, dir, if_pos nothing]
      rfl
    | up => simp [follow, dir]
    | down named down short there =>
      have fits : ¬ 255 < name.utf8ByteSize := by omega
      have other : ¬ (name = "" ∨ name = ".") := by simpa [Path.isIdle] using named
      rw [follow, dir, if_neg other, if_neg down, if_neg fits, there]
      rfl

/-- From a place that is there one only gets to places that are there. -/
theorem Sound.isSome_of_foldlM {names : List String} (sound : t.Sound)
    (there : (t.get? here).isSome) (walked : names.foldlM t.follow here = .ok p) :
    (t.get? p).isSome := by
  induction names generalizing here with
  | nil =>
    cases walked
    exact there
  | cons name names ih =>
    obtain ⟨q, first, later⟩ := exists_of_bind walked
    refine ih ?_ later
    cases (follow_eq_ok.1 first).2 with
    | idle => exact there
    | up => exact isSome_of_isDirectoryAt (sound.parent here there)
    | down _ _ _ taken => exact taken

theorem Sound.isSome_origin (sound : t.Sound) (path : String) :
    (t.get? (t.origin path)).isSome := by
  rw [origin]
  split
  · exact Option.isSome_of_eq_some (get?_root t)
  · exact isSome_of_isDirectoryAt sound.current

/-- What lies above something that is there is there as well. -/
theorem Sound.isSome_of_prefix (sound : t.Sound) (there : (t.get? p).isSome) (above : q <+: p) :
    (t.get? q).isSome := by
  obtain ⟨names, rfl⟩ := above
  induction names using List.reverseRecOn with
  | nil => simpa using there
  | append_singleton names name ih =>
    rw [← List.append_assoc] at there
    have dir := sound.parent _ there
    rw [List.dropLast_concat] at dir
    exact ih (isSome_of_isDirectoryAt dir)

end Testbed.FileTree
