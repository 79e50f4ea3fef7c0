import Testbed.Proofs.SoundTrees

/-!
# What new directories change

Making a directory, with those that it lies in, only adds to a tree (`Grown`): ways that were there
stay (`Grown.foldlM`). Nothing but directories is new, and each of them lies on the way along the
path (`lengthened_makeDirectories`).

The other way round, a new way may lead to something old, but only by going up: a way down to
something that was there before leads through what was there before (`Grown.foldlM_back`).
-/

namespace Testbed.FileTree

variable {t t' t₁ : FileTree} {p q here : Place} {name path above : String} {names : List String}

/-! ## Growth -/

/-- Whatever lies in a tree lies in another, at the same place. -/
structure Grown (t t' : FileTree) : Prop where
  current : t'.current = t.current
  kept : ∀ p, (t.get? p).isSome → t'.get? p = t.get? p

theorem Grown.refl (t : FileTree) : Grown t t := ⟨rfl, fun _ _ => rfl⟩

theorem Grown.trans {t₁ t₂ t₃ : FileTree} (first : Grown t₁ t₂) (second : Grown t₂ t₃) :
    Grown t₁ t₃ := by
  refine ⟨second.current.trans first.current, fun p there => ?_⟩
  have same := first.kept p there
  rw [second.kept p (same ▸ there), same]

theorem Grown.isSome (grown : Grown t t') (there : (t.get? p).isSome) : (t'.get? p).isSome := by
  rw [grown.kept p there]
  exact there

theorem Grown.directory (grown : Grown t t') (dir : t.isDirectoryAt p) : t'.isDirectoryAt p := by
  rw [isDirectoryAt_iff, grown.kept p (isSome_of_isDirectoryAt dir)]
  exact isDirectoryAt_iff.1 dir

/-- What was there before and is a directory now was one before. -/
theorem Grown.directory_back (grown : Grown t t') (there : (t.get? p).isSome)
    (dir : t'.isDirectoryAt p) : t.isDirectoryAt p := by
  rw [isDirectoryAt_iff, ← grown.kept p there]
  exact isDirectoryAt_iff.1 dir

theorem grown_put (named : p ≠ []) (free : t.get? p = none) (e : Entry) : Grown t (t.put p e) := by
  refine ⟨rfl, fun q there => ?_⟩
  rw [get?_put named, if_neg]
  rintro rfl
  simp [free] at there

theorem Grown.follow (grown : Grown t t') (followed : t.follow here name = .ok p) :
    t'.follow here name = .ok p := by
  obtain ⟨dir, leads⟩ := follow_eq_ok.1 followed
  refine follow_eq_ok.2 ⟨grown.directory dir, ?_⟩
  cases leads with
  | idle idle => exact .idle idle
  | up => exact .up
  | down named down short there => exact .down named down short (grown.isSome there)

theorem Grown.foldlM (grown : Grown t t') (walked : names.foldlM t.follow here = .ok p) :
    names.foldlM t'.follow here = .ok p := by
  induction names generalizing here with
  | nil => exact walked
  | cons name names ih =>
    obtain ⟨q, first, later⟩ := exists_of_bind walked
    rw [List.foldlM_cons, grown.follow first]
    exact ih later

theorem Grown.origin (grown : Grown t t') (path : String) : t'.origin path = t.origin path := by
  rw [FileTree.origin, FileTree.origin, grown.current]

/-! ## Walks along routes -/

theorem foldlM_of_append {front back : List String}
    (walked : (front ++ back).foldlM t.follow here = .ok p) :
    ∃ q, front.foldlM t.follow here = .ok q ∧ back.foldlM t.follow q = .ok p := by
  rw [List.foldlM_append] at walked
  exact exists_of_bind walked

theorem foldlM_append_of {front back : List String} (first : front.foldlM t.follow here = .ok q)
    (later : back.foldlM t.follow q = .ok p) : (front ++ back).foldlM t.follow here = .ok p := by
  rw [List.foldlM_append, first]
  exact later

/-- Parts that name nothing can be left out on the way. -/
theorem foldlM_filter (walked : names.foldlM t.follow here = .ok p) :
    (names.filter fun s => !Path.isIdle s).foldlM t.follow here = .ok p := by
  induction names generalizing here with
  | nil => exact walked
  | cons name names ih =>
    obtain ⟨q, first, later⟩ := exists_of_bind walked
    cases idle : Path.isIdle name with
    | true =>
      rw [List.filter_cons_of_neg (by simp [idle])]
      cases (follow_eq_ok.1 first).2 with
      | idle => exact ih later
      | up => cases idle
      | down named => simp [idle] at named
    | false =>
      rw [List.filter_cons_of_pos (by simp [idle]), List.foldlM_cons, first]
      exact ih later

/-- And put in, as long as the way leads to a directory. -/
theorem foldlM_of_filter (dir : t.isDirectoryAt p)
    (walked : (names.filter fun s => !Path.isIdle s).foldlM t.follow here = .ok p) :
    names.foldlM t.follow here = .ok p := by
  induction names generalizing here with
  | nil => exact walked
  | cons name names ih =>
    cases idle : Path.isIdle name with
    | true =>
      rw [List.filter_cons_of_neg (by simp [idle])] at walked
      have stays : t.follow here name = .ok here :=
        follow_eq_ok.2 ⟨isDirectoryAt_of_foldlM walked dir, .idle idle⟩
      rw [List.foldlM_cons, stays]
      exact ih walked
    | false =>
      rw [List.filter_cons_of_pos (by simp [idle])] at walked
      obtain ⟨q, first, later⟩ := exists_of_bind walked
      rw [List.foldlM_cons, first]
      exact ih later

/-- Without a way up one goes down. -/
theorem prefix_of_foldlM (down : ".." ∉ names) (walked : names.foldlM t.follow here = .ok p) :
    here <+: p := by
  induction names generalizing here with
  | nil =>
    cases walked
    exact List.prefix_refl _
  | cons name names ih =>
    obtain ⟨q, first, later⟩ := exists_of_bind walked
    simp only [List.mem_cons, not_or] at down
    have below := ih down.2 later
    cases (follow_eq_ok.1 first).2 with
    | idle => exact below
    | up => exact absurd rfl down.1
    | down => exact (List.prefix_append here [name]).trans below

/-- A way down to something that was there before could be gone before. -/
theorem Grown.foldlM_back (grown : Grown t t') (sound : t.Sound) (there : (t.get? p).isSome)
    (down : ".." ∉ names) (walked : names.foldlM t'.follow here = .ok p) :
    names.foldlM t.follow here = .ok p := by
  induction names generalizing here with
  | nil => exact walked
  | cons name names ih =>
    obtain ⟨q, first, later⟩ := exists_of_bind walked
    have whole := prefix_of_foldlM down walked
    simp only [List.mem_cons, not_or] at down
    have below := prefix_of_foldlM down.2 later
    obtain ⟨dir, leads⟩ := follow_eq_ok.1 first
    have dir' := grown.directory_back (sound.isSome_of_prefix there whole) dir
    have before : t.follow here name = .ok q := by
      refine follow_eq_ok.2 ⟨dir', ?_⟩
      cases leads with
      | idle idle => exact .idle idle
      | up => exact absurd rfl down.1
      | down named other short taken =>
        exact .down named other short (sound.isSome_of_prefix there below)
    rw [List.foldlM_cons, before]
    exact ih down.2 later

/-! ## Directories along a path -/

/-- The way to a new entry. -/
theorem route_of_target {slash : Bool} (aim : t.target path = .ok (here, some name, slash))
    (plain : isDots name = false) :
    ∃ front, Path.route path = front ++ [name] ∧
      front.foldlM t.follow (t.origin path) = .ok here ∧ t.isDirectoryAt here ∧
      ∀ t' : FileTree, t'.isDirectoryAt here → (t'.get? (here ++ [name])).isSome →
        t'.follow here name = .ok (here ++ [name]) := by
  obtain ⟨⟨⟩, check, -⟩ := exists_of_bind aim
  rw [target_eq check] at aim
  split at aim
  · cases aim
  · next n rest parts =>
    obtain ⟨q, walked, aim⟩ := exists_of_bind aim
    split_ifs at aim with file long
    simp only [Except.ok.injEq, Prod.mk.injEq, Option.some.injEq] at aim
    obtain ⟨rfl, rfl, -⟩ := aim
    obtain ⟨named, blanks, empty, whole⟩ := segments_of_dropWhile parts
    simp only [isDots, Bool.or_eq_false_iff, decide_eq_false_iff_not] at plain
    have present : Path.isIdle n = false := by simp [Path.isIdle, named, plain.1]
    have nothing : (blanks.filter fun s => !Path.isIdle s) = [] :=
      List.filter_eq_nil_iff.2 fun s mem => by simp [Path.isIdle, empty s mem]
    refine ⟨rest.reverse.filter fun s => !Path.isIdle s, ?_, foldlM_filter walked,
      by simpa using file, fun t' dir there => ?_⟩
    · rw [Path.route, whole, List.filter_append, List.filter_cons_of_pos (by simp [present]),
        nothing]
    · exact follow_eq_ok.2 ⟨dir, .down present plain.2 (by omega) there⟩

/-- A tree with new directories, all of them along a path. -/
structure Lengthened (t t' : FileTree) (path : String) : Prop extends Grown t t' where
  made : ∀ q, t.get? q = none → (t'.get? q).isSome → t'.get? q = some .directory ∧
    ∃ front, front <+: Path.route path ∧ front.foldlM t'.follow (t.origin path) = .ok q

theorem Lengthened.refl (t : FileTree) (path : String) : Lengthened t t path :=
  ⟨.refl t, fun q free there => by simp [free] at there⟩

theorem Lengthened.trans (names : Path.route above <+: Path.route path)
    (root : Path.isAbsolute above = Path.isAbsolute path) (first : Lengthened t t₁ above)
    (second : Lengthened t₁ t' path) : Lengthened t t' path := by
  refine ⟨first.toGrown.trans second.toGrown, fun q free there => ?_⟩
  have origin : t₁.origin path = t.origin path := first.toGrown.origin path
  have origin' : t.origin above = t.origin path := by rw [FileTree.origin, FileTree.origin, root]
  cases between : t₁.get? q with
  | none =>
    rw [← origin]
    exact second.made q between there
  | some e =>
    have there' : (t₁.get? q).isSome := Option.isSome_of_eq_some between
    obtain ⟨dir, front, within, walked⟩ := first.made q free there'
    refine ⟨(second.toGrown.kept q there').trans dir, front, within.trans names, ?_⟩
    rw [← origin']
    exact second.toGrown.foldlM walked

theorem lengthened_makeDirectory (made : t.makeDirectory path = .ok t') :
    Lengthened t t' path := by
  obtain ⟨here, name, slash, aim, plain, free, rfl⟩ := makeDirectory_eq_ok made
  have grown := grown_put (by simp) free .directory
  refine ⟨grown, fun q before there => ?_⟩
  rw [get?_put (by simp)] at there ⊢
  split at there
  · next same =>
    subst same
    obtain ⟨front, names, walked, dir, next⟩ := route_of_target aim plain
    have new : (t.put (here ++ [name]) .directory).get? (here ++ [name]) = some .directory := by
      rw [get?_put (by simp), if_pos rfl]
    have last := next _ (grown.directory dir) (Option.isSome_of_eq_some new)
    refine ⟨if_pos rfl, front ++ [name], names ▸ List.prefix_refl _, ?_⟩
    exact foldlM_append_of (grown.foldlM walked) (by simp [last])
  · simp [before] at there

theorem lengthened_makeDirectories (made : t.makeDirectories path = .ok t') :
    Lengthened t t' path :=
  makeDirectories_induct (P := Lengthened) .refl lengthened_makeDirectory
    (fun inside => .trans (Path.route_parent? inside).1 (Path.route_parent? inside).2) made

end Testbed.FileTree
