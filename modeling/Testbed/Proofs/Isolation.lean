import Testbed.Proofs.PathComponents
import Testbed.Proofs.SteadyPaths
import Testbed.Proofs.Validation
import Testbed.State.Layout

/-!
# Environments keep apart

The directory of an environment carries its name, so two environments keep apart just as far as
names can be told apart in a path. The names of valid configurations can: there is no slash in them,
they are no points, and they are not empty (`proper_of_isName`).

**Theorem (`paths_isolated`).** In any layout the directory of an environment lies right in the root
under the name of the environment, and what belongs to one environment is neither at, nor below, nor
above what belongs to another.

What lies in a directory under a name has components that go on with this name (`Within`), and a way
along it passes the place of this name (`Within.locate`). Two lists that go on with different
elements after the same start are not a start of each other (`apart_of_fork`); this is used once for
the components and once for the places.
-/

namespace Testbed

namespace Path

variable {directory path path' name name' file : String}

/-! ## Names in a directory -/

/-- A name that leads to an entry of a directory: it is one part of a path, and none of those that
every directory has. -/
structure Proper (name : String) : Prop where
  plain : '/' ∉ name.toList
  present : isIdle name = false
  down : name ≠ ".."

instance (name : String) : Decidable (Proper name) :=
  decidable_of_iff ('/' ∉ name.toList ∧ isIdle name = false ∧ name ≠ "..")
    ⟨fun ⟨plain, present, down⟩ => ⟨plain, present, down⟩, fun p => ⟨p.plain, p.present, p.down⟩⟩

/-- A path is that of a name right in the directory with the given components. -/
structure IsChild (path : String) (above : List String) (name : String) : Prop where
  proper : Proper name
  whole : components path = above ++ [name]
  inside : ∃ p, parent? path = some p ∧ components p = above

theorem isChild_join (directory : String) (proper : Proper name) :
    IsChild (join directory name) (components directory) name := by
  have whole := components_join directory proper.plain proper.present
  refine ⟨proper, whole, ?_⟩
  cases inside : parent? (join directory name) with
  | some p =>
    obtain ⟨last, whole'⟩ := components_of_parent? inside
    exact ⟨p, rfl, (List.append_inj' (whole'.symm.trans whole) rfl).1⟩
  | none =>
    rcases components_of_parent?_eq_none inside with nothing | root
    · simp [nothing] at whole
    · rw [root] at whole
      -- Of the root, the slash itself would be the name.
      have last : name = "/" := by
        have ends := congrArg List.getLast? whole
        simpa using ends.symm
      exact absurd (by simp [last]) proper.plain

/-! ## Paths that keep apart -/

theorem apart_of_fork {α : Type} {front a b : List α} {x y : α} (other : x ≠ y)
    (left : front ++ [x] <+: a) (right : front ++ [y] <+: b) : ¬a <+: b ∧ ¬b <+: a := by
  have same {l : List α} (first : front ++ [x] <+: l) (second : front ++ [y] <+: l) : False := by
    have one := List.prefix_of_prefix_length_le first second (by simp)
    have ends := (List.prefix_append_right_inj front).1 one
    exact other (by simpa using ends)
  exact ⟨fun below => same (left.trans below) right, fun above => same left (right.trans above)⟩

/-- Neither of two paths is the other or lies below it, by its components and in any tree of
files. -/
structure Apart (path path' : String) : Prop where
  components : ¬components path <+: components path' ∧ ¬components path' <+: components path
  places : ∀ (t : FileTree) (here there : Place), t.locate path = .ok here →
    t.locate path' = .ok there → ¬here <+: there ∧ ¬there <+: here

/-- A path goes through a name in a directory. -/
structure Within (directory name path : String) : Prop where
  root : isAbsolute path = isAbsolute directory
  names : components directory ++ [name] <+: components path
  route : ∃ below, ".." ∉ below ∧ route path = route directory ++ name :: below

theorem route_join (directory : String) (proper : Proper name) :
    route (join directory name) = route directory ++ [name] := by
  obtain ⟨front, parts, names, -⟩ := segments_join directory proper.plain
  rw [route, parts, List.filter_append, names]
  simp [proper.present]

theorem within_join (proper : Proper name) : Within directory name (join directory name) := by
  obtain ⟨front, -, -, root⟩ := segments_join directory proper.plain
  refine ⟨root, ⟨[], ?_⟩, [], List.not_mem_nil, route_join directory proper⟩
  rw [List.append_nil, components_join directory proper.plain proper.present]

theorem Within.join (within : Within directory name path) (proper : Proper file) :
    Within directory name (join path file) := by
  obtain ⟨below, down, names⟩ := within.route
  have last : Within path file (Path.join path file) := within_join proper
  refine ⟨last.root.trans within.root, ?_, below ++ [file], ?_, ?_⟩
  · exact within.names.trans ((List.prefix_append _ _).trans last.names)
  · simp [down, Ne.symm proper.down]
  · rw [route_join path proper, names, List.append_assoc, List.cons_append]

/-- A way along it passes the place of the name. -/
theorem Within.locate (within : Within directory name path) (proper : Proper name)
    {t : FileTree} {place : Place} (found : t.locate path = .ok place) :
    ∃ here, (Path.route directory).foldlM t.follow (t.origin directory) = .ok here ∧
      here ++ [name] <+: place := by
  obtain ⟨below, down, names⟩ := within.route
  have start : t.origin path = t.origin directory := by
    rw [FileTree.origin, FileTree.origin, within.root]
  rw [FileTree.locate_eq (FileTree.checkPath_of_locate found)] at found
  have walked : (Path.route path).foldlM t.follow (t.origin path) = .ok place :=
    FileTree.foldlM_filter found
  rw [names, start] at walked
  obtain ⟨here, first, later⟩ := FileTree.foldlM_of_append walked
  obtain ⟨next, step, rest⟩ := exists_of_bind later
  refine ⟨here, first, ?_⟩
  cases (FileTree.follow_eq_ok.1 step).2 with
  | idle idle => cases proper.present.symm.trans idle
  | up => exact absurd rfl proper.down
  | down => exact FileTree.prefix_of_foldlM down rest

theorem Within.apart (within : Within directory name path)
    (within' : Within directory name' path') (proper : Proper name) (proper' : Proper name')
    (other : name ≠ name') : Apart path path' := by
  refine ⟨apart_of_fork other within.names within'.names, fun t here there found found' => ?_⟩
  obtain ⟨start, walked, left⟩ := within.locate proper found
  obtain ⟨start', walked', right⟩ := within'.locate proper' found'
  obtain rfl : start = start' := Except.ok.inj (walked.symm.trans walked')
  exact apart_of_fork other left right

end Path

namespace Layout

variable {l : Layout} {c c' : Config} {name : String}

/-- What belongs to an environment: its directory, its state document and its lock. -/
def paths (l : Layout) (name : String) : List String :=
  [l.directory name, l.stateFile name, l.lockFile name]

/-- The name of an environment is one part of a path, and no point. -/
theorem proper_of_isName (isName : Config.IsName name) : Path.Proper name := by
  have outside {c : Char} (odd : Config.isNameChar c = false) : c ∉ name.toList := by
    intro mem
    have plain := Config.isNameChar_iff.2 (isName.plain c mem)
    cases odd.symm.trans plain
  have slash : '/' ∉ name.toList := outside (by decide)
  have point : '.' ∉ name.toList := outside (by decide)
  refine ⟨slash, ?_, ?_⟩
  · have full : name ≠ "" := by
      rintro rfl
      exact absurd isName.more (by decide)
    have other : name ≠ "." := by
      rintro rfl
      exact point (by decide)
    simp [Path.isIdle, full, other]
  · rintro rfl
    exact point (by decide)

theorem within_of_mem_paths (proper : Path.Proper name) {path : String}
    (mem : path ∈ l.paths name) : Path.Within l.root name path := by
  have directory : Path.Within l.root name (l.directory name) := Path.within_join proper
  have file : Path.Proper stateFileName := by decide
  have lock : Path.Proper ".lock" := by decide
  simp only [paths, List.mem_cons, List.not_mem_nil, or_false] at mem
  rcases mem with rfl | rfl | rfl
  · exact directory
  · exact directory.join file
  · exact directory.join lock

theorem isName_of_validate (valid : c.validate = .ok ()) : Config.IsName c.name :=
  (Config.fault?_eq_none_iff.1 (Config.validate_eq_ok_iff.1 valid)).name

/-- **Environments keep apart.** In every layout, the directory of an environment lies right in the
root, under the name of the environment. What belongs to an environment is neither at, nor below,
nor above what belongs to one of another name. The layout beside a configuration file is one of
those, and its root lies right in the directory of that file. -/
theorem paths_isolated (valid : c.validate = .ok ()) (valid' : c'.validate = .ok ())
    (other : c.name ≠ c'.name) :
    (∀ l : Layout, Path.IsChild (l.directory c.name) (Path.components l.root) c.name ∧
      Path.IsChild (l.directory c'.name) (Path.components l.root) c'.name ∧
      ∀ path ∈ l.paths c.name, ∀ path' ∈ l.paths c'.name, Path.Apart path path') ∧
    ∀ configPath, Path.IsChild (besideConfig configPath).root
      (Path.home (Path.components configPath)) ".kubetester" := by
  have proper := proper_of_isName (isName_of_validate valid)
  have proper' := proper_of_isName (isName_of_validate valid')
  refine ⟨fun l => ⟨Path.isChild_join l.root proper, Path.isChild_join l.root proper', ?_⟩, ?_⟩
  · intro path mem path' mem'
    have within := within_of_mem_paths proper mem
    have within' := within_of_mem_paths proper' mem'
    exact within.apart within' proper proper' other
  · intro configPath
    have hidden : Path.Proper ".kubetester" := by decide
    rw [← Path.components_directory?]
    exact Path.isChild_join _ hidden

/-- One name begins as the other, the root goes up and ends in a point, and the configuration has a
bare file name. -/
theorem paths_isolated_alikeNames :
    let c := Config.template "demo" "us-west-2"
    let c' := Config.template "demo-2" "us-west-2"
    c.validate = .ok () ∧ c'.validate = .ok () ∧ c.name ≠ c'.name ∧
      Path.IsChild "../state/./demo-2" ["..", "state"] "demo-2" ∧
      Path.Apart "../state/./demo" "../state/./demo-2/state.json" ∧
      Path.IsChild "./.kubetester" ["."] ".kubetester" := by
  intro c c'
  have valid : c.validate = .ok () := by decide +kernel
  have valid' : c'.validate = .ok () := by decide +kernel
  have other : c.name ≠ c'.name := by decide
  obtain ⟨all, beside⟩ := paths_isolated valid valid' other
  obtain ⟨-, child, apart⟩ := all ⟨"../state/."⟩
  refine ⟨valid, valid', other, ?_, ?_, ?_⟩
  · have whole : (Layout.mk "../state/.").directory c'.name = "../state/./demo-2" := by
      decide +kernel
    have above : Path.components "../state/." = ["..", "state"] := by decide +kernel
    rw [whole, above] at child
    exact child
  · have own : "../state/./demo" ∈ (Layout.mk "../state/.").paths c.name := by decide +kernel
    have others : "../state/./demo-2/state.json" ∈ (Layout.mk "../state/.").paths c'.name := by
      decide +kernel
    exact apart _ own _ others
  · have root : (besideConfig "kubetester.toml").root = "./.kubetester" := by decide +kernel
    have above : Path.home (Path.components "kubetester.toml") = ["."] := by decide +kernel
    have child := beside "kubetester.toml"
    rw [root, above] at child
    exact child

end Layout

end Testbed
