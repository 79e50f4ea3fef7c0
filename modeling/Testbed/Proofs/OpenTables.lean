import Testbed.Proofs.WrittenLines

/-!
# Tables that are still open

While a document that was written is read, lines only ever add to the last field of the last field
and so on. `Frame`s say what stands around that place, `plug` puts a table there, and what a line
does to the whole document is what it does to the table there (`descend_plug`).

**Tables without a heading.** A table that only has tables inside gets no heading, so it comes to be
when the first heading inside it is read. `Shows` treats it as if it were there before
(`Shows.passed`): no line that leads below it can tell the difference.
-/

namespace Testbed.Toml

open Node

/-! ## The last field of a table -/

namespace Node

variable {name : String} {fields done : Fields} {node : Node}

theorem lookup_eq_none : lookup name fields = none ↔ name ∉ fields.map (·.1) := by
  simp only [lookup, Option.map_eq_none_iff, List.find?_eq_none, decide_eq_true_eq, List.mem_map]
  exact ⟨fun none ⟨f, mem, same⟩ => none f mem same, fun notMem f mem same => notMem ⟨f, mem, same⟩⟩

theorem lookup_last (new : lookup name done = none) :
    lookup name (done ++ [(name, node)]) = some node := by
  have rest : done.find? (fun f => f.1 = name) = none := by simpa [lookup] using new
  simp [lookup, List.find?_append, rest]

theorem put_last (new : lookup name done = none) (other : Node) :
    put name other (done ++ [(name, node)]) = done ++ [(name, other)] := by
  induction done with
  | nil => simp [put]
  | cons f done ih =>
    obtain ⟨n, v⟩ := f
    simp only [lookup_eq_none, List.map_cons, List.mem_cons, not_or] at new ih
    simp [put, Ne.symm new.1, ih new.2]

theorem changeLast?_last {α : Type} (f : α → Option α) (before : List α) (a : α) :
    changeLast? f (before ++ [a]) = (f a).map fun b => before ++ [b] := by
  induction before with
  | nil => rfl
  | cons c before ih =>
    obtain ⟨d, rest, later⟩ : ∃ d rest, before ++ [a] = d :: rest := by
      cases before <;> exact ⟨_, _, rfl⟩
    rw [List.cons_append, later, changeLast?, ← later, ih, Option.map_map]
    · rfl
    · simp

end Node

/-! ## Tables that are still open -/

/-- A table around the place where a document grows; its last field leads there. -/
inductive Frame
  /-- That field is a table. -/
  | table (done : Fields) (name : String) (standing : Standing)
  /-- That field has a repeated heading, and its last element leads there. -/
  | element (done : Fields) (name : String) (before : List Fields)

namespace Frame

/-- The name of the last field. -/
def name : Frame → String
  | table _ name _ | element _ name _ => name

/-- The fields before the last. -/
def done : Frame → Fields
  | table done _ _ | element done _ _ => done

/-- How the table came about to which the last field leads. -/
def standing : Frame → Standing
  | table _ _ standing => standing
  | element _ _ _ => .defined

/-- The table with the given fields in the place to which its last field leads. -/
def fill (inner : Fields) : Frame → Fields
  | table done name standing => done ++ [(name, .table standing inner)]
  | element done name before => done ++ [(name, .tables (before ++ [inner]))]

theorem descend_fill {f : Frame} (fresh : lookup f.name f.done = none)
    (change : Standing → Fields → Option Fields) (path : List String) (st : Standing)
    (inner : Fields) : descend false change (f.name :: path) st (f.fill inner) =
      (descend false change path f.standing inner).map f.fill := by
  cases f with
  | table done name standing =>
    have new : lookup name done = none := fresh
    simp only [Frame.name, fill, descend, lookup_last new, Frame.standing]
    cases descend false change path standing inner with
    | none => rfl
    | some made => simp [put_last new]
  | element done name before =>
    have new : lookup name done = none := fresh
    simp only [Frame.name, fill, descend, lookup_last new, changeLast?_last, Frame.standing]
    cases descend false change path .defined inner with
    | none => rfl
    | some made => simp [put_last new]

end Frame

/-- The names that lead to the place where a document grows. -/
def pathOf (frames : List Frame) : List String := frames.map Frame.name

/-- How the table came about that is at this place. -/
def reached (st : Standing) (frames : List Frame) : Standing :=
  frames.foldl (fun _ f => f.standing) st

/-- The whole document with the given fields at this place. -/
def plug (frames : List Frame) (inner : Fields) : Fields :=
  frames.foldr (fun f inner => f.fill inner) inner

/-- No field of these tables has the name of the last one. -/
def Fresh (frames : List Frame) : Prop := ∀ f ∈ frames, lookup f.name f.done = none

variable {frames : List Frame} {root inner done : Fields} {name : String}

theorem descend_plug (fresh : Fresh frames) (change : Standing → Fields → Option Fields)
    (more : List String) (st : Standing) (inner : Fields) :
    descend false change (pathOf frames ++ more) st (plug frames inner) =
      (descend false change more (reached st frames) inner).map (plug frames) := by
  induction frames generalizing st with
  | nil => exact Option.map_id'.symm
  | cons f frames ih =>
    have here := fresh f List.mem_cons_self
    have later := ih (fun g mem => fresh g (List.mem_cons_of_mem _ mem)) f.standing
    have down := f.descend_fill here change (pathOf frames ++ more) st (plug frames inner)
    rw [later, Option.map_map] at down
    exact down

/-- To every line that leads to the place of these frames or below it, the document is one with the
given fields there. A table that only has tables inside need not exist yet. -/
def Shows (root : Fields) (frames : List Frame) (inner : Fields) : Prop :=
  ∀ (change : Standing → Fields → Option Fields) (more : List String),
    descend false change (pathOf frames ++ more) .defined root =
      (descend false change more (reached .defined frames) inner).map (plug frames)

theorem Fresh.shows (fresh : Fresh frames) (inner : Fields) :
    Shows (plug frames inner) frames inner :=
  fun change more => descend_plug fresh change more .defined inner

theorem Fresh.snoc (fresh : Fresh frames) {f : Frame} (new : lookup f.name f.done = none) :
    Fresh (frames ++ [f]) := by
  intro g mem
  rcases List.mem_append.1 mem with mem | mem
  · exact fresh g mem
  · rwa [List.mem_singleton.1 mem]

theorem plug_snoc (frames : List Frame) (f : Frame) (inner : Fields) :
    plug (frames ++ [f]) inner = plug frames (f.fill inner) := by
  simp [plug]

theorem pathOf_snoc (frames : List Frame) (f : Frame) :
    pathOf (frames ++ [f]) = pathOf frames ++ [f.name] := by
  simp [pathOf]

namespace Shows

/-- A table that is missing shows as one that was passed through. -/
theorem passed (shows : Shows root frames done) (new : lookup name done = none) :
    Shows root (frames ++ [.table done name .passed]) [] := by
  intro change more
  have down := shows change (name :: more)
  rw [pathOf_snoc, List.append_assoc, List.singleton_append]
  refine down.trans ?_
  rw [descend, new]
  have here : reached .defined (frames ++ [.table done name .passed]) = .passed := by
    simp [reached, Frame.standing]
  rw [here]
  simp only [Bool.false_eq_true, if_false]
  cases descend false change more .passed [] with
  | none => rfl
  | some made => simp [plug_snoc, Frame.fill]

/-- What a line changes at this place changes the whole document there. -/
theorem change (shows : Shows root frames inner) {f : Standing → Fields → Option Fields}
    {made : Fields} (changed : f (reached .defined frames) inner = some made) :
    descend false f (pathOf frames) .defined root = some (plug frames made) := by
  have down := shows f []
  rw [List.append_nil, descend, changed] at down
  exact down

theorem openTable (shows : Shows root frames done) (new : lookup name done = none) :
    openTable (pathOf frames) name root =
      some (plug (frames ++ [.table done name .defined]) []) := by
  rw [plug_snoc]
  exact shows.change (by simp [new, Frame.fill])

theorem openElement (shows : Shows root frames done) (new : lookup name done = none) :
    openElement (pathOf frames) name root =
      some (plug (frames ++ [.element done name []]) []) := by
  rw [plug_snoc]
  exact shows.change (by simp [new, Frame.fill])

theorem add (shows : Shows root frames inner) (new : lookup name inner = none) (v : Value) :
    Draft.add ⟨root, pathOf frames⟩ [name] v =
      some ⟨plug frames (inner ++ [(name, .value v)]), pathOf frames⟩ := by
  have down : descend false (fun _ inner => addValue [] name v .defined inner) (pathOf frames)
      .defined root = some (plug frames (inner ++ [(name, .value v)])) :=
    shows.change (by simp [addValue, descend, new])
  simp [Draft.add, down]

end Shows

/-- The next element of an array is opened behind the elements before it. -/
theorem Fresh.openElement (before : List Fields) (fresh : Fresh frames)
    (new : lookup name done = none) (inner : Fields) :
    openElement (pathOf frames) name (plug (frames ++ [.element done name before]) inner) =
      some (plug (frames ++ [.element done name (before ++ [inner])]) []) := by
  have shows := fresh.shows ((Frame.element done name before).fill inner)
  rw [plug_snoc, plug_snoc]
  exact shows.change (by simp [Frame.fill, lookup_last new, put_last new])

end Testbed.Toml
