import Mathlib.Data.List.Nodup
import Testbed.Proofs.OpenTables
import Testbed.Proofs.TomlLayout

/-!
# Reading back written documents

The lines of a field add it to the table that is open last, and leave the rest of the document
alone (`Grows`). That is proved by induction on the value: pairs one after the other
(`grow_pairs`), then the blocks of the fields that have headings (`grow_blocks`), where a table
without a heading of its own only begins to exist with its first block, and the tables of an array
behind one another (`grow_elements`).

**Theorem (`Document.read?_write?`).** A document with distinct names and values that stand on the
line of their key, not nested too deep, can be written and is read back as it is laid out.
-/

namespace Testbed.Toml

open Node

/-! ## What the lines make of a document -/

section Growth

variable {frames : List Frame} {root inner done : Fields} {name : String}

/-- The lines of a field add it to the table that is open last, with its fields as they are laid
out. -/
def Grows (v : Value) : Prop :=
  hasHeading v = true → ∀ {frames : List Frame} {root done : Fields} {name : String},
    Fresh frames → Shows root frames done → lookup name done = none → ∀ heading,
      ∃ node heading', (block (pathOf frames) name v).flatten.foldlM Line.apply ⟨root, heading⟩ =
        some ⟨plug frames (done ++ [(name, node)]), heading'⟩ ∧ node.close = laidOut v

/-- Fields that are complete. -/
def valuesOf (fs : Table) : Fields := fs.map fun f => (f.1, .value f.2)

theorem closeFields_valuesOf (fs : Table) : closeFields (valuesOf fs) = fs := by
  rw [closeFields_eq_map, valuesOf, List.map_map]
  exact List.map_id fs

/-- What is added under one of several distinct names does not count for those after it. -/
theorem lookup_later {fs : Table} {f g : String × Value} {node : Node}
    (notMem : f.1 ∉ fs.map (·.1)) (mem : g ∈ fs) :
    lookup g.1 (inner ++ [(f.1, node)]) = lookup g.1 inner := by
  have differs : f.1 ≠ g.1 := fun same => notMem (same ▸ List.mem_map_of_mem (f := (·.1)) mem)
  simp [lookup, List.find?_append, differs]

/-- Lines of keys add their values one after the other. -/
theorem grow_pairs (inner : Fields) (fresh : Fresh frames) {fs : Table}
    (distinct : (fs.map (·.1)).Nodup) (new : ∀ f ∈ fs, lookup f.1 inner = none) :
    (fs.map fun f => Line.pair f.1 f.2).foldlM Line.apply ⟨plug frames inner, pathOf frames⟩ =
      some ⟨plug frames (inner ++ valuesOf fs), pathOf frames⟩ := by
  induction fs generalizing inner with
  | nil => simp [valuesOf]
  | cons f fs ih =>
    obtain ⟨notMem, distinct⟩ := List.nodup_cons.1 distinct
    have added := (fresh.shows inner).add (new f List.mem_cons_self) f.2
    have later := @ih (inner ++ [(f.1, .value f.2)]) distinct fun g mem =>
      (lookup_later notMem mem).trans (new g (List.mem_cons_of_mem _ mem))
    rw [List.map_cons, List.foldlM_cons, Line.apply, added]
    simpa [valuesOf] using later

/-- The blocks of the fields of a table add those that have a heading. If there are none nothing
happens, and then the table need not exist. -/
theorem grow_blocks (fresh : Fresh frames) (shows : Shows root frames inner) {fs : Table}
    (grows : ∀ f ∈ fs, Grows f.2) (distinct : (fs.map (·.1)).Nodup)
    (new : ∀ f ∈ fs, hasHeading f.2 = true → lookup f.1 inner = none) (heading : List String) :
    ∃ nodes root' heading',
      (blocks (pathOf frames) fs).flatten.foldlM Line.apply ⟨root, heading⟩ =
        some ⟨root', heading'⟩ ∧ closeFields nodes = headedFields fs ∧
      (root' = plug frames (inner ++ nodes) ∨ nodes = [] ∧ root' = root) := by
  induction fs generalizing root inner heading with
  | nil => exact ⟨[], root, heading, rfl, rfl, .inr ⟨rfl, rfl⟩⟩
  | cons f fs ih =>
    obtain ⟨notMem, distinct⟩ := List.nodup_cons.1 distinct
    have others := fun g mem => grows g (List.mem_cons_of_mem _ mem)
    rw [blocks, List.flatten_append, List.foldlM_append, headedFields]
    cases headed : hasHeading f.2 with
    | false =>
      rw [block_own headed]
      exact ih shows others distinct (fun g mem => new g (List.mem_cons_of_mem _ mem)) heading
    | true =>
      obtain ⟨node, between, here, closed⟩ := grows f List.mem_cons_self headed fresh shows
        (new f List.mem_cons_self headed) heading
      obtain ⟨nodes, root', heading', later, closedLater, made⟩ :=
        ih (fresh.shows (inner ++ [(f.1, node)])) others distinct
          (fun g mem headed =>
            (lookup_later notMem mem).trans (new g (List.mem_cons_of_mem _ mem) headed)) between
      refine ⟨(f.1, node) :: nodes, root', heading', ?_, ?_, .inl ?_⟩
      · rw [here]
        exact later
      · simp [closeFields, closed, closedLater]
      · rcases made with rfl | ⟨rfl, rfl⟩ <;> simp

/-- The lines of a table that has just been opened add all its fields. -/
theorem grow_body (fresh : Fresh frames) {fields : Table} (grows : ∀ f ∈ fields, Grows f.2)
    (distinct : (fields.map (·.1)).Nodup) :
    ∃ nodes heading', (ownLines fields ++ (blocks (pathOf frames) fields).flatten).foldlM Line.apply
      ⟨plug frames [], pathOf frames⟩ = some ⟨plug frames nodes, heading'⟩ ∧
      closeFields nodes = laidOutFields fields := by
  have sub : (ownFields fields).Sublist fields := List.filter_sublist
  have own := grow_pairs [] fresh (distinct.sublist (sub.map _)) fun _ _ => rfl
  have apart : ∀ f ∈ fields, hasHeading f.2 = true →
      lookup f.1 (valuesOf (ownFields fields)) = none := by
    intro f mem headed
    refine lookup_eq_none.2 fun there => ?_
    obtain ⟨g, here, same⟩ : ∃ g ∈ ownFields fields, g.1 = f.1 := by
      simpa [valuesOf] using there
    obtain rfl := List.inj_on_of_nodup_map distinct (sub.subset here) mem same
    simp [ownFields, headed] at here
  obtain ⟨nodes, root', heading', later, closed, made⟩ :=
    grow_blocks fresh (fresh.shows (valuesOf (ownFields fields))) grows distinct apart
      (pathOf frames)
  refine ⟨valuesOf (ownFields fields) ++ nodes, heading', ?_, ?_⟩
  · rw [List.foldlM_append, ownLines, own]
    refine later.trans ?_
    rcases made with rfl | ⟨rfl, rfl⟩ <;> simp
  · rw [closeFields_eq_map] at closed
    rw [closeFields_eq_map, List.map_append, closed, ← closeFields_eq_map, closeFields_valuesOf,
      laidOutFields]

theorem headedFields_ne_nil {fields : Table} (bare : needsHeading fields = false) :
    headedFields fields ≠ [] := by
  cases fields with
  | nil => cases bare
  | cons f fields =>
    have headed : hasHeading f.2 = true := by simp_all [needsHeading]
    simp [headedFields, headed]

theorem ownFields_eq_nil {fields : Table} (bare : needsHeading fields = false) :
    ownFields fields = [] := by
  simp only [needsHeading, Bool.or_eq_false_iff, List.any_eq_false] at bare
  exact List.filter_eq_nil_iff.2 bare.2

theorem grows_table {fields : Table} (grows : ∀ f ∈ fields, Grows f.2)
    (distinct : (fields.map (·.1)).Nodup) : Grows (.table fields) := by
  intro headed frames root done name fresh shows new heading
  rw [block, List.flatten_append]
  cases needed : needsHeading fields with
  | true =>
    have fresh' : Fresh (frames ++ [.table done name .defined]) := fresh.snoc new
    obtain ⟨nodes, heading', body, closed⟩ := grow_body fresh' grows distinct
    refine ⟨.table .defined nodes, heading', ?_, ?_⟩
    · rw [pathOf_snoc] at body
      rw [if_pos rfl, List.flatten_singleton, List.cons_append, List.foldlM_cons, Line.apply,
        shows.openTable new]
      simpa [plug_snoc, Frame.fill, Frame.name] using body
    · rw [close, closed, laidOut, laidOutFields]
  | false =>
    have fresh' : Fresh (frames ++ [.table done name .passed]) := fresh.snoc new
    obtain ⟨nodes, root', heading', body, closed, made⟩ :=
      grow_blocks fresh' (shows.passed new) grows distinct (fun _ _ _ => rfl) heading
    refine ⟨.table .passed nodes, heading', ?_, ?_⟩
    · rw [pathOf_snoc] at body
      rcases made with rfl | ⟨rfl, -⟩
      · simpa [plug_snoc, Frame.fill, Frame.name] using body
      · exact absurd closed.symm (headedFields_ne_nil needed)
    · rw [close, closed, laidOut, ownFields_eq_nil needed, List.nil_append]

/-- The lines of one table of an array open it and add all its fields. -/
theorem grow_element (fresh : Fresh frames) (new : lookup name done = none) {before : List Fields}
    {t : Table} (grows : ∀ f ∈ t, Grows f.2) (distinct : (t.map (·.1)).Nodup)
    (opened : openElement (pathOf frames) name root =
      some (plug (frames ++ [.element done name before]) [])) (heading : List String) :
    ∃ nodes heading',
      ((.element (pathOf frames) name :: ownLines t) ++
        (blocks (pathOf frames ++ [name]) t).flatten).foldlM Line.apply ⟨root, heading⟩ =
          some ⟨plug (frames ++ [.element done name before]) nodes, heading'⟩ ∧
      closeFields nodes = laidOutFields t := by
  have fresh' : Fresh (frames ++ [.element done name before]) := fresh.snoc new
  obtain ⟨nodes, heading', body, closed⟩ := grow_body fresh' grows distinct
  refine ⟨nodes, heading', ?_, closed⟩
  rw [pathOf_snoc] at body
  rw [List.cons_append, List.foldlM_cons, Line.apply, opened]
  exact body

/-- The lines of the tables of an array add them behind those before. -/
theorem grow_elements (fresh : Fresh frames) (new : lookup name done = none) {before : List Fields}
    {t : Table} {ts : List Table} (grows : ∀ u ∈ t :: ts, ∀ f ∈ u, Grows f.2)
    (distinct : ∀ u ∈ t :: ts, (u.map (·.1)).Nodup)
    (opened : openElement (pathOf frames) name root =
      some (plug (frames ++ [.element done name before]) [])) (heading : List String) :
    ∃ made heading',
      (elements (pathOf frames) name ((t :: ts).map .table)).flatten.foldlM Line.apply
        ⟨root, heading⟩ =
          some ⟨plug frames (done ++ [(name, .tables (before ++ made))]), heading'⟩ ∧
      closeElements made = (t :: ts).map fun u => .table (laidOutFields u) := by
  induction ts generalizing t before root heading with
  | nil =>
    obtain ⟨nodes, heading', here, closed⟩ := grow_element fresh new (grows t List.mem_cons_self)
      (distinct t List.mem_cons_self) opened heading
    refine ⟨[nodes], heading', ?_, ?_⟩
    · rw [plug_snoc] at here
      simpa [elements, Frame.fill] using here
    · simp [closeElements, closed]
  | cons u ts ih =>
    obtain ⟨nodes, between, here, closed⟩ := grow_element fresh new (grows t List.mem_cons_self)
      (distinct t List.mem_cons_self) opened heading
    obtain ⟨made, heading', later, closedLater⟩ :=
      ih (fun w mem => grows w (List.mem_cons_of_mem _ mem))
        (fun w mem => distinct w (List.mem_cons_of_mem _ mem))
        (fresh.openElement before new nodes) between
    refine ⟨nodes :: made, heading', ?_, ?_⟩
    · rw [List.append_assoc, List.singleton_append] at later
      rw [List.map_cons, elements, List.flatten_append, List.foldlM_append, List.flatten_cons, here]
      exact later
    · simp [closeElements, closed, closedLater]

/-- **The lines of every value that can be laid out add it.** -/
theorem Plain.grows {n : Nat} {v : Value} (plain : Plain n v) : Grows v := by
  induction plain with
  | inl inl =>
    intro headed
    rw [hasHeading_inline inl] at headed
    cases headed
  | table distinct plain ih => exact grows_table ih distinct
  | @tables n ts some' distinct plain ih =>
    intro headed frames root done name fresh shows new heading
    obtain ⟨t, ts, rfl⟩ := List.exists_cons_of_ne_nil some'
    obtain ⟨made, heading', lines, closed⟩ :=
      grow_elements fresh new ih distinct (shows.openElement new) heading
    refine ⟨.tables made, heading', ?_, ?_⟩
    · rw [block, if_pos headed]
      exact lines
    · rw [close, closed, laidOut, laidOutItems_tables]

end Growth

/-! ## Whole documents -/

/-- **A document that is written is read back** with its fields as they are laid out. -/
theorem Document.read?_write? {n : Nat} {t : Table} (shallow : n < nestingLimit)
    (distinct : (t.map (·.1)).Nodup) (plain : ∀ f ∈ t, Plain n f.2) :
    Document.write? t = some (Document.write t) ∧
      Document.read? (Document.write t) = some (laidOutFields t) := by
  have none : Fresh [] := fun _ mem => nomatch mem
  obtain ⟨nodes, heading', lines, closed⟩ :=
    grow_body none (fun f mem => (plain f mem).grows) distinct
  have fits : ∀ ls ∈ documentBlocks t, ∀ l ∈ ls, l.Fits := by
    have below : ∀ ls ∈ blocks [] t, ∀ l ∈ ls, l.Fits :=
      fits_blocks fun f mem => (plain f mem).fits (by simpa using shallow)
    intro ls mem
    rcases List.mem_append.1 mem with own | mem
    · split at own
      · cases own
      · obtain rfl := List.mem_singleton.1 own
        exact fits_ownLines plain
    · exact below ls mem
  have applied : (documentBlocks t).flatten.foldlM Line.apply {} = some ⟨nodes, heading'⟩ := by
    have flat : (documentBlocks t).flatten = ownLines t ++ (blocks [] t).flatten := by
      rw [documentBlocks, List.flatten_append]
      split
      · next empty => simp [List.isEmpty_iff.1 empty]
      · simp
    rw [flat]
    exact lines
  have writable : fieldsWritable t = true :=
    fieldsWritable_iff.2 fun f mem => (plain f mem).isWritable
  refine ⟨if_pos writable, ?_⟩
  rw [write_eq, Document.read?_writeLines fits applied, closed]

end Testbed.Toml
