import Testbed.Proofs.WrittenLines

/-!
# The layout of a document

A table is laid out as its own keys first and then its tables, each under a heading
(`documentBlocks`, which `write_eq` proves to be what is written). So it is read back with its
fields in that order (`laidOutFields`).

`Plain` documents are those of which every line can be read (`Plain.fits`): names are distinct, what
has no heading stands on the line of its key, and no path is longer than a key may be.
-/

namespace Testbed.Toml

/-! ## Lines and blocks -/

/-- The fields of a table that have no heading. -/
def ownFields (fields : Table) : Table := fields.filter fun f => !hasHeading f.2

/-- The lines of these fields. -/
def ownLines (fields : Table) : List Line := (ownFields fields).map fun f => .pair f.1 f.2

mutual

/-- The blocks that the fields of the table at `path` have headings for. -/
def blocks (path : List String) : List (String × Value) → List (List Line)
  | [] => []
  | (name, v) :: rest => block path name v ++ blocks path rest

/-- The blocks of one field. -/
def block (path : List String) (name : String) : Value → List (List Line)
  | .table fields =>
    (if needsHeading fields then [.table path name :: ownLines fields] else [])
      ++ blocks (path ++ [name]) fields
  | .array items => if hasHeading (.array items) then elements path name items else []
  | _ => []

/-- The blocks of tables under one repeated heading. -/
def elements (path : List String) (name : String) : List Value → List (List Line)
  | [] => []
  | .table fields :: rest =>
    ((.element path name :: ownLines fields) :: blocks (path ++ [name]) fields)
      ++ elements path name rest
  | _ :: rest => elements path name rest

end

/-- The blocks of a whole document. -/
def documentBlocks (t : Table) : List (List Line) :=
  (if (ownLines t).isEmpty then [] else [ownLines t]) ++ blocks [] t

theorem blockText_ownLines (fields : Table) : blockText (ownLines fields) = writeOwn fields := by
  simp [blockText, ownLines, ownFields, writeOwn, Line.text, Function.comp_def]

mutual

theorem writeBlocks_eq (path : List String) (fields : List (String × Value)) :
    writeBlocks path fields = (blocks path fields).map blockText := by
  match fields with
  | [] => rfl
  | (name, v) :: rest =>
    rw [writeBlocks, blocks, List.map_append, writeBlock_eq path name v, writeBlocks_eq path rest]

theorem writeBlock_eq (path : List String) (name : String) (v : Value) :
    writeBlock (path ++ [name]) v = (block path name v).map blockText := by
  match v with
  | .table fields =>
    rw [writeBlock, block, List.map_append, writeBlocks_eq (path ++ [name]) fields]
    split <;> simp [blockText, ← blockText_ownLines, Line.text]
  | .array items =>
    rw [writeBlock, block]
    split
    · exact writeElements_eq path name items
    · rfl
  | .string _ | .integer _ | .float _ | .boolean _ | .datetime _ => rfl

theorem writeElements_eq (path : List String) (name : String) (items : List Value) :
    writeElements (path ++ [name]) items = (elements path name items).map blockText := by
  match items with
  | [] => rfl
  | .table fields :: rest =>
    rw [writeElements, elements, List.map_append, List.map_cons,
      writeBlocks_eq (path ++ [name]) fields, writeElements_eq path name rest]
    simp [blockText, ← blockText_ownLines, Line.text]
  | .array _ :: rest | .string _ :: rest | .integer _ :: rest | .float _ :: rest
  | .boolean _ :: rest | .datetime _ :: rest =>
    exact writeElements_eq path name rest

end

theorem isEmpty_writeOwn (fields : Table) :
    (writeOwn fields).isEmpty = (ownLines fields).isEmpty := by
  rw [← blockText_ownLines]
  cases ownLines fields with
  | nil => rfl
  | cons l ls =>
    obtain ⟨c, cs, chars, -⟩ := l.starts (blockText ls).toList
    have written : (blockText (l :: ls)).toList = c :: cs := by simpa [blockText] using chars
    have some' : blockText (l :: ls) ≠ "" := fun same => by simp [same] at written
    simpa using some'

theorem write_eq (t : Table) : Document.write t = writeLines (documentBlocks t) := by
  rw [Document.write, isEmpty_writeOwn, writeBlocks_eq, writeLines, documentBlocks, List.map_append]
  split <;> simp [blockText_ownLines]

/-! ## The table that is read back -/

mutual

/-- The value with its fields in the order in which they are laid out: those without a heading come
first. -/
def laidOut : Value → Value
  | .table fields => .table (ownFields fields ++ headedFields fields)
  | .array items => .array (laidOutItems items)
  | v => v

/-- The fields that have headings of their own. -/
def headedFields : List (String × Value) → Table
  | [] => []
  | (name, v) :: rest =>
    if hasHeading v then (name, laidOut v) :: headedFields rest else headedFields rest

/-- The items of an array, each laid out. -/
def laidOutItems : List Value → List Value
  | [] => []
  | v :: rest => laidOut v :: laidOutItems rest

end

/-- The fields of a document in the order in which they are laid out. -/
def laidOutFields (fields : Table) : Table := ownFields fields ++ headedFields fields

theorem laidOutItems_tables (ts : List Table) :
    laidOutItems (ts.map .table) = ts.map fun t => .table (laidOutFields t) := by
  induction ts with
  | nil => rfl
  | cons t ts ih => simp [laidOutItems, laidOut, laidOutFields, ih]

theorem hasHeading_inline {v : Value} (inl : Inline v) : hasHeading v = false := by
  cases inl with
  | scalar scalar => cases scalar <;> rfl
  | @array items scalars =>
    cases items with
    | nil => rfl
    | cons v items =>
      have scalar := scalars v List.mem_cons_self
      cases scalar <;> simp [hasHeading]

theorem ownFields_append (fs gs : Table) : ownFields (fs ++ gs) = ownFields fs ++ ownFields gs :=
  List.filter_append fs gs

theorem headedFields_append (fs gs : Table) :
    headedFields (fs ++ gs) = headedFields fs ++ headedFields gs := by
  induction fs with
  | nil => rfl
  | cons f fs ih =>
    rw [List.cons_append, headedFields, headedFields, ih]
    split <;> rfl

theorem ownFields_inline {fs : Table} (inl : ∀ f ∈ fs, Inline f.2) : ownFields fs = fs :=
  List.filter_eq_self.2 fun f mem => by simp [hasHeading_inline (inl f mem)]

theorem headedFields_inline {fs : Table} (inl : ∀ f ∈ fs, Inline f.2) : headedFields fs = [] := by
  induction fs with
  | nil => rfl
  | cons f fs ih =>
    obtain ⟨here, later⟩ := List.forall_mem_cons.1 inl
    rw [headedFields, hasHeading_inline here, if_neg Bool.false_ne_true, ih later]

theorem laidOutFields_inline {fs : Table} (inl : ∀ f ∈ fs, Inline f.2) : laidOutFields fs = fs := by
  rw [laidOutFields, ownFields_inline inl, headedFields_inline inl, List.append_nil]

theorem ownFields_headed {fs : Table} (headed : ∀ f ∈ fs, hasHeading f.2 = true) :
    ownFields fs = [] :=
  List.filter_eq_nil_iff.2 fun f mem => by simp [headed f mem]

theorem headedFields_headed {fs : Table} (headed : ∀ f ∈ fs, hasHeading f.2 = true) :
    headedFields fs = fs.map fun f => (f.1, laidOut f.2) := by
  induction fs with
  | nil => rfl
  | cons f fs ih =>
    obtain ⟨here, later⟩ := List.forall_mem_cons.1 headed
    rw [headedFields, if_pos here, ih later, List.map_cons]

/-! ## Documents that can be laid out -/

/-- The documents that can be laid out: tables of distinct names with values that stand on the line
of their key, nested at most to the given depth. -/
inductive Plain : Nat → Value → Prop
  | inl {n : Nat} {v : Value} (inl : Inline v) : Plain n v
  | table {n : Nat} {fields : Table} (distinct : (fields.map (·.1)).Nodup)
      (plain : ∀ f ∈ fields, Plain n f.2) : Plain (n + 1) (.table fields)
  | tables {n : Nat} {ts : List Table} (some' : ts ≠ [])
      (distinct : ∀ t ∈ ts, (t.map (·.1)).Nodup) (plain : ∀ t ∈ ts, ∀ f ∈ t, Plain n f.2) :
      Plain (n + 1) (.array (ts.map .table))

theorem Plain.inline_of_own {n : Nat} {v : Value} (plain : Plain n v) (own : hasHeading v = false) :
    Inline v := by
  cases plain with
  | inl inl => exact inl
  | table => cases own
  | tables some' => simp [hasHeading, some'] at own

theorem Scalar.isWritable {v : Value} (scalar : Scalar v) : isWritable v = true := by
  cases scalar with
  | @integer n small =>
    rw [Toml.isWritable, decide_eq_true_eq]
    exact ⟨Int.neg_natCast_le_natCast _ n, Int.ofNat_lt.2 small⟩
  | _ => rfl

theorem Plain.isWritable {n : Nat} {v : Value} (plain : Plain n v) : isWritable v = true := by
  induction plain with
  | inl inl =>
    cases inl with
    | scalar scalar => exact scalar.isWritable
    | array scalars => exact itemsWritable_iff.2 fun v mem => (scalars v mem).isWritable
  | table distinct plain ih => exact fieldsWritable_iff.2 ih
  | tables some' distinct plain ih =>
    exact itemsWritable_iff.2 (List.forall_mem_map.2 fun t mem => fieldsWritable_iff.2 (ih t mem))

/-! ## Every line can be read -/

theorem block_own {path : List String} {name : String} {v : Value} (own : hasHeading v = false) :
    block path name v = [] := by
  cases v with
  | table fields => cases own
  | array items => simp [block, own]
  | _ => rfl

theorem fits_ownLines {n : Nat} {fields : Table} (plain : ∀ f ∈ fields, Plain n f.2) :
    ∀ l ∈ ownLines fields, l.Fits := by
  intro l mem
  simp only [ownLines, ownFields, List.mem_map, List.mem_filter, Bool.not_eq_true'] at mem
  obtain ⟨f, ⟨mem, own⟩, rfl⟩ := mem
  exact (plain f mem).inline_of_own own

theorem fits_blocks {path : List String} {fields : Table}
    (fits : ∀ f ∈ fields, ∀ ls ∈ block path f.1 f.2, ∀ l ∈ ls, l.Fits) :
    ∀ ls ∈ blocks path fields, ∀ l ∈ ls, l.Fits := by
  induction fields with
  | nil => simp [blocks]
  | cons f fields ih =>
    intro ls mem
    rw [blocks] at mem
    rcases List.mem_append.1 mem with here | later
    · exact fits f List.mem_cons_self ls here
    · exact ih (fun g mem => fits g (List.mem_cons_of_mem _ mem)) ls later

theorem fits_elements {path : List String} {name : String} {ts : List Table}
    (short : path.length + 1 < nestingLimit)
    (own : ∀ t ∈ ts, ∀ l ∈ ownLines t, l.Fits)
    (fits : ∀ t ∈ ts, ∀ ls ∈ blocks (path ++ [name]) t, ∀ l ∈ ls, l.Fits) :
    ∀ ls ∈ elements path name (ts.map .table), ∀ l ∈ ls, l.Fits := by
  induction ts with
  | nil => simp [elements]
  | cons t ts ih =>
    have later := ih (fun u mem => own u (List.mem_cons_of_mem _ mem))
      fun u mem => fits u (List.mem_cons_of_mem _ mem)
    intro ls mem
    rw [List.map_cons, elements] at mem
    rcases List.mem_append.1 mem with here | mem
    · rcases List.mem_cons.1 here with rfl | inside
      · exact List.forall_mem_cons.2 ⟨short, own t List.mem_cons_self⟩
      · exact fits t List.mem_cons_self ls inside
    · exact later ls mem

theorem Plain.fits {n : Nat} {v : Value} (plain : Plain n v) {path : List String} {name : String}
    (deep : path.length + n < nestingLimit) : ∀ ls ∈ block path name v, ∀ l ∈ ls, l.Fits := by
  induction plain generalizing path name with
  | inl inl => simp [block_own (hasHeading_inline inl)]
  | @table n fields distinct plain ih =>
    have inside : ∀ ls ∈ blocks (path ++ [name]) fields, ∀ l ∈ ls, l.Fits :=
      fits_blocks fun f mem => ih f mem (by simp; omega)
    intro ls mem
    rw [block] at mem
    rcases List.mem_append.1 mem with heading | mem
    · split at heading
      · obtain rfl := List.mem_singleton.1 heading
        have short : path.length + 1 < nestingLimit := by omega
        exact List.forall_mem_cons.2 ⟨short, fits_ownLines plain⟩
      · cases heading
    · exact inside ls mem
  | @tables n ts some' distinct plain ih =>
    intro ls mem
    rw [block] at mem
    split at mem
    · refine fits_elements (by omega) (fun t mem => fits_ownLines (plain t mem)) (fun t here => ?_)
        ls mem
      exact fits_blocks fun f mem => ih t here f mem (by simp; omega)
    · cases mem

end Testbed.Toml
