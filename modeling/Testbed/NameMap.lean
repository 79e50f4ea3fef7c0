/-!
# Maps kept in name order

`NameMap α` assigns values to finitely many names and keeps its entries in strictly increasing
order of the names, so two maps with the same entries are equal and every listing comes out in
name order. `get?_insert` and `get?_modify` say what the operations do to the look-up.
-/

namespace Testbed

/-- A finite map from names; the entries stand in strictly increasing order of their names. -/
@[ext]
structure NameMap (α : Type) where
  /-- The entries in name order. -/
  entries : List (String × α)
  /-- The names increase strictly. -/
  sorted : entries.Pairwise (fun a b => a.1 < b.1)

namespace NameMap

variable {α β : Type}

instance [DecidableEq α] : DecidableEq (NameMap α) := fun a b =>
  if h : a.entries = b.entries then isTrue (NameMap.ext h)
  else isFalse fun e => h (congrArg entries e)

/-! ## Entry lists -/

/-- Put a value under a name: in place of the entry of that name, or at its place in the order. -/
def insertEntry (name : String) (value : α) : List (String × α) → List (String × α)
  | [] => [(name, value)]
  | (n, v) :: rest =>
    if name < n then (name, value) :: (n, v) :: rest
    else if name = n then (name, value) :: rest
    else (n, v) :: insertEntry name value rest

/-- The value under a name, if there is an entry of that name. -/
def lookupEntry (name : String) : List (String × α) → Option α
  | [] => none
  | (n, v) :: rest => if name = n then some v else lookupEntry name rest

theorem mem_insertEntry {name : String} {value : α} {l : List (String × α)} {p : String × α}
    (h : p ∈ insertEntry name value l) : p = (name, value) ∨ p ∈ l := by
  induction l with
  | nil => simpa [insertEntry] using h
  | cons e rest ih =>
    obtain ⟨n, v⟩ := e
    simp only [insertEntry] at h
    split at h
    · simpa using h
    · split at h
      · rcases List.mem_cons.1 h with h | h
        · exact Or.inl h
        · exact Or.inr (List.mem_cons_of_mem _ h)
      · rcases List.mem_cons.1 h with h | h
        · exact Or.inr (h ▸ List.mem_cons_self)
        · rcases ih h with h | h
          · exact Or.inl h
          · exact Or.inr (List.mem_cons_of_mem _ h)

theorem sorted_insertEntry (name : String) (value : α) {l : List (String × α)}
    (h : l.Pairwise (fun a b => a.1 < b.1)) :
    (insertEntry name value l).Pairwise (fun a b => a.1 < b.1) := by
  induction l with
  | nil => simp [insertEntry]
  | cons e rest ih =>
    obtain ⟨n, v⟩ := e
    rw [List.pairwise_cons] at h
    simp only [insertEntry]
    split
    · rename_i hlt
      refine List.pairwise_cons.2 ⟨fun p hp => ?_, List.pairwise_cons.2 h⟩
      rcases List.mem_cons.1 hp with rfl | hp
      · exact hlt
      · exact String.lt_trans hlt (h.1 p hp)
    · split
      · rename_i heq
        subst heq
        exact List.pairwise_cons.2 ⟨h.1, h.2⟩
      · rename_i hlt hne
        refine List.pairwise_cons.2 ⟨fun p hp => ?_, ih h.2⟩
        rcases mem_insertEntry hp with rfl | hp
        · show n < name
          grind
        · exact h.1 p hp

theorem lookupEntry_insertEntry (name other : String) (value : α) (l : List (String × α)) :
    lookupEntry other (insertEntry name value l) =
      if other = name then some value else lookupEntry other l := by
  induction l with
  | nil => simp [insertEntry, lookupEntry]
  | cons e rest ih =>
    obtain ⟨n, v⟩ := e
    simp only [insertEntry]
    split
    · simp [lookupEntry]
    · split <;> grind [lookupEntry]

/-! ## Maps -/

/-- The map without entries. -/
def empty : NameMap α := ⟨[], .nil⟩

instance : EmptyCollection (NameMap α) := ⟨empty⟩

instance : Inhabited (NameMap α) := ⟨empty⟩

/-- Put a value under a name. -/
def insert (m : NameMap α) (name : String) (value : α) : NameMap α :=
  ⟨insertEntry name value m.entries, sorted_insertEntry name value m.sorted⟩

/-- The value under a name. -/
def get? (m : NameMap α) (name : String) : Option α := lookupEntry name m.entries

/-- Whether there is an entry of that name. -/
def contains (m : NameMap α) (name : String) : Bool := (m.get? name).isSome

/-- Change the entry of a name, starting from `fresh` where there is none. -/
def modify (m : NameMap α) (name : String) (fresh : α) (f : α → α) : NameMap α :=
  m.insert name (f ((m.get? name).getD fresh))

/-- Change every value and keep the names. -/
def map (m : NameMap α) (f : α → β) : NameMap β :=
  ⟨m.entries.map fun e => (e.1, f e.2), List.pairwise_map.2 m.sorted⟩

/-- The map with the given entries; of two entries of one name the later counts. -/
def ofList (l : List (String × α)) : NameMap α :=
  l.foldl (fun m e => m.insert e.1 e.2) empty

/-- Whether there is no entry. -/
def isEmpty (m : NameMap α) : Bool := m.entries.isEmpty

/-- The values in name order. -/
def values (m : NameMap α) : List α := m.entries.map (·.2)

@[simp] theorem get?_empty (name : String) : (empty : NameMap α).get? name = none := rfl

@[simp] theorem get?_insert (m : NameMap α) (name other : String) (value : α) :
    (m.insert name value).get? other = if other = name then some value else m.get? other :=
  lookupEntry_insertEntry name other value m.entries

@[simp] theorem get?_modify (m : NameMap α) (name other : String) (fresh : α) (f : α → α) :
    (m.modify name fresh f).get? other =
      if other = name then some (f ((m.get? name).getD fresh)) else m.get? other := by
  simp [modify]

end NameMap

end Testbed
