import Testbed.Proofs.WrittenTables
import Testbed.Toml.Schema

/-!
# Reading records back from tables

A table whose fields are those of a record, each with a value that its rule reads, gives that record
(`Fills.readFields`); the fields may come in another order than the rules, as they do after the
layout has put the tables behind the other keys.

**Records** (`Rows.returns`, `Sections.returns`). A record whose fields all stand on lines of their
own is read back from its table as it is, and one with sections inside if the sections are.

**Other values.** Numbers, lists, maps and alternatives are read back one by one.
-/

namespace Testbed.Toml

open Schema

variable {σ α : Type}

/-! ## Reading a record back -/

/-- The fields of a table are those of a record, in the order of the rules; some that need not be
given are left out. What they hold takes the record from one value to another. -/
inductive Fills : List (FieldRule σ) → σ → Table → σ → Prop
  | done {s : σ} : Fills [] s [] s
  | given {f : FieldRule σ} {rules : List (FieldRule σ)} {s s' t : σ} {v : Value} {fs : Table} :
      f.set v s = .ok s' → Fills rules s' fs t → Fills (f :: rules) s ((f.name, v) :: fs) t
  | absent {f : FieldRule σ} {rules : List (FieldRule σ)} {s t : σ} {fs : Table} :
      f.required = false → Fills rules s fs t → Fills (f :: rules) s fs t

namespace Fills

variable {rules all : List (FieldRule σ)} {s t : σ} {fs : Table}

theorem required (fills : Fills rules s fs t) {f : FieldRule σ} (mem : f ∈ rules)
    (needs : f.required) : ∃ g ∈ fs, g.1 = f.name := by
  induction fills with
  | done => cases mem
  | given _ _ ih =>
    rcases List.mem_cons.1 mem with rfl | mem
    · exact ⟨_, List.mem_cons_self, rfl⟩
    · obtain ⟨g, mem, same⟩ := ih mem
      exact ⟨g, List.mem_cons_of_mem _ mem, same⟩
  | absent free _ ih =>
    rcases List.mem_cons.1 mem with rfl | mem
    · cases free.symm.trans needs
    · exact ih mem

theorem fold (fills : Fills rules s fs t) (distinct : (all.map (·.name)).Nodup)
    (among : ∀ f ∈ rules, f ∈ all) : fs.foldlM (readField all) s = .ok t := by
  induction fills with
  | done => rfl
  | given read _ ih =>
    have found := find?_of_nodup distinct (among _ List.mem_cons_self)
    have later := ih fun f mem => among f (List.mem_cons_of_mem _ mem)
    rw [List.foldlM_cons, readField, found]
    simpa [read, bind, Except.bind] using later
  | absent _ _ ih => exact ih fun f mem => among f (List.mem_cons_of_mem _ mem)

/-- A record is read from a table that fills it. The fields of the table may stand in another order
than the rules. -/
theorem readFields (fills : Fills rules s fs t) (distinct : (all.map (·.name)).Nodup)
    (same : rules.Perm all) : readFields all s fs = .ok t := by
  have folded := fills.fold distinct fun f mem => same.subset mem
  have complete : all.find? (fun f => f.required && !fs.any fun g => g.1 = f.name) = none := by
    refine List.find?_eq_none.2 fun f mem => ?_
    cases needs : f.required with
    | false => simp
    | true => simpa using fills.required (same.symm.subset mem) needs
  simp only [Toml.readFields, folded, bind, Except.bind, complete]

theorem record (fills : Fills rules s fs t) (distinct : (all.map (·.name)).Nodup)
    (same : rules.Perm all) (name : String) : Reader.record name all s (.table fs) = .ok t :=
  fills.readFields distinct same

end Fills

section Rules

variable {rules : List (FieldRule σ)} {s t : σ} {fs : Table} {r : Reader α} {v : Value} {a : α}
  {name : String} {set : α → σ → σ}

theorem Fills.needed (read : r v = .ok a) (later : Fills rules (set a s) fs t) :
    Fills (Toml.needed name r set :: rules) s ((name, v) :: fs) t :=
  .given (f := Toml.needed name r set) (by simp [Toml.needed, read, Except.map]) later

theorem Fills.optional (read : r v = .ok a) (later : Fills rules (set a s) fs t) :
    Fills (Toml.optional name r set :: rules) s ((name, v) :: fs) t :=
  .given (f := Toml.optional name r set) (by simp [Toml.optional, read, Except.map]) later

end Rules

/-! ## Readers -/

theorem natural_integer {wanted : String} {bound n : Nat} (small : n < bound) :
    Reader.natural wanted bound (.integer n) = .ok n := by
  rw [Reader.natural, if_pos ⟨Int.natCast_nonneg n, Int.ofNat_lt.2 small⟩, Int.toNat_natCast]

theorem list_map {r : Reader α} {write : α → Value} {as : List α}
    (read : ∀ a ∈ as, r (write a) = .ok a) : Reader.list r (.array (as.map write)) = .ok as := by
  rw [Reader.list]
  induction as with
  | nil => rfl
  | cons a as ih =>
    have later := ih fun b mem => read b (List.mem_cons_of_mem _ mem)
    rw [List.map_cons, List.mapM_cons, read a List.mem_cons_self, later]
    rfl

/-- The entries of a map, read onto those before them. -/
theorem fold_entries {r : Reader α} {write : α → Value} (read : ∀ a, r (write a) = .ok a)
    {m m' : NameMap α} {l : List (String × α)} (whole : m'.entries = m.entries ++ l) :
    (l.map fun e => (e.1, write e.2)).foldlM (fun m f => (r f.2).map (NameMap.insert m f.1)) m =
      .ok m' := by
  induction l generalizing m with
  | nil =>
    rw [List.append_nil] at whole
    rw [NameMap.ext whole]
    rfl
  | cons e l ih =>
    rw [List.map_cons, List.foldlM_cons, read]
    exact ih (NameMap.entries_insert whole)

/-- A map is read back from a table of its entries. -/
theorem named_entries {r : Reader α} {write : α → Value} (read : ∀ a, r (write a) = .ok a)
    (m : NameMap α) : Reader.named r (.table (m.entries.map fun e => (e.1, write e.2))) = .ok m :=
  fold_entries read (m := .empty) (List.nil_append m.entries).symm

theorem alternative_name {known : List (String × α)} (distinct : (known.map (·.1)).Nodup)
    {k : String × α} (mem : k ∈ known) : Reader.alternative known (.string k.1) = .ok k.2 := by
  have found := find?_of_nodup distinct mem
  simp only [Reader.alternative, found]

/-! ## Tables that are read back -/

variable {n : Nat}

/-- The value can be laid out, and the reader makes this of it as it is read back. -/
structure Returns (n : Nat) (r : Reader α) (v : Value) (a : α) : Prop where
  plain : Plain n v
  read : r (laidOut v) = .ok a

section Records

variable {rules all : List (FieldRule σ)} {s t : σ} {fs : Table} {r : Reader α} {v : Value} {a : α}
  {name : String} {set : α → σ → σ}

theorem Fills.names (fills : Fills rules s fs t) :
    (fs.map (·.1)).Sublist (rules.map (·.name)) := by
  induction fills with
  | done => exact .slnil
  | given _ _ ih => exact ih.cons_cons _
  | absent _ _ ih => exact ih.cons _

theorem Fills.append {others : List (FieldRule σ)} {u : σ} {gs : Table} (fills : Fills rules s fs t)
    (later : Fills others t gs u) : Fills (rules ++ others) s (fs ++ gs) u := by
  induction fills with
  | done => exact later
  | given read _ ih => exact .given read (ih later)
  | absent free _ ih => exact .absent free (ih later)

/-- A record is read back from a table that is laid out in an order that fills it. -/
theorem Fills.returns (fills : Fills rules s (laidOutFields fs) t)
    (distinct : (all.map (·.name)).Nodup) (same : rules.Perm all) (names : (fs.map (·.1)).Nodup)
    (plain : ∀ f ∈ fs, Plain n f.2) (name : String) :
    Returns (n + 1) (.record name all s) (.table fs) t :=
  ⟨.table names plain, by rw [laidOut]; exact fills.record distinct same name⟩

/-- The fields fill a record, and all of them stand on lines of their own. -/
structure Rows (rules : List (FieldRule σ)) (s : σ) (fs : Table) (t : σ) : Prop where
  fills : Fills rules s fs t
  inl : ∀ f ∈ fs, Inline f.2

namespace Rows

theorem done : Rows [] s [] s := ⟨.done, fun _ mem => nomatch mem⟩

theorem optional (later : Rows rules (set a s) fs t) (inl : Inline v) (read : r v = .ok a) :
    Rows (Toml.optional name r set :: rules) s ((name, v) :: fs) t :=
  ⟨.optional read later.fills, List.forall_mem_cons.2 ⟨inl, later.inl⟩⟩

theorem needed (later : Rows rules (set a s) fs t) (inl : Inline v) (read : r v = .ok a) :
    Rows (Toml.needed name r set :: rules) s ((name, v) :: fs) t :=
  ⟨.needed read later.fills, List.forall_mem_cons.2 ⟨inl, later.inl⟩⟩

/-- A record whose fields all stand on lines of their own is read back. -/
theorem returns (rows : Rows rules s fs t) (distinct : (rules.map (·.name)).Nodup)
    (name : String) : Returns (n + 1) (.record name rules s) (.table fs) t := by
  have fills := rows.fills
  rw [← laidOutFields_inline rows.inl] at fills
  exact fills.returns distinct (.refl _) (distinct.sublist rows.fills.names)
    (fun f mem => .inl (rows.inl f mem)) name

end Rows

/-- The fields that have headings of their own fill the rest of a record as they are read back. -/
structure Sections (n : Nat) (rules : List (FieldRule σ)) (s : σ) (fs : Table) (t : σ) : Prop where
  fills : Fills rules s (fs.map fun f => (f.1, laidOut f.2)) t
  plain : ∀ f ∈ fs, Plain n f.2
  headed : ∀ f ∈ fs, hasHeading f.2 = true

namespace Sections

theorem done : Sections n [] s [] s :=
  ⟨.done, (fun _ mem => nomatch mem), fun _ mem => nomatch mem⟩

theorem optional (later : Sections n rules (set a s) fs t) (returns : Returns n r v a)
    (headed : hasHeading v = true) :
    Sections n (Toml.optional name r set :: rules) s ((name, v) :: fs) t :=
  ⟨.optional returns.read later.fills, List.forall_mem_cons.2 ⟨returns.plain, later.plain⟩,
    List.forall_mem_cons.2 ⟨headed, later.headed⟩⟩

/-- A record is read back whose sections are laid out behind its other fields. -/
theorem returns {others : List (FieldRule σ)} {own headed late : Table} {between : σ}
    (sections : Sections n rules between headed t) (rows : Rows others s (own ++ late) between)
    (distinct : (all.map (·.name)).Nodup) (same : (others ++ rules).Perm all)
    (whole : fs = own ++ headed ++ late) (name : String) :
    Returns (n + 1) (.record name all s) (.table fs) t := by
  obtain ⟨early, after⟩ := List.forall_mem_append.1 rows.inl
  have order : laidOutFields fs = (own ++ late) ++ headed.map fun f => (f.1, laidOut f.2) := by
    simp only [whole, laidOutFields, ownFields_append, headedFields_append, ownFields_inline early,
      ownFields_inline after, headedFields_inline early, headedFields_inline after,
      ownFields_headed sections.headed, headedFields_headed sections.headed, List.append_nil,
      List.nil_append]
  have fills := rows.fills.append sections.fills
  have names : (fs.map (·.1)).Nodup := by
    have laid := ((same.map (·.name)).nodup_iff.2 distinct).sublist fills.names
    have perm : fs.Perm (own ++ late ++ headed) := by
      rw [whole, List.append_assoc, List.append_assoc]
      exact List.perm_append_comm.append_left own
    refine (perm.map (·.1)).nodup_iff.2 ?_
    simpa [Function.comp_def] using laid
  have plain : ∀ f ∈ fs, Plain n f.2 := by
    rw [whole]
    exact List.forall_mem_append.2 ⟨List.forall_mem_append.2
      ⟨fun f mem => .inl (early f mem), sections.plain⟩, fun f mem => .inl (after f mem)⟩
  rw [← order] at fills
  exact fills.returns distinct same names plain name

end Sections

end Records

end Testbed.Toml
