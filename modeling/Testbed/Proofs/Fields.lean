import Testbed.Proofs.NameMaps
import Testbed.Proofs.Shapes

/-!
# What the fields of a record hold

A table says of a field of a record what stands under its key, or that the key is absent and the
field has its default (`Table.Field`). What stands there is related to what the field holds, kind by
kind: `IsText`, `IsNumber` and so on.

**Theorem (`field_of_readFields`).** A field of a record that was read holds what the table says of
it, whatever else the table says, if the other rules leave it alone.

A section that is absent says the same as an empty one (`section_of_readFields`).
-/

namespace Testbed.Toml

variable {σ α β : Type}

/-! ## What a table says -/

namespace Table

/-- The table says of a field what it holds, or else it has its default. -/
def Field (t : Table) (key : String) (R : Value → α → Prop) (default a : α) : Prop :=
  match t.get? key with
  | some v => R v a
  | none => a = default

/-- The table says of a field what it holds. -/
def Given (t : Table) (key : String) (R : Value → α → Prop) (a : α) : Prop :=
  ∃ v, t.get? key = some v ∧ R v a

end Table

/-! ## What a value is -/

/-- The value is a text. -/
def IsText (v : Value) (s : String) : Prop := v = .string s

/-- The value is a truth value. -/
def IsBoolean (v : Value) (b : Bool) : Prop := v = .boolean b

/-- The value is a number. -/
def IsNumber (v : Value) (n : Nat) : Prop := v = .integer n

/-- The value is that of something that may be absent, and is not. -/
def IsSome (R : Value → α → Prop) (v : Value) (o : Option α) : Prop := ∃ a, o = some a ∧ R v a

/-- The value is an array, item by item. -/
def IsArray (R : Value → α → Prop) (v : Value) (as : List α) : Prop :=
  ∃ items, v = .array items ∧ List.Forall₂ R items as

/-- The value is a table. -/
def IsTable (R : Table → α → Prop) (v : Value) (a : α) : Prop := ∃ t, v = .table t ∧ R t a

/-- The map has an entry for each key of a table, and no others. -/
def IsMap (R : Value → α → Prop) (t : Table) (m : NameMap α) : Prop :=
  ∀ key, Option.Rel R (t.get? key) (m.get? key)

/-- The table says of a section what it holds; a section that is absent is empty. -/
def Table.Section (t : Table) (key : String) (R : Table → α → Prop) (a : α) : Prop :=
  match t.get? key with
  | some v => IsTable R v a
  | none => R [] a

/-! ## What readers make of values -/

/-- What a reader makes of a regular value of a shape. -/
def Reader.Means (r : Reader α) (τ : Shape) (R : Value → α → Prop) : Prop :=
  ∀ v a, r v = .ok a → τ.Regular v → R v a

namespace Reader

variable {r : Reader α} {τ : Shape} {R : Value → α → Prop}

@[simp] theorem means_text {wanted : String} : (text wanted).Means .leaf IsText := by
  intro v s read _
  cases v with
  | string s' =>
    cases read
    rfl
  | _ => cases read

@[simp] theorem means_boolean : boolean.Means .leaf IsBoolean := by
  intro v b read _
  cases v with
  | boolean b' =>
    cases read
    rfl
  | _ => cases read

@[simp] theorem means_natural {wanted : String} {bound : Nat} :
    (natural wanted bound).Means .leaf IsNumber := by
  intro v n read _
  cases v with
  | integer k =>
    rw [natural] at read
    split at read
    · next fits =>
      cases read
      rw [IsNumber, Int.toNat_of_nonneg fits.1]
    · cases read
  | _ => cases read

@[simp] theorem Means.present (means : r.Means τ R) : (Reader.present r).Means τ (IsSome R) := by
  intro v o read regular
  obtain ⟨a, given, rfl⟩ := exists_of_map read
  exact ⟨a, rfl, means v a given regular⟩

@[simp] theorem Means.list (means : r.Means τ R) : (Reader.list r).Means (.list τ) (IsArray R) := by
  intro v as read regular
  cases v with
  | array items =>
    have read := forall₂_of_mapM (r := r) read
    have each : ∀ v ∈ items, τ.Regular v := fun v mem => regular.item mem
    have both := (List.forall₂_and_left _ _).2 ⟨each, read⟩
    exact ⟨items, rfl, both.imp fun v a ⟨regular, given⟩ => means v a given regular⟩
  | _ => cases read

theorem means_alternative {known : List (String × α)} :
    (alternative known).Means .choice fun v a => ∃ name, v = .string name ∧ (name, a) ∈ known := by
  intro v a read regular
  cases v with
  | string name =>
    cases here : known.find? fun k => k.1 = name with
    | none => simp [alternative, here] at read
    | some k =>
      simp only [alternative, here, Except.ok.injEq] at read
      have named : k.1 = name := by simpa using List.find?_some here
      exact ⟨name, rfl, named ▸ read ▸ List.mem_of_find?_eq_some here⟩
  | table t => exact absurd rfl (regular.usual t)
  | _ => cases read

/-- Reading an entry of a map leaves the entries of other names alone. -/
theorem get?_named {given : Table} {m m' : NameMap α}
    (read : given.foldlM (fun m e => (r e.2).map (NameMap.insert m e.1)) m = .ok m')
    (key : String) : match given.get? key with
      | some v => ∃ a, m'.get? key = some a ∧ r v = .ok a
      | none => m'.get? key = m.get? key := by
  induction given generalizing m with
  | nil =>
    cases read
    rfl
  | cons e given ih =>
    obtain ⟨name, v⟩ := e
    rw [List.foldlM_cons] at read
    obtain ⟨next, first, read⟩ := exists_of_bind read
    obtain ⟨a, here, rfl⟩ := exists_of_map first
    have later := ih read
    rw [Table.get?]
    cases found : Table.get? given key with
    | some w => simpa [found] using later
    | none =>
      simp only [found, NameMap.get?_insert] at later
      by_cases same : name = key
      · simpa [same] using ⟨a, by simp [later, same], here⟩
      · simpa [same, Ne.symm same] using later

@[simp] theorem Means.named {R : Table → α → Prop} (means : r.Means τ (IsTable R))
    (text : ∀ s a, r (.string s) ≠ .ok a) :
    (Reader.named r).Means (.map τ) (IsTable (IsMap (IsTable R))) := by
  intro v m read regular
  cases v with
  | table given =>
    refine ⟨given, rfl, fun key => ?_⟩
    have said := get?_named (r := r) read key
    cases found : Table.get? given key with
    | none =>
      simp only [found, NameMap.get?_empty] at said
      rw [said]
      exact .none
    | some v =>
      simp only [found] at said
      obtain ⟨a, here, given⟩ := said
      rw [here]
      exact .some (means v a given (regular.entry found))
  | datetime s =>
    -- A date or time would be a map of one entry, with the text of the date.
    obtain ⟨t, t', step⟩ := exists_of_foldlM read _ List.mem_cons_self
    obtain ⟨a, given, -⟩ := exists_of_map step
    exact absurd given (text s a)
  | _ => cases read

@[simp] theorem record_text_ne {wanted text : String} {rules : List (FieldRule σ)} {start s : σ} :
    ¬record wanted rules start (.string text) = .ok s := nofun

theorem means_record {wanted : String} {rules : List (FieldRule σ)} {start : σ}
    {fields : Shape.Fields} {R : Table → σ → Prop}
    (names : ∀ f ∈ rules, f.name ≠ Value.datetimeField)
    (means : ∀ t s, readFields rules start t = .ok s → (Shape.record fields).Regular (.table t) →
      R t s) : (record wanted rules start).Means (.record fields) (IsTable R) := by
  intro v s read regular
  cases v with
  | table t => exact ⟨t, rfl, means t s read regular⟩
  | array items => exact absurd rfl (regular.usual items)
  | datetime text =>
    -- A date or time would be a record of one field.
    obtain ⟨record, fold, -⟩ := exists_of_bind read
    obtain ⟨t, t', step⟩ := exists_of_foldlM fold _ List.mem_cons_self
    obtain ⟨f, -, mem, named, -⟩ := exists_rule_of_readField step
    exact absurd named (names f mem)
  | _ => cases read

end Reader

/-! ## Fields of records -/

/-- Reading the field of the given name gives what its value says; other fields are left alone. -/
def FieldRule.Tells (f : FieldRule σ) (key : String) (τ : Shape) (R : Value → α → Prop)
    (g : σ → α) : Prop :=
  ∀ v s s', f.set v s = .ok s' →
    if f.name = key then τ.Regular v → R v (g s') else g s' = g s

namespace FieldRule

variable {key name : String} {required : Bool} {r : Reader α} {r' : Reader β} {τ : Shape}
  {R : Value → α → Prop} {g : σ → α}

@[simp] theorem tells_own {set : α → σ → σ} (means : r.Means τ R) (own : ∀ a s, g (set a s) = a) :
    Tells ⟨key, required, fun v s => (r v).map fun a => set a s⟩ key τ R g := by
  intro v s s' read
  obtain ⟨a, given, rfl⟩ := exists_of_map read
  rw [if_pos rfl, own]
  exact means v a given

@[simp] theorem tells_other {set : β → σ → σ} (differ : name ≠ key)
    (other : ∀ b s, g (set b s) = g s) :
    Tells ⟨name, required, fun v s => (r' v).map fun b => set b s⟩ key τ R g := by
  intro v s s' read
  obtain ⟨b, -, rfl⟩ := exists_of_map read
  rw [if_neg differ, other]

end FieldRule

variable {rules : List (FieldRule σ)} {start s s' : σ} {t : Table} {key : String}
  {R : Value → α → Prop} {g : σ → α} {fields : Shape.Fields}
  {d : Option Value} {part : Shape}

/-- A field holds what was read last under its key. -/
theorem field_of_fold (tells : ∀ f ∈ rules, f.Tells key part R g)
    (regular : ∀ v, t.get? key = some v → part.Regular v)
    (read : t.foldlM (readField rules) s = .ok s') : t.Field key R (g s) (g s') := by
  induction t generalizing s with
  | nil =>
    cases read
    rfl
  | cons e t ih =>
    obtain ⟨name, v⟩ := e
    rw [List.foldlM_cons] at read
    obtain ⟨next, first, read⟩ := exists_of_bind read
    have later := ih (fun w said => regular w (by simp [Table.get?, said])) read
    obtain ⟨f, -, mem, named, first⟩ := exists_rule_of_readField first
    have told := tells f mem v s next first
    rw [named] at told
    unfold Table.Field at later ⊢
    rw [Table.get?]
    cases here : Table.get? t key with
    | some w => simpa [here] using later
    | none =>
      simp only [here] at later
      by_cases same : name = key
      · subst same
        rw [if_pos rfl] at told
        simpa [later] using told (regular v (by simp [Table.get?, here]))
      · rw [if_neg same] at told
        simpa [same, later] using told

/-- **A field holds what the table says of it.** -/
theorem field_of_readFields (read : readFields rules start t = .ok s)
    (regular : (Shape.record fields).Regular (.table t))
    (known : fields.lookup key = some (d, part)) (tells : ∀ f ∈ rules, f.Tells key part R g) :
    t.Field key R (g start) (g s) := by
  obtain ⟨record, fold, read⟩ := exists_of_bind read
  have same : record = s := by
    split at read
    · cases read
    · exact Except.ok.inj read
  exact same ▸ field_of_fold tells (fun v said => regular.field known said) fold

/-- A section that is absent is an empty one. -/
theorem section_of_readFields {R : Table → α → Prop}
    (read : readFields rules start t = .ok s) (regular : (Shape.record fields).Regular (.table t))
    (known : fields.lookup key = some (d, part))
    (tells : ∀ f ∈ rules, f.Tells key part (IsTable R) g) (absent : R [] (g start)) :
    t.Section key R (g s) := by
  have field := field_of_readFields read regular known tells
  unfold Table.Field at field
  unfold Table.Section
  cases found : t.get? key with
  | none =>
    simp only [found] at field
    exact field ▸ absent
  | some v => simpa [found] using field

/-- A field that must be given is. -/
theorem given_of_readFields (read : readFields rules start t = .ok s)
    (regular : (Shape.record fields).Regular (.table t))
    (known : fields.lookup key = some (d, part)) (tells : ∀ f ∈ rules, f.Tells key part R g)
    (needed : ∃ f ∈ rules, f.name = key ∧ f.required = true) : t.Given key R (g s) := by
  have field := field_of_readFields read regular known tells
  obtain ⟨record, -, read⟩ := exists_of_bind read
  obtain ⟨f, mem, named, required⟩ := needed
  obtain ⟨v, found⟩ : ∃ v, t.get? key = some v := by
    split at read
    · cases read
    · next complete =>
      have given := List.find?_eq_none.1 complete f mem
      simp only [required, named, Bool.true_and, Bool.not_eq_true', Bool.not_eq_false,
        List.any_eq_true, decide_eq_true_eq] at given
      obtain ⟨⟨name, v⟩, mem, rfl⟩ := given
      exact Table.exists_get? mem
  exact ⟨v, found, by simpa [Table.Field, found] using field⟩

end Testbed.Toml
