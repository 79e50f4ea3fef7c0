import Mathlib.Data.List.Find
import Mathlib.Data.List.Forall2
import Mathlib.Data.List.Pairwise
import Mathlib.Logic.Relation
import Testbed.Proofs.Results
import Testbed.Toml.Schema

/-!
# Shapes of documents

A shape says which keys a value can have, at every depth, and which values its keys have where they
are absent. A value is walked along a path (`Value.At`), and so is a shape (`Shape.at?`).

**Theorem (`Reader.Follows.record`).** A reader of records follows a shape if the rules of its
fields do and leave each other's fields alone.

A reader that follows a shape accepts nothing that has a part where the shape has none
(`Reader.Follows.knows`), and a field that spells out its default makes no difference to it
(`Reader.Follows.spare`). The first holds of values that are written as one would expect, a record
as a table and an alternative by its name, since a record can also be given as an array, which has
no keys.
-/

namespace Testbed.Toml

/-! ## Tables -/

namespace Table

/-- What stands under a key. A document has each key once; if it had one twice, the later entry
would count. -/
def get? : Table → String → Option Value
  | [], _ => none
  | (name, v) :: t, key => (get? t key).or (if name = key then some v else none)

variable {t : Table} {key : String} {v : Value}

theorem mem_of_get? (found : t.get? key = some v) : (key, v) ∈ t := by
  induction t with
  | nil => cases found
  | cons e t ih =>
    simp only [get?, Option.or_eq_some_iff, Option.ite_none_right_eq_some, Option.some.injEq]
      at found
    rcases found with later | ⟨-, rfl, rfl⟩
    · exact List.mem_cons_of_mem _ (ih later)
    · exact List.mem_cons_self

theorem exists_get? (mem : (key, v) ∈ t) : ∃ w, t.get? key = some w := by
  induction t with
  | nil => cases mem
  | cons e t ih =>
    rcases List.mem_cons.1 mem with rfl | mem
    · cases later : get? t key with
      | none => exact ⟨v, by simp [get?, later]⟩
      | some w => exact ⟨w, by simp [get?, later]⟩
    · obtain ⟨w, later⟩ := ih mem
      exact ⟨w, by simp [get?, later]⟩

end Table

/-! ## Parts of values -/

/-- A step from a value to a part of it. -/
inductive Step
  | key (name : String)
  | item
  deriving DecidableEq

/-- What stands in a value at the end of a path. -/
inductive Value.At : Value → List Step → Value → Prop
  | here {v : Value} : At v [] v
  | key {fields : Table} {name : String} {v w : Value} {p : List Step} :
      fields.get? name = some v → At v p w → At (.table fields) (.key name :: p) w
  | item {items : List Value} {v w : Value} {p : List Step} :
      v ∈ items → At v p w → At (.array items) (.item :: p) w

/-! ## Shapes -/

/-- What is known of the values that a reader takes. -/
inductive Shape
  /-- A value without parts. -/
  | leaf
  /-- One of several alternatives. -/
  | choice
  /-- A record. For each of its fields there is the default, if a document can spell it out. -/
  | record (fields : List (String × Option Value × Shape))
  | list (item : Shape)
  /-- Values under names that are free. -/
  | map (value : Shape)

namespace Shape

/-- The fields of a record: their names, their defaults and their shapes. -/
abbrev Fields := List (String × Option Value × Shape)

/-- The shape of a part. -/
def step? : Shape → Step → Option Shape
  | record fields, .key name => (fields.lookup name).map (·.2)
  | list item, .item => some item
  | map value, .key _ => some value
  | _, _ => none

/-- The shape of what stands at the end of a path. -/
def at? (τ : Shape) : List Step → Option Shape
  | [] => some τ
  | s :: p => (τ.step? s).bind fun part => part.at? p

/-- The value is not written in one of the unusual ways: a record as the array of its fields, an
alternative as a table. -/
def Usual : Shape → Value → Prop
  | record _, v => ∀ items, v ≠ .array items
  | choice, v => ∀ fields, v ≠ .table fields
  | _, _ => True

/-- Nothing in the value is written in an unusual way. -/
def Regular (τ : Shape) (v : Value) : Prop :=
  ∀ p w, v.At p w → ∀ part, τ.at? p = some part → part.Usual w

/-- The second value is the first without a field that spells out its default. -/
inductive Spare : Shape → Value → Value → Prop
  | drop {fields : Shape.Fields} {name : String} {d : Value} {part : Shape}
      {before after : Table} : fields.lookup name = some (some d, part) →
      (∀ e ∈ before, e.1 ≠ name) →
      Spare (record fields) (.table (before ++ (name, d) :: after)) (.table (before ++ after))
  | field {fields : Shape.Fields} {name : String} {d : Option Value} {part : Shape}
      {before after : Table} {v w : Value} : fields.lookup name = some (d, part) →
      Spare part v w → Spare (record fields) (.table (before ++ (name, v) :: after))
        (.table (before ++ (name, w) :: after))
  | item {part : Shape} {before after : List Value} {v w : Value} : Spare part v w →
      Spare (list part) (.array (before ++ v :: after)) (.array (before ++ w :: after))
  | entry {part : Shape} {name : String} {before after : Table} {v w : Value} : Spare part v w →
      Spare (map part) (.table (before ++ (name, v) :: after))
        (.table (before ++ (name, w) :: after))

end Shape

variable {σ α β : Type} {τ part : Shape} {v w : Value} {p : List Step} {name : String}

namespace Shape

theorem Regular.usual (regular : τ.Regular v) : τ.Usual v := regular [] v .here τ rfl

theorem Regular.field {fields : Shape.Fields} {d : Option Value} {given : Table}
    (regular : (record fields).Regular (.table given))
    (known : fields.lookup name = some (d, part)) (said : given.get? name = some v) :
    part.Regular v := by
  intro p w stands sub reached
  refine regular (.key name :: p) w (.key said stands) sub ?_
  simp [at?, step?, known, reached]

theorem Regular.item {items : List Value} (regular : (list τ).Regular (.array items))
    (mem : v ∈ items) : τ.Regular v :=
  fun p w stands sub reached => regular (.item :: p) w (.item mem stands) sub reached

theorem Regular.entry {given : Table} (regular : (map τ).Regular (.table given))
    (said : given.get? name = some v) : τ.Regular v :=
  fun p w stands sub reached => regular (.key name :: p) w (.key said stands) sub reached

theorem Regular.scalar (table : ∀ t, v ≠ .table t) (array : ∀ items, v ≠ .array items) :
    τ.Regular v := by
  intro p w stands part reached
  cases stands with
  | key => exact absurd rfl (table _)
  | item => exact absurd rfl (array _)
  | here =>
    cases reached
    cases τ with
    | record => exact array
    | choice => exact table
    | leaf | list | map => trivial

theorem Regular.of_fields {given : Table} (usual : τ.Usual (.table given))
    (fields : ∀ e ∈ given, ∀ part, τ.step? (.key e.1) = some part → part.Regular e.2) :
    τ.Regular (.table given) := by
  intro p w stands part reached
  cases stands with
  | here =>
    cases reached
    exact usual
  | @key _ name v _ p said stands =>
    obtain ⟨sub, step, later⟩ := Option.bind_eq_some_iff.1 reached
    exact fields (name, v) (Table.mem_of_get? said) sub step p w stands part later

/-- A section is spare if it spells out defaults only. -/
theorem spare_section {fields sub : Shape.Fields} (before : Table) {after u : Table}
    (known : fields.lookup name = some (some (.table []), record sub))
    (others : ∀ e ∈ before, e.1 ≠ name)
    (defaults : ∀ e ∈ u, ∃ part, sub.lookup e.1 = some (some e.2, part)) :
    Relation.EqvGen (Spare (record fields)) (.table (before ++ (name, .table u) :: after))
      (.table (before ++ after)) := by
  induction u with
  | nil => exact .rel _ _ (.drop known others)
  | cons e u ih =>
    obtain ⟨⟨part, first⟩, defaults⟩ := List.forall_mem_cons.1 defaults
    have front : ∀ e' ∈ ([] : Table), e'.1 ≠ e.1 := nofun
    have shorter : Spare (record sub) (.table (e :: u)) (.table u) := .drop first front
    exact .trans _ _ _ (.rel _ _ (.field known shorter)) (ih defaults)

end Shape

/-! ## Readers -/

/-- A reader takes values of a shape only, and a spare field makes no difference to it. -/
structure Reader.Follows (r : Reader α) (τ : Shape) : Prop where
  knows : ∀ v a, r v = .ok a → τ.Regular v → ∀ p w, v.At p w → (τ.at? p).isSome = true
  spare : ∀ v w, τ.Spare v w → r v = r w

/-- The rule of a field follows a field of a shape. The record that reading starts from has the
default. -/
structure FieldRule.Follows (start : σ) (f : FieldRule σ) (field : String × Option Value × Shape) :
    Prop where
  name : f.name = field.1
  knows : ∀ v s s', f.set v s = .ok s' → field.2.2.Regular v → ∀ p w, v.At p w →
    (field.2.2.at? p).isSome = true
  spare : ∀ v w, field.2.2.Spare v w → f.set v = f.set w
  default : ∀ d ∈ field.2.1, f.required = false ∧ f.set d start = .ok start

/-- Reading one field leaves it alone that another has what is read into it. -/
def FieldRule.KeptBy (f g : FieldRule σ) : Prop :=
  ∀ d v s s', f.set d s = .ok s → g.set v s = .ok s' → f.set d s' = .ok s'

/-- Rules of different fields that leave each other's fields alone. -/
structure FieldRule.Apart (f g : FieldRule σ) : Prop where
  name : f.name ≠ g.name
  left : f.KeptBy g
  right : g.KeptBy f

namespace FieldRule

variable {start : σ} {r : Reader α} {r' : Reader β} {set : α → σ → σ} {set' : β → σ → σ}
  {d : Option Value} {name' : String}

theorem Follows.of_reader {required : Bool} (follows : r.Follows τ)
    (default : ∀ v ∈ d, required = false ∧ ((r v).map fun a => set a start) = .ok start) :
    Follows start ⟨name, required, fun v s => (r v).map fun a => set a s⟩ (name, d, τ) where
  name := rfl
  knows v s s' read := by
    obtain ⟨a, given, -⟩ := exists_of_map read
    exact follows.knows v a given
  spare v w spare := by simp only [follows.spare v w spare]
  default := default

theorem Follows.optional {d : Value} (follows : r.Follows τ)
    (default : ((r d).map fun a => set a start) = .ok start) :
    Follows start (Toml.optional name r set) (name, some d, τ) :=
  .of_reader follows (forall_mem_some ⟨rfl, default⟩)

/-- A field with a default that no document can spell out. -/
theorem Follows.bare (follows : r.Follows τ) :
    Follows start (Toml.optional name r set) (name, none, τ) :=
  .of_reader follows nofun

theorem Follows.needed (follows : r.Follows τ) :
    Follows start (Toml.needed name r set) (name, none, τ) :=
  .of_reader follows nofun

theorem Apart.symm {f g : FieldRule σ} (apart : f.Apart g) : g.Apart f :=
  ⟨apart.name.symm, apart.right, apart.left⟩

/-- Rules that stand apart can be told by their names. -/
theorem eq_or_apart {rules : List (FieldRule σ)} (apart : rules.Pairwise Apart) {f g : FieldRule σ}
    (first : f ∈ rules) (second : g ∈ rules) : f = g ∨ f.Apart g := by
  have symm : Std.Symm (Apart (σ := σ)) := ⟨fun _ _ => Apart.symm⟩
  exact or_iff_not_imp_left.2 fun differ => apart.forall first second differ

theorem keptBy_of_comm {required required' : Bool}
    (comm : ∀ a b s, set a (set' b s) = set' b (set a s)) :
    KeptBy ⟨name, required, fun v s => (r v).map fun a => set a s⟩
      ⟨name', required', fun v s => (r' v).map fun b => set' b s⟩ := by
  intro d v s s' kept read
  obtain ⟨a, given, same⟩ := exists_of_map kept
  obtain ⟨b, -, rfl⟩ := exists_of_map read
  simp only [given, Except.map, comm, same]

/-- Fields of different names that can be set in any order. -/
theorem apart_of_comm {required required' : Bool} (differ : name ≠ name')
    (comm : ∀ a b s, set a (set' b s) = set' b (set a s)) :
    Apart ⟨name, required, fun v s => (r v).map fun a => set a s⟩
      ⟨name', required', fun v s => (r' v).map fun b => set' b s⟩ :=
  ⟨differ, keptBy_of_comm comm, keptBy_of_comm fun b a s => (comm a b s).symm⟩

end FieldRule

namespace Reader

variable {r : Reader α}

/-- Fields that spell out defaults make no difference to a reader, however many there are. -/
theorem Follows.eqvGen (follows : r.Follows τ) (same : Relation.EqvGen τ.Spare v w) :
    r v = r w := by
  induction same with
  | rel v w spare => exact follows.spare v w spare
  | refl v => rfl
  | symm v w _ ih => exact ih.symm
  | trans u v w _ _ ih ih' => exact ih.trans ih'

theorem Follows.leaf (table : ∀ fields a, r (.table fields) ≠ .ok a)
    (array : ∀ items a, r (.array items) ≠ .ok a) : r.Follows .leaf where
  knows v a read _ p w stands := by
    cases stands with
    | here => rfl
    | key => exact absurd read (table _ a)
    | item => exact absurd read (array _ a)
  spare := nofun

theorem follows_text {wanted : String} : (text wanted).Follows .leaf := .leaf nofun nofun

theorem follows_boolean : boolean.Follows .leaf := .leaf nofun nofun

theorem follows_natural {wanted : String} {bound : Nat} : (natural wanted bound).Follows .leaf :=
  .leaf nofun nofun

theorem follows_alternative {known : List (String × α)} : (alternative known).Follows .choice where
  knows v a read regular p w stands := by
    cases stands with
    | here => rfl
    | key => exact absurd rfl (regular.usual _)
    | item => cases read
  spare := nofun

theorem Follows.present (follows : r.Follows τ) : (Reader.present r).Follows τ where
  knows v o read := by
    obtain ⟨a, given, -⟩ := exists_of_map read
    exact follows.knows v a given
  spare v w spare := by rw [Reader.present, Reader.present, follows.spare v w spare]

theorem forall₂_of_mapM {items : List Value} {as : List α} (read : items.mapM r = .ok as) :
    List.Forall₂ (fun v a => r v = .ok a) items as := by
  induction items generalizing as with
  | nil =>
    cases read
    exact .nil
  | cons v items ih =>
    rw [List.mapM_cons] at read
    obtain ⟨a, first, read⟩ := exists_of_bind read
    obtain ⟨as, rest, read⟩ := exists_of_bind read
    cases read
    exact .cons first (ih rest)

theorem exists_of_mapM {items : List Value} {as : List α} (read : items.mapM r = .ok as) :
    ∀ v ∈ items, ∃ a, r v = .ok a := by
  have each := forall₂_of_mapM read
  clear read
  induction each with
  | nil => nofun
  | cons first _ ih => exact List.forall_mem_cons.2 ⟨⟨_, first⟩, ih⟩

theorem Follows.list (follows : r.Follows τ) : (Reader.list r).Follows (.list τ) where
  knows v as read regular p w stands := by
    cases stands with
    | here => rfl
    | key => cases read
    | item mem stands =>
      obtain ⟨a, given⟩ := exists_of_mapM (r := r) read _ mem
      exact follows.knows _ a given (regular.item mem) _ w stands
  spare v w spare := by
    cases spare with
    | item spare =>
      simp only [Reader.list, List.mapM_append, List.mapM_cons, follows.spare _ _ spare]

/-- What is read in several steps was read in each of them. -/
theorem exists_of_foldlM {ε γ δ : Type} {f : δ → γ → Except ε δ} {l : List γ} {s s' : δ}
    (read : l.foldlM f s = .ok s') : ∀ x ∈ l, ∃ t t', f t x = .ok t' := by
  induction l generalizing s with
  | nil => nofun
  | cons x l ih =>
    rw [List.foldlM_cons] at read
    obtain ⟨t, first, read⟩ := exists_of_bind read
    exact List.forall_mem_cons.2 ⟨⟨s, t, first⟩, ih read⟩

theorem Follows.named (follows : r.Follows τ) : (Reader.named r).Follows (.map τ) where
  knows v m read regular p w stands := by
    cases stands with
    | here => rfl
    | item => cases read
    | key said stands =>
      obtain ⟨m, m', step⟩ := exists_of_foldlM read _ (Table.mem_of_get? said)
      obtain ⟨a, given, -⟩ := exists_of_map step
      exact follows.knows _ a given (regular.entry said) _ w stands
  spare v w spare := by
    cases spare with
    | entry spare =>
      simp only [Reader.named, Value.fields?, List.foldlM_append, List.foldlM_cons,
        follows.spare _ _ spare]

/-! ## Records -/

variable {start s s' : σ} {rules : List (FieldRule σ)} {fields : Shape.Fields}

/-- A rule is found just where a field of the shape is, and follows it. -/
theorem follows_find? (follows : List.Forall₂ (FieldRule.Follows start) rules fields)
    (name : String) :
    Option.Rel (fun f field => f.Follows start (name, field))
      (rules.find? fun f => f.name = name) (fields.lookup name) := by
  induction follows with
  | nil => exact .none
  | @cons f field rules fields first rest ih =>
    obtain ⟨key, d, part⟩ := field
    have named : f.name = key := first.name
    by_cases here : key = name
    · subst here
      simpa [named] using first
    · have other : (name == key) = false := by simpa using Ne.symm here
      simpa only [List.find?_cons, named, here, decide_false, List.lookup_cons, other] using ih

/-- A field of the shape has a rule, the one that is found, and it follows the field. -/
theorem exists_follows (follows : List.Forall₂ (FieldRule.Follows start) rules fields)
    {d : Option Value} (known : fields.lookup name = some (d, part)) :
    ∃ f, (rules.find? fun f => f.name = name) = some f ∧ f ∈ rules ∧
      f.Follows start (name, d, part) := by
  have found := follows_find? follows name
  cases here : rules.find? fun f => f.name = name with
  | none => simp [here, known] at found
  | some f =>
    simp only [here, known, Option.rel_some_some] at found
    exact ⟨f, rfl, List.mem_of_find?_eq_some here, found⟩

theorem Follows.knows_record (follows : List.Forall₂ (FieldRule.Follows start) rules fields)
    {given : Table} (read : readFields rules start given = .ok s)
    (regular : (Shape.record fields).Regular (.table given)) (stands : (Value.table given).At p w) :
    ((Shape.record fields).at? p).isSome = true := by
  cases stands with
  | here => rfl
  | @key _ name v _ p said stands =>
    obtain ⟨record, fold, -⟩ := exists_of_bind read
    obtain ⟨t, t', step⟩ := exists_of_foldlM fold _ (Table.mem_of_get? said)
    obtain ⟨f, here, -, -, step⟩ := exists_rule_of_readField step
    have found := follows_find? follows name
    rw [here] at found
    cases known : fields.lookup name with
    | none => simp [known] at found
    | some field =>
      obtain ⟨d, part⟩ := field
      simp only [known, Option.rel_some_some] at found
      have reached := found.knows v t t' step (regular.field known said) p w stands
      simpa [Shape.at?, Shape.step?, known] using reached

/-- A field that has what is read into it keeps it while other fields are read. -/
theorem idle_fold {f : FieldRule σ} {d : Value} {given : Table} (mem : f ∈ rules)
    (apart : rules.Pairwise FieldRule.Apart) (idle : f.set d s = .ok s)
    (others : ∀ e ∈ given, e.1 ≠ f.name) (read : given.foldlM (readField rules) s = .ok s') :
    f.set d s' = .ok s' := by
  induction given generalizing s with
  | nil =>
    cases read
    exact idle
  | cons e given ih =>
    obtain ⟨other, others⟩ := List.forall_mem_cons.1 others
    rw [List.foldlM_cons] at read
    obtain ⟨t, first, read⟩ := exists_of_bind read
    refine ih ?_ others read
    obtain ⟨g, -, among, named, first⟩ := exists_rule_of_readField first
    rcases FieldRule.eq_or_apart apart mem among with rfl | apart
    · exact absurd named.symm other
    · exact apart.left d e.2 s t idle first

/-- Whether a record is complete depends on which fields are given that must be. -/
theorem readFields_congr {given given' : Table}
    (fold : given.foldlM (readField rules) start = given'.foldlM (readField rules) start)
    (names : ∀ f ∈ rules, f.required = true →
      ((∃ e ∈ given, e.1 = f.name) ↔ ∃ e ∈ given', e.1 = f.name)) :
    readFields rules start given = readFields rules start given' := by
  have missing : (rules.find? fun f => f.required && !given.any fun e => e.1 = f.name) =
      rules.find? fun f => f.required && !given'.any fun e => e.1 = f.name := by
    refine List.find?_congr fun f mem => ?_
    cases needs : f.required with
    | false => rfl
    | true =>
      have same : (given.any fun e => e.1 = f.name) = given'.any fun e => e.1 = f.name := by
        rw [Bool.eq_iff_iff]
        simpa only [List.any_eq_true, decide_eq_true_eq] using names f mem needs
      rw [same]
  rw [readFields, readFields, fold, missing]

theorem readFields_drop (follows : List.Forall₂ (FieldRule.Follows start) rules fields)
    (apart : rules.Pairwise FieldRule.Apart) {d : Value} {before after : Table}
    (known : fields.lookup name = some (some d, part)) (others : ∀ e ∈ before, e.1 ≠ name) :
    readFields rules start (before ++ (name, d) :: after) =
      readFields rules start (before ++ after) := by
  obtain ⟨f, here, mem, found⟩ := exists_follows follows known
  have named : f.name = name := found.name
  obtain ⟨free, idle⟩ := found.default d rfl
  refine readFields_congr ?_ fun g other needs => ?_
  · rw [List.foldlM_append, List.foldlM_append]
    cases read : before.foldlM (readField rules) start with
    | error e => rfl
    | ok s =>
      have same : readField rules s (name, d) = .ok s := by
        rw [readField, here]
        exact idle_fold mem apart idle (named ▸ others) read
      simp [same, bind, Except.bind]
  · have differ : g.name ≠ name := by
      rcases FieldRule.eq_or_apart apart mem other with rfl | apart
      · simp [free] at needs
      · exact named ▸ apart.name.symm
    simp [differ]

theorem readFields_field (follows : List.Forall₂ (FieldRule.Follows start) rules fields)
    {d : Option Value} {before after : Table} (known : fields.lookup name = some (d, part))
    (spare : part.Spare v w) : readFields rules start (before ++ (name, v) :: after) =
      readFields rules start (before ++ (name, w) :: after) := by
  obtain ⟨f, here, -, found⟩ := exists_follows follows known
  refine readFields_congr ?_ fun g _ _ => by simp [exists_or]
  simp only [List.foldlM_append, List.foldlM_cons, readField, here, found.spare v w spare]

/-- **A reader of records follows a shape** if the rules of its fields do, and leave each other's
fields alone. -/
theorem Follows.record {wanted : String}
    (follows : List.Forall₂ (FieldRule.Follows start) rules fields)
    (apart : rules.Pairwise FieldRule.Apart) :
    (Reader.record wanted rules start).Follows (.record fields) where
  knows v s read regular p w stands := by
    cases v with
    | array items => exact absurd rfl (regular.usual items)
    | table given => exact knows_record follows read regular stands
    | _ =>
      cases stands
      rfl
  spare v w spare := by
    cases spare with
    | drop known others => exact readFields_drop follows apart known others
    | field known spare => exact readFields_field follows known spare

end Reader

end Testbed.Toml
