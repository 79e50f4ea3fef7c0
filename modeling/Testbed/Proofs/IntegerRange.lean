import Testbed.Proofs.Results
import Testbed.Toml.Reader
import Testbed.Toml.Schema

/-!
# Integers of a document

The reader refuses an integer of more than 64 bits with a sign, wherever it stands, so a document
that was read holds none. What a record is read from then bounds its numbers, and a property that
the reading of every field keeps holds of the record (`Reader.gives_record`), whether it is given as
a table or as an array.

**Theorem (`Document.within_read?`).** Every integer in a document that was read has 64 bits with a
sign.
-/

namespace Testbed.Toml

/-- Every integer in the value has 64 bits with a sign. -/
inductive Value.Within : Value → Prop
  | string (s : String) : Within (.string s)
  | integer {n : Int} (range : -(Nat.pow 2 63 : Int) ≤ n ∧ n < Nat.pow 2 63) : Within (.integer n)
  | float (x : Binary64) : Within (.float x)
  | boolean (b : Bool) : Within (.boolean b)
  | datetime (text : String) : Within (.datetime text)
  | array {items : List Value} (within : ∀ v ∈ items, Within v) : Within (.array items)
  | table {fields : Table} (within : ∀ f ∈ fields, Within f.2) : Within (.table fields)

open Value

/-! ## Scalars -/

theorem within_integer? (cs : List Char) : ∀ v ∈ integer? cs, v.Within := by
  have natural (n : Nat) :
      ∀ v ∈ if n < Nat.pow 2 63 then some (Value.integer n) else none, v.Within := by
    split
    · next small =>
      have range := And.intro (Int.neg_natCast_le_natCast (Nat.pow 2 63) n) (Int.ofNat_lt.2 small)
      exact forall_mem_some (Within.integer range)
    · exact forall_mem_none
  have signed (n : Int) :
      ∀ v ∈ if -(Nat.pow 2 63 : Int) ≤ n ∧ n < Nat.pow 2 63 then some (Value.integer n) else none,
        v.Within := by
    split
    · next range => exact forall_mem_some (Within.integer range)
    · exact forall_mem_none
  unfold integer?
  dsimp only
  split
  case h_4 => exact forall_mem_bind fun digits _ => signed _
  all_goals exact forall_mem_bind fun digits _ => natural _

theorem within_float? (cs : List Char) : ∀ v ∈ float? cs, v.Within := by
  have finite (x e : Binary64) : ∀ v ∈ if x = e then none else some (Value.float x), v.Within := by
    split
    · exact forall_mem_none
    · exact forall_mem_some (Within.float x)
  unfold float?
  simp only [Option.bind_eq_bind, Option.bind_some, Option.bind_none]
  split
  · exact forall_mem_some (Within.float _)
  · exact forall_mem_some (Within.float _)
  · split
    case' h_2 => refine forall_mem_bind fun power _ => ?_
    all_goals
      split
      · split
        · exact forall_mem_none
        · exact forall_mem_bind fun whole _ => finite _ _
      · exact forall_mem_bind fun part _ => forall_mem_bind fun whole _ => finite _ _

theorem within_datetime? (cs : List Char) : ∀ v ∈ datetime? cs, v.Within := by
  unfold datetime?
  split
  · exact forall_mem_some (Within.datetime _)
  · split
    · exact forall_mem_bind fun time _ => forall_mem_bind fun offset _ =>
        forall_mem_some (Within.datetime _)
    · exact forall_mem_none
  · split
    · exact forall_mem_some (Within.datetime _)
    · exact forall_mem_none

theorem within_scalarOf? (word : List Char) : ∀ v ∈ scalarOf? word, v.Within := by
  unfold scalarOf?
  split
  · exact forall_mem_some (Within.boolean _)
  · exact forall_mem_some (Within.boolean _)
  · intro v mem
    simp only [Option.orElse_eq_orElse, Option.orElse_eq_or, Option.mem_def,
      Option.or_eq_some_iff] at mem
    rcases mem with date | ⟨-, whole | ⟨-, part⟩⟩
    · exact within_datetime? word v date
    · exact within_integer? word v whole
    · exact within_float? word v part

theorem within_scalar? (cs : List Char) : ∀ p ∈ scalar? cs, p.1.Within := by
  unfold scalar?
  dsimp only
  split
  · split
    · exact forall_mem_map (within_scalarOf? _)
    · exact forall_mem_map (within_scalarOf? _)
  · exact forall_mem_map (within_scalarOf? _)

/-! ## Tables that grow -/

/-- Every integer in the part of a document has 64 bits with a sign. -/
inductive Node.Within : Node → Prop
  | value {v : Value} (within : v.Within) : Within (.value v)
  | table {standing : Standing} {fields : Node.Fields} (within : ∀ f ∈ fields, Within f.2) :
      Within (.table standing fields)
  | tables {elements : List Node.Fields} (within : ∀ e ∈ elements, ∀ f ∈ e, Within f.2) :
      Within (.tables elements)

namespace Node

/-- Every integer in these fields has 64 bits with a sign. -/
def FieldsWithin (fields : Fields) : Prop := ∀ f ∈ fields, f.2.Within

theorem FieldsWithin.append {fields : Fields} {name : String} {node : Node}
    (within : FieldsWithin fields) (last : node.Within) :
    FieldsWithin (fields ++ [(name, node)]) := by
  intro f mem
  rcases List.mem_append.1 mem with mem | mem
  · exact within f mem
  · rw [List.mem_singleton.1 mem]
    exact last

theorem FieldsWithin.put {fields : Fields} {name : String} {node : Node}
    (within : FieldsWithin fields) (changed : node.Within) :
    FieldsWithin (put name node fields) := by
  induction fields with
  | nil => exact FieldsWithin.append within changed
  | cons f fields ih =>
    obtain ⟨here, later⟩ := List.forall_mem_cons.1 within
    rw [Node.put]
    split
    · exact List.forall_mem_cons.2 ⟨changed, later⟩
    · exact List.forall_mem_cons.2 ⟨here, ih later⟩

theorem FieldsWithin.lookup {fields : Fields} {name : String} (within : FieldsWithin fields) :
    ∀ node ∈ lookup name fields, node.Within :=
  forall_mem_map fun f found => within f (List.mem_of_find?_eq_some found)

theorem forall_mem_changeLast? {α : Type} {P : α → Prop} {f : α → Option α} {as : List α}
    (all : ∀ a ∈ as, P a) (keeps : ∀ a, P a → ∀ b ∈ f a, P b) :
    ∀ bs ∈ changeLast? f as, ∀ b ∈ bs, P b := by
  induction as with
  | nil => exact forall_mem_none
  | cons a as ih =>
    obtain ⟨here, later⟩ := List.forall_mem_cons.1 all
    cases as with
    | nil => exact forall_mem_map fun b mem => by simpa using keeps a here b mem
    | cons c as =>
      exact forall_mem_map fun bs mem => List.forall_mem_cons.2 ⟨here, ih later bs mem⟩

theorem within_descend {keyed : Bool} {change : Standing → Fields → Option Fields}
    (keeps : ∀ st fields, FieldsWithin fields → ∀ made ∈ change st fields, FieldsWithin made)
    (path : List String) (st : Standing) {fields : Fields} (within : FieldsWithin fields) :
    ∀ made ∈ descend keyed change path st fields, FieldsWithin made := by
  induction path generalizing st fields with
  | nil => exact keeps st fields within
  | cons name path ih =>
    rw [descend]
    split
    · exact forall_mem_bind fun inner mem =>
        forall_mem_some (within.append (.table (ih _ (by simp [FieldsWithin]) inner mem)))
    · exact forall_mem_none
    · next elements found =>
      refine forall_mem_bind fun made mem => forall_mem_some (within.put (.tables ?_))
      cases within.lookup _ found with
      | tables all => exact forall_mem_changeLast? all (fun _ inside => ih _ inside) made mem
    · next standing inner found =>
      split
      · exact forall_mem_none
      · refine forall_mem_bind fun made mem => forall_mem_some (within.put (.table ?_))
        cases within.lookup _ found with
        | table all => exact ih _ all made mem

theorem within_addValue {path : List String} {name : String} {v : Value} {standing : Standing}
    {fields : Fields} (within : FieldsWithin fields) (value : v.Within) :
    ∀ made ∈ addValue path name v standing fields, FieldsWithin made := by
  refine within_descend (fun reached inner inside => ?_) path standing within
  split
  · exact forall_mem_none
  · split
    · exact forall_mem_none
    · exact forall_mem_some (inside.append (.value value))

theorem within_openTable {path : List String} {name : String} {root : Fields}
    (within : FieldsWithin root) : ∀ made ∈ openTable path name root, FieldsWithin made := by
  refine within_descend (fun reached inner inside => ?_) path .defined within
  split
  · exact forall_mem_some (inside.append (.table (by simp)))
  · next found =>
    refine forall_mem_some (inside.put ?_)
    cases inside.lookup _ found with
    | table all => exact .table all
  · exact forall_mem_none

theorem within_openElement {path : List String} {name : String} {root : Fields}
    (within : FieldsWithin root) : ∀ made ∈ openElement path name root, FieldsWithin made := by
  refine within_descend (fun reached inner inside => ?_) path .defined within
  split
  · exact forall_mem_some (inside.append (.tables (by simp)))
  · next found =>
    refine forall_mem_some (inside.put ?_)
    cases inside.lookup _ found with
    | tables all =>
      refine .tables fun e mem => ?_
      rcases List.mem_append.1 mem with mem | mem
      · exact all e mem
      · simp [List.mem_singleton.1 mem]
  · exact forall_mem_none

theorem Within.close {node : Node} (within : node.Within) : node.close.Within := by
  induction within with
  | value within => exact within
  | table within ih =>
    rw [Node.close, closeFields_eq_map]
    exact .table (List.forall_mem_map.2 ih)
  | tables within ih =>
    rw [Node.close, closeElements_eq_map]
    refine .array (List.forall_mem_map.2 fun e mem => ?_)
    rw [closeFields_eq_map]
    exact .table (List.forall_mem_map.2 (ih e mem))

theorem FieldsWithin.close {fields : Fields} (within : FieldsWithin fields) :
    ∀ f ∈ closeFields fields, f.2.Within := by
  rw [closeFields_eq_map]
  exact List.forall_mem_map.2 fun f mem => (within f mem).close

end Node

/-! ## Values -/

/-- What the readers of values, of items and of pairs give with the same fuel. -/
structure ReadsWithin (fuel : Nat) : Prop where
  value : ∀ depth cs, ∀ p ∈ value? depth fuel cs, p.1.Within
  items : ∀ depth cs, ∀ p ∈ items? depth fuel cs, ∀ v ∈ p.1, v.Within
  pairs : ∀ depth {fields}, Node.FieldsWithin fields → ∀ cs, ∀ p ∈ pairs? depth fuel fields cs,
    Node.FieldsWithin p.1

theorem ReadsWithin.value_succ {fuel : Nat} (reads : ReadsWithin fuel) (depth : Nat)
    (cs : List Char) : ∀ p ∈ value? depth (fuel + 1) cs, p.1.Within := by
  unfold value?
  split
  · exact forall_mem_map fun p _ => .string _
  · exact forall_mem_map fun p _ => .string _
  · split
    · exact forall_mem_none
    · exact forall_mem_map fun p mem => .array (reads.items _ _ p mem)
  · split
    · exact forall_mem_none
    · split
      · exact forall_mem_some (Within.table (by simp))
      · exact forall_mem_bind fun p mem =>
          forall_mem_some (Within.table (reads.pairs _ (by simp [Node.FieldsWithin]) _ p mem).close)
  · exact within_scalar? cs

theorem ReadsWithin.items_succ {fuel : Nat} (reads : ReadsWithin fuel) (depth : Nat)
    (cs : List Char) : ∀ p ∈ items? depth (fuel + 1) cs, ∀ v ∈ p.1, v.Within := by
  unfold items?
  refine forall_mem_bind fun here _ => ?_
  split
  · exact forall_mem_some (by simp)
  · refine forall_mem_bind fun p first => forall_mem_bind fun after _ => ?_
    have value := reads.value _ _ p first
    split
    · exact forall_mem_bind fun q later =>
        forall_mem_some (List.forall_mem_cons.2 ⟨value, reads.items _ _ q later⟩)
    · exact forall_mem_some (by simpa using value)
    · exact forall_mem_none

theorem ReadsWithin.pairs_succ {fuel : Nat} (reads : ReadsWithin fuel) (depth : Nat)
    {fields : Node.Fields} (within : Node.FieldsWithin fields) (cs : List Char) :
    ∀ p ∈ pairs? depth (fuel + 1) fields cs, Node.FieldsWithin p.1 := by
  unfold pairs?
  refine forall_mem_bind ?_
  rintro ⟨names, rest⟩ -
  dsimp only
  split
  · refine forall_mem_bind fun p first => forall_mem_bind fun name _ =>
      forall_mem_bind fun made added => ?_
    have inside := Node.within_addValue within (reads.value _ _ p first) made added
    split
    · exact reads.pairs _ inside _
    · exact forall_mem_some inside
    · exact forall_mem_none
  · exact forall_mem_none

theorem readsWithin (fuel : Nat) : ReadsWithin fuel := by
  induction fuel with
  | zero =>
    exact ⟨fun _ _ => forall_mem_none, fun _ _ => forall_mem_none, fun _ _ _ _ => forall_mem_none⟩
  | succ fuel ih => exact ⟨ih.value_succ, ih.items_succ, fun depth _ => ih.pairs_succ depth⟩

/-! ## Documents -/

theorem within_add {d : Draft} (within : Node.FieldsWithin d.fields) {names : List String}
    {v : Value} (value : v.Within) : ∀ made ∈ d.add names v, Node.FieldsWithin made.fields := by
  unfold Draft.add
  refine forall_mem_bind fun name _ => forall_mem_bind fun fields changed => forall_mem_some ?_
  exact Node.within_descend (fun _ inner inside => Node.within_addValue inside value) _ _ within
    fields changed

theorem within_line? {d : Draft} (within : Node.FieldsWithin d.fields) (cs : List Char) :
    ∀ p ∈ line? d cs, Node.FieldsWithin p.1.fields := by
  unfold line?
  split
  · refine forall_mem_bind ?_
    rintro ⟨path, name, rest⟩ -
    dsimp only
    split
    · refine forall_mem_bind fun fields opened => forall_mem_bind fun rest _ => forall_mem_some ?_
      exact Node.within_openElement within fields opened
    · exact forall_mem_none
  · refine forall_mem_bind ?_
    rintro ⟨path, name, rest⟩ -
    dsimp only
    split
    · refine forall_mem_bind fun fields opened => forall_mem_bind fun rest _ => forall_mem_some ?_
      exact Node.within_openTable within fields opened
    · exact forall_mem_none
  · refine forall_mem_bind ?_
    rintro ⟨names, rest⟩ -
    dsimp only
    split
    · refine forall_mem_bind fun p value => forall_mem_bind fun made added =>
        forall_mem_bind fun rest _ => forall_mem_some ?_
      exact within_add within ((readsWithin _).value _ _ p value) made added
    · exact forall_mem_none

theorem within_lines? {fuel : Nat} {d : Draft} (within : Node.FieldsWithin d.fields)
    (cs : List Char) : ∀ made ∈ lines? fuel d cs, Node.FieldsWithin made.fields := by
  induction fuel generalizing d cs with
  | zero =>
    unfold lines?
    split
    · exact forall_mem_some within
    · exact forall_mem_none
  | succ fuel ih =>
    unfold lines?
    refine forall_mem_bind fun here _ => ?_
    split
    · exact forall_mem_some within
    · exact forall_mem_bind fun p read => ih (within_line? within _ p read) _

/-- **Every integer that is read has 64 bits with a sign.** -/
theorem Document.within_read? {text : String} {t : Table} (read : Document.read? text = some t) :
    ∀ f ∈ t, f.2.Within := by
  obtain ⟨d, lines, same⟩ := Option.bind_eq_some_iff.1 read
  have within := within_lines? (by simp [Node.FieldsWithin]) _ d lines
  exact Option.some.inj same ▸ within.close

/-! ## Records -/

variable {σ α : Type} {P : σ → Prop} {Q : α → Prop} {r : Reader α}

theorem Value.Within.fields? {v : Value} (within : v.Within) :
    ∀ given ∈ v.fields?, ∀ g ∈ given, g.2.Within := by
  cases within with
  | table within => exact forall_mem_some within
  | datetime text => exact forall_mem_some (by simpa using Within.string text)
  | _ => exact forall_mem_none

/-- What the reader makes of a value whose integers have 64 bits with a sign has this property. -/
def Reader.Gives (r : Reader α) (P : α → Prop) : Prop :=
  ∀ v, v.Within → ∀ a, r v = .ok a → P a

/-- Reading the field keeps a property of the record. -/
def FieldRule.Keeps (f : FieldRule σ) (P : σ → Prop) : Prop :=
  ∀ v, v.Within → ∀ s, P s → ∀ s', f.set v s = .ok s' → P s'

theorem FieldRule.Keeps.of_gives {name : String} {required : Bool} {set : α → σ → σ}
    (gives : r.Gives Q) (keeps : ∀ a s, Q a → P s → P (set a s)) :
    FieldRule.Keeps ⟨name, required, fun v s => (r v).map fun a => set a s⟩ P := by
  intro v within s holds s' read
  obtain ⟨a, given, rfl⟩ := exists_of_map read
  exact keeps a s (gives v within a given) holds

/-- A field that the property says nothing about. -/
theorem FieldRule.Keeps.any {name : String} {required : Bool} {set : α → σ → σ}
    (same : ∀ a s, P s → P (set a s)) :
    FieldRule.Keeps ⟨name, required, fun v s => (r v).map fun a => set a s⟩ P :=
  .of_gives (Q := fun _ => True) (fun _ _ _ _ => trivial) fun a s _ => same a s

namespace Reader

theorem gives_natural (wanted : String) (bound : Nat) :
    (natural wanted bound).Gives fun n => n < bound ∧ n < Nat.pow 2 63 := by
  intro v within a read
  cases within with
  | @integer n range =>
    rw [natural] at read
    split at read
    · next fits =>
      obtain rfl := Except.ok.inj read
      exact ⟨(Int.toNat_lt fits.1).2 fits.2, (Int.toNat_lt fits.1).2 range.2⟩
    · cases read
  | _ => cases read

theorem Gives.present (gives : r.Gives Q) : (Reader.present r).Gives fun o => ∀ a ∈ o, Q a := by
  intro v within o read
  obtain ⟨a, given, rfl⟩ := exists_of_map read
  exact forall_mem_some (gives v within a given)

theorem Gives.list (gives : r.Gives Q) : (Reader.list r).Gives fun l => ∀ a ∈ l, Q a := by
  intro v within l read
  cases within with
  | @array items within =>
    replace read : items.mapM r = .ok l := read
    induction items generalizing l with
    | nil =>
      cases read
      exact fun _ mem => nomatch mem
    | cons w items ih =>
      obtain ⟨here, later⟩ := List.forall_mem_cons.1 within
      rw [List.mapM_cons] at read
      obtain ⟨a, first, read⟩ := exists_of_bind read
      obtain ⟨as, rest, read⟩ := exists_of_bind read
      cases read
      exact List.forall_mem_cons.2 ⟨gives w here a first, ih as later rest⟩
  | _ => cases read

theorem keeps_fold {fields : List (FieldRule σ)} (keeps : ∀ f ∈ fields, f.Keeps P) {given : Table}
    (within : ∀ g ∈ given, g.2.Within) {s s' : σ} (holds : P s)
    (read : given.foldlM (readField fields) s = .ok s') : P s' := by
  induction given generalizing s with
  | nil =>
    cases read
    exact holds
  | cons g given ih =>
    obtain ⟨here, later⟩ := List.forall_mem_cons.1 within
    rw [List.foldlM_cons] at read
    obtain ⟨next, first, read⟩ := exists_of_bind read
    refine ih later ?_ read
    obtain ⟨f, -, mem, -, first⟩ := exists_rule_of_readField first
    exact keeps f mem g.2 here s holds next first

theorem keeps_readFields {fields : List (FieldRule σ)} (keeps : ∀ f ∈ fields, f.Keeps P)
    {given : Table} (within : ∀ g ∈ given, g.2.Within) {s s' : σ} (holds : P s)
    (read : readFields fields s given = .ok s') : P s' := by
  obtain ⟨record, fold, read⟩ := exists_of_bind read
  split at read
  · cases read
  · cases read
    exact keeps_fold keeps within holds fold

theorem keeps_items {wanted : String} {index : Nat} {fields : List (FieldRule σ)}
    (keeps : ∀ f ∈ fields, f.Keeps P) {items : List Value} (within : ∀ v ∈ items, v.Within)
    {s s' : σ} (holds : P s) (read : readItems wanted index fields s items = .ok s') : P s' := by
  induction fields generalizing index items s with
  | nil =>
    cases items <;> cases read <;> exact holds
  | cons f fields ih =>
    obtain ⟨this, others⟩ := List.forall_mem_cons.1 keeps
    cases items with
    | nil =>
      rw [readItems] at read
      split at read
      · cases read
      · exact ih others within holds read
    | cons v items =>
      obtain ⟨here, later⟩ := List.forall_mem_cons.1 within
      obtain ⟨next, first, read⟩ := exists_of_bind read
      exact ih others later (this v here s holds next first) read

theorem gives_record {name : String} {fields : List (FieldRule σ)} {start : σ}
    (keeps : ∀ f ∈ fields, f.Keeps P) (holds : P start) :
    (record name fields start).Gives P := by
  intro v within s read
  unfold record at read
  split at read
  · cases within with
    | array within => exact keeps_items keeps within holds read
  · split at read
    · next given found => exact keeps_readFields keeps (within.fields? given found) holds read
    · cases read

end Reader

end Testbed.Toml
