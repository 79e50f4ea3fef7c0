import Mathlib.Data.List.TakeWhile
import Testbed.Config.Validation
import Testbed.Proofs.NameMaps

/-!
# What makes a configuration valid

`Config.Valid` lists the conditions on a configuration. `Config.FirstFault` says of an error which
of them it names as violated, and that those before it hold: add-ons come in the order of their
names, node groups in the order in which they stand, and hooks in the order in which they run.

**Theorem (`fault?_eq_none_iff`).** A configuration has no fault just if it is valid.

**Theorem (`fault?_eq_some_iff`).** Otherwise its fault is the first of these.

Two of the checks are loops that end early. `findSome?_entries_iff` says what the one over the
add-ons finds in terms of look-ups, `firstRepeat?_eq_some_iff` what the one over the groups finds.
-/

namespace Testbed.Config

/-! ## Blank texts -/

/-- There is more than white space in a text. -/
def Substantial (text : String) : Prop := ∃ c ∈ text.toList, Text.isBlank c = false

theorem allBlank_iff {text : String} : Text.allBlank text = true ↔ ¬Substantial text := by
  simp [Text.allBlank, Substantial]

/-- Of other texts, trimming leaves nothing. -/
theorem trim_eq_empty_iff {text : String} : Text.trim text = "" ↔ ¬Substantial text := by
  have blank (cs : List Char) : Text.trimStart cs = [] ↔ ∀ c ∈ cs, Text.isBlank c = true :=
    List.dropWhile_eq_nil_iff
  have start : Text.trim text = "" ↔ Text.trimStart text.toList = [] := by
    rw [Text.trim, ← String.toList_inj, String.toList_ofList, Text.trimChars]
    constructor
    · intro nothing
      have rest : ∀ c ∈ Text.trimStart text.toList, Text.isBlank c = true := by
        simpa [blank] using nothing
      -- What is left at the start would begin with a character that is not blank.
      by_contra left
      have first : Text.isBlank ((Text.trimStart text.toList).head left) = false :=
        List.head_dropWhile_not Text.isBlank left
      rw [rest _ (List.head_mem left)] at first
      cases first
    · intro nothing
      rw [nothing]
      rfl
  rw [start, blank, ← allBlank_iff, Text.allBlank, List.all_eq_true]

/-! ## Names -/

/-- A text of 1 to 100 letters, digits and hyphens. -/
structure IsName (name : String) : Prop where
  more : 1 ≤ name.length
  short : name.length ≤ 100
  plain : ∀ c ∈ name.toList,
    ('a' ≤ c ∧ c ≤ 'z') ∨ ('A' ≤ c ∧ c ≤ 'Z') ∨ ('0' ≤ c ∧ c ≤ '9') ∨ c = '-'

theorem isNameChar_iff {c : Char} : isNameChar c = true ↔
    ('a' ≤ c ∧ c ≤ 'z') ∨ ('A' ≤ c ∧ c ≤ 'Z') ∨ ('0' ≤ c ∧ c ≤ '9') ∨ c = '-' := by
  have ranges : isNameChar c = (decide ('A' ≤ c ∧ c ≤ 'Z') ||
      (decide ('a' ≤ c) && decide (c ≤ 'z')) || (decide ('0' ≤ c) && decide (c ≤ '9')) ||
      decide (c = '-')) := rfl
  simp only [ranges, Bool.or_eq_true, Bool.and_eq_true, decide_eq_true_eq]
  tauto

theorem validName_iff {name : String} : validName name = true ↔ IsName name := by
  simp only [validName, Bool.and_eq_true, decide_eq_true_eq, List.all_eq_true, isNameChar_iff,
    String.length_toList]
  exact ⟨fun ⟨⟨more, short⟩, plain⟩ => ⟨more, short, plain⟩,
    fun name => ⟨⟨name.more, name.short⟩, name.plain⟩⟩

theorem not_validName_iff {name : String} : (!validName name) = true ↔ ¬IsName name := by
  rw [Bool.not_eq_true', ← Bool.not_eq_true, validName_iff]

/-- The number of a letter, a digit or a hyphen. -/
def IsNameCode (n : Nat) : Prop :=
  (97 ≤ n ∧ n ≤ 122) ∨ (65 ≤ n ∧ n ≤ 90) ∨ (48 ≤ n ∧ n ≤ 57) ∨ n = 45

theorem isNameChar_iff_code {c : Char} : isNameChar c = true ↔ IsNameCode c.toNat := by
  have hyphen : c = '-' ↔ c.toNat = 45 := Char.toNat_inj.symm
  rw [isNameChar_iff, hyphen]
  rfl

/-- Outside ASCII, characters consist of bytes outside ASCII. -/
theorem le_of_mem_utf8EncodeChar {c : Char} (large : ¬c.toNat ≤ 127) :
    ∀ b ∈ String.utf8EncodeChar c, 128 ≤ b.toNat := by
  intro b mem
  have large : ¬c.val.toNat ≤ 127 := large
  unfold String.utf8EncodeChar at mem
  simp only [if_neg large] at mem
  split at mem
  · simp only [List.mem_cons, List.not_mem_nil, or_false] at mem
    rcases mem with rfl | rfl <;> simp only [UInt8.toNat_ofNat'] <;> omega
  split at mem
  · simp only [List.mem_cons, List.not_mem_nil, or_false] at mem
    rcases mem with rfl | rfl | rfl <;> simp only [UInt8.toNat_ofNat'] <;> omega
  · simp only [List.mem_cons, List.not_mem_nil, or_false] at mem
    rcases mem with rfl | rfl | rfl | rfl <;> simp only [UInt8.toNat_ofNat'] <;> omega

theorem utf8EncodeChar_small {c : Char} (small : c.toNat ≤ 127) :
    String.utf8EncodeChar c = [UInt8.ofNat c.toNat] :=
  if_pos small

/-- The bytes of a character are those of names just if it is a character of names. -/
theorem isNameChar_iff_bytes {c : Char} :
    isNameChar c = true ↔ ∀ b ∈ String.utf8EncodeChar c, IsNameCode b.toNat := by
  rw [isNameChar_iff_code]
  by_cases small : c.toNat ≤ 127
  · have code : (UInt8.ofNat c.toNat).toNat = c.toNat := by
      rw [UInt8.toNat_ofNat']
      omega
    rw [utf8EncodeChar_small small, List.forall_mem_singleton, code]
  · obtain ⟨b, rest, bytes⟩ : ∃ b rest, String.utf8EncodeChar c = b :: rest :=
      List.exists_cons_of_length_pos (by rw [String.length_utf8EncodeChar]; exact c.utf8Size_pos)
    have first : b ∈ String.utf8EncodeChar c := bytes ▸ List.mem_cons_self
    have far : 128 ≤ b.toNat := le_of_mem_utf8EncodeChar small b first
    refine ⟨fun code => ?_, fun all => ?_⟩
    · unfold IsNameCode at code
      omega
    · have code := all b first
      unfold IsNameCode at code
      omega

/-- **Names by their bytes.** It does not matter whether the length and the alphabet of a name are
those of its characters or those of its bytes. -/
theorem isName_iff_bytes {name : String} : IsName name ↔
    1 ≤ name.utf8ByteSize ∧ name.utf8ByteSize ≤ 100 ∧
      ∀ b ∈ name.toByteArray.data, IsNameCode b.toNat := by
  have bytes : name.toByteArray.data = (name.toList.flatMap String.utf8EncodeChar).toArray := by
    conv_lhs => rw [← String.ofList_toList (s := name), String.toByteArray_ofList]
    exact List.data_toByteArray
  have alphabet : (∀ b ∈ name.toByteArray.data, IsNameCode b.toNat) ↔
      ∀ c ∈ name.toList, isNameChar c = true := by
    simp only [bytes, List.mem_toArray, List.forall_mem_flatMap, isNameChar_iff_bytes]
  have size (plain : ∀ c ∈ name.toList, isNameChar c = true) :
      name.utf8ByteSize = name.length := by
    have single : ∀ c ∈ name.toList, (String.utf8EncodeChar c).length = 1 := fun c mem => by
      have code := isNameChar_iff_code.1 (plain c mem)
      unfold IsNameCode at code
      rw [utf8EncodeChar_small (by omega), List.length_singleton]
    rw [String.utf8ByteSize, ByteArray.size, bytes, List.size_toArray, List.length_flatMap,
      List.map_congr_left single, List.map_const', List.sum_replicate_nat, Nat.mul_one,
      String.length_toList]
  rw [alphabet, ← validName_iff, validName]
  simp only [Bool.and_eq_true, decide_eq_true_eq, List.all_eq_true, String.length_toList]
  constructor
  · rintro ⟨⟨more, short⟩, plain⟩
    rw [size plain]
    exact ⟨more, short, plain⟩
  · rintro ⟨more, short, plain⟩
    rw [size plain] at more short
    exact ⟨⟨more, short⟩, plain⟩

/-! ## Conditions -/

/-- What is required of an add-on. -/
structure AddOnFits (key : String) (s : AddOnSection) : Prop where
  known : ∃ k : AddOnKind, k.name = key
  nameSpace : ∀ n, s.nameSpace = some n → Substantial n

/-- The fields that say which environment this is are as they should be. -/
structure Identified (c : Config) : Prop where
  version : c.version = 1
  name : IsName c.name
  region : Substantial c.region

/-- There is a file for the output of a hook if it has a command. -/
def HasOutput (h : HooksSection) (p : HookPoint) : Prop :=
  (p.command h).isSome = true → (p.output h).isSome = true

/-- What is required of a configuration. -/
structure Valid (c : Config) : Prop extends Identified c where
  addOns : ∀ key s, c.addOns.get? key = some s → AddOnFits key s
  groups : (c.allGroups.map (·.name)).Nodup
  hooks : ∀ p, HasOutput c.hooks p

/-- An error names the first condition that a configuration violates. -/
inductive FirstFault (c : Config) : ConfigError → Prop
  | version (wrong : c.version ≠ 1) : FirstFault c (.unsupportedVersion c.version)
  | name (version : c.version = 1) (wrong : ¬IsName c.name) : FirstFault c (.invalidName c.name)
  | region (version : c.version = 1) (name : IsName c.name) (wrong : ¬Substantial c.region) :
      FirstFault c .emptyRegion
  | unknownAddOn {key : String} {s : AddOnSection} (identified : Identified c)
      (said : c.addOns.get? key = some s)
      (before : ∀ key' s', key' < key → c.addOns.get? key' = some s' → AddOnFits key' s')
      (wrong : ¬∃ k : AddOnKind, k.name = key) : FirstFault c (.unknownAddOn key)
  | emptyNamespace {key n : String} {s : AddOnSection} (identified : Identified c)
      (said : c.addOns.get? key = some s)
      (before : ∀ key' s', key' < key → c.addOns.get? key' = some s' → AddOnFits key' s')
      (known : ∃ k : AddOnKind, k.name = key) (nameSpace : s.nameSpace = some n)
      (wrong : ¬Substantial n) : FirstFault c (.emptyNamespace key)
  | duplicateNodeGroup {before after : List NodeGroup} {g : NodeGroup} (identified : Identified c)
      (addOns : ∀ key s, c.addOns.get? key = some s → AddOnFits key s)
      (groups : c.allGroups = before ++ g :: after) (apart : (before.map (·.name)).Nodup)
      (wrong : g.name ∈ before.map (·.name)) : FirstFault c (.duplicateNodeGroup g.name)
  | afterCreateCluster (identified : Identified c)
      (addOns : ∀ key s, c.addOns.get? key = some s → AddOnFits key s)
      (groups : (c.allGroups.map (·.name)).Nodup)
      (wrong : ¬HasOutput c.hooks .afterCreateCluster) :
      FirstFault c (.missingHookOutput .afterCreateCluster)
  | afterCreateAddOns (identified : Identified c)
      (addOns : ∀ key s, c.addOns.get? key = some s → AddOnFits key s)
      (groups : (c.allGroups.map (·.name)).Nodup) (before : HasOutput c.hooks .afterCreateCluster)
      (wrong : ¬HasOutput c.hooks .afterCreateAddOns) :
      FirstFault c (.missingHookOutput .afterCreateAddOns)

variable {c : Config} {e : ConfigError}

/-! ## Add-ons -/

theorem isNone_ofName?_iff {key : String} :
    (AddOnKind.ofName? key).isNone = true ↔ ¬∃ k : AddOnKind, k.name = key := by
  simp only [AddOnKind.ofName?, Option.isNone_iff_eq_none, List.find?_eq_none, decide_eq_true_eq,
    not_exists]
  exact ⟨fun none k => none k (AddOnKind.mem_all k), fun none k _ => none k⟩

theorem any_allBlank_iff {nameSpace : Option String} :
    nameSpace.any Text.allBlank = true ↔ ∃ n, nameSpace = some n ∧ ¬Substantial n := by
  simp only [Option.any_eq_true, allBlank_iff]

theorem addOnFault?_eq_none_iff {key : String} {s : AddOnSection} :
    addOnFault? (key, s) = none ↔ AddOnFits key s := by
  unfold addOnFault?
  split
  · next unknown =>
    simpa using fun fits : AddOnFits key s => isNone_ofName?_iff.1 unknown fits.known
  split
  · next blank =>
    obtain ⟨n, said, wrong⟩ := any_allBlank_iff.1 blank
    simpa using fun fits : AddOnFits key s => wrong (fits.nameSpace n said)
  · next known blank =>
    rw [isNone_ofName?_iff, not_not] at known
    rw [any_allBlank_iff] at blank
    simp only [true_iff]
    exact ⟨known, fun n said => by_contra fun wrong => blank ⟨n, said, wrong⟩⟩

/-- The fault of an add-on is that its name is unknown, or else that its namespace is empty. -/
theorem addOnFault?_eq_some_iff {key : String} {s : AddOnSection} :
    addOnFault? (key, s) = some e ↔
      ((¬∃ k : AddOnKind, k.name = key) ∧ e = .unknownAddOn key) ∨
      ((∃ k : AddOnKind, k.name = key) ∧ (∃ n, s.nameSpace = some n ∧ ¬Substantial n) ∧
        e = .emptyNamespace key) := by
  rw [← isNone_ofName?_iff, ← any_allBlank_iff, ← not_not (a := ∃ k : AddOnKind, k.name = key),
    ← isNone_ofName?_iff, addOnFault?]
  cases (AddOnKind.ofName? key).isNone <;> cases s.nameSpace.any Text.allBlank <;>
    simp [eq_comm]

/-! ## Node groups -/

theorem firstRepeat?_eq_none_iff {seen names : List String} : firstRepeat? seen names = none ↔
    names.Nodup ∧ ∀ n ∈ names, n ∉ seen := by
  induction names generalizing seen with
  | nil => simp [firstRepeat?]
  | cons n names ih =>
    by_cases mem : n ∈ seen
    · simp [firstRepeat?, mem]
    · rw [firstRepeat?, if_neg mem, ih]
      simp only [List.nodup_cons, List.mem_cons, not_or]
      grind

/-- **The first name that repeats an earlier one**, those in `seen` included. -/
theorem firstRepeat?_eq_some_iff {seen names : List String} {name : String} :
    firstRepeat? seen names = some name ↔
      ∃ before after, names = before ++ name :: after ∧
        before.Nodup ∧ (∀ n ∈ before, n ∉ seen) ∧ (name ∈ seen ∨ name ∈ before) := by
  induction names generalizing seen with
  | nil => simp [firstRepeat?]
  | cons n names ih =>
    rw [firstRepeat?]
    by_cases mem : n ∈ seen
    · rw [if_pos mem]
      constructor
      · rintro ⟨⟩
        exact ⟨[], names, rfl, .nil, nofun, .inl mem⟩
      · rintro ⟨before, after, split, -, fresh, -⟩
        cases before with
        | nil =>
          cases split
          rfl
        | cons m before =>
          cases split
          exact absurd mem (fresh n List.mem_cons_self)
    · rw [if_neg mem, ih]
      constructor
      · rintro ⟨before, after, rfl, apart, fresh, repeats⟩
        refine ⟨n :: before, after, rfl, ?_, ?_, ?_⟩ <;> grind
      · rintro ⟨before, after, split, apart, fresh, repeats⟩
        cases before with
        | nil =>
          cases split
          simp [mem] at repeats
        | cons m before =>
          cases split
          refine ⟨before, after, rfl, ?_, ?_, ?_⟩ <;> grind

theorem firstRepeat?_groups {groups : List NodeGroup} {name : String} :
    firstRepeat? [] (groups.map (·.name)) = some name ↔
      ∃ before g after, groups = before ++ g :: after ∧ (before.map (·.name)).Nodup ∧
        g.name ∈ before.map (·.name) ∧ g.name = name := by
  rw [firstRepeat?_eq_some_iff]
  constructor
  · rintro ⟨names, names', split, apart, -, repeats⟩
    obtain ⟨before, rest, rfl, rfl, tail⟩ := List.map_eq_append_iff.1 split
    obtain ⟨g, after, rfl, rfl, rfl⟩ := List.map_eq_cons_iff.1 tail
    exact ⟨before, g, after, rfl, apart, by simpa using repeats, rfl⟩
  · rintro ⟨before, g, after, rfl, apart, repeats, rfl⟩
    exact ⟨before.map (·.name), after.map (·.name), by simp, apart, by simp, .inr repeats⟩

/-! ## Hooks -/

theorem lacksOutput_iff {h : HooksSection} {p : HookPoint} :
    lacksOutput h p = true ↔ ¬HasOutput h p := by
  simp [lacksOutput, HasOutput]

theorem find?_lacksOutput_eq_none_iff {h : HooksSection} :
    HookPoint.all.find? (lacksOutput h) = none ↔ ∀ p, HasOutput h p := by
  simp only [List.find?_eq_none, lacksOutput_iff, not_not]
  exact ⟨fun all p => all p (by cases p <;> decide), fun all p _ => all p⟩

theorem find?_lacksOutput_eq_some_iff {h : HooksSection} {p : HookPoint} :
    HookPoint.all.find? (lacksOutput h) = some p ↔
      (¬HasOutput h .afterCreateCluster ∧ p = .afterCreateCluster) ∨
      (HasOutput h .afterCreateCluster ∧ ¬HasOutput h .afterCreateAddOns ∧
        p = .afterCreateAddOns) := by
  rw [← lacksOutput_iff, ← lacksOutput_iff, ← not_not (a := HasOutput h .afterCreateCluster),
    ← lacksOutput_iff, HookPoint.all]
  cases first : lacksOutput h .afterCreateCluster <;>
    cases second : lacksOutput h .afterCreateAddOns <;> simp [first, second, eq_comm]

/-! ## All checks -/

/-- With these fields in order, the other checks come one after the other. -/
theorem fault?_of_identified (identified : Identified c) :
    c.fault? = (c.addOns.entries.findSome? addOnFault?).or
      (((firstRepeat? [] (c.allGroups.map (·.name))).map .duplicateNodeGroup).or
        ((HookPoint.all.find? (lacksOutput c.hooks)).map .missingHookOutput)) := by
  have supported : ¬c.version ≠ configVersion := not_not.2 identified.version
  have valid : ¬(!validName c.name) = true :=
    fun invalid => not_validName_iff.1 invalid identified.name
  have region : ¬Text.allBlank c.region = true :=
    fun blank => allBlank_iff.1 blank identified.region
  rw [fault?, if_neg supported, if_neg valid, if_neg region]
  simp only [Option.orElse_eq_orElse, Option.orElse_eq_or]

theorem fault?_of_version (wrong : c.version ≠ 1) :
    c.fault? = some (.unsupportedVersion c.version) :=
  if_pos wrong

theorem fault?_of_name (version : c.version = 1) (wrong : ¬IsName c.name) :
    c.fault? = some (.invalidName c.name) := by
  have supported : ¬c.version ≠ configVersion := not_not.2 version
  rw [fault?, if_neg supported, if_pos (not_validName_iff.2 wrong)]

theorem fault?_of_region (version : c.version = 1) (name : IsName c.name)
    (wrong : ¬Substantial c.region) : c.fault? = some .emptyRegion := by
  have supported : ¬c.version ≠ configVersion := not_not.2 version
  have valid : ¬(!validName c.name) = true := fun invalid => not_validName_iff.1 invalid name
  rw [fault?, if_neg supported, if_neg valid, if_pos (allBlank_iff.2 wrong)]

theorem addOns_eq_none_iff : c.addOns.entries.findSome? addOnFault? = none ↔
    ∀ key s, c.addOns.get? key = some s → AddOnFits key s := by
  simp only [List.findSome?_eq_none_iff, Prod.forall, NameMap.mem_entries, addOnFault?_eq_none_iff]

theorem fault?_of_addOn (identified : Identified c) {key : String} {s : AddOnSection}
    (said : c.addOns.get? key = some s)
    (before : ∀ key' s', key' < key → c.addOns.get? key' = some s' → AddOnFits key' s')
    (wrong : addOnFault? (key, s) = some e) : c.fault? = some e := by
  have found : c.addOns.entries.findSome? addOnFault? = some e :=
    NameMap.findSome?_entries_iff.2 ⟨key, s, said, wrong, fun key' s' lt said' =>
      addOnFault?_eq_none_iff.2 (before key' s' lt said')⟩
  rw [fault?_of_identified identified, found]
  rfl

theorem fault?_of_addOns_groups (identified : Identified c)
    (addOns : ∀ key s, c.addOns.get? key = some s → AddOnFits key s)
    (groups : (c.allGroups.map (·.name)).Nodup) :
    c.fault? = (HookPoint.all.find? (lacksOutput c.hooks)).map .missingHookOutput := by
  rw [fault?_of_identified identified, addOns_eq_none_iff.2 addOns,
    firstRepeat?_eq_none_iff.2 ⟨groups, by simp⟩]
  rfl

/-- What goes wrong first if the first fields are in order. -/
theorem firstFault_of_identified (identified : Identified c) (fault : c.fault? = some e) :
    FirstFault c e := by
  rw [fault?_of_identified identified] at fault
  simp only [Option.or_eq_some_iff, Option.map_eq_some_iff, Option.map_eq_none_iff,
    addOns_eq_none_iff, firstRepeat?_eq_none_iff, firstRepeat?_groups,
    find?_lacksOutput_eq_some_iff, NameMap.findSome?_entries_iff, addOnFault?_eq_some_iff,
    addOnFault?_eq_none_iff] at fault
  rcases fault with ⟨key, s, said, wrong, before⟩ | ⟨addOns, fault⟩
  · rcases wrong with ⟨unknown, rfl⟩ | ⟨known, ⟨n, nameSpace, wrong⟩, rfl⟩
    · exact .unknownAddOn identified said before unknown
    · exact .emptyNamespace identified said before known nameSpace wrong
  rcases fault with ⟨name, ⟨before, g, after, groups, apart, wrong, rfl⟩, rfl⟩ | ⟨groups, fault⟩
  · exact .duplicateNodeGroup identified addOns groups apart wrong
  obtain ⟨p, ⟨wrong, rfl⟩ | ⟨before, wrong, rfl⟩, rfl⟩ := fault
  · exact .afterCreateCluster identified addOns groups.1 wrong
  · exact .afterCreateAddOns identified addOns groups.1 before wrong

/-- **The fault of a configuration is the first condition that it violates.** -/
theorem fault?_eq_some_iff : c.fault? = some e ↔ FirstFault c e := by
  constructor
  · intro fault
    by_cases version : c.version = 1
    · by_cases name : IsName c.name
      · by_cases region : Substantial c.region
        · exact firstFault_of_identified ⟨version, name, region⟩ fault
        · cases (fault?_of_region version name region).symm.trans fault
          exact .region version name region
      · cases (fault?_of_name version name).symm.trans fault
        exact .name version name
    · cases (fault?_of_version version).symm.trans fault
      exact .version version
  · intro first
    cases first with
    | version wrong => exact fault?_of_version wrong
    | name version wrong => exact fault?_of_name version wrong
    | region version name wrong => exact fault?_of_region version name wrong
    | unknownAddOn identified said before wrong =>
      exact fault?_of_addOn identified said before (addOnFault?_eq_some_iff.2 (.inl ⟨wrong, rfl⟩))
    | emptyNamespace identified said before known nameSpace wrong =>
      exact fault?_of_addOn identified said before
        (addOnFault?_eq_some_iff.2 (.inr ⟨known, ⟨_, nameSpace, wrong⟩, rfl⟩))
    | duplicateNodeGroup identified addOns groups apart wrong =>
      have repeats := firstRepeat?_groups.2 ⟨_, _, _, groups, apart, wrong, rfl⟩
      rw [fault?_of_identified identified, addOns_eq_none_iff.2 addOns, repeats]
      rfl
    | afterCreateCluster identified addOns groups wrong =>
      have lacks := find?_lacksOutput_eq_some_iff.2 (.inl ⟨wrong, rfl⟩)
      rw [fault?_of_addOns_groups identified addOns groups, lacks]
      rfl
    | afterCreateAddOns identified addOns groups before wrong =>
      have lacks := find?_lacksOutput_eq_some_iff.2 (.inr ⟨before, wrong, rfl⟩)
      rw [fault?_of_addOns_groups identified addOns groups, lacks]
      rfl

/-- **A configuration has no fault just if it is valid.** -/
theorem fault?_eq_none_iff : c.fault? = none ↔ Valid c := by
  constructor
  · intro sound
    have clear (e : ConfigError) : ¬FirstFault c e := fun first => by
      rw [fault?_eq_some_iff.2 first] at sound
      cases sound
    have version := by_contra fun wrong => clear _ (.version wrong)
    have name := by_contra fun wrong => clear _ (.name version wrong)
    have region := by_contra fun wrong => clear _ (.region version name wrong)
    have identified : Identified c := ⟨version, name, region⟩
    rw [fault?_of_identified identified] at sound
    simp only [Option.or_eq_none_iff, Option.map_eq_none_iff, addOns_eq_none_iff,
      firstRepeat?_eq_none_iff, find?_lacksOutput_eq_none_iff] at sound
    exact ⟨identified, sound.1, sound.2.1.1, sound.2.2⟩
  · intro valid
    rw [fault?_of_addOns_groups valid.toIdentified valid.addOns valid.groups,
      find?_lacksOutput_eq_none_iff.2 valid.hooks]
    rfl

theorem validate_eq_ok_iff {c : Config} : c.validate = .ok () ↔ c.fault? = none := by
  unfold validate
  cases c.fault? <;> simp

theorem validate_eq_error_iff {c : Config} {e : ConfigError} :
    c.validate = .error e ↔ c.fault? = some e := by
  unfold validate
  cases c.fault? <;> simp

end Testbed.Config
