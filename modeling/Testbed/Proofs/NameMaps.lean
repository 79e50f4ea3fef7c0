import Mathlib.Data.List.Perm.Basic
import Testbed.NameMap

/-!
# Maps and their entries

A map is known by what it has under each name: its entries are what look-ups find
(`mem_entries`), and two maps that answer every look-up alike are equal (`ext_get?`), since the
order of the entries leaves no choice. A search through them finds what the first name in that order
yields (`findSome?_entries_iff`).
-/

namespace Testbed.NameMap

variable {α β : Type} {m m' : NameMap α}

theorem lookupEntry_of_mem {name : String} {a : α} {l : List (String × α)}
    (sorted : l.Pairwise (fun a b => a.1 < b.1)) (mem : (name, a) ∈ l) :
    lookupEntry name l = some a := by
  induction l with
  | nil => cases mem
  | cons e rest ih =>
    obtain ⟨n, v⟩ := e
    obtain ⟨first, sorted⟩ := List.pairwise_cons.1 sorted
    rcases List.mem_cons.1 mem with here | mem
    · cases here
      simp [lookupEntry]
    · have other : name ≠ n := fun same => String.lt_irrefl n (same ▸ first _ mem)
      rw [lookupEntry, if_neg other, ih sorted mem]

theorem mem_of_lookupEntry {name : String} {a : α} {l : List (String × α)}
    (found : lookupEntry name l = some a) : (name, a) ∈ l := by
  induction l with
  | nil => cases found
  | cons e rest ih =>
    obtain ⟨n, v⟩ := e
    rw [lookupEntry] at found
    split at found
    · next same =>
      cases found
      exact same ▸ List.mem_cons_self
    · exact List.mem_cons_of_mem _ (ih found)

theorem mem_entries {name : String} {a : α} : (name, a) ∈ m.entries ↔ m.get? name = some a :=
  ⟨lookupEntry_of_mem m.sorted, mem_of_lookupEntry⟩

/-- No entry stands twice, since the names increase. -/
theorem nodup_entries (m : NameMap α) : m.entries.Nodup := by
  refine List.Pairwise.imp (fun {a b} lt same => ?_) m.sorted
  rw [same] at lt
  exact String.lt_irrefl _ lt

/-- **Maps that answer every look-up alike are equal.** -/
theorem ext_get? (same : ∀ name, m.get? name = m'.get? name) : m = m' := by
  have perm : m.entries.Perm m'.entries := by
    rw [List.perm_ext_iff_of_nodup m.nodup_entries m'.nodup_entries]
    intro ⟨name, a⟩
    rw [mem_entries, mem_entries, same]
  refine NameMap.ext (perm.eq_of_pairwise (fun a b _ _ lt gt => ?_) m.sorted m'.sorted)
  exact absurd (String.lt_trans lt gt) (String.lt_irrefl _)

/-- **What a search through a map finds**: what the first name yields that yields anything. -/
theorem findSome?_entries_iff {f : String × α → Option β} {b : β} :
    m.entries.findSome? f = some b ↔ ∃ name a,
      m.get? name = some a ∧ f (name, a) = some b ∧
        ∀ name' a', name' < name → m.get? name' = some a' → f (name', a') = none := by
  constructor
  · intro found
    obtain ⟨before, ⟨name, a⟩, after, entries, yields, nothing⟩ :=
      List.findSome?_eq_some_iff.1 found
    have sorted := m.sorted
    rw [entries, List.pairwise_append, List.pairwise_cons] at sorted
    obtain ⟨-, ⟨later, -⟩, -⟩ := sorted
    refine ⟨name, a, mem_entries.1 (by simp [entries]), yields, fun name' a' lt said => ?_⟩
    have mem : (name', a') ∈ before ++ (name, a) :: after := entries ▸ mem_entries.2 said
    rcases List.mem_append.1 mem with mem | mem
    · exact nothing _ mem
    · rcases List.mem_cons.1 mem with here | mem
      · cases here
        exact absurd lt (String.lt_irrefl _)
      · exact absurd (String.lt_trans lt (later _ mem)) (String.lt_irrefl _)
  · rintro ⟨name, a, said, yields, nothing⟩
    obtain ⟨before, after, entries⟩ := List.append_of_mem (mem_entries.2 said)
    have sorted := m.sorted
    rw [entries, List.pairwise_append] at sorted
    refine List.findSome?_eq_some_iff.2 ⟨before, _, after, entries, yields, fun x mem => ?_⟩
    have there : (x.1, x.2) ∈ m.entries := entries ▸ List.mem_append_left _ mem
    exact nothing x.1 x.2 (sorted.2.2 x mem _ List.mem_cons_self) (mem_entries.1 there)

end Testbed.NameMap
