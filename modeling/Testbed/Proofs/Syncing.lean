import Testbed.Proofs.Intent
import Testbed.Proofs.NameMaps

/-!
# The laws of syncing

An entry of the document holds facts, which the sagas record, and intent, which repeats the
configuration. Syncing writes the intent and keeps the facts. So reading a configuration twice is
reading it once, and of two configurations the last one counts. What an earlier configuration leaves
behind is at most an entry of something that is neither wanted nor created.

**Theorem (`syncIntent_laws`).** This is so for all documents and configurations, whatever entries
the document has and under whatever names.

Each law is proved for a single entry (`Intent.read`), and then for all names of a map at once
(`ReadInto`). Add-ons and node groups differ only in what is written.
-/

namespace Testbed

/-! ## Single entries -/

/-- What a configuration says of one component. -/
structure Intent where
  /-- Whether the component is wanted. -/
  wanted : Bool
  /-- How the configuration is repeated in the component's entry. -/
  write : ComponentState → ComponentState

namespace Intent

/-- The entry of a component once its intent was read; what is not wanted gets none. -/
def read (i : Intent) (e? : Option ComponentState) : Option ComponentState :=
  if !i.wanted && !e?.isSome then none else some (i.write (e?.getD {}))

/-- An intent writes whether the component is wanted, and no facts. -/
structure Proper (i : Intent) : Prop where
  enabled : ∀ e, (i.write e).enabled = i.wanted
  created : ∀ e, (i.write e).created = e.created
  createdAt : ∀ e, (i.write e).createdAt = e.createdAt

/-- Nothing that one intent writes is left once another was written. -/
def OverwrittenBy (i j : Intent) : Prop := ∀ e, j.write (i.write e) = j.write e

variable {i j : Intent} {e? : Option ComponentState} {e' : ComponentState}

@[simp] theorem read_some (i : Intent) (e : ComponentState) :
    i.read (some e) = some (i.write e) := by
  simp [read]

theorem read_none_of_wanted (wanted : i.wanted = true) : i.read none = some (i.write {}) := by
  simp [read, wanted]

theorem read_none_of_unwanted (unwanted : i.wanted = false) : i.read none = none := by
  simp [read, unwanted]

/-- What is wanted has an entry afterwards. -/
theorem read_ne_none (wanted : i.wanted = true) : i.read e? ≠ none := by
  cases e? with
  | some e => simp
  | none => simp [read_none_of_wanted wanted]

/-- Every entry that there is afterwards was written. -/
theorem eq_write_of_read (entry : i.read e? = some e') : e' = i.write (e?.getD {}) := by
  unfold read at entry
  split at entry
  · cases entry
  · cases entry
    rfl

/-- Where there was an entry there is the same one. Where there was none, there may be one of
something that is neither wanted nor created. -/
inductive Covers : Option ComponentState → Option ComponentState → Prop
  | same (e? : Option ComponentState) : Covers e? e?
  | idle {e : ComponentState} (disabled : e.enabled = false) (absent : e.created = false) :
    Covers none (some e)

/-- **Reading an intent twice is reading it once.** -/
theorem read_read (overwritten : i.OverwrittenBy i) (e? : Option ComponentState) :
    i.read (i.read e?) = i.read e? := by
  cases entry : i.read e? with
  | some e' => rw [read_some, eq_write_of_read entry, overwritten]
  | none =>
    cases e? with
    | some e => cases (read_some i e).symm.trans entry
    | none => exact entry

/-- **Of two intents the last one counts.** -/
theorem covers_read (overwritten : i.OverwrittenBy j) (proper : j.Proper)
    (e? : Option ComponentState) : Covers (j.read e?) (j.read (i.read e?)) := by
  cases e? with
  | some e =>
    rw [read_some, read_some, read_some, overwritten]
    exact .same _
  | none =>
    cases wanted : i.wanted with
    | false =>
      rw [read_none_of_unwanted wanted]
      exact .same _
    | true =>
      -- The first intent made an entry, which stays even if the second has no use for it.
      rw [read_none_of_wanted wanted, read_some, overwritten]
      cases wanted' : j.wanted with
      | true =>
        rw [read_none_of_wanted wanted']
        exact .same _
      | false =>
        rw [read_none_of_unwanted wanted']
        exact .idle ((proper.enabled _).trans wanted') (proper.created _)

end Intent

/-! ## Add-ons and node groups -/

/-- What a configuration says of an add-on. -/
def AddOnKind.intent (c : Config) (k : AddOnKind) : Intent where
  wanted := c.addOnEnabled k
  write e := { e with
    enabled := c.addOnEnabled k
    fetchLogsRequested := (c.addOn? k).any fun s => s.fetchLogs
    nameSpace := (c.addOn? k).bind fun s => s.nameSpace }

/-- What a configuration says of a family of node groups. -/
def NodeGroupKind.intent (c : Config) (k : NodeGroupKind) : Intent where
  wanted := (c.nodeGroup k).enable
  write e := { e with
    enabled := (c.nodeGroup k).enable
    fetchLogsRequested := (c.nodeGroup k).fetchLogs }

theorem AddOnKind.proper (c : Config) (k : AddOnKind) : (k.intent c).Proper :=
  ⟨fun _ => rfl, fun _ => rfl, fun _ => rfl⟩

theorem NodeGroupKind.proper (c : Config) (k : NodeGroupKind) : (k.intent c).Proper :=
  ⟨fun _ => rfl, fun _ => rfl, fun _ => rfl⟩

theorem AddOnKind.overwritten (c c' : Config) (k : AddOnKind) :
    (k.intent c).OverwrittenBy (k.intent c') := fun _ => rfl

theorem NodeGroupKind.overwritten (c c' : Config) (k : NodeGroupKind) :
    (k.intent c).OverwrittenBy (k.intent c') := fun _ => rfl

/-- An entry says of an add-on what a configuration says; where that says nothing, the add-on is
off. -/
structure AddOnKind.Repeats (c : Config) (k : AddOnKind) (e : ComponentState) : Prop where
  said : ∀ s, c.addOn? k = some s →
    e.enabled = s.enable ∧ e.fetchLogsRequested = s.fetchLogs ∧ e.nameSpace = s.nameSpace
  unsaid : c.addOn? k = none →
    e.enabled = false ∧ e.fetchLogsRequested = false ∧ e.nameSpace = none

theorem AddOnKind.repeats_write (c : Config) (k : AddOnKind) (e : ComponentState) :
    k.Repeats c ((k.intent c).write e) where
  said s said := by simp [intent, Config.addOnEnabled, said]
  unsaid unsaid := by simp [intent, Config.addOnEnabled, unsaid]

/-- An entry says of a family of node groups what a configuration says. -/
structure NodeGroupKind.Repeats (c : Config) (k : NodeGroupKind) (e : ComponentState) : Prop where
  enabled : e.enabled = (c.nodeGroup k).enable
  fetchLogs : e.fetchLogsRequested = (c.nodeGroup k).fetchLogs

/-! ## All entries of a map -/

/-- The intent of each component was read into the entry of its name. -/
structure ReadInto {κ : Type} (kindName : κ → String) (intent : κ → Intent)
    (m m' : NameMap ComponentState) : Prop where
  known : ∀ k, m'.get? (kindName k) = (intent k).read (m.get? (kindName k))
  other : ∀ name, (∀ k, name ≠ kindName k) → m'.get? name = m.get? name

/-- No entry is lost, and no fact of any. What is added is wanted, and does not exist so far. -/
structure KeepsFacts (wanted : String → Prop) (m m' : NameMap ComponentState) : Prop where
  kept : ∀ name e, m.get? name = some e →
    ∃ e', m'.get? name = some e' ∧ e'.created = e.created ∧ e'.createdAt = e.createdAt
  added : ∀ name e', m'.get? name = some e' → m.get? name = none →
    wanted name ∧ e'.created = false ∧ e'.createdAt = none

namespace ReadInto

variable {κ : Type} {kindName : κ → String} {intent intent' : κ → Intent}
  {m m' n n' : NameMap ComponentState}

theorem keepsFacts (into : ReadInto kindName intent m m') (proper : ∀ k, (intent k).Proper) :
    KeepsFacts (fun name => ∃ k, kindName k = name ∧ (intent k).wanted = true) m m' where
  kept name e entry := by
    by_cases component : ∃ k, name = kindName k
    · obtain ⟨k, rfl⟩ := component
      refine ⟨(intent k).write e, ?_, (proper k).created e, (proper k).createdAt e⟩
      rw [into.known k, entry, Intent.read_some]
    · refine ⟨e, ?_, rfl, rfl⟩
      rw [into.other name fun k same => component ⟨k, same⟩, entry]
  added name e' entry new := by
    by_cases component : ∃ k, name = kindName k
    · obtain ⟨k, rfl⟩ := component
      rw [into.known k, new] at entry
      have written := Intent.eq_write_of_read entry
      cases wanted : (intent k).wanted with
      | true =>
        rw [written]
        exact ⟨⟨k, rfl, wanted⟩, (proper k).created _, (proper k).createdAt _⟩
      | false =>
        rw [Intent.read_none_of_unwanted wanted] at entry
        cases entry
    · rw [into.other name fun k same => component ⟨k, same⟩, new] at entry
      cases entry

/-- Reading the same twice leaves the map as it is. -/
theorem again (first : ReadInto kindName intent m n) (second : ReadInto kindName intent n n')
    (overwritten : ∀ k, (intent k).OverwrittenBy (intent k)) : n' = n := by
  refine NameMap.ext_get? fun name => ?_
  by_cases component : ∃ k, name = kindName k
  · obtain ⟨k, rfl⟩ := component
    rw [second.known k, first.known k, Intent.read_read (overwritten k)]
  · exact second.other name fun k same => component ⟨k, same⟩

/-- Reading something else in between adds at most entries of what is neither wanted nor created. -/
theorem covers (once : ReadInto kindName intent' m m') (first : ReadInto kindName intent m n)
    (second : ReadInto kindName intent' n n')
    (overwritten : ∀ k, (intent k).OverwrittenBy (intent' k)) (proper : ∀ k, (intent' k).Proper)
    (name : String) : Intent.Covers (m'.get? name) (n'.get? name) := by
  by_cases component : ∃ k, name = kindName k
  · obtain ⟨k, rfl⟩ := component
    rw [once.known k, second.known k, first.known k]
    exact Intent.covers_read (overwritten k) (proper k) _
  · have other : ∀ k, name ≠ kindName k := fun k same => component ⟨k, same⟩
    rw [once.other name other, second.other name other, first.other name other]
    exact .same _

end ReadInto

namespace StateDocument

theorem readInto_addOns (d : StateDocument) (c : Config) :
    ReadInto AddOnKind.name (AddOnKind.intent c) d.addOns (d.syncIntent c).addOns where
  known := get?_addOns_syncIntent d c
  other _ other := get?_addOns_syncIntent_other other

theorem readInto_nodeGroups (d : StateDocument) (c : Config) :
    ReadInto NodeGroupKind.name (NodeGroupKind.intent c) d.nodeGroups
      (d.syncIntent c).nodeGroups where
  known := get?_nodeGroups_syncIntent d c
  other _ other := get?_nodeGroups_syncIntent_other other

/-! ## The laws -/

/-- `d'` is `d` with the intent of a configuration: all that differs is what entries repeat of
it. -/
structure IntentOnly (c : Config) (d d' : StateDocument) : Prop where
  rest : d' = { d with addOns := d'.addOns, nodeGroups := d'.nodeGroups }
  addOns : KeepsFacts (fun name => ∃ k : AddOnKind, k.name = name ∧ c.addOnEnabled k = true)
    d.addOns d'.addOns
  nodeGroups : KeepsFacts
    (fun name => ∃ k : NodeGroupKind, k.name = name ∧ (c.nodeGroup k).enable = true)
    d.nodeGroups d'.nodeGroups
  /-- The namespaces of node groups are no matter of the configuration. -/
  nameSpaces : ∀ name e, d'.nodeGroups.get? name = some e →
    e.nameSpace = (d.nodeGroups.get? name).bind (·.nameSpace)
  addOnsRepeat : ∀ (k : AddOnKind) e, d'.addOns.get? k.name = some e → k.Repeats c e
  nodeGroupsRepeat : ∀ (k : NodeGroupKind) e, d'.nodeGroups.get? k.name = some e → k.Repeats c e

theorem intentOnly (d : StateDocument) (c : Config) : IntentOnly c d (d.syncIntent c) where
  rest := rfl
  addOns := (d.readInto_addOns c).keepsFacts (AddOnKind.proper c)
  nodeGroups := (d.readInto_nodeGroups c).keepsFacts (NodeGroupKind.proper c)
  nameSpaces name e entry := by
    by_cases component : ∃ k : NodeGroupKind, name = k.name
    · obtain ⟨k, rfl⟩ := component
      rw [get?_nodeGroups_syncIntent] at entry
      exact NodeGroupKind.nameSpace_intended entry
    · rw [(d.readInto_nodeGroups c).other name fun k same => component ⟨k, same⟩] at entry
      rw [entry]
      rfl
  addOnsRepeat k e entry := by
    rw [(d.readInto_addOns c).known k] at entry
    rw [Intent.eq_write_of_read entry]
    exact k.repeats_write c _
  nodeGroupsRepeat k e entry := by
    rw [(d.readInto_nodeGroups c).known k] at entry
    rw [Intent.eq_write_of_read entry]
    exact ⟨rfl, rfl⟩

/-- `d'` is `d`, but for further entries of what is neither wanted nor created. -/
structure Overlays (d d' : StateDocument) : Prop where
  rest : d' = { d with addOns := d'.addOns, nodeGroups := d'.nodeGroups }
  addOns : ∀ name, Intent.Covers (d.addOns.get? name) (d'.addOns.get? name)
  nodeGroups : ∀ name, Intent.Covers (d.nodeGroups.get? name) (d'.nodeGroups.get? name)

theorem overlays_syncIntent (d : StateDocument) (c c' : Config) :
    Overlays (d.syncIntent c') ((d.syncIntent c).syncIntent c') where
  rest := rfl
  addOns := (d.readInto_addOns c').covers (d.readInto_addOns c) (readInto_addOns _ c')
    (AddOnKind.overwritten c c') (AddOnKind.proper c')
  nodeGroups := (d.readInto_nodeGroups c').covers (d.readInto_nodeGroups c)
    (readInto_nodeGroups _ c') (NodeGroupKind.overwritten c c') (NodeGroupKind.proper c')

/-- **Syncing writes the intent only, does so once and for all, and the last configuration counts.**
No entry and no fact is lost, nothing outside the entries changes, and an entry is added only for
what is wanted. Afterwards the entries say what the configuration says. -/
theorem syncIntent_laws (d : StateDocument) (c c' : Config) :
    IntentOnly c d (d.syncIntent c) ∧
      (d.syncIntent c).syncIntent c = d.syncIntent c ∧
      Overlays (d.syncIntent c') ((d.syncIntent c).syncIntent c') := by
  refine ⟨intentOnly d c, ?_, overlays_syncIntent d c c'⟩
  have addOns : ((d.syncIntent c).syncIntent c).addOns = (d.syncIntent c).addOns :=
    (d.readInto_addOns c).again (readInto_addOns _ c) (AddOnKind.overwritten c c)
  have nodeGroups : ((d.syncIntent c).syncIntent c).nodeGroups = (d.syncIntent c).nodeGroups :=
    (d.readInto_nodeGroups c).again (readInto_nodeGroups _ c) (NodeGroupKind.overwritten c c)
  have rest : (d.syncIntent c).syncIntent c = { d.syncIntent c with
      addOns := ((d.syncIntent c).syncIntent c).addOns
      nodeGroups := ((d.syncIntent c).syncIntent c).nodeGroups } := rfl
  rw [rest, addOns, nodeGroups]

end StateDocument

end Testbed
