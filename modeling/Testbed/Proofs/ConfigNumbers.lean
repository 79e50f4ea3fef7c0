import Testbed.Config.Reader
import Testbed.Proofs.IntegerRange

/-!
# Numbers of a configuration

Durations are numbers of 64 bits without a sign, but the format only has integers with a sign, so
not every configuration can be written.

**Theorem (`small_of_ofTable`).** A configuration that a document gives has only numbers that the
format can hold; those of 32 bits are kept within them.
-/

namespace Testbed

open Toml

/-! ## Small numbers -/

/-- Its number has 64 bits with a sign. -/
def ProviderSection.Small (s : ProviderSection) : Prop := s.commandTimeout < Nat.pow 2 63

/-- Its number has 32 bits. -/
def NodeGroup.Small (g : NodeGroup) : Prop := ∀ n ∈ g.desiredNodes, n < Nat.pow 2 32

/-- The numbers of its groups have 32 bits. -/
def NodeGroupSection.Small (s : NodeGroupSection) : Prop := ∀ g ∈ s.groups, g.Small

/-- Its number has 64 bits with a sign. -/
def HooksSection.Small (s : HooksSection) : Prop := s.timeout < Nat.pow 2 63

/-- Its number has 64 bits with a sign. -/
def OnFailureSection.Small (s : OnFailureSection) : Prop := s.deleteWait < Nat.pow 2 63

/-- The times have 64 bits with a sign, the number of attempts has 32 bits. -/
structure Timings.Small (s : Timings) : Prop where
  postCreate : s.postCreate < Nat.pow 2 63
  addOn : s.addOn < Nat.pow 2 63
  lightAddOn : s.lightAddOn < Nat.pow 2 63
  loadBalancer : s.loadBalancer < Nat.pow 2 63
  loadBalancerNetwork : s.loadBalancerNetwork < Nat.pow 2 63
  nodeGroup : s.nodeGroup < Nat.pow 2 63
  network : s.network < Nat.pow 2 63
  fetchLogs : s.fetchLogs < Nat.pow 2 63
  healthAttempts : s.healthAttempts < Nat.pow 2 32
  healthInterval : s.healthInterval < Nat.pow 2 63

/-- All numbers of a configuration fit their fields, and the format. -/
structure Config.Small (c : Config) : Prop where
  version : c.version < Nat.pow 2 32
  provider : c.provider.Small
  nodeGroups : c.nodeGroups.Small
  managedNodeGroups : c.managedNodeGroups.Small
  hooks : c.hooks.Small
  onFailure : c.onFailure.Small
  timings : c.timings.Small

/-! ## What a document gives -/

namespace Config

variable {name : String}

theorem gives_provider : (Reader.record name providerFields {}).Gives ProviderSection.Small := by
  have start : (1800 : Nat) < Nat.pow 2 63 := by decide
  refine Reader.gives_record ?_ start
  simp only [providerFields, List.forall_mem_cons]
  refine ⟨.any fun _ _ => id, .any fun _ _ => id, ?_, nofun⟩
  exact .of_gives (Reader.gives_natural _ _) fun _ _ small _ => small.2

theorem gives_nodeGroup :
    (Reader.record name nodeGroupFields { name := "" }).Gives NodeGroup.Small := by
  refine Reader.gives_record ?_ nofun
  simp only [nodeGroupFields, List.forall_mem_cons]
  refine ⟨.any fun _ _ => id, .any fun _ _ => id, ?_, nofun⟩
  exact .of_gives (Reader.gives_natural _ _).present fun _ _ small _ n mem => (small n mem).1

theorem gives_nodeGroupSection :
    (Reader.record name nodeGroupSectionFields {}).Gives NodeGroupSection.Small := by
  refine Reader.gives_record ?_ nofun
  simp only [nodeGroupSectionFields, componentFields, List.cons_append, List.nil_append,
    List.forall_mem_cons]
  refine ⟨.any fun _ _ => id, .any fun _ _ => id, ?_, .any fun _ _ => id, .any fun _ _ => id,
    .any fun _ _ => id, .any fun _ _ => id, nofun⟩
  exact .of_gives gives_nodeGroup.list fun _ _ small _ => small

theorem gives_hooks : (Reader.record name hookFields {}).Gives HooksSection.Small := by
  have start : (300 : Nat) < Nat.pow 2 63 := by decide
  refine Reader.gives_record ?_ start
  simp only [hookFields, List.forall_mem_cons]
  refine ⟨.any fun _ _ => id, .any fun _ _ => id, .any fun _ _ => id, .any fun _ _ => id, ?_, nofun⟩
  exact .of_gives (Reader.gives_natural _ _) fun _ _ small _ => small.2

theorem gives_onFailure : (Reader.record name onFailureFields {}).Gives OnFailureSection.Small := by
  have start : (120 : Nat) < Nat.pow 2 63 := by decide
  refine Reader.gives_record ?_ start
  simp only [onFailureFields, List.forall_mem_cons]
  refine ⟨.any fun _ _ => id, ?_, nofun⟩
  exact .of_gives (Reader.gives_natural _ _) fun _ _ small _ => small.2

theorem gives_timings : (Reader.record name timingFields {}).Gives Timings.Small := by
  refine Reader.gives_record ?_ (by constructor <;> decide)
  simp only [timingFields, List.forall_mem_cons]
  have word64 := Reader.gives_natural "u64" (Nat.pow 2 64)
  have word32 := Reader.gives_natural "u32" (Nat.pow 2 32)
  refine ⟨.of_gives word64 fun _ _ n s => { s with postCreate := n.2 },
    .of_gives word64 fun _ _ n s => { s with addOn := n.2 },
    .of_gives word64 fun _ _ n s => { s with lightAddOn := n.2 },
    .of_gives word64 fun _ _ n s => { s with loadBalancer := n.2 },
    .of_gives word64 fun _ _ n s => { s with loadBalancerNetwork := n.2 },
    .of_gives word64 fun _ _ n s => { s with nodeGroup := n.2 },
    .of_gives word64 fun _ _ n s => { s with network := n.2 },
    .of_gives word64 fun _ _ n s => { s with fetchLogs := n.2 },
    .of_gives word32 fun _ _ n s => { s with healthAttempts := n.1 },
    .of_gives word64 fun _ _ n s => { s with healthInterval := n.2 }, nofun⟩

/-- What a document gives has only numbers that fit. -/
theorem small_of_ofTable {t : Table} (within : ∀ f ∈ t, f.2.Within) {c : Config}
    (read : ofTable t = .ok c) : c.Small := by
  have start : Small { version := 0, name := "", region := "" } := by
    refine ⟨by decide, ?_, nofun, nofun, ?_, ?_, by constructor <;> decide⟩
    · exact show (1800 : Nat) < Nat.pow 2 63 by decide
    · exact show (300 : Nat) < Nat.pow 2 63 by decide
    · exact show (120 : Nat) < Nat.pow 2 63 by decide
  refine Reader.keeps_readFields ?_ within start read
  simp only [fields, List.forall_mem_cons]
  refine ⟨.of_gives (Reader.gives_natural _ _) fun _ _ n s => { s with version := n.1 },
    .any fun _ _ s => { s with }, .any fun _ _ s => { s with }, .any fun _ _ s => { s with },
    .of_gives gives_provider fun _ _ p s => { s with provider := p },
    .any fun _ _ s => { s with },
    .of_gives gives_nodeGroupSection fun _ _ g s => { s with nodeGroups := g },
    .of_gives gives_nodeGroupSection fun _ _ g s => { s with managedNodeGroups := g },
    .any fun _ _ s => { s with },
    .of_gives gives_hooks fun _ _ h s => { s with hooks := h },
    .of_gives gives_onFailure fun _ _ f s => { s with onFailure := f },
    .of_gives gives_timings fun _ _ n s => { s with timings := n }, nofun⟩

end Config

end Testbed
