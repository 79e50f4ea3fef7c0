import Testbed.Config.Basic

/-!
# Pauses that let things settle

The reasons for which a saga pauses, what each is called, and how long the configuration makes it.
-/

namespace Testbed

/-- Why a saga pauses. -/
inductive SettleReason
  | postCreate
  | addOnCleanup (kind : AddOnKind) (cleanup : Cleanup)
  | loadBalancerNetwork
  | nodeGroupDrain (kind : NodeGroupKind)
  | networkRelease
  | logFetch
  | compensationCooldown
  deriving DecidableEq

namespace SettleReason

/-- What a pause is called. -/
def text : SettleReason → String
  | postCreate => "cluster post-create"
  | addOnCleanup kind _ => s!"{kind.label} cleanup"
  | loadBalancerNetwork => "load balancer release"
  | nodeGroupDrain kind => s!"{kind.label} drain"
  | networkRelease => "network release"
  | logFetch => "log collection"
  | compensationCooldown => "compensation cool-down"

/-- How long a pause is, in seconds. -/
def seconds (c : Config) : SettleReason → Nat
  | postCreate => c.timings.postCreate
  | addOnCleanup _ .light => c.timings.lightAddOn
  | addOnCleanup _ .heavy => c.timings.addOn
  | addOnCleanup _ .loadBalancer => c.timings.loadBalancer
  | loadBalancerNetwork => c.timings.loadBalancerNetwork
  | nodeGroupDrain _ => c.timings.nodeGroup
  | networkRelease => c.timings.network
  | logFetch => c.timings.fetchLogs
  | compensationCooldown => c.onFailure.deleteWait

end SettleReason

end Testbed
