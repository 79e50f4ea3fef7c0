import Testbed.Session.Basic

/-!
# Collecting results

At the end of a successful provisioning the requested logs are fetched, and if any were, the
add-ons aggregate their results. None of this can fail the saga.
-/

namespace Testbed.Session

variable {ω : Type}

/-- The components whose logs are wanted and that exist and can be driven, with what they can
do. -/
def logTargets (s : Session ω) : List (Component × Handle) :=
  let groups := NodeGroupKind.all.filterMap fun k =>
    let e := s.registry.nodeGroup k
    if e.enabled && (s.config.nodeGroup k).fetchLogs && s.document.nodeGroupCreated k then
      e.handle.map fun h => (.nodeGroup k, h)
    else none
  let addOns := s.registry.addOns.filterMap fun e =>
    let wanted := (s.config.addOn? e.kind).any fun a => a.fetchLogs
    if e.enabled && wanted && s.document.addOnCreated e.kind then
      e.handle.map fun h => (.addOn e.kind, h)
    else none
  groups ++ addOns

/-- The add-ons that exist and can aggregate results. -/
def aggregators (s : Session ω) : List Component :=
  (s.registry.addOns.filter fun e =>
    s.document.addOnCreated e.kind && e.handle.any fun h => h.aggregates).map fun e => .addOn e.kind

/-- Fetch the logs of one component; says whether that succeeded. The record names the component by
its label, which is also the name of its handle. -/
def fetchLogsOf (h : Host ω) (c : Component) (s : Session ω) : Bool × Session ω :=
  let (r, s) := s.attempt .up s!"fetch_logs {c.label}" (perform h (.fetchLogs c))
  (r.toBool, s)

/-- Fetch the logs of all components; says whether any of it succeeded. -/
def fetchLogs (h : Host ω) : List Component → Session ω → Bool × Session ω
  | [], s => (false, s)
  | c :: rest, s =>
    let (here, s) := s.fetchLogsOf h c
    let (there, s) := fetchLogs h rest s
    (here || there, s)

/-- Aggregate the results of one add-on. The record names it as that of a log fetch does. -/
def aggregateOf (h : Host ω) (s : Session ω) (c : Component) : Session ω :=
  (s.attempt .up s!"aggregate {c.label}" (perform h (.aggregate c))).2

/-- Collect the requested logs and aggregate results. -/
def collect (h : Host ω) (s : Session ω) : Session ω :=
  let targets := s.logTargets
  if targets.isEmpty then s
  else
    let (_, s) := s.settle h .up .logFetch
    let fetchers := (targets.filter fun t => t.2.fetchesLogs).map (·.1)
    let (fetched, s) := s.fetchLogs h fetchers
    if fetched then s.aggregators.foldl (aggregateOf h) s else s

end Testbed.Session
