import Testbed.Cli.Failure
import Testbed.Cli.Usage
import Testbed.Json.Value
import Testbed.Session.Basic
import Testbed.State.Text

/-!
# Reports

What commands print: a text for people, or one JSON value. Both are made from the same values.
-/

namespace Testbed

/-! ## Journals -/

/-- A record as JSON. -/
def Record.toJson (r : Record) : Json :=
  .object ([("saga", .string r.saga.name), ("kind", .string r.kind.name), ("name", .string r.name),
    ("status", .string r.status.name)] ++ (r.detail.map fun d => ("detail", Json.string d)).toList)

/-- A journal as JSON. -/
def Journal.toJson (j : Journal) : Json := .array (j.records.map (·.toJson))

namespace Cli

/-- What a command printed and how it ended. -/
structure Report where
  /-- The text on standard output. -/
  output : String := ""
  /-- The exit code, or what went wrong. -/
  ending : Except Failure Nat := .ok 0

namespace Report

/-- A report that prints lines. -/
def lines (l : List String) : Report := { output := String.join (l.map fun s => s ++ "\n") }

/-- A report that prints a JSON value. -/
def value (fields : List (String × Json)) : Report :=
  { output := (Json.object fields).pretty ++ "\n" }

/-- A report of a failure alone. -/
def failed (e : Failure) : Report := { ending := .error e }

/-- The same report with another ending. -/
def endingWith (r : Report) (ending : Except Failure Nat) : Report := { r with ending := ending }

/-- The text on standard error. -/
def complaint (r : Report) : String :=
  match r.ending with
  | .ok _ => ""
  | .error e => s!"error: {e.message}\n"

/-- The exit code. -/
def exitCode (r : Report) : Nat :=
  match r.ending with
  | .ok code => code
  | .error e => exitCodeOf e.message

end Report

/-! ## Configurations -/

/-- The names of the enabled families of node groups. -/
def enabledNodeGroups (c : Config) : List String :=
  (NodeGroupKind.all.filter fun k => (c.nodeGroup k).enable).map (·.label)

/-- The names of the enabled add-ons. -/
def enabledAddOns (c : Config) : List String := (AddOnKind.all.filter c.addOnEnabled).map (·.name)

/-- Names as JSON. -/
def namesJson (l : List String) : Json := .array (l.map .string)

/-- What is told of a valid configuration. -/
def validReport (s : Settings) (c : Config) (provider : String) : Report :=
  let groups := enabledNodeGroups c
  let addOns := enabledAddOns c
  if s.json then
    .value [("valid", .boolean true), ("name", .string c.name), ("region", .string c.region),
      ("provider", .string provider), ("node_groups", namesJson groups),
      ("add_ons", namesJson addOns), ("gpu_drivers", .boolean c.needsGpuDrivers)]
  else
    let listed (l : List String) := ", ".intercalate l
    let enabled := if addOns.isEmpty then "(none)" else listed addOns
    .lines ([s!"{s.config} is valid", s!"  name:        {c.name}", s!"  region:      {c.region}",
      s!"  provider:    {provider}"]
      ++ (if groups.isEmpty then [] else [s!"  node groups: {listed groups}"])
      ++ [s!"  add-ons:     {enabled}"])

/-! ## Sagas -/

/-- The message of a failure, if there is one. -/
def errorJson (r : Except SagaError Unit) : Json := .orNull ((failureOf r).map (·.message))

/-- What is told of an environment that was brought up, or not. -/
def upReport (s : Settings) (statePath : String) (name : String) (journal : Journal)
    (r : Except SagaError Unit) : Report :=
  let told : Report :=
    if s.json then
      .value [("name", .string name), ("status", .string (if r.toBool then "up" else "failed")),
        ("error", errorJson r), ("state_file", .string statePath), ("journal", journal.toJson)]
    else .lines [journal.summary]
  told.endingWith ((r.map fun _ => 0).mapError .saga)

/-- What is told of an environment that was torn down, or not; `existed` says whether there was
anything to tear down. -/
def downReport (s : Settings) (existed : Bool) (name : String) (journal : Journal)
    (r : Except SagaError Unit) : Report :=
  let told : Report :=
    if s.json then
      .value [("name", .string name), ("status", .string (if r.toBool then "down" else "failed")),
        ("error", errorJson r), ("journal", journal.toJson)]
    else .lines [if existed then journal.summary else "nothing to tear down"]
  told.endingWith ((r.map fun _ => 0).mapError .saga)

/-- What is told of whether an environment is up: why not, if it is not. -/
def healthReport (s : Settings) (name : String) (reason : Option String) : Report :=
  let told : Report :=
    if s.json then
      .value [("name", .string name), ("up", .boolean reason.isNone), ("reason", .orNull reason)]
    else .lines [reason.elim s!"{name} is up" fun r => s!"{name} is down: {r}"]
  told.endingWith (.ok (if reason.isNone then 0 else 1))

/-! ## Recorded states -/

/-- Whether something exists, in words. -/
def createdText (created : Bool) : String := if created then "created" else "absent"

/-- What follows on the line of something that the configuration does not want. -/
def disabledText (enabled : Bool) : String := if enabled then "" else " (disabled)"

/-- A name filled up with blanks, then what is told of it. -/
def column (width : Nat) (name text : String) : String := s!"  {padded width name} {text}"

/-- The lines on the components of one map, if there are any. -/
def componentLines (heading : String) (width : Nat) (l : List (String × ComponentState)) :
    List String :=
  if l.isEmpty then []
  else s!"{heading}:" :: l.map fun (name, c) =>
    column width name (createdText c.created ++ disabledText c.enabled)

/-- A line on something that may not be known. -/
def optionalLine (label : String) (value : Option String) : List String :=
  (value.map fun v => s!"  {label}{v}").toList

/-- The lines on a state document. -/
def documentLines (d : StateDocument) : List String :=
  [d.name ++ if d.up then ": up" else ": down"]
  ++ optionalLine "up since:  " d.upAt ++ optionalLine "down at:   " d.downAt
  ++ optionalLine "endpoint:  " d.cluster.endpoint
  ++ ["resources:"]
  ++ ResourceKind.all.map (fun k => column 16 k.name (createdText (d.resourceCreated k)))
  ++ componentLines "node groups" 16 d.nodeGroups.entries
  ++ componentLines "add-ons" 28 (d.addOns.entries.filter fun e => e.2.enabled || e.2.created)

/-- What is told of the recorded state. -/
def statusReport (s : Settings) (statePath : String) (name : String) (d : Option StateDocument) :
    Report :=
  if s.json then
    .value [("name", .string (d.elim name (·.name))), ("up", .boolean (d.any (·.up))),
      ("state_file", .string statePath), ("state", d.elim .null (·.toJson))]
  else .lines (d.elim [s!"{name}: no state recorded"] documentLines)

end Cli

end Testbed
