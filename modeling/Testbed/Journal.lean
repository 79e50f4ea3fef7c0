/-!
# The journal of sagas

The journal records every step and every pause of the sagas in the order in which they began. A
record is opened when its step begins and finished once when it ends.
-/

namespace Testbed

/-- The two sagas. -/
inductive Saga
  | up | down
  deriving DecidableEq

/-- The name of a saga. -/
def Saga.name : Saga → String
  | up => "up"
  | down => "down"

/-- What a record is about. -/
inductive RecordKind
  | step
  /-- A pause that lets things settle. -/
  | settle
  deriving DecidableEq

/-- The name of a record's kind. -/
def RecordKind.name : RecordKind → String
  | step => "step"
  | settle => "settle"

/-- How a step or pause stands. -/
inductive RecordStatus
  | running | succeeded | failed | interrupted
  /-- A pause that took its full length. -/
  | elapsed
  /-- A pause that the stop signal cut short. -/
  | cut
  deriving DecidableEq

namespace RecordStatus

/-- The name of a status. -/
def name : RecordStatus → String
  | running => "running"
  | succeeded => "succeeded"
  | failed => "failed"
  | interrupted => "interrupted"
  | elapsed => "elapsed"
  | cut => "cut"

/-- The status of that name. -/
def ofName? (s : String) : Option RecordStatus :=
  [running, succeeded, failed, interrupted, elapsed, cut].find? fun r => r.name = s

end RecordStatus

/-- One step or pause. -/
structure Record where
  saga : Saga
  kind : RecordKind
  name : String
  status : RecordStatus := .running
  /-- What went wrong. -/
  detail : Option String := none
  /-- Whether it has been finished. -/
  ended : Bool := false
  deriving DecidableEq

/-- What a record is called in listings. -/
def Record.label (r : Record) : String := s!"{r.kind.name} {r.name}"

/-- Records in the order in which they were opened. -/
structure Journal where
  /-- The records. -/
  records : List Record := []
  deriving DecidableEq

namespace Journal

/-- Open a record. -/
def start (j : Journal) (saga : Saga) (kind : RecordKind) (name : String) : Journal :=
  ⟨j.records ++ [{ saga := saga, kind := kind, name := name }]⟩

/-- The number of the record that `start` would open. -/
def next (j : Journal) : Nat := j.records.length

/-- Finish the record of a number; without such a record nothing changes. -/
def finish (j : Journal) (index : Nat) (status : RecordStatus) (detail : Option String) :
    Journal :=
  ⟨j.records.modify index fun r => { r with status, detail, ended := true }⟩

/-- What the records of one saga are called. -/
def labels (j : Journal) (saga : Saga) : List String :=
  (j.records.filter fun r => r.saga = saga).map (·.label)

/-- The records of steps that failed. -/
def failed (j : Journal) : List Record := j.records.filter fun r => r.status = .failed

/-- The number of records with a status. -/
def count (j : Journal) (status : RecordStatus) : Nat :=
  j.records.countP fun r => r.status = status

/-- The counts of a journal in words. -/
def summary (j : Journal) : String :=
  s!"{j.records.length} records: {j.count .succeeded} succeeded, {j.count .failed} failed, "
    ++ s!"{j.count .interrupted} interrupted, {j.count .cut} settles cut short"

end Journal

end Testbed
