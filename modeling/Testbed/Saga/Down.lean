import Testbed.Session.Query

/-!
# The down saga

Everything that is recorded as created is deleted, in the reverse of the order in which it was
needed: first what the cluster carries, then the node groups, then the cluster and what it rests
on. The stop signal does not end a teardown, and a failed deletion does not keep the others from
being tried.
-/

namespace Testbed.Session

variable {ω : Type}

/-! ## The order of deletion -/

/-- A deletion with the pauses around it. -/
structure Removal where
  component : Component
  /-- The pause before it. -/
  before : Option SettleReason := none
  /-- The pause after it. -/
  after : Option SettleReason := none
  deriving DecidableEq

namespace Removal

/-- The removal of a resource. -/
def resource (k : ResourceKind) : Removal where
  component := .resource k
  before := if k = .network then some .networkRelease else none

/-- The removal of an add-on. -/
def addOn (k : AddOnKind) : Removal where
  component := .addOn k
  after := some (.addOnCleanup k k.cleanup)

/-- The removal of a family of node groups. -/
def nodeGroup (k : NodeGroupKind) : Removal where
  component := .nodeGroup k
  after := some (.nodeGroupDrain k)

/-- What goes first: the key pair and the add-ons without a load balancer. -/
def unbalanced (r : Registry) : List Removal :=
  resource .keyPair ::
    ((r.addOns.map (·.kind)).reverse.filter fun k => !k.holdsLoadBalancer).map addOn

/-- The add-ons with a load balancer. -/
def balanced (r : Registry) : List Removal :=
  ((r.addOns.map (·.kind)).reverse.filter fun k => k.holdsLoadBalancer).map addOn

/-- What goes before the load balancers have released the network. -/
def beforeRelease (r : Registry) : List Removal := unbalanced r ++ balanced r

/-- What goes afterwards. -/
def afterRelease : List Removal :=
  [nodeGroup .managed, nodeGroup .unmanaged, resource .cluster, resource .encryptionKey,
   resource .clusterRole, resource .network, resource .bucket]

end Removal

/-! ## The run -/

/-- A teardown under way. -/
structure Teardown (ω : Type) where
  session : Session ω
  /-- What went wrong so far, in order. -/
  faults : List TeardownFault := []

namespace Teardown

/-- Pause. -/
def settle (h : Host ω) (reason : SettleReason) (t : Teardown ω) : Teardown ω :=
  { t with session := (t.session.settle h .down reason).2 }

/-- Change the document. -/
def update (h : Host ω) (change : String → StateDocument → StateDocument) (t : Teardown ω) :
    Teardown ω :=
  match t.session.update h change with
  | (.ok _, s) => { t with session := s }
  | (.error e, s) => ⟨s, t.faults ++ [.persist e]⟩

/-- Delete a component and record that it is gone. -/
def delete (h : Host ω) (c : Component) (t : Teardown ω) : Teardown ω :=
  let step := s!"delete {c.label}"
  match t.session.attempt .down step (perform h (.delete c)) with
  | (.ok _, s) => update h (fun now d => d.set c false now) { t with session := s }
  | (.error e, s) => ⟨s, t.faults ++ [.step step e]⟩

/-- Carry out a removal of something recorded as created. What cannot be driven ends the
teardown. -/
def remove (h : Host ω) (r : Removal) (t : Teardown ω) : Except SagaError Unit × Teardown ω :=
  if !t.session.document.isCreated r.component then (.ok (), t)
  else if !t.session.registry.drives r.component then (.error (.missingHandle r.component), t)
  else
    let t := r.before.elim t fun reason => t.settle h reason
    let t := t.delete h r.component
    (.ok (), r.after.elim t fun reason => t.settle h reason)

/-- Carry out one removal after the other. -/
def removeAll (h : Host ω) : List Removal → Teardown ω → Except SagaError Unit × Teardown ω
  | [], t => (.ok (), t)
  | r :: rest, t =>
    match t.remove h r with
    | (.ok _, t) => removeAll h rest t
    | (.error e, t) => (.error e, t)

/-- Carry out one removal after the other, noting whether one of them finds something to delete. -/
def removeNoting (h : Host ω) :
    List Removal → Bool → Teardown ω → Except SagaError Bool × Teardown ω
  | [], found, t => (.ok found, t)
  | r :: rest, found, t =>
    let here := t.session.document.isCreated r.component
    match t.remove h r with
    | (.ok _, t) => removeNoting h rest (found || here) t
    | (.error e, t) => (.error e, t)

/-- What a teardown that came to its end gives. -/
def result (t : Teardown ω) : Except SagaError Unit :=
  if t.faults.isEmpty then .ok () else .error (.teardown t.faults)

end Teardown

/-- Upload the artifacts; nobody minds if that fails. -/
def uploadArtifacts (h : Host ω) (saga : Saga) (s : Session ω) : Session ω :=
  (s.attempt saga "upload artifacts" (perform h .uploadArtifacts)).2

/-- Delete everything that is recorded as created. If a load balancer goes and there are node groups
that hold on to the network, the network has to be released in between. -/
def teardown (h : Host ω) : Action ω SagaError Unit := fun s =>
  let t : Teardown ω := { session := s.uploadArtifacts h .down }
  match t.removeAll h (Removal.unbalanced s.registry) with
  | (.error e, t) => (.error e, t.session)
  | (.ok _, t) =>
    match t.removeNoting h (Removal.balanced s.registry) false with
    | (.error e, t) => (.error e, t.session)
    | (.ok found, t) =>
      let t := if found && s.config.anyNodeGroupEnabled then t.settle h .loadBalancerNetwork else t
      match t.removeAll h Removal.afterRelease with
      | (.error e, t) => (.error e, t.session)
      | (.ok _, t) =>
        let t := t.update h fun now d => d.markDown now
        (t.result, t.session)

/-- Tear the environment down. -/
def down (h : Host ω) : Action ω SagaError Unit := fun s =>
  match s.allow .down with
  | .error e => (.error e, s)
  | .ok _ => s.teardown h

end Testbed.Session
