import Testbed.Cli.Site

/-!
# Processes that share an environment

Any number of processes run commands on one environment. What each of them does is a sequence of
deeds, found by running its command on a site that takes note of everything (`Site.noting`). What
other processes do can only show in the answers that the site gives, so `Errand.Trace` leaves these
open. `Shared` is what the processes share, the lock and the stored document, and `Interleaving`
says which deeds of all processes, in which order, go together.
-/

namespace Testbed.Cli

/-! ## Deeds -/

/-- Something that a process does to its environment. -/
inductive Deed
  /-- It makes the directory. -/
  | prepared (failure : Option FileError)
  /-- It tries to take the lock. -/
  | tried (failure : Option LockError)
  /-- It loads the document. -/
  | loaded (r : Except StoreError (Option StateDocument))
  /-- It saves a document. -/
  | saved (d : StateDocument) (failure : Option SaveFailure)
  /-- It asks the provider. -/
  | called (c : Call) (failure : Option ProviderError)
  /-- It gives the lock back. -/
  | released
  | exited (code : Nat)
  /-- It is ended from outside. -/
  | killed

/-- A provider that takes note of the calls. -/
def noting {ω : Type} (p : Provider ω) : Provider (ω × List Deed) where
  name := p.name
  perform c v :=
    let (reply, w) := p.perform c v.1
    (reply, (w, v.2 ++ [.called c (failureOf reply.result)]))
  handle? c v := p.handle? c v.1
  hasGpu v := p.hasGpu v.1

namespace Site

variable {ω : Type}

/-- The same site, taking note of all deeds. -/
def noting (site : Site ω) : Site (ω × List Deed) where
  config v := site.config v.1
  provider c v := (site.provider c v.1).map Cli.noting
  prepare c v :=
    let (r, w) := site.prepare c v.1
    (r, (w, v.2 ++ [.prepared (failureOf r)]))
  tryLock c v :=
    let (r, w) := site.tryLock c v.1
    (r, (w, v.2 ++ [.tried (failureOf r)]))
  release c v := (site.release c v.1, v.2 ++ [.released])
  load c v :=
    let (r, w) := site.load c v.1
    (r, (w, v.2 ++ [.loaded r]))
  save c d v :=
    let (r, w) := site.save c d v.1
    (r, (w, v.2 ++ [.saved d (failureOf r)]))
  writeResult path body v :=
    let (r, w) := site.writeResult path body v.1
    (r, (w, v.2))
  pause n v :=
    let (fired, w) := site.pause n v.1
    (fired, (w, v.2))
  between v := site.between v.1
  now v := site.now v.1

/-- All that a command does on a site. -/
def deeds (site : Site ω) (s : Settings) (e : Errand) (w : ω) : List Deed :=
  let (report, v) := site.noting.run s e (w, [])
  v.2 ++ [.exited report.exitCode]

end Site

/-- What a process may have done that runs this command: with some settings, some answers and so
far, or until it was killed. -/
def Errand.Trace (e : Errand) (ds : List Deed) : Prop :=
  ∃ (ω : Type) (site : Site ω) (s : Settings) (w : ω) (done : List Deed),
    done <+: site.deeds s e w ∧ (ds = done ∨ done ≠ site.deeds s e w ∧ ds = done ++ [.killed])

/-! ## What is shared -/

/-- What the processes on an environment share. -/
structure Shared (ι : Type) where
  /-- The document in the store. -/
  stored : Option StateDocument
  /-- Who holds the lock. -/
  holder : Option ι := none

/-- The document that a deed puts in its place: that of a save, unless it failed before. -/
def Deed.stores? : Deed → Option StateDocument
  | saved d none => some d
  | saved d (some f) => if f.late then some d else none
  | _ => none

/-- Whether the lock is free after a deed of its holder: it was given back, or the process is
over. -/
def Deed.frees : Deed → Bool
  | released | exited _ | killed => true
  | _ => false

namespace Shared

variable {ι : Type} [DecidableEq ι]

/-- Whether a deed can be done now. The lock is taken only if nobody holds it, and what is loaded is
what the store holds; anything may fail. -/
def Admits (v : Shared ι) : Deed → Prop
  | .tried none => v.holder = none
  | .loaded (.ok d) => d = v.stored
  | _ => True

/-- After a deed of a process. A document is stored under its seal. -/
def next (v : Shared ι) (i : ι) (deed : Deed) : Shared ι where
  stored := (deed.stores?.map (·.sealed)) <|> v.stored
  holder :=
    match deed with
    | .tried none => some i
    | _ => if deed.frees && v.holder = some i then none else v.holder

/-- After deeds of several processes. -/
def run (v : Shared ι) (log : List (ι × Deed)) : Shared ι :=
  log.foldl (fun v entry => v.next entry.1 entry.2) v

/-- Whether these deeds can be done, one after the other. -/
def AdmitsAll (v : Shared ι) : List (ι × Deed) → Prop
  | [] => True
  | (i, deed) :: log => v.Admits deed ∧ (v.next i deed).AdmitsAll log

end Shared

/-- The deeds of one process. -/
def own {ι : Type} [DecidableEq ι] (i : ι) (log : List (ι × Deed)) : List Deed :=
  (log.filter fun entry => entry.1 = i).map (·.2)

/-- Processes that run these commands on an environment may do all this in this order, if its store
holds `stored` at first and nobody has the lock. -/
structure Interleaving {ι : Type} [DecidableEq ι] (errand : ι → Errand)
    (stored : Option StateDocument) (log : List (ι × Deed)) : Prop where
  traces : ∀ i, (errand i).Trace (own i log)
  shared : Shared.AdmitsAll ⟨stored, none⟩ log

end Testbed.Cli
