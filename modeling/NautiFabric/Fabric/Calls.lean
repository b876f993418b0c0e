import NautiFabric.Fabric.Sections

/-!
# NautiFabric.Fabric.Calls — the methods of the fabric

Each method as the sequence of its sections. `Op` lists the calls a client of
the fabric can make, and `fabricSystem` is the transition system of all their
interleavings: any number of calls at once, a monotone clock, and an outside
world that may change between any two sections.
-/

namespace NautiFabric

open Interleave

variable {W : Type}

/-- A call of the fabric in progress. -/
abbrev Call (W α : Type) := Prog (@Section.Reply W) α

/-- One section, as a call. -/
def atomically (sec : Section W) : Call W sec.Reply := Prog.perform sec

/-! ## Methods -/

def register (resource : Resource) : Call W Unit := atomically (.register resource)

/-- The lease guard is dropped between the check and the removal. -/
def unregister (resourceId : String) : Call W (Except FabricError Bool) := do
  match ← atomically (.unregisterCheck resourceId) with
  | .error e => return .error e
  | .ok () =>
    let removed ← atomically (.unregisterRemove resourceId)
    return .ok removed

def resource (resourceId : String) : Call W (Option Resource) :=
  atomically (.resource resourceId)

def resources : Call W (List Resource) := atomically .resources

def registerAdapter (adapter : ResourceAdapter W) : Call W Unit :=
  atomically (.registerAdapter adapter)

def adapterReports (order : IterOrder) : Call W (List AdapterReport) :=
  atomically (.adapterReports order)

/-- The registry is read before the lease guard is taken. -/
def leaseExclusive (resourceId owner : String) (ttl : Duration) :
    Call W (Except FabricError Lease) := do
  match ← resource resourceId with
  | none => return .error .resourceNotFound
  | some r =>
    if r.state ≠ .available then return .error .resourceUnavailable
    else if !r.exclusive then return .error .resourceUnavailable
    else atomically (.leaseExclusive resourceId owner ttl)

def findAvailable (request : ResourceRequest) (order : IterOrder) : Call W (List Resource) :=
  atomically (.findAvailable request order)

def attach (adapterName : String) (lease : Lease) : Call W (Except FabricError Attachment) := do
  match ← resource lease.resourceId with
  | none => return .error .resourceNotFound
  | some r => atomically (.attach r adapterName lease)

/-- `detach` on the adapter that `release` took out of the attachment table,
when its resource is still registered. -/
def detachTaken (adapterName : Option String) (lease : Lease) :
    Call W (Except FabricError Unit) := do
  match adapterName with
  | none => return .ok ()
  | some adapterName =>
    match ← resource lease.resourceId with
    | none => return .ok ()
    | some r => atomically (.releaseDetach r adapterName lease)

def release (lease : Lease) : Call W (Except FabricError Unit) := do
  match ← atomically (.releaseCheck lease) with
  | .error e => return .error e
  | .ok () =>
    let adapterName ← atomically (.releaseTake lease)
    match ← detachTaken adapterName lease with
    -- the entry is gone, and the lease stays recorded
    | .error e => return .error e
    | .ok () => atomically (.releaseRemove lease)

def renewLease (lease : Lease) (ttl : Duration) : Call W (Except FabricError Lease) :=
  atomically (.renewLease lease ttl)

def heartbeat (node : String) : Call W Unit := atomically (.heartbeat node)

/-- `unregister` each id; a refusal is ignored. -/
def unregisterEach : List String → Call W Unit
  | [] => return ()
  | id :: ids => do
    let _ ← unregister id
    unregisterEach ids

def evictStaleNodes (olderThan : Duration) (nodeOrder idOrder : IterOrder) :
    Call W (List String) := do
  let cutoff ← atomically (.cutoff olderThan)
  let stale ← atomically (.evictStale cutoff nodeOrder)
  if stale.isEmpty then return stale
  else
    let owned ← atomically (.evictOwned stale idOrder)
    unregisterEach owned
    return stale

/-! ## Discovery -/

def registerEach : List Resource → Call W Unit
  | [] => return ()
  | r :: rs => do
    register r
    registerEach rs

/-- `discover_local`, given what discovery finds. -/
def discoverLocal (discovered : List Resource) : Call W (List Resource) := do
  registerEach discovered
  return discovered

/-- The removal loop of `refresh_local`: the ids removed and the ids blocked. -/
def unregisterGone : List String → Call W (List String × List String)
  | [] => return ([], [])
  | id :: ids => do
    let result ← unregister id
    let (removed, blocked) ← unregisterGone ids
    match result with
    | .ok true => return (id :: removed, blocked)
    | .error .resourceAlreadyLeased => return (removed, id :: blocked)
    -- somebody else removed it in the meantime
    | _ => return (removed, blocked)

/-- `refresh_local`, given what discovery finds. The id sets are `BTreeSet`s,
so `added` and `removed` come in the order of the ids. -/
def refreshLocal (discovered : List Resource) : Call W RefreshReport := do
  let newIds : StringMap Unit := discovered.foldl (fun ids r => ids.insert r.id ()) ∅
  let currentIds ← atomically .resourceIds
  let added := newIds.keys.filter fun id => id ∉ currentIds
  let gone := currentIds.filter fun id => id ∉ newIds
  registerEach (discovered.filter fun r => r.id ∈ added)
  let (removed, blocked) ← unregisterGone gone
  return ⟨added, removed, blocked⟩

/-! ## The transition system -/

/-- The calls a client can make. -/
inductive Op (W : Type) where
  | register (resource : Resource)
  | unregister (resourceId : String)
  | resource (resourceId : String)
  | resources
  | registerAdapter (adapter : ResourceAdapter W)
  | adapterReports (order : IterOrder)
  | leaseExclusive (resourceId owner : String) (ttl : Duration)
  | findAvailable (request : ResourceRequest) (order : IterOrder)
  | attach (adapterName : String) (lease : Lease)
  | release (lease : Lease)
  | renewLease (lease : Lease) (ttl : Duration)
  | heartbeat (node : String)
  | evictStaleNodes (olderThan : Duration) (nodeOrder idOrder : IterOrder)
  | discoverLocal (discovered : List Resource)
  | refreshLocal (discovered : List Resource)

/-- The call that an operation makes; its result goes to the caller only. -/
def Op.call : Op W → Call W Unit
  | .register r => NautiFabric.register r
  | .unregister resourceId => (NautiFabric.unregister resourceId).ignore
  | .resource resourceId => (NautiFabric.resource resourceId).ignore
  | .resources => NautiFabric.resources.ignore
  | .registerAdapter adapter => NautiFabric.registerAdapter adapter
  | .adapterReports order => (NautiFabric.adapterReports order).ignore
  | .leaseExclusive resourceId owner ttl =>
    (NautiFabric.leaseExclusive resourceId owner ttl).ignore
  | .findAvailable request order => (NautiFabric.findAvailable request order).ignore
  | .attach adapterName lease => (NautiFabric.attach adapterName lease).ignore
  | .release lease => (NautiFabric.release lease).ignore
  | .renewLease lease ttl => (NautiFabric.renewLease lease ttl).ignore
  | .heartbeat node => NautiFabric.heartbeat node
  | .evictStaleNodes olderThan nodeOrder idOrder =>
    (NautiFabric.evictStaleNodes olderThan nodeOrder idOrder).ignore
  | .discoverLocal discovered => (NautiFabric.discoverLocal discovered).ignore
  | .refreshLocal discovered => (NautiFabric.refreshLocal discovered).ignore

/-- A new fabric, with nothing in its history. -/
def Shared.Fresh (s : Shared W) : Prop := s.fabric = Fabric.default ∧ s.log = []

/-- Time passes, and the adapters' outside world does what it likes. -/
def Shared.Elapse (s s' : Shared W) : Prop :=
  s.now ≤ s'.now ∧ s' = { s with now := s'.now, world := s'.world }

/-- All interleavings of fabric calls whose sections meet `guard`. -/
def fabricSystem (guard : Section W → Shared W → Prop) :
    Interleave.System (@Section.Reply W) (Shared W) Unit where
  act := Section.act
  init := Shared.Fresh
  invocable p := ∃ op : Op W, p = op.call
  env := Shared.Elapse
  guard := guard

/-- No restriction on the runs. -/
def anySection : Section W → Shared W → Prop := fun _ _ => True

/-! ## A concrete fabric

One exclusive device, and a fresh fabric at time zero in a build without
overflow checks. The counterexamples and the instances of the theorems start
here. -/

namespace Scenario

/-- A schedule over a fabric whose adapters have the outside state `W`. -/
abbrev Schedule (W : Type) := List (System.Move (@Section.Reply W) (Shared W) Unit)

/-- The configuration that a schedule leads to. -/
def after (s : Shared W) (moves : Schedule W) : Config (@Section.Reply W) (Shared W) Unit :=
  moves.foldl (System.exec Section.act) ⟨s, []⟩

def device : Resource where
  id := "device.0"
  kind := .device
  capacity := 1
  unit := "device"
  node := "node.0"
  state := .available
  exclusive := true
  attributes := ∅

/-- A new fabric around the outside world `world`. -/
def start (world : W) : Shared W := ⟨.default, 0, world, false, []⟩

theorem reachable_start (guard : Section W → Shared W → Prop) (world : W) :
    (fabricSystem guard).Reachable ⟨start world, []⟩ := .init _ ⟨rfl, rfl⟩

/-- Without a guard, whatever schedule of calls leads somewhere reachable. -/
theorem reachable_after (world : W) {moves : Schedule W}
    (hm : (fabricSystem anySection).Admits moves) :
    (fabricSystem anySection).Reachable (after (start world) moves) :=
  (reachable_start anySection world).schedule
    (System.schedule_of_admits (fun _ _ => trivial) hm _)

/-- The state after the calls of a schedule, made one after the other. -/
def afterCalls (s : Shared W) (moves : Schedule W) : Shared W :=
  moves.foldl (System.seqExec Section.act) s

theorem seqReachable_afterCalls {guard : Section W → Shared W → Prop} {world : W}
    {moves : Schedule W} (hm : (fabricSystem guard).SeqSchedule (start world) moves) :
    (fabricSystem guard).SeqReachable (afterCalls (start world) moves) := by
  have hinit : (fabricSystem guard).SeqReachable (start world) := .init _ ⟨rfl, rfl⟩
  exact hinit.schedule hm

/-- Let `d` nanoseconds pass. -/
def wait (d : Duration) (s : Shared W) : Shared W := { s with now := s.now + d }

theorem elapse_wait (d : Duration) (s : Shared W) : s.Elapse (wait d s) :=
  ⟨by simp [wait], rfl⟩

end Scenario

end NautiFabric
