import NautiFabric.Fabric.Types
import NautiFabric.Lib.Interleave

/-!
# NautiFabric.Fabric.Sections — what each lock scope of the fabric does

Every method of `Fabric` is a sequence of lock scopes. Each scope is one
atomic section here: a function on the shared state that gives a reply, or
`none` when the code panics inside the scope. A panic under the lease guard
poisons the lease mutex, and every later scope on it panics too
(`lock().expect(..)`).

A section nests the locks the code nests: `attach` holds the lease guard while
it looks the adapter up, calls it and records the attachment;
`find_available` holds it while it reads the registry.

`Shared.log` is a history variable: the sections append to it what they did
(grants, renewals, releases, adapter calls, the attachment table), newest
first, and no section reads it.
-/

namespace NautiFabric

/-- What a section reports to the history. -/
inductive Event (W : Type) where
  | granted (lease : Lease) (ttl : Duration) (t : Instant)
  | renewed (presented recorded : Lease) (ttl : Duration) (t : Instant)
  | released (presented recorded : Lease) (t : Instant)
  | attachCall (adapter : ResourceAdapter W) (resource : Resource) (lease : Lease) (t : Instant)
      (result : Except FabricError Attachment)
  | detachCall (adapter : ResourceAdapter W) (resource : Resource) (lease : Lease) (t : Instant)
      (result : Except FabricError Unit)
  | attachmentRecorded (lease : Lease) (adapterName : String)
  | attachmentTaken (lease : Lease) (adapterName : String)

/-- What concurrent calls share: the fabric, the clock, the adapters' outside
world, and the history. `overflowChecks` is the build profile: whether `u64`
addition panics on overflow or wraps. -/
structure Shared (W : Type) where
  fabric : Fabric W
  now : Instant
  world : W
  overflowChecks : Bool
  log : List (Event W)

variable {W : Type}

/-! ## The lease guard -/

/-- `self.leases.lock().expect(..)`, then `body` under the guard. -/
def withLeases {α : Type} (s : Shared W) (body : Option α × Shared W) : Option α × Shared W :=
  -- `expect` on the error of a poisoned mutex
  if s.fabric.leases.poisoned then (none, s)
  else
    match body with
    | (some reply, s') => (some reply, s')
    -- the panic unwinds through the guard; what the body wrote stays
    | (none, s') => (none, { s' with fabric.leases.poisoned := true })

/-- `leases.retain(|_, active| active.expires_at > Instant::now())`. -/
def retainUnexpired (now : Instant) (leases : StringMap ActiveLease) : StringMap ActiveLease :=
  leases.filter fun _ active => active.expiresAt > now

def Shared.setLeases (s : Shared W) (leases : StringMap ActiveLease) : Shared W :=
  { s with fabric.leases.val := leases }

def Shared.emit (s : Shared W) (event : Event W) : Shared W := { s with log := event :: s.log }

/-- The recorded lease of `lease.resource_id`, when it has the id of `lease`. -/
def Shared.recorded? (s : Shared W) (lease : Lease) : Option ActiveLease :=
  (s.fabric.leases.val[lease.resourceId]?).filter fun active => active.lease.id == lease.id

/-- `fetch_add(1) + 1` overflows, in a build that checks for it. -/
def Shared.idOverflows (s : Shared W) : Bool :=
  s.overflowChecks && s.fabric.nextLeaseId == 0xFFFFFFFFFFFFFFFF

/-! ## Registry -/

def registerSection (resource : Resource) (s : Shared W) : Option Unit × Shared W :=
  (some (), { s with fabric.resources := s.fabric.resources.insert resource.id resource })

def unregisterCheckSection (resourceId : String) (s : Shared W) :
    Option (Except FabricError Unit) × Shared W :=
  withLeases s <|
    if resourceId ∈ s.fabric.leases.val then (some (.error .resourceAlreadyLeased), s)
    else (some (.ok ()), s)

def unregisterRemoveSection (resourceId : String) (s : Shared W) : Option Bool × Shared W :=
  (some (decide (resourceId ∈ s.fabric.resources)),
    { s with fabric.resources := s.fabric.resources.erase resourceId })

def resourcesSection (s : Shared W) : Option (List Resource) × Shared W :=
  (some (s.fabric.resources.values.mergeSort fun left right => decide (left.id ≤ right.id)), s)

def registerAdapterSection (adapter : ResourceAdapter W) (s : Shared W) : Option Unit × Shared W :=
  (some (), { s with fabric.adapters := s.fabric.adapters.insert adapter.name adapter })

def adapterReportsSection (order : IterOrder) (s : Shared W) :
    Option (List AdapterReport) × Shared W :=
  let adapters := (order.keys s.fabric.adapters).filterMap (s.fabric.adapters[·]?)
  let reports := adapters.map fun adapter => adapter.capabilityReport s.world
  (some (reports.mergeSort fun left right => decide (left.name ≤ right.name)), s)

def findAvailableSection (request : ResourceRequest) (order : IterOrder) (s : Shared W) :
    Option (List Resource) × Shared W :=
  withLeases s <|
    let resources := (order.keys s.fabric.resources).filterMap (s.fabric.resources[·]?)
    (some (resources.filter fun resource =>
      request.matches resource && (!resource.exclusive || resource.id ∉ s.fabric.leases.val)), s)

/-! ## Leases -/

/-- The lock scope of `lease_exclusive`: prune, check, take an id, record. The
id is consumed before the expiry is computed, so a panic there skips an id. -/
def leaseExclusiveSection (resourceId owner : String) (ttl : Duration) (s : Shared W) :
    Option (Except FabricError Lease) × Shared W :=
  withLeases s <|
    let leases := retainUnexpired s.now s.fabric.leases.val
    -- the pruning stays, whether the lease is granted or refused
    if resourceId ∈ leases then (some (.error .resourceAlreadyLeased), s.setLeases leases)
    else
      let fetched := s.fabric.nextLeaseId
      let s' := { s.setLeases leases with fabric.nextLeaseId := fetched + 1 }
      if s.idOverflows then (none, s')
      else
        let lease : Lease := ⟨fetched + 1, resourceId, owner⟩
        match s.now.add ttl with
        | none => (none, s')
        | some expiresAt =>
          (some (.ok lease),
            (s'.setLeases (leases.insert resourceId ⟨lease, expiresAt⟩)).emit
              (.granted lease ttl s.now))

def renewLeaseSection (lease : Lease) (ttl : Duration) (s : Shared W) :
    Option (Except FabricError Lease) × Shared W :=
  withLeases s <|
    let s' := s.setLeases (retainUnexpired s.now s.fabric.leases.val)
    match s'.recorded? lease with
    | none => (some (.error .leaseNotFound), s')
    -- the recorded lease keeps its owner and is what the caller gets back
    | some active =>
      match s.now.add ttl with
      | none => (none, s')
      | some expiresAt =>
        (some (.ok active.lease),
          (s'.setLeases
              (s'.fabric.leases.val.insert lease.resourceId { active with expiresAt })).emit
            (.renewed lease active.lease ttl s.now))

/-! ## Attachments -/

/-- The lock scope of `attach`; `resource` is what the registry held before. -/
def attachSection (resource : Resource) (adapterName : String) (lease : Lease) (s : Shared W) :
    Option (Except FabricError Attachment) × Shared W :=
  withLeases s <|
    -- nothing is pruned here: an expired lease is only not honoured
    let authorized := (s.recorded? lease).any fun active => active.expiresAt > s.now
    if !authorized then (some (.error .leaseNotFound), s)
    else
      match s.fabric.adapters[adapterName]? with
      | none => (some (.error .adapterNotFound), s)
      | some adapter =>
        let (result, world) := adapter.attach resource lease s.world
        let s' := { s with world }.emit (.attachCall adapter resource lease s.now result)
        match result with
        | .error e => (some (.error e), s')
        | .ok attachment =>
          (some (.ok attachment),
            { s' with
                fabric.attachments := s.fabric.attachments.insert lease.resourceId adapterName
              }.emit (.attachmentRecorded lease adapterName))

/-- `release`, first lease check. -/
def releaseCheckSection (lease : Lease) (s : Shared W) :
    Option (Except FabricError Unit) × Shared W :=
  withLeases s <|
    match s.recorded? lease with
    | none => (some (.error .leaseNotFound), s)
    | some _ => (some (.ok ()), s)

/-- `release`, removal of the attachment entry. -/
def releaseTakeSection (lease : Lease) (s : Shared W) : Option (Option String) × Shared W :=
  match s.fabric.attachments[lease.resourceId]? with
  | none => (some none, s)
  | some adapterName =>
    (some (some adapterName),
      { s with
          fabric.attachments := s.fabric.attachments.erase lease.resourceId
        }.emit (.attachmentTaken lease adapterName))

/-- `release`, adapter lookup and `detach` under the adapter registry's read guard. -/
def releaseDetachSection (resource : Resource) (adapterName : String) (lease : Lease)
    (s : Shared W) : Option (Except FabricError Unit) × Shared W :=
  match s.fabric.adapters[adapterName]? with
  -- no adapter of this name any more: nothing to detach
  | none => (some (.ok ()), s)
  | some adapter =>
    let (result, world) := adapter.detach resource lease s.world
    (some result, { s with world }.emit (.detachCall adapter resource lease s.now result))

/-- `release`, second lease check and removal of the lease. -/
def releaseRemoveSection (lease : Lease) (s : Shared W) :
    Option (Except FabricError Unit) × Shared W :=
  withLeases s <|
    match s.recorded? lease with
    | none => (some (.error .leaseNotFound), s)
    | some active =>
      (some (.ok ()),
        (s.setLeases (s.fabric.leases.val.erase lease.resourceId)).emit
          (.released lease active.lease s.now))

/-! ## Heartbeats -/

def heartbeatSection (node : String) (s : Shared W) : Option Unit × Shared W :=
  (some (), { s with fabric.heartbeats := s.fabric.heartbeats.insert node s.now })

/-- `Instant::now() - older_than`, before any lock is taken. -/
def cutoffSection (olderThan : Duration) (s : Shared W) : Option Instant × Shared W :=
  (s.now.sub olderThan, s)

/-- Take out the heartbeats older than `cutoff`. -/
def evictStaleSection (cutoff : Instant) (order : IterOrder) (s : Shared W) :
    Option (List String) × Shared W :=
  let stale := (order.keys s.fabric.heartbeats).filter fun node =>
    (s.fabric.heartbeats[node]?).any (· < cutoff)
  (some stale,
    { s with fabric.heartbeats := stale.foldl (fun hb node => hb.erase node) s.fabric.heartbeats })

/-- The ids of the resources that the stale nodes own. -/
def evictOwnedSection (stale : List String) (order : IterOrder) (s : Shared W) :
    Option (List String) × Shared W :=
  (some ((order.keys s.fabric.resources).filter fun id =>
    (s.fabric.resources[id]?).any fun resource => resource.node ∈ stale), s)

/-! ## The signature of sections -/

inductive Section (W : Type) where
  | register (resource : Resource)
  | unregisterCheck (resourceId : String)
  | unregisterRemove (resourceId : String)
  | resource (resourceId : String)
  | resources
  | resourceIds
  | registerAdapter (adapter : ResourceAdapter W)
  | adapterReports (order : IterOrder)
  | findAvailable (request : ResourceRequest) (order : IterOrder)
  | leaseExclusive (resourceId owner : String) (ttl : Duration)
  | renewLease (lease : Lease) (ttl : Duration)
  | attach (resource : Resource) (adapterName : String) (lease : Lease)
  | releaseCheck (lease : Lease)
  | releaseTake (lease : Lease)
  | releaseDetach (resource : Resource) (adapterName : String) (lease : Lease)
  | releaseRemove (lease : Lease)
  | heartbeat (node : String)
  | cutoff (olderThan : Duration)
  | evictStale (before : Instant) (order : IterOrder)
  | evictOwned (stale : List String) (order : IterOrder)

@[reducible] def Section.Reply : Section W → Type
  | .register _ => Unit
  | .unregisterCheck _ => Except FabricError Unit
  | .unregisterRemove _ => Bool
  | .resource _ => Option Resource
  | .resources => List Resource
  | .resourceIds => List String
  | .registerAdapter _ => Unit
  | .adapterReports _ => List AdapterReport
  | .findAvailable _ _ => List Resource
  | .leaseExclusive _ _ _ => Except FabricError Lease
  | .renewLease _ _ => Except FabricError Lease
  | .attach _ _ _ => Except FabricError Attachment
  | .releaseCheck _ => Except FabricError Unit
  | .releaseTake _ => Option String
  | .releaseDetach _ _ _ => Except FabricError Unit
  | .releaseRemove _ => Except FabricError Unit
  | .heartbeat _ => Unit
  | .cutoff _ => Instant
  | .evictStale _ _ => List String
  | .evictOwned _ _ => List String

/-- The meaning of the sections. -/
def Section.act : (sec : Section W) → Shared W → Option sec.Reply × Shared W
  | .register r => registerSection r
  | .unregisterCheck resourceId => unregisterCheckSection resourceId
  | .unregisterRemove resourceId => unregisterRemoveSection resourceId
  | .resource resourceId => fun s => (some s.fabric.resources[resourceId]?, s)
  | .resources => resourcesSection
  | .resourceIds => fun s => (some s.fabric.resources.keys, s)
  | .registerAdapter adapter => registerAdapterSection adapter
  | .adapterReports order => adapterReportsSection order
  | .findAvailable request order => findAvailableSection request order
  | .leaseExclusive resourceId owner ttl => leaseExclusiveSection resourceId owner ttl
  | .renewLease lease ttl => renewLeaseSection lease ttl
  | .attach r adapterName lease => attachSection r adapterName lease
  | .releaseCheck lease => releaseCheckSection lease
  | .releaseTake lease => releaseTakeSection lease
  | .releaseDetach r adapterName lease => releaseDetachSection r adapterName lease
  | .releaseRemove lease => releaseRemoveSection lease
  | .heartbeat node => heartbeatSection node
  | .cutoff olderThan => cutoffSection olderThan
  | .evictStale before order => evictStaleSection before order
  | .evictOwned stale order => evictOwnedSection stale order

end NautiFabric
