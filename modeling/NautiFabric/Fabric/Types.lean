import Mathlib

/-!
# NautiFabric.Fabric.Types — resources, leases, adapters

The data of the fabric: registered resources, exclusive leases, attachments,
and the adapters that act on a leased resource. Adapters are trait objects
with state of their own; an adapter here is a record of functions on a type
`W` that holds the state of every adapter and of the host behind them.

Tables keyed by strings are `Std.ExtTreeMap`s, which are equal when they hold
the same entries. Where the code iterates over a `HashMap` the order is left
open (`IterOrder`). Times are nanoseconds; `Instant` additions and
subtractions fail outside the range of 64-bit seconds.
-/

namespace NautiFabric

/-- A table keyed by strings (`HashMap` and `BTreeMap`). -/
abbrev StringMap (V : Type) := Std.ExtTreeMap String V compare

theorem StringMap.mem_of_getElem? {V : Type} {m : StringMap V} {k : String} {v : V}
    (h : m[k]? = some v) : k ∈ m := by
  obtain ⟨hmem, -⟩ := Std.ExtTreeMap.getElem?_eq_some_iff.mp h
  exact hmem

theorem StringMap.exists_getElem? {V : Type} {m : StringMap V} {k : String} (h : k ∈ m) :
    ∃ v, m[k]? = some v :=
  Option.isSome_iff_exists.mp (Std.ExtTreeMap.mem_iff_isSome_getElem?.mp h)

/-- The order in which a `HashMap` yields its keys: some permutation of them. -/
structure IterOrder where
  order : List String → List String
  perm : ∀ keys, (order keys).Perm keys

/-- Iteration in the order of the keys. -/
def IterOrder.sorted : IterOrder := ⟨id, fun keys => .refl keys⟩

def IterOrder.keys {V : Type} (o : IterOrder) (m : StringMap V) : List String := o.order m.keys

@[simp] theorem IterOrder.mem_keys {V : Type} (o : IterOrder) (m : StringMap V) (k : String) :
    k ∈ o.keys m ↔ k ∈ m := by
  rw [IterOrder.keys, (o.perm m.keys).mem_iff, Std.ExtTreeMap.mem_keys]

/-! ## Time -/

/-- A point of the monotone clock, in nanoseconds. -/
abbrev Instant := ℤ

/-- A length of time, in nanoseconds. -/
abbrev Duration := ℕ

def nanosPerSec : ℕ := 1000000000

/-- The first instant whose seconds do not fit in an `i64`. -/
def Instant.limit : Instant := 2 ^ 63 * nanosPerSec

/-- `Instant + Duration`; `none` is the panic. -/
def Instant.add (t : Instant) (d : Duration) : Option Instant :=
  if t + d < Instant.limit then some (t + d) else none

/-- `Instant - Duration`; `none` is the panic. -/
def Instant.sub (t : Instant) (d : Duration) : Option Instant :=
  if -Instant.limit ≤ t - d then some (t - d) else none

def Duration.fromSecs (secs : UInt64) : Duration := secs.toNat * nanosPerSec

/-! ## Resources -/

inductive ResourceKind where
  | cpu
  | gpu
  | memory
  | storage
  | network
  | device
deriving DecidableEq, Repr

/-- The `Debug` text of a kind, as the error messages print it. -/
def ResourceKind.debug : ResourceKind → String
  | .cpu => "Cpu"
  | .gpu => "Gpu"
  | .memory => "Memory"
  | .storage => "Storage"
  | .network => "Network"
  | .device => "Device"

inductive ResourceState where
  | available
  | unavailable
deriving DecidableEq, Repr

structure Resource where
  id : String
  kind : ResourceKind
  capacity : UInt64
  unit : String
  node : String
  state : ResourceState
  exclusive : Bool
  attributes : StringMap String
deriving DecidableEq

inductive FabricError where
  | resourceNotFound
  | resourceUnavailable
  | resourceAlreadyLeased
  | leaseNotFound
  | adapterNotFound
  | incompatibleResourceKind (adapter : String) (expected actual : ResourceKind)
  | incompatibleResourceLocality (adapter expected actual : String)
  | missingResourceAttribute (key : String)
  | adapterBackendUnavailable (adapter reason : String)
  | guestMemory (reason : String)
deriving DecidableEq, Repr

/-- The `Display` text of an error. -/
def FabricError.toString : FabricError → String
  | .resourceNotFound => "resource does not exist"
  | .resourceUnavailable => "resource is unavailable"
  | .resourceAlreadyLeased => "resource already has an active exclusive lease"
  | .leaseNotFound => "lease does not exist or is not owned by this caller"
  | .adapterNotFound => "adapter does not exist"
  | .incompatibleResourceKind adapter expected actual =>
    "adapter " ++ adapter ++ " requires " ++ expected.debug ++ ", but resource is " ++
      actual.debug
  | .incompatibleResourceLocality adapter expected actual =>
    "adapter " ++ adapter ++ " requires a " ++ expected ++ " resource, but resource is " ++
      actual
  | .missingResourceAttribute key =>
    "resource does not contain required adapter attribute: " ++ key
  | .adapterBackendUnavailable adapter reason =>
    "adapter " ++ adapter ++ " backend is unavailable: " ++ reason
  | .guestMemory reason => "guest memory allocation failed: " ++ reason

/-! ## Leases and attachments -/

structure Lease where
  id : UInt64
  resourceId : String
  owner : String
deriving DecidableEq, Repr

structure ActiveLease where
  lease : Lease
  expiresAt : Instant
deriving DecidableEq, Repr

structure Attachment where
  resourceId : String
  leaseId : UInt64
  adapter : String
  details : StringMap String
deriving DecidableEq

structure AdapterReport where
  name : String
  scope : String
  healthy : Bool
  detail : StringMap String
deriving DecidableEq

/-- An adapter over the outside state `W`. A call returns; what it does to the
outside, and what it answers, is up to the adapter. -/
structure ResourceAdapter (W : Type) where
  name : String
  attach : Resource → Lease → W → Except FabricError Attachment × W
  detach : Resource → Lease → W → Except FabricError Unit × W
  capabilityReport : W → AdapterReport

/-- The default `detach`: a no-op. -/
def ResourceAdapter.defaultDetach {W : Type} (_ : Resource) (_ : Lease) (w : W) :
    Except FabricError Unit × W := (.ok (), w)

/-- The default `capability_report`: stateless and healthy. -/
def AdapterReport.default (name : String) : AdapterReport := ⟨name, "unspecified", true, ∅⟩

def localProofAdapter {W : Type} : ResourceAdapter W where
  name := "local-proof"
  attach resource lease w :=
    if resource.id ≠ lease.resourceId then (.error .resourceNotFound, w)
    else (.ok ⟨resource.id, lease.id, "local-proof", ∅⟩, w)
  detach := ResourceAdapter.defaultDetach
  capabilityReport _ := .default "local-proof"

/-! ## Queries -/

structure ResourceRequest where
  kind : Option ResourceKind
  minimumCapacity : Option UInt64
  node : Option String
  requiredAttributes : StringMap String
  exclusive : Bool
deriving DecidableEq

def ResourceRequest.matches (request : ResourceRequest) (resource : Resource) : Bool :=
  resource.state == .available
    && request.kind.all (· == resource.kind)
    && request.minimumCapacity.all (resource.capacity ≥ ·)
    && request.node.all (· == resource.node)
    && (!request.exclusive || resource.exclusive)
    && request.requiredAttributes.toList.all
      fun (key, value) => resource.attributes[key]? == some value

/-- What a refresh did. -/
structure RefreshReport where
  added : List String
  removed : List String
  blockedByLease : List String
deriving DecidableEq, Repr

/-! ## The fabric -/

/-- A value behind a `std::sync::Mutex`: a panic while the guard is held
poisons it. -/
structure Mutex (α : Type) where
  val : α
  poisoned : Bool

/-- The state of a `Fabric`. Only `leases` can be poisoned: nothing that runs
under another lock's write guard or mutex guard panics. -/
structure Fabric (W : Type) where
  resources : StringMap Resource
  leases : Mutex (StringMap ActiveLease)
  adapters : StringMap (ResourceAdapter W)
  /-- resource id → name of the adapter that attached it -/
  attachments : StringMap String
  heartbeats : StringMap Instant
  nextLeaseId : UInt64

/-- `Fabric::default()`. -/
def Fabric.default {W : Type} : Fabric W where
  resources := ∅
  leases := ⟨∅, false⟩
  adapters := ∅
  attachments := ∅
  heartbeats := ∅
  nextLeaseId := 0

end NautiFabric
