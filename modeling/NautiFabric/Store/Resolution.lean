import NautiFabric.Fabric.Types
import NautiFabric.Lib.Table

/-!
# NautiFabric.Store.Resolution — where a store is

A storage resource says by its attributes how its store is reached: a bind path, a
virtio-fs socket, or an NFS export. `Contract` says when it says enough, and
`fromResource_iff` that nothing else is read off a resource, and nothing else is accepted.
-/

namespace NautiFabric

inductive StoreKind where
  | bind
  | virtioFs
  | nfs
deriving DecidableEq, Repr

namespace StoreKind

def parse : String → Except FabricError StoreKind
  | "bind" => .ok .bind
  | "virtio-fs" => .ok .virtioFs
  | "virtiofs" => .ok .virtioFs
  | "fs" => .ok .virtioFs
  | "nfs" => .ok .nfs
  | other =>
    .error (.missingResourceAttribute
      ("store.kind (unknown " ++ other ++ "; expected bind|virtio-fs|nfs)"))

def asStr : StoreKind → String
  | bind => "bind"
  | virtioFs => "virtio-fs"
  | nfs => "nfs"

/-- What a kind is printed as is read as that kind. -/
theorem parse_asStr (kind : StoreKind) : parse kind.asStr = .ok kind := by
  cases kind
  · rfl
  · rfl
  · rfl

end StoreKind

/-- The input of a job, resolved. -/
structure StoreResolution where
  resourceId : String
  kind : StoreKind
  path : String
  tag : String
  socket : Option String
  nfsExport : Option String
deriving DecidableEq, Repr

namespace StoreResolution

def fromResource (resource : Resource) : Except FabricError StoreResolution :=
  if resource.kind ≠ .storage then
    .error (.incompatibleResourceKind "fabric-store" .storage resource.kind)
  else
    match StoreKind.parse ((resource.attributes["store.kind"]?).getD "bind") with
    | .error e => .error e
    | .ok kind =>
      match resource.attributes["store.path"]? with
      | none => .error (.missingResourceAttribute "store.path")
      | some path =>
        let tag := (resource.attributes["store.tag"]?).getD "nauti"
        let socket := resource.attributes["store.socket"]?
        let nfsExport := resource.attributes["store.nfs_export"]?
        if kind = .nfs ∧ nfsExport.isNone then
          .error (.missingResourceAttribute "store.nfs_export")
        else if kind = .virtioFs ∧ socket.isNone then
          .error (.missingResourceAttribute "store.socket")
        else .ok ⟨resource.id, kind, path, tag, socket, nfsExport⟩

/-- The `--fs` argument of Cloud Hypervisor; only a virtio-fs store has one. -/
def virtioFsSpec (r : StoreResolution) : Option String :=
  match r.socket with
  | none => none
  | some socket =>
    if r.kind ≠ .virtioFs then none else some ("tag=" ++ r.tag ++ ",socket=" ++ socket)

/-- What a job on this node opens. -/
def jobPath (r : StoreResolution) : String :=
  match r.kind with
  | .nfs => r.nfsExport.getD r.path
  | .bind | .virtioFs => r.path

end StoreResolution

/-- The store that every host has. -/
def defaultStoreResource (node : String) : Resource where
  id := "local.store.fabric"
  kind := .storage
  capacity := 1
  unit := "store"
  node := node
  state := .available
  exclusive := true
  attributes := .ofList
    [("store.kind", "bind"), ("store.path", "/var/lib/nauti/store"), ("store.tag", "nauti")]

/-! ## What is resolved -/

/-- The attribute that a kind cannot do without, besides the path. -/
def StoreKind.needs : StoreKind → Option String
  | bind => none
  | virtioFs => some "store.socket"
  | nfs => some "store.nfs_export"

/-- The resource is a store of the kind, with a path and with what the kind needs. -/
structure Contract (resource : Resource) (kind : StoreKind) (path : String) : Prop where
  storage : resource.kind = .storage
  parsed : StoreKind.parse ((resource.attributes["store.kind"]?).getD "bind") = .ok kind
  located : resource.attributes["store.path"]? = some path
  complete : ∀ key ∈ kind.needs, (resource.attributes[key]?).isSome

/-- The resolution of a resource with a contract. -/
def Contract.resolution (resource : Resource) (kind : StoreKind) (path : String) :
    StoreResolution :=
  ⟨resource.id, kind, path, (resource.attributes["store.tag"]?).getD "nauti",
    resource.attributes["store.socket"]?, resource.attributes["store.nfs_export"]?⟩

theorem fromResource_iff {resource : Resource} {r : StoreResolution} :
    StoreResolution.fromResource resource = .ok r ↔
      ∃ kind path, Contract resource kind path ∧ r = Contract.resolution resource kind path := by
  unfold StoreResolution.fromResource
  constructor
  · intro h
    split at h
    · cases h
    · rename_i hstorage
      rcases hparse : StoreKind.parse ((resource.attributes["store.kind"]?).getD "bind") with
        e | kind
      · rw [hparse] at h
        cases h
      · rw [hparse] at h
        rcases hpath : resource.attributes["store.path"]? with _ | path
        · rw [hpath] at h
          cases h
        · rw [hpath] at h
          dsimp only at h
          split at h
          · cases h
          · rename_i hnfs
            split at h
            · cases h
            · rename_i hvirtio
              refine ⟨kind, path, ⟨not_not.mp hstorage, hparse, hpath, ?_⟩,
                (Except.ok.inj h).symm⟩
              intro key hkey
              cases kind with
              | bind => cases hkey
              | virtioFs =>
                  obtain rfl := Option.some.inj hkey
                  simpa [Option.isSome_iff_ne_none] using hvirtio
              | nfs =>
                  obtain rfl := Option.some.inj hkey
                  simpa [Option.isSome_iff_ne_none] using hnfs
  · rintro ⟨kind, path, hcontract, rfl⟩
    rw [if_neg (not_not.mpr hcontract.storage), hcontract.parsed]
    dsimp only
    rw [hcontract.located]
    dsimp only
    have hnfs : ¬ (kind = .nfs ∧ (resource.attributes["store.nfs_export"]?).isNone) := by
      rintro ⟨rfl, hnone⟩
      have hsome := hcontract.complete "store.nfs_export" rfl
      rw [Option.isNone_iff_eq_none] at hnone
      rw [hnone] at hsome
      cases hsome
    have hvirtio : ¬ (kind = .virtioFs ∧ (resource.attributes["store.socket"]?).isNone) := by
      rintro ⟨rfl, hnone⟩
      have hsome := hcontract.complete "store.socket" rfl
      rw [Option.isNone_iff_eq_none] at hnone
      rw [hnone] at hsome
      cases hsome
    rw [if_neg hnfs, if_neg hvirtio]
    rfl

/-- A virtio-fs store always has its `--fs` argument, and no other store has one. -/
theorem virtioFsSpec_isSome {resource : Resource} {r : StoreResolution}
    (h : StoreResolution.fromResource resource = .ok r) :
    r.virtioFsSpec.isSome ↔ r.kind = .virtioFs := by
  obtain ⟨kind, path, hcontract, rfl⟩ := fromResource_iff.mp h
  unfold StoreResolution.virtioFsSpec Contract.resolution
  dsimp only
  rcases hsocket : resource.attributes["store.socket"]? with _ | socket
  · constructor
    · intro hsome
      cases hsome
    · rintro rfl
      have hsome := hcontract.complete "store.socket" rfl
      rw [hsocket] at hsome
      cases hsome
  · cases kind
    · simp
    · simp
    · simp

end NautiFabric
