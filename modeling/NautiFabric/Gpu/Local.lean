import NautiFabric.Fabric.Types
import NautiFabric.Lib.Entries

/-!
# NautiFabric.Gpu.Local — discovered devices and their reservation

Discovery turns the devices of a host into resources, and the `gpu-local` adapter
reserves such a resource for a lease. They agree through the keys of attributes:
discovery writes the PCI address as `gpu.pci_bdf`, and the adapter looks for
`gpu.pci_bus_id`. So what discovery advertises is accepted exactly when all of it
has a UUID (`accepts_iff`).
-/

namespace NautiFabric

/-! ## Discovery -/

inductive GpuVendor where
  | nvidia
  | amd
  | intel
  | unknown (id : String)
deriving DecidableEq, Repr

def GpuVendor.label : GpuVendor → String
  | .nvidia => "NVIDIA"
  | .amd => "AMD"
  | .intel => "Intel"
  | .unknown id => id

/-- A physical GPU, as discovery reports it. -/
structure GpuDevice where
  stableId : String
  vendor : GpuVendor
  deviceName : String
  vramTotalBytes : UInt64
  vramUsedBytes : UInt64
  driver : String
  pciBdf : String
  uuid : Option String
  nvmlIndex : Option UInt32
  /-- a BMC's VGA controller -/
  displayOnly : Bool
deriving DecidableEq, Repr

structure GpuDiscoveryResult where
  devices : List GpuDevice
deriving DecidableEq, Repr

inductive GpuDiscoveryError where
  | sysfs (reason : String)
deriving DecidableEq, Repr

namespace GpuDevice

/-- The attributes that every device is advertised with. -/
def attrs (gpu : GpuDevice) : List (String × String) :=
  [("gpu.stable_id", gpu.stableId), ("gpu.vendor", gpu.vendor.label),
   ("gpu.device_name", gpu.deviceName), ("gpu.driver", gpu.driver), ("gpu.pci_bdf", gpu.pciBdf),
   ("gpu.vram_total_bytes", toString gpu.vramTotalBytes),
   ("gpu.vram_used_bytes", toString gpu.vramUsedBytes)]

/-- The attributes that a device may be advertised with. -/
def optionalAttrs (gpu : GpuDevice) : List (String × Option String) :=
  [("gpu.uuid", gpu.uuid), ("gpu.nvml_index", gpu.nvmlIndex.map toString)]

def asResource (gpu : GpuDevice) (node : String) : Resource where
  id := "local.gpu." ++ gpu.stableId.map fun c => if c = ':' ∨ c = '.' then '_' else c
  kind := .gpu
  capacity := gpu.vramTotalBytes
  unit := "bytes"
  node := node
  state := .available
  exclusive := true
  attributes := gpu.optionalAttrs.foldl Entries.insertSome (.ofList gpu.attrs)

end GpuDevice

/-- The resources that discovery advertises: the devices that do not only display. -/
def GpuDiscoveryResult.asResources (found : GpuDiscoveryResult) (node : String) : List Resource :=
  (found.devices.filter fun gpu => !gpu.displayOnly).map fun gpu => gpu.asResource node

/-! ## Reservation -/

/-- What the adapter keeps of a lease that it honors. -/
structure GpuReservation where
  leaseId : UInt64
  gpuId : String
deriving DecidableEq, Repr

namespace GpuLocal

/-- What the adapter is registered as. -/
def name : String := "gpu-local"

def scope : String := "gpu-host-local"

/-- The device that a resource stands for. -/
def gpuId (resource : Resource) : Option String :=
  (resource.attributes["gpu.uuid"]?).or resource.attributes["gpu.pci_bus_id"]?

def details (resource : Resource) (gpuId : String) : StringMap String :=
  [("gpu.name", resource.attributes["gpu.name"]?),
   ("gpu.pci_bus_id", resource.attributes["gpu.pci_bus_id"]?),
   ("gpu.free_memory_bytes_at_attach", resource.attributes["gpu.free_memory_bytes"]?)].foldl
    Entries.insertSome
    (.ofList [("gpu.id", gpuId), ("gpu.attachment_scope", scope),
      ("gpu.note", "host-local reservation; no VFIO passthrough bound"),
      ("adapter.implementation", name)])

def attach (resource : Resource) (lease : Lease) (reservations : StringMap GpuReservation) :
    Except FabricError Attachment × StringMap GpuReservation :=
  if resource.kind ≠ .gpu then
    (.error (.incompatibleResourceKind name .gpu resource.kind), reservations)
  else
    match gpuId resource with
    | none => (.error (.missingResourceAttribute "gpu.uuid or gpu.pci_bus_id"), reservations)
    | some gpuId =>
      match (reservations[resource.id]?).filter fun existing => existing.leaseId == lease.id with
      | some _ =>
        (.ok ⟨resource.id, lease.id, name, (details resource gpuId).insert "gpu.reattach" "true"⟩,
          reservations)
      -- no reservation, or one of another lease, which is replaced
      | none =>
        (.ok ⟨resource.id, lease.id, name, details resource gpuId⟩,
          reservations.insert resource.id ⟨lease.id, gpuId⟩)

/-- The report, over what a discovery at that moment finds. -/
def capabilityReport (discovered : Except GpuDiscoveryError GpuDiscoveryResult)
    (reservations : StringMap GpuReservation) : AdapterReport where
  name := name
  scope := scope
  healthy := true
  detail :=
    let gpuCount : ℕ :=
      match discovered with
      | .ok found => found.devices.countP fun gpu => !gpu.displayOnly
      | .error _ => 0
    .ofList [("adapter.implementation", name),
      ("gpu.attachment_mode", "host-local reservation (no hardware binding)"),
      ("gpu.count_live", toString gpuCount),
      ("reservations.current", toString reservations.size),
      ("vfio.available", "see vmm::vfio adapter if --features vfio is enabled")]

theorem report_current (discovered : Except GpuDiscoveryError GpuDiscoveryResult)
    (reservations : StringMap GpuReservation) :
    (capabilityReport discovered reservations).detail["reservations.current"]? =
      some (toString reservations.size) := by
  dsimp only [capabilityReport]
  rw [Table.getElem?_ofList (by simp)]
  simp [List.lookup]

/-! ## What the adapter reads of an advertised device -/

theorem getElem?_asResource (gpu : GpuDevice) (node key : String) :
    (gpu.asResource node).attributes[key]? =
      ((gpu.optionalAttrs.lookup key).join).or (gpu.attrs.lookup key) := by
  apply Entries.getElem?_build
  · simp [GpuDevice.attrs]
  · simp [GpuDevice.optionalAttrs]

/-- The UUID is the only attribute that the adapter takes a device's identity from. -/
theorem gpuId_asResource (gpu : GpuDevice) (node : String) :
    gpuId (gpu.asResource node) = gpu.uuid := by
  rw [gpuId, getElem?_asResource, getElem?_asResource]
  simp [GpuDevice.optionalAttrs, GpuDevice.attrs, List.lookup]

theorem details_id (resource : Resource) (gpuId : String) :
    (details resource gpuId)["gpu.id"]? = some gpuId := by
  rw [details, Entries.getElem?_build (by simp) (by simp)]
  simp [List.lookup]

/-! ## What is accepted -/

/-- A resource with an identity is accepted under every lease, and one without never. -/
theorem attach_result {resource : Resource} (hkind : resource.kind = .gpu) (lease : Lease)
    (reservations : StringMap GpuReservation) :
    match gpuId resource with
    | none => (attach resource lease reservations).1 =
        .error (.missingResourceAttribute "gpu.uuid or gpu.pci_bus_id")
    | some gpuId => ∃ attachment, (attach resource lease reservations).1 = .ok attachment ∧
        attachment.details["gpu.id"]? = some gpuId := by
  rw [attach, if_neg (not_not_intro hkind)]
  rcases gpuId resource with _ | gpuId
  · rfl
  · dsimp only
    split
    · refine ⟨_, rfl, ?_⟩
      rw [Table.getElem?_insert, if_neg (by decide)]
      exact details_id resource gpuId
    · exact ⟨_, rfl, details_id resource gpuId⟩

/-- The adapter accepts the resource under every lease, and its attachment names the
device: by its UUID, or else by its PCI address. -/
def Honors (gpu : GpuDevice) (resource : Resource) : Prop :=
  ∀ lease reservations, ∃ attachment, (attach resource lease reservations).1 = .ok attachment ∧
    attachment.details["gpu.id"]? = some (gpu.uuid.getD gpu.pciBdf)

/-- All that discovery advertises is accepted. -/
def Accepts (found : GpuDiscoveryResult) : Prop :=
  ∀ node, List.Forall₂ Honors (found.devices.filter fun gpu => !gpu.displayOnly)
    (found.asResources node)

theorem honors_iff (gpu : GpuDevice) (node : String) :
    Honors gpu (gpu.asResource node) ↔ gpu.uuid ≠ none := by
  have hresult := fun lease => attach_result (show (gpu.asResource node).kind = .gpu from rfl) lease
  rw [gpuId_asResource] at hresult
  constructor
  · rintro hhonors hnone
    obtain ⟨attachment, hok, -⟩ := hhonors ⟨1, "", ""⟩ ∅
    have herror := hresult ⟨1, "", ""⟩ ∅
    rw [hnone] at herror
    rw [herror] at hok
    cases hok
  · intro huuid lease reservations
    obtain ⟨uuid, huuid⟩ := Option.ne_none_iff_exists'.mp huuid
    have hok := hresult lease reservations
    rw [huuid] at hok
    rw [huuid, Option.getD_some]
    exact hok

/-- What discovery advertises is accepted exactly when each device has a UUID. -/
theorem accepts_iff (found : GpuDiscoveryResult) :
    Accepts found ↔ ∀ gpu ∈ found.devices, gpu.displayOnly = false → gpu.uuid ≠ none := by
  have hall : Accepts found ↔
      ∀ gpu ∈ found.devices.filter fun gpu => !gpu.displayOnly, gpu.uuid ≠ none := by
    simp only [Accepts, GpuDiscoveryResult.asResources, List.forall₂_map_right_iff,
      List.forall₂_same, honors_iff, forall_const]
  rw [hall]
  simp only [List.mem_filter, Bool.not_eq_true', and_imp]

/-- A card that discovery knows from sysfs alone. -/
def radeon : GpuDevice where
  stableId := "0000:03:00.0"
  vendor := .amd
  deviceName := "AMD GPU (0000:03:00.0)"
  vramTotalBytes := 17163091968
  vramUsedBytes := 0
  driver := "amdgpu"
  pciBdf := "0000:03:00.0"
  uuid := none
  nvmlIndex := none
  displayOnly := false

/-- Its PCI address is not found under the key that the adapter looks for. -/
theorem radeon_refused :
    ¬ ∀ found : GpuDiscoveryResult, (∀ gpu ∈ found.devices, gpu.pciBdf ≠ "") →
      Accepts found := by
  intro h
  have haccepts : Accepts ⟨[radeon]⟩ := h ⟨[radeon]⟩ (by decide)
  obtain ⟨attachment, hok, -⟩ := (List.forall₂_cons.mp (haccepts "local")).1 ⟨1, "", ""⟩ ∅
  have herror := attach_result (show (radeon.asResource "local").kind = .gpu from rfl) ⟨1, "", ""⟩ ∅
  rw [gpuId_asResource] at herror
  rw [hok] at herror
  cases herror

end GpuLocal

end NautiFabric
