import NautiFabric.Fabric.Calls
import NautiFabric.Gpu.Discover
import NautiFabric.Gpu.WgpuClient
import NautiFabric.Host.HwInfo
import NautiFabric.Store.Resolution

/-!
# NautiFabric.Host.Inventory — what a host advertises

Everything that `discover_local` and `refresh_local` find on a host: processors, memory, disks,
interfaces, the default store, the remote compute server and the research memory; then the GPUs,
and what sysfs adds. No two of these have an id in common (`found_distinct`), as long as the
kernel names things as it does (`PlainHost`).
-/

namespace NautiFabric

open Interleave

/-! ## Research memory -/

/-- What the kernel exports of CXL, DAX, famfs and DRust. -/
structure ResearchMemoryReport where
  cxlBus : Bool
  cxlDevices : List String
  daxNodes : List String
  famfsMounts : List String
  drustPresent : Bool
  claimedAsLiveRam : Bool
  notes : String
deriving DecidableEq, Repr

/-- What the probe asks of the host. -/
structure ResearchHost where
  isDir : String → Bool
  readDir : String → Option (List String)
  readToString : String → Option String
  pathExists : String → Bool
  /-- whether `DRUST_HOME` is set -/
  drustHome : Bool

namespace ResearchMemoryReport

def cxlRoot : String := "/sys/bus/cxl"

def discover (host : ResearchHost) : ResearchMemoryReport where
  cxlBus := host.isDir cxlRoot
  cxlDevices :=
    if host.isDir cxlRoot then (host.readDir (cxlRoot ++ "/devices")).getD [] else []
  daxNodes :=
    (((host.readDir "/dev").getD []).filter (startsWith "dax")).map fun name => "/dev/" ++ name
  famfsMounts :=
    (lines ((host.readToString "/proc/mounts").getD "")).filter fun line => containsStr line "famfs"
  drustPresent :=
    host.pathExists "/opt/drust" || host.pathExists "/usr/local/lib/libdrust.so" || host.drustHome
  claimedAsLiveRam := false
  notes := "Research only. Fabric will not attach these as coherent live memory."

def asResource (report : ResearchMemoryReport) (node : String) : Resource where
  id := "local.memory.research"
  kind := .memory
  capacity := 0
  unit := "research"
  node := node
  state := .unavailable
  exclusive := true
  attributes := .ofList
    [("memory.kind", "research"), ("memory.cxl", toString report.cxlBus),
      ("memory.dax_count", toString report.daxNodes.length),
      ("memory.famfs_count", toString report.famfsMounts.length),
      ("memory.drust", toString report.drustPresent), ("memory.claimed", "false")]

end ResearchMemoryReport

/-- The adapter refuses every resource; `probe` is the host as the adapter sees it. -/
def researchMemoryAdapter {W : Type} (probe : W → ResearchHost) : ResourceAdapter W where
  name := "memory-research"
  attach resource _ w :=
    let report := ResearchMemoryReport.discover (probe w)
    (.error (.adapterBackendUnavailable "memory-research"
      ("refusing live attach of " ++ resource.id ++ " (cxl=" ++ toString report.cxlBus ++ " dax=" ++
        toString report.daxNodes.length ++ " famfs=" ++ toString report.famfsMounts.length ++
        " drust=" ++ toString report.drustPresent ++
        "); research bucket is typed, never claimed")), w)
  detach := ResourceAdapter.defaultDetach
  capabilityReport w :=
    let report := ResearchMemoryReport.discover (probe w)
    { name := "memory-research"
      scope := "cxl-dax-famfs-drust-research"
      healthy := true
      detail := .ofList
        [("claimed_as_live_ram", "false"), ("cxl_bus", toString report.cxlBus),
          ("dax_nodes", toString report.daxNodes.length),
          ("famfs_mounts", toString report.famfsMounts.length),
          ("drust_present", toString report.drustPresent)] }

/-! ## The portable inventory -/

structure Disk where
  name : String
  mountPoint : String
  totalSpace : UInt64
  availableSpace : UInt64
deriving DecidableEq, Repr

/-- What a host says of itself without privileges. -/
structure HostFacts where
  availableParallelism : Option UInt64
  totalMemory : UInt64
  disks : List Disk
  /-- interface → MAC address -/
  networks : StringMap String
  networkOrder : IterOrder
  research : ResearchHost

namespace Resource

def localCpu (facts : HostFacts) (node : String) : Resource where
  id := "local.cpu.logical"
  kind := .cpu
  capacity := facts.availableParallelism.getD 1
  unit := "logical-cpu"
  node := node
  state := .available
  exclusive := false
  attributes := .ofList [("topology.scope", "host")]

def localMemory (node : String) (bytes : UInt64) : Resource where
  id := "local.memory"
  kind := .memory
  capacity := bytes
  unit := "bytes"
  node := node
  state := .available
  exclusive := false
  attributes := .ofList [("topology.scope", "host")]

end Resource

namespace HostInventory

def diskResource (node : String) (index : ℕ) (disk : Disk) : Resource where
  id := "local.storage." ++ toString index
  kind := .storage
  capacity := disk.totalSpace
  unit := "bytes"
  node := node
  state := .available
  exclusive := false
  attributes := .ofList
    [("name", disk.name), ("mount_point", disk.mountPoint),
      ("available_bytes", toString disk.availableSpace)]

def networkResource (node name mac : String) : Resource where
  id := "local.network." ++ name
  kind := .network
  capacity := 0
  unit := "unknown-bandwidth"
  node := node
  state := .available
  exclusive := false
  attributes := .ofList [("interface", name), ("mac_address", mac)]

def networkResources (facts : HostFacts) (node : String) : List Resource :=
  (facts.networkOrder.keys facts.networks).filterMap fun name =>
    (facts.networks[name]?).map (networkResource node name)

def diskResources (facts : HostFacts) (node : String) : List Resource :=
  facts.disks.mapIdx (diskResource node)

/-- `HostInventory::discover`. -/
def discover (facts : HostFacts) (node : String) : List Resource :=
  [.localCpu facts node, .localMemory node facts.totalMemory] ++ diskResources facts node ++
    [defaultStoreResource node, Wgpu.defaultResource node,
      (ResearchMemoryReport.discover facts.research).asResource node] ++
    networkResources facts node

end HostInventory

/-! ## A host -/

/-- Everything that a discovery asks of a host. -/
structure LocalHost (F N : Type) where
  facts : HostFacts
  drm : Discover.DrmHost F N
  tools : HwInfo.HostTools
  /-- the variables `NAUTI_NODE` and `HOSTNAME` -/
  nautiNode : Option String
  hostname : Option String

namespace LocalHost

variable {F N W : Type}

def nodeForResources (host : LocalHost F N) : String :=
  (host.nautiNode.or host.hostname).getD "local"

/-- The GPUs; none if their directory cannot be read. -/
def gpuResources (node : String) :
    Except GpuDiscoveryError (List DrmDevice) → List Resource
  | .ok devices => (Discover.result devices).asResources node
  | .error _ => []

/-- What a discovery finds, with the node that the GPUs are said to be on. `none` is a panic,
with nothing registered yet. -/
def found (host : LocalHost F N) (node gpuNode : String) : Option (List Resource) :=
  (Discover.discover host.drm).map fun gpus =>
    HwInfo.discoverHardware host.tools host.drm.sys node
      (HostInventory.discover host.facts node ++ gpuResources gpuNode gpus)

/-- `discover_local`, which takes the node of the GPUs from the environment. -/
def discoverLocal (host : LocalHost F N) (node : String) : Option (Call W (List Resource)) :=
  (host.found node host.nodeForResources).map NautiFabric.discoverLocal

/-- `refresh_local`, which does not. -/
def refreshLocal (host : LocalHost F N) (node : String) : Option (Call W RefreshReport) :=
  (host.found node node).map NautiFabric.refreshLocal

end LocalHost

/-! ## Identities -/

/-- The strings start differently. -/
def Apart (a b : String) : Prop := ¬ a.toList <+: b.toList ∧ ¬ b.toList <+: a.toList

instance (a b : String) : Decidable (Apart a b) := inferInstanceAs (Decidable (_ ∧ _))

theorem Apart.ne {a b x y : String} (h : Apart a b) (hx : a.toList <+: x.toList)
    (hy : b.toList <+: y.toList) : x ≠ y := by
  rintro rfl
  rcases List.prefix_or_prefix_of_prefix hx hy with hab | hba
  · exact h.1 hab
  · exact h.2 hba

/-- Families of distinct strings that start differently, one family after the other. -/
theorem nodup_families {families : List (String × List String)}
    (hapart : families.Pairwise fun f g => Apart f.1 g.1)
    (hstart : ∀ f ∈ families, ∀ x ∈ f.2, f.1.toList <+: x.toList)
    (hnodup : ∀ f ∈ families, f.2.Nodup) : (families.flatMap Prod.snd).Nodup := by
  rw [List.nodup_flatMap]
  refine ⟨hnodup, hapart.imp_of_mem ?_⟩
  intro f g hf hg happly x hx hx'
  exact happly.ne (hstart f hf x hx) (hstart g hg x hx') rfl

namespace HostInventory

theorem ids_diskResources (facts : HostFacts) (node : String) :
    (diskResources facts node).map Resource.id =
      (List.range facts.disks.length).map fun index => "local.storage." ++ toString index := by
  unfold diskResources
  apply List.ext_getElem
  · simp
  · intro i h h'
    simp [diskResource]

theorem ids_networkResources (facts : HostFacts) (node : String) :
    (networkResources facts node).map Resource.id =
      (facts.networkOrder.keys facts.networks).map fun name => "local.network." ++ name := by
  unfold networkResources
  rw [List.map_filterMap]
  rw [← List.filterMap_eq_map]
  refine List.filterMap_congr fun name hname => ?_
  obtain ⟨mac, hmac⟩ := StringMap.exists_getElem? ((IterOrder.mem_keys _ _ _).mp hname)
  rw [hmac]
  rfl

theorem nodup_disk_ids (facts : HostFacts) (node : String) :
    ((diskResources facts node).map Resource.id).Nodup := by
  rw [ids_diskResources]
  refine List.nodup_range.map ?_
  intro n m h
  exact toString_injective (append_left_injective h)

theorem nodup_network_ids (facts : HostFacts) (node : String) :
    ((networkResources facts node).map Resource.id).Nodup := by
  rw [ids_networkResources]
  have hkeys : (facts.networkOrder.keys facts.networks).Nodup :=
    (facts.networkOrder.perm _).nodup_iff.mpr Std.ExtTreeMap.nodup_keys
  exact hkeys.map fun _ _ h => append_left_injective h

theorem ids_discover (facts : HostFacts) (node : String) :
    (discover facts node).map Resource.id = ["local.cpu.logical", "local.memory"] ++
      ((List.range facts.disks.length).map fun index => "local.storage." ++ toString index) ++
      ["local.store.fabric", "local.gpu.wgpu-remote", "local.memory.research"] ++
      (facts.networkOrder.keys facts.networks).map fun name => "local.network." ++ name := by
  unfold discover
  rw [List.map_append, List.map_append, List.map_append, ids_diskResources, ids_networkResources]
  rfl

end HostInventory

/-! ### GPUs -/

namespace Discover

open PciAddress StableSort

/-- The part of an id that stands for the address. -/
def idText (address : String) : String := address.map fun c => if c = ':' ∨ c = '.' then '_' else c

/-- The kernel lists each card as a PCI device with an address of its own. -/
structure PciListing (sys : SysTree) (names : List String) : Prop extends
    PlainListing sys.toSysfs names where
  pci : ∀ dev ∈ cards sys names, ∃ a : PciAddress, dev.pciBdf = a.sysfs

theorem map_hex (width n : ℕ) :
    (hex width n).toList.map (fun c => if c = ':' ∨ c = '.' then '_' else c) =
      (hex width n).toList := by
  conv_rhs => rw [← List.map_id (hex width n).toList]
  refine List.map_congr_left fun c hc => ?_
  apply if_neg
  rintro (rfl | rfl)
  · exact not_mem_hex not_hexChar_colon hc
  · exact not_mem_hex not_hexChar_dot hc

theorem toList_idText (a : PciAddress) :
    (idText a.sysfs).toList = (hex 4 a.domain.toNat).toList ++ '_' ::
      ((hex 2 a.bus.toNat).toList ++ '_' :: ((hex 2 a.device).toList ++ '_' ::
        (hex 1 a.function).toList)) := by
  unfold idText
  rw [String.toList_map, PciAddress.toList_sysfs, PciAddress.toList_slot]
  simp only [List.map_append, List.map_cons, map_hex]
  rfl

theorem not_hexChar_underscore : ¬ HexChar '_' := by
  unfold HexChar
  decide

/-- The text of an address is its own. -/
theorem idText_sysfs_injective {a b : PciAddress} (h : idText a.sysfs = idText b.sysfs) :
    a = b := by
  have htext := congrArg String.toList h
  rw [toList_idText, toList_idText] at htext
  obtain ⟨hdomain, hrest⟩ := hex_append_inj not_hexChar_underscore htext
  obtain ⟨hbus, hrest⟩ := hex_append_inj not_hexChar_underscore hrest
  obtain ⟨hdevice, hfunction⟩ := hex_append_inj not_hexChar_underscore hrest
  apply PciAddress.ext
  · exact UInt32.toNat_inj.mp hdomain
  · exact UInt8.toNat_inj.mp hbus
  · exact Fin.ext hdevice
  · exact Fin.ext (hex_injective (String.toList_injective hfunction))

theorem idText_ne_remote (a : PciAddress) : idText a.sysfs ≠ "wgpu-remote" := by
  intro h
  have hdash : '-' ∈ (idText a.sysfs).toList := by
    rw [h]
    decide
  have hnot : ∀ width n, '-' ∉ (hex width n).toList := by
    intro width n
    exact not_mem_hex (by unfold HexChar; decide)
  rw [toList_idText] at hdash
  simp [hnot] at hdash

theorem stableId_readDrmCard {sys : SysTree} {idx : ℕ} {dev : DrmDevice}
    (h : readDrmCard sys idx = some dev) : dev.stableId = dev.pciBdf := by
  unfold readDrmCard at h
  dsimp only at h
  split at h
  · cases h
  · rw [← Option.some.inj h]

/-- The ids of the devices that do more than display. -/
def cardIds (devices : List DrmDevice) : List String :=
  (devices.filter fun dev => !dev.displayOnly).map fun dev => "local.gpu." ++ idText dev.stableId

theorem ids_gpuResources (node : String) (devices : List DrmDevice) :
    (LocalHost.gpuResources node (.ok devices)).map Resource.id = cardIds devices := by
  unfold LocalHost.gpuResources GpuDiscoveryResult.asResources result cardIds
  dsimp only
  rw [List.filter_map, List.map_map, List.map_map]
  rfl

theorem cardIds_sameCards {devices devices' : List DrmDevice}
    (h : List.Forall₂ SameCard devices devices') : cardIds devices = cardIds devices' := by
  induction h with
  | nil => rfl
  | cons hsame _ ih =>
      unfold cardIds at ih ⊢
      rw [List.filter_cons, List.filter_cons, hsame.displayOnly]
      split
      · rw [List.map_cons, List.map_cons, hsame.stableId, ih]
      · exact ih

/-- Each card of a listing by PCI devices has an id of its own. -/
theorem PciListing.nodup_ids {sys : SysTree} {names : List String} (h : PciListing sys names)
    (hlisted : names.Nodup) :
    ((cards sys names).map fun dev => idText dev.stableId).Nodup := by
  have hpci := h.pci
  unfold cards at hpci ⊢
  rw [List.map_filterMap, List.Nodup, List.pairwise_filterMap]
  refine hlisted.imp_of_mem ?_
  intro x y hx hy hne p hp q hq heq
  obtain ⟨a, ha, rfl⟩ := Option.map_eq_some_iff.mp hp
  obtain ⟨b, hb, rfl⟩ := Option.map_eq_some_iff.mp hq
  obtain ⟨i, hi, hread⟩ := Option.bind_eq_some_iff.mp ha
  obtain ⟨j, hj, hread'⟩ := Option.bind_eq_some_iff.mp hb
  obtain ⟨addr, haddr⟩ := hpci a (List.mem_filterMap.mpr ⟨x, hx, ha⟩)
  obtain ⟨addr', haddr'⟩ := hpci b (List.mem_filterMap.mpr ⟨y, hy, hb⟩)
  -- the same text is the same address, and so the same entry
  rw [stableId_readDrmCard hread, stableId_readDrmCard hread', haddr, haddr'] at heq
  have hsame : a.pciBdf = b.pciBdf := by
    rw [haddr, haddr', idText_sysfs_injective heq]
  rw [pciBdf_readDrmCard hread, pciBdf_readDrmCard hread', ← h.spelled x hx i hi,
    ← h.spelled y hy j hj] at hsame
  exact hne (h.address x hx y hy (isCard_of_cardIndex hi) (isCard_of_cardIndex hj) hsame)

theorem PciListing.cardIds_spec {sys : SysTree} {names : List String} (h : PciListing sys names)
    (hlisted : names.Nodup) {enrich : DrmDevice → DrmDevice}
    (henrich : ∀ dev, SameCard (enrich dev) dev) :
    (cardIds (sortByKey sortKey ((cards sys names).map enrich))).Nodup ∧
      "local.gpu.wgpu-remote" ∉ cardIds (sortByKey sortKey ((cards sys names).map enrich)) := by
  have hsorted := sortByKey_perm sortKey ((cards sys names).map enrich)
  constructor
  · have hids : ((sortByKey sortKey ((cards sys names).map enrich)).map
        fun dev => "local.gpu." ++ idText dev.stableId).Nodup := by
      rw [(hsorted.map _).nodup_iff, List.map_map]
      have htext :
          (cards sys names).map ((fun dev => "local.gpu." ++ idText dev.stableId) ∘ enrich) =
            ((cards sys names).map fun dev => idText dev.stableId).map ("local.gpu." ++ ·) := by
        rw [List.map_map]
        refine List.map_congr_left fun dev _ => ?_
        rw [Function.comp_apply, (henrich dev).stableId, Function.comp_apply]
      rw [htext]
      exact (h.nodup_ids hlisted).map fun _ _ heq => append_left_injective heq
    exact hids.sublist (List.filter_sublist.map _)
  · intro hmem
    obtain ⟨dev, hdev, hid⟩ := List.mem_map.mp hmem
    obtain ⟨card, hcard, rfl⟩ := List.mem_map.mp (hsorted.mem_iff.mp (List.mem_filter.mp hdev).1)
    obtain ⟨name, hname, hread⟩ := List.mem_filterMap.mp hcard
    obtain ⟨idx, -, hread⟩ := Option.bind_eq_some_iff.mp hread
    obtain ⟨addr, haddr⟩ := h.pci card hcard
    have htext : idText (enrich card).stableId = "wgpu-remote" := append_left_injective hid
    rw [(henrich card).stableId, stableId_readDrmCard hread, haddr] at htext
    exact idText_ne_remote addr htext

end Discover

namespace LocalHost

variable {F N F' N' W : Type}

/-- What is taken for granted of the names that the kernel gives. -/
structure PlainHost (host : LocalHost F N) : Prop where
  names : HwInfo.KernelNames host.drm.sys "/sys"
  cards : ∀ names, host.drm.sys.readDir Discover.drmDir = some names →
    Discover.PciListing host.drm.sys names

theorem ids_described {before after : List Resource}
    (h : List.Forall₂ HwInfo.Described before after) :
    after.map Resource.id = before.map Resource.id := by
  induction h with
  | nil => rfl
  | cons hone _ ih => rw [List.map_cons, List.map_cons, hone.id, ih]

/-- The ids that a discovery finds. -/
theorem ids_found {host : LocalHost F N} {node gpuNode : String} {resources : List Resource}
    (h : host.found node gpuNode = some resources) :
    ∃ gpus, Discover.discover host.drm = some gpus ∧
      resources.map Resource.id = (HostInventory.discover host.facts node).map Resource.id ++
        (gpuResources gpuNode gpus).map Resource.id ++
        (HwInfo.numaResources host.drm.sys "/sys" node).map Resource.id ++
        (HwInfo.rdmaResources host.tools.rateText host.drm.sys "/sys" node).map Resource.id := by
  obtain ⟨gpus, hgpus, rfl⟩ := Option.map_eq_some_iff.mp h
  obtain ⟨described, hdescribed, heq⟩ := HwInfo.described_discoverHardware host.tools host.drm.sys
    node (HostInventory.discover host.facts node ++ gpuResources gpuNode gpus)
  refine ⟨gpus, hgpus, ?_⟩
  rw [heq, List.map_append, List.map_append, ids_described hdescribed, List.map_append]

theorem nodup_gpu_ids {host : LocalHost F N} (hplain : host.PlainHost)
    {gpus : Except GpuDiscoveryError (List DrmDevice)}
    (h : Discover.discover host.drm = some gpus) (node : String) :
    ("local.gpu.wgpu-remote" :: (gpuResources node gpus).map Resource.id).Nodup := by
  rcases gpus with e | devices
  · exact List.nodup_singleton _
  rw [Discover.ids_gpuResources]
  rcases Discover.discover_eq_ok h with ⟨-, rfl⟩ | ⟨names, nvml, -, hread, rfl⟩
  · exact List.nodup_singleton _
  · have hlisted := hplain.names.listed _ names hread
    obtain ⟨hnodup, hremote⟩ := (hplain.cards names hread).cardIds_spec hlisted
      (Discover.sameCard_enrichDevice nvml host.drm.telemetry)
    exact List.nodup_cons.mpr ⟨hremote, hnodup⟩

theorem starts_of_ids {α : Type} {start : String} {l : List α} {f : α → String}
    {ids : List String} (h : ids = l.map fun a => start ++ f a) :
    ∀ x ∈ ids, start.toList <+: x.toList := by
  intro x hx
  rw [h] at hx
  obtain ⟨a, -, rfl⟩ := List.mem_map.mp hx
  exact prefix_append start (f a)

theorem starts_gpuResources (node : String) (gpus : Except GpuDiscoveryError (List DrmDevice)) :
    ∀ x ∈ (gpuResources node gpus).map Resource.id, "local.gpu.".toList <+: x.toList := by
  rcases gpus with e | devices
  · simp [gpuResources]
  · exact starts_of_ids (Discover.ids_gpuResources node devices)

theorem starts_numaResources (sys : SysTree) (node : String) :
    ∀ x ∈ (HwInfo.numaResources sys "/sys" node).map Resource.id,
      "local.numa.".toList <+: x.toList := by
  intro x hx
  obtain ⟨r, hr, rfl⟩ := List.mem_map.mp hx
  obtain ⟨name, -, hr⟩ := List.mem_filterMap.mp hr
  obtain ⟨index, -, rfl⟩ := Option.map_eq_some_iff.mp hr
  exact prefix_append _ _

theorem starts_rdmaResources (rateText : HwInfo.RateText) (sys : SysTree) (node : String) :
    ∀ x ∈ (HwInfo.rdmaResources rateText sys "/sys" node).map Resource.id,
      "local.rdma.".toList <+: x.toList := by
  intro x hx
  obtain ⟨r, hr, rfl⟩ := List.mem_map.mp hx
  obtain ⟨p, -, rfl⟩ := List.mem_map.mp hr
  dsimp only [HwInfo.RdmaPort.asResource, HwInfo.RdmaPort.id]
  rw [String.append_assoc, String.append_assoc]
  exact prefix_append _ _

/-- Every id of a host says so. -/
theorem starts_found {host : LocalHost F N} {node gpuNode : String} {resources : List Resource}
    (h : host.found node gpuNode = some resources) :
    ∀ x ∈ resources.map Resource.id, "local.".toList <+: x.toList := by
  obtain ⟨gpus, -, hids⟩ := ids_found h
  have hlonger {start x : String} (hstart : "local.".toList <+: start.toList)
      (hx : start.toList <+: x.toList) : "local.".toList <+: x.toList := hstart.trans hx
  rw [hids]
  intro x hx
  rcases List.mem_append.mp hx with hx | hrdma
  · rcases List.mem_append.mp hx with hx | hnuma
    · rcases List.mem_append.mp hx with hinventory | hgpu
      · rw [HostInventory.ids_discover] at hinventory
        simp only [List.mem_append, List.mem_cons, List.not_mem_nil, or_false,
          List.mem_map] at hinventory
        rcases hinventory with (((rfl | rfl) | ⟨i, -, rfl⟩) | rfl | rfl | rfl) | ⟨name, -, rfl⟩
        · decide
        · decide
        · exact hlonger (by decide) (prefix_append "local.storage." _)
        · decide
        · decide
        · decide
        · exact hlonger (by decide) (prefix_append "local.network." _)
      · exact hlonger (by decide) (starts_gpuResources gpuNode gpus x hgpu)
    · exact hlonger (by decide) (starts_numaResources _ node x hnuma)
  · exact hlonger (by decide) (starts_rdmaResources _ _ node x hrdma)

/-- No two resources of a host have an id in common. -/
theorem found_distinct {host : LocalHost F N} (hplain : host.PlainHost) {node gpuNode : String}
    {resources : List Resource} (h : host.found node gpuNode = some resources) :
    (resources.map Resource.id).Nodup := by
  obtain ⟨gpus, hgpus, hids⟩ := ids_found h
  rw [hids]
  let families : List (String × List String) :=
    [("local.cpu.", ["local.cpu.logical"]),
      ("local.memory", ["local.memory", "local.memory.research"]),
      ("local.storage.",
        (HostInventory.diskResources host.facts node).map Resource.id),
      ("local.store.", ["local.store.fabric"]),
      ("local.gpu.", "local.gpu.wgpu-remote" :: (gpuResources gpuNode gpus).map Resource.id),
      ("local.network.", (HostInventory.networkResources host.facts node).map Resource.id),
      ("local.numa.", (HwInfo.numaResources host.drm.sys "/sys" node).map Resource.id),
      ("local.rdma.",
        (HwInfo.rdmaResources host.tools.rateText host.drm.sys "/sys" node).map Resource.id)]
  have hperm : ((HostInventory.discover host.facts node).map Resource.id ++
      (gpuResources gpuNode gpus).map Resource.id ++
      (HwInfo.numaResources host.drm.sys "/sys" node).map Resource.id ++
      (HwInfo.rdmaResources host.tools.rateText host.drm.sys "/sys" node).map Resource.id).Perm
        (families.flatMap Prod.snd) := by
    rw [List.perm_iff_count]
    intro id
    simp only [families, HostInventory.discover, List.map_append, List.map_cons, List.map_nil,
      List.flatMap_cons, List.flatMap_nil, List.count_append, List.count_cons, List.count_nil,
      Resource.localCpu, Resource.localMemory, defaultStoreResource, Wgpu.defaultResource,
      ResearchMemoryReport.asResource]
    ring
  have hstarts : (families.map Prod.fst).Pairwise Apart := by
    change ["local.cpu.", "local.memory", "local.storage.", "local.store.", "local.gpu.",
      "local.network.", "local.numa.", "local.rdma."].Pairwise Apart
    decide
  rw [hperm.nodup_iff]
  apply nodup_families (List.pairwise_map.mp hstarts)
  · simp only [families, List.forall_mem_cons]
    exact ⟨by decide, by decide, starts_of_ids (HostInventory.ids_diskResources _ _), by decide,
      ⟨by decide, starts_gpuResources gpuNode gpus⟩,
      starts_of_ids (HostInventory.ids_networkResources _ _), starts_numaResources _ node,
      starts_rdmaResources _ _ node, by simp⟩
  · simp only [families, List.forall_mem_cons]
    exact ⟨by decide, by decide, HostInventory.nodup_disk_ids _ _, by decide,
      nodup_gpu_ids hplain hgpus gpuNode, HostInventory.nodup_network_ids _ _,
      hplain.names.nodup_numa_ids node, hplain.names.nodup_rdma_ids _ node, by simp⟩

end LocalHost

end NautiFabric
