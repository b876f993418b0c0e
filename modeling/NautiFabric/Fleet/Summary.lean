import NautiFabric.Fleet.Agent

/-!
# NautiFabric.Fleet.Summary — what a fleet view says of a node

`nauti fleet` asks every agent for its inventory and keeps a summary of it. The agent's virtual
GPU and the remote compute server are GPUs as well, of which the host has none to give: in every
run of an agent the summary counts the cards of the host, each once with its own memory, and no
other GPU (`summary_answer`).
-/

namespace NautiFabric

open Interleave

variable {F N W : Type}

/-! ## Summarizing -/

structure GpuSummary where
  id : String
  name : String
  vendor : String
  driver : String
  pciBdf : String
  numaNode : String
  vramBytes : UInt64
deriving DecidableEq, Repr

structure RdmaSummary where
  device : String
  state : String
  rate : String
  transport : String
  netdev : String
  numaNode : String
deriving DecidableEq, Repr

structure LinkSummary where
  interface : String
  speedMbps : String
  ipv4 : String
  rdmaDevice : String
  numaNode : String
deriving DecidableEq, Repr

structure InventorySummary where
  logicalCpus : UInt64
  memoryBytes : UInt64
  numaNodes : ℕ
  gpus : List GpuSummary
  rdmaPorts : List RdmaSummary
  linksUp : List LinkSummary
deriving DecidableEq, Repr

namespace Resource

def attr (r : Resource) (k : String) : String := (r.attributes[k]?).getD ""

/-- A GPU of the host itself. -/
def isCard (r : Resource) : Bool :=
  r.kind = .gpu && startsWith "local.gpu." r.id && (r.attributes["gpu.transport"]?).isNone

def isLinkUp (r : Resource) : Bool :=
  startsWith "local.network." r.id && (r.attributes["net.virtual"]?).isNone &&
    r.attributes["net.operstate"]? == some "up"

def gpuSummary (r : Resource) : GpuSummary where
  id := r.id
  name := r.attr "gpu.device_name"
  vendor := r.attr "gpu.vendor"
  driver := r.attr "gpu.driver"
  pciBdf := r.attr "gpu.pci_bdf"
  numaNode := r.attr "gpu.numa_node"
  vramBytes := r.capacity

def rdmaSummary (r : Resource) : RdmaSummary where
  device := r.attr "rdma.device"
  state := r.attr "rdma.state"
  rate := r.attr "rdma.rate"
  transport := r.attr "rdma.transport"
  netdev := r.attr "rdma.netdev"
  numaNode := r.attr "rdma.numa_node"

def linkSummary (r : Resource) : LinkSummary where
  interface := r.attr "interface"
  speedMbps := r.attr "net.speed_mbps"
  ipv4 := r.attr "net.ipv4"
  rdmaDevice := r.attr "net.rdma_device"
  numaNode := r.attr "net.numa_node"

end Resource

def capacityOf (resources : List Resource) (id : String) : UInt64 :=
  ((resources.find? fun r => r.id = id).map Resource.capacity).getD 0

def summarizeInventory (resources : List Resource) : InventorySummary where
  logicalCpus := capacityOf resources "local.cpu.logical"
  memoryBytes := capacityOf resources "local.memory"
  numaNodes := (resources.filter fun r => startsWith "local.numa." r.id).length
  gpus := (resources.filter Resource.isCard).map Resource.gpuSummary
  rdmaPorts := (resources.filter fun r => startsWith "local.rdma." r.id).map Resource.rdmaSummary
  linksUp := (resources.filter Resource.isLinkUp).map Resource.linkSummary

/-! ## Resources by their ids -/

theorem startsWith_iff {start s : String} :
    startsWith start s = true ↔ start.toList <+: s.toList := List.isPrefixOf_iff_prefix

theorem filter_starts {start : String} {l : List Resource}
    (h : ∀ x ∈ l.map Resource.id, start.toList <+: x.toList) :
    l.filter (fun r => startsWith start r.id) = l :=
  List.filter_eq_self.mpr fun _ hr => startsWith_iff.mpr (h _ (List.mem_map_of_mem hr))

theorem filter_apart {start other : String} (hapart : Apart other start) {l : List Resource}
    (h : ∀ x ∈ l.map Resource.id, other.toList <+: x.toList) :
    l.filter (fun r => startsWith start r.id) = [] := by
  rw [List.filter_eq_nil_iff]
  intro r hr hstarts
  exact hapart.ne (h _ (List.mem_map_of_mem hr)) (startsWith_iff.mp hstarts) rfl

/-- What is found before the NUMA nodes and the ports has other ids than these. -/
theorem filter_described {facts : HostFacts} {node gpuNode : String}
    {gpus : Except GpuDiscoveryError (List DrmDevice)} {described : List Resource}
    (h : List.Forall₂ HwInfo.Described
      (HostInventory.discover facts node ++ LocalHost.gpuResources gpuNode gpus) described)
    {start : String} (hstart : start = "local.numa." ∨ start = "local.rdma.") :
    described.filter (fun r => startsWith start r.id) = [] := by
  rw [List.filter_eq_nil_iff]
  intro r hr hstarts
  have hprefix := startsWith_iff.mp hstarts
  have hnot : ∀ x ∈ ["local.cpu.logical", "local.memory", "local.store.fabric",
      "local.gpu.wgpu-remote", "local.memory.research"], ¬ start.toList <+: x.toList := by
    rcases hstart with rfl | rfl
    · decide
    · decide
  have hid : r.id ∈ described.map Resource.id := List.mem_map_of_mem hr
  rw [LocalHost.ids_described h, List.map_append, List.mem_append] at hid
  rcases hid with hinventory | hgpu
  · rw [HostInventory.ids_discover] at hinventory
    simp only [List.mem_append, List.mem_cons, List.not_mem_nil, or_false,
      List.mem_map] at hinventory
    rcases hinventory with
      (((hid | hid) | ⟨i, -, hid⟩) | hid | hid | hid) | ⟨name, -, hid⟩
    · rw [hid] at hprefix
      exact hnot _ (by simp) hprefix
    · rw [hid] at hprefix
      exact hnot _ (by simp) hprefix
    · have hapart : Apart "local.storage." start := by rcases hstart with rfl | rfl <;> decide
      exact hapart.ne (prefix_append _ (toString i)) hprefix hid
    · rw [hid] at hprefix
      exact hnot _ (by simp) hprefix
    · rw [hid] at hprefix
      exact hnot _ (by simp) hprefix
    · rw [hid] at hprefix
      exact hnot _ (by simp) hprefix
    · have hapart : Apart "local.network." start := by rcases hstart with rfl | rfl <;> decide
      exact hapart.ne (prefix_append _ name) hprefix hid
  · have hapart : Apart "local.gpu." start := by rcases hstart with rfl | rfl <;> decide
    exact hapart.ne (LocalHost.starts_gpuResources gpuNode gpus _ hgpu) hprefix rfl

/-! ## The cards -/

/-- The GPUs that a host advertises for work: those that do not only display. -/
def cardsOf : Except GpuDiscoveryError (List DrmDevice) → List GpuDevice
  | .ok devices => (Discover.result devices).devices.filter fun gpu => !gpu.displayOnly
  | .error _ => []

theorem gpuResources_eq (node : String) (gpus : Except GpuDiscoveryError (List DrmDevice)) :
    LocalHost.gpuResources node gpus = (cardsOf gpus).map fun gpu => gpu.asResource node := by
  rcases gpus with e | devices
  · rfl
  · rfl

/-- What sysfs adds to a resource does not make it a card, and no card ceases to be one. -/
theorem isCard_described {before after : Resource} (h : HwInfo.Described before after) :
    after.isCard = before.isCard := by
  have hfact : ¬ HwInfo.FactKey "gpu.transport" := by
    unfold HwInfo.FactKey
    decide
  unfold Resource.isCard
  rw [h.kind, h.id, h.others _ hfact]

theorem isCard_asResource (gpu : GpuDevice) (node : String) :
    (gpu.asResource node).isCard = true := by
  have hstarts : startsWith "local.gpu." (gpu.asResource node).id = true :=
    startsWith_iff.mpr (prefix_append _ _)
  have htransport : (gpu.asResource node).attributes["gpu.transport"]? = none :=
    GpuLocal.getElem?_asResource gpu node _
  have hkind : (gpu.asResource node).kind = .gpu := rfl
  unfold Resource.isCard
  rw [hstarts, htransport, hkind]
  rfl

theorem isCard_of_kind {r : Resource} (kind : ResourceKind) (h : r.kind = kind)
    (hother : kind ≠ .gpu) : r.isCard = false := by
  unfold Resource.isCard
  rw [h, decide_eq_false hother]
  rfl

theorem isCard_wgpu (node : String) : (Wgpu.defaultResource node).isCard = false := by
  have htransport : (Wgpu.defaultResource node).attributes["gpu.transport"]? =
      some "tailscale" := by
    unfold Wgpu.defaultResource
    dsimp only
    rw [Table.getElem?_ofList (by simp)]
    rfl
  unfold Resource.isCard
  rw [htransport, Option.isNone_some, Bool.and_false]

theorem isCard_virtualGpu (node : String) : (virtualGpu node).isCard = false := by
  have hstarts : startsWith "local.gpu." (virtualGpu node).id = false :=
    show startsWith "local.gpu." "gpu.virtual.0" = false by decide
  unfold Resource.isCard
  rw [hstarts, Bool.and_false, Bool.false_and]

theorem filter_isCard {l : List Resource} (h : ∀ r ∈ l, r.isCard = false) :
    l.filter Resource.isCard = [] := by
  rw [List.filter_eq_nil_iff]
  intro r hr hcard
  rw [h r hr] at hcard
  cases hcard

theorem isCard_inventory {facts : HostFacts} {node : String} {r : Resource}
    (hr : r ∈ HostInventory.discover facts node) : r.isCard = false := by
  simp only [HostInventory.discover, List.mem_append, List.mem_cons, List.not_mem_nil,
    or_false] at hr
  rcases hr with (((rfl | rfl) | hdisk) | rfl | rfl | rfl) | hnetwork
  · exact isCard_of_kind .cpu rfl (by decide)
  · exact isCard_of_kind .memory rfl (by decide)
  · obtain ⟨i, hi, rfl⟩ := List.mem_mapIdx.mp hdisk
    exact isCard_of_kind .storage rfl (by decide)
  · exact isCard_of_kind .storage rfl (by decide)
  · exact isCard_wgpu node
  · exact isCard_of_kind .memory rfl (by decide)
  · obtain ⟨name, -, hr⟩ := List.mem_filterMap.mp hnetwork
    obtain ⟨mac, -, rfl⟩ := Option.map_eq_some_iff.mp hr
    exact isCard_of_kind .network rfl (by decide)

/-- What the summary says of a card. -/
structure ShowsCard (gpu : GpuDevice) (shown : GpuSummary) : Prop where
  id : ∀ node, shown.id = (gpu.asResource node).id
  name : shown.name = gpu.deviceName
  vendor : shown.vendor = gpu.vendor.label
  driver : shown.driver = gpu.driver
  pciBdf : shown.pciBdf = gpu.pciBdf
  vramBytes : shown.vramBytes = gpu.vramTotalBytes

theorem showsCard_described {gpu : GpuDevice} {node : String} {r : Resource}
    (h : HwInfo.Described (gpu.asResource node) r) : ShowsCard gpu r.gpuSummary := by
  have hattr : ∀ k v, ¬ HwInfo.FactKey k →
      ((gpu.optionalAttrs.lookup k).join).or (gpu.attrs.lookup k) = some v → r.attr k = v := by
    intro k v hfact hlookup
    unfold Resource.attr
    rw [h.others k hfact, GpuLocal.getElem?_asResource, hlookup]
    rfl
  constructor
  · intro node'
    exact h.id
  · exact hattr _ _ (by unfold HwInfo.FactKey; decide) rfl
  · exact hattr _ _ (by unfold HwInfo.FactKey; decide) rfl
  · exact hattr _ _ (by unfold HwInfo.FactKey; decide) rfl
  · exact hattr _ _ (by unfold HwInfo.FactKey; decide) rfl
  · exact (h.capacity (show ResourceKind.gpu ≠ .network by decide)).1

/-- The cards among what is described are the cards of the host. -/
theorem cards_described {facts : HostFacts} {node gpuNode : String}
    {gpus : Except GpuDiscoveryError (List DrmDevice)} {described : List Resource}
    (h : List.Forall₂ HwInfo.Described
      (HostInventory.discover facts node ++ LocalHost.gpuResources gpuNode gpus) described) :
    List.Forall₂ ShowsCard (cardsOf gpus)
      ((described.filter Resource.isCard).map Resource.gpuSummary) := by
  have hfiltered : List.Forall₂ HwInfo.Described
      ((HostInventory.discover facts node ++ LocalHost.gpuResources gpuNode gpus).filter
        Resource.isCard) (described.filter Resource.isCard) := by
    refine List.rel_filter ?_ h
    intro before after hdescribed
    dsimp only
    rw [isCard_described hdescribed]
  have hinventory : (HostInventory.discover facts node).filter Resource.isCard = [] :=
    filter_isCard fun _ => isCard_inventory
  have hgpus : (LocalHost.gpuResources gpuNode gpus).filter Resource.isCard =
      (cardsOf gpus).map fun gpu => gpu.asResource gpuNode := by
    rw [gpuResources_eq, List.filter_eq_self]
    intro r hr
    obtain ⟨gpu, -, rfl⟩ := List.mem_map.mp hr
    exact isCard_asResource gpu gpuNode
  rw [List.filter_append, hinventory, List.nil_append, hgpus, List.forall₂_map_left_iff]
    at hfiltered
  rw [List.forall₂_map_right_iff]
  exact hfiltered.imp fun gpu r hdescribed => showsCard_described hdescribed

/-! ## The summary of an agent's inventory -/

theorem capacityOf_eq {listed : List Resource} (hdistinct : (listed.map Resource.id).Nodup)
    {r : Resource} (hr : r ∈ listed) : capacityOf listed r.id = r.capacity := by
  unfold capacityOf
  rw [(Table.find?_keyed hdistinct).mpr ⟨hr, rfl⟩]
  rfl

theorem exists_described {before after : List Resource}
    (h : List.Forall₂ HwInfo.Described before after) {r₀ : Resource} (hr₀ : r₀ ∈ before) :
    ∃ r ∈ after, HwInfo.Described r₀ r := by
  induction h with
  | nil => cases hr₀
  | cons hone _ ih =>
      rcases List.mem_cons.mp hr₀ with rfl | hr₀
      · exact ⟨_, List.mem_cons_self, hone⟩
      · obtain ⟨r, hr, hdescribed⟩ := ih hr₀
        exact ⟨r, List.mem_cons_of_mem _ hr, hdescribed⟩

section Listed

variable {host : LocalHost F N} {node gpuNode : String}
  {gpus : Except GpuDiscoveryError (List DrmDevice)} {described listed : List Resource}

theorem virtualGpu_starts (node : String) :
    ∀ x ∈ [virtualGpu node].map Resource.id, "gpu.".toList <+: x.toList := by
  intro x hx
  obtain rfl := List.mem_singleton.mp hx
  exact show "gpu.".toList <+: "gpu.virtual.0".toList by decide

theorem numa_listed (hdescribed : List.Forall₂ HwInfo.Described
      (HostInventory.discover host.facts node ++ LocalHost.gpuResources gpuNode gpus) described)
    (hlisted : listed.Perm (described ++ HwInfo.numaResources host.drm.sys "/sys" node ++
      HwInfo.rdmaResources host.tools.rateText host.drm.sys "/sys" node ++ [virtualGpu node])) :
    (listed.filter fun r => startsWith "local.numa." r.id).Perm
      (HwInfo.numaResources host.drm.sys "/sys" node) := by
  have hnuma := hlisted.filter fun r => startsWith "local.numa." r.id
  rw [List.filter_append, List.filter_append, List.filter_append,
    filter_described hdescribed (Or.inl rfl), filter_starts (LocalHost.starts_numaResources _ _),
    filter_apart (by decide) (LocalHost.starts_rdmaResources _ _ _),
    filter_apart (by decide) (virtualGpu_starts node), List.nil_append, List.append_nil,
    List.append_nil] at hnuma
  exact hnuma

theorem rdma_listed (hdescribed : List.Forall₂ HwInfo.Described
      (HostInventory.discover host.facts node ++ LocalHost.gpuResources gpuNode gpus) described)
    (hlisted : listed.Perm (described ++ HwInfo.numaResources host.drm.sys "/sys" node ++
      HwInfo.rdmaResources host.tools.rateText host.drm.sys "/sys" node ++ [virtualGpu node])) :
    (listed.filter fun r => startsWith "local.rdma." r.id).Perm
      (HwInfo.rdmaResources host.tools.rateText host.drm.sys "/sys" node) := by
  have hrdma := hlisted.filter fun r => startsWith "local.rdma." r.id
  rw [List.filter_append, List.filter_append, List.filter_append,
    filter_described hdescribed (Or.inr rfl), filter_starts (LocalHost.starts_rdmaResources _ _ _),
    filter_apart (by decide) (LocalHost.starts_numaResources _ _),
    filter_apart (by decide) (virtualGpu_starts node), List.nil_append, List.nil_append,
    List.append_nil] at hrdma
  exact hrdma

theorem cards_listed
    (hlisted : listed.Perm (described ++ HwInfo.numaResources host.drm.sys "/sys" node ++
      HwInfo.rdmaResources host.tools.rateText host.drm.sys "/sys" node ++ [virtualGpu node])) :
    (listed.filter Resource.isCard).Perm (described.filter Resource.isCard) := by
  have hnuma : (HwInfo.numaResources host.drm.sys "/sys" node).filter Resource.isCard = [] := by
    refine filter_isCard ?_
    intro r hr
    exact isCard_of_kind .memory (LocalHost.not_leasable_numa hr).2 (by decide)
  have hrdma : (HwInfo.rdmaResources host.tools.rateText host.drm.sys "/sys" node).filter
      Resource.isCard = [] := by
    refine filter_isCard ?_
    intro r hr
    exact isCard_of_kind .network (LocalHost.leasable_rdma hr).1 (by decide)
  have hvirtual : [virtualGpu node].filter Resource.isCard = [] :=
    filter_isCard fun r hr => List.mem_singleton.mp hr ▸ isCard_virtualGpu node
  have hcards := hlisted.filter Resource.isCard
  rw [List.filter_append, List.filter_append, List.filter_append, hnuma, hrdma, hvirtual,
    List.append_nil, List.append_nil, List.append_nil] at hcards
  exact hcards

end Listed

/-- The summary counts what the host has. -/
structure CountsHost (host : LocalHost F N) (node : String)
    (gpus : Except GpuDiscoveryError (List DrmDevice)) (summary : InventorySummary) : Prop where
  logicalCpus : summary.logicalCpus = host.facts.availableParallelism.getD 1
  memoryBytes : summary.memoryBytes = host.facts.totalMemory
  numaNodes : summary.numaNodes = (HwInfo.numaResources host.drm.sys "/sys" node).length
  gpus : ∃ shown, summary.gpus.Perm shown ∧ List.Forall₂ ShowsCard (cardsOf gpus) shown
  rdmaPorts : summary.rdmaPorts.Perm
    ((HwInfo.rdmaResources host.tools.rateText host.drm.sys "/sys" node).map Resource.rdmaSummary)

theorem countsHost {host : LocalHost F N} {node gpuNode : String} {resources listed : List Resource}
    (h : host.found node gpuNode = some resources)
    (hdistinct : (listed.map Resource.id).Nodup)
    (hlisted : listed.Perm (resources ++ [virtualGpu node])) :
    ∃ gpus, Discover.discover host.drm = some gpus ∧
      CountsHost host node gpus (summarizeInventory listed) := by
  obtain ⟨gpus, described, hgpus, rfl, hdescribed⟩ := LocalHost.found_cases h
  refine ⟨gpus, hgpus, ?_⟩
  have hcapacity : ∀ r₀ ∈ HostInventory.discover host.facts node, ∀ kind, r₀.kind = kind →
      kind ≠ .network → capacityOf listed r₀.id = r₀.capacity := by
    rintro r₀ hr₀ _ rfl hkind
    obtain ⟨r, hr, hsame⟩ := exists_described hdescribed (List.mem_append_left _ hr₀)
    have hmem : r ∈ listed := hlisted.mem_iff.mpr (by simp [hr])
    rw [← hsame.id, capacityOf_eq hdistinct hmem]
    exact (hsame.capacity hkind).1
  constructor
  · exact hcapacity (.localCpu host.facts node) (by simp [HostInventory.discover]) .cpu rfl
      (by decide)
  · exact hcapacity (.localMemory node host.facts.totalMemory) (by simp [HostInventory.discover])
      .memory rfl (by decide)
  · exact (numa_listed hdescribed hlisted).length_eq
  · exact ⟨_, (cards_listed hlisted).map Resource.gpuSummary, cards_described hdescribed⟩
  · exact (rdma_listed hdescribed hlisted).map Resource.rdmaSummary

/-- In every run of an agent, the summary of the inventory that it answers counts what its host
has: the processors, the memory and the NUMA nodes, the cards, each once, and the RDMA ports. -/
theorem summary_answer {host : LocalHost F N} (hplain : host.PlainHost) {node : String}
    {adapters : List (ResourceAdapter W)} {c : Config (@Section.Reply W) (Shared W) Unit}
    (h : (serving (Started host node adapters)).Reachable c) (order : IterOrder) :
    ∃ gpus listed, Discover.discover host.drm = some gpus ∧
      (dispatch order .inventory).run Section.act c.state = (some (.inventory listed), c.state) ∧
      CountsHost host node gpus (summarizeInventory listed) := by
  obtain ⟨resources, hfound, hdistinct, hregistered⟩ := registered_serving hplain h
  let listed := c.state.fabric.resources.values.mergeSort fun a b => decide (a.id ≤ b.id)
  have hlisted : listed.Perm (resources ++ [virtualGpu node]) :=
    (List.mergeSort_perm _ _).trans hregistered
  have hnodup : (listed.map Resource.id).Nodup := ((hlisted.map _).nodup_iff).mpr hdistinct
  obtain ⟨gpus, hgpus, hcounts⟩ := countsHost hfound hnodup hlisted
  exact ⟨gpus, listed, hgpus, rfl, hcounts⟩

open LocalHost.Samples AgentScenario in
theorem summary_answer_rig : ∃ (s : Shared (Store.StoreWorld Unit)) (listed : List Resource),
    (serving (Started rig "local" (agentAdapters rigAgent))).Reachable ⟨s, []⟩ ∧
      s.Honours gpuLease ∧
      (dispatch .sorted .inventory).run Section.act s = (some (.inventory listed), s) ∧
      (summarizeInventory listed).logicalCpus = 8 ∧
      (summarizeInventory listed).memoryBytes = 17179869184 := by
  obtain ⟨s, hreachable, -, hhonours⟩ := leased_rig
  obtain ⟨gpus, listed, -, hrun, hcounts⟩ := summary_answer plainHost_rig hreachable .sorted
  exact ⟨s, listed, hreachable, hhonours, hrun, hcounts.logicalCpus, hcounts.memoryBytes⟩

end NautiFabric
