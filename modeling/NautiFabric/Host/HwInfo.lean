import NautiFabric.Fabric.Types
import NautiFabric.Host.Sysfs
import NautiFabric.Lib.Buckets
import NautiFabric.Lib.Entries

/-!
# NautiFabric.Host.HwInfo — hardware facts from sysfs

NUMA nodes and RDMA ports become resources of their own; what sysfs says of the network
interfaces and the GPUs is added to the resources that stand for them. `Described` says
how little of a resource that changes (`described_discoverHardware`).
-/

namespace NautiFabric

/-- Whether a string starts with another one. -/
def startsWith (start s : String) : Bool := start.toList.isPrefixOf s.toList

namespace HwInfo

/-! ## NUMA nodes -/

/-- `MemTotal` and `MemFree` of a node, in bytes. -/
def nodeMeminfo (sys : SysTree) (nodeDir : String) : UInt64 × UInt64 :=
  (lines ((sys.read (nodeDir ++ "/meminfo")).getD "")).foldl (fun (total, free) line =>
    match splitWhitespace line with
    | _ :: _ :: key :: amount :: _ =>
      let kb : UInt64 := .ofNat ((fromStrRadix 10 64 amount).getD 0)
      if key = "MemTotal:" then (kb * 1024, free)
      else if key = "MemFree:" then (total, kb * 1024)
      else (total, free)
    | _ => (total, free)) (0, 0)

/-- The number of a NUMA node, if an entry of the directory is one. -/
def numaIndex (name : String) : Option ℕ := (stripStart "node" name).bind (fromStrRadix 10 32)

def numaResource (sys : SysTree) (root node name : String) (index : ℕ) : Resource :=
  let dir := root ++ "/devices/system/node/" ++ name
  let (total, free) := nodeMeminfo sys dir
  { id := "local.numa." ++ toString index
    kind := .memory
    capacity := total
    unit := "bytes"
    node := node
    state := .available
    exclusive := false
    attributes := .ofList
      [("numa.node", toString index), ("numa.cpulist", (sys.read (dir ++ "/cpulist")).getD ""),
        ("numa.free_bytes", toString free)] }

def numaResources (sys : SysTree) (root node : String) : List Resource :=
  (sys.entries (root ++ "/devices/system/node")).filterMap fun name =>
    (numaIndex name).map (numaResource sys root node name)

/-! ## RDMA ports -/

/-- How the text of a rate in Gb/s is read as a number of bits: `parse::<f64>`, times 1e9,
`as u64`. -/
abbrev RateText := String → Option UInt64

def infiniband (root : String) : String := root ++ "/class/infiniband"

def rdmaTransport (name : String) : String :=
  if startsWith "roce" name || startsWith "bnxt_re" name || startsWith "mlx" name then "roce"
  else if startsWith "iw" name || startsWith "irdma" name then "iwarp"
  else if startsWith "ib" name || startsWith "hfi" name then "infiniband"
  else "unknown"

/-- From a network interface to the RDMA device behind it, and its port. -/
def rdmaByNetdev (sys : SysTree) (root : String) : StringMap (String × String) :=
  ((sys.entries (infiniband root)).flatMap fun name =>
    (sys.entries (infiniband root ++ "/" ++ name ++ "/device/net")).map fun netdev =>
      (netdev, name)).foldl (fun out (netdev, name) => out.insert netdev (name, "1")) ∅

/-- A port that an RDMA device has. -/
structure RdmaPort where
  device : String
  port : String
deriving DecidableEq, Repr

namespace RdmaPort

def id (p : RdmaPort) : String := "local.rdma." ++ p.device ++ "." ++ p.port

def deviceDir (root : String) (p : RdmaPort) : String :=
  infiniband root ++ "/" ++ p.device ++ "/device"

def dir (root : String) (p : RdmaPort) : String :=
  infiniband root ++ "/" ++ p.device ++ "/ports/" ++ p.port

/-- What sysfs says the port is doing. -/
def state (sys : SysTree) (root : String) (p : RdmaPort) : String :=
  (sys.read (p.dir root ++ "/state")).getD ""

def active (sys : SysTree) (root : String) (p : RdmaPort) : Bool :=
  containsStr (p.state sys root) "ACTIVE"

def rate (sys : SysTree) (root : String) (p : RdmaPort) : String :=
  (sys.read (p.dir root ++ "/rate")).getD ""

/-- The attributes that every port has. -/
def attrs (sys : SysTree) (root : String) (p : RdmaPort) : List (String × String) :=
  [("rdma.device", p.device), ("rdma.port", p.port),
    ("rdma.state", trim ((split ':' (p.state sys root)).getLast?.getD "")),
    ("rdma.rate", p.rate sys root),
    ("rdma.link_layer", (sys.read (p.dir root ++ "/link_layer")).getD ""),
    ("rdma.transport", rdmaTransport p.device)]

/-- The attributes that a port may have. -/
def optionalAttrs (sys : SysTree) (root : String) (p : RdmaPort) :
    List (String × Option String) :=
  [("rdma.netdev", (sys.entries (p.deviceDir root ++ "/net")).head?),
    ("rdma.numa_node", sys.pciNuma (p.deviceDir root)),
    ("rdma.driver", sys.linkName (p.deviceDir root ++ "/driver")),
    ("rdma.gid0", sys.read (p.dir root ++ "/gids/0"))]

def asResource (rateText : RateText) (sys : SysTree) (root node : String) (p : RdmaPort) :
    Resource where
  id := p.id
  kind := .network
  capacity := ((splitWhitespace (p.rate sys root)).head?.bind rateText).getD 0
  unit := "bits/s"
  node := node
  state := if p.active sys root then .available else .unavailable
  -- a lease reserves the link for one job
  exclusive := true
  attributes := (p.optionalAttrs sys root).foldl Entries.insertSome (.ofList (p.attrs sys root))

end RdmaPort

/-- The ports of a host, device by device. -/
def rdmaPorts (sys : SysTree) (root : String) : List RdmaPort :=
  (sys.entries (infiniband root)).flatMap fun device =>
    (sys.entries (infiniband root ++ "/" ++ device ++ "/ports")).map fun port => ⟨device, port⟩

def rdmaResources (rateText : RateText) (sys : SysTree) (root node : String) : List Resource :=
  (rdmaPorts sys root).map (RdmaPort.asResource rateText sys root node)

/-! ## What is added to other resources -/

/-- `parse::<i64>`, of which only positive speeds are kept: what is not positive is no
number of 63 bits, or zero. -/
def positiveSpeed (s : String) : Option ℕ := (fromStrRadix 10 63 s).filter fun mbps => 0 < mbps

def speedMbps (sys : SysTree) (dir : String) : Option ℕ :=
  (sys.read (dir ++ "/speed")).bind positiveSpeed

/-- The attributes that an interface may get. -/
def networkAttrs (sys : SysTree) (root : String) (ipv4 : StringMap (List String))
    (iface : String) : List (String × Option String) :=
  let dir := root ++ "/class/net/" ++ iface
  let device := dir ++ "/device"
  let physical := sys.pathExists device
  [("net.operstate", sys.read (dir ++ "/operstate")),
    ("net.speed_mbps", (speedMbps sys dir).map toString),
    ("net.mtu", sys.read (dir ++ "/mtu")),
    ("net.pci_bdf", if physical then (sys.canonicalize device).bind fileName else none),
    ("net.driver", if physical then sys.linkName (device ++ "/driver") else none),
    ("net.numa_node", if physical then sys.pciNuma device else none),
    ("net.virtual", if physical then none else some "true"),
    ("net.ipv4", (ipv4[iface]?).map fun addrs => ",".intercalate addrs),
    ("net.rdma_device", ((rdmaByNetdev sys root)[iface]?).map Prod.fst)]

/-- The interface that a resource stands for, if sysfs has it. -/
def interface (sys : SysTree) (root : String) (resource : Resource) : Option String :=
  if resource.kind = .network then
    (resource.attributes["interface"]?).filter fun iface =>
      sys.pathExists (root ++ "/class/net/" ++ iface)
  else none

def enrichInterface (sys : SysTree) (root : String) (ipv4 : StringMap (List String))
    (resource : Resource) : Resource :=
  match interface sys root resource with
  | none => resource
  | some iface =>
    let attributes :=
      (networkAttrs sys root ipv4 iface).foldl Entries.insertSome resource.attributes
    match speedMbps sys (root ++ "/class/net/" ++ iface) with
    | none => { resource with attributes }
    | some mbps =>
      { resource with attributes, capacity := .ofNat mbps * 1000000, unit := "bits/s" }

def enrichNetwork (sys : SysTree) (root : String) (ipv4 : StringMap (List String))
    (resources : List Resource) : List Resource :=
  resources.map (enrichInterface sys root ipv4)

/-- The NUMA node of a GPU, by its address. -/
def gpuNuma (sys : SysTree) (root : String) (resource : Resource) : Option String :=
  if resource.kind = .gpu then
    (resource.attributes["gpu.pci_bdf"]?).bind fun bdf =>
      sys.pciNuma (root ++ "/bus/pci/devices/" ++ bdf)
  else none

def enrichGpu (sys : SysTree) (root : String) (resource : Resource) : Resource :=
  { resource with
    attributes :=
      Entries.insertSome resource.attributes ("gpu.numa_node", gpuNuma sys root resource) }

def enrichGpuNuma (sys : SysTree) (root : String) (resources : List Resource) : List Resource :=
  resources.map (enrichGpu sys root)

/-- The addresses of the interfaces in what `ip -4 -o addr show` prints; nothing if it
cannot be run. -/
def ipv4ByInterface (output : Option (List UInt8)) : StringMap (List String) :=
  match output with
  | none => ∅
  | some stdout =>
    (lines (fromUtf8Lossy stdout)).foldl (fun out line =>
      let parts := splitWhitespace line
      match parts[1]?, parts[parts.idxOf "inet" + 1]? with
      | some iface, some addr =>
        Buckets.push out (.ofList (iface.toList.rdropWhile fun c => c == ':')) addr
      | _, _ => out) ∅

/-- What is asked of a host besides its sysfs. -/
structure HostTools where
  rateText : RateText
  /-- what `ip -4 -o addr show` prints -/
  ipOutput : Option (List UInt8)

def discoverHardware (tools : HostTools) (sys : SysTree) (node : String)
    (resources : List Resource) : List Resource :=
  enrichGpuNuma sys "/sys" (enrichNetwork sys "/sys" (ipv4ByInterface tools.ipOutput) resources) ++
    numaResources sys "/sys" node ++ rdmaResources tools.rateText sys "/sys" node

/-! ## How a resource is described anew -/

/-- A key under which hardware facts are added. -/
def FactKey (k : String) : Prop := startsWith "net." k ∨ k = "gpu.numa_node"

/-- The same resource with more attributes, none of them lost. Only a network interface may
get another capacity. -/
structure Described (before after : Resource) : Prop where
  id : after.id = before.id
  kind : after.kind = before.kind
  node : after.node = before.node
  state : after.state = before.state
  exclusive : after.exclusive = before.exclusive
  capacity : before.kind ≠ .network → after.capacity = before.capacity ∧ after.unit = before.unit
  others : ∀ k, ¬ FactKey k → after.attributes[k]? = before.attributes[k]?
  kept : ∀ k : String, k ∈ before.attributes → k ∈ after.attributes

theorem Described.refl (r : Resource) : Described r r :=
  ⟨rfl, rfl, rfl, rfl, rfl, fun _ => ⟨rfl, rfl⟩, fun _ _ => rfl, fun _ h => h⟩

theorem Described.trans {a b c : Resource} (h : Described a b) (h' : Described b c) :
    Described a c where
  id := h'.id.trans h.id
  kind := h'.kind.trans h.kind
  node := h'.node.trans h.node
  state := h'.state.trans h.state
  exclusive := h'.exclusive.trans h.exclusive
  capacity := by
    intro hkind
    obtain ⟨hcapacity, hunit⟩ := h.capacity hkind
    obtain ⟨hcapacity', hunit'⟩ := h'.capacity (by rwa [h.kind])
    exact ⟨hcapacity'.trans hcapacity, hunit'.trans hunit⟩
  others := fun k hk => (h'.others k hk).trans (h.others k hk)
  kept := fun k hk => h'.kept k (h.kept k hk)

/-- Inserting some optional entries loses no key. -/
theorem mem_foldl_insertSome {k : String} (entries : List (String × Option String))
    {m : StringMap String} (h : k ∈ m) : k ∈ entries.foldl Entries.insertSome m := by
  induction entries generalizing m with
  | nil => exact h
  | cons entry entries ih =>
      apply ih
      obtain ⟨k', v⟩ := entry
      rcases v with _ | v
      · exact h
      · exact Std.ExtTreeMap.mem_insert.mpr (Or.inr h)

theorem networkAttrs_keys (sys : SysTree) (root : String) (ipv4 : StringMap (List String))
    (iface : String) : (networkAttrs sys root ipv4 iface).map Prod.fst =
      ["net.operstate", "net.speed_mbps", "net.mtu", "net.pci_bdf", "net.driver",
        "net.numa_node", "net.virtual", "net.ipv4", "net.rdma_device"] := rfl

theorem networkAttrs_nodup (sys : SysTree) (root : String) (ipv4 : StringMap (List String))
    (iface : String) : ((networkAttrs sys root ipv4 iface).map Prod.fst).Nodup := by
  rw [networkAttrs_keys]
  decide

/-- An interface keeps the attributes that are no facts about it. -/
theorem getElem?_networkAttrs (sys : SysTree) (root : String) (ipv4 : StringMap (List String))
    (iface : String) (m : StringMap String) {k : String} (hk : ¬ startsWith "net." k) :
    ((networkAttrs sys root ipv4 iface).foldl Entries.insertSome m)[k]? = m[k]? := by
  have hnone : (networkAttrs sys root ipv4 iface).lookup k = none := by
    apply Entries.lookup_of_not_mem
    rw [networkAttrs_keys]
    intro hmem
    apply hk
    have hall : ∀ k ∈ ["net.operstate", "net.speed_mbps", "net.mtu", "net.pci_bdf", "net.driver",
        "net.numa_node", "net.virtual", "net.ipv4", "net.rdma_device"],
        startsWith "net." k := by
      decide
    exact hall k hmem
  rw [Entries.getElem?_insertPresent (networkAttrs_nodup sys root ipv4 iface), hnone]
  rfl

theorem described_enrichInterface (sys : SysTree) (root : String)
    (ipv4 : StringMap (List String)) (resource : Resource) :
    Described resource (enrichInterface sys root ipv4 resource) := by
  unfold enrichInterface
  rcases hiface : interface sys root resource with _ | iface
  · exact .refl resource
  · have hnetwork : resource.kind = .network := by
      unfold interface at hiface
      split at hiface
      · assumption
      · cases hiface
    have hothers : ∀ k, ¬ FactKey k →
        ((networkAttrs sys root ipv4 iface).foldl Entries.insertSome resource.attributes)[k]? =
          resource.attributes[k]? :=
      fun k hk => getElem?_networkAttrs sys root ipv4 iface _ fun h => hk (Or.inl h)
    dsimp only
    split
    · exact ⟨rfl, rfl, rfl, rfl, rfl, fun _ => ⟨rfl, rfl⟩, hothers,
        fun k hk => mem_foldl_insertSome _ hk⟩
    · exact ⟨rfl, rfl, rfl, rfl, rfl, fun h => absurd hnetwork h, hothers,
        fun k hk => mem_foldl_insertSome _ hk⟩

theorem described_enrichGpu (sys : SysTree) (root : String) (resource : Resource) :
    Described resource (enrichGpu sys root resource) := by
  refine ⟨rfl, rfl, rfl, rfl, rfl, fun _ => ⟨rfl, rfl⟩, ?_, ?_⟩
  · intro k hk
    dsimp only [enrichGpu]
    rw [Entries.getElem?_insertSome, if_neg]
    exact fun h => hk (Or.inr h.symm)
  · intro k hk
    exact mem_foldl_insertSome [("gpu.numa_node", gpuNuma sys root resource)] hk

/-- The resources that come in are described anew, one by one; the others are added. -/
theorem described_discoverHardware (tools : HostTools) (sys : SysTree) (node : String)
    (resources : List Resource) :
    ∃ described, List.Forall₂ Described resources described ∧
      discoverHardware tools sys node resources =
        described ++ numaResources sys "/sys" node ++
          rdmaResources tools.rateText sys "/sys" node := by
  refine ⟨enrichGpuNuma sys "/sys"
    (enrichNetwork sys "/sys" (ipv4ByInterface tools.ipOutput) resources), ?_, rfl⟩
  unfold enrichGpuNuma enrichNetwork
  rw [List.map_map, List.forall₂_map_right_iff, List.forall₂_same]
  intro resource _
  exact (described_enrichInterface sys "/sys" _ resource).trans (described_enrichGpu sys "/sys" _)

/-! ## Identities -/

/-- What holds of the names under `/sys`: no directory lists one twice, a NUMA node is
numbered in plain decimal, and the name of a port is a number. -/
structure KernelNames (sys : SysTree) (root : String) : Prop where
  listed : ∀ dir names, sys.readDir dir = some names → names.Nodup
  nodes : ∀ name ∈ sys.entries (root ++ "/devices/system/node"), ∀ index,
    numaIndex name = some index → name = "node" ++ toString index
  ports : ∀ p ∈ rdmaPorts sys root, '.' ∉ p.port.toList

theorem KernelNames.nodup_entries {sys : SysTree} {root : String} (h : KernelNames sys root)
    (dir : String) : (sys.entries dir).Nodup := by
  rw [(sys.entries_perm dir).nodup_iff]
  rcases hread : sys.readDir dir with _ | names
  · exact List.nodup_nil
  · exact h.listed dir names hread

theorem mem_rdmaPorts {sys : SysTree} {root : String} {p : RdmaPort} :
    p ∈ rdmaPorts sys root ↔ p.device ∈ sys.entries (infiniband root) ∧
      p.port ∈ sys.entries (infiniband root ++ "/" ++ p.device ++ "/ports") := by
  unfold rdmaPorts
  rw [List.mem_flatMap]
  constructor
  · rintro ⟨device, hdevice, hmem⟩
    obtain ⟨port, hport, rfl⟩ := List.mem_map.mp hmem
    exact ⟨hdevice, hport⟩
  · rintro ⟨hdevice, hport⟩
    exact ⟨p.device, hdevice, List.mem_map_of_mem hport⟩

/-- A port is known by its id, as long as its name has no dot. -/
theorem RdmaPort.id_inj {p q : RdmaPort} (hp : '.' ∉ p.port.toList) (hq : '.' ∉ q.port.toList)
    (h : p.id = q.id) : p = q := by
  have htext := congrArg String.toList h
  simp only [RdmaPort.id, String.toList_append, List.append_assoc] at htext
  have hrest := List.append_cancel_left htext
  have hsplit := rsplitOnce_append hp p.device.toList
  have hpdot :
      p.device.toList ++ '.' :: p.port.toList = q.device.toList ++ '.' :: q.port.toList := by
    simpa using hrest
  rw [hpdot, rsplitOnce_append hq] at hsplit
  obtain ⟨hdevice, hport⟩ := Prod.mk.inj (Option.some.inj hsplit)
  have hports : p.port = q.port :=
    String.toList_injective (String.ofList_injective hport).symm
  have hdevices : p.device = q.device :=
    String.toList_injective (String.ofList_injective hdevice).symm
  cases p
  cases q
  exact congrArg₂ RdmaPort.mk hdevices hports

theorem KernelNames.nodup_ports {sys : SysTree} {root : String} (h : KernelNames sys root) :
    (rdmaPorts sys root).Nodup := by
  unfold rdmaPorts
  rw [List.nodup_flatMap]
  constructor
  · intro device _
    refine (h.nodup_entries _).map ?_
    intro port port' heq
    exact (RdmaPort.mk.inj heq).2
  · refine (h.nodup_entries _).imp ?_
    intro device device' hne p hp hp'
    obtain ⟨port, -, rfl⟩ := List.mem_map.mp hp
    obtain ⟨port', -, heq⟩ := List.mem_map.mp hp'
    exact hne (RdmaPort.mk.inj heq).1.symm

theorem ids_rdmaResources (rateText : RateText) (sys : SysTree) (root node : String) :
    (rdmaResources rateText sys root node).map Resource.id =
      (rdmaPorts sys root).map RdmaPort.id := by
  unfold rdmaResources
  rw [List.map_map]
  rfl

theorem ids_numaResources (sys : SysTree) (root node : String) :
    (numaResources sys root node).map Resource.id =
      (sys.entries (root ++ "/devices/system/node")).filterMap fun name =>
        (numaIndex name).map fun index => "local.numa." ++ toString index := by
  unfold numaResources
  rw [List.map_filterMap]
  refine List.filterMap_congr fun name _ => ?_
  rw [Option.map_map]
  rfl

theorem KernelNames.nodup_rdma_ids {sys : SysTree} {root : String} (h : KernelNames sys root)
    (rateText : RateText) (node : String) :
    ((rdmaResources rateText sys root node).map Resource.id).Nodup := by
  rw [ids_rdmaResources]
  refine List.Nodup.map_on ?_ h.nodup_ports
  intro p hp q hq hid
  exact RdmaPort.id_inj (h.ports p hp) (h.ports q hq) hid

theorem KernelNames.nodup_numa_ids {sys : SysTree} {root : String} (h : KernelNames sys root)
    (node : String) : ((numaResources sys root node).map Resource.id).Nodup := by
  rw [ids_numaResources, List.Nodup, List.pairwise_filterMap]
  refine (h.nodup_entries _).imp_of_mem ?_
  intro a b ha hb hne x hx y hy
  obtain ⟨i, hi, rfl⟩ := Option.map_eq_some_iff.mp hx
  obtain ⟨j, hj, rfl⟩ := Option.map_eq_some_iff.mp hy
  intro heq
  apply hne
  rw [h.nodes a ha i hi, h.nodes b hb j hj, append_left_injective heq]

end HwInfo

end NautiFabric
