import NautiFabric.Host.Advertised

/-!
# NautiFabric.Host.Passthrough — GPUs handed to a VM through VFIO

A GPU is advertised as a card of the host and attached as a PCI device, which another driver
has by then. The adapter finds out anew what is bound to `vfio-pci` each time it is asked:
`Passable` is what it takes of the host, and `attach_found` says that of the GPUs that were
found once the ones that are passable now are attached, and no others. The report counts them
(`report_iff_passable`).
-/

namespace NautiFabric

namespace Vfio

def name : String := "gpu-vfio"

def scope : String := "gpu-vfio-passthrough"

/-! ## What the host says -/

/-- What stands in the way of a GPU, if anything does. -/
inductive VfioState where
  | available (bdf : String) (iommuGroup : ℕ) (devicePath : String)
  | notBound (bdf : String)
  | noIommu (bdf : String)
  | notPresent (bdf : String)
deriving DecidableEq, Repr

def VfioState.bdf : VfioState → String
  | available bdf _ _ | notBound bdf | noIommu bdf | notPresent bdf => bdf

/-- The group of a GPU that is available. -/
def VfioState.group : VfioState → Option ℕ
  | available _ group _ => some group
  | _ => none

structure VfioDiscovery where
  gpus : List VfioState
  totalPciDevices : ℕ
  iommuGroups : Finset ℕ

namespace VfioDiscovery

/-- `Default`. -/
def nothing : VfioDiscovery := ⟨[], 0, ∅⟩

def vfioAvailableCount (discovery : VfioDiscovery) : ℕ :=
  (discovery.gpus.filter fun state => state.group.isSome).length

def totalGpuCount (discovery : VfioDiscovery) : ℕ := discovery.gpus.length

end VfioDiscovery

def pciDir : String := "/sys/bus/pci/devices"

def deviceDir (bdf : String) : String := pciDir ++ "/" ++ bdf

def parseHex (raw : String) : Option ℕ :=
  let raw := trim raw
  fromStrRadix 16 32 ((stripStart "0x" raw).getD raw)

/-- The base class of a display. -/
def isGpu (sys : SysTree) (device : String) : Bool :=
  ((sys.read (device ++ "/class")).bind parseHex).any fun pciClass =>
    (pciClass >>> 16) &&& 0xff == 0x03

/-- A device that has fallen off the bus reads as ones. -/
def offBus (sys : SysTree) (device : String) : Bool :=
  (sys.read (device ++ "/vendor")).bind parseHex == some 0xffff

def iommuGroup (sys : SysTree) (device : String) : Option ℕ :=
  (sys.readLink (device ++ "/iommu_group")).bind fun target =>
    (split '/' target).getLast?.bind (fromStrRadix 10 32)

def boundToVfio (sys : SysTree) (device : String) : Bool :=
  (sys.readLink (device ++ "/driver")).bind fileName == some "vfio-pci"

def groupPath (group : ℕ) : String := "/dev/vfio/" ++ toString group

def classifyGpu (sys : SysTree) (device bdf : String) : VfioState :=
  if offBus sys device then .notPresent bdf
  else
    match iommuGroup sys device with
    | none => .noIommu bdf
    | some group =>
      if !boundToVfio sys device then .notBound bdf
      else if !sys.pathExists (groupPath group) then .noIommu bdf
      else .available bdf group (groupPath group)

/-- One turn of the loop over the devices. -/
def observe (sys : SysTree) (discovery : VfioDiscovery) (bdf : String) : VfioDiscovery :=
  let total := discovery.totalPciDevices + 1
  if isGpu sys (deviceDir bdf) then
    let state := classifyGpu sys (deviceDir bdf) bdf
    { gpus := discovery.gpus ++ [state]
      totalPciDevices := total
      iommuGroups :=
        match state with
        | .available _ group _ => insert group discovery.iommuGroups
        | _ => discovery.iommuGroups }
  else { discovery with totalPciDevices := total }

def discoverVfioState (sys : SysTree) : VfioDiscovery :=
  match sys.readDir pciDir with
  | none => .nothing
  | some names => names.foldl (observe sys) .nothing

/-! ## The adapter -/

/-- Opens the device of a group, in a world `W`. -/
structure VfioLauncher (W : Type) where
  openPassthrough : String → ℕ → W → Except String String × W

/-- The launcher that looks at the file of the group only. -/
def realVfioLauncher {W : Type} (sys : W → SysTree) : VfioLauncher W where
  openPassthrough bdf group w :=
    if (sys w).pathExists (groupPath group) then (.ok (groupPath group), w)
    else (.error ("vfio group device " ++ groupPath group ++ " does not exist for bdf " ++ bdf), w)

def unavailable (reason : String) : FabricError := .adapterBackendUnavailable name reason

def details (resource : Resource) (bdf : String) (group : ℕ) (opened discovered : String) :
    StringMap String :=
  [("vfio.gpu_uuid", resource.attributes["gpu.uuid"]?),
    ("vfio.gpu_name", resource.attributes["gpu.name"]?)].foldl Entries.insertSome (.ofList
    [("vfio.bdf", bdf), ("vfio.iommu_group", toString group), ("vfio.device_path", opened),
      ("adapter.implementation", name),
      ("vfio.note", "real passthrough; pass this device to a VMM with --device vfio-pci=<bdf>"),
      ("vfio.discovery_device_path", discovered)])

/-- The address that a resource names. -/
def rawBdf (resource : Resource) : Option String :=
  (resource.attributes["gpu.pci_bdf"]?).or resource.attributes["gpu.pci_bus_id"]?

section Adapter

variable {W : Type}

def attach (launcher : VfioLauncher W) (sys : W → SysTree) (resource : Resource) (lease : Lease)
    (w : W) : Except FabricError Attachment × W :=
  if resource.kind = .gpu then
    match rawBdf resource with
    | none => (.error (.missingResourceAttribute "gpu.pci_bus_id"), w)
    | some raw =>
      let bdf := normalizeBdf raw
      let found := (discoverVfioState (sys w)).gpus.find? fun state => state.bdf = bdf
      match found.getD (.notPresent bdf) with
      | .notBound bdf =>
        (.error (unavailable ("vfio-pci is not bound to " ++ bdf ++
          "; run `driverctl set-override " ++ bdf ++ " vfio-pci` and unbind any current driver, " ++
          "or load the device via a custom allocator")), w)
      | .noIommu bdf =>
        (.error (unavailable ("no IOMMU group for " ++ bdf ++ "; enable intel_iommu / amd_iommu " ++
          "in kernel cmdline and verify the device is in an isolated group")), w)
      | .notPresent bdf =>
        (.error (unavailable ("no PCI device at bdf " ++ bdf ++
          "; the GPU may have been hot-removed")), w)
      | .available _ group discovered =>
        match launcher.openPassthrough bdf group w with
        | (.error reason, w') => (.error (unavailable reason), w')
        | (.ok opened, w') =>
          (.ok ⟨resource.id, lease.id, name, details resource bdf group opened discovered⟩, w')
  else (.error (.incompatibleResourceKind name .gpu resource.kind), w)

def capabilityReport (sys : SysTree) : AdapterReport :=
  let discovery := discoverVfioState sys
  { name := name
    scope := scope
    healthy := 0 < discovery.vfioAvailableCount
    detail := .ofList
      [("adapter.implementation", name),
        ("vfio.devices_available", toString discovery.vfioAvailableCount),
        ("vfio.devices_total", toString discovery.totalGpuCount),
        ("pci.devices_total", toString discovery.totalPciDevices),
        ("iommu.groups", ",".intercalate ((discovery.iommuGroups.sort).map toString))] }

def vfioGpuAdapter (launcher : VfioLauncher W) (sys : W → SysTree) : ResourceAdapter W where
  name := name
  attach := attach launcher sys
  detach := ResourceAdapter.defaultDetach
  capabilityReport w := capabilityReport (sys w)

end Adapter

/-! ## What a discovery finds -/

section Discovery

variable {sys : SysTree} {bdf : String} {g : ℕ}

/-- The GPUs among some PCI devices. -/
def gpusOf (sys : SysTree) (names : List String) : List String :=
  names.filter fun bdf => isGpu sys (deviceDir bdf)

def classified (sys : SysTree) (bdf : String) : VfioState := classifyGpu sys (deviceDir bdf) bdf

/-- The PCI devices of the host. -/
def pciDevices (sys : SysTree) : List String := (sys.readDir pciDir).getD []

/-- What some devices add to what is known already. -/
structure Adds (sys : SysTree) (names : List String) (before after : VfioDiscovery) : Prop where
  gpus : after.gpus = before.gpus ++ (gpusOf sys names).map (classified sys)
  total : after.totalPciDevices = before.totalPciDevices + names.length
  groups : ∀ g, g ∈ after.iommuGroups ↔
    g ∈ before.iommuGroups ∨ ∃ bdf ∈ gpusOf sys names, (classified sys bdf).group = some g

theorem adds_observe (sys : SysTree) (discovery : VfioDiscovery) (bdf : String) :
    Adds sys [bdf] discovery (observe sys discovery bdf) := by
  by_cases hgpu : isGpu sys (deviceDir bdf) = true
  · have hone : gpusOf sys [bdf] = [bdf] := List.filter_cons_of_pos hgpu
    have hstep : observe sys discovery bdf =
        { gpus := discovery.gpus ++ [classified sys bdf]
          totalPciDevices := discovery.totalPciDevices + 1
          iommuGroups :=
            match classified sys bdf with
            | .available _ group _ => insert group discovery.iommuGroups
            | _ => discovery.iommuGroups } := if_pos hgpu
    rw [hstep]
    refine ⟨by rw [hone]; rfl, rfl, ?_⟩
    intro g
    rw [hone]
    simp only [List.mem_singleton, exists_eq_left]
    rcases classified sys bdf with ⟨_, group, _⟩ | _ | _ | _
    · simp only [Finset.mem_insert, VfioState.group, Option.some.injEq]
      rw [or_comm, eq_comm]
    · simp [VfioState.group]
    · simp [VfioState.group]
    · simp [VfioState.group]
  · have hnone : gpusOf sys [bdf] = [] := List.filter_cons_of_neg hgpu
    have hstep : observe sys discovery bdf =
        { discovery with totalPciDevices := discovery.totalPciDevices + 1 } := if_neg hgpu
    rw [hstep]
    refine ⟨by rw [hnone]; simp, rfl, ?_⟩
    intro g
    rw [hnone]
    simp

theorem Adds.trans {names names' : List String} {a b c : VfioDiscovery} (h : Adds sys names a b)
    (h' : Adds sys names' b c) : Adds sys (names ++ names') a c := by
  have happend : gpusOf sys (names ++ names') = gpusOf sys names ++ gpusOf sys names' :=
    List.filter_append names names'
  constructor
  · rw [h'.gpus, h.gpus, happend, List.map_append, List.append_assoc]
  · rw [h'.total, h.total, List.length_append, Nat.add_assoc]
  · intro g
    rw [h'.groups, h.groups, happend, or_assoc]
    simp only [List.mem_append, or_and_right, exists_or]

theorem adds_foldl (sys : SysTree) (names : List String) (discovery : VfioDiscovery) :
    Adds sys names discovery (names.foldl (observe sys) discovery) := by
  induction names generalizing discovery with
  | nil => exact ⟨by simp [gpusOf], rfl, by simp [gpusOf]⟩
  | cons bdf names ih =>
      have hfirst := adds_observe sys discovery bdf
      exact hfirst.trans (ih (observe sys discovery bdf))

theorem adds_discoverVfioState (sys : SysTree) :
    Adds sys (pciDevices sys) .nothing (discoverVfioState sys) := by
  unfold discoverVfioState pciDevices
  rcases sys.readDir pciDir with _ | names
  · exact ⟨by simp [gpusOf], rfl, by simp [gpusOf]⟩
  · exact adds_foldl sys names .nothing

theorem bdf_classified (sys : SysTree) (bdf : String) : (classified sys bdf).bdf = bdf := by
  unfold classified classifyGpu
  split
  · rfl
  · split
    · rfl
    · split
      · rfl
      · split
        · rfl
        · rfl

theorem group_classified_iff : (classified sys bdf).group = some g ↔
    offBus sys (deviceDir bdf) = false ∧ iommuGroup sys (deviceDir bdf) = some g ∧
      boundToVfio sys (deviceDir bdf) = true ∧ sys.pathExists (groupPath g) = true := by
  unfold classified classifyGpu
  rcases offBus sys (deviceDir bdf)
  · rcases iommuGroup sys (deviceDir bdf) with _ | group
    · simp [VfioState.group]
    · rcases boundToVfio sys (deviceDir bdf)
      · simp [VfioState.group]
      · rcases hpath : sys.pathExists (groupPath group)
        · simp only [hpath, Bool.false_eq_true, if_false, Bool.not_true, Bool.not_false, if_true,
            VfioState.group]
          constructor
          · intro h
            cases h
          · rintro ⟨-, hgroup, -, hexists⟩
            rw [← Option.some.inj hgroup, hpath] at hexists
            cases hexists
        · simp only [hpath, Bool.false_eq_true, if_false, Bool.not_true, VfioState.group,
            Option.some.injEq, true_and]
          constructor
          · rintro rfl
            exact ⟨rfl, hpath⟩
          · rintro ⟨hgroup, -⟩
            exact hgroup
  · simp [VfioState.group]

/-- A GPU that is available is said to be so under its address and the file of its group. -/
theorem eq_available (h : (classified sys bdf).group = some g) :
    classified sys bdf = .available bdf g (groupPath g) := by
  obtain ⟨hbus, hgroup, hbound, hpath⟩ := group_classified_iff.mp h
  unfold classified classifyGpu
  rw [hbus, hgroup]
  simp [hbound, hpath]

/-- The state that is found under an address. -/
theorem find?_gpus : ((discoverVfioState sys).gpus.find? fun state => state.bdf = bdf) =
    if bdf ∈ gpusOf sys (pciDevices sys) then some (classified sys bdf) else none := by
  have hgpus : (discoverVfioState sys).gpus =
      (gpusOf sys (pciDevices sys)).map (classified sys) := (adds_discoverVfioState sys).gpus
  rw [hgpus, List.find?_map]
  have hbdf : ((fun state : VfioState => decide (state.bdf = bdf)) ∘ classified sys) =
      fun name => decide (name = bdf) := by
    funext name
    rw [Function.comp_apply, bdf_classified]
  rw [hbdf]
  split
  · rename_i hmem
    rcases hfind : (gpusOf sys (pciDevices sys)).find? fun name => decide (name = bdf)
      with _ | name
    · have hnot := List.find?_eq_none.mp hfind bdf hmem
      simp at hnot
    · have heq : name = bdf := by simpa using List.find?_some hfind
      rw [heq]
      rfl
  · rename_i hmem
    have hnone : (gpusOf sys (pciDevices sys)).find? (fun name => decide (name = bdf)) = none := by
      rw [List.find?_eq_none]
      intro name hname heq
      rw [of_decide_eq_true heq] at hname
      exact hmem hname
    rw [hnone]
    rfl

end Discovery

/-! ## What is attached -/

/-- What it takes to hand a device to a VM: it is a display that is there, in a group that user
space can open, and bound to `vfio-pci`. -/
structure Passable (sys : SysTree) (a : PciAddress) (g : ℕ) : Prop where
  listed : a.sysfs ∈ pciDevices sys
  display : isGpu sys (deviceDir a.sysfs) = true
  onBus : offBus sys (deviceDir a.sysfs) = false
  group : iommuGroup sys (deviceDir a.sysfs) = some g
  bound : boundToVfio sys (deviceDir a.sysfs) = true
  exposed : sys.pathExists (groupPath g) = true

theorem passable_iff {sys : SysTree} {a : PciAddress} {g : ℕ} : Passable sys a g ↔
    a.sysfs ∈ gpusOf sys (pciDevices sys) ∧ (classified sys a.sysfs).group = some g := by
  unfold gpusOf
  rw [List.mem_filter, group_classified_iff]
  constructor
  · rintro ⟨hlisted, hdisplay, honBus, hgroup, hbound, hexposed⟩
    exact ⟨⟨hlisted, hdisplay⟩, honBus, hgroup, hbound, hexposed⟩
  · rintro ⟨⟨hlisted, hdisplay⟩, honBus, hgroup, hbound, hexposed⟩
    exact ⟨hlisted, hdisplay, honBus, hgroup, hbound, hexposed⟩

section Attach

variable {W : Type} {launcher : VfioLauncher W} {sys : W → SysTree} {resource : Resource}
  {lease : Lease} {w : W} {raw : String} {a : PciAddress} {g : ℕ}

/-- The launcher is asked for the device that the resource names, and for its own group. -/
theorem attach_passable (hkind : resource.kind = .gpu) (hraw : rawBdf resource = some raw)
    (hspelled : a.Spelled raw) (h : Passable (sys w) a g) :
    attach launcher sys resource lease w =
      match launcher.openPassthrough a.sysfs g w with
      | (.error reason, w') => (.error (unavailable reason), w')
      | (.ok opened, w') =>
        (.ok ⟨resource.id, lease.id, name,
          details resource a.sysfs g opened (groupPath g)⟩, w') := by
  obtain ⟨hmem, hgroup⟩ := passable_iff.mp h
  unfold attach
  rw [if_pos hkind, hraw]
  dsimp only
  rw [vfio_spelled hspelled, find?_gpus, if_pos hmem, eq_available hgroup]
  rfl

theorem attach_not_passable (launcher : VfioLauncher W) (lease : Lease)
    (hkind : resource.kind = .gpu) (hraw : rawBdf resource = some raw) (hspelled : a.Spelled raw)
    (h : ∀ g, ¬ Passable (sys w) a g) :
    ∃ reason, attach launcher sys resource lease w = (.error (unavailable reason), w) := by
  unfold attach
  rw [if_pos hkind, hraw]
  dsimp only
  rw [vfio_spelled hspelled, find?_gpus]
  by_cases hmem : a.sysfs ∈ gpusOf (sys w) (pciDevices (sys w))
  · rw [if_pos hmem]
    rcases hstate : classified (sys w) a.sysfs with ⟨bdf, g, path⟩ | bdf | bdf | bdf
    · have hgroup : (classified (sys w) a.sysfs).group = some g := by rw [hstate]; rfl
      exact absurd (passable_iff.mpr ⟨hmem, hgroup⟩) (h g)
    · exact ⟨_, rfl⟩
    · exact ⟨_, rfl⟩
    · exact ⟨_, rfl⟩
  · rw [if_neg hmem]
    exact ⟨_, rfl⟩

/-- The launcher of the host opens what is passable. -/
theorem attach_real_iff (hkind : resource.kind = .gpu) (hraw : rawBdf resource = some raw)
    (hspelled : a.Spelled raw) (attachment : Attachment) :
    (attach (realVfioLauncher sys) sys resource lease w).1 = .ok attachment ↔
      ∃ g, Passable (sys w) a g ∧ attachment =
        ⟨resource.id, lease.id, name,
          details resource a.sysfs g (groupPath g) (groupPath g)⟩ := by
  have hopen : ∀ g, Passable (sys w) a g →
      (attach (realVfioLauncher sys) sys resource lease w).1 =
        .ok ⟨resource.id, lease.id, name,
          details resource a.sysfs g (groupPath g) (groupPath g)⟩ := by
    intro g h
    have hreal : (realVfioLauncher sys).openPassthrough a.sysfs g w = (.ok (groupPath g), w) :=
      if_pos h.exposed
    rw [attach_passable hkind hraw hspelled h, hreal]
  constructor
  · intro hok
    by_cases hpass : ∃ g, Passable (sys w) a g
    · obtain ⟨g, h⟩ := hpass
      rw [hopen g h] at hok
      exact ⟨g, h, (Except.ok.inj hok).symm⟩
    · obtain ⟨reason, hreason⟩ := attach_not_passable (realVfioLauncher sys) lease hkind hraw
        hspelled (not_exists.mp hpass)
      rw [hreason] at hok
      cases hok
  · rintro ⟨g, h, rfl⟩
    exact hopen g h

end Attach

/-! ## From a card to a device -/

section Found

variable {F N W : Type} {host : LocalHost F N} {node gpuNode : String}

/-- What sysfs adds to a resource leaves its address alone. -/
theorem pciBdf_described {before after : Resource} (h : HwInfo.Described before after) :
    after.attributes["gpu.pci_bdf"]? = before.attributes["gpu.pci_bdf"]? := by
  have hfact : ¬ HwInfo.FactKey "gpu.pci_bdf" := by
    unfold HwInfo.FactKey
    decide
  exact h.others _ hfact

theorem bdf_gpuResources (hplain : host.PlainHost)
    {gpus : Except GpuDiscoveryError (List DrmDevice)}
    (hgpus : Discover.discover host.drm = some gpus) {r : Resource}
    (hr : r ∈ LocalHost.gpuResources gpuNode gpus) :
    ∃ a : PciAddress, r.attributes["gpu.pci_bdf"]? = some a.sysfs := by
  rcases gpus with e | devices
  · cases hr
  obtain ⟨gpu, hgpu, rfl⟩ := List.mem_map.mp hr
  have hbdf : (gpu.asResource gpuNode).attributes["gpu.pci_bdf"]? = some gpu.pciBdf :=
    GpuLocal.getElem?_asResource gpu gpuNode _
  obtain ⟨dev, hdev, rfl⟩ := List.mem_map.mp (List.mem_filter.mp hgpu).1
  rw [hbdf]
  rcases Discover.discover_eq_ok hgpus with ⟨-, rfl⟩ | ⟨names, nvml, -, hread, rfl⟩
  · cases hdev
  · have hsorted := StableSort.sortByKey_perm Discover.sortKey
      ((Discover.cards host.drm.sys names).map (Discover.enrichDevice nvml host.drm.telemetry))
    obtain ⟨card, hcard, rfl⟩ := List.mem_map.mp (hsorted.mem_iff.mp hdev)
    obtain ⟨a, ha⟩ := (hplain.cards names hread).pci card hcard
    refine ⟨a, congrArg some ?_⟩
    rw [← ha]
    exact (Discover.sameCard_enrichDevice nvml host.drm.telemetry card).pciBdf

/-- A GPU that was found once, as a card, is attached exactly when its PCI device is passable
now; and what is attached is that device. -/
theorem attach_found (hplain : host.PlainHost) {resources : List Resource}
    (h : host.found node gpuNode = some resources) {r : Resource} (hr : r ∈ resources)
    (hkind : r.kind = .gpu) (hlocal : r.id ≠ "local.gpu.wgpu-remote") :
    ∃ a : PciAddress, r.attributes["gpu.pci_bdf"]? = some a.sysfs ∧
      ∀ (sys : W → SysTree) (w : W) (lease : Lease) (attachment : Attachment),
        (attach (realVfioLauncher sys) sys r lease w).1 = .ok attachment ↔
          ∃ g, Passable (sys w) a g ∧ attachment =
            ⟨r.id, lease.id, name, details r a.sysfs g (groupPath g) (groupPath g)⟩ := by
  obtain ⟨gpus, r₀, hgpus, hsame, hremote | hcard⟩ := LocalHost.gpu_of_found h hr hkind
  · rw [hremote] at hsame
    exact absurd hsame.id hlocal
  · obtain ⟨a, ha⟩ := bdf_gpuResources hplain hgpus hcard
    have hbdf : r.attributes["gpu.pci_bdf"]? = some a.sysfs := (pciBdf_described hsame).trans ha
    have hraw : rawBdf r = some a.sysfs := by
      unfold rawBdf
      rw [hbdf, Option.some_or]
    refine ⟨a, hbdf, ?_⟩
    intro sys w lease attachment
    exact attach_real_iff hkind hraw a.sysfs_spelled attachment

end Found

/-! ## The report -/

theorem getElem?_detail {entries : List (String × String)} (hnodup : (entries.map Prod.fst).Nodup)
    {k v : String} (hmem : (k, v) ∈ entries) :
    (Std.ExtTreeMap.ofList entries : StringMap String)[k]? = some v := by
  rw [Table.getElem?_ofList hnodup, Entries.lookup_of_mem hnodup hmem]

section Report

variable {sys : SysTree} {devices : List PciAddress}

/-- The device is passable with some group, as long as it is listed. -/
def passes (sys : SysTree) (a : PciAddress) : Bool :=
  isGpu sys (deviceDir a.sysfs) && (classified sys a.sysfs).group.isSome

theorem mem_filter_passes (hpci : pciDevices sys = devices.map PciAddress.sysfs)
    (a : PciAddress) : a ∈ devices.filter (passes sys) ↔ ∃ g, Passable sys a g := by
  have hlisted : a.sysfs ∈ pciDevices sys ↔ a ∈ devices := by
    rw [hpci, List.mem_map_of_injective fun _ _ => PciAddress.sysfs_injective]
  simp only [passable_iff, gpusOf, List.mem_filter, hlisted, passes, Bool.and_eq_true,
    Option.isSome_iff_exists, exists_and_left, and_assoc]

theorem vfioAvailableCount_eq (hpci : pciDevices sys = devices.map PciAddress.sysfs) :
    (discoverVfioState sys).vfioAvailableCount = (devices.filter (passes sys)).length := by
  unfold VfioDiscovery.vfioAvailableCount
  rw [(adds_discoverVfioState sys).gpus]
  unfold gpusOf
  rw [hpci]
  simp only [VfioDiscovery.nothing, List.nil_append, List.filter_map, List.length_map,
    List.filter_filter]
  congr 1
  refine List.filter_congr fun a _ => ?_
  exact Bool.and_comm _ _

theorem mem_iommuGroups (hpci : pciDevices sys = devices.map PciAddress.sysfs) (g : ℕ) :
    g ∈ (discoverVfioState sys).iommuGroups ↔ ∃ a, Passable sys a g := by
  rw [(adds_discoverVfioState sys).groups]
  simp only [VfioDiscovery.nothing, Finset.notMem_empty, false_or, passable_iff]
  constructor
  · rintro ⟨bdf, hmem, hgroup⟩
    have hlisted := (List.mem_filter.mp hmem).1
    rw [hpci] at hlisted
    obtain ⟨a, -, rfl⟩ := List.mem_map.mp hlisted
    exact ⟨a, hmem, hgroup⟩
  · rintro ⟨a, hmem, hgroup⟩
    exact ⟨a.sysfs, hmem, hgroup⟩

end Report

/-- The report tells how many devices could be attached, and of which groups they are. -/
theorem report_iff_passable {sys : SysTree} {devices : List PciAddress}
    (hpci : pciDevices sys = devices.map PciAddress.sysfs) (hnodup : devices.Nodup) :
    ∃ (passable : List PciAddress) (groups : List ℕ),
      passable.Nodup ∧ (∀ a, a ∈ passable ↔ ∃ g, Passable sys a g) ∧
      groups.Pairwise (· < ·) ∧ (∀ g, g ∈ groups ↔ ∃ a, Passable sys a g) ∧
      ((capabilityReport sys).healthy = true ↔ passable ≠ []) ∧
      (capabilityReport sys).detail["vfio.devices_available"]? =
        some (toString passable.length) ∧
      (capabilityReport sys).detail["iommu.groups"]? =
        some (",".intercalate (groups.map toString)) := by
  have hdetail : ∀ k v, (k, v) ∈
      [("adapter.implementation", name),
        ("vfio.devices_available", toString (discoverVfioState sys).vfioAvailableCount),
        ("vfio.devices_total", toString (discoverVfioState sys).totalGpuCount),
        ("pci.devices_total", toString (discoverVfioState sys).totalPciDevices),
        ("iommu.groups",
          ",".intercalate (((discoverVfioState sys).iommuGroups.sort).map toString))] →
      (capabilityReport sys).detail[k]? = some v := by
    intro k v hmem
    refine getElem?_detail ?_ hmem
    have hkeys : ["adapter.implementation", "vfio.devices_available", "vfio.devices_total",
      "pci.devices_total", "iommu.groups"].Nodup := by decide
    exact hkeys
  have hcount := vfioAvailableCount_eq hpci
  refine ⟨devices.filter (passes sys), (discoverVfioState sys).iommuGroups.sort,
    hnodup.filter _, mem_filter_passes hpci, Finset.sortedLT_sort _ |>.pairwise, ?_, ?_, ?_,
    hdetail _ _ (by simp)⟩
  · intro g
    rw [Finset.mem_sort, mem_iommuGroups hpci]
  · have hhealthy : (capabilityReport sys).healthy =
        decide (0 < (discoverVfioState sys).vfioAvailableCount) := rfl
    rw [hhealthy, decide_eq_true_iff, hcount, List.length_pos_iff]
  · rw [← hcount]
    exact hdetail _ _ (by simp)

namespace Samples

open LocalHost.Samples Discover.Samples Scenario

/-- The address of the first card of `rig`. -/
def geforceAddress : PciAddress :=
  ⟨0, 1, ⟨0, Nat.zero_lt_succ _⟩, ⟨0, Nat.zero_lt_succ _⟩⟩

/-- The host on which that card has been bound to `vfio-pci`. -/
def boundTree : SysTree where
  readDir path := if path = pciDir then some ["0000:01:00.0"] else none
  readLink path :=
    if path = deviceDir "0000:01:00.0" ++ "/iommu_group" then
      some "../../../kernel/iommu_groups/7"
    else if path = deviceDir "0000:01:00.0" ++ "/driver" then
      some "../../../bus/pci/drivers/vfio-pci"
    else none
  readToString path :=
    if path = deviceDir "0000:01:00.0" ++ "/class" then some "0x030000"
    else if path = deviceDir "0000:01:00.0" ++ "/vendor" then some "0x10de"
    else none
  pathExists path := path = "/dev/vfio/7"
  canonicalize _ := none

theorem sysfs_geforce : geforceAddress.sysfs = "0000:01:00.0" := by decide

theorem passable_bound : Passable boundTree geforceAddress 7 := by
  constructor
  · rw [sysfs_geforce]
    exact List.mem_singleton_self _
  · rw [sysfs_geforce]
    decide +kernel
  · rw [sysfs_geforce]
    decide +kernel
  · rw [sysfs_geforce]
    decide +kernel
  · rw [sysfs_geforce]
    decide +kernel
  · decide +kernel

theorem pciDevices_bound : pciDevices boundTree = [geforceAddress].map PciAddress.sysfs := by
  rw [List.map_singleton, sysfs_geforce]
  rfl

/-- The first card of `rig`, as it is advertised. -/
theorem geforce_found {node gpuNode : String} {resources : List Resource}
    (h : rig.found node gpuNode = some resources) :
    ∃ r ∈ resources, r.kind = .gpu ∧ r.id = "local.gpu." ++ Discover.idText "0000:01:00.0" ∧
      r.attributes["gpu.pci_bdf"]? = some "0000:01:00.0" := by
  obtain ⟨gpus, hgpus, rfl⟩ := Option.map_eq_some_iff.mp h
  have hlisted := Discover.discover_listed
    (show bareHost.sys.pathExists Discover.drmDir = true from rfl) (readDir_rig _)
    (show nvmlByBdf bareHost.lower bareHost.nvml = some ∅ from rfl)
  obtain rfl := Option.some.inj (hgpus.symm.trans hlisted)
  have hcards : (Discover.cards twoCards ["card1", "card0", "card0-DP-1"]).map
      (fun dev => (dev.pciBdf, dev.displayOnly)) =
        [("0000:02:00.0", false), ("0000:01:00.0", false)] := by
    decide +kernel
  have hpair : ("0000:01:00.0", false) ∈ (Discover.cards twoCards
      ["card1", "card0", "card0-DP-1"]).map (fun dev => (dev.pciBdf, dev.displayOnly)) := by
    rw [hcards]
    decide
  obtain ⟨card, hcard, hfacts⟩ := List.mem_map.mp hpair
  obtain ⟨hbdf, hdisplay⟩ := Prod.mk.inj hfacts
  have hstable : card.stableId = card.pciBdf := by
    obtain ⟨name, -, hread⟩ := List.mem_filterMap.mp hcard
    obtain ⟨idx, -, hread⟩ := Option.bind_eq_some_iff.mp hread
    exact Discover.stableId_readDrmCard hread
  -- the card among the resources that come in
  obtain ⟨dev, hdev, hsame⟩ : ∃ dev ∈ StableSort.sortByKey Discover.sortKey
      ((Discover.cards twoCards ["card1", "card0", "card0-DP-1"]).map
        (Discover.enrichDevice ∅ bareHost.telemetry)), Discover.SameCard dev card :=
    ⟨_, (StableSort.sortByKey_perm _ _).mem_iff.mpr (List.mem_map_of_mem hcard),
      Discover.sameCard_enrichDevice ∅ bareHost.telemetry card⟩
  have hshown : (!dev.displayOnly) = true := by
    rw [hsame.displayOnly, hdisplay]
    rfl
  have hgpu : dev.toGpuDevice.asResource gpuNode ∈ LocalHost.gpuResources gpuNode (.ok
      (StableSort.sortByKey Discover.sortKey
        ((Discover.cards twoCards ["card1", "card0", "card0-DP-1"]).map
          (Discover.enrichDevice ∅ bareHost.telemetry)))) :=
    List.mem_map_of_mem (List.mem_filter.mpr ⟨List.mem_map_of_mem hdev, hshown⟩)
  -- what becomes of it
  have hinterface := HwInfo.described_enrichInterface rig.drm.sys "/sys"
    (HwInfo.ipv4ByInterface rig.tools.ipOutput) (dev.toGpuDevice.asResource gpuNode)
  have hdescribed := hinterface.trans (HwInfo.described_enrichGpu rig.drm.sys "/sys" _)
  refine ⟨_, List.mem_append_left _ (List.mem_append_left _ (List.mem_map_of_mem
    (List.mem_map_of_mem (List.mem_append_right _ hgpu)))), hdescribed.kind, ?_, ?_⟩
  · rw [hdescribed.id]
    change "local.gpu." ++ Discover.idText dev.stableId = _
    rw [hsame.stableId, hstable, hbdf]
  · rw [pciBdf_described hdescribed, GpuLocal.getElem?_asResource]
    exact congrArg some (hsame.pciBdf.trans hbdf)

end Samples

open LocalHost.Samples Samples in
theorem attach_found_bound : ∃ resources, rig.found "local" "t440" = some resources ∧
    ∃ r ∈ resources, ∃ attachment,
      (attach (realVfioLauncher id) id r ⟨7, r.id, "mission-a"⟩ boundTree).1 = .ok attachment := by
  obtain ⟨resources, hfound⟩ := found_rig "local" "t440"
  obtain ⟨r, hr, hkind, hid, hbdf⟩ := geforce_found hfound
  have hlocal : r.id ≠ "local.gpu.wgpu-remote" := by
    rw [hid]
    decide +kernel
  obtain ⟨a, ha, hattach⟩ := attach_found (W := SysTree) plainHost_rig hfound hr hkind hlocal
  have haddress : a = geforceAddress := by
    apply PciAddress.sysfs_injective
    rw [sysfs_geforce]
    exact Option.some.inj (ha.symm.trans hbdf)
  subst haddress
  exact ⟨resources, hfound, r, hr, _,
    (hattach id boundTree ⟨7, r.id, "mission-a"⟩ _).mpr ⟨7, passable_bound, rfl⟩⟩

open Samples in
theorem report_iff_passable_bound : ∃ passable : List PciAddress,
    geforceAddress ∈ passable ∧
      (capabilityReport boundTree).detail["vfio.devices_available"]? =
        some (toString passable.length) := by
  obtain ⟨passable, -, -, hpassable, -, -, -, hcount, -⟩ :=
    report_iff_passable pciDevices_bound (List.nodup_singleton _)
  exact ⟨passable, (hpassable _).mpr ⟨7, passable_bound⟩, hcount⟩

end Vfio

end NautiFabric
