import NautiFabric.Lib.Buckets
import NautiFabric.Text

/-!
# NautiFabric.Topology — PCI devices by NUMA node

`discover` walks from each PCI device to the first object with a node set, collects the
devices by the lowest node of it, and hands each node its list. What is left goes to the
first node, or to one that is made up for it.

`homeOf` says where a device belongs, and `Attributed` that each node has the devices that
belong there; that none is lost or counted twice is read off it.
-/

namespace NautiFabric

open Buckets Std

/-! ## The hwloc objects -/

/-- A set of indices: some bits, and the same bit for ever behind them. -/
structure Bitmap where
  bits : List Bool
  infinite : Bool
deriving DecidableEq, Repr

def Bitmap.firstSet (bitmap : Bitmap) : Option ℕ :=
  match bitmap.bits.findIdx? id with
  | some index => some index
  | none => if bitmap.infinite then some bitmap.bits.length else none

def Bitmap.weight (bitmap : Bitmap) : Option ℕ :=
  if bitmap.infinite then none else some (bitmap.bits.count true)

/-- A PCI device, with the node sets of its ancestors, from the nearest on. -/
structure PciObject where
  name : Option (List UInt8)
  info : String → Option (List UInt8)
  nodeset : Option Bitmap
  ancestors : List (Option Bitmap)

structure NumaObject where
  osIndex : Option UInt32
  totalMemory : UInt64
  cpuset : Option Bitmap
deriving DecidableEq, Repr

structure HwTopology where
  pciDevices : List PciObject
  numaNodes : List NumaObject

/-! ## The reports -/

structure PciDeviceReport where
  name : String
  vendorId : Option String
  deviceId : Option String
deriving DecidableEq, Repr

structure NumaNodeReport where
  osIndex : ℕ
  localMemoryBytes : UInt64
  logicalCpus : ℕ
  pciDevices : List PciDeviceReport
deriving DecidableEq, Repr

inductive TopologyError where
  | load (error : String)
deriving DecidableEq, Repr

def PciObject.report (obj : PciObject) : PciDeviceReport where
  name := (obj.name.map fromUtf8Lossy).getD "unknown-pci-device"
  vendorId := (obj.info "PCIVendor").map fromUtf8Lossy
  deviceId := (obj.info "PCIDevice").map fromUtf8Lossy

/-- The lowest node of the first node set on the way up; a node set may be empty. -/
def PciObject.localNodeIndex (obj : PciObject) : Option ℕ :=
  ((obj.nodeset :: obj.ancestors).findSome? id).bind Bitmap.firstSet

abbrev PciByNodeIndex := ExtTreeMap ℕ (List PciDeviceReport) compare

/-- One turn of the loop over the devices. -/
def collectDevice (collected : PciByNodeIndex × List PciDeviceReport) (obj : PciObject) :
    PciByNodeIndex × List PciDeviceReport :=
  match obj.localNodeIndex with
  | some index => (push collected.1 index obj.report, collected.2)
  | none => (collected.1, collected.2 ++ [obj.report])

def NumaObject.index (obj : NumaObject) : ℕ := (obj.osIndex.getD 0).toNat

def NumaObject.report (obj : NumaObject) (pciDevices : List PciDeviceReport) : NumaNodeReport where
  osIndex := obj.index
  localMemoryBytes := obj.totalMemory
  logicalCpus := ((obj.cpuset.map fun set => set.weight.getD 0)).getD 0
  pciDevices := pciDevices

/-- Each node takes its list out of the map. -/
def reportNodes : List NumaObject → PciByNodeIndex → List NumaNodeReport × PciByNodeIndex
  | [], byIndex => ([], byIndex)
  | obj :: objs, byIndex =>
    let (nodes, left) := reportNodes objs (byIndex.erase obj.index)
    (obj.report (bucket byIndex obj.index) :: nodes, left)

/-- The devices that no node has go to the first one. -/
def attachUnassigned (unassigned : List PciDeviceReport) :
    List NumaNodeReport → List NumaNodeReport
  | [] => if unassigned = [] then [] else [⟨0, 0, 0, unassigned⟩]
  | first :: nodes =>
    if unassigned = [] then first :: nodes
    else { first with pciDevices := first.pciDevices ++ unassigned } :: nodes

def HwTopology.nodes (topology : HwTopology) : List NumaNodeReport :=
  let (byIndex, unassigned) := topology.pciDevices.foldl collectDevice (∅, [])
  let (nodes, left) := reportNodes topology.numaNodes byIndex
  attachUnassigned (unassigned ++ contents left) nodes

/-- `load` is what `Topology::new` comes to. -/
def discover (load : Except String HwTopology) : Except TopologyError (List NumaNodeReport) :=
  match load with
  | .error e => .error (.load e)
  | .ok topology => .ok topology.nodes

/-! ## Where a device belongs -/

def HwTopology.indices (topology : HwTopology) : List ℕ := topology.numaNodes.map NumaObject.index

/-- At its own node if that is listed, else at the first one. -/
def HwTopology.homeOf (topology : HwTopology) (device : PciObject) : ℕ :=
  match device.localNodeIndex with
  | some index => if index ∈ topology.indices then index else topology.indices.headD 0
  | none => topology.indices.headD 0

structure Attributed (topology : HwTopology) (nodes : List NumaNodeReport) : Prop where
  /-- the listed nodes, or one node in their place if there are devices for it -/
  listed : nodes.map NumaNodeReport.osIndex =
    if topology.numaNodes = [] ∧ topology.pciDevices ≠ [] then [0] else topology.indices
  atHome : ∀ node ∈ nodes, node.pciDevices.Perm
    ((topology.pciDevices.filter fun device => topology.homeOf device = node.osIndex).map
      PciObject.report)
  noneLost : (nodes.flatMap NumaNodeReport.pciDevices).Perm
    (topology.pciDevices.map PciObject.report)

/-! ## The map and the nodes -/

/-- The map holds these devices. -/
abbrev HoldsDevices (byIndex : PciByNodeIndex) (devices : List PciObject) : Prop :=
  Holds PciObject.localNodeIndex PciObject.report byIndex devices

def withoutIndex (devices : List PciObject) : List PciDeviceReport :=
  (devices.filter fun device => device.localNodeIndex = none).map PciObject.report

theorem collect_spec {collected : PciByNodeIndex × List PciDeviceReport}
    {seen : List PciObject} (hmap : HoldsDevices collected.1 seen)
    (hrest : collected.2 = withoutIndex seen) (devices : List PciObject) :
    HoldsDevices (devices.foldl collectDevice collected).1 (seen ++ devices) ∧
      (devices.foldl collectDevice collected).2 = withoutIndex (seen ++ devices) := by
  induction devices generalizing collected seen with
  | nil =>
    rw [List.append_nil]
    exact ⟨hmap, hrest⟩
  | cons device devices ih =>
    rw [List.append_cons, List.foldl_cons]
    have hlast : withoutIndex (seen ++ [device]) =
        withoutIndex seen ++ withoutIndex [device] := by
      unfold withoutIndex
      rw [List.filter_append, List.map_append]
    unfold collectDevice
    rcases hindex : device.localNodeIndex with _ | index
    · refine ih (hmap.skip hindex) ?_
      rw [hlast, ← hrest]
      simp [withoutIndex, hindex]
    · refine ih (hmap.push hindex) ?_
      rw [hlast, ← hrest]
      simp [withoutIndex, hindex]

/-- The devices of a node, as it takes them out of the map. -/
def devicesAt (devices : List PciObject) (index : ℕ) : List PciDeviceReport :=
  (devices.filter fun device => device.localNodeIndex = some index).map PciObject.report

/-- No node of the list is the device's own. -/
def unlisted (indices : List ℕ) (device : PciObject) : Bool :=
  !indices.any fun index => device.localNodeIndex = some index

theorem unlisted_iff {indices : List ℕ} {device : PciObject} :
    unlisted indices device ↔ ∀ index ∈ indices, device.localNodeIndex ≠ some index := by
  simp [unlisted]

theorem reportNodes_spec {objs : List NumaObject} (hnodup : (objs.map NumaObject.index).Nodup)
    {byIndex : PciByNodeIndex} {devices : List PciObject} (h : HoldsDevices byIndex devices) :
    (reportNodes objs byIndex).1 =
        objs.map (fun obj => obj.report (devicesAt devices obj.index)) ∧
      HoldsDevices (reportNodes objs byIndex).2
        (devices.filter (unlisted (objs.map NumaObject.index))) := by
  induction objs generalizing byIndex devices with
  | nil =>
    refine ⟨rfl, ?_⟩
    have hall : devices.filter (unlisted []) = devices := List.filter_eq_self.mpr fun _ _ => rfl
    rw [List.map_nil, hall]
    exact h
  | cons obj objs ih =>
    rw [List.map_cons, List.nodup_cons] at hnodup
    obtain ⟨hnodes, hleft⟩ := ih hnodup.2 (h.erase obj.index)
    unfold reportNodes
    dsimp only
    rw [hnodes, h obj.index, List.map_cons]
    constructor
    · -- the other nodes are at other indices
      congr 1
      refine List.map_congr_left fun other hother => ?_
      congr 1
      unfold devicesAt
      rw [List.filter_filter]
      congr 1
      refine List.filter_congr fun device _ => ?_
      by_cases hindex : device.localNodeIndex = some other.index
      · have hne : other.index ≠ obj.index := fun heq =>
          hnodup.1 (heq ▸ List.mem_map_of_mem hother)
        simp [hindex, hne]
      · simp [hindex]
    · rw [List.filter_filter] at hleft
      have hfilter : devices.filter (unlisted (obj.index :: objs.map NumaObject.index)) =
          devices.filter fun device => unlisted (objs.map NumaObject.index) device &&
            decide (device.localNodeIndex ≠ some obj.index) := by
        refine List.filter_congr fun device _ => ?_
        unfold unlisted
        rw [List.any_cons, Bool.not_or, Bool.and_comm, decide_not]
      rw [List.map_cons, hfilter]
      exact hleft

/-! ## What is left -/

/-- The devices that no listed node takes. -/
def strays (topology : HwTopology) : List PciDeviceReport :=
  (topology.pciDevices.filter (unlisted topology.indices)).map PciObject.report

/-- A device without an index is on no node, like one whose node is not listed. -/
theorem unassigned_perm {topology : HwTopology} {left : PciByNodeIndex}
    (hleft : HoldsDevices left (topology.pciDevices.filter (unlisted topology.indices))) :
    (withoutIndex topology.pciDevices ++ contents left).Perm (strays topology) := by
  have hor : ∀ device ∈ topology.pciDevices, unlisted topology.indices device =
      (decide (device.localNodeIndex = none) ||
        (device.localNodeIndex.isSome && unlisted topology.indices device)) := by
    intro device _
    rcases hindex : device.localNodeIndex with _ | index
    · simp [unlisted, hindex]
    · simp
  have hdisjoint : ∀ device ∈ topology.pciDevices, decide (device.localNodeIndex = none) →
      (device.localNodeIndex.isSome && unlisted topology.indices device) = false := by
    intro device _ hnone
    rw [of_decide_eq_true hnone]
    rfl
  have hcontents := hleft.contents_perm
  rw [List.filter_filter] at hcontents
  have hstrays := (filter_or_perm hor hdisjoint).map PciObject.report
  rw [List.map_append] at hstrays
  exact (hcontents.append_left _).trans hstrays.symm

theorem nodes_eq {topology : HwTopology} (hdistinct : topology.indices.Nodup) :
    ∃ unassigned, unassigned.Perm (strays topology) ∧
      topology.nodes = attachUnassigned unassigned (topology.numaNodes.map fun obj =>
        obj.report (devicesAt topology.pciDevices obj.index)) := by
  have hstart : HoldsDevices ((∅, []) : PciByNodeIndex × List PciDeviceReport).1 [] := holds_empty
  obtain ⟨hmap, hrest⟩ := collect_spec hstart rfl topology.pciDevices
  rw [List.nil_append] at hmap hrest
  obtain ⟨hnodes, hleft⟩ := reportNodes_spec hdistinct hmap
  refine ⟨_, unassigned_perm hleft, ?_⟩
  unfold HwTopology.nodes
  dsimp only
  rw [hnodes, hrest]

/-! ## Every device at its home -/

section Homes

variable {topology : HwTopology}

theorem homeOf_of_unlisted {device : PciObject} (h : unlisted topology.indices device) :
    topology.homeOf device = topology.indices.headD 0 := by
  unfold HwTopology.homeOf
  rcases hindex : device.localNodeIndex with _ | index
  · rfl
  · exact if_neg fun hmem => unlisted_iff.mp h index hmem hindex

theorem homeOf_of_listed {device : PciObject} {index : ℕ} (hmem : index ∈ topology.indices)
    (hindex : device.localNodeIndex = some index) : topology.homeOf device = index := by
  unfold HwTopology.homeOf
  rw [hindex]
  exact if_pos hmem

/-- Who belongs at a listed node. -/
theorem homeOf_eq_iff {device : PciObject} {index : ℕ} (hmem : index ∈ topology.indices) :
    topology.homeOf device = index ↔ device.localNodeIndex = some index ∨
      (topology.indices.headD 0 = index ∧ unlisted topology.indices device) := by
  by_cases hlisted : unlisted topology.indices device
  · have hnot := unlisted_iff.mp hlisted index hmem
    rw [homeOf_of_unlisted hlisted]
    simp [hnot, hlisted]
  · obtain ⟨own, hown, hindex⟩ : ∃ own ∈ topology.indices, device.localNodeIndex = some own := by
      simpa [unlisted] using hlisted
    rw [homeOf_of_listed hown hindex, hindex]
    simp [hlisted]

/-- Every device belongs at one of the nodes. -/
theorem homeOf_mem (hne : topology.numaNodes ≠ []) (device : PciObject) :
    topology.homeOf device ∈ topology.indices := by
  obtain ⟨first, rest, hcons⟩ := List.exists_cons_of_ne_nil hne
  have hhead : topology.indices.headD 0 ∈ topology.indices := by
    simp [HwTopology.indices, hcons]
  unfold HwTopology.homeOf
  split
  · split
    · assumption
    · exact hhead
  · exact hhead

/-- What a node takes out of the map is what belongs there, the strays apart. -/
theorem devicesAt_perm {index : ℕ} (hmem : index ∈ topology.indices) :
    ((topology.pciDevices.filter fun device => topology.homeOf device = index).map
        PciObject.report).Perm
      (devicesAt topology.pciDevices index ++
        if topology.indices.headD 0 = index then strays topology else []) := by
  have hor : ∀ device ∈ topology.pciDevices, decide (topology.homeOf device = index) =
      (decide (device.localNodeIndex = some index) ||
        (decide (topology.indices.headD 0 = index) && unlisted topology.indices device)) := by
    intro device _
    rw [Bool.eq_iff_iff, decide_eq_true_iff, homeOf_eq_iff hmem]
    simp
  have hdisjoint : ∀ device ∈ topology.pciDevices,
      decide (device.localNodeIndex = some index) →
        (decide (topology.indices.headD 0 = index) && unlisted topology.indices device) =
          false := by
    intro device _ hindex
    have hlisted : ¬ unlisted topology.indices device := fun hlisted =>
      unlisted_iff.mp hlisted index hmem (of_decide_eq_true hindex)
    simp [hlisted]
  -- the strays are all at the first node
  have hstrays : (topology.pciDevices.filter fun device =>
      decide (topology.indices.headD 0 = index) && unlisted topology.indices device).map
        PciObject.report = if topology.indices.headD 0 = index then strays topology else [] := by
    by_cases hfirst : topology.indices.headD 0 = index
    · rw [if_pos hfirst, decide_eq_true hfirst]
      rfl
    · rw [if_neg hfirst, decide_eq_false hfirst]
      simp
  have hperm := (filter_or_perm hor hdisjoint).map PciObject.report
  rwa [List.map_append, hstrays] at hperm

theorem noneLost_of_atHome {nodes : List NumaNodeReport}
    (hnodup : (nodes.map NumaNodeReport.osIndex).Nodup)
    (hhome : ∀ device ∈ topology.pciDevices,
      topology.homeOf device ∈ nodes.map NumaNodeReport.osIndex)
    (hat : ∀ node ∈ nodes, node.pciDevices.Perm
      ((topology.pciDevices.filter fun device => topology.homeOf device = node.osIndex).map
        PciObject.report)) :
    (nodes.flatMap NumaNodeReport.pciDevices).Perm
      (topology.pciDevices.map PciObject.report) := by
  have hall : (topology.pciDevices.filter fun device =>
      (nodes.map NumaNodeReport.osIndex).any fun index =>
        some (topology.homeOf device) = some index) = topology.pciDevices := by
    refine List.filter_eq_self.mpr fun device hdevice => ?_
    rw [List.any_eq_true]
    exact ⟨_, hhome device hdevice, decide_eq_true rfl⟩
  have hkeys := perm_by_key (fun device => some (topology.homeOf device)) PciObject.report
    topology.pciDevices hnodup
  rw [hall, List.flatMap_map] at hkeys
  refine (List.Perm.flatMap_left nodes fun node hnode => ?_).trans hkeys
  simpa using hat node hnode

end Homes

/-! ## All reports -/

/-- Without a node all devices are strays, and one node is made up for them. -/
theorem attributed_of_no_node {topology : HwTopology} (hnone : topology.numaNodes = [])
    {unassigned : List PciDeviceReport} (hperm : unassigned.Perm (strays topology))
    (hnodes : topology.nodes = attachUnassigned unassigned []) :
    Attributed topology topology.nodes := by
  have hindices : topology.indices = [] := by simp [HwTopology.indices, hnone]
  have hstray : ∀ device, unlisted topology.indices device := by simp [hindices, unlisted]
  have hhome : ∀ device, topology.homeOf device = 0 := by
    intro device
    rw [homeOf_of_unlisted (hstray device), hindices]
    rfl
  have hall : strays topology = topology.pciDevices.map PciObject.report := by
    unfold strays
    rw [List.filter_eq_self.mpr fun device _ => hstray device]
  rw [hall] at hperm
  -- without devices there is no node at all
  by_cases hdevices : topology.pciDevices = []
  · have hempty : unassigned = [] := by
      rw [hdevices] at hperm
      exact List.perm_nil.mp hperm
    rw [hempty] at hnodes
    rw [hnodes]
    exact ⟨by simp [attachUnassigned, hindices, hdevices], List.forall_mem_nil _,
      by simp [attachUnassigned, hdevices]⟩
  · have hsome : unassigned ≠ [] := by
      rintro rfl
      exact hdevices (List.map_eq_nil_iff.mp (List.nil_perm.mp hperm))
    unfold attachUnassigned at hnodes
    rw [if_neg hsome] at hnodes
    rw [hnodes]
    constructor
    · rw [if_pos ⟨hnone, hdevices⟩]
      rfl
    · refine List.forall_mem_singleton.mpr ?_
      have hself : (topology.pciDevices.filter fun device => topology.homeOf device = 0) =
          topology.pciDevices :=
        List.filter_eq_self.mpr fun device _ => decide_eq_true (hhome device)
      dsimp only
      rwa [hself]
    · rw [List.flatMap_singleton]
      exact hperm

theorem attachUnassigned_cons (unassigned : List PciDeviceReport) (first : NumaNodeReport)
    (nodes : List NumaNodeReport) : attachUnassigned unassigned (first :: nodes) =
      { first with pciDevices := first.pciDevices ++ unassigned } :: nodes := by
  unfold attachUnassigned
  dsimp only
  by_cases hnone : unassigned = []
  · rw [if_pos hnone, hnone, List.append_nil]
  · rw [if_neg hnone]

theorem attributed_of_nodes {topology : HwTopology} {first : NumaObject} {objs : List NumaObject}
    (hobjs : topology.numaNodes = first :: objs) (hdistinct : topology.indices.Nodup)
    {unassigned : List PciDeviceReport} (hperm : unassigned.Perm (strays topology))
    (hnodes : topology.nodes = attachUnassigned unassigned (topology.numaNodes.map fun obj =>
      obj.report (devicesAt topology.pciDevices obj.index))) :
    Attributed topology topology.nodes := by
  have hindices : topology.indices = first.index :: objs.map NumaObject.index := by
    simp [HwTopology.indices, hobjs]
  rw [hobjs, List.map_cons, attachUnassigned_cons] at hnodes
  have hlisted : topology.nodes.map NumaNodeReport.osIndex = topology.indices := by
    rw [hnodes, hindices, List.map_cons, List.map_map]
    rfl
  have hat : ∀ node ∈ topology.nodes, node.pciDevices.Perm
      ((topology.pciDevices.filter fun device => topology.homeOf device = node.osIndex).map
        PciObject.report) := by
    rw [hnodes]
    refine List.forall_mem_cons.mpr ⟨?_, ?_⟩
    · have hmem : first.index ∈ topology.indices := by simp [hindices]
      have hfirst := devicesAt_perm hmem
      rw [if_pos (by rw [hindices]; rfl)] at hfirst
      exact (hperm.append_left _).trans hfirst.symm
    · intro node hnode
      obtain ⟨obj, hobj, rfl⟩ := List.mem_map.mp hnode
      have hmem : obj.index ∈ topology.indices := by
        rw [hindices]
        exact List.mem_cons_of_mem _ (List.mem_map_of_mem hobj)
      -- the first node has another index
      have hother : topology.indices.headD 0 ≠ obj.index := by
        rw [hindices, List.nodup_cons] at hdistinct
        rw [hindices]
        intro heq
        have hsame : obj.index = first.index := heq.symm
        exact hdistinct.1 (hsame ▸ List.mem_map_of_mem hobj)
      have hown := devicesAt_perm hmem
      rw [if_neg hother, List.append_nil] at hown
      exact hown.symm
  refine ⟨?_, hat, ?_⟩
  · rw [hlisted, if_neg (by simp [hobjs])]
  · refine noneLost_of_atHome (hlisted ▸ hdistinct) ?_ hat
    intro device _
    rw [hlisted]
    exact homeOf_mem (by simp [hobjs]) device

/-- No device is lost or counted twice, and each is reported at its own node if that is
listed. -/
theorem pci_devices_attributed {topology : HwTopology} (hdistinct : topology.indices.Nodup) :
    ∃ nodes, discover (.ok topology) = .ok nodes ∧ Attributed topology nodes := by
  refine ⟨topology.nodes, rfl, ?_⟩
  obtain ⟨unassigned, hperm, hnodes⟩ := nodes_eq hdistinct
  rcases hobjs : topology.numaNodes with _ | ⟨first, objs⟩
  · rw [hobjs] at hnodes
    exact attributed_of_no_node hobjs hperm hnodes
  · exact attributed_of_nodes hobjs hdistinct hperm hnodes

namespace TopologyScenario

def bits (indices : List Bool) : Option Bitmap := some ⟨indices, false⟩

def device (name : List UInt8) (nodeset : Option Bitmap) (ancestors : List (Option Bitmap)) :
    PciObject := ⟨some name, fun _ => none, nodeset, ancestors⟩

/-- Two nodes; one device at the second, one at a node that is not listed, one at none. -/
def twoNodes : HwTopology where
  pciDevices := [device [0x61] none [none, bits [false, true]],
    device [0x62] none [bits [false, false, false, true]], device [0x63] none [none]]
  numaNodes := [⟨some 0, 1024, none⟩, ⟨some 1, 2048, none⟩]

end TopologyScenario

open TopologyScenario in
theorem pci_devices_attributed_twoNodes :
    ∃ nodes, discover (.ok twoNodes) = .ok nodes ∧ Attributed twoNodes nodes :=
  pci_devices_attributed (by decide)

end NautiFabric
