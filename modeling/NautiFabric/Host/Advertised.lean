import NautiFabric.Fabric.Query
import NautiFabric.Fabric.Refresh
import NautiFabric.Fabric.Withheld
import NautiFabric.Host.Inventory

/-!
# NautiFabric.Host.Advertised — what a host registers, and what may be leased of it

`discoverLocal_registers`: everything that is found is registered. `refresh_unchanged`: on the
same hardware a refresh reports nothing, whatever has been measured since. `leasable_iff`: what
`lease_exclusive` grants of a host; and `agent_claims`: what is never leased in any run of an
agent, which is all the rest (`not_claimable_found`).
-/

namespace NautiFabric

open Interleave

namespace LocalHost

variable {F N F' N' W : Type}

/-! ## Registering what is found -/

theorem mem_registerAll (s : Shared W) (rs : List Resource) (id : String) :
    id ∈ (s.registerAll rs).fabric.resources ↔
      (∃ r ∈ rs, r.id = id) ∨ id ∈ s.fabric.resources := by
  rw [Std.ExtTreeMap.mem_iff_isSome_getElem?, getElem?_registerAll, Option.isSome_or,
    Bool.or_eq_true, List.find?_isSome, ← Std.ExtTreeMap.mem_iff_isSome_getElem?]
  simp

/-- Of resources with different ids none is registered over another. -/
theorem reflects_registerAll {rs : List Resource} (hdistinct : (rs.map Resource.id).Nodup)
    (s : Shared W) : Reflects rs (s.registerAll rs) := by
  intro r hr
  have hlast : rs.reverse.find? (fun r' => r'.id = r.id) = some r := by
    rw [← List.nodup_reverse, ← List.map_reverse] at hdistinct
    exact (Table.find?_keyed hdistinct).mpr ⟨List.mem_reverse.mpr hr, rfl⟩
  rw [getElem?_registerAll, hlast, Option.some_or]

/-- After `discover_local` every resource is registered as it was found, each under an id of its
own, and what has another id is as before. -/
theorem discoverLocal_registers {host : LocalHost F N} (hplain : host.PlainHost) {node : String}
    {call : Call W (List Resource)} (h : host.discoverLocal node = some call) (s : Shared W) :
    ∃ resources s', host.found node host.nodeForResources = some resources ∧
      call.run Section.act s = (some resources, s') ∧ (resources.map Resource.id).Nodup ∧
      Reflects resources s' ∧
      ∀ id ∉ resources.map Resource.id, s'.fabric.resources[id]? = s.fabric.resources[id]? := by
  obtain ⟨resources, hfound, rfl⟩ := Option.map_eq_some_iff.mp h
  have hdistinct := found_distinct hplain hfound
  refine ⟨resources, s.registerAll resources, hfound, discoverLocal_run resources s, hdistinct,
    reflects_registerAll hdistinct s, ?_⟩
  intro id hid
  have hnone : resources.reverse.find? (fun r => r.id = id) = none := by
    rw [List.find?_eq_none]
    intro r hr heq
    exact hid (List.mem_map.mpr ⟨r, List.mem_reverse.mp hr, by simpa using heq⟩)
  rw [getElem?_registerAll, hnone, Option.none_or]

/-! ## Refreshing -/

/-- The same cards, disks and interfaces, and the same entries under `/sys`. What is measured, and
what the tools answer, may be different. -/
structure SameHardware (host : LocalHost F N) (other : LocalHost F' N') : Prop where
  cards : Discover.SameCards host.drm.sys other.drm.sys
  readDir : other.drm.sys.readDir = host.drm.sys.readDir
  disks : other.facts.disks.length = host.facts.disks.length
  networks : ∀ name, name ∈ other.facts.networks ↔ name ∈ host.facts.networks

theorem SameHardware.gpu_ids {host : LocalHost F N} {other : LocalHost F' N'}
    (h : host.SameHardware other) {gpus gpus' : Except GpuDiscoveryError (List DrmDevice)}
    (hgpus : Discover.discover host.drm = some gpus)
    (hgpus' : Discover.discover other.drm = some gpus') (node node' : String) :
    (gpuResources node' gpus').map Resource.id = (gpuResources node gpus).map Resource.id := by
  rcases gpus with e | devices
  · rcases gpus' with e' | devices'
    · rfl
    · obtain ⟨hexists, hnone⟩ := Discover.discover_eq_error hgpus
      rw [← h.cards.pathExists] at hexists
      rw [← h.readDir] at hnone
      exact absurd hnone (Discover.discover_ok_not_listed hgpus' hexists)
  · rcases gpus' with e' | devices'
    · obtain ⟨hexists, hnone⟩ := Discover.discover_eq_error hgpus'
      rw [h.cards.pathExists] at hexists
      rw [h.readDir] at hnone
      exact absurd hnone (Discover.discover_ok_not_listed hgpus hexists)
    · rw [Discover.ids_gpuResources, Discover.ids_gpuResources,
        Discover.cardIds_sameCards (Discover.sameCards_discover h.cards hgpus hgpus')]

theorem SameHardware.entries {host : LocalHost F N} {other : LocalHost F' N'}
    (h : host.SameHardware other) : other.drm.sys.entries = host.drm.sys.entries := by
  funext dir
  unfold SysTree.entries
  rw [h.readDir]

/-- Discoveries of the same hardware find the same ids. -/
theorem SameHardware.mem_ids {host : LocalHost F N} {other : LocalHost F' N'}
    (h : host.SameHardware other) {node node' gpuNode gpuNode' : String}
    {resources resources' : List Resource} (hfound : host.found node gpuNode = some resources)
    (hfound' : other.found node' gpuNode' = some resources') (id : String) :
    id ∈ resources'.map Resource.id ↔ id ∈ resources.map Resource.id := by
  obtain ⟨gpus, hgpus, hids⟩ := ids_found hfound
  obtain ⟨gpus', hgpus', hids'⟩ := ids_found hfound'
  have hnuma : (HwInfo.numaResources other.drm.sys "/sys" node').map Resource.id =
      (HwInfo.numaResources host.drm.sys "/sys" node).map Resource.id := by
    rw [HwInfo.ids_numaResources, HwInfo.ids_numaResources, h.entries]
  have hrdma : (HwInfo.rdmaResources other.tools.rateText other.drm.sys "/sys" node').map
      Resource.id = (HwInfo.rdmaResources host.tools.rateText host.drm.sys "/sys" node).map
      Resource.id := by
    rw [HwInfo.ids_rdmaResources, HwInfo.ids_rdmaResources]
    unfold HwInfo.rdmaPorts
    rw [h.entries]
  have hinventory : id ∈ (HostInventory.discover other.facts node').map Resource.id ↔
      id ∈ (HostInventory.discover host.facts node).map Resource.id := by
    simp only [HostInventory.ids_discover, List.mem_append, List.mem_map, IterOrder.mem_keys,
      h.disks, h.networks]
  rw [hids, hids', hnuma, hrdma, h.gpu_ids hgpus hgpus' gpuNode gpuNode']
  simp only [List.mem_append, hinventory]

/-- After `discover_local` on an empty registry a refresh on the same hardware reports nothing and
changes nothing: what was registered first stays, the node of the GPUs included. -/
theorem refresh_unchanged {host : LocalHost F N} {other : LocalHost F' N'}
    (hsame : host.SameHardware other) {node node' : String} {call : Call W (List Resource)}
    (hcall : host.discoverLocal node = some call) {refresh : Call W RefreshReport}
    (hrefresh : other.refreshLocal node' = some refresh) {s s' : Shared W}
    (hempty : s.fabric.resources = ∅)
    (hlater : s'.fabric.resources = (call.run Section.act s).2.fabric.resources) :
    refresh.run Section.act s' = (some ⟨[], [], []⟩, s') := by
  obtain ⟨resources, hfound, rfl⟩ := Option.map_eq_some_iff.mp hcall
  obtain ⟨resources', hfound', rfl⟩ := Option.map_eq_some_iff.mp hrefresh
  rw [discoverLocal_run] at hlater
  have hids : ∀ id, id ∈ s'.fabric.resources ↔ id ∈ discoveredIds resources' := by
    intro id
    have hmem := hsame.mem_ids hfound hfound' id
    rw [List.mem_map, List.mem_map] at hmem
    rw [mem_discoveredIds, hmem, hlater, mem_registerAll, hempty]
    simp
  have hnew : s'.newIds resources' = [] := by
    rw [List.eq_nil_iff_forall_not_mem]
    intro id hid
    obtain ⟨hin, hout⟩ := mem_newIds.mp hid
    exact hout ((hids id).mpr hin)
  have hgone : s'.goneIds resources' = [] := by
    rw [List.eq_nil_iff_forall_not_mem]
    intro id hid
    obtain ⟨hin, hout⟩ := mem_goneIds.mp hid
    exact hout ((hids id).mp hin)
  have hregister : s'.registerNew resources' = s' := by
    unfold Shared.registerNew
    rw [hnew]
    simp [Shared.registerAll]
  rw [refreshLocal_run]
  dsimp only
  rw [hgone, if_neg (by simp), hnew, hregister, dropFree_nil]
  rfl

/-! ## What may be leased -/

theorem mem_described {before after : List Resource}
    (h : List.Forall₂ HwInfo.Described before after) {r : Resource} (hr : r ∈ after) :
    ∃ r₀ ∈ before, HwInfo.Described r₀ r := by
  induction h with
  | nil => cases hr
  | cons hone _ ih =>
      rcases List.mem_cons.mp hr with rfl | hr
      · exact ⟨_, List.mem_cons_self, hone⟩
      · obtain ⟨r₀, hr₀, hdescribed⟩ := ih hr
        exact ⟨r₀, List.mem_cons_of_mem _ hr₀, hdescribed⟩

theorem leasable_described {before after : Resource} (h : HwInfo.Described before after) :
    after.Leasable ↔ before.Leasable := by
  unfold Resource.Leasable
  rw [h.state, h.exclusive]

/-- The default store, or a GPU, or an RDMA port that is active. -/
def MayBeLeased (host : LocalHost F N) (r : Resource) : Prop :=
  r.id = "local.store.fabric" ∨ r.kind = .gpu ∨
    ∃ p ∈ HwInfo.rdmaPorts host.drm.sys "/sys", r.id = p.id ∧ p.active host.drm.sys "/sys" = true

theorem leasable_gpuResources {node : String} {gpus : Except GpuDiscoveryError (List DrmDevice)}
    {r : Resource} (hr : r ∈ gpuResources node gpus) : r.Leasable ∧ r.kind = .gpu := by
  rcases gpus with e | devices
  · cases hr
  · obtain ⟨gpu, -, rfl⟩ := List.mem_map.mp hr
    exact ⟨⟨rfl, rfl⟩, rfl⟩

theorem ne_store_of_starts {start : String} (h : Apart start "local.store.fabric") {x : String}
    (hx : start.toList <+: x.toList) : x ≠ "local.store.fabric" :=
  h.ne hx List.prefix_rfl

theorem leasable_inventory {facts : HostFacts} {node : String} {r : Resource}
    (hr : r ∈ HostInventory.discover facts node) :
    r.Leasable ↔ r.id = "local.store.fabric" ∨ r.kind = .gpu := by
  have hshared : ∀ (r : Resource) (kind : ResourceKind), r.exclusive = false →
      r.id ≠ "local.store.fabric" → r.kind = kind → kind ≠ .gpu →
      (r.Leasable ↔ r.id = "local.store.fabric" ∨ r.kind = .gpu) := by
    intro r kind hexclusive hid hkind hgpu
    constructor
    · rintro ⟨-, htrue⟩
      rw [hexclusive] at htrue
      cases htrue
    · rintro (h | h)
      · exact absurd h hid
      · exact absurd (hkind.symm.trans h) hgpu
  simp only [HostInventory.discover, List.mem_append, List.mem_cons, List.not_mem_nil,
    or_false] at hr
  rcases hr with (((rfl | rfl) | hdisk) | rfl | rfl | rfl) | hnetwork
  · have hid : "local.cpu.logical" ≠ "local.store.fabric" := by decide
    exact hshared _ .cpu rfl hid rfl (by decide)
  · have hid : "local.memory" ≠ "local.store.fabric" := by decide
    exact hshared _ .memory rfl hid rfl (by decide)
  · obtain ⟨i, hi, rfl⟩ := List.mem_mapIdx.mp hdisk
    exact hshared _ .storage rfl (ne_store_of_starts (by decide) (prefix_append _ _)) rfl
      (by decide)
  · exact ⟨fun _ => Or.inl rfl, fun _ => ⟨rfl, rfl⟩⟩
  · exact ⟨fun _ => Or.inr rfl, fun _ => ⟨rfl, rfl⟩⟩
  · constructor
    · rintro ⟨hstate, -⟩
      cases hstate
    · rintro (hid | hkind)
      · have hne : "local.memory.research" ≠ "local.store.fabric" := by decide
        exact absurd hid hne
      · cases hkind
  · obtain ⟨name, -, hr⟩ := List.mem_filterMap.mp hnetwork
    obtain ⟨mac, -, rfl⟩ := Option.map_eq_some_iff.mp hr
    exact hshared _ .network rfl (ne_store_of_starts (by decide) (prefix_append _ _)) rfl
      (by decide)

/-- What a discovery finds is found in one of three ways. -/
theorem found_cases {host : LocalHost F N} {node gpuNode : String} {resources : List Resource}
    (h : host.found node gpuNode = some resources) : ∃ gpus described,
      Discover.discover host.drm = some gpus ∧
      resources = described ++ HwInfo.numaResources host.drm.sys "/sys" node ++
        HwInfo.rdmaResources host.tools.rateText host.drm.sys "/sys" node ∧
      List.Forall₂ HwInfo.Described
        (HostInventory.discover host.facts node ++ gpuResources gpuNode gpus) described := by
  obtain ⟨gpus, hgpus, rfl⟩ := Option.map_eq_some_iff.mp h
  obtain ⟨described, hdescribed, heq⟩ := HwInfo.described_discoverHardware host.tools host.drm.sys
    node (HostInventory.discover host.facts node ++ gpuResources gpuNode gpus)
  exact ⟨gpus, described, hgpus, heq, hdescribed⟩

theorem leasable_of_described {facts : HostFacts} {node gpuNode : String}
    {gpus : Except GpuDiscoveryError (List DrmDevice)} {described : List Resource}
    (h : List.Forall₂ HwInfo.Described
      (HostInventory.discover facts node ++ gpuResources gpuNode gpus) described)
    {r : Resource} (hr : r ∈ described) :
    r.Leasable ↔ r.id = "local.store.fabric" ∨ r.kind = .gpu := by
  obtain ⟨r₀, hr₀, hsame⟩ := mem_described h hr
  rw [leasable_described hsame, hsame.id, hsame.kind]
  rcases List.mem_append.mp hr₀ with hinventory | hgpu
  · exact leasable_inventory hinventory
  · obtain ⟨hleasable, hkind⟩ := leasable_gpuResources hgpu
    exact ⟨fun _ => Or.inr hkind, fun _ => hleasable⟩

theorem not_leasable_numa {sys : SysTree} {node : String} {r : Resource}
    (hr : r ∈ HwInfo.numaResources sys "/sys" node) : ¬ r.Leasable ∧ r.kind = .memory := by
  obtain ⟨name, -, hr⟩ := List.mem_filterMap.mp hr
  obtain ⟨index, -, rfl⟩ := Option.map_eq_some_iff.mp hr
  refine ⟨?_, rfl⟩
  rintro ⟨-, hexclusive⟩
  cases hexclusive

theorem leasable_rdma {rateText : HwInfo.RateText} {sys : SysTree} {node : String} {r : Resource}
    (hr : r ∈ HwInfo.rdmaResources rateText sys "/sys" node) :
    r.kind = .network ∧ ∃ p ∈ HwInfo.rdmaPorts sys "/sys", r.id = p.id ∧
      (r.Leasable ↔ p.active sys "/sys" = true) := by
  obtain ⟨p, hp, rfl⟩ := List.mem_map.mp hr
  refine ⟨rfl, p, hp, rfl, ?_⟩
  unfold Resource.Leasable HwInfo.RdmaPort.asResource
  dsimp only
  constructor
  · rintro ⟨hstate, -⟩
    by_contra hdown
    rw [if_neg hdown] at hstate
    cases hstate
  · intro hactive
    exact ⟨if_pos hactive, rfl⟩

/-- What the registry lets through is the default store, the GPUs, and the RDMA ports that are
active, and nothing else that a host advertises. -/
theorem leasable_found {host : LocalHost F N} (hplain : host.PlainHost) {node gpuNode : String}
    {resources : List Resource} (h : host.found node gpuNode = some resources) {r : Resource}
    (hr : r ∈ resources) : r.Leasable ↔ MayBeLeased host r := by
  have hdistinct := found_distinct hplain h
  obtain ⟨gpus, described, -, rfl, hdescribed⟩ := found_cases h
  -- an id of a port is the id of nothing else
  have hport : ∀ r ∈ described ++ HwInfo.numaResources host.drm.sys "/sys" node,
      ¬ ∃ p ∈ HwInfo.rdmaPorts host.drm.sys "/sys", r.id = p.id ∧
        p.active host.drm.sys "/sys" = true := by
    rintro r hr ⟨p, hp, hid, -⟩
    rw [List.map_append] at hdistinct
    refine (List.nodup_append.mp hdistinct).2.2 _ (List.mem_map_of_mem hr) _ ?_ hid
    rw [HwInfo.ids_rdmaResources]
    exact List.mem_map_of_mem hp
  unfold MayBeLeased
  rcases List.mem_append.mp hr with hr | hr
  · rw [or_iff_left (hport r hr)]
    rcases List.mem_append.mp hr with hr | hr
    · exact leasable_of_described hdescribed hr
    · obtain ⟨hnot, hkind⟩ := not_leasable_numa hr
      have hid : r.id ≠ "local.store.fabric" :=
        ne_store_of_starts (by decide) (starts_numaResources _ _ _ (List.mem_map_of_mem hr))
      simp [hnot, hkind, hid]
  · obtain ⟨hkind, p, hp, hid, hactive⟩ := leasable_rdma hr
    have hstore : r.id ≠ "local.store.fabric" :=
      ne_store_of_starts (by decide) (starts_rdmaResources _ _ _ _ (List.mem_map_of_mem hr))
    rw [hactive, hkind, or_iff_right hstore, or_iff_right (by decide)]
    constructor
    · intro h
      exact ⟨p, hp, hid, h⟩
    · rintro ⟨q, hq, hq', h⟩
      -- the port is known by its id
      rwa [HwInfo.RdmaPort.id_inj (hplain.names.ports p hp) (hplain.names.ports q hq)
        (hid.symm.trans hq')]

/-- `lease_exclusive` grants what the registry lets through and its guard finds free. -/
theorem grants_iff_leasable {owner : String} {ttl : Duration} {s : Shared W} {r : Resource}
    (hr : s.fabric.resources[r.id]? = some r) :
    Grants r.id owner ttl s ↔ r.Leasable ∧ s.WouldGrant r.id ttl := by
  by_cases hleasable : r.Leasable
  · rw [and_iff_right hleasable]
    exact grants_iff hr hleasable.1 hleasable.2
  · -- refused before the guard is taken
    have hnot : ¬ (r.state = .available ∧ r.exclusive = true) := hleasable
    unfold Grants
    rw [leaseExclusive_run, hr]
    simp [hnot, hleasable]

/-- Of what a host advertises, `lease_exclusive` grants exactly the default store, the GPUs, and
the RDMA ports that are active, each as long as nobody holds it. -/
theorem leasable_iff {host : LocalHost F N} (hplain : host.PlainHost) {node gpuNode : String}
    {resources : List Resource} (h : host.found node gpuNode = some resources) {r : Resource}
    (hr : r ∈ resources) {s : Shared W} (hregistered : s.fabric.resources[r.id]? = some r)
    (owner : String) (ttl : Duration) :
    Grants r.id owner ttl s ↔ MayBeLeased host r ∧ s.WouldGrant r.id ttl := by
  rw [grants_iff_leasable hregistered, leasable_found hplain h hr]

/-- A GPU that is found is the remote one, or a card of the host. -/
theorem gpu_of_found {host : LocalHost F N} {node gpuNode : String} {resources : List Resource}
    (h : host.found node gpuNode = some resources) {r : Resource} (hr : r ∈ resources)
    (hkind : r.kind = .gpu) :
    ∃ gpus r₀, Discover.discover host.drm = some gpus ∧ HwInfo.Described r₀ r ∧
      (r₀ = Wgpu.defaultResource node ∨ r₀ ∈ gpuResources gpuNode gpus) := by
  obtain ⟨gpus, described, hgpus, rfl, hdescribed⟩ := found_cases h
  rcases List.mem_append.mp hr with hr | hr
  swap
  · rw [(leasable_rdma hr).1] at hkind
    cases hkind
  rcases List.mem_append.mp hr with hr | hr
  swap
  · rw [(not_leasable_numa hr).2] at hkind
    cases hkind
  obtain ⟨r₀, hr₀, hsame⟩ := mem_described hdescribed hr
  refine ⟨gpus, r₀, hgpus, hsame, ?_⟩
  rw [hsame.kind] at hkind
  rcases List.mem_append.mp hr₀ with hinventory | hgpu
  · simp only [HostInventory.discover, List.mem_append, List.mem_cons, List.not_mem_nil,
      or_false] at hinventory
    rcases hinventory with (((rfl | rfl) | hdisk) | rfl | rfl | rfl) | hnetwork
    · cases hkind
    · cases hkind
    · obtain ⟨i, hi, rfl⟩ := List.mem_mapIdx.mp hdisk
      cases hkind
    · cases hkind
    · exact Or.inl rfl
    · cases hkind
    · obtain ⟨name, -, hr⟩ := List.mem_filterMap.mp hnetwork
      obtain ⟨mac, -, rfl⟩ := Option.map_eq_some_iff.mp hr
      cases hkind
  · exact Or.inr hgpu

theorem gpu_starts {host : LocalHost F N} {node gpuNode : String} {resources : List Resource}
    (h : host.found node gpuNode = some resources) {r : Resource} (hr : r ∈ resources)
    (hkind : r.kind = .gpu) : "local.gpu.".toList <+: r.id.toList := by
  obtain ⟨gpus, r₀, -, hsame, hgpu⟩ := gpu_of_found h hr hkind
  rw [hsame.id]
  rcases hgpu with rfl | hgpu
  · have hstart : "local.gpu.".toList <+: "local.gpu.wgpu-remote".toList := by decide
    exact hstart
  · exact starts_gpuResources gpuNode gpus _ (List.mem_map_of_mem hgpu)

namespace Samples

open Discover.Samples Scenario

/-- No research memory. -/
def noResearch : ResearchHost where
  isDir _ := false
  readDir _ := none
  readToString _ := none
  pathExists _ := false
  drustHome := false

/-- A host with a disk and two GPUs. -/
def rig : LocalHost Unit Unit where
  facts := ⟨some 8, 17179869184, [⟨"sda", "/", 1000, 400⟩], ∅, .sorted, noResearch⟩
  drm := bareHost
  tools := ⟨fun _ => none, none⟩
  nautiNode := none
  hostname := some "t440"

/-- The same host with less room on its disk, and another name. -/
def fuller : LocalHost Unit Unit where
  facts := ⟨some 8, 17179869184, [⟨"sda", "/", 1000, 10⟩], ∅, .sorted, noResearch⟩
  drm := bareHost
  tools := ⟨fun _ => none, none⟩
  nautiNode := none
  hostname := some "t441"

theorem readDir_rig (dir : String) : rig.drm.sys.readDir dir =
    if dir = Discover.drmDir then some ["card1", "card0", "card0-DP-1"] else none := rfl

theorem entries_rig {dir : String} (h : dir ≠ Discover.drmDir) : rig.drm.sys.entries dir = [] := by
  unfold SysTree.entries
  rw [readDir_rig, if_neg h]
  exact List.mergeSort_nil

theorem plainHost_rig : rig.PlainHost := by
  constructor
  · constructor
    · intro dir names h
      rw [readDir_rig] at h
      split at h
      · rw [← Option.some.inj h]
        decide
      · cases h
    · intro name hname
      rw [entries_rig (by decide)] at hname
      cases hname
    · intro p hp
      have hnone := (HwInfo.mem_rdmaPorts.mp hp).1
      rw [entries_rig (by decide)] at hnone
      cases hnone
  · intro names h
    rw [readDir_rig, if_pos rfl] at h
    obtain rfl := Option.some.inj h
    have haddresses : (Discover.cards twoCards ["card1", "card0", "card0-DP-1"]).map
        (fun dev => dev.pciBdf) = ["0000:02:00.0", "0000:01:00.0"] := by
      decide +kernel
    refine ⟨plainListing_twoCards, ?_⟩
    intro dev hdev
    have hmem : dev.pciBdf ∈ ["0000:02:00.0", "0000:01:00.0"] := by
      rw [← haddresses]
      exact List.mem_map_of_mem hdev
    simp only [List.mem_cons, List.not_mem_nil, or_false] at hmem
    rcases hmem with h | h
    · exact ⟨⟨0, 2, 0, 0⟩, h.trans (by decide)⟩
    · exact ⟨⟨0, 1, 0, 0⟩, h.trans (by decide)⟩

theorem discover_rig : ∃ gpus, Discover.discover bareHost = some gpus :=
  ⟨_, Discover.discover_listed (show bareHost.sys.pathExists Discover.drmDir = true from rfl)
    (readDir_rig _) (show nvmlByBdf bareHost.lower bareHost.nvml = some ∅ from rfl)⟩

theorem found_rig (node gpuNode : String) :
    ∃ resources, rig.found node gpuNode = some resources := by
  obtain ⟨gpus, hgpus⟩ := discover_rig
  exact ⟨_, Option.map_eq_some_iff.mpr ⟨gpus, hgpus, rfl⟩⟩

theorem found_fuller (node gpuNode : String) :
    ∃ resources, fuller.found node gpuNode = some resources := by
  obtain ⟨gpus, hgpus⟩ := discover_rig
  exact ⟨_, Option.map_eq_some_iff.mpr ⟨gpus, hgpus, rfl⟩⟩

theorem sameHardware_fuller : rig.SameHardware fuller where
  cards := .refl _
  readDir := rfl
  disks := rfl
  networks _ := Iff.rfl

end Samples

open Samples Scenario

theorem discoverLocal_registers_rig : ∃ call resources s',
    rig.discoverLocal "local" = some call ∧ rig.found "local" "t440" = some resources ∧
      call.run Section.act (start ()) = (some resources, s') ∧
      (resources.map Resource.id).Nodup ∧ Reflects resources s' := by
  obtain ⟨resources, hfound⟩ := found_rig "local" "t440"
  have hcall : rig.discoverLocal "local" =
      some (NautiFabric.discoverLocal resources : Call Unit _) :=
    Option.map_eq_some_iff.mpr ⟨resources, hfound, rfl⟩
  obtain ⟨resources', s', hfound', hrun, hdistinct, hreflects, -⟩ :=
    discoverLocal_registers plainHost_rig hcall (start ())
  exact ⟨_, resources', s', hcall, hfound', hrun, hdistinct, hreflects⟩

theorem refresh_unchanged_fuller : ∃ call refresh,
    rig.discoverLocal "local" = some call ∧ fuller.refreshLocal "local" = some refresh ∧
      refresh.run Section.act (call.run Section.act (start ())).2 =
        (some ⟨[], [], []⟩, (call.run Section.act (start ())).2) := by
  obtain ⟨resources, hfound⟩ := found_rig "local" "t440"
  obtain ⟨resources', hfound'⟩ := found_fuller "local" "local"
  have hcall : rig.discoverLocal "local" =
      some (NautiFabric.discoverLocal resources : Call Unit _) :=
    Option.map_eq_some_iff.mpr ⟨resources, hfound, rfl⟩
  have hrefresh : fuller.refreshLocal "local" =
      some (NautiFabric.refreshLocal resources' : Call Unit _) :=
    Option.map_eq_some_iff.mpr ⟨resources', hfound', rfl⟩
  exact ⟨_, _, hcall, hrefresh, refresh_unchanged sameHardware_fuller hcall hrefresh rfl rfl⟩

theorem leasable_iff_rig : ∃ resources, rig.found "local" "t440" = some resources ∧
    ∀ r ∈ resources,
      Grants r.id "mission-a" 30 ((start ()).registerAll resources) ↔ MayBeLeased rig r := by
  obtain ⟨resources, hfound⟩ := found_rig "local" "t440"
  refine ⟨resources, hfound, fun r hr => ?_⟩
  have hregistered := reflects_registerAll (found_distinct plainHost_rig hfound) (start ())
  have hrange : (start ()).now + 30 < Instant.limit := by decide
  have hgrant : ((start ()).registerAll resources).WouldGrant r.id 30 :=
    ⟨rfl, Std.ExtTreeMap.not_mem_empty, rfl, hrange⟩
  rw [leasable_iff plainHost_rig hfound hr (hregistered r hr), and_iff_left hgrant]

end LocalHost

/-! ## The agent -/

/-- The virtual GPU that an agent registers beside its hardware. -/
def virtualGpu (node : String) : Resource where
  id := "gpu.virtual.0"
  kind := .gpu
  capacity := 1
  unit := "device"
  node := node
  state := .available
  exclusive := true
  attributes := .ofList [("adapter", "proof")]

/-- An agent registers what it finds on its host, at any time, and the virtual GPU. -/
def Section.ByAgent {W : Type} : Section W → Prop
  | .register r => (∃ node, r = virtualGpu node) ∨
      ∃ (F N : Type) (host : LocalHost F N) (node gpuNode : String) (resources : List Resource),
        host.found node gpuNode = some resources ∧ r ∈ resources
  | _ => True

/-- The ids under which an agent gives out leases. -/
def Claimable (id : String) : Prop :=
  id = "gpu.virtual.0" ∨ id = "local.store.fabric" ∨ "local.gpu.".toList <+: id.toList ∨
    "local.rdma.".toList <+: id.toList

theorem not_claimable_of_starts {start id : String}
    (happart : ∀ claimed ∈ ["gpu.virtual.0", "local.store.fabric", "local.gpu.", "local.rdma."],
      Apart start claimed)
    (h : start.toList <+: id.toList) : ¬ Claimable id := by
  simp only [List.forall_mem_cons] at happart
  obtain ⟨hvirtual, hstore, hgpu, hrdma, -⟩ := happart
  rintro (hid | hid | hid | hid)
  · exact hvirtual.ne h List.prefix_rfl hid
  · exact hstore.ne h List.prefix_rfl hid
  · exact hgpu.ne h hid rfl
  · exact hrdma.ne h hid rfl

/-- The ids of the processors, the memory, the disks, the interfaces and the research memory are
not among them. -/
theorem not_claimable_inventory {facts : HostFacts} {node : String} {r : Resource}
    (hr : r ∈ HostInventory.discover facts node) (hstore : r.id ≠ "local.store.fabric")
    (hgpu : r.kind ≠ .gpu) : ¬ Claimable r.id := by
  simp only [HostInventory.discover, List.mem_append, List.mem_cons, List.not_mem_nil,
    or_false] at hr
  rcases hr with (((rfl | rfl) | hdisk) | rfl | rfl | rfl) | hnetwork
  · have hstart : "local.cpu.".toList <+: "local.cpu.logical".toList := by decide
    exact not_claimable_of_starts (by decide) hstart
  · have hstart : "local.memory".toList <+: "local.memory".toList := List.prefix_rfl
    exact not_claimable_of_starts (by decide) hstart
  · obtain ⟨i, -, rfl⟩ := List.mem_mapIdx.mp hdisk
    exact not_claimable_of_starts (by decide) (prefix_append "local.storage." _)
  · exact absurd rfl hstore
  · exact absurd rfl hgpu
  · have hstart : "local.memory".toList <+: "local.memory.research".toList := by decide
    exact not_claimable_of_starts (by decide) hstart
  · obtain ⟨name, -, hr⟩ := List.mem_filterMap.mp hnetwork
    obtain ⟨mac, -, rfl⟩ := Option.map_eq_some_iff.mp hr
    exact not_claimable_of_starts (by decide) (prefix_append "local.network." _)

/-- Nor are those of the NUMA nodes. -/
theorem not_claimable_numa {sys : SysTree} {node : String} {r : Resource}
    (hr : r ∈ HwInfo.numaResources sys "/sys" node) : ¬ Claimable r.id :=
  not_claimable_of_starts (by decide)
    (LocalHost.starts_numaResources sys node _ (List.mem_map_of_mem hr))

/-- Of what a host advertises, only the default store, the GPUs and the RDMA ports have an id
under which a lease can be given out. -/
theorem not_claimable_found {F N : Type} {host : LocalHost F N} {node gpuNode : String}
    {resources : List Resource} (h : host.found node gpuNode = some resources) {r : Resource}
    (hr : r ∈ resources) (hstore : r.id ≠ "local.store.fabric") (hgpu : r.kind ≠ .gpu)
    (hport : ∀ p ∈ HwInfo.rdmaPorts host.drm.sys "/sys", r.id ≠ p.id) : ¬ Claimable r.id := by
  obtain ⟨gpus, described, -, rfl, hdescribed⟩ := LocalHost.found_cases h
  rcases List.mem_append.mp hr with hr | hr
  · rcases List.mem_append.mp hr with hr | hr
    · obtain ⟨r₀, hr₀, hsame⟩ := LocalHost.mem_described hdescribed hr
      rw [hsame.id] at hstore ⊢
      rw [hsame.kind] at hgpu
      rcases List.mem_append.mp hr₀ with hinventory | hcard
      · exact not_claimable_inventory hinventory hstore hgpu
      · exact absurd (LocalHost.leasable_gpuResources hcard).2 hgpu
    · exact not_claimable_numa hr
  · obtain ⟨-, p, hp, hid, -⟩ := LocalHost.leasable_rdma hr
    exact absurd hid (hport p hp)

theorem claimable_of_leasable {F N : Type} {host : LocalHost F N} {node gpuNode : String}
    {resources : List Resource} (h : host.found node gpuNode = some resources) {r : Resource}
    (hr : r ∈ resources) (hleasable : r.Leasable) : Claimable r.id := by
  have hfound := h
  obtain ⟨gpus, described, -, rfl, hdescribed⟩ := LocalHost.found_cases h
  rcases List.mem_append.mp hr with hr' | hr'
  · rcases List.mem_append.mp hr' with hr' | hr'
    · rcases (LocalHost.leasable_of_described hdescribed hr').mp hleasable with hid | hkind
      · exact Or.inr (Or.inl hid)
      · exact Or.inr (Or.inr (Or.inl (LocalHost.gpu_starts hfound hr hkind)))
    · exact absurd hleasable (LocalHost.not_leasable_numa hr').1
  · exact Or.inr (Or.inr (Or.inr
      (LocalHost.starts_rdmaResources _ _ _ _ (List.mem_map_of_mem hr'))))

/-- In every interleaving of calls on an agent: no lease is ever granted on the processors, the
memory, the disks, the interfaces, the NUMA nodes or the research memory, and no adapter is asked
to attach one of these. -/
theorem agent_claims {W : Type} {guard : Section W → Shared W → Prop}
    (hguard : ∀ sec s, guard sec s → sec.ByAgent)
    {c : Config (@Section.Reply W) (Shared W) Unit} (h : (fabricSystem guard).Reachable c)
    {id : String} (hid : ¬ Claimable id) : Unclaimed id c.state := by
  refine unclaimed_reachable ?_ h
  intro sec s hg
  have hby := hguard sec s hg
  cases sec with
  | register r =>
      rintro rfl hleasable
      apply hid
      rcases hby with ⟨node, rfl⟩ | ⟨F, N, host, node, gpuNode, resources, hfound, hr⟩
      · exact Or.inl rfl
      · exact claimable_of_leasable hfound hr hleasable
  | _ => trivial

theorem registerEach_byAgent {W : Type} {host : LocalHost Unit Unit} {node gpuNode : String}
    {resources rs : List Resource} (h : host.found node gpuNode = some resources)
    (hrs : ∀ r ∈ rs, r ∈ resources) :
    (registerEach rs : Call W _).Sound Section.act (fun _ => True) Section.ByAgent := by
  induction rs with
  | nil => trivial
  | cons r rs ih =>
      refine ⟨Or.inr ⟨_, _, host, node, gpuNode, resources, h, hrs r List.mem_cons_self⟩, ?_⟩
      intro _ _ _ _
      exact ih fun r hr => hrs r (List.mem_cons_of_mem _ hr)

open LocalHost.Samples Scenario in
theorem agent_claims_rig : ∃ resources, rig.found "local" "t440" = some resources ∧
    Unclaimed "local.memory" (afterCalls (start ())
      [.invoke (Op.discoverLocal resources).call,
        .invoke (Op.leaseExclusive "local.memory" "mission-a" 30).call]) := by
  obtain ⟨resources, hfound⟩ := found_rig "local" "t440"
  refine ⟨resources, hfound, ?_⟩
  have hdiscover : ((Op.discoverLocal resources).call : Call Unit Unit).Guarded Section.act
      (fun sec _ => sec.ByAgent) (start ()) := by
    have hregister : (registerEach resources : Call Unit _).Sound Section.act (fun _ => True)
        Section.ByAgent := registerEach_byAgent hfound fun _ hr => hr
    have hsound : (NautiFabric.discoverLocal resources : Call Unit _).Sound Section.act
        (fun _ => True) Section.ByAgent := hregister.bind fun _ => trivial
    have hcall : ((Op.discoverLocal resources).call : Call Unit Unit).Sound Section.act
        (fun _ => True) Section.ByAgent := hsound.bind fun _ => trivial
    exact hcall.guarded (fun _ _ h => h) _
  have hlease : ∀ s, ((Op.leaseExclusive "local.memory" "mission-a" 30).call :
      Call Unit Unit).Guarded Section.act (fun sec _ => sec.ByAgent) s := by
    have hsound : (leaseExclusive "local.memory" "mission-a" 30 : Call Unit _).Sound Section.act
        (fun _ => True) Section.ByAgent := leaseExclusive_sound trivial trivial
    have hcall : ((Op.leaseExclusive "local.memory" "mission-a" 30).call : Call Unit Unit).Sound
        Section.act (fun _ => True) Section.ByAgent := hsound.bind fun _ => trivial
    exact hcall.guarded fun _ _ h => h
  have hrun : (fabricSystem fun sec (_ : Shared Unit) => sec.ByAgent).SeqReachable
      (afterCalls (start ()) [.invoke (Op.discoverLocal resources).call,
        .invoke (Op.leaseExclusive "local.memory" "mission-a" 30).call]) :=
    seqReachable_afterCalls ⟨⟨.discoverLocal _, rfl⟩, hdiscover, ⟨.leaseExclusive _ _ _, rfl⟩,
      hlease _, trivial⟩
  have hid : ¬ Claimable "local.memory" := by
    have hmemory : Resource.localMemory "local" rig.facts.totalMemory ∈
        HostInventory.discover rig.facts "local" := by
      simp [HostInventory.discover, rig]
    exact not_claimable_inventory hmemory (by decide) (by decide)
  exact agent_claims (fun _ _ hg => hg) hrun.reachable hid

end NautiFabric
