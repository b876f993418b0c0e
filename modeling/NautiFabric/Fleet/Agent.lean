import NautiFabric.Fabric.ExactLease
import NautiFabric.Fabric.Query
import NautiFabric.Host.Advertised
import NautiFabric.Host.Rdma
import NautiFabric.Rpc.Dispatch
import NautiFabric.Store.Adapter

/-!
# NautiFabric.Fleet.Agent — an agent that serves its host

An agent registers what it finds on its host, a virtual GPU and its adapters, and from then on
only serves requests. No request registers or unregisters anything, so in every run every
inventory that a controller gets lists just what was registered, in the order of the ids
(`inventory_answer`); and what a controller attaches is one of these, as it was found, through
one of the adapters that the agent started with (`attach_answer`).
-/

namespace NautiFabric

open Interleave

variable {F N V W : Type}

/-! ## Starting -/

/-- The world of an agent's adapters: the attachments of the store, and the host. -/
structure AgentHost (V : Type) where
  store : Store.Host V
  rdma : V → HwInfo.RdmaHost
  research : V → ResearchHost
  /-- whether the feature `wgpu-remote` is on -/
  wgpu : Bool

/-- The adapters that an agent has, without the optional one of VFIO. -/
def agentAdapters (host : AgentHost V) : List (ResourceAdapter (Store.StoreWorld V)) :=
  [localProofAdapter, Store.adapter host.store, Wgpu.wgpuRemoteAdapter host.wgpu,
    researchMemoryAdapter fun w => host.research w.outside,
    HwInfo.RdmaAdapter.adapter "/sys" fun w => host.rdma w.outside]

def registerAdapters : List (ResourceAdapter W) → Call W Unit
  | [] => return ()
  | adapter :: adapters => do
    registerAdapter adapter
    registerAdapters adapters

/-- `agent_serve`, up to the point where it serves; `none` is a panic of the discovery. -/
def agentStart (host : LocalHost F N) (node : String) (adapters : List (ResourceAdapter W)) :
    Option (Call W Unit) :=
  (host.discoverLocal node).map fun discover => do
    let _ ← discover
    register (virtualGpu node)
    registerAdapters adapters

/-- The state of an agent that has started. -/
def Started (host : LocalHost F N) (node : String) (adapters : List (ResourceAdapter W))
    (s : Shared W) : Prop :=
  ∃ s₀ call, s₀.Fresh ∧ agentStart host node adapters = some call ∧
    call.run Section.act s₀ = (some (), s)

/-- An agent that serves: the requests of its controllers, in every interleaving. -/
def serving (started : Shared W → Prop) :
    Interleave.System (@Section.Reply W) (Shared W) Unit where
  act := Section.act
  init := started
  invocable p := ∃ order request, p = (dispatch order request).ignore
  env := Shared.Elapse
  guard _ _ := True

/-! ## What is registered at the start -/

def Shared.registerAdapterAll (s : Shared W) (adapters : List (ResourceAdapter W)) : Shared W :=
  { s with fabric.adapters := adapters.foldl (fun m a => m.insert a.name a) s.fabric.adapters }

theorem registerAdapters_run (adapters : List (ResourceAdapter W)) (s : Shared W) :
    (registerAdapters adapters).run Section.act s = (some (), s.registerAdapterAll adapters) := by
  induction adapters generalizing s with
  | nil => rfl
  | cons a adapters ih =>
      exact ih { s with fabric.adapters := s.fabric.adapters.insert a.name a }

/-- A start that finds something ends, and leaves behind what it found and the virtual GPU. -/
theorem agentStart_run {host : LocalHost F N} {node : String} {adapters : List (ResourceAdapter W)}
    {call : Call W Unit} (h : agentStart host node adapters = some call) :
    ∃ resources, host.found node host.nodeForResources = some resources ∧ ∀ s,
      call.run Section.act s = (some (),
        (s.registerAll (resources ++ [virtualGpu node])).registerAdapterAll adapters) := by
  obtain ⟨discover, hdiscover, rfl⟩ := Option.map_eq_some_iff.mp h
  obtain ⟨resources, hfound, rfl⟩ := Option.map_eq_some_iff.mp hdiscover
  refine ⟨resources, hfound, ?_⟩
  intro s
  have hboth : (s.registerAll resources).registerAll [virtualGpu node] =
      s.registerAll (resources ++ [virtualGpu node]) := by
    unfold Shared.registerAll
    rw [List.foldl_append]
  rw [← hboth]
  change ((NautiFabric.discoverLocal resources : Call W _).bind fun _ => do
      register (virtualGpu node)
      registerAdapters adapters).run Section.act s = _
  rw [Prog.run_bind_some (discoverLocal_run resources s)]
  exact registerAdapters_run adapters _

theorem started_eq {host : LocalHost F N} {node : String} {adapters : List (ResourceAdapter W)}
    {s : Shared W} (h : Started host node adapters s) :
    ∃ (s₀ : Shared W) (resources : List Resource), s₀.Fresh ∧
      host.found node host.nodeForResources = some resources ∧
      s = (s₀.registerAll (resources ++ [virtualGpu node])).registerAdapterAll adapters := by
  obtain ⟨s₀, call, hfresh, hcall, hrun⟩ := h
  obtain ⟨resources, hfound, hends⟩ := agentStart_run hcall
  exact ⟨s₀, resources, hfresh, hfound, (Prod.mk.inj (hrun.symm.trans (hends s₀))).2⟩

/-- The ids of the host and of the virtual GPU are all different. -/
theorem registered_distinct {host : LocalHost F N} (hplain : host.PlainHost)
    {node gpuNode : String} {resources : List Resource}
    (h : host.found node gpuNode = some resources) :
    ((resources ++ [virtualGpu node]).map Resource.id).Nodup := by
  rw [List.map_append, List.nodup_append]
  refine ⟨LocalHost.found_distinct hplain h, List.nodup_singleton _, ?_⟩
  intro id hid id' hid'
  obtain rfl := List.mem_singleton.mp hid'
  rintro rfl
  have hlocal : "local.".toList <+: "gpu.virtual.0".toList := LocalHost.starts_found h _ hid
  exact absurd hlocal (by decide)

theorem getElem?_started {host : LocalHost F N} (hplain : host.PlainHost) {node : String}
    {adapters : List (ResourceAdapter W)} {s : Shared W} (h : Started host node adapters s) :
    ∃ resources, host.found node host.nodeForResources = some resources ∧
      ∀ id r, s.fabric.resources[id]? = some r ↔
        r ∈ resources ++ [virtualGpu node] ∧ r.id = id := by
  obtain ⟨s₀, resources, hfresh, hfound, rfl⟩ := started_eq h
  refine ⟨resources, hfound, ?_⟩
  intro id r
  have hempty : s₀.fabric.resources[id]? = none := by
    rw [hfresh.1]
    exact Std.ExtTreeMap.getElem?_empty
  have hdistinct : ((resources ++ [virtualGpu node]).reverse.map Resource.id).Nodup := by
    rw [List.map_reverse, List.nodup_reverse]
    exact registered_distinct hplain hfound
  change (s₀.registerAll (resources ++ [virtualGpu node])).fabric.resources[id]? = some r ↔ _
  rw [getElem?_registerAll, hempty, Option.or_none]
  rw [Table.find?_keyed hdistinct, List.mem_reverse]

theorem adapters_started {host : LocalHost F N} {node : String}
    {adapters : List (ResourceAdapter W)} (hnames : (adapters.map ResourceAdapter.name).Nodup)
    {s : Shared W} (h : Started host node adapters s) (name : String) (a : ResourceAdapter W) :
    s.fabric.adapters[name]? = some a ↔ a ∈ adapters ∧ a.name = name := by
  obtain ⟨s₀, resources, hfresh, -, rfl⟩ := started_eq h
  have hempty : s₀.fabric.adapters[name]? = none := by
    rw [hfresh.1]
    exact Std.ExtTreeMap.getElem?_empty
  have hdistinct : (adapters.reverse.map ResourceAdapter.name).Nodup := by
    rw [List.map_reverse, List.nodup_reverse]
    exact hnames
  change (adapters.foldl (fun m a => m.insert a.name a) s₀.fabric.adapters)[name]? = some a ↔ _
  rw [Table.getElem?_foldl_insert ResourceAdapter.name (fun a => a), hempty, Option.or_none,
    Option.map_id_fun']
  exact (Table.find?_keyed hdistinct).trans (and_congr_left' List.mem_reverse)

/-! ## What no request does -/

/-- The sections of the requests: none of them changes what is registered. -/
def Section.OfRequest : Section W → Prop
  | .register _ | .unregisterCheck _ | .unregisterRemove _ | .registerAdapter _ | .cutoff _
  | .evictStale _ _ | .evictOwned _ _ => False
  | _ => True

theorem dispatch_ofRequest {I : Shared W → Prop} (order : IterOrder) (request : RpcRequest) :
    (dispatch order request).Sound Section.act I Section.OfRequest := by
  cases request with
  | ping => trivial
  | inventory => exact ⟨trivial, fun _ _ _ _ => trivial⟩
  | findAvailable query => exact ⟨trivial, fun _ _ _ _ => trivial⟩
  | heartbeat node => exact ⟨trivial, fun _ _ _ _ => trivial⟩
  | leaseRenew lease ttlSecs => exact ⟨trivial, fun _ _ _ _ => trivial⟩
  | leaseExclusive resourceId owner ttlSecs =>
      have hlease : (leaseExclusive resourceId owner (.fromSecs ttlSecs) : Call W _).Sound
          Section.act I Section.OfRequest := leaseExclusive_sound trivial trivial
      exact hlease.bind fun _ => trivial
  | attach adapter lease =>
      have hattach : (attach adapter lease : Call W _).Sound Section.act I Section.OfRequest :=
        attach_sound trivial fun _ _ _ _ => trivial
      exact hattach.bind fun _ => trivial
  | release lease =>
      have hrelease : (release lease : Call W _).Sound Section.act I Section.OfRequest :=
        release_sound trivial trivial trivial (fun _ _ _ _ _ => trivial) trivial
      exact hrelease.bind fun _ => trivial

/-- The registries are as they were at the start. -/
structure SameRegistries (started s : Shared W) : Prop where
  resources : s.fabric.resources = started.fabric.resources
  adapters : s.fabric.adapters = started.fabric.adapters

theorem SameRegistries.act {started s : Shared W} (h : SameRegistries started s)
    {sec : Section W} (hsec : sec.OfRequest) : SameRegistries started (sec.act s).2 := by
  by_cases hw : sec.writes
  · cases sec with
    | heartbeat node => exact ⟨h.resources, h.adapters⟩
    | register => exact hsec.elim
    | unregisterRemove => exact hsec.elim
    | registerAdapter => exact hsec.elim
    | evictStale => exact hsec.elim
    | _ => exact hw.elim
  · have hframe := act_frame sec hw s
    exact ⟨hframe.resources.trans h.resources, hframe.adapters.trans h.adapters⟩

/-- However the requests interleave, nothing is registered, and nothing unregistered. -/
theorem serving_registries {started : Shared W → Prop}
    {c : Config (@Section.Reply W) (Shared W) Unit} (h : (serving started).Reachable c) :
    ∃ s₀, started s₀ ∧ SameRegistries s₀ c.state := by
  have hsound := h.sound (fun s => ∃ s₀, started s₀ ∧ SameRegistries s₀ s) Section.OfRequest
    (fun s hs => ⟨s, hs, rfl, rfl⟩)
    (by
      rintro p ⟨order, request, rfl⟩
      exact (dispatch_ofRequest order request).bind fun _ => trivial)
    (by
      rintro sec s hsec - ⟨s₀, hs₀, hsame⟩
      exact ⟨s₀, hs₀, hsame.act hsec⟩)
    (by
      rintro s s' he ⟨s₀, hs₀, hsame⟩
      rw [he.2]
      exact ⟨s₀, hs₀, hsame.resources, hsame.adapters⟩)
  exact hsound.1

/-- In every run, what is registered is what was found and the virtual GPU, each once. -/
theorem registered_serving {host : LocalHost F N} (hplain : host.PlainHost) {node : String}
    {adapters : List (ResourceAdapter W)} {c : Config (@Section.Reply W) (Shared W) Unit}
    (h : (serving (Started host node adapters)).Reachable c) :
    ∃ resources, host.found node host.nodeForResources = some resources ∧
      ((resources ++ [virtualGpu node]).map Resource.id).Nodup ∧
      c.state.fabric.resources.values.Perm (resources ++ [virtualGpu node]) := by
  obtain ⟨s₀, hs₀, hsame⟩ := serving_registries h
  obtain ⟨resources, hfound, hregistered⟩ := getElem?_started hplain hs₀
  have hdistinct : ((resources ++ [virtualGpu node]).map Resource.id).Nodup :=
    registered_distinct hplain hfound
  refine ⟨resources, hfound, hdistinct, Table.values_perm hdistinct ?_⟩
  intro id r
  rw [hsame.resources]
  exact hregistered id r

/-- In every run of an agent, an inventory lists what was found on its host and the virtual GPU,
each once, and it is in the order of the ids. -/
theorem inventory_answer {host : LocalHost F N} (hplain : host.PlainHost) {node : String}
    {adapters : List (ResourceAdapter W)} {c : Config (@Section.Reply W) (Shared W) Unit}
    (h : (serving (Started host node adapters)).Reachable c) (order : IterOrder) :
    ∃ resources listed, host.found node host.nodeForResources = some resources ∧
      (dispatch order .inventory).run Section.act c.state = (some (.inventory listed), c.state) ∧
      listed.Perm (resources ++ [virtualGpu node]) ∧
      (listed.map Resource.id).Pairwise (· < ·) := by
  obtain ⟨resources, hfound, hdistinct, hperm⟩ := registered_serving hplain h
  let listed := c.state.fabric.resources.values.mergeSort fun a b => decide (a.id ≤ b.id)
  have hlisted : listed.Perm (resources ++ [virtualGpu node]) :=
    (List.mergeSort_perm _ _).trans hperm
  refine ⟨resources, listed, hfound, rfl, hlisted, ?_⟩
  have hnodup : (listed.map Resource.id).Nodup := ((hlisted.map _).nodup_iff).mpr hdistinct
  have hsorted : (listed.map Resource.id).Pairwise (· ≤ ·) := by
    rw [List.pairwise_map]
    exact StableSort.pairwise_sortByKey Resource.id c.state.fabric.resources.values
  exact hsorted.imp₂ (fun a b hle hne => lt_of_le_of_ne hle hne) hnodup

/-! ## Attaching -/

theorem attachSection_ok_iff {s : Shared W} {r : Resource} {name : String} {lease : Lease}
    {x : Attachment} : (attachSection r name lease s).1 = some (.ok x) ↔
      ∃ adapter, s.Attaches name lease adapter ∧ (adapter.attach r lease s.world).1 = .ok x := by
  have hrun := attachSection_run r name lease s
  generalize attachSection r name lease s = out at hrun
  cases hrun with
  | poisoned hp =>
      refine iff_of_false nofun ?_
      rintro ⟨adapter, hattaches, -⟩
      rw [hattaches.poisoned] at hp
      cases hp
  | unauthorized _ hnot =>
      refine iff_of_false nofun ?_
      rintro ⟨adapter, hattaches, -⟩
      exact hnot hattaches.honours
  | unknown _ _ hunknown =>
      refine iff_of_false nofun ?_
      rintro ⟨adapter, hattaches, -⟩
      rw [hattaches.adapter] at hunknown
      cases hunknown
  | failed hattaches herror =>
      refine iff_of_false nofun ?_
      rintro ⟨adapter, hattaches', hok⟩
      obtain rfl := Option.some.inj (hattaches.adapter.symm.trans hattaches'.adapter)
      rw [herror] at hok
      cases hok
  | attached hattaches hattached =>
      constructor
      · intro h
        obtain rfl := Except.ok.inj (Option.some.inj h)
        exact ⟨_, hattaches, hattached⟩
      · rintro ⟨adapter, hattaches', hok⟩
        obtain rfl := Option.some.inj (hattaches.adapter.symm.trans hattaches'.adapter)
        rw [hattached] at hok
        exact congrArg some hok

/-- A request to attach is answered with an attachment exactly when `attach` returns it. -/
theorem dispatch_attach_iff {s : Shared W} (order : IterOrder) {name : String} {lease : Lease}
    {x : Attachment} :
    ((dispatch order (.attach name lease)).run Section.act s).1 = some (.attached x) ↔
      ((attach name lease).run Section.act s).1 = some (.ok x) := by
  change (((attach name lease : Call W _).bind fun result =>
    Prog.done (RpcResponse.ofResult .attached result)).run Section.act s).1 = _ ↔ _
  rcases hrun : (attach name lease).run Section.act s with ⟨_ | ⟨e | y⟩, s'⟩
  · rw [Prog.run_bind_none hrun]
    exact iff_of_false nofun nofun
  · rw [Prog.run_bind_some hrun]
    exact iff_of_false nofun nofun
  · rw [Prog.run_bind_some hrun]
    constructor
    · intro h
      obtain rfl := RpcResponse.attached.inj (Option.some.inj h)
      rfl
    · intro h
      obtain rfl := Except.ok.inj (Option.some.inj h)
      rfl

/-- In every run of an agent, a request to attach is answered with an attachment exactly when its
lease is honoured and the adapter that it names, one of those that the agent started with, grants
the attachment on the resource of the lease, as that was found on the host. -/
theorem attach_answer {host : LocalHost F N} (hplain : host.PlainHost) {node : String}
    {adapters : List (ResourceAdapter W)} (hnames : (adapters.map ResourceAdapter.name).Nodup)
    {c : Config (@Section.Reply W) (Shared W) Unit}
    (h : (serving (Started host node adapters)).Reachable c) (order : IterOrder) :
    ∃ resources, host.found node host.nodeForResources = some resources ∧ ∀ name lease x,
      ((dispatch order (.attach name lease)).run Section.act c.state).1 = some (.attached x) ↔
        c.state.fabric.leases.poisoned = false ∧ c.state.Honours lease ∧
          ∃ r ∈ resources ++ [virtualGpu node], r.id = lease.resourceId ∧
            ∃ a ∈ adapters, a.name = name ∧ (a.attach r lease c.state.world).1 = .ok x := by
  obtain ⟨s₀, hs₀, hsame⟩ := serving_registries h
  obtain ⟨resources, hfound, hregistered⟩ := getElem?_started hplain hs₀
  have hadapters := adapters_started hnames hs₀
  refine ⟨resources, hfound, ?_⟩
  intro name lease x
  rw [dispatch_attach_iff, attach_run, hsame.resources]
  constructor
  · intro hok
    rcases hget : s₀.fabric.resources[lease.resourceId]? with _ | r
    · rw [hget] at hok
      cases hok
    · rw [hget] at hok
      obtain ⟨a, hattaches, hattached⟩ := attachSection_ok_iff.mp hok
      obtain ⟨hr, hid⟩ := (hregistered _ r).mp hget
      have hadapter := hattaches.adapter
      rw [hsame.adapters] at hadapter
      obtain ⟨ha, hname⟩ := (hadapters name a).mp hadapter
      exact ⟨hattaches.poisoned, hattaches.honours, r, hr, hid, a, ha, hname, hattached⟩
  · rintro ⟨hpoisoned, hhonours, r, hr, hid, a, ha, hname, hattached⟩
    rw [(hregistered _ r).mpr ⟨hr, hid⟩]
    have hadapter : c.state.fabric.adapters[name]? = some a := by
      rw [hsame.adapters]
      exact (hadapters name a).mpr ⟨ha, hname⟩
    exact attachSection_ok_iff.mpr ⟨a, ⟨hpoisoned, hhonours, hadapter⟩, hattached⟩

theorem agentAdapters_distinct (host : AgentHost V) :
    ((agentAdapters host).map ResourceAdapter.name).Nodup := by
  have hnames : (agentAdapters host).map ResourceAdapter.name =
      ["local-proof", "fabric-store", "gpu-wgpu-remote", "memory-research", "rdma"] := rfl
  rw [hnames]
  decide

namespace AgentScenario

open LocalHost.Samples Scenario

/-- What the adapters see of `rig`. -/
def rigAgent : AgentHost Unit where
  store := Store.Samples.roomyHost
  rdma _ := ⟨rig.drm.sys, rig.tools⟩
  research _ := noResearch
  wgpu := false

/-- An agent on `rig`, before the first request. -/
theorem started_rig : ∃ s, Started rig "local" (agentAdapters rigAgent) s ∧
    s.fabric.leases = ⟨∅, false⟩ ∧ s.fabric.nextLeaseId = 0 ∧ s.now = 0 ∧
    s.overflowChecks = false := by
  obtain ⟨resources, hfound⟩ := found_rig "local" rig.nodeForResources
  have hdiscover : rig.discoverLocal "local" =
      some (NautiFabric.discoverLocal resources : Call (Store.StoreWorld Unit) _) :=
    Option.map_eq_some_iff.mpr ⟨resources, hfound, rfl⟩
  obtain ⟨call, hcall⟩ : ∃ call, agentStart rig "local" (agentAdapters rigAgent) = some call :=
    ⟨_, Option.map_eq_some_iff.mpr ⟨_, hdiscover, rfl⟩⟩
  obtain ⟨resources, -, hends⟩ := agentStart_run hcall
  exact ⟨_, ⟨Store.Samples.empty, call, ⟨rfl, rfl⟩, hcall, hends _⟩, rfl, rfl, rfl, rfl⟩

/-- The virtual GPU may be leased then. -/
theorem grantable_rig : ∃ s, Started rig "local" (agentAdapters rigAgent) s ∧
    s.fabric.resources["gpu.virtual.0"]? = some (virtualGpu "local") ∧
    s.WouldGrant "gpu.virtual.0" (.fromSecs 30) ∧ s.fabric.nextLeaseId = 0 ∧ s.now = 0 := by
  obtain ⟨s, hs, hleases, hnext, hnow, hchecks⟩ := started_rig
  obtain ⟨resources, -, hregistered⟩ := getElem?_started plainHost_rig hs
  refine ⟨s, hs, (hregistered _ _).mpr ⟨List.mem_append_right _ List.mem_cons_self, rfl⟩, ?_,
    hnext, hnow⟩
  constructor
  · rw [hleases]
  · rw [hleases]
    exact Std.ExtTreeMap.not_mem_empty
  · unfold Shared.idOverflows
    rw [hchecks]
    rfl
  · rw [hnow]
    decide

def gpuLease : Lease := ⟨1, "gpu.virtual.0", "mission-a"⟩

/-- A controller has leased the virtual GPU. -/
theorem leased_rig : ∃ s, (serving (Started rig "local" (agentAdapters rigAgent))).Reachable
    ⟨s, []⟩ ∧ s.fabric.leases.poisoned = false ∧ s.Honours gpuLease := by
  obtain ⟨s, hs, hget, hgrant, hnext, hnow⟩ := grantable_rig
  obtain ⟨-, hval, -⟩ := leaseExclusive_of_wouldGrant hgrant "mission-a"
  let s' := (leaseExclusiveSection "gpu.virtual.0" "mission-a" (.fromSecs 30) s).2
  let request : RpcRequest := .leaseExclusive "gpu.virtual.0" "mission-a" 30
  have hrun : ((dispatch .sorted request).ignore.run Section.act s).2 = s' := by
    refine (Prog.run_bind_done Section.act _ _ s).trans ?_
    refine (Prog.run_bind_done Section.act
      (leaseExclusive "gpu.virtual.0" "mission-a" (.fromSecs 30)) _ s).trans ?_
    rw [leaseExclusive_run, hget]
    rfl
  have hreachable : (serving (Started rig "local" (agentAdapters rigAgent))).SeqReachable s' := by
    rw [← hrun]
    exact (System.SeqReachable.init _ hs).step
      (.call _ ⟨.sorted, request, rfl⟩ (Prog.guarded_of_forall (fun _ _ => trivial) _ s))
  have hadd : s.now.add (.fromSecs 30) = some (s.now + Duration.fromSecs 30) :=
    add_eq_some.mpr ⟨hgrant.inRange, rfl⟩
  have hsame : s'.now = s.now ∧ s'.fabric.leases.poisoned = false := by
    simp [s', leaseExclusiveSection, withLeases, hgrant.poisoned, hgrant.free, hgrant.ids, hadd,
      Shared.setLeases, Shared.emit]
  refine ⟨s', hreachable.reachable, hsame.2, ⟨gpuLease, s.now + Duration.fromSecs 30⟩, ?_, ?_⟩
  · unfold Shared.recorded?
    rw [hval, gpuLease, Table.getElem?_insert, if_pos rfl, hnext]
    rfl
  · rw [hsame.1, hnow]
    decide

end AgentScenario

open LocalHost.Samples AgentScenario in
theorem inventory_answer_rig : ∃ (s : Shared (Store.StoreWorld Unit))
    (resources listed : List Resource),
    (serving (Started rig "local" (agentAdapters rigAgent))).Reachable ⟨s, []⟩ ∧
      s.Honours gpuLease ∧ rig.found "local" rig.nodeForResources = some resources ∧
      (dispatch .sorted .inventory).run Section.act s = (some (.inventory listed), s) ∧
      listed.Perm (resources ++ [virtualGpu "local"]) := by
  obtain ⟨s, hreachable, -, hhonours⟩ := leased_rig
  obtain ⟨resources, listed, hfound, hrun, hperm, -⟩ :=
    inventory_answer plainHost_rig hreachable .sorted
  exact ⟨s, resources, listed, hreachable, hhonours, hfound, hrun, hperm⟩

open LocalHost.Samples AgentScenario in
theorem attach_answer_rig : ∃ s : Shared (Store.StoreWorld Unit),
    (serving (Started rig "local" (agentAdapters rigAgent))).Reachable ⟨s, []⟩ ∧
      ((dispatch .sorted (.attach "local-proof" gpuLease)).run Section.act s).1 =
        some (.attached ⟨"gpu.virtual.0", 1, "local-proof", ∅⟩) := by
  obtain ⟨s, hreachable, hpoisoned, hhonours⟩ := leased_rig
  obtain ⟨resources, -, hanswer⟩ := attach_answer plainHost_rig (agentAdapters_distinct rigAgent)
    hreachable .sorted
  refine ⟨s, hreachable, (hanswer _ _ _).mpr ⟨hpoisoned, hhonours, virtualGpu "local", ?_, rfl,
    localProofAdapter, List.mem_cons_self, rfl, rfl⟩⟩
  exact List.mem_append_right _ List.mem_cons_self

end NautiFabric
