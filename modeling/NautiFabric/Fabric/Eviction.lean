import NautiFabric.Fabric.Registry
import NautiFabric.Lib.Table

/-!
# NautiFabric.Fabric.Eviction — sweeps of stale nodes

`evict_stale_nodes` takes the heartbeats of stale nodes out of the table and
then unregisters what these nodes own, one resource after the other; a resource
with a lease entry stays. `evictStaleNodes_run` says what one sweep does from
any state.

The second part is about what stays: the sweep forgets the node in the same
step in which it skips its leased resources, so no later sweep comes back for
them.
-/

namespace NautiFabric

open Interleave

variable {W : Type}

/-! ## Unregistering, one call at a time -/

/-- The state without the resources `ids`, except for those with a lease entry. -/
def Shared.dropFree (s : Shared W) (ids : List String) : Shared W :=
  { s with
      fabric.resources := s.fabric.resources.filter fun id _ =>
        decide (id ∈ ids → id ∈ s.fabric.leases.val) }

theorem getElem?_dropFree (s : Shared W) (ids : List String) (id : String) :
    (s.dropFree ids).fabric.resources[id]? =
      if id ∈ ids ∧ id ∉ s.fabric.leases.val then none else s.fabric.resources[id]? := by
  have hkeep := Table.getElem?_keep
    (fun id => decide (id ∈ ids → id ∈ s.fabric.leases.val)) s.fabric.resources id
  refine hkeep.trans ?_
  by_cases hid : id ∈ ids
  · by_cases hleased : id ∈ s.fabric.leases.val
    · simp [hid, hleased]
    · simp [hid, hleased]
  · simp [hid]

/-- Two states that hold the same resources and agree in everything else are equal. -/
theorem Shared.ext_resources {s s' : Shared W}
    (h : ∀ id : String, s'.fabric.resources[id]? = s.fabric.resources[id]?)
    (hrest : s' = { s with fabric.resources := s'.fabric.resources }) : s' = s := by
  have hres : s'.fabric.resources = s.fabric.resources := Std.ExtTreeMap.ext_getElem? h
  rw [hrest, hres]

theorem dropFree_of_forall {s : Shared W} {ids : List String}
    (h : ∀ id ∈ ids, id ∈ s.fabric.leases.val ∨ id ∉ s.fabric.resources) : s.dropFree ids = s := by
  refine Shared.ext_resources (fun id => ?_) rfl
  rw [getElem?_dropFree]
  split
  · rename_i hid
    rcases h id hid.1 with hleased | hgone
    · exact absurd hleased hid.2
    · exact (Std.ExtTreeMap.getElem?_eq_none hgone).symm
  · rfl

@[simp] theorem dropFree_nil (s : Shared W) : s.dropFree [] = s :=
  dropFree_of_forall (by simp)

theorem dropFree_cons_of_leased {s : Shared W} {id : String} (h : id ∈ s.fabric.leases.val)
    (ids : List String) : s.dropFree (id :: ids) = s.dropFree ids := by
  refine Shared.ext_resources (fun k => ?_) rfl
  rw [getElem?_dropFree, getElem?_dropFree]
  by_cases hk : k = id
  · simp [hk, h]
  · simp [hk]

theorem dropFree_cons_of_free {s : Shared W} {id : String} (h : id ∉ s.fabric.leases.val)
    (ids : List String) :
    s.dropFree (id :: ids) =
      Shared.dropFree { s with fabric.resources := s.fabric.resources.erase id } ids := by
  refine Shared.ext_resources (fun k => ?_) rfl
  rw [getElem?_dropFree, getElem?_dropFree]
  dsimp only
  rw [Table.getElem?_erase]
  by_cases hk : id = k
  · simp [← hk, h]
  · have hne : k ≠ id := fun heq => hk heq.symm
    simp [hk, hne]

theorem unregister_run_poisoned {s : Shared W} (hp : s.fabric.leases.poisoned = true)
    (resourceId : String) : (unregister resourceId).run Section.act s = (none, s) := by
  have hcheck : Section.act (.unregisterCheck resourceId) s = (none, s) :=
    withLeases_poisoned hp _
  exact Prog.run_atomic_none hcheck

theorem unregister_run_leased {s : Shared W} {resourceId : String}
    (hp : s.fabric.leases.poisoned = false) (h : resourceId ∈ s.fabric.leases.val) :
    (unregister resourceId).run Section.act s = (some (.error .resourceAlreadyLeased), s) := by
  have hcheck : Section.act (.unregisterCheck resourceId) s =
      (some (.error .resourceAlreadyLeased), s) := by
    simp only [Section.act, unregisterCheckSection, if_pos h, withLeases_some hp]
  exact Prog.run_atomic_some hcheck

theorem unregister_run_free {s : Shared W} {resourceId : String}
    (hp : s.fabric.leases.poisoned = false) (h : resourceId ∉ s.fabric.leases.val) :
    (unregister resourceId).run Section.act s =
      (some (.ok (decide (resourceId ∈ s.fabric.resources))),
        { s with fabric.resources := s.fabric.resources.erase resourceId }) := by
  have hcheck : Section.act (.unregisterCheck resourceId) s = (some (.ok ()), s) := by
    simp only [Section.act, unregisterCheckSection, if_neg h, withLeases_some hp]
  exact Prog.run_atomic_some hcheck

/-- With a sound lease mutex, the loop over `unregister` drops what is not leased. -/
theorem unregisterEach_run {s : Shared W} (hp : s.fabric.leases.poisoned = false)
    (ids : List String) : (unregisterEach ids).run Section.act s = (some (), s.dropFree ids) := by
  induction ids generalizing s with
  | nil => rw [dropFree_nil]; rfl
  | cons id ids ih =>
      by_cases hleased : id ∈ s.fabric.leases.val
      · rw [dropFree_cons_of_leased hleased, ← ih hp]
        exact Prog.run_bind_some (unregister_run_leased hp hleased)
      · rw [dropFree_cons_of_free hleased]
        exact (Prog.run_bind_some (unregister_run_free hp hleased)).trans (ih hp)

theorem unregisterEach_run_poisoned {s : Shared W} (hp : s.fabric.leases.poisoned = true)
    {ids : List String} (hne : ids ≠ []) :
    (unregisterEach ids).run Section.act s = (none, s) := by
  cases ids with
  | nil => exact absurd rfl hne
  | cons id ids => exact Prog.run_bind_none (unregister_run_poisoned hp id)

/-! ## One sweep -/

/-- The last heartbeat of the node is older than `olderThan`. -/
def Shared.Stale (s : Shared W) (olderThan : Duration) (node : String) : Prop :=
  ∃ seen, s.fabric.heartbeats[node]? = some seen ∧ seen < s.now - olderThan

/-- The nodes whose heartbeat a sweep takes out. -/
def Shared.staleNodes (s : Shared W) (cutoff : Instant) (order : IterOrder) : List String :=
  (order.keys s.fabric.heartbeats).filter fun node =>
    (s.fabric.heartbeats[node]?).any (· < cutoff)

/-- What the nodes own, by the registry. -/
def Shared.ownedBy (s : Shared W) (nodes : List String) (order : IterOrder) : List String :=
  (order.keys s.fabric.resources).filter fun id =>
    (s.fabric.resources[id]?).any fun resource => resource.node ∈ nodes

/-- The state without the heartbeats of the nodes. -/
def Shared.forget (s : Shared W) (nodes : List String) : Shared W :=
  { s with
      fabric.heartbeats := nodes.foldl (fun hb node => hb.erase node) s.fabric.heartbeats }

theorem sub_eq_some {t : Instant} {d : Duration} (h : -Instant.limit ≤ t - d) :
    t.sub d = some (t - d) := by
  simp [Instant.sub, h]

theorem mem_staleNodes {s : Shared W} {olderThan : Duration} {order : IterOrder} {node : String} :
    node ∈ s.staleNodes (s.now - olderThan) order ↔ s.Stale olderThan node := by
  rw [Shared.staleNodes, List.mem_filter, IterOrder.mem_keys]
  constructor
  · rintro ⟨-, hold⟩
    simpa [Option.any_eq_true, Shared.Stale] using hold
  · rintro ⟨seen, hseen, hlt⟩
    refine ⟨StringMap.mem_of_getElem? hseen, ?_⟩
    simpa [hseen] using hlt

theorem mem_ownedBy {s : Shared W} {nodes : List String} {order : IterOrder} {id : String} :
    id ∈ s.ownedBy nodes order ↔ ∃ r, s.fabric.resources[id]? = some r ∧ r.node ∈ nodes := by
  rw [Shared.ownedBy, List.mem_filter, IterOrder.mem_keys]
  constructor
  · rintro ⟨-, howned⟩
    simpa [Option.any_eq_true] using howned
  · rintro ⟨r, hr, hnode⟩
    refine ⟨StringMap.mem_of_getElem? hr, ?_⟩
    simpa [hr] using hnode

theorem getElem?_forget (s : Shared W) (nodes : List String) (node : String) :
    (s.forget nodes).fabric.heartbeats[node]? =
      if node ∈ nodes then none else s.fabric.heartbeats[node]? :=
  Table.getElem?_foldl_erase nodes s.fabric.heartbeats node

/-- A sweep from any state. It panics on a poisoned lease mutex as soon as there
is a resource to unregister; the heartbeats are gone by then. -/
theorem evictStaleNodes_run {olderThan : Duration} {s : Shared W}
    (hrange : -Instant.limit ≤ s.now - olderThan) (nodeOrder idOrder : IterOrder) :
    (evictStaleNodes olderThan nodeOrder idOrder).run Section.act s =
      let stale := s.staleNodes (s.now - olderThan) nodeOrder
      let owned := s.ownedBy stale idOrder
      if s.fabric.leases.poisoned = true ∧ owned ≠ [] then (none, s.forget stale)
      else (some stale, (s.forget stale).dropFree owned) := by
  have hcutoff : Section.act (.cutoff olderThan) s = (some (s.now - olderThan), s) :=
    congrArg (·, s) (sub_eq_some hrange)
  rw [evictStaleNodes, atomically, Prog.perform_bind, Prog.run_atomic_some hcutoff]
  dsimp only
  generalize hstale : s.staleNodes (s.now - olderThan) nodeOrder = stale
  have hevict : Section.act (.evictStale (s.now - olderThan) nodeOrder) s =
      (some stale, s.forget stale) := by
    rw [← hstale]
    rfl
  rw [atomically, Prog.perform_bind, Prog.run_atomic_some hevict]
  by_cases hempty : stale = []
  · -- nothing is stale, and nothing is owned by no node
    have howned : s.ownedBy [] idOrder = [] := by
      rw [List.eq_nil_iff_forall_not_mem]
      intro id hid
      obtain ⟨r, -, hmem⟩ := mem_ownedBy.mp hid
      exact absurd hmem (by simp)
    subst hempty
    rw [howned, dropFree_nil, if_pos List.isEmpty_nil, if_neg (by simp)]
    rfl
  · have hloop : stale.isEmpty = false := by simpa using hempty
    rw [hloop, if_neg Bool.false_ne_true]
    have howned : Section.act (.evictOwned stale idOrder) (s.forget stale) =
        (some (s.ownedBy stale idOrder), s.forget stale) := rfl
    rw [atomically, Prog.perform_bind, Prog.run_atomic_some howned]
    generalize s.ownedBy stale idOrder = owned
    rcases Bool.eq_false_or_eq_true s.fabric.leases.poisoned with hp | hp
    · by_cases hnil : owned = []
      · subst hnil
        rw [dropFree_nil, if_neg (by simp)]
        rfl
      · rw [if_pos ⟨hp, hnil⟩]
        have hp' : (s.forget stale).fabric.leases.poisoned = true := hp
        exact Prog.run_bind_none (unregisterEach_run_poisoned hp' hnil)
    · rw [if_neg (by simp [hp])]
      have hp' : (s.forget stale).fabric.leases.poisoned = false := hp
      exact Prog.run_bind_some (unregisterEach_run hp' owned)

/-! ## The exact effect of a sweep -/

/-- The resource belongs to a stale node and has no lease entry. -/
def Shared.Evictable (s : Shared W) (olderThan : Duration) (id : String) : Prop :=
  (∃ r, s.fabric.resources[id]? = some r ∧ s.Stale olderThan r.node) ∧ id ∉ s.fabric.leases.val

/-- The sweep returned each stale node once, took out their heartbeats and those
of their resources that have no lease entry, and left everything else alone. -/
structure EvictsExactly (olderThan : Duration) (s : Shared W)
    (outcome : Option (List String) × Shared W) : Prop where
  nodes : ∃ nodes, outcome.1 = some nodes ∧ nodes.Nodup ∧
    ∀ node, node ∈ nodes ↔ s.Stale olderThan node
  forgotten : ∀ node, s.Stale olderThan node → outcome.2.fabric.heartbeats[node]? = none
  remembered : ∀ node : String, ¬ s.Stale olderThan node →
    outcome.2.fabric.heartbeats[node]? = s.fabric.heartbeats[node]?
  removed : ∀ id, s.Evictable olderThan id → outcome.2.fabric.resources[id]? = none
  kept : ∀ id : String, ¬ s.Evictable olderThan id →
    outcome.2.fabric.resources[id]? = s.fabric.resources[id]?
  leases : outcome.2.fabric.leases = s.fabric.leases
  attachments : outcome.2.fabric.attachments = s.fabric.attachments
  nextLeaseId : outcome.2.fabric.nextLeaseId = s.fabric.nextLeaseId

theorem nodup_staleNodes (s : Shared W) (cutoff : Instant) (order : IterOrder) :
    (s.staleNodes cutoff order).Nodup := by
  have hkeys : (order.keys s.fabric.heartbeats).Nodup :=
    (order.perm _).nodup_iff.mpr Std.ExtTreeMap.nodup_keys
  exact hkeys.filter _

/-- A sweep that gets through has its exact effect. -/
theorem evictsExactly_dropFree (olderThan : Duration) (s : Shared W)
    (nodeOrder idOrder : IterOrder) :
    EvictsExactly olderThan s
      (some (s.staleNodes (s.now - olderThan) nodeOrder),
        (s.forget (s.staleNodes (s.now - olderThan) nodeOrder)).dropFree
          (s.ownedBy (s.staleNodes (s.now - olderThan) nodeOrder) idOrder)) := by
  have howned : ∀ id, s.Evictable olderThan id ↔
      id ∈ s.ownedBy (s.staleNodes (s.now - olderThan) nodeOrder) idOrder ∧
        id ∉ s.fabric.leases.val := by
    intro id
    rw [mem_ownedBy]
    simp only [mem_staleNodes]
    rfl
  -- the sweep forgets the nodes first, and then drops what they own and nobody leases
  constructor
  case nodes => exact ⟨_, rfl, nodup_staleNodes s _ _, fun node => mem_staleNodes⟩
  case forgotten =>
    intro node hstale
    have hget := getElem?_forget s (s.staleNodes (s.now - olderThan) nodeOrder) node
    rwa [if_pos (mem_staleNodes.mpr hstale)] at hget
  case remembered =>
    intro node hfresh
    have hget := getElem?_forget s (s.staleNodes (s.now - olderThan) nodeOrder) node
    rwa [if_neg (fun h => hfresh (mem_staleNodes.mp h))] at hget
  case removed =>
    intro id hid
    have hget := getElem?_dropFree (s.forget (s.staleNodes (s.now - olderThan) nodeOrder))
      (s.ownedBy (s.staleNodes (s.now - olderThan) nodeOrder) idOrder) id
    exact hget.trans (if_pos ((howned id).mp hid))
  case kept =>
    intro id hid
    have hget := getElem?_dropFree (s.forget (s.staleNodes (s.now - olderThan) nodeOrder))
      (s.ownedBy (s.staleNodes (s.now - olderThan) nodeOrder) idOrder) id
    exact hget.trans (if_neg (fun h => hid ((howned id).mpr h)))
  case leases => rfl
  case attachments => rfl
  case nextLeaseId => rfl

/-- A sweep has its exact effect, unless an earlier panic has poisoned the lease
mutex and a stale node owns a resource: that sweep panics too. -/
theorem evictStaleNodes_exact_iff {olderThan : Duration} {s : Shared W}
    (hrange : -Instant.limit ≤ s.now - olderThan) (nodeOrder idOrder : IterOrder) :
    EvictsExactly olderThan s
        ((evictStaleNodes olderThan nodeOrder idOrder).run Section.act s) ↔
      (s.fabric.leases.poisoned = true → ∀ (id : String) (r : Resource),
        s.fabric.resources[id]? = some r → ¬ s.Stale olderThan r.node) := by
  rw [evictStaleNodes_run hrange]
  dsimp only
  constructor
  · intro hexact hp id r hr hstale
    have hmem : id ∈ s.ownedBy (s.staleNodes (s.now - olderThan) nodeOrder) idOrder :=
      mem_ownedBy.mpr ⟨r, hr, mem_staleNodes.mpr hstale⟩
    rw [if_pos ⟨hp, List.ne_nil_of_mem hmem⟩] at hexact
    obtain ⟨nodes, hnone, -⟩ := hexact.nodes
    cases hnone
  · intro hnone
    rw [if_neg]
    · exact evictsExactly_dropFree olderThan s nodeOrder idOrder
    · rintro ⟨hp, hne⟩
      obtain ⟨id, hid⟩ := List.exists_mem_of_ne_nil _ hne
      obtain ⟨r, hr, hnode⟩ := mem_ownedBy.mp hid
      exact hnone hp id r hr (mem_staleNodes.mp hnode)

namespace Scenario

/-- The device's node beats once, and the device is leased for `ttl`; then 20 ns pass. -/
def beatAndLease (ttl : Duration) : Schedule Unit :=
  [.invoke (Op.register device).call, .invoke (Op.heartbeat "node.0").call,
   .invoke (Op.leaseExclusive "device.0" "mission-a" ttl).call, .env (wait 20)]

/-- The device's node beats once; then 20 ns pass. -/
def beat : Schedule Unit :=
  [.invoke (Op.register device).call, .invoke (Op.heartbeat "node.0").call, .env (wait 20)]

theorem seqReachable_beatAndLease (ttl : Duration) :
    (fabricSystem anySection).SeqReachable (afterCalls (start ()) (beatAndLease ttl)) := by
  refine seqReachable_afterCalls (System.seqSchedule_of_admits (fun _ _ => trivial) ?_ _)
  exact ⟨⟨.register device, rfl⟩, ⟨.heartbeat "node.0", rfl⟩,
    ⟨.leaseExclusive "device.0" "mission-a" ttl, rfl⟩, elapse_wait 20, trivial⟩

/-- A TTL that leaves the range of the clock, in nanoseconds. -/
def forever : Duration := 2 ^ 63 * nanosPerSec

end Scenario

open Scenario in
theorem evictStaleNodes_exact_beat :
    EvictsExactly 10 (afterCalls (start ()) beat)
      ((evictStaleNodes 10 .sorted .sorted).run Section.act (afterCalls (start ()) beat)) := by
  have hrange : -Instant.limit ≤ (afterCalls (start ()) beat).now - (10 : Duration) := by
    decide +kernel
  have hp : (afterCalls (start ()) beat).fabric.leases.poisoned = false := by decide +kernel
  refine (evictStaleNodes_exact_iff hrange .sorted .sorted).mpr ?_
  intro hpoisoned
  rw [hp] at hpoisoned
  cases hpoisoned

open Scenario in
/-- After a panic under the lease guard, a sweep that has a resource to remove
panics instead of returning. -/
theorem sweep_panics :
    ¬ ∀ s : Shared Unit, (fabricSystem anySection).SeqReachable s → ∀ olderThan : Duration,
      -Instant.limit ≤ s.now - olderThan → ∀ nodeOrder idOrder,
        EvictsExactly olderThan s
          ((evictStaleNodes olderThan nodeOrder idOrder).run Section.act s) := by
  intro h
  have hrange : -Instant.limit ≤ (afterCalls (start ()) (beatAndLease forever)).now -
      (10 : Duration) := by decide +kernel
  have hexact := h _ (seqReachable_beatAndLease forever) 10 hrange .sorted .sorted
  obtain ⟨nodes, hreturned, -⟩ := hexact.nodes
  have hpanic : ((evictStaleNodes 10 .sorted .sorted).run Section.act
      (afterCalls (start ()) (beatAndLease forever))).1 = none := by decide +kernel
  rw [hpanic] at hreturned
  cases hreturned

/-! ## What a sweep leaves behind -/

/-- The resource `id` is registered, and belongs to the node. -/
def Shared.Owns (s : Shared W) (node id : String) : Prop :=
  ∃ r, s.fabric.resources[id]? = some r ∧ r.node = node

/-- No lease on a resource of the node is unexpired. -/
def Shared.Unleased (s : Shared W) (node : String) : Prop :=
  ∀ (id : String) (active : ActiveLease), s.Owns node id →
    s.fabric.leases.val[id]? = some active → active.expiresAt ≤ s.now

/-- The node stays away: no heartbeat of it, and no registration of a resource of it. -/
def AwayGuard (node : String) : Section W → Shared W → Prop
  | .heartbeat other, _ => other ≠ node
  | .register r, _ => r.node ≠ node
  | _, _ => True

/-- In every sequential run from here in which the node stays away, no sweep that
finds its resources unleased leaves one of them behind. -/
def Reclaims (s : Shared W) (node : String) : Prop :=
  ∀ s', Relation.ReflTransGen (fabricSystem (AwayGuard node)).SeqStep s s' → s'.Unleased node →
    ∀ (olderThan : Duration) (nodeOrder idOrder : IterOrder) (id : String),
      ¬ ((evictStaleNodes olderThan nodeOrder idOrder).run Section.act s').2.Owns node id

theorem evictStaleNodes_run_outOfRange {olderThan : Duration} {s : Shared W}
    (h : ¬ -Instant.limit ≤ s.now - olderThan) (nodeOrder idOrder : IterOrder) :
    (evictStaleNodes olderThan nodeOrder idOrder).run Section.act s = (none, s) := by
  have hcutoff : Section.act (.cutoff olderThan) s = (none, s) := by
    simp [Section.act, cutoffSection, Instant.sub, h]
  exact Prog.run_atomic_none hcutoff

/-- A sweep registers nothing. -/
theorem owns_of_owns_evict {olderThan : Duration} {nodeOrder idOrder : IterOrder} {s : Shared W}
    {node id : String}
    (h : ((evictStaleNodes olderThan nodeOrder idOrder).run Section.act s).2.Owns node id) :
    s.Owns node id := by
  by_cases hrange : -Instant.limit ≤ s.now - olderThan
  · rw [evictStaleNodes_run hrange] at h
    dsimp only at h
    split at h
    · exact h
    · obtain ⟨r, hr, hnode⟩ := h
      rw [getElem?_dropFree] at hr
      split at hr
      · cases hr
      · exact ⟨r, hr, hnode⟩
  · rw [evictStaleNodes_run_outOfRange hrange] at h
    exact h

/-- A sweep leaves a resource alone whose node is not stale, which has a lease
entry, or which it does not come to because it panics. -/
theorem owns_evict {olderThan : Duration} {s : Shared W} {node id : String} (h : s.Owns node id)
    (hkept : ¬ s.Stale olderThan node ∨ id ∈ s.fabric.leases.val ∨
      s.fabric.leases.poisoned = true) (nodeOrder idOrder : IterOrder) :
    ((evictStaleNodes olderThan nodeOrder idOrder).run Section.act s).2.Owns node id := by
  obtain ⟨r, hr, hnode⟩ := h
  by_cases hrange : -Instant.limit ≤ s.now - olderThan
  · rw [evictStaleNodes_run hrange]
    dsimp only
    split
    · exact ⟨r, hr, hnode⟩
    · rename_i hthrough
      refine ⟨r, ?_, hnode⟩
      rw [getElem?_dropFree, if_neg]
      · exact hr
      · rintro ⟨hmem, hfree⟩
        obtain ⟨r', hr', hstale⟩ := mem_ownedBy.mp hmem
        obtain rfl : r = r' := Option.some.inj (hr.symm.trans hr')
        rcases hkept with hfresh | hleased | hp
        · exact hfresh (hnode ▸ mem_staleNodes.mp hstale)
        · exact hfree hleased
        · exact hthrough ⟨hp, List.ne_nil_of_mem hmem⟩
  · rw [evictStaleNodes_run_outOfRange hrange]
    exact ⟨r, hr, hnode⟩

/-- While the node stays away, it comes to own nothing. -/
theorem owns_of_owns_act {sec : Section W} {s : Shared W} {node id : String}
    (hg : AwayGuard node sec s) (h : (sec.act s).2.Owns node id) : s.Owns node id := by
  obtain ⟨r, hr, hnode⟩ := h
  by_cases hw : sec.writes
  · cases sec with
    | register r₀ =>
        have hr : (s.fabric.resources.insert r₀.id r₀)[id]? = some r := hr
        rw [Table.getElem?_insert] at hr
        split at hr
        · obtain rfl : r₀ = r := Option.some.inj hr
          exact absurd hnode hg
        · exact ⟨r, hr, hnode⟩
    | unregisterRemove resourceId =>
        have hr : (s.fabric.resources.erase resourceId)[id]? = some r := hr
        rw [Table.getElem?_erase] at hr
        split at hr
        · cases hr
        · exact ⟨r, hr, hnode⟩
    | registerAdapter => exact ⟨r, hr, hnode⟩
    | heartbeat => exact ⟨r, hr, hnode⟩
    | evictStale => exact ⟨r, hr, hnode⟩
    | _ => exact hw.elim
  · rw [(act_frame sec hw s).resources] at hr
    exact ⟨r, hr, hnode⟩

theorem owns_of_seqSteps {s s' : Shared W} {node : String}
    (h : Relation.ReflTransGen (fabricSystem (AwayGuard node)).SeqStep s s') (id : String) :
    s'.Owns node id → s.Owns node id := by
  have hback := System.rel_of_steps (fun s s' : Shared W => ∀ id, s'.Owns node id → s.Owns node id)
    (fun _ _ h => h) (fun _ _ _ h₁ h₂ id h => h₁ id (h₂ id h))
    (fun _ _ hg _ h => owns_of_owns_act hg h) ?_ (System.steps_of_seqSteps h)
  · exact hback id
  · intro s s' he id howns
    rw [he.2] at howns
    exact howns

/-- A node that owns nothing and stays away is reclaimed. -/
theorem reclaims_of_not_owns {s : Shared W} {node : String} (h : ∀ id, ¬ s.Owns node id) :
    Reclaims s node := by
  intro s' hrun _ olderThan nodeOrder idOrder id howns
  exact h id (owns_of_seqSteps hrun id (owns_of_owns_evict howns))

/-- At some later moment every lease has expired. -/
theorem exists_all_expired (s : Shared W) :
    ∃ t, s.now ≤ t ∧ ∀ (id : String) (active : ActiveLease),
      s.fabric.leases.val[id]? = some active → active.expiresAt ≤ t := by
  obtain ⟨t, ht⟩ :=
    ((s.fabric.leases.val.toList.map fun entry => entry.2.expiresAt).toFinset).exists_le
  refine ⟨max s.now t, le_max_left _ _, fun id active hactive => ?_⟩
  have hmem : (id, active) ∈ s.fabric.leases.val.toList :=
    Std.ExtTreeMap.mem_toList_iff_getElem?_eq_some.mpr hactive
  have hle : active.expiresAt ≤ t :=
    ht _ (List.mem_toFinset.mpr (List.mem_map_of_mem hmem))
  exact hle.trans (le_max_right _ _)

/-- No sweep comes back for what a node without a heartbeat owns. -/
theorem not_reclaims {s : Shared W} {node id : String} (howns : s.Owns node id)
    (hforgotten : s.fabric.heartbeats[node]? = none) : ¬ Reclaims s node := by
  intro hreclaims
  obtain ⟨t, hle, hexpired⟩ := exists_all_expired s
  -- wait until every lease has expired, and sweep again
  have hwait : Relation.ReflTransGen (fabricSystem (AwayGuard node)).SeqStep s
      { s with now := t } := .single (.env ⟨hle, rfl⟩)
  have hunleased : Shared.Unleased { s with now := t } node :=
    fun id active _ hactive => hexpired id active hactive
  have hfresh : ¬ Shared.Stale { s with now := t } 0 node := by
    rintro ⟨seen, hseen, -⟩
    have hnone : s.fabric.heartbeats[node]? = some seen := hseen
    rw [hforgotten] at hnone
    cases hnone
  have hleft : Shared.Owns ((evictStaleNodes 0 .sorted .sorted).run Section.act
      { s with now := t }).2 node id :=
    owns_evict (s := { s with now := t }) howns (Or.inl hfresh) _ _
  exact hreclaims _ hwait hunleased 0 .sorted .sorted id hleft

theorem forgotten_evict {olderThan : Duration} {s : Shared W} {node : String}
    (hrange : -Instant.limit ≤ s.now - olderThan) (hstale : s.Stale olderThan node)
    (nodeOrder idOrder : IterOrder) :
    ((evictStaleNodes olderThan nodeOrder idOrder).run
      Section.act s).2.fabric.heartbeats[node]? = none := by
  have hget := getElem?_forget s (s.staleNodes (s.now - olderThan) nodeOrder) node
  rw [if_pos (mem_staleNodes.mpr hstale)] at hget
  rw [evictStaleNodes_run hrange]
  dsimp only
  split
  · exact hget
  · exact hget

/-- What an evicted node owned is reclaimed exactly when the sweep that evicted
it found no lease entry on any of it, and the lease mutex sound. -/
theorem evicted_reclaimed_iff {olderThan : Duration} {s : Shared W} {node : String}
    (hrange : -Instant.limit ≤ s.now - olderThan) (hstale : s.Stale olderThan node)
    (nodeOrder idOrder : IterOrder) :
    Reclaims ((evictStaleNodes olderThan nodeOrder idOrder).run Section.act s).2 node ↔
      ∀ id, s.Owns node id →
        s.fabric.leases.poisoned = false ∧ id ∉ s.fabric.leases.val := by
  have hforgotten := forgotten_evict hrange hstale nodeOrder idOrder
  constructor
  · intro hreclaims id howns
    by_contra hleft
    have hkept : id ∈ s.fabric.leases.val ∨ s.fabric.leases.poisoned = true := by
      by_contra hnot
      rw [not_or, Bool.not_eq_true] at hnot
      exact hleft ⟨hnot.2, hnot.1⟩
    exact not_reclaims (owns_evict howns (Or.inr hkept) nodeOrder idOrder) hforgotten hreclaims
  · intro hfree
    refine reclaims_of_not_owns ?_
    intro id howns
    -- a sweep gives nothing to a node, so it was owned before, and was dropped
    have howned : s.Owns node id := owns_of_owns_evict howns
    obtain ⟨hp, hid⟩ := hfree id howned
    obtain ⟨r, hr, rfl⟩ := howned
    have hexact := evictsExactly_dropFree olderThan s nodeOrder idOrder
    have hgone := hexact.removed id ⟨⟨r, hr, hstale⟩, hid⟩
    rw [evictStaleNodes_run hrange] at howns
    dsimp only at howns
    rw [if_neg (by simp [hp])] at howns
    obtain ⟨r', hr', -⟩ := howns
    rw [hgone] at hr'
    cases hr'

open Scenario in
theorem evicted_reclaimed_beat :
    Reclaims ((evictStaleNodes 10 .sorted .sorted).run Section.act
      (afterCalls (start ()) beat)).2 "node.0" := by
  have hrange : -Instant.limit ≤ (afterCalls (start ()) beat).now - (10 : Duration) := by
    decide +kernel
  have hstale : (afterCalls (start ()) beat).Stale 10 "node.0" :=
    ⟨0, by decide +kernel, by decide +kernel⟩
  refine (evicted_reclaimed_iff hrange hstale .sorted .sorted).mpr ?_
  intro id _
  have hleases : (afterCalls (start ()) beat).fabric.leases = ⟨∅, false⟩ := by
    with_unfolding_all rfl
  rw [hleases]
  exact ⟨rfl, by simp⟩

open Scenario in
/-- A resource that was leased when its node was evicted is never reclaimed. -/
theorem leased_never_reclaimed :
    ¬ ∀ s : Shared Unit, (fabricSystem anySection).SeqReachable s →
      ∀ (olderThan : Duration) (node : String), -Instant.limit ≤ s.now - olderThan →
        s.Stale olderThan node → ∀ nodeOrder idOrder,
          Reclaims ((evictStaleNodes olderThan nodeOrder idOrder).run Section.act s).2 node := by
  intro h
  have hrange : -Instant.limit ≤ (afterCalls (start ()) (beatAndLease 30)).now -
      (10 : Duration) := by decide +kernel
  have hstale : (afterCalls (start ()) (beatAndLease 30)).Stale 10 "node.0" :=
    ⟨0, by decide +kernel, by decide +kernel⟩
  have howns : (afterCalls (start ()) (beatAndLease 30)).Owns "node.0" "device.0" :=
    ⟨device, by decide +kernel, rfl⟩
  have hleased : "device.0" ∈ (afterCalls (start ()) (beatAndLease 30)).fabric.leases.val := by
    decide +kernel
  have hleft : ((evictStaleNodes 10 .sorted .sorted).run Section.act
      (afterCalls (start ()) (beatAndLease 30))).2.Owns "node.0" "device.0" :=
    owns_evict howns (Or.inr (Or.inl hleased)) .sorted .sorted
  exact not_reclaims hleft (forgotten_evict hrange hstale .sorted .sorted)
    (h _ (seqReachable_beatAndLease 30) 10 "node.0" hrange hstale .sorted .sorted)

end NautiFabric
