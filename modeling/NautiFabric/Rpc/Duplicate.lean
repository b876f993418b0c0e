import NautiFabric.Fabric.ExactLease
import NautiFabric.Fabric.Query
import NautiFabric.Fabric.Release
import NautiFabric.Lib.Table
import NautiFabric.Rpc.Dispatch

/-!
# NautiFabric.Rpc.Duplicate — a request delivered twice

The module docs of the agent protocol promise that a repeated request does not
mutate the fabric twice. `dispatch_twice` proves it for every kind of request:
when the second delivery comes at the same instant, the fabric is a fixed point
of the request. One lemma says so for each section, and one for each call.

A TTL of at least one second matters: a lease that expires at the instant of its
grant would be pruned and granted anew.
-/

namespace NautiFabric

open Interleave

variable {W : Type}

/-! ## Pruning and inserting twice -/

theorem retainUnexpired_idem (now : Instant) (leases : StringMap ActiveLease) :
    retainUnexpired now (retainUnexpired now leases) = retainUnexpired now leases := by
  refine Std.ExtTreeMap.ext_getElem? fun k => ?_
  rw [getElem?_retainUnexpired, getElem?_retainUnexpired, Option.filter_filter]
  simp

/-- A lease that has not expired survives the pruning. -/
theorem retainUnexpired_insert {now : Instant} {active : ActiveLease}
    (h : now < active.expiresAt) (leases : StringMap ActiveLease) (k : String) :
    retainUnexpired now ((retainUnexpired now leases).insert k active) =
      (retainUnexpired now leases).insert k active := by
  refine Std.ExtTreeMap.ext_getElem? fun k' => ?_
  rw [getElem?_retainUnexpired, Table.getElem?_insert]
  split
  · simp [h]
  · rw [getElem?_retainUnexpired, Option.filter_filter]
    simp

/-- Inserting what is there already changes nothing. -/
theorem insert_recorded {V : Type} {m : StringMap V} {k : String} {v : V} (h : m[k]? = some v) :
    m.insert k v = m := by
  refine Std.ExtTreeMap.ext_getElem? fun k' => ?_
  rw [Table.getElem?_insert]
  split
  · rename_i hk
    rw [← hk, h]
  · rfl

/-! ## Sections run twice -/

/-- The outside world may have changed when the second delivery comes. -/
def Shared.withWorld (s : Shared W) (world : W) : Shared W := { s with world }

/-- Run again at the same instant, the section leaves the fabric as the first run left it. -/
def Section.Settles (sec : Section W) (s : Shared W) : Prop :=
  ∀ world, (sec.act ((sec.act s).2.withWorld world)).2.fabric = (sec.act s).2.fabric

theorem withLeases_settled {α : Type} {s : Shared W} {body : Option α × Shared W}
    (h : s.fabric.leases.poisoned = true ∨ (body.1 ≠ none ∧ body.2.fabric = s.fabric)) :
    (withLeases s body).2.fabric = s.fabric := by
  rcases h with hp | ⟨hreply, hsame⟩
  · rw [withLeases_poisoned hp]
  · rcases Bool.eq_false_or_eq_true s.fabric.leases.poisoned with hp | hp
    · rw [withLeases_poisoned hp]
    · rcases body with ⟨_ | reply, s'⟩
      · exact absurd rfl hreply
      · rw [withLeases_some hp]
        exact hsame

/-- A resource that is leased already is refused; all that happens is the pruning. -/
theorem leaseExclusive_settled {resourceId : String} {s : Shared W}
    (hpruned : retainUnexpired s.now s.fabric.leases.val = s.fabric.leases.val)
    (hleased : resourceId ∈ s.fabric.leases.val) (owner : String) (ttl : Duration) :
    (leaseExclusiveSection resourceId owner ttl s).2.fabric = s.fabric := by
  refine withLeases_settled (Or.inr ?_)
  dsimp only
  rw [hpruned, if_pos hleased]
  exact ⟨by simp, rfl⟩

/-- A panic under the guard leaves the mutex poisoned. -/
theorem withLeases_panicked {α : Type} {s : Shared W} {body : Option α × Shared W}
    (h : (withLeases s body).1 = none) :
    (withLeases s body).2.fabric.leases.poisoned = true := by
  rcases Bool.eq_false_or_eq_true s.fabric.leases.poisoned with hp | hp
  · rw [withLeases_poisoned hp]
    exact hp
  · rcases body with ⟨_ | reply, s'⟩
    · rw [withLeases_none hp]
    · rw [withLeases_some hp] at h
      cases h

theorem leaseExclusive_settles (resourceId owner : String) {ttl : Duration} (hpos : 0 < ttl)
    (s : Shared W) : (Section.leaseExclusive resourceId owner ttl).Settles s := by
  intro world
  have hnow := act_now (.leaseExclusive resourceId owner ttl) s
  by_cases hpanic : (leaseExclusiveSection resourceId owner ttl s).1 = none
  · exact withLeases_settled (Or.inl (withLeases_panicked hpanic))
  rcases Bool.eq_false_or_eq_true s.fabric.leases.poisoned with hp | hp
  · exact absurd (by rw [leaseExclusiveSection, withLeases_poisoned hp]) hpanic
  by_cases hgrant : s.WouldGrant resourceId ttl
  · -- granted just now: the second delivery finds the lease
    obtain ⟨-, hleases, -⟩ := leaseExclusive_of_wouldGrant hgrant owner
    have hlive : s.now < s.now + ttl := lt_add_of_pos_right _ (by exact_mod_cast hpos)
    refine leaseExclusive_settled ?_ ?_ owner ttl
    · change retainUnexpired (Section.act (.leaseExclusive resourceId owner ttl) s).2.now
        (Section.act (.leaseExclusive resourceId owner ttl) s).2.fabric.leases.val = _
      rw [hnow]
      change retainUnexpired s.now
        (leaseExclusiveSection resourceId owner ttl s).2.fabric.leases.val =
          (leaseExclusiveSection resourceId owner ttl s).2.fabric.leases.val
      rw [hleases]
      exact retainUnexpired_insert hlive _ _
    · change resourceId ∈ (leaseExclusiveSection resourceId owner ttl s).2.fabric.leases.val
      rw [hleases]
      exact Std.ExtTreeMap.mem_insert_self
  · -- leased before: pruned once, and the same refusal again
    have hleased : resourceId ∈ retainUnexpired s.now s.fabric.leases.val := by
      by_contra hfree
      have hguard := (leaseExclusiveSection_none_iff hp).not.mp hpanic
      rw [not_not] at hguard
      obtain ⟨hids, hrange⟩ := hguard hfree
      exact hgrant ⟨hp, hfree, hids, hrange⟩
    have hfirst : (leaseExclusiveSection resourceId owner ttl s).2 =
        s.setLeases (retainUnexpired s.now s.fabric.leases.val) := by
      simp [leaseExclusiveSection, hleased, withLeases_some hp]
    change (leaseExclusiveSection resourceId owner ttl
      ((leaseExclusiveSection resourceId owner ttl s).2.withWorld world)).2.fabric =
        (leaseExclusiveSection resourceId owner ttl s).2.fabric
    rw [hfirst]
    exact leaseExclusive_settled (s := (s.setLeases (retainUnexpired s.now
      s.fabric.leases.val)).withWorld world) (retainUnexpired_idem _ _) hleased owner ttl

theorem setLeases_self (s : Shared W) : s.setLeases s.fabric.leases.val = s := rfl

/-- A renewal that finds nothing to renew, or the expiry it would write. -/
theorem renewLease_settled {lease : Lease} {ttl : Duration} {s : Shared W}
    (hpruned : retainUnexpired s.now s.fabric.leases.val = s.fabric.leases.val)
    (hrec : s.recorded? lease = none ∨ ∃ active, s.recorded? lease = some active ∧
      s.now.add ttl = some active.expiresAt) :
    (renewLeaseSection lease ttl s).2.fabric = s.fabric := by
  refine withLeases_settled (Or.inr ?_)
  dsimp only
  rw [hpruned, setLeases_self]
  rcases hrec with hnone | ⟨active, hsome, hadd⟩
  · rw [hnone]
    exact ⟨by simp, rfl⟩
  · rw [hsome]
    dsimp only
    rw [hadd]
    obtain ⟨hget, -⟩ := recorded?_eq_some.mp hsome
    dsimp only
    rw [insert_recorded hget]
    exact ⟨by simp, rfl⟩

theorem renewLease_settles (lease : Lease) {ttl : Duration} (hpos : 0 < ttl) (s : Shared W) :
    (Section.renewLease lease ttl).Settles s := by
  intro world
  by_cases hpanic : (renewLeaseSection lease ttl s).1 = none
  · exact withLeases_settled (Or.inl (withLeases_panicked hpanic))
  rcases Bool.eq_false_or_eq_true s.fabric.leases.poisoned with hp | hp
  · exact absurd (by rw [renewLeaseSection, withLeases_poisoned hp]) hpanic
  change (renewLeaseSection lease ttl ((renewLeaseSection lease ttl s).2.withWorld world)).2.fabric
    = (renewLeaseSection lease ttl s).2.fabric
  rcases hrec : (s.setLeases (retainUnexpired s.now s.fabric.leases.val)).recorded? lease with
    _ | active
  · -- nothing to renew: pruned once, and not found again
    have hfirst : (renewLeaseSection lease ttl s).2 =
        s.setLeases (retainUnexpired s.now s.fabric.leases.val) := by
      simp [renewLeaseSection, hrec, withLeases_some hp]
    rw [hfirst]
    exact renewLease_settled (s := (s.setLeases _).withWorld world) (retainUnexpired_idem _ _)
      (Or.inl hrec)
  · -- renewed just now: the second delivery writes the same expiry
    obtain ⟨hget, hid⟩ := recorded?_eq_some.mp hrec
    rcases hadd : s.now.add ttl with _ | expiresAt
    · exact absurd (by simp [renewLeaseSection, hrec, hadd, withLeases_none hp]) hpanic
    have hlive : s.now < expiresAt := by
      obtain ⟨-, rfl⟩ := add_eq_some.mp hadd
      exact lt_add_of_pos_right _ (by exact_mod_cast hpos)
    have hfirst : (renewLeaseSection lease ttl s).2 =
        (s.setLeases ((retainUnexpired s.now s.fabric.leases.val).insert lease.resourceId
          { active with expiresAt })).emit (.renewed lease active.lease ttl s.now) := by
      simp only [renewLeaseSection, hrec, hadd, withLeases_some hp]
      rfl
    rw [hfirst]
    refine renewLease_settled (s := ((s.setLeases _).emit _).withWorld world)
      (retainUnexpired_insert hlive _ _) (Or.inr ⟨{ active with expiresAt }, ?_, hadd⟩)
    exact recorded?_eq_some.mpr ⟨Std.ExtTreeMap.getElem?_insert_self, hid⟩

/-- An `attach` that fails, or records what is recorded already. -/
theorem attach_settled {r : Resource} {adapterName : String} {lease : Lease} {s : Shared W}
    (h : ∀ adapter, s.Attaches adapterName lease adapter →
      (adapter.attach r lease s.world).1.isOk = true →
      s.fabric.attachments[lease.resourceId]? = some adapterName) :
    (attachSection r adapterName lease s).2.fabric = s.fabric := by
  have hrun := attachSection_run r adapterName lease s
  generalize attachSection r adapterName lease s = outcome at hrun
  cases hrun with
  | poisoned => rfl
  | unauthorized => rfl
  | unknown => rfl
  | failed => rfl
  | attached hattaches hresult =>
      have hentry := h _ hattaches (by rw [hresult]; rfl)
      show { s.fabric with
        attachments := s.fabric.attachments.insert lease.resourceId adapterName } = s.fabric
      rw [insert_recorded hentry]

/-- The adapter answers alike, whether or not it has done the work before. -/
def AnswersAlike (s : Shared W) (world : W) (r : Resource) (adapterName : String) (lease : Lease) :
    Prop :=
  ∀ adapter, s.fabric.adapters[adapterName]? = some adapter →
    (adapter.attach r lease world).1.isOk = (adapter.attach r lease s.world).1.isOk

theorem attach_settles {r : Resource} {adapterName : String} {lease : Lease} {s : Shared W}
    {world : W} (halike : AnswersAlike s world r adapterName lease) :
    (attachSection r adapterName lease
      ((attachSection r adapterName lease s).2.withWorld world)).2.fabric =
        (attachSection r adapterName lease s).2.fabric := by
  have hrun := attachSection_run r adapterName lease s
  generalize attachSection r adapterName lease s = outcome at hrun
  cases hrun with
  | attached =>
      -- attached just now: the second delivery records the same adapter
      apply attach_settled
      intro _ _ _
      exact Std.ExtTreeMap.getElem?_insert_self
  -- nothing attached: the second delivery fails at the same place
  | poisoned hp =>
      apply attach_settled
      intro _ hattaches _
      exact absurd (hp.symm.trans hattaches.poisoned) (by decide)
  | unauthorized _ hhonours =>
      apply attach_settled
      intro _ hattaches _
      exact absurd hattaches.honours hhonours
  | unknown _ _ hadapter =>
      apply attach_settled
      intro _ hattaches _
      exact absurd (hadapter.symm.trans hattaches.adapter) (by simp)
  | failed hattaches hresult =>
      apply attach_settled
      intro adapter hagain hok
      have hanswer : (adapter.attach r lease world).1.isOk =
          (adapter.attach r lease s.world).1.isOk := halike adapter hagain.adapter
      obtain rfl := Option.some.inj (hattaches.adapter.symm.trans hagain.adapter)
      rw [hresult] at hanswer
      exact absurd (hanswer.symm.trans hok) (by simp [Except.isOk, Except.toBool])

/-! ## Calls made twice -/

/-- Called again at the same instant, the call leaves the fabric as the first left it. -/
def CallSettles {α : Type} (call : Call W α) (s : Shared W) (world : W) : Prop :=
  (call.run Section.act ((call.run Section.act s).2.withWorld world)).2.fabric =
    (call.run Section.act s).2.fabric

/-- A call that looks its resource up and goes on with one section. The second
delivery looks up the same resource. -/
theorem lookup_callSettles {α : Type} {call : Call W (Except FabricError α)} {resourceId : String}
    {body : Resource → Shared W → Option (Except FabricError α) × Shared W}
    (hrun : ∀ s : Shared W, call.run Section.act s =
      match s.fabric.resources[resourceId]? with
      | none => (some (.error .resourceNotFound), s)
      | some r => body r s)
    (hresources : ∀ r s, (body r s).2.fabric.resources = s.fabric.resources)
    {s : Shared W} {world : W}
    (hbody : ∀ r, s.fabric.resources[resourceId]? = some r →
      (body r ((body r s).2.withWorld world)).2.fabric = (body r s).2.fabric) :
    CallSettles call s world := by
  unfold CallSettles
  rcases hr : s.fabric.resources[resourceId]? with _ | r
  · have hfirst : call.run Section.act s = (some (.error .resourceNotFound), s) := by
      rw [hrun, hr]
    have hsecond : call.run Section.act (s.withWorld world) =
        (some (.error .resourceNotFound), s.withWorld world) := by
      rw [hrun]
      change (match s.fabric.resources[resourceId]? with
        | none => _
        | some r => body r (s.withWorld world)) = _
      rw [hr]
    rw [hfirst, hsecond]
    rfl
  · have hfirst : call.run Section.act s = body r s := by rw [hrun, hr]
    have hsecond : call.run Section.act ((body r s).2.withWorld world) =
        body r ((body r s).2.withWorld world) := by
      -- the section keeps the registry
      have hagain : ((body r s).2.withWorld world).fabric.resources[resourceId]? = some r := by
        change (body r s).2.fabric.resources[resourceId]? = some r
        rw [hresources, hr]
      rw [hrun, hagain]
    rw [hfirst, hsecond]
    exact hbody r hr

theorem leaseExclusive_callSettles (resourceId owner : String) {ttl : Duration} (hpos : 0 < ttl)
    (s : Shared W) (world : W) : CallSettles (leaseExclusive resourceId owner ttl) s world := by
  refine lookup_callSettles (leaseExclusive_run resourceId owner ttl) ?_ ?_
  · intro r s
    split
    · have hsec : ¬ (Section.leaseExclusive (W := W) resourceId owner ttl).writes := id
      exact (act_frame _ hsec s).resources
    · rfl
  · intro r _
    split
    · exact leaseExclusive_settles resourceId owner hpos s world
    · rfl

theorem attach_callSettles {adapterName : String} {lease : Lease} {s : Shared W} {world : W}
    (h : ∀ r, s.fabric.resources[lease.resourceId]? = some r →
      AnswersAlike s world r adapterName lease) :
    CallSettles (attach adapterName lease) s world := by
  refine lookup_callSettles (attach_run adapterName lease) ?_ fun r hr => attach_settles (h r hr)
  intro r s
  have hsec : ¬ (Section.attach (W := W) r adapterName lease).writes := id
  exact (act_frame _ hsec s).resources

/-- A release that finds no lease changes nothing. -/
theorem release_settled {lease : Lease} {s : Shared W}
    (h : s.fabric.leases.poisoned = false → s.recorded? lease = none) :
    ((release lease).run Section.act s).2.fabric = s.fabric := by
  rw [release_run_unrecorded h]
  split <;> rfl

theorem recorded?_dropLease (s : Shared W) (lease : Lease) (active : ActiveLease) :
    (s.dropLease lease active).recorded? lease = none := by
  simp [Shared.recorded?, Shared.dropLease, Shared.emit, Shared.setLeases]

theorem release_callSettles {lease : Lease} {s : Shared W} (h : ¬ s.DetachFails lease)
    (world : W) : CallSettles (release lease) s world := by
  unfold CallSettles
  have hrun := release_run lease s
  generalize (release lease).run Section.act s = outcome at hrun ⊢
  refine release_settled (s := outcome.2.withWorld world) ?_
  intro hunpoisoned
  cases hrun with
  | poisoned hp => exact absurd (hp.symm.trans hunpoisoned) (by simp)
  | refused hp hrec => exact hrec
  | @unattached active => exact recorded?_dropLease s lease active
  | @dangling active name => exact recorded?_dropLease (s.takeEntry lease name) lease active
  | failed hdetaches hdetach => exact absurd ⟨_, _, _, _, _, hdetaches, hdetach⟩ h
  | @detached active name r adapter =>
      exact recorded?_dropLease ((s.takeEntry lease name).callDetach adapter r lease) lease active

/-! ## Requests delivered twice -/

/-- The state after a request has been answered. -/
def Shared.dispatched (s : Shared W) (order : IterOrder) (request : RpcRequest) : Shared W :=
  ((dispatch order request).run Section.act s).2

/-- What a second delivery, into the outside world `world`, relies on: a TTL of at
least one second, an adapter whose `attach` succeeds both times or fails both
times, and a `detach` that does not fail. -/
def RpcRequest.Repeatable (s : Shared W) (world : W) : RpcRequest → Prop
  | .leaseExclusive _ _ ttlSecs => 1 ≤ ttlSecs.toNat
  | .leaseRenew _ ttlSecs => 1 ≤ ttlSecs.toNat
  | .attach adapterName lease => ∀ r, s.fabric.resources[lease.resourceId]? = some r →
      AnswersAlike s world r adapterName lease
  | .release lease => ¬ s.DetachFails lease
  | _ => True

theorem fromSecs_pos {secs : UInt64} (h : 1 ≤ secs.toNat) : 0 < Duration.fromSecs secs :=
  Nat.mul_pos h (by decide)

/-- The response to a call is made after its last section. -/
theorem respond_twice {α : Type} {call : Call W α} {s : Shared W} {world : W}
    (h : CallSettles call s world) (respond : α → RpcResponse) :
    CallSettles (call.bind fun a => .done (respond a)) s world := by
  unfold CallSettles
  rw [Prog.run_bind_done, Prog.run_bind_done]
  exact h

/-- A request delivered again at the same instant leaves the fabric as the first
delivery left it, whatever the fabric was and whether or not it was granted. -/
theorem dispatch_twice (s : Shared W) (world : W) (order order' : IterOrder)
    (request : RpcRequest) (h : request.Repeatable s world) :
    (((s.dispatched order request).withWorld world).dispatched order' request).fabric =
      (s.dispatched order request).fabric := by
  cases request with
  | ping => rfl
  | inventory => rfl
  | findAvailable query =>
      -- a query writes nothing, whether it replies or panics
      have hread : ∀ (order : IterOrder) (s : Shared W),
          (s.dispatched order (.findAvailable query)).fabric = s.fabric := by
        intro order s
        rw [Shared.dispatched, dispatch]
        refine (congrArg Shared.fabric (Prog.run_bind_done Section.act (findAvailable query order)
          RpcResponse.findAvailable s)).trans ?_
        rw [findAvailable_run]
        refine withLeases_settled ?_
        exact Or.inr ⟨by simp, rfl⟩
      exact hread order' _
  | leaseExclusive resourceId owner ttlSecs =>
      exact respond_twice (leaseExclusive_callSettles resourceId owner (fromSecs_pos h) s world)
        (.ofResult .leased)
  | attach adapterName lease =>
      exact respond_twice (attach_callSettles h) (.ofResult .attached)
  | release lease =>
      exact respond_twice (release_callSettles h world) (.ofResult fun _ => .released)
  | leaseRenew lease ttlSecs =>
      have hcall : CallSettles (renewLease lease (.fromSecs ttlSecs)) s world := by
        unfold CallSettles
        rw [renewLease_run, renewLease_run]
        exact renewLease_settles lease (fromSecs_pos h) s world
      exact respond_twice hcall (.ofResult .leased)
  | heartbeat node =>
      -- the second beat is at the instant of the first
      have hnow : (s.fabric.heartbeats.insert node s.now)[node]? = some s.now :=
        Std.ExtTreeMap.getElem?_insert_self
      exact congrArg (fun heartbeats => { s.fabric with heartbeats }) (insert_recorded hnow)

open Scenario in
theorem dispatch_twice_renewal :
    ((((after (start ()) registerAndLease).state.dispatched .sorted
        (.leaseRenew ⟨1, "device.0", "mission-a"⟩ 60)).withWorld ()).dispatched .sorted
        (.leaseRenew ⟨1, "device.0", "mission-a"⟩ 60)).fabric =
      ((after (start ()) registerAndLease).state.dispatched .sorted
        (.leaseRenew ⟨1, "device.0", "mission-a"⟩ 60)).fabric :=
  dispatch_twice _ () .sorted .sorted _ (show 1 ≤ UInt64.toNat 60 by decide)

end NautiFabric
