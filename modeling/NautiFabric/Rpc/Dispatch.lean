import NautiFabric.Fabric.Registry

/-!
# NautiFabric.Rpc.Dispatch — requests of a remote controller

The requests and responses of the agent protocol, and `dispatch`, which turns a
request into a call of the fabric. A TTL comes from the wire as a number of
seconds and reaches the clock's addition under the lease guard, where a panic
poisons the lease mutex for every later request. `TtlGuard` keeps the addition
in range; `dispatch_returns` says that it is exactly what keeps an agent up.
-/

namespace NautiFabric

open Interleave

variable {W : Type}

/-! ## Requests and responses -/

inductive RpcRequest where
  | ping
  | inventory
  | findAvailable (query : ResourceRequest)
  | leaseExclusive (resourceId owner : String) (ttlSecs : UInt64)
  | attach (adapter : String) (lease : Lease)
  | release (lease : Lease)
  | leaseRenew (lease : Lease) (ttlSecs : UInt64)
  | heartbeat (node : String)

structure RpcError where
  message : String
deriving DecidableEq, Repr

inductive RpcResponse where
  | pong
  | inventory (resources : List Resource)
  | findAvailable (resources : List Resource)
  | leased (lease : Lease)
  | attached (attachment : Attachment)
  | released
  | error (error : RpcError)
deriving DecidableEq

/-- The wire form of a fabric error. -/
def RpcError.ofFabric (error : FabricError) : RpcError := ⟨error.toString⟩

/-- The response to a fabric call that can fail. -/
def RpcResponse.ofResult {α : Type} (ok : α → RpcResponse) : Except FabricError α → RpcResponse
  | .ok value => ok value
  | .error e => .error (.ofFabric e)

def dispatch (order : IterOrder) : RpcRequest → Call W RpcResponse
  | .ping => return .pong
  | .inventory => do
    return .inventory (← resources)
  | .findAvailable query => do
    return .findAvailable (← findAvailable query order)
  | .leaseExclusive resourceId owner ttlSecs => do
    return .ofResult .leased (← leaseExclusive resourceId owner (.fromSecs ttlSecs))
  | .attach adapter lease => do
    return .ofResult .attached (← attach adapter lease)
  | .release lease => do
    return .ofResult (fun _ => .released) (← release lease)
  | .leaseRenew lease ttlSecs => do
    return .ofResult .leased (← renewLease lease (.fromSecs ttlSecs))
  | .heartbeat node => do
    heartbeat node
    return .pong

/-- An agent: the calls of its own process, and the requests it dispatches. -/
def agentSystem (guard : Section W → Shared W → Prop) :
    Interleave.System (@Section.Reply W) (Shared W) Unit where
  act := Section.act
  init := Shared.Fresh
  invocable p := (∃ op : Op W, p = op.call) ∨ ∃ order request, p = (dispatch order request).ignore
  env := Shared.Elapse
  guard := guard

/-! ## Panics -/

/-- A grant and a renewal find their expiry in the range of the clock, and a
grant finds an id left where the build checks for overflow. -/
def TtlGuard : Section W → Shared W → Prop
  | .leaseExclusive resourceId _ ttl, s =>
    resourceId ∉ retainUnexpired s.now s.fabric.leases.val →
      s.idOverflows = false ∧ s.now + ttl < Instant.limit
  | .renewLease lease ttl, s => s.Honours lease → s.now + ttl < Instant.limit
  | _, _ => True

/-- The section is not the clock subtraction of `evict_stale_nodes`. -/
def Section.NoCutoff : Section W → Prop
  | .cutoff _ => False
  | _ => True

theorem add_eq_none {t : Instant} {d : Duration} : t.add d = none ↔ ¬ t + d < Instant.limit := by
  simp [Instant.add]

theorem leaseExclusiveSection_none_iff {resourceId owner : String} {ttl : Duration} {s : Shared W}
    (hp : s.fabric.leases.poisoned = false) :
    (leaseExclusiveSection resourceId owner ttl s).1 = none ↔
      ¬ TtlGuard (.leaseExclusive resourceId owner ttl) s := by
  unfold leaseExclusiveSection TtlGuard
  dsimp only
  by_cases hleased : resourceId ∈ retainUnexpired s.now s.fabric.leases.val
  · simp [hleased, withLeases_some hp]
  · rw [if_neg hleased]
    -- two ways to panic: the id counter, then the expiry
    rcases hids : s.idOverflows with _ | _
    · rcases hadd : s.now.add ttl with _ | expiresAt
      · have hrange := add_eq_none.mp hadd
        simp [hleased, withLeases_none hp, hrange]
      · have hrange := (add_eq_some.mp hadd).1
        simp [withLeases_some hp, hrange]
    · simp [hleased, withLeases_none hp]

theorem honours_iff_pruned {lease : Lease} {s : Shared W} :
    s.Honours lease ↔ ∃ active,
      (s.setLeases (retainUnexpired s.now s.fabric.leases.val)).recorded? lease = some active := by
  have hpruned : ∀ active : ActiveLease,
      (s.setLeases (retainUnexpired s.now s.fabric.leases.val)).recorded? lease = some active ↔
        s.recorded? lease = some active ∧ s.now < active.expiresAt := by
    intro active
    rw [recorded?_eq_some, recorded?_eq_some, Shared.setLeases]
    dsimp only
    rw [getElem?_retainUnexpired, Option.filter_eq_some_iff, decide_eq_true_eq]
    exact and_right_comm
  simp only [hpruned]
  rfl

theorem renewLeaseSection_none_iff {lease : Lease} {ttl : Duration} {s : Shared W}
    (hp : s.fabric.leases.poisoned = false) :
    (renewLeaseSection lease ttl s).1 = none ↔ ¬ TtlGuard (.renewLease lease ttl) s := by
  unfold renewLeaseSection TtlGuard
  dsimp only
  rw [honours_iff_pruned]
  rcases (s.setLeases (retainUnexpired s.now s.fabric.leases.val)).recorded? lease with _ | active
  · simp [withLeases_some hp]
  · rcases hadd : s.now.add ttl with _ | expiresAt
    · have hrange := add_eq_none.mp hadd
      simp [withLeases_none hp, hrange]
    · have hrange := (add_eq_some.mp hadd).1
      simp [withLeases_some hp, hrange]

/-- With a sound lease mutex, a section panics exactly when it breaks the guard. -/
theorem act_none_iff {sec : Section W} (hsec : sec.NoCutoff) {s : Shared W}
    (hp : s.fabric.leases.poisoned = false) : (sec.act s).1 = none ↔ ¬ TtlGuard sec s := by
  cases sec with
  | leaseExclusive resourceId owner ttl => exact leaseExclusiveSection_none_iff hp
  | renewLease lease ttl => exact renewLeaseSection_none_iff hp
  | cutoff => exact hsec.elim
  -- the guard asks nothing of the others, and they always reply
  | unregisterCheck resourceId =>
      simp only [Section.act, unregisterCheckSection, TtlGuard]
      split <;> simp [withLeases_some hp]
  | findAvailable request order =>
      simp [Section.act, findAvailableSection, withLeases, hp, TtlGuard]
  | attach r adapterName lease =>
      simp only [Section.act, attachSection, TtlGuard]
      split
      · simp [withLeases_some hp]
      · split
        · simp [withLeases_some hp]
        · split <;> simp [withLeases_some hp]
  | releaseCheck lease =>
      simp only [Section.act, releaseCheckSection, TtlGuard]
      split <;> simp [withLeases_some hp]
  | releaseTake lease =>
      simp only [Section.act, releaseTakeSection, TtlGuard]
      split <;> simp
  | releaseDetach r adapterName lease =>
      simp only [Section.act, releaseDetachSection, TtlGuard]
      split <;> simp
  | releaseRemove lease =>
      simp only [Section.act, releaseRemoveSection, TtlGuard]
      split <;> simp [withLeases_some hp]
  | register => simp [Section.act, registerSection, TtlGuard]
  | unregisterRemove => simp [Section.act, unregisterRemoveSection, TtlGuard]
  | resource => simp [Section.act, TtlGuard]
  | resources => simp [Section.act, resourcesSection, TtlGuard]
  | resourceIds => simp [Section.act, TtlGuard]
  | registerAdapter => simp [Section.act, registerAdapterSection, TtlGuard]
  | adapterReports => simp [Section.act, adapterReportsSection, TtlGuard]
  | heartbeat => simp [Section.act, heartbeatSection, TtlGuard]
  | evictStale => simp [Section.act, evictStaleSection, TtlGuard]
  | evictOwned => simp [Section.act, evictOwnedSection, TtlGuard]

/-- Only a panic under the lease guard poisons the lease mutex. -/
theorem withLeases_unpoisoned {α : Type} {s : Shared W} {body : Option α × Shared W}
    (hp : s.fabric.leases.poisoned = false)
    (hbody : body.2.fabric.leases.poisoned = s.fabric.leases.poisoned)
    (hreply : (withLeases s body).1 ≠ none) :
    (withLeases s body).2.fabric.leases.poisoned = false := by
  rcases body with ⟨_ | reply, s'⟩
  · rw [withLeases_none hp] at hreply
    exact absurd rfl hreply
  · rw [withLeases_some hp]
    exact hbody.trans hp

theorem act_unpoisoned {sec : Section W} {s : Shared W}
    (hp : s.fabric.leases.poisoned = false) (hg : TtlGuard sec s) :
    (sec.act s).2.fabric.leases.poisoned = false := by
  have hreply : sec.NoCutoff → (sec.act s).1 ≠ none := fun hsec hnone =>
    (act_none_iff hsec hp).mp hnone hg
  -- a section either holds the lease guard, where only a panic poisons, or never takes it
  cases sec with
  | unregisterCheck resourceId =>
      refine withLeases_unpoisoned hp ?_ (hreply trivial)
      split <;> rfl
  | findAvailable request order => exact withLeases_unpoisoned hp rfl (hreply trivial)
  | leaseExclusive resourceId owner ttl =>
      refine withLeases_unpoisoned hp ?_ (hreply trivial)
      dsimp only
      split
      · rfl
      · split
        · rfl
        · split <;> rfl
  | renewLease lease ttl =>
      refine withLeases_unpoisoned hp ?_ (hreply trivial)
      dsimp only
      split
      · rfl
      · split <;> rfl
  | attach r adapterName lease =>
      refine withLeases_unpoisoned hp ?_ (hreply trivial)
      dsimp only
      split
      · rfl
      · split
        · rfl
        · split <;> rfl
  | releaseCheck lease =>
      refine withLeases_unpoisoned hp ?_ (hreply trivial)
      split <;> rfl
  | releaseRemove lease =>
      refine withLeases_unpoisoned hp ?_ (hreply trivial)
      split <;> rfl
  -- from here on no section holds the lease guard
  | releaseTake lease =>
      simp only [Section.act, releaseTakeSection]
      split <;> exact hp
  | releaseDetach r adapterName lease =>
      simp only [Section.act, releaseDetachSection]
      split <;> exact hp
  | register => exact hp
  | unregisterRemove => exact hp
  | resource => exact hp
  | resources => exact hp
  | resourceIds => exact hp
  | registerAdapter => exact hp
  | adapterReports => exact hp
  | heartbeat => exact hp
  | cutoff => exact hp
  | evictStale => exact hp
  | evictOwned => exact hp

/-- A call without `cutoff` sections returns exactly when its sections meet the guard. -/
theorem run_returns_iff {α : Type} {p : Call W α}
    (hp : p.Sound Section.act (fun _ => True) Section.NoCutoff) {s : Shared W}
    (hs : s.fabric.leases.poisoned = false) :
    (∃ a, (p.run Section.act s).1 = some a) ↔ p.Guarded Section.act TtlGuard s := by
  -- on the call; a section that meets the guard hands on an unpoisoned mutex
  induction p generalizing s with
  | done a => exact ⟨fun _ => trivial, fun _ => ⟨a, rfl⟩⟩
  | atomic sec next ih =>
      have hnone := act_none_iff hp.1 hs
      rcases ha : sec.act s with ⟨_ | r, s'⟩
      · rw [Prog.run_atomic_none ha, Prog.guarded_atomic_none ha]
        rw [ha] at hnone
        simpa using hnone
      · rw [Prog.run_atomic_some ha, Prog.guarded_atomic_some ha]
        have hg : TtlGuard sec s := by
          rw [ha] at hnone
          simpa using hnone
        have hs' : s'.fabric.leases.poisoned = false := by
          have hkept := act_unpoisoned hs hg
          rwa [ha] at hkept
        rw [ih r (hp.2 s r trivial (by rw [ha])) hs']
        exact ⟨fun h => ⟨hg, h⟩, fun h => h.2⟩

/-! ## Every request is answered -/

theorem agent_unpoisoned {c : Config (@Section.Reply W) (Shared W) Unit}
    (h : (agentSystem TtlGuard).Reachable c) : c.state.fabric.leases.poisoned = false := by
  refine h.invariant (fun s => s.fabric.leases.poisoned = false) ?_ ?_ ?_
  · intro s hs
    rw [hs.1]
    rfl
  · intro sec s hg hp
    exact act_unpoisoned hp hg
  · intro s s' he hp
    rw [he.2]
    exact hp

/-- What a request asks for: anything but `cutoff`, and of `lease_exclusive` only
the TTL it carries. -/
theorem dispatch_sound {I : Shared W → Prop} {wf : Section W → Prop} {request : RpcRequest}
    (hother : ∀ sec : Section W, sec.NoCutoff →
      (∀ resourceId owner ttl, sec ≠ .leaseExclusive resourceId owner ttl) → wf sec)
    (hlease : ∀ resourceId owner ttlSecs, request = .leaseExclusive resourceId owner ttlSecs →
      wf (.leaseExclusive resourceId owner (.fromSecs ttlSecs))) (order : IterOrder) :
    (dispatch order request).Sound Section.act I wf := by
  have hread : ∀ resourceId, wf (.resource resourceId) := fun _ => hother _ trivial (by simp)
  cases request with
  | ping => trivial
  | inventory => exact ⟨hother _ trivial (by simp), fun _ _ _ _ => trivial⟩
  | findAvailable query => exact ⟨hother _ trivial (by simp), fun _ _ _ _ => trivial⟩
  | heartbeat node => exact ⟨hother _ trivial (by simp), fun _ _ _ _ => trivial⟩
  | leaseRenew lease ttlSecs => exact ⟨hother _ trivial (by simp), fun _ _ _ _ => trivial⟩
  | leaseExclusive resourceId owner ttlSecs =>
      have hgrant := hlease resourceId owner ttlSecs rfl
      exact (leaseExclusive_sound (hread _) hgrant).bind fun _ => trivial
  | attach adapter lease =>
      have hattach : ∀ r, wf (.attach r adapter lease) := fun _ => hother _ trivial (by simp)
      exact (attach_sound (hread _) fun _ r _ _ => hattach r).bind fun _ => trivial
  | release lease =>
      have hdetach : ∀ r name, wf (.releaseDetach r name lease) :=
        fun _ _ => hother _ trivial (by simp)
      exact (release_sound (hread _) (hother _ trivial (by simp)) (hother _ trivial (by simp))
        (fun _ r name _ _ => hdetach r name) (hother _ trivial (by simp))).bind fun _ => trivial

/-- In every run whose grants and renewals stay in the range of the clock the
lease mutex is sound, and the next request is answered exactly when it keeps
within that range. -/
theorem dispatch_returns {c : Config (@Section.Reply W) (Shared W) Unit}
    (h : (agentSystem TtlGuard).Reachable c) :
    c.state.fabric.leases.poisoned = false ∧
      ∀ order request,
        (∃ response, ((dispatch order request).run Section.act c.state).1 = some response) ↔
          (dispatch order request).Guarded Section.act TtlGuard c.state := by
  have hp := agent_unpoisoned h
  refine ⟨hp, ?_⟩
  intro order request
  have hsound : (dispatch order request : Call W _).Sound Section.act (fun _ => True)
      Section.NoCutoff :=
    dispatch_sound (fun _ hsec _ => hsec) (fun _ _ _ _ => trivial) order
  exact run_returns_iff hsound hp

namespace Scenario

theorem agent_start (guard : Section W → Shared W → Prop) (world : W) :
    (agentSystem guard).Reachable ⟨start world, []⟩ := .init _ ⟨rfl, rfl⟩

/-- A controller leases the device for as long as a `u64` can say. -/
def leaseForever : RpcRequest := .leaseExclusive "device.0" "mission-a" 0xFFFFFFFFFFFFFFFF

end Scenario

open Scenario in
theorem dispatch_returns_renewal :
    ∃ response, ((dispatch .sorted (.leaseRenew ⟨1, "device.0", "mission-a"⟩ 60)).run Section.act
      (after (start ()) registerAndLease).state).1 = some response := by
  have hr : (agentSystem TtlGuard).Reachable (after (start ()) registerAndLease) :=
    (agent_start TtlGuard ()).schedule
      ⟨Or.inl ⟨.register device, rfl⟩, trivial,
        Or.inl ⟨.leaseExclusive "device.0" "mission-a" 30, rfl⟩, trivial,
        fun _ => ⟨rfl, by decide +kernel⟩, trivial⟩
  refine ((dispatch_returns hr).2 _ _).mpr ⟨fun _ => by decide +kernel, ?_⟩
  rcases (Section.act (.renewLease ⟨1, "device.0", "mission-a"⟩ (.fromSecs 60))
    (after (start ()) registerAndLease).state).1 with _ | reply
  · trivial
  · trivial

open Scenario in
/-- A TTL that leaves the range of the clock takes the agent down. -/
theorem dispatch_panics :
    ¬ ∀ c : Config (@Section.Reply Unit) (Shared Unit) Unit,
      (agentSystem anySection).Reachable c → ∀ order request,
        ∃ response, ((dispatch order request).run Section.act c.state).1 = some response := by
  intro h
  have hr : (agentSystem anySection).Reachable
      (after (start ()) [.invoke (Op.register device).call, .advance 0]) :=
    (agent_start anySection ()).schedule ⟨Or.inl ⟨.register device, rfl⟩, trivial, trivial⟩
  obtain ⟨response, hresponse⟩ := h _ hr .sorted leaseForever
  have hpanic : ((dispatch .sorted leaseForever).run Section.act
      (after (start ()) [.invoke (Op.register device).call, .advance 0]).state).1 = none := by
    decide +kernel
  rw [hpanic] at hresponse
  cases hresponse

end NautiFabric
