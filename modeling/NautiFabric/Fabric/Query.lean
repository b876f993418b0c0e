import NautiFabric.Fabric.Registry

/-!
# NautiFabric.Fabric.Query — asking what is free, and leasing it

`find_available` and `lease_exclusive` decide for themselves whether a resource
is free. `lease_exclusive` prunes expired leases first; `find_available` takes
every entry of the lease table for a lease. `query_agrees_iff` says when the two
agree.
-/

namespace NautiFabric

open Interleave

variable {W : Type}

/-! ## The two calls, run alone -/

theorem leaseExclusive_run (resourceId owner : String) (ttl : Duration) (s : Shared W) :
    (leaseExclusive resourceId owner ttl).run Section.act s =
      match s.fabric.resources[resourceId]? with
      | none => (some (.error .resourceNotFound), s)
      | some r =>
        if r.state = .available ∧ r.exclusive = true then
          leaseExclusiveSection resourceId owner ttl s
        else (some (.error .resourceUnavailable), s) := by
  have hread : Section.act (.resource resourceId) s =
      (some s.fabric.resources[resourceId]?, s) := rfl
  rw [leaseExclusive, resource, atomically, Prog.perform_bind, Prog.run_atomic_some hread]
  rcases s.fabric.resources[resourceId]? with _ | r
  · rfl
  · dsimp only
    by_cases hstate : r.state = .available
    · rw [if_neg (fun h => h hstate)]
      by_cases hexclusive : r.exclusive = true
      · rw [if_neg (by simp [hexclusive]), if_pos ⟨hstate, hexclusive⟩]
        exact Prog.run_perform _ _ _
      · rw [if_pos (by simpa using hexclusive), if_neg (fun h => hexclusive h.2)]
        rfl
    · rw [if_pos hstate, if_neg (fun h => hstate h.1)]
      rfl

theorem findAvailable_run (request : ResourceRequest) (order : IterOrder) (s : Shared W) :
    (findAvailable request order).run Section.act s = findAvailableSection request order s :=
  Prog.run_perform _ _ _

/-- A grant succeeds exactly when the section is about to grant. -/
theorem leaseExclusive_ok_iff {resourceId owner : String} {ttl : Duration} {s : Shared W} :
    (∃ lease, (leaseExclusiveSection resourceId owner ttl s).1 = some (.ok lease)) ↔
      s.WouldGrant resourceId ttl := by
  constructor
  · rintro ⟨lease, hok⟩
    unfold leaseExclusiveSection at hok
    rcases Bool.eq_false_or_eq_true s.fabric.leases.poisoned with hp | hp
    · simp [withLeases_poisoned hp] at hok
    · dsimp only at hok
      split at hok
      · simp [withLeases_some hp] at hok
      · rename_i hfree
        split at hok
        · simp [withLeases_none hp] at hok
        · rename_i hids
          split at hok
          · simp [withLeases_none hp] at hok
          · rename_i expiresAt hadd
            exact ⟨hp, hfree, by simpa using hids, (add_eq_some.mp hadd).1⟩
  · intro hgrant
    exact ⟨_, (leaseExclusive_of_wouldGrant hgrant owner).1⟩

/-- The query returned the resource. -/
def Finds (request : ResourceRequest) (order : IterOrder) (s : Shared W) (r : Resource) : Prop :=
  ∃ found, ((findAvailable request order).run Section.act s).1 = some found ∧ r ∈ found

/-- The lease would be granted. -/
def Grants (resourceId owner : String) (ttl : Duration) (s : Shared W) : Prop :=
  ∃ lease, ((leaseExclusive resourceId owner ttl).run Section.act s).1 = some (.ok lease)

/-- `find_available` returns the resource exactly when it matches and its lease
would be granted. -/
def QueryAgrees (request : ResourceRequest) (order : IterOrder) (owner : String) (ttl : Duration)
    (s : Shared W) (r : Resource) : Prop :=
  Finds request order s r ↔ request.matches r = true ∧ Grants r.id owner ttl s

theorem finds_iff {request : ResourceRequest} {order : IterOrder} {s : Shared W} {r : Resource}
    (hp : s.fabric.leases.poisoned = false) (hr : s.fabric.resources[r.id]? = some r)
    (hexclusive : r.exclusive = true) :
    Finds request order s r ↔ request.matches r = true ∧ r.id ∉ s.fabric.leases.val := by
  have hlisted : r ∈ (order.keys s.fabric.resources).filterMap (s.fabric.resources[·]?) := by
    rw [List.mem_filterMap]
    exact ⟨r.id, (IterOrder.mem_keys _ _ _).mpr (StringMap.mem_of_getElem? hr), hr⟩
  unfold Finds
  rw [findAvailable_run, findAvailableSection, withLeases_some hp]
  simp only [Option.some.injEq, exists_eq_left', List.mem_filter]
  rw [and_iff_right hlisted]
  simp [hexclusive]

theorem not_finds_of_poisoned {request : ResourceRequest} {order : IterOrder} {s : Shared W}
    {r : Resource} (hp : s.fabric.leases.poisoned = true) : ¬ Finds request order s r := by
  rintro ⟨found, hfound, -⟩
  rw [findAvailable_run, findAvailableSection, withLeases_poisoned hp] at hfound
  cases hfound

theorem matches_available {request : ResourceRequest} {r : Resource}
    (h : request.matches r = true) : r.state = .available := by
  simp only [ResourceRequest.matches, Bool.and_eq_true, beq_iff_eq] at h
  tauto

theorem grants_iff {owner : String} {ttl : Duration} {s : Shared W} {r : Resource}
    (hr : s.fabric.resources[r.id]? = some r) (hstate : r.state = .available)
    (hexclusive : r.exclusive = true) : Grants r.id owner ttl s ↔ s.WouldGrant r.id ttl := by
  unfold Grants
  rw [leaseExclusive_run, hr]
  dsimp only
  rw [if_pos ⟨hstate, hexclusive⟩]
  exact leaseExclusive_ok_iff

/-! ## When the two agree -/

/-- A grant would find an id and an expiry in range. -/
def Shared.InRange (s : Shared W) (ttl : Duration) : Prop :=
  s.idOverflows = false ∧ s.now + ttl < Instant.limit

theorem not_mem_retainUnexpired_iff {now : Instant} {leases : StringMap ActiveLease} {k : String} :
    k ∉ retainUnexpired now leases ↔
      ∀ active : ActiveLease, leases[k]? = some active → ¬ now < active.expiresAt := by
  rw [Std.ExtTreeMap.mem_iff_isSome_getElem?, getElem?_retainUnexpired]
  rcases leases[k]? with _ | active
  · simp
  · simp [Option.isSome_filter]

theorem wouldGrant_iff {s : Shared W} {resourceId : String} {ttl : Duration}
    (hp : s.fabric.leases.poisoned = false) :
    s.WouldGrant resourceId ttl ↔
      (∀ active : ActiveLease, s.fabric.leases.val[resourceId]? = some active →
        ¬ s.now < active.expiresAt) ∧ s.InRange ttl := by
  rw [← not_mem_retainUnexpired_iff]
  constructor
  · intro h
    exact ⟨h.free, h.ids, h.inRange⟩
  · rintro ⟨hfree, hids, hrange⟩
    exact ⟨hp, hfree, hids, hrange⟩

/-- The query agrees with the grant exactly when the resource carries no expired
lease, and a grant of a free resource does not panic. -/
theorem query_agrees_iff {c : Config (@Section.Reply W) (Shared W) Unit}
    (h : (fabricSystem anySection).Reachable c) {k : String} {r : Resource}
    (hr : c.state.fabric.resources[k]? = some r) (hexclusive : r.exclusive = true)
    (request : ResourceRequest) (order : IterOrder) (owner : String) (ttl : Duration) :
    QueryAgrees request order owner ttl c.state r ↔
      (c.state.fabric.leases.poisoned = false → request.matches r = true →
        match c.state.fabric.leases.val[r.id]? with
        | none => c.state.InRange ttl
        | some active => c.state.now < active.expiresAt ∨ ¬ c.state.InRange ttl) := by
  have hkeyed : RegistryKeyed c.state :=
    h.invariant RegistryKeyed (fun s hs => .fresh hs) (fun sec s _ hs => hs.act sec)
      fun s s' he hs => hs.elapse he
  generalize c.state = s at hr hkeyed ⊢
  have hr : s.fabric.resources[r.id]? = some r := by
    rw [hkeyed k r hr]
    exact hr
  unfold QueryAgrees
  rcases Bool.eq_false_or_eq_true s.fabric.leases.poisoned with hp | hp
  · -- neither call gets through
    have hnot : ¬ (request.matches r = true ∧ Grants r.id owner ttl s) := by
      rintro ⟨hmatches, hgrants⟩
      have hgrant := (grants_iff hr (matches_available hmatches) hexclusive).mp hgrants
      rw [hgrant.poisoned] at hp
      cases hp
    simp [hp, not_finds_of_poisoned hp, hnot]
  · rw [finds_iff hp hr hexclusive]
    by_cases hmatches : request.matches r = true
    · rw [grants_iff hr (matches_available hmatches) hexclusive, wouldGrant_iff hp,
        Std.ExtTreeMap.mem_iff_isSome_getElem?]
      rcases s.fabric.leases.val[r.id]? with _ | active
      · simp [hp, hmatches]
      · by_cases hrange : s.InRange ttl
        · simp [hp, hmatches, hrange]
        · simp [hp, hmatches, hrange]
    · simp [hmatches]

namespace Scenario

/-- Any resource. -/
def anyResource : ResourceRequest := ⟨none, none, none, ∅, false⟩

/-- The device is leased for 30 ns, and 40 ns pass. -/
def leaseAndExpire : Schedule Unit := registerAndLease ++ [.env (wait 40)]

theorem reachable_leaseAndExpire :
    (fabricSystem anySection).Reachable (after (start ()) leaseAndExpire) :=
  reachable_after () ⟨⟨.register device, rfl⟩, ⟨.leaseExclusive "device.0" "mission-a" 30, rfl⟩,
    elapse_wait 40, trivial⟩

end Scenario

open Scenario in
theorem query_agrees_leased :
    QueryAgrees anyResource .sorted "mission-b" 30 (after (start ()) registerAndLease).state
      device := by
  have hr : (after (start ()) registerAndLease).state.fabric.resources["device.0"]? =
      some device := by decide +kernel
  refine (query_agrees_iff reachable_registerAndLease hr rfl _ _ _ _).mpr ?_
  intro _ _
  have hleased : (after (start ()) registerAndLease).state.fabric.leases.val[device.id]? =
      some ⟨⟨1, "device.0", "mission-a"⟩, 30⟩ := by decide +kernel
  rw [hleased]
  exact Or.inl (by decide +kernel)

open Scenario in
/-- A resource whose lease has run out is not found, and would be leased. -/
theorem expired_lease_hides :
    ¬ ∀ c : Config (@Section.Reply Unit) (Shared Unit) Unit,
      (fabricSystem anySection).Reachable c → ∀ (k : String) (r : Resource),
        c.state.fabric.resources[k]? = some r → r.exclusive = true →
          ∀ request order owner ttl, QueryAgrees request order owner ttl c.state r := by
  intro h
  have hr : (after (start ()) leaseAndExpire).state.fabric.resources["device.0"]? =
      some device := by decide +kernel
  have hagrees := h _ reachable_leaseAndExpire "device.0" device hr rfl anyResource .sorted
    "mission-b" 30
  have hgrants : Grants device.id "mission-b" 30 (after (start ()) leaseAndExpire).state :=
    ⟨⟨2, "device.0", "mission-b"⟩, by decide +kernel⟩
  obtain ⟨found, hfound, hmem⟩ := hagrees.mpr ⟨by decide +kernel, hgrants⟩
  have hnothing : ((findAvailable anyResource .sorted).run Section.act
      (after (start ()) leaseAndExpire).state).1 = some [] := by decide +kernel
  rw [hnothing] at hfound
  obtain rfl := Option.some.inj hfound
  cases hmem

end NautiFabric
