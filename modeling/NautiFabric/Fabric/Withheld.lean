import NautiFabric.Fabric.Asks
import NautiFabric.Lib.Table

/-!
# NautiFabric.Fabric.Withheld — resources that are never leased

`lease_exclusive` reads the registry before it takes the lease guard, so what it has read may
be out of date when it grants. A resource that is only ever registered unavailable, or not for
exclusive use, is still never granted, whatever happens in between (`unclaimed_reachable`):
a call that comes to the guard has read a resource that could be leased.
-/

namespace NautiFabric

open Interleave

variable {W : Type}

/-- What `lease_exclusive` asks of a resource. -/
def Resource.Leasable (r : Resource) : Prop := r.state = .available ∧ r.exclusive = true

/-- The section does not ask for a lease on the resource. -/
def Section.LeasesOther (id : String) : Section W → Prop
  | .leaseExclusive resourceId _ _ => resourceId ≠ id
  | _ => True

/-- The section registers nothing under the id that could be leased. -/
def Section.Withholds (id : String) : Section W → Prop
  | .register r => r.id = id → ¬ r.Leasable
  | _ => True

/-- Nobody has, or has had, anything to do with the resource. -/
structure Unclaimed (id : String) (s : Shared W) : Prop where
  granted : ∀ lease ∈ grantedLeases s.log, lease.resourceId ≠ id
  leases : id ∉ s.fabric.leases.val
  attachments : id ∉ s.fabric.attachments
  attachCalls : ∀ adapter r lease t result, .attachCall adapter r lease t result ∈ s.log →
    lease.resourceId ≠ id

structure Withheld (id : String) (s : Shared W) : Prop where
  registered : ∀ r, s.fabric.resources[id]? = some r → ¬ r.Leasable
  latest : RecordedLatest s
  unclaimed : Unclaimed id s

variable {id : String}

theorem asks_leaseExclusive (resourceId owner : String) (ttl : Duration) :
    (leaseExclusive resourceId owner ttl : Call W _).Sound Section.act (Withheld id)
      (Section.LeasesOther id) := by
  by_cases hid : resourceId = id
  · -- the registry says no
    subst hid
    refine ⟨trivial, fun s r hs hr => ?_⟩
    rcases r with _ | r
    · trivial
    · have hget : s.fabric.resources[resourceId]? = some r := by simpa [Section.act] using hr
      have hleasable := hs.registered r hget
      dsimp only [Prog.bind]
      split
      · trivial
      · rename_i havailable
        split
        · trivial
        · rename_i hexclusive
          exact absurd ⟨not_not.mp havailable, by simpa using hexclusive⟩ hleasable
  · exact leaseExclusive_sound trivial hid

theorem call_leasesOther (op : Op W) :
    op.call.Sound Section.act (Withheld id) (Section.LeasesOther id) := by
  have hplain : ∀ sec : Section W, sec.plain → sec.LeasesOther id := by
    intro sec hsec
    cases sec <;> trivial
  by_cases hop : ∃ lease, op = .release lease
  · obtain ⟨lease, rfl⟩ := hop
    have hrelease : (release lease : Call W _).Sound Section.act (Withheld id)
        (Section.LeasesOther id) :=
      release_sound trivial trivial trivial (fun _ _ _ _ _ => trivial) trivial
    exact hrelease.bind fun _ => trivial
  · push Not at hop
    refine call_asks hplain asks_leaseExclusive ?_ op hop
    intro name lease
    exact attach_sound trivial fun _ _ _ _ => trivial

/-! ## One section -/

theorem latestGrant_eq_none {log : List (Event W)} :
    latestGrant log id = none ↔ ∀ lease ∈ grantedLeases log, lease.resourceId ≠ id := by
  simp [latestGrant]

/-- The recorded leases are on other resources, if the granted ones are. -/
theorem not_mem_leases {s : Shared W} (hlatest : RecordedLatest s)
    (hnone : latestGrant s.log id = none) : id ∉ s.fabric.leases.val := by
  intro hmem
  obtain ⟨active, hget⟩ := StringMap.exists_getElem? hmem
  have hlast := hlatest id active hget
  rw [hnone] at hlast
  cases hlast

theorem Shared.Honours.mem_leases {s : Shared W} {lease : Lease} (h : s.Honours lease) :
    lease.resourceId ∈ s.fabric.leases.val := by
  obtain ⟨active, hrec, -⟩ := h
  exact StringMap.mem_of_getElem? (recorded?_eq_some.mp hrec).1

theorem latestGrant_act {s : Shared W} {sec : Section W} (hother : sec.LeasesOther id) :
    latestGrant (sec.act s).2.log id = latestGrant s.log id := by
  rcases (act_leaseStep sec s).latestGrant_cases with hsame | ⟨lease, ttl, rfl, -, -, -, hsame⟩
  · exact hsame id
  · exact hsame id (Ne.symm hother)

theorem Unclaimed.honours {s : Shared W} (h : Unclaimed id s) {lease : Lease}
    (hhonours : s.Honours lease) : lease.resourceId ≠ id := by
  have hmem := hhonours.mem_leases
  intro hid
  rw [hid] at hmem
  exact h.leases hmem

theorem Unclaimed.act {s : Shared W} (h : Unclaimed id s) (hlatest : RecordedLatest s)
    {sec : Section W} (hother : sec.LeasesOther id) : Unclaimed id (sec.act s).2 := by
  have hnone : latestGrant (sec.act s).2.log id = none := by
    rw [latestGrant_act hother]
    exact latestGrant_eq_none.mpr h.granted
  refine ⟨latestGrant_eq_none.mp hnone, not_mem_leases (hlatest.act sec) hnone, ?_, ?_⟩
  · have hstep := act_attachStep sec s
    generalize (sec.act s).2 = s' at hstep
    cases hstep with
    | idle hattachments => rw [hattachments]; exact h.attachments
    | record hhonours _ hattachments =>
        rw [hattachments]
        intro hmem
        rcases Std.ExtTreeMap.mem_insert.mp hmem with heq | hmem
        · exact h.honours hhonours (by simpa using heq)
        · exact h.attachments hmem
    | take _ hattachments =>
        rw [hattachments]
        intro hmem
        exact h.attachments (Std.ExtTreeMap.mem_of_mem_erase hmem)
    | detach _ hattachments => rw [hattachments]; exact h.attachments
  · intro adapter r lease t result hmem
    rcases (act_leaseStep sec s).attachCall_cases hmem with hbefore | ⟨name, rfl⟩
    · exact h.attachCalls adapter r lease t result hbefore
    · -- the adapter is called only under a lease that is honoured
      have hrun := attachSection_run r name lease s
      simp only [Section.act] at hmem
      generalize attachSection r name lease s = outcome at hrun hmem
      cases hrun with
      | poisoned => exact h.attachCalls adapter r lease t result hmem
      | unauthorized => exact h.attachCalls adapter r lease t result hmem
      | unknown => exact h.attachCalls adapter r lease t result hmem
      | failed hattaches => exact h.honours hattaches.honours
      | attached hattaches => exact h.honours hattaches.honours

theorem Withheld.act {s : Shared W} (h : Withheld id s) {sec : Section W}
    (hother : sec.LeasesOther id) (hwithholds : sec.Withholds id) : Withheld id (sec.act s).2 := by
  refine ⟨?_, h.latest.act sec, h.unclaimed.act h.latest hother⟩
  by_cases hw : sec.writes
  · cases sec with
    | register r =>
        intro r' hget
        have hget : (s.fabric.resources.insert r.id r)[id]? = some r' := hget
        rw [Table.getElem?_insert] at hget
        split at hget
        · rename_i hid
          obtain rfl := Option.some.inj hget
          exact hwithholds hid
        · exact h.registered r' hget
    | unregisterRemove resourceId =>
        intro r' hget
        have hget : (s.fabric.resources.erase resourceId)[id]? = some r' := hget
        rw [Table.getElem?_erase] at hget
        split at hget
        · cases hget
        · exact h.registered r' hget
    | registerAdapter => exact h.registered
    | heartbeat => exact h.registered
    | evictStale => exact h.registered
    | _ => exact hw.elim
  · rw [(act_frame sec hw s).resources]
    exact h.registered

theorem Withheld.fresh {s : Shared W} (h : s.Fresh) : Withheld id s := by
  have hfabric := h.1
  have hlog := h.2
  refine ⟨?_, .fresh h, ?_, ?_, ?_, ?_⟩
  · simp [hfabric, Fabric.default]
  · simp [hlog, grantedLeases]
  · simp [hfabric, Fabric.default]
  · simp [hfabric, Fabric.default]
  · simp [hlog]

theorem Withheld.elapse {s s' : Shared W} (h : Withheld id s) (he : s.Elapse s') :
    Withheld id s' := by
  rw [he.2]
  exact ⟨h.registered, h.latest, h.unclaimed.granted, h.unclaimed.leases,
    h.unclaimed.attachments, h.unclaimed.attachCalls⟩

/-- In every interleaving in which nothing that could be leased is registered under an id: no
lease on it is ever granted or recorded, and no adapter is ever asked to attach it. -/
theorem unclaimed_reachable {guard : Section W → Shared W → Prop} {id : String}
    (hguard : ∀ sec s, guard sec s → sec.Withholds id)
    {c : Config (@Section.Reply W) (Shared W) Unit} (h : (fabricSystem guard).Reachable c) :
    Unclaimed id c.state := by
  have hsound := h.sound (Withheld id) (Section.LeasesOther id) (fun s hs => .fresh hs)
    (by rintro p ⟨op, rfl⟩; exact call_leasesOther op)
    (fun sec s hother hg hs => hs.act hother (hguard sec s hg)) fun s s' he hs => hs.elapse he
  exact hsound.1.unclaimed

end NautiFabric
