import NautiFabric.Fabric.Steps

/-!
# NautiFabric.Fabric.Registry — the registry and the leases on it

`RegistryKeyed` says that a resource is registered under its own id, so what
`attach` and `release` hand to an adapter is the resource of the lease
(`call_sound`).

`NoOrphan` says that every recorded lease is on a registered resource. Two gaps
break it: `lease_exclusive` reads the registry before it takes the lease guard,
and `unregister` drops the lease guard before it removes the resource.
`OrphanGuard` is what the two late sections would have to find; it is exact:
`noOrphan_reachable` for every run that meets it, `orphan_of_not_guard` for any
section that does not.
-/

namespace NautiFabric

open Interleave

variable {W : Type}

/-! ## The registry is keyed by resource id -/

def RegistryKeyed (s : Shared W) : Prop :=
  ∀ (k : String) (r : Resource), s.fabric.resources[k]? = some r → r.id = k

/-- The adapter sections act on the resource of their lease. -/
def Section.WellFormed : Section W → Prop
  | .attach r _ lease => r.id = lease.resourceId
  | .releaseDetach r _ lease => r.id = lease.resourceId
  | _ => True

theorem RegistryKeyed.fresh {s : Shared W} (h : s.Fresh) : RegistryKeyed s := by
  intro k r hk
  rw [h.1] at hk
  simp [Fabric.default] at hk

theorem RegistryKeyed.act {s : Shared W} (h : RegistryKeyed s) (sec : Section W) :
    RegistryKeyed (sec.act s).2 := by
  by_cases hw : sec.writes
  -- two sections write the registry
  · cases sec with
    | register r₀ =>
        intro k r hk
        have hk : (s.fabric.resources.insert r₀.id r₀)[k]? = some r := hk
        rw [Std.ExtTreeMap.getElem?_insert] at hk
        split at hk
        · rename_i hcmp
          have hid : r₀.id = k := by simpa using hcmp
          exact (Option.some.inj hk) ▸ hid
        · exact h k r hk
    | unregisterRemove id =>
        intro k r hk
        have hk : (s.fabric.resources.erase id)[k]? = some r := hk
        rw [Std.ExtTreeMap.getElem?_erase] at hk
        split at hk
        · cases hk
        · exact h k r hk
    | registerAdapter => exact h
    | heartbeat => exact h
    | evictStale => exact h
    | _ => exact hw.elim
  · intro k r hk
    rw [(act_frame sec hw s).resources] at hk
    exact h k r hk

theorem RegistryKeyed.elapse {s s' : Shared W} (h : RegistryKeyed s) (he : s.Elapse s') :
    RegistryKeyed s' := by
  intro k r hk
  rw [he.2] at hk
  exact h k r hk

/-! ## What a call asks for -/

section Sections

variable {I : Shared W → Prop} {wf : Section W → Prop}

theorem leaseExclusive_sound {resourceId owner : String} {ttl : Duration}
    (hread : wf (.resource resourceId)) (hlease : wf (.leaseExclusive resourceId owner ttl)) :
    (leaseExclusive resourceId owner ttl).Sound Section.act I wf := by
  refine ⟨hread, fun s r _ _ => ?_⟩
  rcases r with _ | r
  · trivial
  · dsimp only [Prog.bind]
    split
    · trivial
    · split
      · trivial
      · exact ⟨hlease, fun _ _ _ _ => trivial⟩

theorem attach_sound {adapterName : String} {lease : Lease}
    (hread : wf (.resource lease.resourceId))
    (hattach : ∀ (s : Shared W) r, I s → s.fabric.resources[lease.resourceId]? = some r →
      wf (.attach r adapterName lease)) :
    (attach adapterName lease).Sound Section.act I wf := by
  refine ⟨hread, fun s r hs hr => ?_⟩
  rcases r with _ | r
  · trivial
  · have hget : s.fabric.resources[lease.resourceId]? = some r := by simpa [Section.act] using hr
    exact ⟨hattach s r hs hget, fun _ _ _ _ => trivial⟩

theorem detachTaken_sound {lease : Lease} (hread : wf (.resource lease.resourceId))
    (hdetach : ∀ (s : Shared W) r name, I s → s.fabric.resources[lease.resourceId]? = some r →
      wf (.releaseDetach r name lease)) (adapterName : Option String) :
    (detachTaken adapterName lease).Sound Section.act I wf := by
  rcases adapterName with _ | name
  · trivial
  · refine ⟨hread, fun s r hs hr => ?_⟩
    rcases r with _ | r
    · trivial
    · have hget : s.fabric.resources[lease.resourceId]? = some r := by
        simpa [Section.act] using hr
      exact ⟨hdetach s r name hs hget, fun _ _ _ _ => trivial⟩

theorem release_sound {lease : Lease} (hread : wf (.resource lease.resourceId))
    (hcheck : wf (.releaseCheck lease)) (htake : wf (.releaseTake lease))
    (hdetach : ∀ (s : Shared W) r name, I s → s.fabric.resources[lease.resourceId]? = some r →
      wf (.releaseDetach r name lease))
    (hremove : wf (.releaseRemove lease)) : (release lease).Sound Section.act I wf := by
  refine ⟨hcheck, fun s r _ _ => ?_⟩
  rcases r with e | ⟨⟩
  · trivial
  · refine ⟨htake, fun s adapterName _ _ => ?_⟩
    refine (detachTaken_sound hread hdetach adapterName).bind fun result => ?_
    rcases result with e | ⟨⟩
    · trivial
    · exact ⟨hremove, fun _ _ _ _ => trivial⟩

end Sections

/-! ## What a call hands to an adapter -/

section Sound

variable {I : Shared W → Prop} (hI : ∀ s, I s → RegistryKeyed s)

/-- A call that asks for the adapter sections with nothing but well-formed arguments. -/
abbrev SoundCall {α : Type} (I : Shared W → Prop) (p : Call W α) : Prop :=
  p.Sound Section.act I Section.WellFormed

theorem atomically_sound {sec : Section W} (h : sec.WellFormed) : SoundCall I (atomically sec) :=
  ⟨h, fun _ _ _ _ => trivial⟩

theorem unregister_sound (resourceId : String) : SoundCall I (unregister resourceId) := by
  refine ⟨trivial, fun s r _ _ => ?_⟩
  rcases r with e | ⟨⟩
  · trivial
  · exact ⟨trivial, fun _ _ _ _ => trivial⟩

theorem unregisterEach_sound (ids : List String) : SoundCall I (unregisterEach ids) := by
  induction ids with
  | nil => trivial
  | cons id ids ih => exact (unregister_sound id).bind fun _ => ih

theorem unregisterGone_sound (ids : List String) : SoundCall I (unregisterGone ids) := by
  induction ids with
  | nil => trivial
  | cons id ids ih =>
      refine (unregister_sound id).bind fun result => ih.bind fun lists => ?_
      dsimp only
      split <;> trivial

theorem registerEach_sound (rs : List Resource) : SoundCall I (registerEach rs) := by
  induction rs with
  | nil => trivial
  | cons r rs ih => exact Prog.Sound.bind (atomically_sound trivial) fun _ => ih

theorem evictStaleNodes_sound (olderThan : Duration) (nodeOrder idOrder : IterOrder) :
    SoundCall I (evictStaleNodes olderThan nodeOrder idOrder) := by
  refine ⟨trivial, fun s cutoff _ _ => ⟨trivial, fun s stale _ _ => ?_⟩⟩
  dsimp only [Prog.bind]
  split
  · trivial
  · exact ⟨trivial, fun _ owned _ _ => (unregisterEach_sound owned).bind fun _ => trivial⟩

theorem refreshLocal_sound (discovered : List Resource) :
    SoundCall I (refreshLocal discovered) := by
  refine ⟨trivial, fun s currentIds _ _ => ?_⟩
  exact (registerEach_sound _).bind fun _ => (unregisterGone_sound _).bind fun _ => trivial

include hI in
/-- Every call a client makes keeps to well-formed sections. -/
theorem call_sound (op : Op W) : SoundCall I op.call := by
  have ignore_sound : ∀ {α : Type} {p : Call W α}, SoundCall I p → SoundCall I p.ignore :=
    fun h => h.bind fun _ => trivial
  cases op with
  | register r => exact atomically_sound trivial
  | unregister resourceId => exact ignore_sound (unregister_sound resourceId)
  | resource resourceId => exact ignore_sound (atomically_sound trivial)
  | resources => exact ignore_sound (atomically_sound trivial)
  | registerAdapter adapter => exact atomically_sound trivial
  | adapterReports order => exact ignore_sound (atomically_sound trivial)
  | leaseExclusive resourceId owner ttl =>
      exact ignore_sound (leaseExclusive_sound trivial trivial)
  | findAvailable request order => exact ignore_sound (atomically_sound trivial)
  | attach adapterName lease =>
      exact ignore_sound (attach_sound trivial fun s r hs hr => hI s hs _ r hr)
  | release lease =>
      exact ignore_sound (release_sound trivial trivial trivial
        (fun s r _ hs hr => hI s hs _ r hr) trivial)
  | renewLease lease ttl => exact ignore_sound (atomically_sound trivial)
  | heartbeat node => exact atomically_sound trivial
  | evictStaleNodes olderThan nodeOrder idOrder =>
      exact ignore_sound (evictStaleNodes_sound olderThan nodeOrder idOrder)
  | discoverLocal discovered =>
      exact ignore_sound ((registerEach_sound discovered).bind fun _ => trivial)
  | refreshLocal discovered => exact ignore_sound (refreshLocal_sound discovered)

end Sound

/-! ## No orphaned lease -/

/-- Every recorded lease is on a registered resource. -/
def NoOrphan (s : Shared W) : Prop :=
  ∀ id, id ∈ s.fabric.leases.val → id ∈ s.fabric.resources

/-- `unregister` still finds no lease when it removes the resource, and
`lease_exclusive` still finds the resource registered when it grants. -/
def OrphanGuard : Section W → Shared W → Prop
  | .unregisterRemove resourceId, s => resourceId ∉ s.fabric.leases.val
  | .leaseExclusive resourceId _ ttl, s =>
    s.WouldGrant resourceId ttl → resourceId ∈ s.fabric.resources
  | _, _ => True

theorem mem_of_mem_retainUnexpired {now : Instant} {leases : StringMap ActiveLease} {k : String}
    (h : k ∈ retainUnexpired now leases) : k ∈ leases :=
  Std.ExtTreeMap.mem_of_mem_filter h

/-- Only a grant puts a new key into the lease table. -/
theorem mem_leases_act {sec : Section W} {s : Shared W} {id : String}
    (h : id ∈ (sec.act s).2.fabric.leases.val) :
    id ∈ s.fabric.leases.val ∨
      ∃ owner ttl, sec = .leaseExclusive id owner ttl ∧ s.WouldGrant id ttl := by
  generalize hs : (sec.act s).2 = s' at h
  have hstep : LeaseStep s sec s' := hs ▸ act_leaseStep sec s
  -- a lease that was not there before has been granted
  cases hstep with
  | idle hleases => exact Or.inl (hleases ▸ h)
  | prune hleases =>
      rw [hleases] at h
      exact Or.inl (mem_of_mem_retainUnexpired h)
  | @grant resourceId owner ttl _ _ hlease hgrant hleases =>
      rw [hleases, Std.ExtTreeMap.mem_insert] at h
      rcases h with heq | h
      · obtain rfl : resourceId = id := by simpa using heq
        exact Or.inr ⟨owner, ttl, rfl, hgrant⟩
      · exact Or.inl (mem_of_mem_retainUnexpired h)
  | @renew lease ttl active _ hactive _ _ hleases =>
      rw [hleases, Std.ExtTreeMap.mem_insert] at h
      rcases h with heq | h
      · obtain rfl : lease.resourceId = id := by simpa using heq
        exact Or.inl (StringMap.mem_of_getElem? hactive)
      · exact Or.inl (mem_of_mem_retainUnexpired h)
  | attach _ _ _ _ hleases => exact Or.inl (hleases ▸ h)
  | release _ _ hleases =>
      rw [hleases] at h
      exact Or.inl (Std.ExtTreeMap.mem_of_mem_erase h)

/-- A section that meets the guard orphans no lease. -/
theorem NoOrphan.act {sec : Section W} {s : Shared W} (h : NoOrphan s)
    (hg : OrphanGuard sec s) : NoOrphan (sec.act s).2 := by
  intro id hid
  by_cases hw : sec.writes
  · cases sec with
    | register r =>
        have hres : id ∈ s.fabric.resources := h id hid
        exact Std.ExtTreeMap.mem_insert.mpr (Or.inr hres)
    | unregisterRemove resourceId =>
        have hleased : id ∈ s.fabric.leases.val := hid
        have hne : resourceId ≠ id := fun heq => hg (heq ▸ hleased)
        exact Std.ExtTreeMap.mem_erase.mpr ⟨by simpa using hne, h id hleased⟩
    | registerAdapter => exact h id hid
    | heartbeat => exact h id hid
    | evictStale => exact h id hid
    | _ => exact hw.elim
  · rw [(act_frame sec hw s).resources]
    rcases mem_leases_act hid with hold | ⟨owner, ttl, rfl, hgrant⟩
    · exact h id hold
    · exact hg hgrant

/-- A section that does not meet the guard orphans a lease. -/
theorem orphan_of_not_guard {sec : Section W} {s : Shared W} (hg : ¬ OrphanGuard sec s) :
    ¬ NoOrphan (sec.act s).2 := by
  intro h
  cases sec with
  | unregisterRemove resourceId =>
      have hleased : resourceId ∈ s.fabric.leases.val := by simpa [OrphanGuard] using hg
      have hmem : resourceId ∈ s.fabric.resources.erase resourceId := h resourceId hleased
      simp at hmem
  | leaseExclusive resourceId owner ttl =>
      simp only [OrphanGuard, Classical.not_imp] at hg
      obtain ⟨hgrant, hgone⟩ := hg
      obtain ⟨-, hleases, hres⟩ := leaseExclusive_of_wouldGrant hgrant owner
      have hmem := h resourceId (by
        rw [Section.act, hleases]
        exact Std.ExtTreeMap.mem_insert_self)
      rw [Section.act, hres] at hmem
      exact hgone hmem
  | _ => exact hg trivial

theorem noOrphan_reachable {c : Config (@Section.Reply W) (Shared W) Unit}
    (h : (fabricSystem OrphanGuard).Reachable c) : NoOrphan c.state := by
  refine h.invariant NoOrphan ?_ ?_ ?_
  · intro s hs id hid
    rw [hs.1] at hid
    simp [Fabric.default] at hid
  · intro sec s hg hs
    exact hs.act hg
  · intro s s' he hs id hid
    rw [he.2] at hid ⊢
    exact hs id hid

/-- In every interleaving whose sections meet the guard no lease is orphaned, and
from any state so reached the guard is exactly what the next section needs to
keep it so. -/
theorem no_orphan_under_guard {c : Config (@Section.Reply W) (Shared W) Unit}
    (h : (fabricSystem OrphanGuard).Reachable c) :
    NoOrphan c.state ∧ ∀ sec, NoOrphan (sec.act c.state).2 ↔ OrphanGuard sec c.state := by
  refine ⟨noOrphan_reachable h, fun sec => ⟨fun hs => ?_, (noOrphan_reachable h).act⟩⟩
  by_contra hg
  exact orphan_of_not_guard hg hs

namespace Scenario

/-- Register the device and lease it. -/
def registerAndLease : Schedule Unit :=
  [.invoke (Op.register device).call, .advance 0,
   .invoke (Op.leaseExclusive "device.0" "mission-a" 30).call, .advance 0, .advance 0]

theorem reachable_registerAndLease :
    (fabricSystem anySection).Reachable (after (start ()) registerAndLease) :=
  reachable_after () ⟨⟨.register device, rfl⟩, ⟨.leaseExclusive "device.0" "mission-a" 30, rfl⟩,
    trivial⟩

/-- The device is registered; `unregister` finds no lease on it, a concurrent
`lease_exclusive` grants one, and `unregister` goes on to remove the device. -/
def unregisterRace : Schedule Unit :=
  [.invoke (Op.register device).call, .advance 0,
   .invoke (Op.unregister "device.0").call,
   .invoke (Op.leaseExclusive "device.0" "mission-a" 30).call,
   .advance 0, .advance 1, .advance 0, .advance 1]

end Scenario

open Scenario in
theorem no_orphan_under_guard_leased :
    "device.0" ∈ (after (start ()) registerAndLease).state.fabric.leases.val ∧
      NoOrphan (after (start ()) registerAndLease).state := by
  have hr : (fabricSystem OrphanGuard).Reachable (after (start ()) registerAndLease) :=
    (reachable_start OrphanGuard ()).schedule
      ⟨⟨.register device, rfl⟩, trivial, ⟨.leaseExclusive "device.0" "mission-a" 30, rfl⟩, trivial,
        fun _ => by decide, trivial⟩
  exact ⟨by decide, (no_orphan_under_guard hr).1⟩

open Scenario in
/-- Without the guard, a race of `unregister` and `lease_exclusive` orphans a lease. -/
theorem orphan_race :
    ¬ ∀ c : Config (@Section.Reply Unit) (Shared Unit) Unit,
      (fabricSystem anySection).Reachable c → NoOrphan c.state := by
  intro h
  have hr : (fabricSystem anySection).Reachable (after (start ()) unregisterRace) :=
    reachable_after () ⟨⟨.register device, rfl⟩, ⟨.unregister "device.0", rfl⟩,
      ⟨.leaseExclusive "device.0" "mission-a" 30, rfl⟩, trivial⟩
  have hleased : "device.0" ∈ (after (start ()) unregisterRace).state.fabric.leases.val := by
    decide
  have hgone : "device.0" ∉ (after (start ()) unregisterRace).state.fabric.resources := by
    decide
  exact hgone (h _ hr "device.0" hleased)

end NautiFabric
