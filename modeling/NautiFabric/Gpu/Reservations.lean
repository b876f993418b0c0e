import NautiFabric.Fabric.Registry
import NautiFabric.Gpu.Local

/-!
# NautiFabric.Gpu.Reservations — reservations and leases

The `gpu-local` adapter enters a reservation when a lease is attached, and has no
`detach` of its own that would take it out. `HeldBy` reads off the history which
resources are attached through it under a lease that has not been released; the
reservation table is to say the same (`FollowsLeases`).

`GpuInv` carries it through every interleaving in which no such lease is released:
the table only grows then, and the lease of a reservation stays recorded.
-/

namespace NautiFabric

open Interleave

namespace GpuLocal

/-! ## A fabric with a GPU adapter -/

/-- The state behind the adapters: the reservation table, and all that is outside of it. -/
structure GpuWorld (V : Type) where
  reservations : StringMap GpuReservation
  outside : V

/-- The adapter, in a world where `discover` finds the devices. -/
def adapter {V : Type} (discover : V → Except GpuDiscoveryError GpuDiscoveryResult) :
    ResourceAdapter (GpuWorld V) where
  name := name
  attach resource lease w :=
    let (result, reservations) := attach resource lease w.reservations
    (result, { w with reservations })
  detach := ResourceAdapter.defaultDetach
  capabilityReport w := capabilityReport (discover w.outside) w.reservations

variable {W V : Type}

/-- An adapter of another kind, which has no access to the reservations. -/
structure Bystander (adapter : ResourceAdapter (GpuWorld V)) : Prop where
  name : adapter.name ≠ name
  attach : ∀ resource lease w, (adapter.attach resource lease w).2.reservations = w.reservations
  detach : ∀ resource lease w, (adapter.detach resource lease w).2.reservations = w.reservations

variable (discover : V → Except GpuDiscoveryError GpuDiscoveryResult)

/-- The adapters that may be registered: the GPU adapter itself, and bystanders. -/
def Admits (other : ResourceAdapter (GpuWorld V)) : Prop :=
  other = adapter discover ∨ Bystander other

def Registers : Section (GpuWorld V) → Prop
  | .registerAdapter other => Admits discover other
  | _ => True

/-- No section ends a lease but the end of its release. -/
def EndsByRelease (sec : Section W) (s : Shared W) : Prop :=
  ∀ (k : String) (active : ActiveLease), s.fabric.leases.val[k]? = some active →
    (∃ active', (sec.act s).2.fabric.leases.val[k]? = some active' ∧
      active'.lease.id = active.lease.id) ∨
    ∃ lease : Lease, sec = .releaseRemove lease ∧ lease.resourceId = k ∧
      lease.id = active.lease.id

/-- All interleavings of fabric calls with the GPU adapter, in which leases end only by
release. Between the sections time passes, and the outside does what it likes. -/
def gpuSystem (guard : Section (GpuWorld V) → Shared (GpuWorld V) → Prop) :
    Interleave.System (@Section.Reply (GpuWorld V)) (Shared (GpuWorld V)) Unit where
  act := Section.act
  init s := s.Fresh ∧ s.world.reservations = ∅
  invocable p := ∃ op : Op (GpuWorld V), p = op.call
  env s s' := s.Elapse s' ∧ s'.world.reservations = s.world.reservations
  guard sec s := Registers discover sec ∧ EndsByRelease sec s ∧ guard sec s

/-! ## What is held -/

/-- The resource `k` was attached through the GPU adapter under the lease `id`, which has
not been released since. -/
inductive HeldBy (k : String) (id : UInt64) : List (Event W) → Prop
  | attached {a : ResourceAdapter W} {r : Resource} {lease : Lease} {t : Instant} {x : Attachment}
      {log : List (Event W)} (ha : a.name = name) (hr : r.id = k) (hid : lease.id = id) :
      HeldBy k id (.attachCall a r lease t (.ok x) :: log)
  | since {ev : Event W} {log : List (Event W)} (h : HeldBy k id log)
      (hev : ∀ presented recorded t, ev = .released presented recorded t →
        ¬ (presented.resourceId = k ∧ presented.id = id)) : HeldBy k id (ev :: log)

/-- The reservations are those of the held resources, each for the lease that holds it,
and the adapter reports how many there are. -/
structure FollowsLeases (s : Shared (GpuWorld V)) : Prop where
  table : ∀ k id, (s.world.reservations[k]?).map GpuReservation.leaseId = some id ↔
    HeldBy k id s.log
  count : ∃ held : List String, held.Nodup ∧ (∀ k, k ∈ held ↔ ∃ id, HeldBy k id s.log) ∧
    ((adapter discover).capabilityReport s.world).detail["reservations.current"]? =
      some (toString held.length)

/-- A release does not end a lease that holds a resource. -/
def ReleasesUnheld : Section W → Shared W → Prop
  | .releaseRemove lease, s => ¬ HeldBy lease.resourceId lease.id s.log
  | _, _ => True

/-! ## The history of what is held -/

/-- The event neither is a call of the GPU adapter nor ends a lease. -/
def Aside : Event W → Prop
  | .attachCall a _ _ _ (.ok _) => a.name ≠ name
  | .released _ _ _ => False
  | _ => True

theorem heldBy_cons_aside {ev : Event W} (hev : Aside ev) {k : String} {id : UInt64}
    {log : List (Event W)} : HeldBy k id (ev :: log) ↔ HeldBy k id log := by
  constructor
  · intro h
    cases h with
    | attached ha => exact absurd ha hev
    | since h => exact h
  · intro h
    refine .since h ?_
    rintro presented recorded t rfl
    exact hev.elim

theorem heldBy_append {evs log : List (Event W)} (hevs : ∀ ev ∈ evs, Aside ev) {k : String}
    {id : UInt64} : HeldBy k id (evs ++ log) ↔ HeldBy k id log := by
  induction evs with
  | nil => exact Iff.rfl
  | cons ev evs ih =>
      rw [List.cons_append, heldBy_cons_aside (hevs ev List.mem_cons_self)]
      exact ih fun ev hmem => hevs ev (List.mem_cons_of_mem _ hmem)

theorem heldBy_cons_released {lease recorded : Lease} {t : Instant} {log : List (Event W)}
    (hnone : ¬ HeldBy lease.resourceId lease.id log) {k : String} {id : UInt64} :
    HeldBy k id (.released lease recorded t :: log) ↔ HeldBy k id log := by
  constructor
  · intro h
    cases h with
    | since h => exact h
  · intro h
    refine .since h ?_
    rintro presented recorded' t' heq ⟨rfl, rfl⟩
    cases heq
    exact hnone h

theorem heldBy_cons_attached {a : ResourceAdapter W} {r : Resource} {lease : Lease} {t : Instant}
    {x : Attachment} {log : List (Event W)} (ha : a.name = name) {k : String} {id : UInt64} :
    HeldBy k id (.attachCall a r lease t (.ok x) :: log) ↔
      r.id = k ∧ lease.id = id ∨ HeldBy k id log := by
  constructor
  · intro h
    cases h with
    | attached _ hr hid => exact Or.inl ⟨hr, hid⟩
    | since h => exact Or.inr h
  · rintro (⟨hr, hid⟩ | h)
    · exact .attached ha hr hid
    · exact .since h (by simp)

theorem aside_of_quiet {ev : Event W} (h : ev.Quiet) : Aside ev := by
  cases ev <;> trivial

/-- Apart from an `attach`, a section changes nothing of what is held. -/
theorem heldBy_act {s : Shared W} {sec : Section W}
    (hs : ∀ r name lease, sec ≠ .attach r name lease)
    (hg : ReleasesUnheld sec s) {k : String} {id : UInt64} :
    HeldBy k id (sec.act s).2.log ↔ HeldBy k id s.log := by
  have hstep := act_leaseStep sec s
  generalize (sec.act s).2 = s' at hstep
  cases hstep with
  | idle _ _ hlog =>
      obtain ⟨evs, hlog, hquiet⟩ := hlog
      rw [hlog]
      exact heldBy_append fun ev hmem => aside_of_quiet (hquiet ev hmem)
  | prune _ _ hlog => rw [hlog]
  | grant _ _ _ _ hlog =>
      rw [hlog]
      apply heldBy_cons_aside
      trivial
  | renew _ _ _ _ _ hlog =>
      rw [hlog]
      apply heldBy_cons_aside
      trivial
  | attach => exact absurd rfl (hs _ _ _)
  | release _ _ _ _ hlog =>
      rw [hlog]
      exact heldBy_cons_released hg

/-! ## What an attach reserves -/

theorem reservations_of_error {resource : Resource} {lease : Lease}
    {reservations : StringMap GpuReservation} {e : FabricError}
    (h : (attach resource lease reservations).1 = .error e) :
    (attach resource lease reservations).2 = reservations := by
  unfold attach at h ⊢
  split
  · rfl
  · rename_i hkind
    rw [if_neg hkind] at h
    rcases hid : gpuId resource with _ | gpuId
    · rfl
    · rw [hid] at h
      dsimp only at h ⊢
      split at h
      · cases h
      · cases h

/-- Attached under a lease, a resource is reserved for it, and no other reservation changes. -/
theorem reservations_of_ok {resource : Resource} {lease : Lease}
    {reservations : StringMap GpuReservation} {x : Attachment}
    (h : (attach resource lease reservations).1 = .ok x) (k : String) :
    ((attach resource lease reservations).2[k]?).map GpuReservation.leaseId =
      if resource.id = k then some lease.id
      else (reservations[k]?).map GpuReservation.leaseId := by
  unfold attach at h ⊢
  split
  · rename_i hkind
    rw [if_pos hkind] at h
    cases h
  · rename_i hkind
    rw [if_neg hkind] at h
    rcases hid : gpuId resource with _ | gpuId
    · rw [hid] at h
      cases h
    · dsimp only
      split
      · -- reserved already, for the same lease
        rename_i existing hexisting
        obtain ⟨hget, hlease⟩ := Option.filter_eq_some_iff.mp hexisting
        split
        · rename_i hk
          subst hk
          rw [hget, Option.map_some, eq_of_beq hlease]
        · rfl
      · rw [Table.getElem?_insert]
        split
        · rfl
        · rfl

/-! ## The invariant -/

structure GpuInv (s : Shared (GpuWorld V)) : Prop where
  registry : RegistryKeyed s
  adapters : ∀ (name : String) other, s.fabric.adapters[name]? = some other →
    Admits discover other
  /-- the lease that holds a resource is the one recorded on it -/
  recorded : ∀ k id, HeldBy k id s.log →
    ∃ active, s.fabric.leases.val[k]? = some active ∧ active.lease.id = id
  table : ∀ k id, (s.world.reservations[k]?).map GpuReservation.leaseId = some id ↔
    HeldBy k id s.log

variable {discover}

theorem Admits.detach {other : ResourceAdapter (GpuWorld V)} (h : Admits discover other)
    (r : Resource) (lease : Lease) (w : GpuWorld V) :
    (other.detach r lease w).2.reservations = w.reservations := by
  rcases h with rfl | h
  · rfl
  · exact h.detach r lease w

/-- Apart from an `attach`, a section reserves nothing. -/
theorem GpuInv.reservations_act {s : Shared (GpuWorld V)} (h : GpuInv discover s)
    {sec : Section (GpuWorld V)} (hs : ∀ r name lease, sec ≠ .attach r name lease) :
    (sec.act s).2.world.reservations = s.world.reservations := by
  have hstep := act_worldStep sec s
  generalize (sec.act s).2 = s' at hstep
  cases hstep with
  | still hstill => rw [hstill.1]
  | attach => exact absurd rfl (hs _ _ _)
  | detach hadapter hworld =>
      rw [hworld]
      exact (h.adapters _ _ hadapter).detach _ _ _

/-- An `attach` that does not go through the GPU adapter changes nothing here. -/
theorem GpuInv.callAttach_aside {s : Shared (GpuWorld V)} (h : GpuInv discover s)
    {other : ResourceAdapter (GpuWorld V)} {r : Resource} {lease : Lease}
    (hreservations : (other.attach r lease s.world).2.reservations = s.world.reservations)
    (haside : Aside (.attachCall other r lease s.now (other.attach r lease s.world).1)) :
    GpuInv discover (s.callAttach other r lease) where
  registry := h.registry
  adapters := h.adapters
  recorded := fun k id hheld => h.recorded k id ((heldBy_cons_aside haside).mp hheld)
  table := by
    intro k id
    have hsame : (s.callAttach other r lease).world.reservations = s.world.reservations :=
      hreservations
    rw [hsame, h.table]
    exact (heldBy_cons_aside haside).symm

/-- An `attach` through the GPU adapter reserves the resource for the presented lease,
which is the one recorded on it. -/
theorem GpuInv.callAttach_own {s : Shared (GpuWorld V)} (h : GpuInv discover s) {r : Resource}
    {lease : Lease} {x : Attachment} (hkey : r.id = lease.resourceId) (hhonours : s.Honours lease)
    (hattach : (attach r lease s.world.reservations).1 = .ok x) :
    GpuInv discover (s.callAttach (adapter discover) r lease) := by
  obtain ⟨active, hrec, -⟩ := hhonours
  obtain ⟨hactive, hid⟩ := recorded?_eq_some.mp hrec
  have hlog : (s.callAttach (adapter discover) r lease).log =
      .attachCall (adapter discover) r lease s.now (.ok x) :: s.log := by
    rw [← hattach]
    rfl
  have hheld : ∀ k id, HeldBy k id (s.callAttach (adapter discover) r lease).log ↔
      r.id = k ∧ lease.id = id ∨ HeldBy k id s.log := by
    intro k id
    rw [hlog]
    exact heldBy_cons_attached rfl
  refine ⟨h.registry, h.adapters, ?_, ?_⟩
  · intro k id hk
    rcases (hheld k id).mp hk with ⟨rfl, rfl⟩ | hk
    · rw [hkey]
      exact ⟨active, hactive, hid⟩
    · exact h.recorded k id hk
  · intro k id
    have hreserved := reservations_of_ok hattach k
    have hworld : (s.callAttach (adapter discover) r lease).world.reservations =
      (attach r lease s.world.reservations).2 := rfl
    rw [hworld, hreserved, hheld]
    by_cases hk : r.id = k
    · rw [if_pos hk]
      constructor
      · intro heq
        exact Or.inl ⟨hk, Option.some.inj heq⟩
      · rintro (⟨-, rfl⟩ | hbefore)
        · rfl
        · -- what held the resource before is the recorded lease too
          obtain ⟨active', hactive', hid'⟩ := h.recorded k id hbefore
          rw [← hk, hkey] at hactive'
          obtain rfl := Option.some.inj (hactive.symm.trans hactive')
          rw [← hid, hid']
    · rw [if_neg hk, h.table]
      constructor
      · intro hbefore
        exact Or.inr hbefore
      · rintro (⟨heq, -⟩ | hbefore)
        · exact absurd heq hk
        · exact hbefore

theorem GpuInv.recordEntry {s : Shared (GpuWorld V)} (h : GpuInv discover s) (lease : Lease)
    (name : String) : GpuInv discover (s.recordEntry lease name) := by
  have haside : Aside (.attachmentRecorded lease name : Event (GpuWorld V)) := trivial
  refine ⟨h.registry, h.adapters, ?_, ?_⟩
  · intro k id hheld
    exact h.recorded k id ((heldBy_cons_aside haside).mp hheld)
  · intro k id
    exact (h.table k id).trans (heldBy_cons_aside haside).symm

theorem GpuInv.attach {s : Shared (GpuWorld V)} (h : GpuInv discover s) {r : Resource}
    {name : String} {lease : Lease} (hkey : r.id = lease.resourceId) :
    GpuInv discover (attachSection r name lease s).2 := by
  have hrun := attachSection_run r name lease s
  generalize attachSection r name lease s = outcome at hrun
  cases hrun with
  | poisoned => exact h
  | unauthorized => exact h
  | unknown => exact h
  | @failed other e hattaches hattach =>
      apply h.callAttach_aside
      · rcases h.adapters name other hattaches.adapter with rfl | hother
        · exact reservations_of_error hattach
        · exact hother.attach r lease s.world
      · rw [hattach]
        trivial
  | @attached other x hattaches hattach =>
      apply GpuInv.recordEntry
      rcases h.adapters name other hattaches.adapter with rfl | hother
      · exact h.callAttach_own hkey hattaches.honours hattach
      · apply h.callAttach_aside (hother.attach r lease s.world)
        rw [hattach]
        exact hother.name

/-- Apart from an `attach`, a section keeps what is held recorded. -/
theorem GpuInv.recorded_act {s : Shared (GpuWorld V)} (h : GpuInv discover s)
    {sec : Section (GpuWorld V)} (hends : EndsByRelease sec s) (hg : ReleasesUnheld sec s)
    {k : String} {id : UInt64} (hheld : HeldBy k id s.log) :
    ∃ active, (sec.act s).2.fabric.leases.val[k]? = some active ∧ active.lease.id = id := by
  obtain ⟨active, hactive, hid⟩ := h.recorded k id hheld
  rcases hends k active hactive with ⟨active', hactive', hid'⟩ | ⟨lease, rfl, rfl, hlease⟩
  · exact ⟨active', hactive', hid'.trans hid⟩
  · rw [← hid, ← hlease] at hheld
    exact absurd hheld hg

theorem GpuInv.act {s : Shared (GpuWorld V)} (h : GpuInv discover s) {sec : Section (GpuWorld V)}
    (hkey : sec.WellFormed) (hg : (gpuSystem discover ReleasesUnheld).guard sec s) :
    GpuInv discover (sec.act s).2 := by
  obtain ⟨hregisters, hends, hunheld⟩ := hg
  by_cases hs : ∀ r name lease, sec ≠ .attach r name lease
  · refine ⟨h.registry.act sec, ?_, ?_, ?_⟩
    · apply adapters_act h.adapters
      rintro other rfl
      exact hregisters
    · intro k id hheld
      exact h.recorded_act hends hunheld ((heldBy_act hs hunheld).mp hheld)
    · intro k id
      rw [h.reservations_act hs, h.table]
      exact (heldBy_act hs hunheld).symm
  · push Not at hs
    obtain ⟨r, name, lease, rfl⟩ := hs
    exact h.attach hkey

theorem GpuInv.fresh {s : Shared (GpuWorld V)} (h : s.Fresh) (hnone : s.world.reservations = ∅) :
    GpuInv discover s := by
  obtain ⟨hfabric, hlog⟩ := h
  have hheld : ∀ k id, ¬ HeldBy k id s.log := by
    intro k id hheld
    rw [hlog] at hheld
    cases hheld
  refine ⟨.fresh ⟨hfabric, hlog⟩, ?_, ?_, ?_⟩
  · intro name other hother
    simp [hfabric, Fabric.default] at hother
  · intro k id hk
    exact absurd hk (hheld k id)
  · intro k id
    simp [hnone, hheld]

theorem GpuInv.env {s s' : Shared (GpuWorld V)} (h : GpuInv discover s) (he : s.Elapse s')
    (hsame : s'.world.reservations = s.world.reservations) : GpuInv discover s' := by
  have hfabric : s'.fabric = s.fabric := by rw [he.2]
  have hlog : s'.log = s.log := by rw [he.2]
  refine ⟨h.registry.elapse he, ?_, ?_, ?_⟩
  · rw [hfabric]
    exact h.adapters
  · rw [hfabric, hlog]
    exact h.recorded
  · rw [hsame, hlog]
    exact h.table

theorem gpuInv_reachable {c : Config (@Section.Reply (GpuWorld V)) (Shared (GpuWorld V)) Unit}
    (h : (gpuSystem discover ReleasesUnheld).Reachable c) : GpuInv discover c.state := by
  refine (h.sound (GpuInv discover) Section.WellFormed ?_ ?_ ?_ ?_).1
  · rintro s ⟨hfresh, hnone⟩
    exact .fresh hfresh hnone
  · rintro p ⟨op, rfl⟩
    exact call_sound (fun _ hs => hs.registry) op
  · intro sec s hkey hg hs
    exact hs.act hkey hg
  · rintro s s' ⟨he, hsame⟩ hs
    exact hs.env he hsame

/-! ## What the report counts -/

/-- The report counts what is held, where the table says what is held. -/
theorem GpuInv.followsLeases {s : Shared (GpuWorld V)} (h : GpuInv discover s) :
    FollowsLeases discover s := by
  refine ⟨h.table, s.world.reservations.keys, Std.ExtTreeMap.nodup_keys, ?_, ?_⟩
  · intro k
    rw [Std.ExtTreeMap.mem_keys]
    constructor
    · intro hmem
      obtain ⟨reservation, hget⟩ := StringMap.exists_getElem? hmem
      refine ⟨reservation.leaseId, (h.table k reservation.leaseId).mp ?_⟩
      rw [hget, Option.map_some]
    · rintro ⟨id, hheld⟩
      have hget := (h.table k id).mpr hheld
      obtain ⟨reservation, hget, -⟩ := Option.map_eq_some_iff.mp hget
      exact StringMap.mem_of_getElem? hget
  · rw [Std.ExtTreeMap.length_keys]
    exact report_current (discover s.world.outside) s.world.reservations

/-! ## Runs in which nothing expires -/

/-- No recorded lease has expired. -/
def Unexpired (s : Shared W) : Prop :=
  ∀ (k : String) (active : ActiveLease), s.fabric.leases.val[k]? = some active →
    s.now < active.expiresAt

theorem Unexpired.retain {s : Shared W} (h : Unexpired s) {k : String} {active : ActiveLease}
    (hactive : s.fabric.leases.val[k]? = some active) :
    (retainUnexpired s.now s.fabric.leases.val)[k]? = some active := by
  rw [getElem?_retainUnexpired, hactive]
  simp [h k active hactive]

/-- Where no lease has expired, leases end only by release. -/
theorem Unexpired.endsByRelease {s : Shared W} (h : Unexpired s) (sec : Section W) :
    EndsByRelease sec s := by
  intro k active hactive
  have hstep := act_leaseStep sec s
  generalize (sec.act s).2 = s' at hstep
  cases hstep with
  | idle hleases => exact Or.inl ⟨active, by rw [hleases, hactive], rfl⟩
  | prune hleases => exact Or.inl ⟨active, by rw [hleases, h.retain hactive], rfl⟩
  | @grant resourceId _ _ _ _ _ hgrant hleases =>
      -- a grant needs a resource that is free
      have hne : resourceId ≠ k := by
        rintro rfl
        exact hgrant.free (StringMap.mem_of_getElem? (h.retain hactive))
      refine Or.inl ⟨active, ?_, rfl⟩
      rw [hleases, Table.getElem?_insert, if_neg hne, h.retain hactive]
  | @renew lease ttl active' _ hactive' _ _ hleases =>
      -- renewed, the lease is the same one with another end
      by_cases hk : lease.resourceId = k
      · rw [hk, hactive] at hactive'
        obtain rfl := Option.some.inj hactive'
        refine Or.inl ⟨⟨active.lease, s.now + ttl⟩, ?_, rfl⟩
        rw [hleases, Table.getElem?_insert, if_pos hk]
      · refine Or.inl ⟨active, ?_, rfl⟩
        rw [hleases, Table.getElem?_insert, if_neg hk, h.retain hactive]
  | attach _ _ _ _ hleases => exact Or.inl ⟨active, by rw [hleases, hactive], rfl⟩
  | @release lease active' _ hactive' hid hleases =>
      by_cases hk : lease.resourceId = k
      · rw [hk, hactive] at hactive'
        obtain rfl := Option.some.inj hactive'
        exact Or.inr ⟨lease, rfl, hk, hid.symm⟩
      · refine Or.inl ⟨active, ?_, rfl⟩
        rw [hleases, Table.getElem?_erase, if_neg hk, hactive]

/-- What the section grants lasts for some time. -/
def Lasting : Section W → Prop
  | .leaseExclusive _ _ ttl => 0 < ttl
  | .renewLease _ ttl => 0 < ttl
  | _ => True

/-- A lease that lasts is recorded. -/
theorem Unexpired.insert {s : Shared W} (h : Unexpired s) {key k : String}
    {recorded active : ActiveLease} (hlasts : s.now < recorded.expiresAt)
    (hactive : ((retainUnexpired s.now s.fabric.leases.val).insert key recorded)[k]? =
      some active) : s.now < active.expiresAt := by
  rw [Table.getElem?_insert] at hactive
  split at hactive
  · rw [← Option.some.inj hactive]
    exact hlasts
  · rw [getElem?_retainUnexpired] at hactive
    exact h k active (Option.filter_eq_some_iff.mp hactive).1

theorem Unexpired.act {s : Shared W} (h : Unexpired s) {sec : Section W} (hsec : Lasting sec) :
    Unexpired (sec.act s).2 := by
  intro k active hactive
  rw [act_now]
  have hstep := act_leaseStep sec s
  generalize (sec.act s).2 = s' at hstep hactive
  cases hstep with
  | idle hleases => exact h k active (by rw [← hleases, hactive])
  | prune hleases =>
      rw [hleases, getElem?_retainUnexpired] at hactive
      exact h k active (Option.filter_eq_some_iff.mp hactive).1
  | grant _ _ hleases =>
      rw [hleases] at hactive
      exact h.insert (lt_add_of_pos_right _ (Int.natCast_pos.mpr hsec)) hactive
  | renew _ _ _ hleases =>
      rw [hleases] at hactive
      exact h.insert (lt_add_of_pos_right _ (Int.natCast_pos.mpr hsec)) hactive
  | attach _ _ _ _ hleases => exact h k active (by rw [← hleases, hactive])
  | release _ _ hleases =>
      rw [hleases, Table.getElem?_erase] at hactive
      split at hactive
      · cases hactive
      · exact h k active hactive

/-- A call whose grants last can be made where nothing has expired, and then nothing has. -/
theorem seqReachable_call {guard : Section (GpuWorld V) → Shared (GpuWorld V) → Prop}
    (op : Op (GpuWorld V)) {s : Shared (GpuWorld V)}
    (hop : op.call.Sound Section.act (fun _ => True)
      fun sec => Registers discover sec ∧ Lasting sec ∧ ∀ s, guard sec s)
    (hs : (gpuSystem discover guard).SeqReachable s ∧ Unexpired s) :
    (gpuSystem discover guard).SeqReachable (op.call.run Section.act s).2 ∧
      Unexpired (op.call.run Section.act s).2 := by
  have hact : ∀ sec s, (Registers discover sec ∧ Lasting sec ∧ ∀ s, guard sec s) →
      Unexpired s → Unexpired (sec.act s).2 := fun sec s hsec h => h.act hsec.2.1
  constructor
  · have hguarded : op.call.Guarded Section.act (gpuSystem discover guard).guard s := by
      refine hop.guarded_of_keeps hact ?_ hs.2
      intro sec s' hsec hs'
      exact ⟨hsec.1, hs'.endsByRelease sec, hsec.2.2 s'⟩
    exact hs.1.step (.call op.call ⟨op, rfl⟩ hguarded)
  · have hleaves : op.call.Leaves Section.act (fun _ _ => True) Unexpired s :=
      hop.leaves hact (fun _ _ => trivial) hs.2
    exact hleaves (Prog.guarded_of_forall (fun _ _ => trivial) _ _)

/-! ## The reservations follow the leases -/

/-- As long as no release ends a lease that holds a resource, the reservations follow the
leases. -/
theorem reservations_follow
    {c : Config (@Section.Reply (GpuWorld V)) (Shared (GpuWorld V)) Unit}
    (h : (gpuSystem discover ReleasesUnheld).Reachable c) : FollowsLeases discover c.state :=
  (gpuInv_reachable h).followsLeases

namespace Samples

open Scenario

/-- A card that NVML knows, and nothing else in the world. -/
def geforce : GpuDevice where
  stableId := "0000:01:00.0"
  vendor := .nvidia
  deviceName := "NVIDIA GPU"
  vramTotalBytes := 17179869184
  vramUsedBytes := 0
  driver := "nvidia"
  pciBdf := "0000:01:00.0"
  uuid := some "GPU-abc"
  nvmlIndex := some 0
  displayOnly := false

def geforceFound (_ : Unit) : Except GpuDiscoveryError GpuDiscoveryResult := .ok ⟨[geforce]⟩

def unreserved : Shared (GpuWorld Unit) := start ⟨∅, ()⟩

def card : Lease := ⟨1, "local.gpu.0000_01_00_0", "mission-a"⟩

/-- The card is leased and attached. -/
def reserveCard : Schedule (GpuWorld Unit) :=
  [.invoke (Op.register (geforce.asResource "local")).call,
   .invoke (Op.registerAdapter (adapter geforceFound)).call,
   .invoke (Op.leaseExclusive "local.gpu.0000_01_00_0" "mission-a" 30).call,
   .invoke (Op.attach "gpu-local" card).call]

/-- The card is leased, attached and released. -/
def releaseCard : Schedule (GpuWorld Unit) := reserveCard ++ [.invoke (Op.release card).call]

theorem seqReachable_reserveCard
    {guard : Section (GpuWorld Unit) → Shared (GpuWorld Unit) → Prop}
    (hguard : ∀ sec, (∀ lease, sec ≠ .releaseRemove lease) → ∀ s, guard sec s) :
    (gpuSystem geforceFound guard).SeqReachable (afterCalls unreserved reserveCard) ∧
      Unexpired (afterCalls unreserved reserveCard) := by
  have hinit : (gpuSystem geforceFound guard).SeqReachable unreserved :=
    .init _ ⟨⟨rfl, rfl⟩, rfl⟩
  have hnone : Unexpired unreserved := by
    intro k active hactive
    simp [unreserved, start, Fabric.default] at hactive
  have hregister := seqReachable_call (.register (geforce.asResource "local"))
    ⟨⟨trivial, trivial, hguard _ (by simp)⟩, fun _ _ _ _ => trivial⟩ ⟨hinit, hnone⟩
  have hadapter := seqReachable_call (.registerAdapter (adapter geforceFound))
    ⟨⟨Or.inl rfl, trivial, hguard _ (by simp)⟩, fun _ _ _ _ => trivial⟩ hregister
  have hlasts : Lasting (.leaseExclusive "local.gpu.0000_01_00_0" "mission-a" 30 :
      Section (GpuWorld Unit)) := Nat.zero_lt_succ 29
  have hlease := seqReachable_call (.leaseExclusive "local.gpu.0000_01_00_0" "mission-a" 30)
    ((leaseExclusive_sound ⟨trivial, trivial, hguard _ (by simp)⟩
      ⟨trivial, hlasts, hguard _ (by simp)⟩).bind fun _ => trivial) hadapter
  exact seqReachable_call (.attach "gpu-local" card)
    ((attach_sound ⟨trivial, trivial, hguard _ (by simp)⟩
      fun _ _ _ _ => ⟨trivial, trivial, hguard _ (by simp)⟩).bind fun _ => trivial) hlease

theorem seqReachable_releaseCard :
    (gpuSystem geforceFound anySection).SeqReachable (afterCalls unreserved releaseCard) := by
  have hreserved := seqReachable_reserveCard (fun (_ : Section (GpuWorld Unit)) _ _ => trivial)
  have hrelease : (release card).Sound Section.act (fun _ => True) fun sec =>
      Registers geforceFound sec ∧ Lasting sec ∧ ∀ s, anySection sec s :=
    release_sound ⟨trivial, trivial, fun _ => trivial⟩ ⟨trivial, trivial, fun _ => trivial⟩
      ⟨trivial, trivial, fun _ => trivial⟩ (fun _ _ _ _ _ => ⟨trivial, trivial, fun _ => trivial⟩)
      ⟨trivial, trivial, fun _ => trivial⟩
  exact (seqReachable_call (.release card) (hrelease.bind fun _ => trivial) hreserved).1

end Samples

open Scenario Samples in
theorem reservations_follow_reserved :
    (afterCalls unreserved reserveCard).world.reservations.size = 1 ∧
      FollowsLeases geforceFound (afterCalls unreserved reserveCard) := by
  constructor
  · decide +kernel
  · have hguard : ∀ sec, (∀ lease, sec ≠ .releaseRemove lease) →
        ∀ s : Shared (GpuWorld Unit), ReleasesUnheld sec s := by
      intro sec hsec s
      cases sec <;> first | trivial | exact absurd rfl (hsec _)
    exact reservations_follow (seqReachable_reserveCard hguard).1.reachable

open Scenario Samples in
/-- A release leaves the reservation of the card in the table. -/
theorem released_card_reserved :
    ¬ ∀ s, (gpuSystem geforceFound anySection).SeqReachable s → FollowsLeases geforceFound s := by
  intro h
  have hfollows := h _ seqReachable_releaseCard
  have hreserved : ((afterCalls unreserved releaseCard).world.reservations[card.resourceId]?).map
      GpuReservation.leaseId = some card.id := by
    decide +kernel
  have hheld := (hfollows.table _ _).mp hreserved
  have hlog : ∃ recorded t log, (afterCalls unreserved releaseCard).log =
      .released card recorded t :: log := ⟨_, _, _, by with_unfolding_all rfl⟩
  obtain ⟨recorded, t, log, hlog⟩ := hlog
  rw [hlog] at hheld
  cases hheld with
  | since _ hev => exact hev card recorded t rfl ⟨rfl, rfl⟩

end GpuLocal

end NautiFabric
