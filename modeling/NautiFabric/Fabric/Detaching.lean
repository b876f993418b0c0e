import NautiFabric.Fabric.Attachments
import NautiFabric.Fabric.Release
import NautiFabric.Fabric.Sequential
import NautiFabric.Lib.Table

/-!
# NautiFabric.Fabric.Detaching — what a release detaches, over sequential runs

The attachment table holds one entry for a resource, so a second adapter
attached under the same lease takes the place of the first, and `release`
detaches the second one only. `DetachGuard` excludes it; under the guard the
entry of a resource covers what is attached under the lease granted last
(`EntryCovers`), and a release that succeeds has detached everything
(`release_detaches_all`).
-/

namespace NautiFabric

open Interleave

variable {W : Type}

/-! ## What is attached and not detached -/

/-- The adapter attached lease `id` on `k`, and has not been asked to detach it since. -/
inductive Undetached (k : String) (id : UInt64) (a : ResourceAdapter W) : List (Event W) → Prop
  | attached {r : Resource} {lease : Lease} {t : Instant} {x : Attachment} {log : List (Event W)}
      (hr : r.id = k) (hid : lease.id = id) :
      Undetached k id a (.attachCall a r lease t (.ok x) :: log)
  | since {ev : Event W} {log : List (Event W)} (h : Undetached k id a log)
      (hev : ∀ r lease t result, ev = .detachCall a r lease t result →
        ¬ (r.id = k ∧ lease.id = id)) : Undetached k id a (ev :: log)

/-- Every successful `attach` under the lease was followed by a `detach` of the
same adapter under it. -/
def AllDetached (log : List (Event W)) (lease : Lease) : Prop :=
  ∀ (after before : List (Event W)) (a : ResourceAdapter W) (r : Resource) (L : Lease)
    (t : Instant) (x : Attachment),
    log = after ++ .attachCall a r L t (.ok x) :: before →
    r.id = lease.resourceId → L.id = lease.id →
    ∃ r' L' t' result, .detachCall a r' L' t' result ∈ after ∧ r'.id = lease.resourceId ∧
      L'.id = lease.id

theorem undetached_of_split {k : String} {id : UInt64} {a : ResourceAdapter W} {r : Resource}
    {L : Lease} {t : Instant} {x : Attachment} {after before : List (Event W)}
    (hr : r.id = k) (hid : L.id = id)
    (hnone : ¬ ∃ r' L' t' result, .detachCall a r' L' t' result ∈ after ∧ r'.id = k ∧ L'.id = id) :
    Undetached k id a (after ++ .attachCall a r L t (.ok x) :: before) := by
  induction after with
  | nil => exact .attached hr hid
  | cons ev after ih =>
      refine .since (ih ?_) ?_
      · rintro ⟨r', L', t', result, hmem, hkey⟩
        exact hnone ⟨r', L', t', result, List.mem_cons_of_mem _ hmem, hkey⟩
      · rintro r' L' t' result rfl hkey
        exact hnone ⟨r', L', t', result, List.mem_cons_self, hkey⟩

theorem allDetached_of_forall {log : List (Event W)} {lease : Lease}
    (h : ∀ a, ¬ Undetached lease.resourceId lease.id a log) : AllDetached log lease := by
  intro after before a r L t x hlog hr hid
  by_contra hnone
  rw [hlog] at h
  exact h a (undetached_of_split hr hid hnone)

/-- The newest event is not an `attach`: what is undetached was so before. -/
theorem Undetached.of_cons {k : String} {id : UInt64} {a : ResourceAdapter W} {ev : Event W}
    {log : List (Event W)} (h : Undetached k id a (ev :: log))
    (hev : ∀ b r lease t x, ev ≠ .attachCall b r lease t (.ok x)) : Undetached k id a log := by
  cases h with
  | attached => exact absurd rfl (hev _ _ _ _ _)
  | since h => exact h

theorem Undetached.of_append {k : String} {id : UInt64} {a : ResourceAdapter W}
    {evs log : List (Event W)} (hevs : ∀ ev ∈ evs, ev.Unattached)
    (h : Undetached k id a (evs ++ log)) : Undetached k id a log := by
  induction evs with
  | nil => exact h
  | cons ev evs ih =>
      have hev : ev.Unattached := hevs ev (by simp)
      refine ih (fun ev hm => hevs ev (by simp [hm])) (h.of_cons ?_)
      rintro b r lease t x rfl
      exact hev

/-! ## The invariant -/

/-- What is undetached under the lease granted last on a resource is the adapter
that the entry of the resource names. -/
def EntryCovers (s : Shared W) : Prop :=
  ∀ (k : String) (latest : Lease) (a : ResourceAdapter W), latestGrant s.log k = some latest →
    Undetached k latest.id a s.log →
    ∃ name, s.fabric.attachments[k]? = some name ∧ s.fabric.adapters[name]? = some a

structure DetachInv (s : Shared W) : Prop where
  noOrphan : NoOrphan s
  keyed : RegistryKeyed s
  latest : RecordedLatest s
  covers : EntryCovers s

/-- No registered adapter is replaced. -/
def NotReplaced : Section W → Shared W → Prop
  | .registerAdapter adapter, s => ∀ a, s.fabric.adapters[adapter.name]? = some a → a = adapter
  | _, _ => True

/-- No adapter is replaced; no lease is attached through a second adapter while a
first one is attached under it; and no granted id is one under which an adapter
is still attached on the resource. -/
def DetachGuard : Section W → Shared W → Prop
  | .registerAdapter adapter, s => NotReplaced (.registerAdapter adapter) s
  | .attach r name lease, s => s.Honours lease → ∀ adapter attachment,
    s.fabric.adapters[name]? = some adapter →
    (adapter.attach r lease s.world).1 = .ok attachment →
    ∀ a, Undetached lease.resourceId lease.id a s.log → a = adapter
  | .leaseExclusive resourceId _ ttl, s => s.WouldGrant resourceId ttl →
    ∀ a, ¬ Undetached resourceId (s.fabric.nextLeaseId + 1) a s.log
  | _, _ => True

/-- An adapter stays under its name. -/
theorem getElem?_adapters_kept {s : Shared W} {sec : Section W} (hg : DetachGuard sec s)
    {name : String} {a : ResourceAdapter W} (h : s.fabric.adapters[name]? = some a) :
    (sec.act s).2.fabric.adapters[name]? = some a := by
  by_cases hw : sec.writes
  · cases sec with
    | registerAdapter adapter =>
        have hget := Table.getElem?_insert s.fabric.adapters adapter.name name adapter
        refine hget.trans ?_
        split
        · rename_i heq
          have hsame : a = adapter := hg a (heq ▸ h)
          rw [hsame]
        · exact h
    | register => exact h
    | unregisterRemove => exact h
    | heartbeat => exact h
    | evictStale => exact h
    | _ => exact hw.elim
  · rw [(act_frame sec hw s).adapters]
    exact h

/-- A section that leaves the adapters alone keeps the entries covering. -/
theorem EntryCovers.act {s : Shared W} (h : EntryCovers s) {sec : Section W}
    (hg : DetachGuard sec s) (hs : ¬ sec.attaches) : EntryCovers (sec.act s).2 := by
  intro k latest a hlatest hundetached
  have hcases := (act_leaseStep sec s).latestGrant_cases
  have hadapters : ∀ name, s.fabric.adapters[name]? = some a →
      (sec.act s).2.fabric.adapters[name]? = some a := fun name => getElem?_adapters_kept hg
  have hstep := act_attachStep sec s
  generalize (sec.act s).2 = s' at hlatest hundetached hcases hadapters hstep ⊢
  cases hstep with
  | record => exact absurd trivial hs
  | take => exact absurd trivial hs
  | detach => exact absurd trivial hs
  | idle hattachments hlog =>
      obtain ⟨evs, hlog, hevs⟩ := hlog
      rw [hlog] at hundetached
      have hbefore := hundetached.of_append hevs
      have hold : latestGrant s.log k = some latest →
          ∃ name, s'.fabric.attachments[k]? = some name ∧ s'.fabric.adapters[name]? = some a := by
        intro hlatest
        obtain ⟨name, hentry, hadapter⟩ := h k latest a hlatest hbefore
        exact ⟨name, by rw [hattachments]; exact hentry, hadapters name hadapter⟩
      rcases hcases with hsame | ⟨granted, ttl, rfl, hgrant, hid, hnew, hother⟩
      · exact hold ((hsame k).symm.trans hlatest)
      · by_cases hk : k = granted.resourceId
        · -- the guard keeps the granted id off what is still attached
          subst hk
          obtain rfl := Option.some.inj (hnew.symm.trans hlatest)
          rw [hid] at hbefore
          exact absurd hbefore (hg hgrant a)
        · exact hold ((hother k hk).symm.trans hlatest)

theorem detachInv_sections : KeptBySections DetachGuard (@DetachInv W) :=
  fun sec _ hs hg ho h =>
    ⟨h.noOrphan.act ho, h.keyed.act sec, h.latest.act sec, h.covers.act hg hs⟩

/-! ## Attaching and releasing -/

/-- An `attach` records its entry when the adapter succeeds, and else changes nothing
that matters here. -/
theorem attach_act_cases (r : Resource) (name : String) (lease : Lease) (s : Shared W) :
    (∃ evs, (Section.act (.attach r name lease) s).2.log = evs ++ s.log ∧
        (∀ ev ∈ evs, ev.Unattached) ∧
        (Section.act (.attach r name lease) s).2.fabric.attachments = s.fabric.attachments) ∨
      ∃ adapter x, s.Honours lease ∧ s.fabric.adapters[name]? = some adapter ∧
        (adapter.attach r lease s.world).1 = .ok x ∧
        (Section.act (.attach r name lease) s).2.log =
          .attachmentRecorded lease name :: .attachCall adapter r lease s.now (.ok x) :: s.log ∧
        (Section.act (.attach r name lease) s).2.fabric.attachments =
          s.fabric.attachments.insert lease.resourceId name := by
  have hrun := attachSection_run r name lease s
  simp only [Section.act]
  generalize attachSection r name lease s = outcome at hrun
  -- only a successful `attach` records an entry
  cases hrun with
  | poisoned => exact Or.inl ⟨[], rfl, by simp, rfl⟩
  | unauthorized => exact Or.inl ⟨[], rfl, by simp, rfl⟩
  | unknown => exact Or.inl ⟨[], rfl, by simp, rfl⟩
  | @failed adapter e h hattach =>
      refine Or.inl ⟨[.attachCall adapter r lease s.now (.error e)], ?_,
        by simp [Event.Unattached], rfl⟩
      rw [← hattach]
      rfl
  | @attached adapter x h hattach =>
      refine Or.inr ⟨adapter, x, h.honours, h.adapter, hattach, ?_, rfl⟩
      rw [← hattach]
      rfl

/-- Events that are neither grants nor adapter calls change no latest grant. -/
theorem latestGrant_attach (r : Resource) (name : String) (lease : Lease) (s : Shared W)
    (k : String) :
    latestGrant (Section.act (.attach r name lease) s).2.log k = latestGrant s.log k := by
  rcases (act_leaseStep (.attach r name lease) s).latestGrant_cases with hsame | ⟨_, _, hsec, -⟩
  · exact hsame k
  · cases hsec

theorem EntryCovers.attach {s : Shared W} (h : EntryCovers s) (hlatest : RecordedLatest s)
    {r : Resource} {name : String} {lease : Lease} (hkey : r.id = lease.resourceId)
    (hg : DetachGuard (.attach r name lease) s) :
    EntryCovers (Section.act (.attach r name lease) s).2 := by
  intro k latest a hgrant hundetached
  rw [latestGrant_attach] at hgrant
  rw [(act_frame (.attach r name lease) not_false s).adapters]
  rcases attach_act_cases r name lease s with
    ⟨evs, hlog, hevs, hattachments⟩ | ⟨adapter, x, hhonours, hadapter, hok, hlog, hattachments⟩
  · rw [hlog] at hundetached
    rw [hattachments]
    exact h k latest a hgrant (hundetached.of_append hevs)
  · rw [hlog] at hundetached
    rw [hattachments, Table.getElem?_insert]
    have hcall := hundetached.of_cons (by simp)
    have hsole := hg hhonours adapter x hadapter hok
    obtain ⟨active, hrec, -⟩ := hhonours
    obtain ⟨hrecorded, hid⟩ := hlatest.of_recorded hrec
    by_cases hk : lease.resourceId = k
    · -- under the presented lease there is only the adapter that has just attached
      subst hk
      obtain rfl := Option.some.inj (hrecorded.symm.trans hgrant)
      rw [hid] at hcall
      rw [if_pos rfl]
      refine ⟨name, rfl, ?_⟩
      cases hcall with
      | attached => exact hadapter
      | since hbefore =>
          rw [hsole a hbefore]
          exact hadapter
    · rw [if_neg hk]
      cases hcall with
      | attached hr => exact absurd (hkey.symm.trans hr) hk
      | since hbefore => exact h k latest a hgrant hbefore

theorem detachInv_attach (adapterName : String) (lease : Lease) :
    Keeps DetachGuard (@DetachInv W) (attach adapterName lease : Call W _) := by
  refine keeps_attach ?_
  intro s r h hr hg
  have hkey : r.id = lease.resourceId := h.keyed _ r hr
  exact ⟨h.noOrphan.act trivial, h.keyed.act _, h.latest.act _,
    h.covers.attach h.latest hkey hg⟩

/-- What a release does not touch, however it ends. -/
structure ReleaseFrame (s : Shared W) (lease : Lease) (s' : Shared W) : Prop where
  adapters : s'.fabric.adapters = s.fabric.adapters
  latest : ∀ k, latestGrant s'.log k = latestGrant s.log k
  entries : ∀ k, lease.resourceId ≠ k → s'.fabric.attachments[k]? = s.fabric.attachments[k]?
  undetached : ∀ k id a, Undetached k id a s'.log → Undetached k id a s.log

theorem ReleaseFrame.refl (s : Shared W) (lease : Lease) : ReleaseFrame s lease s :=
  ⟨rfl, fun _ => rfl, fun _ _ => rfl, fun _ _ _ h => h⟩

theorem ReleaseFrame.dropLease {s s' : Shared W} {lease : Lease} (h : ReleaseFrame s lease s')
    (active : ActiveLease) : ReleaseFrame s lease (s'.dropLease lease active) :=
  ⟨h.adapters, h.latest, h.entries,
    fun k id a hu => h.undetached k id a (hu.of_cons (by simp))⟩

theorem ReleaseFrame.callDetach {s s' : Shared W} {lease : Lease} (h : ReleaseFrame s lease s')
    (adapter : ResourceAdapter W) (r : Resource) :
    ReleaseFrame s lease (s'.callDetach adapter r lease) :=
  ⟨h.adapters, h.latest, h.entries,
    fun k id a hu => h.undetached k id a (hu.of_cons (by simp))⟩

theorem releaseFrame_takeEntry (s : Shared W) (lease : Lease) (name : String) :
    ReleaseFrame s lease (s.takeEntry lease name) := by
  refine ⟨rfl, fun _ => rfl, fun k hk => ?_, fun k id a hu => hu.of_cons (by simp)⟩
  have hget := Table.getElem?_erase s.fabric.attachments lease.resourceId k
  exact hget.trans (if_neg hk)

theorem ReleaseRun.frame {s : Shared W} {lease : Lease}
    {outcome : Option (Except FabricError Unit) × Shared W} (h : ReleaseRun s lease outcome) :
    ReleaseFrame s lease outcome.2 := by
  cases h with
  | poisoned => exact .refl s lease
  | refused => exact .refl s lease
  | unattached => exact (ReleaseFrame.refl s lease).dropLease _
  | dangling => exact (releaseFrame_takeEntry s lease _).dropLease _
  | failed => exact (releaseFrame_takeEntry s lease _).callDetach _ _
  | detached => exact ((releaseFrame_takeEntry s lease _).callDetach _ _).dropLease _

/-- What is undetached under a recorded lease is the adapter that a release comes to. -/
theorem DetachInv.covered {s : Shared W} (h : DetachInv s) {lease : Lease} {active : ActiveLease}
    (hrec : s.recorded? lease = some active) {a : ResourceAdapter W}
    (hu : Undetached lease.resourceId lease.id a s.log) :
    ∃ name, s.fabric.attachments[lease.resourceId]? = some name ∧
      s.fabric.adapters[name]? = some a := by
  obtain ⟨hlatest, hid⟩ := h.latest.of_recorded hrec
  exact h.covers _ _ a hlatest (hid ▸ hu)

/-- After a `detach` under the lease, the adapter is no longer undetached under it. -/
theorem not_undetached_detachCall {k : String} {id : UInt64} {a : ResourceAdapter W} {r : Resource}
    {lease : Lease} {t : Instant} {result : Except FabricError Unit} {log : List (Event W)}
    (hr : r.id = k) (hid : lease.id = id) :
    ¬ Undetached k id a (.detachCall a r lease t result :: log) := by
  intro hu
  cases hu with
  | since _ hev => exact hev r lease t result rfl ⟨hr, hid⟩

theorem DetachInv.not_undetached {s : Shared W} (h : DetachInv s) {lease : Lease}
    {active : ActiveLease} {name : String} {r : Resource} {adapter : ResourceAdapter W}
    (hd : s.Detaches lease active name r adapter) (a : ResourceAdapter W) :
    ¬ Undetached lease.resourceId lease.id a
      ((s.takeEntry lease name).callDetach adapter r lease).log := by
  intro hu
  have hkey : r.id = lease.resourceId := h.keyed _ r hd.resource
  have hbefore := (hu.of_cons (by simp)).of_cons (by simp)
  obtain ⟨name', hentry, hadapter⟩ := h.covered hd.recorded hbefore
  obtain rfl := Option.some.inj (hd.entry.symm.trans hentry)
  obtain rfl := Option.some.inj (hd.adapter.symm.trans hadapter)
  exact not_undetached_detachCall hkey rfl hu

/-- A release that comes past its check leaves nothing undetached under the lease. -/
theorem ReleaseRun.none_undetached {s : Shared W} (h : DetachInv s) {lease : Lease}
    {outcome : Option (Except FabricError Unit) × Shared W} (hrun : ReleaseRun s lease outcome) :
    (outcome.2 = s ∧ outcome.1 ≠ some (.ok ())) ∨
      (∃ active, s.recorded? lease = some active) ∧
        ∀ a, ¬ Undetached lease.resourceId lease.id a outcome.2.log := by
  cases hrun with
  | poisoned => exact Or.inl ⟨rfl, by simp⟩
  | refused => exact Or.inl ⟨rfl, by simp⟩
  | unattached _ hrec hentry =>
      refine Or.inr ⟨⟨_, hrec⟩, fun a hu => ?_⟩
      obtain ⟨name, hsome, -⟩ := h.covered hrec (hu.of_cons (by simp))
      exact absurd (hentry.symm.trans hsome) (by simp)
  | @dangling _ name _ hrec hentry hmissing =>
      refine Or.inr ⟨⟨_, hrec⟩, fun a hu => ?_⟩
      have hbefore := (hu.of_cons (by simp)).of_cons (by simp)
      obtain ⟨name', hsome, hadapter⟩ := h.covered hrec hbefore
      obtain rfl := Option.some.inj (hentry.symm.trans hsome)
      -- the lease is recorded, so its resource is registered
      have hleased : lease.resourceId ∈ s.fabric.leases.val :=
        StringMap.mem_of_getElem? (recorded?_eq_some.mp hrec).1
      obtain ⟨r, hr⟩ := StringMap.exists_getElem? (h.noOrphan _ hleased)
      rcases hmissing with hnone | hnone
      · exact absurd (hr.symm.trans hnone) (by simp)
      · exact absurd (hadapter.symm.trans hnone) (by simp)
  | failed hd => exact Or.inr ⟨⟨_, hd.recorded⟩, h.not_undetached hd⟩
  | detached hd =>
      refine Or.inr ⟨⟨_, hd.recorded⟩, fun a hu => ?_⟩
      exact h.not_undetached hd a (hu.of_cons (by simp))

theorem EntryCovers.release {s : Shared W} (h : DetachInv s) {lease : Lease}
    {outcome : Option (Except FabricError Unit) × Shared W} (hrun : ReleaseRun s lease outcome) :
    EntryCovers outcome.2 := by
  have hframe := hrun.frame
  rcases hrun.none_undetached h with ⟨hsame, -⟩ | ⟨⟨active, hrec⟩, hnone⟩
  · rw [hsame]
    exact h.covers
  · intro k latest a hlatest hu
    rw [hframe.latest] at hlatest
    rw [hframe.adapters]
    by_cases hk : lease.resourceId = k
    · -- the lease granted last is the one that was released
      subst hk
      obtain ⟨hgranted, hid⟩ := h.latest.of_recorded hrec
      obtain rfl := Option.some.inj (hgranted.symm.trans hlatest)
      rw [hid] at hu
      exact absurd hu (hnone a)
    · rw [hframe.entries k hk]
      exact h.covers k latest a hlatest (hframe.undetached k latest.id a hu)

/-- What every section keeps anyway, a release keeps. -/
theorem release_keeps_registry (lease : Lease) {s : Shared W}
    (h : NoOrphan s ∧ RegistryKeyed s ∧ RecordedLatest s) :
    NoOrphan ((release lease).run Section.act s).2 ∧
      RegistryKeyed ((release lease).run Section.act s).2 ∧
        RecordedLatest ((release lease).run Section.act s).2 := by
  have hsound : (release lease).Sound Section.act (fun _ : Shared W => True)
      (fun sec => ∀ s, OrphanGuard sec s) :=
    release_sound (fun _ => trivial) (fun _ => trivial) (fun _ => trivial)
      (fun _ _ _ _ _ _ => trivial) fun _ => trivial
  have hleaves : (release lease).Leaves Section.act (fun _ _ => True)
      (fun s => NoOrphan s ∧ RegistryKeyed s ∧ RecordedLatest s) s := by
    refine hsound.leaves ?_ (fun _ _ => trivial) h
    rintro sec s' ho ⟨horphan, hkeyed, hlatest⟩
    exact ⟨horphan.act (ho s'), hkeyed.act sec, hlatest.act sec⟩
  exact hleaves (Prog.guarded_of_forall (fun _ _ => trivial) _ _)

theorem detachInv_release (lease : Lease) :
    Keeps DetachGuard (@DetachInv W) (release lease : Call W _) := by
  intro s h _
  have hrun := release_run lease s
  obtain ⟨horphan, hkeyed, hlatest⟩ :=
    release_keeps_registry lease ⟨h.noOrphan, h.keyed, h.latest⟩
  exact ⟨horphan, hkeyed, hlatest, .release h hrun⟩

theorem detachInv_seqReachable {s : Shared W} (h : (fabricSystem DetachGuard).SeqReachable s) :
    DetachInv s := by
  refine h.invariant DetachInv ?_ ?_ ?_
  · rintro s ⟨hfabric, hlog⟩
    refine ⟨?_, .fresh ⟨hfabric, hlog⟩, .fresh ⟨hfabric, hlog⟩, ?_⟩
    · intro id hid
      simp [hfabric, Fabric.default] at hid
    · intro k latest a hlatest
      simp [hlog, latestGrant, grantedLeases] at hlatest
  · rintro p s ⟨op, rfl⟩ hs
    exact call_keeps detachInv_sections detachInv_attach detachInv_release op s hs
  · intro s s' he hs
    rw [he.2]
    exact ⟨hs.noOrphan, hs.keyed, hs.latest, hs.covers⟩

/-! ## Release detaches everything -/

/-- In every sequential run whose sections meet the guard, a release that succeeds
has had every adapter attached under the lease detached. -/
theorem release_detaches_all {s : Shared W} (h : (fabricSystem DetachGuard).SeqReachable s)
    {lease : Lease} (hok : ((release lease).run Section.act s).1 = some (.ok ())) :
    AllDetached ((release lease).run Section.act s).2.log lease := by
  refine allDetached_of_forall ?_
  rcases (release_run lease s).none_undetached (detachInv_seqReachable h) with
    ⟨-, hnot⟩ | ⟨-, hnone⟩
  · exact absurd hok hnot
  · exact hnone

namespace Scenario

/-- A store adapter in working order. -/
def storeAdapter : ResourceAdapter Unit :=
  { brokenStore with detach := ResourceAdapter.defaultDetach }

/-- The device is leased, and attached through one adapter. -/
def attachOne : Schedule Unit :=
  [.invoke (Op.register device).call, .invoke (Op.registerAdapter localProofAdapter).call,
   .invoke (Op.leaseExclusive "device.0" "mission-a" 30).call,
   .invoke (Op.attach "local-proof" ⟨1, "device.0", "mission-a"⟩).call]

/-- The device is leased, and attached through two adapters under the same lease. -/
def attachBoth : Schedule Unit :=
  [.invoke (Op.register device).call, .invoke (Op.registerAdapter localProofAdapter).call,
   .invoke (Op.registerAdapter storeAdapter).call,
   .invoke (Op.leaseExclusive "device.0" "mission-a" 30).call,
   .invoke (Op.attach "local-proof" ⟨1, "device.0", "mission-a"⟩).call,
   .invoke (Op.attach "fabric-store" ⟨1, "device.0", "mission-a"⟩).call]

theorem seqSchedule_attachOne :
    (fabricSystem DetachGuard).SeqSchedule (start ()) attachOne := by
  refine ⟨⟨.register device, rfl⟩, ⟨trivial, trivial⟩,
    ⟨.registerAdapter localProofAdapter, rfl⟩, ⟨?_, trivial⟩,
    ⟨.leaseExclusive "device.0" "mission-a" 30, rfl⟩, ⟨trivial, ?_, ?_⟩,
    ⟨.attach "local-proof" ⟨1, "device.0", "mission-a"⟩, rfl⟩, ⟨trivial, ?_, ?_⟩, trivial⟩
  · intro a ha
    have ha : (∅ : StringMap (ResourceAdapter Unit))["local-proof"]? = some a := ha
    simp at ha
  · rintro - a ⟨⟩
  · with_unfolding_all trivial
  · intro _ adapter x _ _ a hu
    cases hu with
    | since h => cases h
  · with_unfolding_all trivial

/-- The release detached the second adapter only. -/
theorem log_attachBoth :
    ((release ⟨1, "device.0", "mission-a"⟩).run Section.act
      (afterCalls (start ()) attachBoth)).2.log =
    [.released ⟨1, "device.0", "mission-a"⟩ ⟨1, "device.0", "mission-a"⟩ 0,
     .detachCall storeAdapter device ⟨1, "device.0", "mission-a"⟩ 0 (.ok ()),
     .attachmentTaken ⟨1, "device.0", "mission-a"⟩ "fabric-store",
     .attachmentRecorded ⟨1, "device.0", "mission-a"⟩ "fabric-store",
     .attachCall storeAdapter device ⟨1, "device.0", "mission-a"⟩ 0
       (.ok ⟨"device.0", 1, "fabric-store", ∅⟩),
     .attachmentRecorded ⟨1, "device.0", "mission-a"⟩ "local-proof",
     .attachCall localProofAdapter device ⟨1, "device.0", "mission-a"⟩ 0
       (.ok ⟨"device.0", 1, "local-proof", ∅⟩),
     .granted ⟨1, "device.0", "mission-a"⟩ 30 0] := by with_unfolding_all rfl

end Scenario

open Scenario in
theorem release_detaches_all_one :
    AllDetached ((release ⟨1, "device.0", "mission-a"⟩).run Section.act
      (afterCalls (start ()) attachOne)).2.log ⟨1, "device.0", "mission-a"⟩ := by
  have hok : ((release ⟨1, "device.0", "mission-a"⟩).run Section.act
      (afterCalls (start ()) attachOne)).1 = some (.ok ()) := by with_unfolding_all rfl
  exact release_detaches_all (seqReachable_afterCalls seqSchedule_attachOne) hok

open Scenario in
/-- Of two adapters attached under one lease, only the second one is detached. -/
theorem second_adapter_left :
    ¬ ∀ s : Shared Unit, (fabricSystem NotReplaced).SeqReachable s → ∀ lease,
      ((release lease).run Section.act s).1 = some (.ok ()) →
        AllDetached ((release lease).run Section.act s).2.log lease := by
  intro h
  -- no adapter is replaced on the way, and the calls are made one at a time
  have hsched : (fabricSystem NotReplaced).SeqSchedule (start ()) attachBoth := by
    refine ⟨⟨.register device, rfl⟩, ⟨trivial, trivial⟩,
      ⟨.registerAdapter localProofAdapter, rfl⟩, ⟨?_, trivial⟩,
      ⟨.registerAdapter storeAdapter, rfl⟩, ⟨?_, trivial⟩,
      ⟨.leaseExclusive "device.0" "mission-a" 30, rfl⟩, ⟨trivial, trivial, ?_⟩,
      ⟨.attach "local-proof" ⟨1, "device.0", "mission-a"⟩, rfl⟩, ⟨trivial, trivial, ?_⟩,
      ⟨.attach "fabric-store" ⟨1, "device.0", "mission-a"⟩, rfl⟩, ⟨trivial, trivial, ?_⟩, trivial⟩
    · intro a ha
      have ha : (∅ : StringMap (ResourceAdapter Unit))["local-proof"]? = some a := ha
      simp at ha
    · intro a ha
      have ha : ((∅ : StringMap (ResourceAdapter Unit)).insert "local-proof"
          localProofAdapter)["fabric-store"]? = some a := ha
      rw [Table.getElem?_insert, if_neg (by decide)] at ha
      simp at ha
    · with_unfolding_all trivial
    · with_unfolding_all trivial
    · with_unfolding_all trivial
  have hok : ((release ⟨1, "device.0", "mission-a"⟩).run Section.act
      (afterCalls (start ()) attachBoth)).1 = some (.ok ()) := by with_unfolding_all rfl
  obtain ⟨r, L, t, result, hmem, -, -⟩ := h _ (seqReachable_afterCalls hsched) _ hok
    [.released ⟨1, "device.0", "mission-a"⟩ ⟨1, "device.0", "mission-a"⟩ 0,
     .detachCall storeAdapter device ⟨1, "device.0", "mission-a"⟩ 0 (.ok ()),
     .attachmentTaken ⟨1, "device.0", "mission-a"⟩ "fabric-store",
     .attachmentRecorded ⟨1, "device.0", "mission-a"⟩ "fabric-store",
     .attachCall storeAdapter device ⟨1, "device.0", "mission-a"⟩ 0
       (.ok ⟨"device.0", 1, "fabric-store", ∅⟩),
     .attachmentRecorded ⟨1, "device.0", "mission-a"⟩ "local-proof"]
    [.granted ⟨1, "device.0", "mission-a"⟩ 30 0] _ _ _ _ _ log_attachBoth rfl rfl
  -- the only `detach` in the log is that of the second adapter
  have hsame : localProofAdapter = storeAdapter := by
    simp only [List.mem_cons, reduceCtorEq, List.not_mem_nil, or_false, false_or,
      Event.detachCall.injEq] at hmem
    exact hmem.1
  have hname := congrArg ResourceAdapter.name hsame
  exact absurd hname (by decide)

end NautiFabric
