import NautiFabric.Fabric.Steps

/-!
# NautiFabric.Fabric.Release — releasing a lease

`release` takes the attachment entry out, calls the adapter's `detach`, and
then removes the lease. `release_run` lists every way it can end. When `detach`
fails the entry is gone although the lease is not, so a retry does not detach
(`release_atomic_iff`).
-/

namespace NautiFabric

open Interleave

variable {W : Type}

/-! ## How a release ends -/

/-- The entry of the lease's resource is taken out. -/
def Shared.takeEntry (s : Shared W) (lease : Lease) (adapterName : String) : Shared W :=
  { s with
      fabric.attachments := s.fabric.attachments.erase lease.resourceId
    }.emit (.attachmentTaken lease adapterName)

/-- The adapter has been asked to detach. -/
def Shared.callDetach (s : Shared W) (adapter : ResourceAdapter W) (r : Resource)
    (lease : Lease) : Shared W :=
  { s with world := (adapter.detach r lease s.world).2 }.emit
    (.detachCall adapter r lease s.now (adapter.detach r lease s.world).1)

/-- The recorded lease is removed. -/
def Shared.dropLease (s : Shared W) (lease : Lease) (active : ActiveLease) : Shared W :=
  (s.setLeases (s.fabric.leases.val.erase lease.resourceId)).emit
    (.released lease active.lease s.now)

/-- A release of the lease comes to call `detach` of the adapter. -/
structure Shared.Detaches (s : Shared W) (lease : Lease) (active : ActiveLease) (name : String)
    (r : Resource) (adapter : ResourceAdapter W) : Prop where
  poisoned : s.fabric.leases.poisoned = false
  recorded : s.recorded? lease = some active
  entry : s.fabric.attachments[lease.resourceId]? = some name
  resource : s.fabric.resources[lease.resourceId]? = some r
  adapter : s.fabric.adapters[name]? = some adapter

/-- A release comes to one `detach` at most. -/
theorem Shared.Detaches.unique {s : Shared W} {lease : Lease} {active active' : ActiveLease}
    {name name' : String} {r r' : Resource} {adapter adapter' : ResourceAdapter W}
    (h : s.Detaches lease active name r adapter)
    (h' : s.Detaches lease active' name' r' adapter') :
    name = name' ∧ r = r' ∧ adapter = adapter' := by
  obtain rfl := Option.some.inj (h.entry.symm.trans h'.entry)
  have hresource := h.resource.symm.trans h'.resource
  have hadapter := h.adapter.symm.trans h'.adapter
  exact ⟨rfl, Option.some.inj hresource, Option.some.inj hadapter⟩

/-- Every way a release can end, run alone. -/
inductive ReleaseRun (s : Shared W) (lease : Lease) :
    Option (Except FabricError Unit) × Shared W → Prop
  | poisoned (hp : s.fabric.leases.poisoned = true) : ReleaseRun s lease (none, s)
  | refused (hp : s.fabric.leases.poisoned = false) (hrec : s.recorded? lease = none) :
      ReleaseRun s lease (some (.error .leaseNotFound), s)
  | unattached {active : ActiveLease} (hp : s.fabric.leases.poisoned = false)
      (hrec : s.recorded? lease = some active)
      (hentry : s.fabric.attachments[lease.resourceId]? = none) :
      ReleaseRun s lease (some (.ok ()), s.dropLease lease active)
  | dangling {active : ActiveLease} {name : String} (hp : s.fabric.leases.poisoned = false)
      (hrec : s.recorded? lease = some active)
      (hentry : s.fabric.attachments[lease.resourceId]? = some name)
      (hmissing : s.fabric.resources[lease.resourceId]? = none ∨
        s.fabric.adapters[name]? = none) :
      ReleaseRun s lease (some (.ok ()), (s.takeEntry lease name).dropLease lease active)
  | failed {active : ActiveLease} {name : String} {r : Resource} {adapter : ResourceAdapter W}
      {e : FabricError} (h : s.Detaches lease active name r adapter)
      (hdetach : (adapter.detach r lease s.world).1 = .error e) :
      ReleaseRun s lease (some (.error e), (s.takeEntry lease name).callDetach adapter r lease)
  | detached {active : ActiveLease} {name : String} {r : Resource} {adapter : ResourceAdapter W}
      (h : s.Detaches lease active name r adapter)
      (hdetach : (adapter.detach r lease s.world).1 = .ok ()) :
      ReleaseRun s lease (some (.ok ()),
        ((s.takeEntry lease name).callDetach adapter r lease).dropLease lease active)

theorem releaseRemove_act {s : Shared W} {lease : Lease} {active : ActiveLease}
    (hp : s.fabric.leases.poisoned = false) (hrec : s.recorded? lease = some active) :
    (atomically (.releaseRemove lease)).run Section.act s =
      (some (.ok ()), s.dropLease lease active) := by
  have hremove : Section.act (.releaseRemove lease) s =
      (some (.ok ()), s.dropLease lease active) := by
    simp only [Section.act, releaseRemoveSection, hrec, withLeases_some hp]
    rfl
  exact (Prog.run_perform _ _ _).trans hremove

theorem release_run (lease : Lease) (s : Shared W) :
    ReleaseRun s lease ((release lease).run Section.act s) := by
  rw [release, atomically, Prog.perform_bind]
  rcases Bool.eq_false_or_eq_true s.fabric.leases.poisoned with hp | hp
  · have hcheck : Section.act (.releaseCheck lease) s = (none, s) := withLeases_poisoned hp _
    rw [Prog.run_atomic_none hcheck]
    exact .poisoned hp
  rcases hrec : s.recorded? lease with _ | active
  · have hcheck : Section.act (.releaseCheck lease) s = (some (.error .leaseNotFound), s) := by
      simp only [Section.act, releaseCheckSection, hrec, withLeases_some hp]
    rw [Prog.run_atomic_some hcheck]
    exact .refused hp hrec
  have hcheck : Section.act (.releaseCheck lease) s = (some (.ok ()), s) := by
    simp only [Section.act, releaseCheckSection, hrec, withLeases_some hp]
  rw [Prog.run_atomic_some hcheck]
  dsimp only
  rw [atomically, Prog.perform_bind]
  rcases hentry : s.fabric.attachments[lease.resourceId]? with _ | name
  · have htake : Section.act (.releaseTake lease) s = (some none, s) := by
      simp only [Section.act, releaseTakeSection, hentry]
    rw [Prog.run_atomic_some htake]
    have hend := releaseRemove_act hp hrec
    exact (congrArg (ReleaseRun s lease) hend).mpr (.unattached hp hrec hentry)
  have htake : Section.act (.releaseTake lease) s = (some (some name), s.takeEntry lease name) := by
    simp only [Section.act, releaseTakeSection, hentry]
    rfl
  rw [Prog.run_atomic_some htake]
  have hread : Section.act (.resource lease.resourceId) (s.takeEntry lease name) =
      (some s.fabric.resources[lease.resourceId]?, s.takeEntry lease name) := rfl
  have hend : (atomically (.releaseRemove lease)).run Section.act (s.takeEntry lease name) =
      (some (.ok ()), (s.takeEntry lease name).dropLease lease active) :=
    releaseRemove_act hp hrec
  rcases hr : s.fabric.resources[lease.resourceId]? with _ | r
  · -- the resource is gone: nothing to detach
    rw [hr] at hread
    refine (congrArg (ReleaseRun s lease) ?_).mpr (.dangling hp hrec hentry (Or.inl hr))
    exact (Prog.run_atomic_some hread).trans hend
  rw [hr] at hread
  rcases hadapter : s.fabric.adapters[name]? with _ | adapter
  · have hdetach : Section.act (.releaseDetach r name lease) (s.takeEntry lease name) =
        (some (.ok ()), s.takeEntry lease name) := by
      have hnone : (s.takeEntry lease name).fabric.adapters[name]? = none := hadapter
      simp only [Section.act, releaseDetachSection, hnone]
    refine (congrArg (ReleaseRun s lease) ?_).mpr (.dangling hp hrec hentry (Or.inr hadapter))
    exact ((Prog.run_atomic_some hread).trans (Prog.run_atomic_some hdetach)).trans hend
  have hdetaches : s.Detaches lease active name r adapter := ⟨hp, hrec, hentry, hr, hadapter⟩
  have hdetach : Section.act (.releaseDetach r name lease) (s.takeEntry lease name) =
      (some (adapter.detach r lease s.world).1,
        (s.takeEntry lease name).callDetach adapter r lease) := by
    have hsome : (s.takeEntry lease name).fabric.adapters[name]? = some adapter := hadapter
    simp only [Section.act, releaseDetachSection, hsome]
    rfl
  rcases hresult : (adapter.detach r lease s.world).1 with e | ⟨⟩
  · rw [hresult] at hdetach
    refine (congrArg (ReleaseRun s lease) ?_).mpr (.failed hdetaches hresult)
    exact (Prog.run_atomic_some hread).trans (Prog.run_atomic_some hdetach)
  · rw [hresult] at hdetach
    have hend' : (atomically (.releaseRemove lease)).run Section.act
        ((s.takeEntry lease name).callDetach adapter r lease) = _ :=
      releaseRemove_act hp hrec
    refine (congrArg (ReleaseRun s lease) ?_).mpr (.detached hdetaches hresult)
    exact ((Prog.run_atomic_some hread).trans (Prog.run_atomic_some hdetach)).trans hend'

/-! ## A release that fails -/

/-- The event happened between the two states. -/
def HappenedBetween (s s' : Shared W) (ev : Event W) : Prop :=
  ∃ evs, s'.log = evs ++ s.log ∧ ev ∈ evs

/-- The release called the adapter's `detach`. -/
def CallsDetach (s : Shared W) (lease : Lease) (adapter : ResourceAdapter W) : Prop :=
  ∃ r result, HappenedBetween s ((release lease).run Section.act s).2
    (.detachCall adapter r lease s.now result)

/-- When the release fails it changes nothing, and a retry at any later time calls
the `detach` again that failed. -/
def ReleaseAtomic (s : Shared W) (lease : Lease) : Prop :=
  ∀ e, ((release lease).run Section.act s).1 = some (.error e) →
    ((release lease).run Section.act s).2.fabric = s.fabric ∧
    ∀ adapter, CallsDetach s lease adapter →
      ∀ s', ((release lease).run Section.act s).2.Elapse s' → CallsDetach s' lease adapter

/-- The release comes to a `detach` that fails. -/
def Shared.DetachFails (s : Shared W) (lease : Lease) : Prop :=
  ∃ active name r adapter e, s.Detaches lease active name r adapter ∧
    (adapter.detach r lease s.world).1 = .error e

theorem not_happenedBetween_self (s : Shared W) (ev : Event W) : ¬ HappenedBetween s s ev := by
  rintro ⟨evs, hlog, hmem⟩
  obtain rfl : evs = [] := List.append_left_eq_self.mp hlog.symm
  cases hmem

/-- A failed `detach` leaves the lease recorded, and its entry gone. -/
theorem release_run_failed {s : Shared W} {lease : Lease} {active : ActiveLease} {name : String}
    {r : Resource} {adapter : ResourceAdapter W} {e : FabricError}
    (h : s.Detaches lease active name r adapter)
    (hdetach : (adapter.detach r lease s.world).1 = .error e) :
    (release lease).run Section.act s =
      (some (.error e), (s.takeEntry lease name).callDetach adapter r lease) := by
  have hrun := release_run lease s
  generalize (release lease).run Section.act s = outcome at hrun
  cases hrun with
  | poisoned hp => exact absurd (h.poisoned.symm.trans hp) (by simp)
  | refused _ hrec => exact absurd (h.recorded.symm.trans hrec) (by simp)
  | unattached _ _ hentry => exact absurd (h.entry.symm.trans hentry) (by simp)
  | dangling _ _ hentry hmissing =>
      obtain rfl := Option.some.inj (h.entry.symm.trans hentry)
      rcases hmissing with hr | hadapter
      · exact absurd (h.resource.symm.trans hr) (by simp)
      · exact absurd (h.adapter.symm.trans hadapter) (by simp)
  | failed h' hdetach' =>
      obtain ⟨rfl, rfl, rfl⟩ := h.unique h'
      rw [hdetach] at hdetach'
      rw [Except.error.inj hdetach']
  | detached h' hdetach' =>
      obtain ⟨rfl, rfl, rfl⟩ := h.unique h'
      rw [hdetach] at hdetach'
      cases hdetach'

theorem not_releaseAtomic_of_detachFails {s : Shared W} {lease : Lease}
    (h : s.DetachFails lease) : ¬ ReleaseAtomic s lease := by
  obtain ⟨active, name, r, adapter, e, hdetaches, hdetach⟩ := h
  intro hatomic
  have hrun := release_run_failed hdetaches hdetach
  have hfabric := (hatomic e (by rw [hrun])).1
  rw [hrun] at hfabric
  -- the entry was there, and is gone
  have hgone : (s.fabric.attachments.erase lease.resourceId)[lease.resourceId]? = some name := by
    have hkept := congrArg Fabric.attachments hfabric
    have herased : s.fabric.attachments.erase lease.resourceId = s.fabric.attachments := hkept
    rw [herased]
    exact hdetaches.entry
  simp at hgone

/-- A failing release changes nothing exactly when it does not come to a `detach`
that fails. -/
theorem release_atomic_iff (s : Shared W) (lease : Lease) :
    ReleaseAtomic s lease ↔ ¬ s.DetachFails lease := by
  constructor
  · intro hatomic hfails
    exact not_releaseAtomic_of_detachFails hfails hatomic
  · intro hnot e herror
    have hrun := release_run lease s
    unfold CallsDetach
    generalize (release lease).run Section.act s = outcome at hrun herror ⊢
    cases hrun with
    | poisoned => cases herror
    | refused =>
        refine ⟨rfl, ?_⟩
        rintro adapter ⟨r, result, hcalled⟩
        exact absurd hcalled (not_happenedBetween_self s _)
    | unattached => cases herror
    | dangling => cases herror
    | failed h hdetach => exact absurd ⟨_, _, _, _, _, h, hdetach⟩ hnot
    | detached => cases herror

namespace Scenario

/-- A store adapter whose attachment map is poisoned: every `detach` fails. -/
def brokenStore : ResourceAdapter Unit where
  name := "fabric-store"
  attach resource lease w := (.ok ⟨resource.id, lease.id, "fabric-store", ∅⟩, w)
  detach _ _ w :=
    (.error (.adapterBackendUnavailable "fabric-store" "store attachment map poisoned"), w)
  capabilityReport _ := .default "fabric-store"

/-- The device is leased and attached through the broken store. -/
def attachBroken : Schedule Unit :=
  [.invoke (Op.register device).call, .invoke (Op.registerAdapter brokenStore).call,
   .invoke (Op.leaseExclusive "device.0" "mission-a" 30).call,
   .invoke (Op.attach "fabric-store" ⟨1, "device.0", "mission-a"⟩).call]

theorem seqReachable_attachBroken :
    (fabricSystem anySection).SeqReachable (afterCalls (start ()) attachBroken) := by
  refine seqReachable_afterCalls (System.seqSchedule_of_admits (fun _ _ => trivial) ?_ _)
  exact ⟨⟨.register device, rfl⟩, ⟨.registerAdapter brokenStore, rfl⟩,
    ⟨.leaseExclusive "device.0" "mission-a" 30, rfl⟩,
    ⟨.attach "fabric-store" ⟨1, "device.0", "mission-a"⟩, rfl⟩, trivial⟩

end Scenario

open Scenario in
/-- A `detach` that fails has cost the lease its attachment entry. -/
theorem failed_release_forgets :
    ¬ ∀ s : Shared Unit, (fabricSystem anySection).SeqReachable s → ∀ lease,
      ReleaseAtomic s lease := by
  intro h
  have hfails : (afterCalls (start ()) attachBroken).DetachFails ⟨1, "device.0", "mission-a"⟩ := by
    refine ⟨⟨⟨1, "device.0", "mission-a"⟩, 30⟩, "fabric-store", device, brokenStore, _, ?_, rfl⟩
    exact ⟨by decide +kernel, by decide +kernel, by decide +kernel, by decide +kernel,
      by with_unfolding_all rfl⟩
  exact not_releaseAtomic_of_detachFails hfails (h _ seqReachable_attachBroken _)

end NautiFabric
