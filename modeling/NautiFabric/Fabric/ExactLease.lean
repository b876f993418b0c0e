import NautiFabric.Fabric.Brackets

/-!
# NautiFabric.Fabric.ExactLease — presenting a lease that is not one's own

A lease is a plain value that anyone can build. `attach`, `release` and
`renew_lease` compare its resource and its id with the recorded lease, and
nothing else; `only_exact_lease_iff` says for which values that is enough.
-/

namespace NautiFabric

open Interleave

variable {W : Type}

/-- The presented value equals the recorded lease in all three fields. -/
def Shared.Recorded (s : Shared W) (lease : Lease) : Prop :=
  ∃ active, s.fabric.leases.val[lease.resourceId]? = some active ∧ active.lease = lease

/-- The call did not succeed, and changed neither leases nor attachments, except
for pruning leases that have expired. -/
def Refused {α : Type} (s : Shared W) (outcome : Option (Except FabricError α) × Shared W) :
    Prop :=
  (∀ a, outcome.1 ≠ some (.ok a)) ∧
    outcome.2.fabric.attachments = s.fabric.attachments ∧
    (outcome.2.fabric.leases.val = s.fabric.leases.val ∨
      outcome.2.fabric.leases.val = retainUnexpired s.now s.fabric.leases.val)

/-- A value other than the recorded lease is refused by all three calls. -/
def OnlyExactLease (s : Shared W) (lease : Lease) : Prop :=
  ¬ s.Recorded lease →
    (∀ adapterName, Refused s ((attach adapterName lease).run Section.act s)) ∧
    Refused s ((release lease).run Section.act s) ∧
    ∀ ttl, Refused s ((renewLease lease ttl).run Section.act s)

/-! ## The calls, run alone -/

theorem attach_run (adapterName : String) (lease : Lease) (s : Shared W) :
    (attach adapterName lease).run Section.act s =
      match s.fabric.resources[lease.resourceId]? with
      | none => (some (.error .resourceNotFound), s)
      | some r => attachSection r adapterName lease s := by
  have hread : Section.act (.resource lease.resourceId) s =
      (some s.fabric.resources[lease.resourceId]?, s) := rfl
  rw [attach, resource, atomically, Prog.perform_bind, Prog.run_atomic_some hread]
  rcases s.fabric.resources[lease.resourceId]? with _ | r
  · rfl
  · exact Prog.run_perform _ _ _

theorem renewLease_run (lease : Lease) (ttl : Duration) (s : Shared W) :
    (renewLease lease ttl).run Section.act s = renewLeaseSection lease ttl s :=
  Prog.run_perform _ _ _

/-- A release of a lease that is not recorded under its id stops at its check. -/
theorem release_run_unrecorded {lease : Lease} {s : Shared W}
    (h : s.fabric.leases.poisoned = false → s.recorded? lease = none) :
    (release lease).run Section.act s =
      if s.fabric.leases.poisoned then (none, s) else (some (.error .leaseNotFound), s) := by
  have hcheck : Section.act (.releaseCheck lease) s =
      if s.fabric.leases.poisoned then (none, s) else (some (.error .leaseNotFound), s) := by
    rcases Bool.eq_false_or_eq_true s.fabric.leases.poisoned with hp | hp
    · simp [Section.act, releaseCheckSection, withLeases, hp]
    · simp [Section.act, releaseCheckSection, withLeases, hp, h hp]
  rcases Bool.eq_false_or_eq_true s.fabric.leases.poisoned with hp | hp
  · rw [if_pos hp] at hcheck ⊢
    exact Prog.run_atomic_none hcheck
  · rw [if_neg (by simp [hp])] at hcheck ⊢
    exact Prog.run_atomic_some hcheck

/-- The sections that leave the attachment table alone. -/
def Section.KeepsEntries : Section W → Prop
  | .attach _ _ _ => False
  | .releaseTake _ => False
  | _ => True

theorem attachments_act {sec : Section W} (hsec : sec.KeepsEntries) (s : Shared W) :
    (sec.act s).2.fabric.attachments = s.fabric.attachments := by
  have hstep := act_attachStep sec s
  generalize (sec.act s).2 = s' at hstep
  cases hstep with
  | idle hattachments => exact hattachments
  | record => exact hsec.elim
  | take => exact hsec.elim
  | detach _ hattachments => exact hattachments

/-- What `release` does after it has looked for an attachment. -/
def releaseTaken (adapterName : Option String) (lease : Lease) :
    Call W (Except FabricError Unit) :=
  (detachTaken adapterName lease).bind fun result =>
    match result with
    | .error e => .done (.error e)
    | .ok () => atomically (.releaseRemove lease)

theorem release_run_checked {lease : Lease} {s : Shared W}
    (hcheck : Section.act (.releaseCheck lease) s = (some (.ok ()), s)) {taken : Option String}
    {s' : Shared W} (htake : Section.act (.releaseTake lease) s = (some taken, s')) :
    (release lease).run Section.act s = (releaseTaken taken lease).run Section.act s' :=
  (Prog.run_atomic_some hcheck).trans (Prog.run_atomic_some htake)

theorem releaseTaken_keepsEntries (adapterName : Option String) (lease : Lease) :
    (releaseTaken adapterName lease).Sound Section.act (fun _ : Shared W => True)
      Section.KeepsEntries := by
  rcases adapterName with _ | name
  · exact ⟨trivial, fun _ _ _ _ => trivial⟩
  · refine ⟨trivial, fun _ r _ _ => ?_⟩
    rcases r with _ | r
    · exact ⟨trivial, fun _ _ _ _ => trivial⟩
    · refine ⟨trivial, fun _ result _ _ => ?_⟩
      rcases result with e | ⟨⟩
      · trivial
      · exact ⟨trivial, fun _ _ _ _ => trivial⟩

theorem attachments_releaseTaken (adapterName : Option String) (lease : Lease) (s : Shared W) :
    ((releaseTaken adapterName lease).run Section.act s).2.fabric.attachments =
      s.fabric.attachments := by
  have hleaves : (releaseTaken adapterName lease).Leaves Section.act (fun _ _ => True)
      (fun s' => s'.fabric.attachments = s.fabric.attachments) s := by
    refine (releaseTaken_keepsEntries adapterName lease).leaves ?_ (fun _ _ => trivial) rfl
    intro sec s' hsec hs'
    exact (attachments_act hsec s').trans hs'
  exact hleaves (Prog.guarded_of_forall (fun _ _ => trivial) _ _)

/-- A release of a lease that is recorded under its id removes the attachment, or
succeeds. -/
theorem release_run_recorded {lease : Lease} {active : ActiveLease} {s : Shared W}
    (hp : s.fabric.leases.poisoned = false) (hrec : s.recorded? lease = some active) :
    ¬ Refused s ((release lease).run Section.act s) := by
  intro hrefused
  have hcheck : Section.act (.releaseCheck lease) s = (some (.ok ()), s) := by
    simp [Section.act, releaseCheckSection, withLeases, hp, hrec]
  rcases hentry : s.fabric.attachments[lease.resourceId]? with _ | name
  · -- nothing to detach: the lease is removed
    have htake : Section.act (.releaseTake lease) s = (some none, s) := by
      simp [Section.act, releaseTakeSection, hentry]
    have hremove : (Section.act (.releaseRemove lease) s).1 = some (.ok ()) := by
      simp [Section.act, releaseRemoveSection, withLeases, hp, hrec]
    have hok : ((release lease).run Section.act s).1 = some (.ok ()) := by
      rw [release_run_checked hcheck htake, ← hremove]
      exact congrArg Prod.fst (Prog.run_perform Section.act (.releaseRemove lease) s)
    exact hrefused.1 () hok
  · -- the entry is gone, whatever `detach` answers
    have htake : Section.act (.releaseTake lease) s = (some (some name),
        { s with
            fabric.attachments := s.fabric.attachments.erase lease.resourceId
          }.emit (.attachmentTaken lease name)) := by
      simp [Section.act, releaseTakeSection, hentry]
    have hgone : ((release lease).run Section.act s).2.fabric.attachments =
        s.fabric.attachments.erase lease.resourceId := by
      rw [release_run_checked hcheck htake, attachments_releaseTaken]
      rfl
    have hkept : (s.fabric.attachments.erase lease.resourceId)[lease.resourceId]? = some name := by
      rw [← hgone, hrefused.2.1, hentry]
    simp at hkept

/-! ## What a call refuses -/

theorem attach_refused {adapterName : String} {lease : Lease} {s : Shared W}
    (h : s.fabric.leases.poisoned = false → s.recorded? lease = none) :
    Refused s ((attach adapterName lease).run Section.act s) := by
  have hrefused : s.fabric.leases.poisoned = false → ¬ s.Honours lease := by
    intro hp hhonours
    obtain ⟨active, hrec, -⟩ := hhonours
    rw [h hp] at hrec
    cases hrec
  rw [attach_run]
  split
  · exact ⟨by simp, rfl, Or.inl rfl⟩
  · rename_i r _
    have hrun := attachSection_run r adapterName lease s
    generalize attachSection r adapterName lease s = outcome at hrun
    cases hrun with
    | poisoned => exact ⟨by simp, rfl, Or.inl rfl⟩
    | unauthorized => exact ⟨by simp, rfl, Or.inl rfl⟩
    | unknown hp hhonours => exact absurd hhonours (hrefused hp)
    | failed hattaches => exact absurd hattaches.honours (hrefused hattaches.poisoned)
    | attached hattaches => exact absurd hattaches.honours (hrefused hattaches.poisoned)

theorem release_refused {lease : Lease} {s : Shared W}
    (h : s.fabric.leases.poisoned = false → s.recorded? lease = none) :
    Refused s ((release lease).run Section.act s) := by
  rw [release_run_unrecorded h]
  split
  · exact ⟨by simp, rfl, Or.inl rfl⟩
  · exact ⟨by simp, rfl, Or.inl rfl⟩

theorem renewLease_refused {lease : Lease} {ttl : Duration} {s : Shared W}
    (h : s.fabric.leases.poisoned = false → s.recorded? lease = none) :
    Refused s ((renewLease lease ttl).run Section.act s) := by
  rw [renewLease_run]
  rcases Bool.eq_false_or_eq_true s.fabric.leases.poisoned with hp | hp
  · rw [renewLeaseSection, withLeases_poisoned hp]
    exact ⟨by simp, rfl, Or.inl rfl⟩
  · have hpruned : (s.setLeases (retainUnexpired s.now s.fabric.leases.val)).recorded? lease =
        none := by
      rw [Option.eq_none_iff_forall_ne_some]
      intro active hrec
      obtain ⟨hget, hid⟩ := recorded?_eq_some.mp hrec
      have hget : (retainUnexpired s.now s.fabric.leases.val)[lease.resourceId]? = some active :=
        hget
      rw [getElem?_retainUnexpired] at hget
      have hrec' := recorded?_eq_some.mpr ⟨Option.eq_some_of_filter_eq_some hget, hid⟩
      rw [h hp] at hrec'
      cases hrec'
    simp only [renewLeaseSection, hpruned, withLeases_some hp]
    exact ⟨by simp, rfl, Or.inr rfl⟩

/-! ## When only the exact lease works -/

/-- The three calls tell a value from the recorded lease exactly when the lease
recorded under its resource and its id, if there is one, has its owner. -/
theorem only_exact_lease_iff {c : Config (@Section.Reply W) (Shared W) Unit}
    (h : (fabricSystem anySection).Reachable c) (lease : Lease) :
    OnlyExactLease c.state lease ↔
      (c.state.fabric.leases.poisoned = false →
        ∀ active : ActiveLease, c.state.fabric.leases.val[lease.resourceId]? = some active →
          active.lease.id = lease.id → active.lease.owner = lease.owner) := by
  have hlatest := recordedLatest_reachable h
  generalize c.state = s at hlatest ⊢
  constructor
  · intro honly hp active hactive hid
    by_contra howner
    have hother : ¬ s.Recorded lease := by
      rintro ⟨active', hactive', rfl⟩
      rw [hactive] at hactive'
      obtain rfl := Option.some.inj hactive'
      exact howner rfl
    have hrec := recorded?_eq_some.mpr ⟨hactive, hid⟩
    exact release_run_recorded hp hrec (honly hother).2.1
  · intro howner hother
    have hnone : s.fabric.leases.poisoned = false → s.recorded? lease = none := by
      intro hp
      rw [Option.eq_none_iff_forall_ne_some]
      intro active hrec
      obtain ⟨hactive, hid⟩ := recorded?_eq_some.mp hrec
      refine hother ⟨active, hactive, ?_⟩
      -- resource, id and owner agree
      have hkey := hlatest.resourceId hactive
      have how := howner hp active hactive hid
      rcases active with ⟨⟨id, resourceId, owner⟩, expiresAt⟩
      rcases lease with ⟨id', resourceId', owner'⟩
      dsimp only at hid hkey how
      rw [hid, hkey, how]
    exact ⟨fun _ => attach_refused hnone, release_refused hnone, fun _ => renewLease_refused hnone⟩

open Scenario in
theorem only_exact_lease_other_id :
    OnlyExactLease (after (start ()) registerAndLease).state ⟨7, "device.0", "intruder"⟩ := by
  refine (only_exact_lease_iff reachable_registerAndLease _).mpr ?_
  intro _ active hactive hid
  have hfirst : ((after (start ()) registerAndLease).state.fabric.leases.val["device.0"]?).map
      (fun active => active.lease.id) = some 1 := by decide +kernel
  rw [hactive, Option.map_some, hid] at hfirst
  exact absurd hfirst (by decide)

open Scenario in
/-- A lease with the recorded id and another owner is as good as the recorded one. -/
theorem forged_owner_accepted :
    ¬ ∀ c : Config (@Section.Reply Unit) (Shared Unit) Unit,
      (fabricSystem anySection).Reachable c → ∀ lease, OnlyExactLease c.state lease := by
  intro h
  have hp : (after (start ()) registerAndLease).state.fabric.leases.poisoned = false := by
    decide +kernel
  have hrec : (after (start ()) registerAndLease).state.recorded? ⟨1, "device.0", "intruder"⟩ =
      some ⟨⟨1, "device.0", "mission-a"⟩, 30⟩ := by decide +kernel
  have hother : ¬ (after (start ()) registerAndLease).state.Recorded
      ⟨1, "device.0", "intruder"⟩ := by
    rintro ⟨active, hactive, hsame⟩
    rw [(recorded?_eq_some.mp hrec).1] at hactive
    obtain rfl := Option.some.inj hactive
    exact absurd hsame (by decide)
  exact release_run_recorded hp hrec (h _ reachable_registerAndLease _ hother).2.1

end NautiFabric
