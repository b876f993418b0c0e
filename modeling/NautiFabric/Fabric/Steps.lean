import NautiFabric.Fabric.Calls

/-!
# NautiFabric.Fabric.Steps — what a section can do, said once

`act_leaseStep` lists everything a section can do to the lease table, the id
counter and the history, `act_worldStep` what it can do to the adapters' world;
`act_frame` says which sections write a registry, and `attach_ok`,
`renewLease_ok` what a lease must be to be honoured. The invariants are proved
from these lists, not from the code of the sections.
-/

namespace NautiFabric

variable {W : Type}

/-! ## Sections that touch nothing -/

/-- The sections that only read, or write a registry or the heartbeats. -/
def Section.Silent : Section W → Prop
  | .register _ => True
  | .unregisterRemove _ => True
  | .resource _ => True
  | .resources => True
  | .resourceIds => True
  | .registerAdapter _ => True
  | .adapterReports _ => True
  | .heartbeat _ => True
  | .cutoff _ => True
  | .evictStale _ _ => True
  | .evictOwned _ _ => True
  | _ => False

/-- The leases, the attachments, the adapters' world and the history are as before. -/
structure Shared.Untouched (s s' : Shared W) : Prop where
  leases : s'.fabric.leases = s.fabric.leases
  nextLeaseId : s'.fabric.nextLeaseId = s.fabric.nextLeaseId
  attachments : s'.fabric.attachments = s.fabric.attachments
  world : s'.world = s.world
  log : s'.log = s.log

theorem act_silent {sec : Section W} (h : sec.Silent) (s : Shared W) :
    s.Untouched (sec.act s).2 := by
  cases sec <;> first | exact ⟨rfl, rfl, rfl, rfl, rfl⟩ | exact h.elim

/-! ## The lease table -/

/-- Events that say nothing about a lease. -/
def Event.Quiet : Event W → Prop
  | .granted _ _ _ => False
  | .renewed _ _ _ _ => False
  | .released _ _ _ => False
  | .attachCall _ _ _ _ _ => False
  | .detachCall _ _ _ _ _ => True
  | .attachmentRecorded _ _ => True
  | .attachmentTaken _ _ => True

/-- No id was consumed, unless the lease mutex ends up poisoned. -/
def IdsKept (s s' : Shared W) : Prop :=
  s'.fabric.leases.poisoned = false →
    s.fabric.leases.poisoned = false ∧ s'.fabric.nextLeaseId = s.fabric.nextLeaseId

/-- The history grew by quiet events. -/
def LogQuiet (s s' : Shared W) : Prop :=
  ∃ evs, s'.log = evs ++ s.log ∧ ∀ ev ∈ evs, ev.Quiet

theorem LogQuiet.refl (s : Shared W) : LogQuiet s s := ⟨[], rfl, by simp⟩

/-- `lease_exclusive` on `resourceId`, at its lease guard, is about to grant. -/
structure Shared.WouldGrant (s : Shared W) (resourceId : String) (ttl : Duration) : Prop where
  poisoned : s.fabric.leases.poisoned = false
  free : resourceId ∉ retainUnexpired s.now s.fabric.leases.val
  ids : s.idOverflows = false
  inRange : s.now + ttl < Instant.limit

/-- Everything a section can do to the leases, with the section that does it. -/
inductive LeaseStep (s : Shared W) : Section W → Shared W → Prop
  | idle {sec : Section W} {s' : Shared W}
      (hleases : s'.fabric.leases.val = s.fabric.leases.val) (hids : IdsKept s s')
      (hlog : LogQuiet s s') : LeaseStep s sec s'
  | prune {sec : Section W} {s' : Shared W}
      (hleases : s'.fabric.leases.val = retainUnexpired s.now s.fabric.leases.val)
      (hids : IdsKept s s') (hlog : s'.log = s.log) : LeaseStep s sec s'
  | grant {resourceId owner : String} {ttl : Duration} {lease : Lease} {s' : Shared W}
      (hlease : lease = ⟨s.fabric.nextLeaseId + 1, resourceId, owner⟩)
      (hgrant : s.WouldGrant resourceId ttl)
      (hleases : s'.fabric.leases.val =
        (retainUnexpired s.now s.fabric.leases.val).insert resourceId ⟨lease, s.now + ttl⟩)
      (hnext : s'.fabric.nextLeaseId = s.fabric.nextLeaseId + 1)
      (hlog : s'.log = .granted lease ttl s.now :: s.log) :
      LeaseStep s (.leaseExclusive resourceId owner ttl) s'
  | renew {lease : Lease} {ttl : Duration} {active : ActiveLease} {s' : Shared W}
      (hactive : s.fabric.leases.val[lease.resourceId]? = some active)
      (hid : active.lease.id = lease.id) (hlive : s.now < active.expiresAt)
      (hleases : s'.fabric.leases.val =
        (retainUnexpired s.now s.fabric.leases.val).insert lease.resourceId
          ⟨active.lease, s.now + ttl⟩)
      (hids : IdsKept s s') (hlog : s'.log = .renewed lease active.lease ttl s.now :: s.log) :
      LeaseStep s (.renewLease lease ttl) s'
  | attach {resource : Resource} {adapterName : String} {lease : Lease} {active : ActiveLease}
      {adapter : ResourceAdapter W} {result : Except FabricError Attachment} {s' : Shared W}
      (hactive : s.fabric.leases.val[lease.resourceId]? = some active)
      (hid : active.lease.id = lease.id) (hlive : s.now < active.expiresAt)
      (hadapter : s.fabric.adapters[adapterName]? = some adapter)
      (hleases : s'.fabric.leases.val = s.fabric.leases.val) (hids : IdsKept s s')
      (hlog : ∃ evs, s'.log = evs ++ .attachCall adapter resource lease s.now result :: s.log ∧
        ∀ ev ∈ evs, ev.Quiet) :
      LeaseStep s (.attach resource adapterName lease) s'
  | release {lease : Lease} {active : ActiveLease} {s' : Shared W}
      (hactive : s.fabric.leases.val[lease.resourceId]? = some active)
      (hid : active.lease.id = lease.id)
      (hleases : s'.fabric.leases.val = s.fabric.leases.val.erase lease.resourceId)
      (hids : IdsKept s s') (hlog : s'.log = .released lease active.lease s.now :: s.log) :
      LeaseStep s (.releaseRemove lease) s'

theorem withLeases_poisoned {α : Type} {s : Shared W} (h : s.fabric.leases.poisoned = true)
    (body : Option α × Shared W) : withLeases s body = (none, s) := by
  simp [withLeases, h]

theorem withLeases_some {α : Type} {s s' : Shared W} {reply : α}
    (h : s.fabric.leases.poisoned = false) :
    withLeases s (some reply, s') = (some reply, s') := by
  simp [withLeases, h]

theorem withLeases_none {α : Type} {s s' : Shared W} (h : s.fabric.leases.poisoned = false) :
    withLeases s ((none : Option α), s') =
      (none, { s' with fabric.leases.poisoned := true }) := by
  simp [withLeases, h]

/-- What is replied under the guard is the body's reply. -/
theorem body_of_withLeases {α : Type} {s s' : Shared W} {body : Option α × Shared W} {reply : α}
    (h : withLeases s body = (some reply, s')) : body = (some reply, s') := by
  rcases Bool.eq_false_or_eq_true s.fabric.leases.poisoned with hp | hp
  · rw [withLeases_poisoned hp] at h
    cases h
  · rcases body with ⟨_ | said, t⟩
    · rw [withLeases_none hp] at h
      cases h
    · rwa [withLeases_some hp] at h

/-- A section that fails on the poisoned lease mutex leaves the leases alone. -/
theorem LeaseStep.of_poisoned {α : Type} {s : Shared W} {sec : Section W}
    (h : s.fabric.leases.poisoned = true) (body : Option α × Shared W) :
    LeaseStep s sec (withLeases s body).2 := by
  rw [withLeases_poisoned h]
  exact .idle rfl (fun hp => absurd (h.symm.trans hp) (by simp)) (.refl s)

theorem recorded?_eq_some {s : Shared W} {lease : Lease} {active : ActiveLease} :
    s.recorded? lease = some active ↔
      s.fabric.leases.val[lease.resourceId]? = some active ∧ active.lease.id = lease.id := by
  simp [Shared.recorded?, Option.filter_eq_some_iff]

@[simp] theorem getElem?_retainUnexpired (now : Instant) (leases : StringMap ActiveLease)
    (k : String) :
    (retainUnexpired now leases)[k]? =
      (leases[k]?).filter fun active => decide (now < active.expiresAt) := by
  simp [retainUnexpired]

/-- The recorded lease has the presented id and has not expired. -/
def Shared.Honours (s : Shared W) (lease : Lease) : Prop :=
  ∃ active, s.recorded? lease = some active ∧ s.now < active.expiresAt

/-! ## How an attach ends -/

/-- The adapter has been asked to attach. -/
def Shared.callAttach (s : Shared W) (adapter : ResourceAdapter W) (r : Resource)
    (lease : Lease) : Shared W :=
  { s with world := (adapter.attach r lease s.world).2 }.emit
    (.attachCall adapter r lease s.now (adapter.attach r lease s.world).1)

/-- The attachment has been recorded. -/
def Shared.recordEntry (s : Shared W) (lease : Lease) (adapterName : String) : Shared W :=
  { s with
      fabric.attachments := s.fabric.attachments.insert lease.resourceId adapterName
    }.emit (.attachmentRecorded lease adapterName)

/-- An attach under the lease comes to call the adapter. -/
structure Shared.Attaches (s : Shared W) (name : String) (lease : Lease)
    (adapter : ResourceAdapter W) : Prop where
  poisoned : s.fabric.leases.poisoned = false
  honours : s.Honours lease
  adapter : s.fabric.adapters[name]? = some adapter

/-- Every way the lock scope of an attach can end. -/
inductive AttachRun (s : Shared W) (r : Resource) (name : String) (lease : Lease) :
    Option (Except FabricError Attachment) × Shared W → Prop
  | poisoned (hp : s.fabric.leases.poisoned = true) : AttachRun s r name lease (none, s)
  | unauthorized (hp : s.fabric.leases.poisoned = false) (hhonours : ¬ s.Honours lease) :
      AttachRun s r name lease (some (.error .leaseNotFound), s)
  | unknown (hp : s.fabric.leases.poisoned = false) (hhonours : s.Honours lease)
      (hadapter : s.fabric.adapters[name]? = none) :
      AttachRun s r name lease (some (.error .adapterNotFound), s)
  | failed {adapter : ResourceAdapter W} {e : FabricError} (h : s.Attaches name lease adapter)
      (hattach : (adapter.attach r lease s.world).1 = .error e) :
      AttachRun s r name lease (some (.error e), s.callAttach adapter r lease)
  | attached {adapter : ResourceAdapter W} {x : Attachment} (h : s.Attaches name lease adapter)
      (hattach : (adapter.attach r lease s.world).1 = .ok x) :
      AttachRun s r name lease
        (some (.ok x), (s.callAttach adapter r lease).recordEntry lease name)

theorem attachSection_run (r : Resource) (name : String) (lease : Lease) (s : Shared W) :
    AttachRun s r name lease (attachSection r name lease s) := by
  unfold attachSection
  rcases Bool.eq_false_or_eq_true s.fabric.leases.poisoned with hp | hp
  · rw [withLeases_poisoned hp]
    exact .poisoned hp
  have hauthorized : (s.recorded? lease).any (fun active => decide (active.expiresAt > s.now)) =
      true ↔ s.Honours lease := by
    simp [Shared.Honours, Option.any_eq_true]
  dsimp only
  -- the three checks of the code: the lease, the adapter, and its `attach`
  split
  · rename_i hauth
    rw [withLeases_some hp]
    refine .unauthorized hp fun hhonours => ?_
    rw [hauthorized.mpr hhonours] at hauth
    exact absurd hauth (by decide)
  · rename_i hauth
    have hhonours : s.Honours lease := hauthorized.mp (by simpa using hauth)
    split
    · rename_i hadapter
      rw [withLeases_some hp]
      exact .unknown hp hhonours hadapter
    · rename_i adapter hadapter
      split
      · rename_i e hattach
        rw [withLeases_some hp]
        exact .failed ⟨hp, hhonours, hadapter⟩ hattach
      · rename_i x hattach
        rw [withLeases_some hp]
        exact .attached ⟨hp, hhonours, hadapter⟩ hattach

theorem add_eq_some {t : Instant} {d : Duration} {t' : Instant} :
    t.add d = some t' ↔ t + d < Instant.limit ∧ t' = t + d := by
  simp only [Instant.add, Option.ite_none_right_eq_some, Option.some.injEq]
  exact and_congr_right fun _ => eq_comm

theorem leaseExclusive_leaseStep (resourceId owner : String) (ttl : Duration) (s : Shared W) :
    LeaseStep s (.leaseExclusive resourceId owner ttl)
      (leaseExclusiveSection resourceId owner ttl s).2 := by
  unfold leaseExclusiveSection
  rcases Bool.eq_false_or_eq_true s.fabric.leases.poisoned with hp | hp
  · exact .of_poisoned hp _
  dsimp only
  split
  · rw [withLeases_some hp]
    exact .prune rfl (fun _ => ⟨hp, rfl⟩) rfl
  · rename_i hfree
    split
    · -- the id counter overflows
      rw [withLeases_none hp]
      exact .prune rfl (fun h => absurd h (by simp)) rfl
    · split
      · -- the expiry is out of range
        rw [withLeases_none hp]
        exact .prune rfl (fun h => absurd h (by simp)) rfl
      · rename_i hids _ expiresAt hadd
        obtain ⟨hrange, rfl⟩ := add_eq_some.mp hadd
        rw [withLeases_some hp]
        exact .grant rfl ⟨hp, hfree, by simpa using hids, hrange⟩ rfl rfl rfl

theorem leaseExclusive_of_wouldGrant {s : Shared W} {resourceId : String} {ttl : Duration}
    (h : s.WouldGrant resourceId ttl) (owner : String) :
    (leaseExclusiveSection resourceId owner ttl s).1 =
        some (.ok ⟨s.fabric.nextLeaseId + 1, resourceId, owner⟩) ∧
      (leaseExclusiveSection resourceId owner ttl s).2.fabric.leases.val =
        (retainUnexpired s.now s.fabric.leases.val).insert resourceId
          ⟨⟨s.fabric.nextLeaseId + 1, resourceId, owner⟩, s.now + ttl⟩ ∧
      (leaseExclusiveSection resourceId owner ttl s).2.fabric.resources =
        s.fabric.resources := by
  have hadd : s.now.add ttl = some (s.now + ttl) := add_eq_some.mpr ⟨h.inRange, rfl⟩
  simp [leaseExclusiveSection, withLeases, h.poisoned, h.free, h.ids, hadd, Shared.setLeases,
    Shared.emit]

/-- What is recorded once the expired leases are gone is recorded and has not expired. -/
theorem live_of_recorded?_retain {s : Shared W} {lease : Lease} {active : ActiveLease}
    (h : (s.setLeases (retainUnexpired s.now s.fabric.leases.val)).recorded? lease =
      some active) :
    s.fabric.leases.val[lease.resourceId]? = some active ∧ active.lease.id = lease.id ∧
      s.now < active.expiresAt := by
  obtain ⟨hget, hid⟩ := recorded?_eq_some.mp h
  have hget : (s.fabric.leases.val[lease.resourceId]?).filter
      (fun active => decide (s.now < active.expiresAt)) = some active := by
    simpa [Shared.setLeases] using hget
  obtain ⟨hactive, hlive⟩ := Option.filter_eq_some_iff.mp hget
  exact ⟨hactive, hid, by simpa using hlive⟩

theorem renewLease_leaseStep (lease : Lease) (ttl : Duration) (s : Shared W) :
    LeaseStep s (.renewLease lease ttl) (renewLeaseSection lease ttl s).2 := by
  unfold renewLeaseSection
  rcases Bool.eq_false_or_eq_true s.fabric.leases.poisoned with hp | hp
  · exact .of_poisoned hp _
  dsimp only
  split
  · rw [withLeases_some hp]
    exact .prune rfl (fun _ => ⟨hp, rfl⟩) rfl
  · rename_i active hrec
    split
    · rw [withLeases_none hp]
      exact .prune rfl (fun h => absurd h (by simp)) rfl
    · rename_i expiresAt hadd
      obtain ⟨-, rfl⟩ := add_eq_some.mp hadd
      rw [withLeases_some hp]
      obtain ⟨hactive, hid, hlive⟩ := live_of_recorded?_retain hrec
      exact .renew hactive hid hlive rfl (fun _ => ⟨hp, rfl⟩) rfl

theorem attach_leaseStep (resource : Resource) (adapterName : String) (lease : Lease)
    (s : Shared W) :
    LeaseStep s (.attach resource adapterName lease)
      (attachSection resource adapterName lease s).2 := by
  have hrun := attachSection_run resource adapterName lease s
  generalize attachSection resource adapterName lease s = outcome at hrun
  have called : ∀ (evs : List (Event W)) {adapter : ResourceAdapter W} {s' : Shared W},
      s.Attaches adapterName lease adapter → s'.fabric.leases.val = s.fabric.leases.val →
      s'.fabric.nextLeaseId = s.fabric.nextLeaseId →
      s'.log = evs ++ (s.callAttach adapter resource lease).log → (∀ ev ∈ evs, ev.Quiet) →
      LeaseStep s (.attach resource adapterName lease) s' := by
    intro evs adapter s' h hleases hnext hlog hevs
    obtain ⟨active, hrec, hlive⟩ := h.honours
    obtain ⟨hactive, hid⟩ := recorded?_eq_some.mp hrec
    exact .attach hactive hid hlive h.adapter hleases (fun _ => ⟨h.poisoned, hnext⟩)
      ⟨evs, hlog, hevs⟩
  cases hrun with
  | poisoned hp => exact .idle rfl (fun h => ⟨h, rfl⟩) (.refl s)
  | unauthorized hp => exact .idle rfl (fun _ => ⟨hp, rfl⟩) (.refl s)
  | unknown hp => exact .idle rfl (fun _ => ⟨hp, rfl⟩) (.refl s)
  | failed h => exact called [] h rfl rfl rfl (by simp)
  | attached h =>
      exact called [.attachmentRecorded lease adapterName] h rfl rfl rfl (by simp [Event.Quiet])

theorem releaseRemove_leaseStep (lease : Lease) (s : Shared W) :
    LeaseStep s (.releaseRemove lease) (releaseRemoveSection lease s).2 := by
  unfold releaseRemoveSection
  rcases Bool.eq_false_or_eq_true s.fabric.leases.poisoned with hp | hp
  · exact .of_poisoned hp _
  split
  · rw [withLeases_some hp]
    exact .idle rfl (fun _ => ⟨hp, rfl⟩) (.refl s)
  · rename_i active hrec
    rw [withLeases_some hp]
    obtain ⟨hactive, hid⟩ := recorded?_eq_some.mp hrec
    exact .release hactive hid rfl (fun _ => ⟨hp, rfl⟩) rfl

/-- A section under the lease guard whose body only reads. -/
theorem LeaseStep.of_read {α : Type} {s : Shared W} {sec : Section W} (reply : α) :
    LeaseStep s sec (withLeases s (some reply, s)).2 := by
  rcases Bool.eq_false_or_eq_true s.fabric.leases.poisoned with hp | hp
  · exact .of_poisoned hp _
  · rw [withLeases_some hp]
    exact .idle rfl (fun _ => ⟨hp, rfl⟩) (.refl s)

theorem act_leaseStep (sec : Section W) (s : Shared W) : LeaseStep s sec (sec.act s).2 := by
  by_cases hsilent : sec.Silent
  · have h := act_silent hsilent s
    refine .idle (by rw [h.leases]) (fun hp => ?_) ⟨[], h.log, by simp⟩
    rw [h.leases] at hp
    exact ⟨hp, h.nextLeaseId⟩
  cases sec with
  | leaseExclusive resourceId owner ttl => exact leaseExclusive_leaseStep resourceId owner ttl s
  | renewLease lease ttl => exact renewLease_leaseStep lease ttl s
  | attach r adapterName lease => exact attach_leaseStep r adapterName lease s
  | releaseRemove lease => exact releaseRemove_leaseStep lease s
  -- the rest leaves the leases alone
  | unregisterCheck resourceId =>
      simp only [Section.act, unregisterCheckSection]
      split <;> exact .of_read _
  | releaseCheck lease =>
      simp only [Section.act, releaseCheckSection]
      split <;> exact .of_read _
  | findAvailable request order => exact .of_read _
  | releaseTake lease =>
      simp only [Section.act, releaseTakeSection]
      split
      · exact .idle rfl (fun h => ⟨h, rfl⟩) (.refl s)
      · rename_i adapterName _
        exact .idle rfl (fun h => ⟨h, rfl⟩)
          ⟨[.attachmentTaken lease adapterName], rfl, by simp [Event.Quiet]⟩
  | releaseDetach r adapterName lease =>
      simp only [Section.act, releaseDetachSection]
      split
      · exact .idle rfl (fun h => ⟨h, rfl⟩) (.refl s)
      · exact .idle rfl (fun h => ⟨h, rfl⟩)
          ⟨[.detachCall _ r lease s.now _], rfl, by simp [Event.Quiet]⟩
  | _ => exact absurd trivial hsilent

/-! ## The clock and the registries -/

/-- The clock, the build profile, the registries and the heartbeats are as before. -/
structure Frame (s s' : Shared W) : Prop where
  now : s'.now = s.now
  overflowChecks : s'.overflowChecks = s.overflowChecks
  resources : s'.fabric.resources = s.fabric.resources
  adapters : s'.fabric.adapters = s.fabric.adapters
  heartbeats : s'.fabric.heartbeats = s.fabric.heartbeats

theorem Frame.refl (s : Shared W) : Frame s s := ⟨rfl, rfl, rfl, rfl, rfl⟩

theorem Frame.withLeases {α : Type} {s : Shared W} {body : Option α × Shared W}
    (h : Frame s body.2) : Frame s (withLeases s body).2 := by
  unfold NautiFabric.withLeases
  split
  · exact .refl s
  · split
    · exact h
    · exact ⟨h.now, h.overflowChecks, h.resources, h.adapters, h.heartbeats⟩

/-- The sections that write a registry or the heartbeats. -/
def Section.writes : Section W → Prop
  | .register _ => True
  | .unregisterRemove _ => True
  | .registerAdapter _ => True
  | .heartbeat _ => True
  | .evictStale _ _ => True
  | _ => False

theorem act_frame (sec : Section W) (hw : ¬ sec.writes) (s : Shared W) :
    Frame s (sec.act s).2 := by
  cases sec with
  | register => exact absurd trivial hw
  | unregisterRemove => exact absurd trivial hw
  | registerAdapter => exact absurd trivial hw
  | heartbeat => exact absurd trivial hw
  | evictStale => exact absurd trivial hw
  -- the others stay clear of the registries, whether they reply or panic
  | unregisterCheck => exact .withLeases (by split <;> exact .refl s)
  | leaseExclusive =>
      apply Frame.withLeases
      dsimp only
      split
      · exact ⟨rfl, rfl, rfl, rfl, rfl⟩
      · split
        · exact ⟨rfl, rfl, rfl, rfl, rfl⟩
        · split <;> exact ⟨rfl, rfl, rfl, rfl, rfl⟩
  | renewLease =>
      apply Frame.withLeases
      dsimp only
      split
      · exact ⟨rfl, rfl, rfl, rfl, rfl⟩
      · split <;> exact ⟨rfl, rfl, rfl, rfl, rfl⟩
  | attach =>
      apply Frame.withLeases
      dsimp only
      split
      · exact .refl s
      · split
        · exact .refl s
        · split <;> exact ⟨rfl, rfl, rfl, rfl, rfl⟩
  | releaseCheck => exact .withLeases (by split <;> exact .refl s)
  | releaseTake =>
      simp only [Section.act, releaseTakeSection]
      split <;> exact ⟨rfl, rfl, rfl, rfl, rfl⟩
  | releaseDetach =>
      simp only [Section.act, releaseDetachSection]
      split <;> exact ⟨rfl, rfl, rfl, rfl, rfl⟩
  | releaseRemove => exact .withLeases (by split <;> exact ⟨rfl, rfl, rfl, rfl, rfl⟩)
  | findAvailable => exact .withLeases (.refl s)
  | resource => exact .refl s
  | resources => exact .refl s
  | resourceIds => exact .refl s
  | adapterReports => exact .refl s
  | cutoff => exact .refl s
  | evictOwned => exact .refl s

/-- What every registered adapter is, as long as those that are added are so. -/
theorem adapters_act {P : ResourceAdapter W → Prop} {s : Shared W} {sec : Section W}
    (h : ∀ (name : String) adapter, s.fabric.adapters[name]? = some adapter → P adapter)
    (hsec : ∀ adapter, sec = .registerAdapter adapter → P adapter) :
    ∀ (name : String) adapter, (sec.act s).2.fabric.adapters[name]? = some adapter →
      P adapter := by
  intro name adapter hk
  by_cases hw : sec.writes
  · cases sec with
    | registerAdapter adapter₀ =>
        have hk : (s.fabric.adapters.insert adapter₀.name adapter₀)[name]? = some adapter := hk
        rw [Std.ExtTreeMap.getElem?_insert] at hk
        split at hk
        · exact hsec adapter (congrArg Section.registerAdapter (Option.some.inj hk))
        · exact h name adapter hk
    | register => exact h name adapter hk
    | unregisterRemove => exact h name adapter hk
    | heartbeat => exact h name adapter hk
    | evictStale => exact h name adapter hk
    | _ => exact hw.elim
  · rw [(act_frame sec hw s).adapters] at hk
    exact h name adapter hk

/-- No time passes inside a section. -/
theorem act_now (sec : Section W) (s : Shared W) : (sec.act s).2.now = s.now := by
  by_cases hw : sec.writes
  · cases sec <;> first | rfl | exact hw.elim
  · exact (act_frame sec hw s).now

/-! ## Presenting a lease -/

theorem attach_ok {resource : Resource} {adapterName : String} {lease : Lease} {s : Shared W}
    {attachment : Attachment}
    (h : (attachSection resource adapterName lease s).1 = some (.ok attachment)) :
    s.Honours lease := by
  have hrun := attachSection_run resource adapterName lease s
  generalize attachSection resource adapterName lease s = outcome at hrun h
  cases hrun with
  | poisoned => cases h
  | unauthorized => cases h
  | unknown => cases h
  | failed => cases h
  | attached hattaches => exact hattaches.honours

theorem renewLease_ok {lease renewed : Lease} {ttl : Duration} {s : Shared W}
    (h : (renewLeaseSection lease ttl s).1 = some (.ok renewed)) : s.Honours lease := by
  have hbody := body_of_withLeases (Prod.ext h rfl : renewLeaseSection lease ttl s = (_, _))
  dsimp only at hbody
  split at hbody
  · cases hbody
  · rename_i active hrec
    obtain ⟨hactive, hid, hlive⟩ := live_of_recorded?_retain hrec
    exact ⟨active, recorded?_eq_some.mpr ⟨hactive, hid⟩, hlive⟩

/-! ## The adapters' world -/

/-- The section is not an adapter's `attach`. -/
def Event.NoAttach : Event W → Prop
  | .attachCall _ _ _ _ _ => False
  | _ => True

/-- The world is as before, and no adapter was asked to attach. -/
def Shared.Still (s s' : Shared W) : Prop :=
  s'.world = s.world ∧ ∃ evs, s'.log = evs ++ s.log ∧ ∀ ev ∈ evs, ev.NoAttach

theorem Shared.Still.of_same {s s' : Shared W} (hworld : s'.world = s.world)
    (hlog : s'.log = s.log) : s.Still s' :=
  ⟨hworld, [], hlog, by simp⟩

theorem Shared.Still.of_event {s s' : Shared W} {ev : Event W} (hworld : s'.world = s.world)
    (hlog : s'.log = ev :: s.log) (hev : ev.NoAttach) : s.Still s' :=
  ⟨hworld, [ev], hlog, by simpa using hev⟩

/-- Everything a section can do to the adapters' world: an adapter's `attach` or
`detach`, or nothing. -/
inductive WorldStep (s : Shared W) : Section W → Shared W → Prop
  | still {sec : Section W} {s' : Shared W} (h : s.Still s') : WorldStep s sec s'
  | attach {resource : Resource} {adapterName : String} {lease : Lease}
      {adapter : ResourceAdapter W} {s' : Shared W} (hpoisoned : s.fabric.leases.poisoned = false)
      (hhonours : s.Honours lease) (hadapter : s.fabric.adapters[adapterName]? = some adapter)
      (hworld : s'.world = (adapter.attach resource lease s.world).2)
      (hlog : ∃ evs, s'.log = evs ++ .attachCall adapter resource lease s.now
        (adapter.attach resource lease s.world).1 :: s.log ∧ ∀ ev ∈ evs, ev.NoAttach) :
      WorldStep s (.attach resource adapterName lease) s'
  | detach {resource : Resource} {adapterName : String} {lease : Lease}
      {adapter : ResourceAdapter W} {s' : Shared W}
      (hadapter : s.fabric.adapters[adapterName]? = some adapter)
      (hworld : s'.world = (adapter.detach resource lease s.world).2)
      (hlog : s'.log = .detachCall adapter resource lease s.now
        (adapter.detach resource lease s.world).1 :: s.log) :
      WorldStep s (.releaseDetach resource adapterName lease) s'

theorem WorldStep.of_same {s s' : Shared W} {sec : Section W} (hworld : s'.world = s.world)
    (hlog : s'.log = s.log) : WorldStep s sec s' :=
  .still (.of_same hworld hlog)

/-- A section under the lease guard whose body leaves the world alone. -/
theorem WorldStep.withLeases {α : Type} {s : Shared W} {sec : Section W}
    {body : Option α × Shared W} (h : s.Still body.2) : WorldStep s sec (withLeases s body).2 := by
  unfold NautiFabric.withLeases
  split
  · exact .of_same rfl rfl
  · split
    · exact .still h
    · exact .still h

theorem attach_worldStep (resource : Resource) (adapterName : String) (lease : Lease)
    (s : Shared W) :
    WorldStep s (.attach resource adapterName lease)
      (attachSection resource adapterName lease s).2 := by
  have hrun := attachSection_run resource adapterName lease s
  generalize attachSection resource adapterName lease s = outcome at hrun
  cases hrun with
  | poisoned => exact .of_same rfl rfl
  | unauthorized => exact .of_same rfl rfl
  | unknown => exact .of_same rfl rfl
  | failed h => exact .attach h.poisoned h.honours h.adapter rfl ⟨[], rfl, by simp⟩
  | attached h =>
      exact .attach h.poisoned h.honours h.adapter rfl
        ⟨[.attachmentRecorded lease adapterName], rfl, by simp [Event.NoAttach]⟩

theorem act_worldStep (sec : Section W) (s : Shared W) : WorldStep s sec (sec.act s).2 := by
  by_cases hsilent : sec.Silent
  · have h := act_silent hsilent s
    exact .of_same h.world h.log
  -- only `attach` and `releaseDetach` call an adapter
  cases sec with
  | attach r adapterName lease => exact attach_worldStep r adapterName lease s
  | releaseDetach r adapterName lease =>
      simp only [Section.act, releaseDetachSection]
      split
      · exact .of_same rfl rfl
      · rename_i adapter hadapter
        exact .detach hadapter rfl rfl
  | leaseExclusive resourceId owner ttl =>
      apply WorldStep.withLeases
      dsimp only
      split
      · exact .of_same rfl rfl
      · split
        · exact .of_same rfl rfl
        · split
          · exact .of_same rfl rfl
          · exact .of_event rfl rfl trivial
  | renewLease lease ttl =>
      apply WorldStep.withLeases
      dsimp only
      split
      · exact .of_same rfl rfl
      · split
        · exact .of_same rfl rfl
        · exact .of_event rfl rfl trivial
  | releaseRemove lease =>
      apply WorldStep.withLeases
      split
      · exact .of_same rfl rfl
      · exact .of_event rfl rfl trivial
  | unregisterCheck resourceId =>
      apply WorldStep.withLeases
      split <;> exact .of_same rfl rfl
  | releaseCheck lease =>
      apply WorldStep.withLeases
      split <;> exact .of_same rfl rfl
  | findAvailable request order => exact .withLeases (.of_same rfl rfl)
  | releaseTake lease =>
      simp only [Section.act, releaseTakeSection]
      split
      · exact .of_same rfl rfl
      · exact .still (.of_event rfl rfl trivial)
  | _ => exact absurd trivial hsilent

end NautiFabric
