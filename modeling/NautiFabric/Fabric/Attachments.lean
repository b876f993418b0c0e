import NautiFabric.Fabric.Leases

/-!
# NautiFabric.Fabric.Attachments — the attachment table over every interleaving

The attachment table names an adapter for a resource, not the lease under which
it attached. What ties an entry to a lease is the order of grants: the entry was
recorded under the lease that was granted last (`Owned`). `HandoverGuard` is
what keeps it so: no grant on a resource that still has an entry, and no removal
of an entry by a `release` whose lease has been succeeded by another one.
-/

namespace NautiFabric

open Interleave

variable {W : Type}

/-! ## What a section can do to the attachment table -/

/-- Events that say nothing about attachments. -/
def Event.Unattached : Event W → Prop
  | .attachCall _ _ _ _ (.ok _) => False
  | .detachCall _ _ _ _ _ => False
  | .attachmentRecorded _ _ => False
  | .attachmentTaken _ _ => False
  | _ => True

/-- Everything a section can do to the attachments, with the section that does it. -/
inductive AttachStep (s : Shared W) : Section W → Shared W → Prop
  | idle {sec : Section W} {s' : Shared W}
      (hattachments : s'.fabric.attachments = s.fabric.attachments)
      (hlog : ∃ evs, s'.log = evs ++ s.log ∧ ∀ ev ∈ evs, ev.Unattached) : AttachStep s sec s'
  | record {resource : Resource} {adapterName : String} {lease : Lease}
      {adapter : ResourceAdapter W} {attachment : Attachment} {s' : Shared W}
      (hhonours : s.Honours lease) (hadapter : s.fabric.adapters[adapterName]? = some adapter)
      (hattachments : s'.fabric.attachments =
        s.fabric.attachments.insert lease.resourceId adapterName)
      (hlog : s'.log = .attachmentRecorded lease adapterName ::
        .attachCall adapter resource lease s.now (.ok attachment) :: s.log) :
      AttachStep s (.attach resource adapterName lease) s'
  | take {lease : Lease} {adapterName : String} {s' : Shared W}
      (hentry : s.fabric.attachments[lease.resourceId]? = some adapterName)
      (hattachments : s'.fabric.attachments = s.fabric.attachments.erase lease.resourceId)
      (hlog : s'.log = .attachmentTaken lease adapterName :: s.log) :
      AttachStep s (.releaseTake lease) s'
  | detach {resource : Resource} {adapterName : String} {lease : Lease}
      {adapter : ResourceAdapter W} {result : Except FabricError Unit} {s' : Shared W}
      (hadapter : s.fabric.adapters[adapterName]? = some adapter)
      (hattachments : s'.fabric.attachments = s.fabric.attachments)
      (hlog : s'.log = .detachCall adapter resource lease s.now result :: s.log) :
      AttachStep s (.releaseDetach resource adapterName lease) s'

theorem AttachStep.of_same {s s' : Shared W} {sec : Section W}
    (hattachments : s'.fabric.attachments = s.fabric.attachments) (hlog : s'.log = s.log) :
    AttachStep s sec s' :=
  .idle hattachments ⟨[], hlog, by simp⟩

theorem AttachStep.of_event {s s' : Shared W} {sec : Section W} {ev : Event W}
    (hattachments : s'.fabric.attachments = s.fabric.attachments) (hlog : s'.log = ev :: s.log)
    (hev : ev.Unattached) : AttachStep s sec s' :=
  .idle hattachments ⟨[ev], hlog, by simpa using hev⟩

/-- A section under the lease guard does what its body does, and a panic adds nothing. -/
theorem AttachStep.withLeases {α : Type} {s : Shared W} {sec : Section W}
    {body : Option α × Shared W} (h : AttachStep s sec body.2) :
    AttachStep s sec (withLeases s body).2 := by
  unfold NautiFabric.withLeases
  split
  · exact .of_same rfl rfl
  · rcases body with ⟨_ | reply, s'⟩
    · -- poisoning the mutex touches neither the attachments nor the history
      cases h with
      | idle hattachments hlog => exact .idle hattachments hlog
      | record hhonours hadapter hattachments hlog =>
          exact .record hhonours hadapter hattachments hlog
      | take hentry hattachments hlog => exact .take hentry hattachments hlog
      | detach hadapter hattachments hlog => exact .detach hadapter hattachments hlog
    · exact h

theorem attach_attachStep (resource : Resource) (adapterName : String) (lease : Lease)
    (s : Shared W) :
    AttachStep s (.attach resource adapterName lease)
      (attachSection resource adapterName lease s).2 := by
  have hrun := attachSection_run resource adapterName lease s
  generalize attachSection resource adapterName lease s = outcome at hrun
  cases hrun with
  | poisoned => exact .of_same rfl rfl
  | unauthorized => exact .of_same rfl rfl
  | unknown => exact .of_same rfl rfl
  | failed h hattach =>
      refine .of_event rfl rfl ?_
      rw [hattach]
      trivial
  | @attached adapter x h hattach =>
      have hlog : ((s.callAttach adapter resource lease).recordEntry lease adapterName).log =
          .attachmentRecorded lease adapterName ::
            .attachCall adapter resource lease s.now (.ok x) :: s.log := by
        rw [← hattach]
        rfl
      exact .record h.honours h.adapter rfl hlog

theorem act_attachStep (sec : Section W) (s : Shared W) : AttachStep s sec (sec.act s).2 := by
  by_cases hsilent : sec.Silent
  · have h := act_silent hsilent s
    exact .of_same h.attachments h.log
  -- the silent sections have no events; the others are taken one by one
  cases sec with
  | unregisterCheck resourceId =>
      apply AttachStep.withLeases
      split <;> exact .of_same rfl rfl
  | findAvailable request order => exact .withLeases (.of_same rfl rfl)
  | leaseExclusive resourceId owner ttl =>
      apply AttachStep.withLeases
      dsimp only
      split
      · exact .of_same rfl rfl
      · split
        · exact .of_same rfl rfl
        · split
          · exact .of_same rfl rfl
          · exact .of_event rfl rfl trivial
  | renewLease lease ttl =>
      apply AttachStep.withLeases
      dsimp only
      split
      · exact .of_same rfl rfl
      · split
        · exact .of_same rfl rfl
        · exact .of_event rfl rfl trivial
  | attach resource adapterName lease => exact attach_attachStep resource adapterName lease s
  | releaseCheck lease =>
      apply AttachStep.withLeases
      split <;> exact .of_same rfl rfl
  -- the two halves of a release that do touch the table, or an adapter
  | releaseTake lease =>
      simp only [Section.act, releaseTakeSection]
      split
      · exact .of_same rfl rfl
      · rename_i adapterName hentry
        exact .take hentry rfl rfl
  | releaseDetach resource adapterName lease =>
      simp only [Section.act, releaseDetachSection]
      split
      · exact .of_same rfl rfl
      · rename_i adapter hadapter
        exact .detach hadapter rfl rfl
  | releaseRemove lease =>
      apply AttachStep.withLeases
      split
      · exact .of_same rfl rfl
      · exact .of_event rfl rfl trivial
  | _ => exact absurd trivial hsilent

/-! ## The lease granted last -/

/-- A section leaves the latest grants alone, or is the grant on one resource. -/
theorem LeaseStep.latestGrant_cases {s s' : Shared W} {sec : Section W} (h : LeaseStep s sec s') :
    (∀ k, latestGrant s'.log k = latestGrant s.log k) ∨
      ∃ (lease : Lease) (ttl : Duration), sec = .leaseExclusive lease.resourceId lease.owner ttl ∧
        s.WouldGrant lease.resourceId ttl ∧ lease.id = s.fabric.nextLeaseId + 1 ∧
        latestGrant s'.log lease.resourceId = some lease ∧
        ∀ k, k ≠ lease.resourceId → latestGrant s'.log k = latestGrant s.log k := by
  have hsame : grantedLeases s'.log = grantedLeases s.log →
      ∀ k, latestGrant s'.log k = latestGrant s.log k := by
    intro hg k
    rw [latestGrant, hg, latestGrant]
  have hquiet : LogQuiet s s' → grantedLeases s'.log = grantedLeases s.log := by
    rintro ⟨evs, hlog, hquiet⟩
    rw [hlog, grantedLeases_append, grantedLeases_quiet hquiet, List.nil_append]
  -- only a grant is an event of the granted leases
  cases h with
  | idle _ _ hlog => exact Or.inl (hsame (hquiet hlog))
  | prune _ _ hlog => exact Or.inl (hsame (by rw [hlog]))
  | @grant resourceId owner ttl lease _ hlease hgrant _ _ hlog =>
      have hg : grantedLeases s'.log = lease :: grantedLeases s.log := by rw [hlog]; rfl
      subst hlease
      refine Or.inr ⟨⟨s.fabric.nextLeaseId + 1, resourceId, owner⟩, ttl, rfl, hgrant, rfl, ?_, ?_⟩
      · simp [latestGrant, hg]
      · intro k hk
        simp [latestGrant, hg, Ne.symm hk]
  | renew _ _ _ _ _ hlog => exact Or.inl (hsame (by rw [hlog]; rfl))
  | attach _ _ _ _ _ _ hlog =>
      obtain ⟨evs, hlog, hquiet⟩ := hlog
      refine Or.inl (hsame ?_)
      rw [hlog, grantedLeases_append, grantedLeases_quiet hquiet]
      rfl
  | release _ _ _ _ hlog => exact Or.inl (hsame (by rw [hlog]; rfl))

/-- A recorded lease is the one granted last on its resource. -/
def RecordedLatest (s : Shared W) : Prop :=
  ∀ (k : String) (active : ActiveLease), s.fabric.leases.val[k]? = some active →
    latestGrant s.log k = some active.lease

theorem RecordedLatest.act {s : Shared W} (h : RecordedLatest s) (sec : Section W) :
    RecordedLatest (sec.act s).2 := by
  intro k active' hk
  have hstep := act_leaseStep sec s
  -- recorded before, or granted just now
  rcases hstep.recorded_cases hk with ⟨active, hactive, hsame⟩ | ⟨hkey, hg⟩
  · rcases hstep.latestGrant_cases with hlatest | ⟨lease, ttl, rfl, hgrant, hid, hlatest, hother⟩
    · rw [hlatest, ← hsame]
      exact h k active hactive
    · by_cases hkey : k = lease.resourceId
      · -- the grant recorded its own lease on this resource
        subst hkey
        obtain ⟨-, hleases, -⟩ := leaseExclusive_of_wouldGrant hgrant lease.owner
        rw [Section.act, hleases, Std.ExtTreeMap.getElem?_insert_self] at hk
        obtain rfl := Option.some.inj hk
        rw [hlatest, ← hid]
      · rw [hother k hkey, ← hsame]
        exact h k active hactive
  · rw [latestGrant, hg]
    simp [hkey]

theorem RecordedLatest.fresh {s : Shared W} (h : s.Fresh) : RecordedLatest s := by
  intro k active hk
  rw [h.1] at hk
  simp [Fabric.default] at hk

theorem recordedLatest_reachable {guard : Section W → Shared W → Prop}
    {c : Config (@Section.Reply W) (Shared W) Unit} (h : (fabricSystem guard).Reachable c) :
    RecordedLatest c.state := by
  refine h.invariant RecordedLatest (fun s hs => .fresh hs) (fun sec s _ hs => hs.act sec) ?_
  intro s s' he hs
  rw [he.2]
  exact hs

/-- A recorded lease is a lease of the resource it is recorded on. -/
theorem RecordedLatest.resourceId {s : Shared W} (h : RecordedLatest s) {k : String}
    {active : ActiveLease} (hk : s.fabric.leases.val[k]? = some active) :
    active.lease.resourceId = k := by
  simpa using List.find?_some (h k active hk)

/-- What the fabric honours was granted last on its resource. -/
theorem RecordedLatest.of_recorded {s : Shared W} (h : RecordedLatest s) {lease : Lease}
    {active : ActiveLease} (hrec : s.recorded? lease = some active) :
    latestGrant s.log lease.resourceId = some active.lease ∧ active.lease.id = lease.id := by
  obtain ⟨hactive, hid⟩ := recorded?_eq_some.mp hrec
  exact ⟨h _ active hactive, hid⟩

/-! ## Whose entry it is -/

/-- The id of the lease under which the current entry of a resource was recorded. -/
def attachedUnder : List (Event W) → String → Option UInt64
  | [], _ => none
  | .attachmentRecorded lease _ :: log, k =>
    if lease.resourceId = k then some lease.id else attachedUnder log k
  | .attachmentTaken lease _ :: log, k =>
    if lease.resourceId = k then none else attachedUnder log k
  | _ :: log, k => attachedUnder log k

/-- Every entry that a `release` took had been recorded under the id it presented. -/
def TakesOwn : List (Event W) → Prop
  | [] => True
  | .attachmentTaken lease _ :: log =>
    attachedUnder log lease.resourceId = some lease.id ∧ TakesOwn log
  | _ :: log => TakesOwn log

instance TakesOwn.decide : (log : List (Event W)) → Decidable (TakesOwn log)
  | [] => inferInstanceAs (Decidable True)
  | .attachmentTaken lease _ :: log =>
    have : Decidable (TakesOwn log) := TakesOwn.decide log
    inferInstanceAs (Decidable (attachedUnder log lease.resourceId = some lease.id ∧ TakesOwn log))
  | .granted _ _ _ :: log => TakesOwn.decide log
  | .renewed _ _ _ _ :: log => TakesOwn.decide log
  | .released _ _ _ :: log => TakesOwn.decide log
  | .attachCall _ _ _ _ _ :: log => TakesOwn.decide log
  | .detachCall _ _ _ _ _ :: log => TakesOwn.decide log
  | .attachmentRecorded _ _ :: log => TakesOwn.decide log

/-- An entry of the table was recorded under the lease granted last on its resource. -/
def Owned (s : Shared W) : Prop :=
  ∀ k, k ∈ s.fabric.attachments → ∃ lease, latestGrant s.log k = some lease ∧
    attachedUnder s.log k = some lease.id

/-- No grant on a resource that still has an entry, and no removal of an entry
once another lease than the presented one was granted on the resource. -/
def HandoverGuard : Section W → Shared W → Prop
  | .leaseExclusive resourceId _ ttl, s =>
    s.WouldGrant resourceId ttl → resourceId ∉ s.fabric.attachments
  | .releaseTake presented, s => presented.resourceId ∈ s.fabric.attachments →
    ∃ lease, latestGrant s.log presented.resourceId = some lease ∧ lease.id = presented.id
  | _, _ => True

theorem attachedUnder_append {evs : List (Event W)} (h : ∀ ev ∈ evs, ev.Unattached)
    (log : List (Event W)) (k : String) : attachedUnder (evs ++ log) k = attachedUnder log k := by
  induction evs with
  | nil => rfl
  | cons ev evs ih =>
      have hev : ev.Unattached := h ev (by simp)
      have hrest : ∀ ev ∈ evs, ev.Unattached := fun ev hm => h ev (by simp [hm])
      cases ev with
      | attachmentRecorded => exact hev.elim
      | attachmentTaken => exact hev.elim
      | detachCall => exact hev.elim
      | _ => exact ih hrest

theorem TakesOwn.cons {log : List (Event W)} (h : TakesOwn log) {ev : Event W}
    (hev : ∀ lease adapterName, ev = .attachmentTaken lease adapterName →
      attachedUnder log lease.resourceId = some lease.id) : TakesOwn (ev :: log) := by
  cases ev with
  | attachmentTaken lease adapterName => exact ⟨hev lease adapterName rfl, h⟩
  | _ => exact h

theorem TakesOwn.append {log : List (Event W)} (h : TakesOwn log) {evs : List (Event W)}
    (hevs : ∀ ev ∈ evs, ev.Unattached) : TakesOwn (evs ++ log) := by
  induction evs with
  | nil => exact h
  | cons ev evs ih =>
      have hev : ev.Unattached := hevs ev (by simp)
      refine TakesOwn.cons (ih fun ev hm => hevs ev (by simp [hm])) ?_
      rintro lease adapterName rfl
      exact hev.elim

/-- The grant on a resource with an entry is what the guard excludes, so the
lease granted last on such a resource stays the same. -/
theorem latestGrant_of_entry {s : Shared W} {sec : Section W} (hg : HandoverGuard sec s)
    {k : String} (hk : k ∈ s.fabric.attachments) :
    latestGrant (sec.act s).2.log k = latestGrant s.log k := by
  rcases (act_leaseStep sec s).latestGrant_cases with
    hsame | ⟨lease, ttl, rfl, hgrant, -, -, hother⟩
  · exact hsame k
  · apply hother
    rintro rfl
    exact hg hgrant hk

theorem Owned.act {s : Shared W} (h : Owned s) (hlatest : RecordedLatest s) {sec : Section W}
    (hg : HandoverGuard sec s) : Owned (sec.act s).2 := by
  intro k hk
  have hgrant : k ∈ s.fabric.attachments →
      latestGrant (sec.act s).2.log k = latestGrant s.log k := latestGrant_of_entry hg
  have hcases := (act_leaseStep sec s).latestGrant_cases
  have hstep := act_attachStep sec s
  generalize (sec.act s).2 = s' at hk hgrant hcases hstep ⊢
  cases hstep with
  | idle hattachments hlog =>
      obtain ⟨evs, hlog, hevs⟩ := hlog
      rw [hattachments] at hk
      obtain ⟨lease, hl, hunder⟩ := h k hk
      refine ⟨lease, (hgrant hk).trans hl, ?_⟩
      rw [hlog, attachedUnder_append hevs, hunder]
  | @record _ adapterName lease _ _ _ hhonours _ hattachments hlog =>
      have hsame : ∀ k, latestGrant s'.log k = latestGrant s.log k := by
        rcases hcases with hsame | ⟨_, _, hsec, -⟩
        · exact hsame
        · cases hsec
      have hunder : attachedUnder s'.log k =
          if lease.resourceId = k then some lease.id else attachedUnder s.log k := by
        rw [hlog]
        rfl
      by_cases hkey : lease.resourceId = k
      · -- the lease that attaches is the recorded one, hence the latest
        subst hkey
        obtain ⟨active, hrec, -⟩ := hhonours
        obtain ⟨hl, hid⟩ := hlatest.of_recorded hrec
        exact ⟨active.lease, (hsame _).trans hl, by rw [hunder, if_pos rfl, hid]⟩
      · rw [hattachments, Std.ExtTreeMap.mem_insert] at hk
        have hk : k ∈ s.fabric.attachments := hk.resolve_left (by simpa using hkey)
        obtain ⟨lease', hl, hunder'⟩ := h k hk
        exact ⟨lease', (hsame k).trans hl, by rw [hunder, if_neg hkey, hunder']⟩
  | @take lease adapterName _ _ hattachments hlog =>
      rw [hattachments, Std.ExtTreeMap.mem_erase] at hk
      obtain ⟨hne, hk⟩ := hk
      have hne : lease.resourceId ≠ k := by simpa using hne
      obtain ⟨lease', hl, hunder⟩ := h k hk
      refine ⟨lease', (hgrant hk).trans hl, ?_⟩
      rw [hlog, attachedUnder, if_neg hne, hunder]
  | detach _ hattachments hlog =>
      rw [hattachments] at hk
      obtain ⟨lease, hl, hunder⟩ := h k hk
      refine ⟨lease, (hgrant hk).trans hl, ?_⟩
      rw [hlog]
      exact hunder

/-- The entry that `presented` is about to take is its own exactly when the
lease granted last on the resource has its id. -/
theorem Owned.take_iff {s : Shared W} (h : Owned s) {presented : Lease}
    (hk : presented.resourceId ∈ s.fabric.attachments) :
    attachedUnder s.log presented.resourceId = some presented.id ↔
      HandoverGuard (.releaseTake presented) s := by
  obtain ⟨lease, hl, hunder⟩ := h _ hk
  constructor
  · intro hown _
    have hid : lease.id = presented.id := Option.some.inj (hunder.symm.trans hown)
    exact ⟨lease, hl, hid⟩
  · intro hg
    obtain ⟨lease', hl', hid⟩ := hg hk
    rw [hl] at hl'
    obtain rfl := Option.some.inj hl'
    rw [hunder, hid]

theorem TakesOwn.act {s : Shared W} (h : TakesOwn s.log) (howned : Owned s) {sec : Section W}
    (hg : HandoverGuard sec s) : TakesOwn (sec.act s).2.log := by
  have hstep := act_attachStep sec s
  generalize (sec.act s).2 = s' at hstep
  cases hstep with
  | idle _ hlog =>
      obtain ⟨evs, hlog, hevs⟩ := hlog
      rw [hlog]
      exact h.append hevs
  | record _ _ _ hlog =>
      rw [hlog]
      exact (h.cons (by simp)).cons (by simp)
  | @take lease adapterName _ hentry _ hlog =>
      have hk : lease.resourceId ∈ s.fabric.attachments :=
        StringMap.mem_of_getElem? hentry
      rw [hlog]
      refine h.cons ?_
      rintro lease' name' heq
      obtain ⟨rfl, rfl⟩ := Event.attachmentTaken.inj heq
      exact (howned.take_iff hk).mpr hg
  | detach _ _ hlog =>
      rw [hlog]
      exact h.cons (by simp)

theorem owned_reachable {c : Config (@Section.Reply W) (Shared W) Unit}
    (h : (fabricSystem HandoverGuard).Reachable c) :
    RecordedLatest c.state ∧ Owned c.state ∧ TakesOwn c.state.log := by
  refine h.invariant (fun s => RecordedLatest s ∧ Owned s ∧ TakesOwn s.log) ?_ ?_ ?_
  · intro s hs
    refine ⟨.fresh hs, ?_, ?_⟩
    · intro k hk
      rw [hs.1] at hk
      simp [Fabric.default] at hk
    · rw [hs.2]
      trivial
  · rintro sec s hg ⟨hlatest, howned, htakes⟩
    exact ⟨hlatest.act sec, howned.act hlatest hg, htakes.act howned hg⟩
  · rintro s s' he ⟨hlatest, howned, htakes⟩
    rw [he.2]
    exact ⟨hlatest, howned, htakes⟩

/-! ## A release and the entries of other leases -/

/-- In every interleaving whose sections meet the guard a `release` takes only
entries recorded under its own lease, and from any configuration so reached the
guard is exactly what the next removal needs. -/
theorem release_takes_own {c : Config (@Section.Reply W) (Shared W) Unit}
    (h : (fabricSystem HandoverGuard).Reachable c) :
    TakesOwn c.state.log ∧
      ∀ presented : Lease, presented.resourceId ∈ c.state.fabric.attachments →
        (attachedUnder c.state.log presented.resourceId = some presented.id ↔
          HandoverGuard (.releaseTake presented) c.state) := by
  obtain ⟨-, howned, htakes⟩ := owned_reachable h
  refine ⟨htakes, ?_⟩
  intro presented hk
  exact howned.take_iff hk

namespace Scenario

/-- The device is registered, leased for 30 ns and attached. -/
def leaseAndAttach : Schedule Unit :=
  [.invoke (Op.register device).call, .advance 0,
   .invoke (Op.registerAdapter localProofAdapter).call, .advance 0,
   .invoke (Op.leaseExclusive "device.0" "mission-a" 30).call, .advance 0, .advance 0,
   .invoke (Op.attach "local-proof" ⟨1, "device.0", "mission-a"⟩).call, .advance 0, .advance 0]

/-- `release` checks and takes the attachment. -/
def releaseAttached : Schedule Unit :=
  leaseAndAttach ++
  [.invoke (Op.release ⟨1, "device.0", "mission-a"⟩).call, .advance 0, .advance 0]

/-- `release` finds its lease recorded; then the lease runs out, another owner
leases and attaches the device, and `release` goes on. -/
def releaseRace : Schedule Unit :=
  leaseAndAttach ++
  [.invoke (Op.release ⟨1, "device.0", "mission-a"⟩).call, .advance 0, .env (wait 40),
   .invoke (Op.leaseExclusive "device.0" "mission-b" 30).call, .advance 0, .advance 0,
   .invoke (Op.attach "local-proof" ⟨2, "device.0", "mission-b"⟩).call, .advance 0, .advance 0,
   .advance 2]

end Scenario

open Scenario in
theorem release_takes_own_attached :
    attachedUnder (after (start ()) leaseAndAttach).state.log "device.0" = some 1 ∧
      TakesOwn (after (start ()) releaseAttached).state.log := by
  have hr : (fabricSystem HandoverGuard).Reachable (after (start ()) releaseAttached) :=
    (reachable_start HandoverGuard ()).schedule
      ⟨⟨.register device, rfl⟩, trivial, ⟨.registerAdapter localProofAdapter, rfl⟩, trivial,
        ⟨.leaseExclusive "device.0" "mission-a" 30, rfl⟩, trivial,
        fun _ => by decide +kernel,
        ⟨.attach "local-proof" ⟨1, "device.0", "mission-a"⟩, rfl⟩, trivial, trivial,
        ⟨.release ⟨1, "device.0", "mission-a"⟩, rfl⟩, trivial,
        fun _ => ⟨⟨1, "device.0", "mission-a"⟩, by decide +kernel, rfl⟩, trivial⟩
  exact ⟨by decide +kernel, (release_takes_own hr).1⟩

open Scenario in
/-- Without the guard, a `release` that lost its lease between its check and the
removal takes the entry of the next lease. -/
theorem release_race :
    ¬ ∀ c : Config (@Section.Reply Unit) (Shared Unit) Unit,
      (fabricSystem anySection).Reachable c → TakesOwn c.state.log := by
  intro h
  have hr : (fabricSystem anySection).Reachable (after (start ()) releaseRace) :=
    reachable_after () ⟨⟨.register device, rfl⟩, ⟨.registerAdapter localProofAdapter, rfl⟩,
      ⟨.leaseExclusive "device.0" "mission-a" 30, rfl⟩,
      ⟨.attach "local-proof" ⟨1, "device.0", "mission-a"⟩, rfl⟩,
      ⟨.release ⟨1, "device.0", "mission-a"⟩, rfl⟩, elapse_wait 40,
      ⟨.leaseExclusive "device.0" "mission-b" 30, rfl⟩,
      ⟨.attach "local-proof" ⟨2, "device.0", "mission-b"⟩, rfl⟩, trivial⟩
  have hforeign : ¬ TakesOwn (after (start ()) releaseRace).state.log := by decide +kernel
  exact hforeign (h _ hr)

end NautiFabric
