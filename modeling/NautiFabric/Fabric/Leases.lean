import NautiFabric.Fabric.Registry
import NautiFabric.Lib.LeaseHistory

/-!
# NautiFabric.Fabric.Leases — exclusive leases over every interleaving

The lease table of the fabric `Tracks` the history of its leases: the invariant
`LeaseInv` connects the two, section by section, and the laws of
`LeaseHistory` then give mutual exclusion (`exclusive_leases`) and the authority
of a lease (`lease_authority`).

Ids come from a `u64` counter that wraps, so the invariant is about runs with
fewer than `2 ^ 64` grants.
-/

namespace NautiFabric

open Interleave LeaseHistory

variable {W : Type}

/-! ## The history of the leases -/

/-- What an event says about leases, under the id that was presented. -/
def Event.lease? : Event W → Option (LeaseHistory.Event String UInt64 Instant)
  | .granted lease ttl t => some (.grant lease.resourceId lease.id t (t + ttl))
  | .renewed presented _ ttl t => some (.renew presented.resourceId presented.id t (t + ttl))
  | .released presented _ t => some (.release presented.resourceId presented.id t)
  | .attachCall _ _ lease t _ => some (.use lease.resourceId lease.id t)
  | .detachCall _ _ _ _ _ => none
  | .attachmentRecorded _ _ => none
  | .attachmentTaken _ _ => none

def leaseHistory (log : List (Event W)) : List (LeaseHistory.Event String UInt64 Instant) :=
  log.filterMap Event.lease?

def Event.grant? : Event W → Option Lease
  | .granted lease _ _ => some lease
  | _ => none

/-- The leases granted so far. -/
def grantedLeases (log : List (Event W)) : List Lease := log.filterMap Event.grant?

/-- How many leases were granted so far. -/
def grants (log : List (Event W)) : ℕ := (grantedLeases log).length

/-- The id and the expiry recorded on a resource. -/
def leaseTable (leases : StringMap ActiveLease) (resourceId : String) : Option (UInt64 × Instant) :=
  (leases[resourceId]?).map fun active => (active.lease.id, active.expiresAt)

/-- A `release` call that presented the id of `lease` has removed it. -/
def Removed (log : List (Event W)) (lease : Lease) : Prop :=
  ∃ presented t, .released presented lease t ∈ log ∧ presented.id = lease.id

/-- The current expiry of a lease: what its grant or its last renewal set. -/
def currentExpiry (log : List (Event W)) (lease : Lease) : Option Instant :=
  LeaseHistory.expiry (leaseHistory log) lease.id

/-- Removed by a release, or past its current expiry. -/
def Over (log : List (Event W)) (lease : Lease) (t : Instant) : Prop :=
  Removed log lease ∨ ∃ e, currentExpiry log lease = some e ∧ e ≤ t

/-- The lease that `lease_exclusive` granted last on a resource. -/
def latestGrant (log : List (Event W)) (resourceId : String) : Option Lease :=
  (grantedLeases log).find? fun lease => lease.resourceId == resourceId

/-- `presented` has the id of the latest lease granted on its resource, and that
lease is neither removed nor past its expiry. -/
def Authority (log : List (Event W)) (presented : Lease) (t : Instant) : Prop :=
  ∃ lease, latestGrant log presented.resourceId = some lease ∧ lease.id = presented.id ∧
    ¬ Removed log lease ∧ ∃ e, currentExpiry log lease = some e ∧ t < e

/-! ### How sections change it -/

theorem Event.Quiet.lease?_eq_none {ev : Event W} (h : ev.Quiet) : ev.lease? = none := by
  cases ev <;> first | rfl | exact h.elim

theorem Event.Quiet.grant?_eq_none {ev : Event W} (h : ev.Quiet) : ev.grant? = none := by
  cases ev <;> first | rfl | exact h.elim

theorem leaseHistory_append (later log : List (Event W)) :
    leaseHistory (later ++ log) = leaseHistory later ++ leaseHistory log :=
  List.filterMap_append

theorem grantedLeases_append (later log : List (Event W)) :
    grantedLeases (later ++ log) = grantedLeases later ++ grantedLeases log :=
  List.filterMap_append

theorem leaseHistory_quiet {evs : List (Event W)} (h : ∀ ev ∈ evs, ev.Quiet) :
    leaseHistory evs = [] :=
  List.filterMap_eq_nil_iff.mpr fun ev hm => (h ev hm).lease?_eq_none

theorem grantedLeases_quiet {evs : List (Event W)} (h : ∀ ev ∈ evs, ev.Quiet) :
    grantedLeases evs = [] :=
  List.filterMap_eq_nil_iff.mpr fun ev hm => (h ev hm).grant?_eq_none

theorem not_released_of_quiet {evs : List (Event W)} (h : ∀ ev ∈ evs, ev.Quiet)
    (presented recorded : Lease) (t : Instant) : .released presented recorded t ∉ evs :=
  fun hm => h _ hm

theorem mem_grantedLeases {log : List (Event W)} {lease : Lease} :
    lease ∈ grantedLeases log ↔ ∃ ttl t, .granted lease ttl t ∈ log := by
  rw [grantedLeases, List.mem_filterMap]
  constructor
  · rintro ⟨ev, hm, hev⟩
    cases ev with
    | granted l ttl t =>
        obtain rfl : l = lease := by simpa [Event.grant?] using hev
        exact ⟨ttl, t, hm⟩
    | _ => cases hev
  · rintro ⟨ttl, t, hm⟩
    exact ⟨_, hm, rfl⟩

theorem granted_iff {log : List (Event W)} {k : String} {i : UInt64} :
    Granted (leaseHistory log) k i ↔
      ∃ lease ∈ grantedLeases log, lease.resourceId = k ∧ lease.id = i := by
  simp only [mem_grantedLeases, Granted, leaseHistory, List.mem_filterMap]
  constructor
  · rintro ⟨t, e, ev, hm, hev⟩
    cases ev with
    | granted l ttl t' =>
        simp only [Event.lease?, Option.some.injEq, LeaseHistory.Event.grant.injEq] at hev
        exact ⟨l, ⟨ttl, t', hm⟩, hev.1, hev.2.1⟩
    | _ => cases hev
  · rintro ⟨lease, ⟨ttl, t, hm⟩, rfl, rfl⟩
    exact ⟨t, t + ttl, _, hm, rfl⟩

theorem released_iff {log : List (Event W)} {k : String} {i : UInt64} :
    Released (leaseHistory log) k i ↔
      ∃ presented recorded t, .released presented recorded t ∈ log ∧
        presented.resourceId = k ∧ presented.id = i := by
  simp only [Released, leaseHistory, List.mem_filterMap]
  constructor
  · rintro ⟨t, ev, hm, hev⟩
    cases ev with
    | released presented recorded t' =>
        simp only [Event.lease?, Option.some.injEq, LeaseHistory.Event.release.injEq] at hev
        exact ⟨presented, recorded, t', hm, hev.1, hev.2.1⟩
    | _ => cases hev
  · rintro ⟨presented, recorded, t, hm, rfl, rfl⟩
    exact ⟨t, _, hm, rfl⟩

/-! ### How the table changes -/

theorem leaseTable_retainUnexpired (now : Instant) (leases : StringMap ActiveLease) :
    leaseTable (retainUnexpired now leases) =
      fun k => (leaseTable leases k).filter fun p => decide (now < p.2) := by
  funext k
  rw [leaseTable, getElem?_retainUnexpired, leaseTable, Option.filter_map]
  rfl

theorem leaseTable_insert (leases : StringMap ActiveLease) (k : String) (active : ActiveLease) :
    leaseTable (leases.insert k active) =
      Function.update (leaseTable leases) k (some (active.lease.id, active.expiresAt)) := by
  funext k'
  rw [leaseTable, Std.ExtTreeMap.getElem?_insert]
  by_cases hk : k' = k
  · subst hk
    simp
  · rw [Function.update_of_ne hk, if_neg (by simpa using Ne.symm hk), leaseTable]

theorem leaseTable_erase (leases : StringMap ActiveLease) (k : String) :
    leaseTable (leases.erase k) = Function.update (leaseTable leases) k none := by
  funext k'
  rw [leaseTable, Std.ExtTreeMap.getElem?_erase]
  by_cases hk : k' = k
  · subst hk
    simp
  · rw [Function.update_of_ne hk, if_neg (by simpa using Ne.symm hk), leaseTable]

theorem leaseTable_eq_some {leases : StringMap ActiveLease} {k : String} {active : ActiveLease}
    (h : leases[k]? = some active) :
    leaseTable leases k = some (active.lease.id, active.expiresAt) := by
  simp [leaseTable, h]

/-! ## What a step does to ids, records and releases -/

/-- A step that does not grant consumes no id; a grant takes the next one. -/
theorem LeaseStep.granted_cases {s s' : Shared W} {sec : Section W} (h : LeaseStep s sec s') :
    (grantedLeases s'.log = grantedLeases s.log ∧ IdsKept s s') ∨
      ∃ lease, grantedLeases s'.log = lease :: grantedLeases s.log ∧
        lease.id = s.fabric.nextLeaseId + 1 ∧ s.fabric.leases.poisoned = false ∧
        s'.fabric.nextLeaseId = s.fabric.nextLeaseId + 1 := by
  cases h with
  | idle _ hids hlog =>
      obtain ⟨evs, hlog, hquiet⟩ := hlog
      left
      refine ⟨?_, hids⟩
      rw [hlog, grantedLeases_append, grantedLeases_quiet hquiet, List.nil_append]
  | prune _ hids hlog => exact Or.inl ⟨by rw [hlog], hids⟩
  | @grant _ _ _ lease _ hlease hgrant _ hnext hlog =>
      right
      refine ⟨lease, by rw [hlog]; rfl, by rw [hlease], hgrant.poisoned, hnext⟩
  | renew _ _ _ _ hids hlog => exact Or.inl ⟨by rw [hlog]; rfl, hids⟩
  | attach _ _ _ _ _ hids hlog =>
      obtain ⟨evs, hlog, hquiet⟩ := hlog
      left
      refine ⟨?_, hids⟩
      rw [hlog, grantedLeases_append, grantedLeases_quiet hquiet]
      rfl
  | release _ _ _ hids hlog => exact Or.inl ⟨by rw [hlog]; rfl, hids⟩

/-- What is recorded after a step was recorded before it, or has just been granted. -/
theorem LeaseStep.recorded_cases {s s' : Shared W} {sec : Section W} (h : LeaseStep s sec s')
    {k : String} {active' : ActiveLease} (hk : s'.fabric.leases.val[k]? = some active') :
    (∃ active, s.fabric.leases.val[k]? = some active ∧ active.lease = active'.lease) ∨
      (active'.lease.resourceId = k ∧
        grantedLeases s'.log = active'.lease :: grantedLeases s.log) := by
  -- a lease that pruning keeps was there before
  have hretain : (retainUnexpired s.now s.fabric.leases.val)[k]? = some active' →
      ∃ active, s.fabric.leases.val[k]? = some active ∧ active.lease = active'.lease := by
    intro hr
    rw [getElem?_retainUnexpired] at hr
    exact ⟨active', Option.eq_some_of_filter_eq_some hr, rfl⟩
  cases h with
  | idle hleases => exact Or.inl ⟨active', by rw [← hleases, hk], rfl⟩
  | prune hleases =>
      rw [hleases] at hk
      exact Or.inl (hretain hk)
  | grant hlease _ hleases _ hlog =>
      rw [hleases, Std.ExtTreeMap.getElem?_insert] at hk
      split at hk
      · rename_i heq
        obtain rfl := Option.some.inj hk
        right
        refine ⟨?_, by rw [hlog]; rfl⟩
        rw [hlease]
        simpa using heq
      · exact Or.inl (hretain hk)
  | @renew lease ttl active _ hactive _ _ hleases =>
      rw [hleases, Std.ExtTreeMap.getElem?_insert] at hk
      split at hk
      · rename_i heq
        obtain rfl := Option.some.inj hk
        obtain rfl : lease.resourceId = k := by simpa using heq
        exact Or.inl ⟨active, hactive, rfl⟩
      · exact Or.inl (hretain hk)
  | attach _ _ _ _ hleases => exact Or.inl ⟨active', by rw [← hleases, hk], rfl⟩
  | release _ _ hleases =>
      rw [hleases, Std.ExtTreeMap.getElem?_erase] at hk
      split at hk
      · cases hk
      · exact Or.inl ⟨active', hk, rfl⟩

/-- A release removes the lease that was recorded, and that has the presented id. -/
theorem LeaseStep.released_cases {s s' : Shared W} {sec : Section W} (h : LeaseStep s sec s')
    {presented removed : Lease} {t : Instant} (hm : .released presented removed t ∈ s'.log) :
    .released presented removed t ∈ s.log ∨
      ∃ active, s.fabric.leases.val[presented.resourceId]? = some active ∧
        active.lease = removed ∧ presented.id = removed.id := by
  cases h with
  | idle _ _ hlog =>
      obtain ⟨evs, hlog, hquiet⟩ := hlog
      rw [hlog, List.mem_append] at hm
      exact Or.inl (hm.resolve_left (not_released_of_quiet hquiet presented removed t))
  | prune _ _ hlog => exact Or.inl (hlog ▸ hm)
  | grant _ _ _ _ hlog => exact Or.inl (by simpa [hlog] using hm)
  | renew _ _ _ _ _ hlog => exact Or.inl (by simpa [hlog] using hm)
  | attach _ _ _ _ _ _ hlog =>
      obtain ⟨evs, hlog, hquiet⟩ := hlog
      rw [hlog, List.mem_append] at hm
      have hm := hm.resolve_left (not_released_of_quiet hquiet presented removed t)
      exact Or.inl (by simpa using hm)
  | @release lease active _ hactive hid _ _ hlog =>
      rw [hlog, List.mem_cons] at hm
      rcases hm with heq | hm
      · obtain ⟨rfl, rfl, -⟩ := Event.released.inj heq
        exact Or.inr ⟨active, hactive, rfl, hid.symm⟩
      · exact Or.inl hm

/-! ## The invariant -/

/-- Ids are granted in order, from one; what is recorded or was released had
been granted; and the lease table stands for the history of the leases. -/
structure LeaseInv (s : Shared W) : Prop where
  bounded : ∀ lease ∈ grantedLeases s.log, lease.id.toNat ≤ grants s.log
  nodup : ((grantedLeases s.log).map Lease.id).Nodup
  next : s.fabric.leases.poisoned = false → s.fabric.nextLeaseId.toNat = grants s.log
  recorded : ∀ (k : String) (active : ActiveLease), s.fabric.leases.val[k]? = some active →
    active.lease.resourceId = k ∧ active.lease ∈ grantedLeases s.log
  released : ∀ presented removed t, .released presented removed t ∈ s.log →
    presented.resourceId = removed.resourceId ∧ presented.id = removed.id ∧
      removed ∈ grantedLeases s.log
  tracks : Tracks (leaseHistory s.log) (leaseTable s.fabric.leases.val) s.now

theorem LeaseInv.fresh {s : Shared W} (h : s.Fresh) : LeaseInv s := by
  obtain ⟨hfabric, hlog⟩ := h
  refine ⟨?_, ?_, ?_, ?_, ?_, ?_⟩
  · simp [hlog, grantedLeases]
  · simp [hlog, grantedLeases]
  · simp [hlog, hfabric, Fabric.default, grants, grantedLeases]
  · simp [hfabric, Fabric.default]
  · simp [hlog]
  · have htable : leaseTable s.fabric.leases.val = fun _ => none := by
      funext k
      simp [leaseTable, hfabric, Fabric.default]
    rw [hlog, htable]
    exact Tracks.nil

theorem LeaseInv.elapse {s s' : Shared W} (h : LeaseInv s) (he : s.Elapse s') : LeaseInv s' := by
  obtain ⟨hnow, hs'⟩ := he
  rw [hs']
  exact ⟨h.bounded, h.nodup, h.next, h.recorded, h.released, h.tracks.advance hnow⟩

theorem LeaseStep.grants_le {s s' : Shared W} {sec : Section W} (h : LeaseStep s sec s') :
    grants s.log ≤ grants s'.log := by
  rcases h.granted_cases with ⟨hg, -⟩ | ⟨lease, hg, -⟩
  · simp [grants, hg]
  · simp [grants, hg]

theorem LeaseStep.mem_granted {s s' : Shared W} {sec : Section W} (h : LeaseStep s sec s')
    {lease : Lease} (hl : lease ∈ grantedLeases s.log) : lease ∈ grantedLeases s'.log := by
  rcases h.granted_cases with ⟨hg, -⟩ | ⟨lease', hg, -⟩
  · rwa [hg]
  · rw [hg]
    exact List.mem_cons_of_mem _ hl

/-- The next id, as long as the counter does not wrap. -/
theorem LeaseInv.next_toNat {s : Shared W} (h : LeaseInv s)
    (hp : s.fabric.leases.poisoned = false) (hlt : grants s.log + 1 < 2 ^ 64) :
    (s.fabric.nextLeaseId + 1).toNat = grants s.log + 1 := by
  have hn := h.next hp
  rw [UInt64.toNat_add, hn]
  exact Nat.mod_eq_of_lt hlt

/-- The next id has not been granted on any resource. -/
theorem LeaseInv.next_fresh {s : Shared W} (h : LeaseInv s)
    (hp : s.fabric.leases.poisoned = false) (hlt : grants s.log + 1 < 2 ^ 64) (k : String) :
    ¬ Granted (leaseHistory s.log) k (s.fabric.nextLeaseId + 1) := by
  intro hg
  obtain ⟨lease, hl, -, hid⟩ := granted_iff.mp hg
  have hle := h.bounded lease hl
  rw [hid, h.next_toNat hp hlt] at hle
  omega

theorem LeaseInv.ids_step {s s' : Shared W} {sec : Section W} (h : LeaseInv s)
    (hstep : LeaseStep s sec s') (hlt : grants s'.log < 2 ^ 64) :
    (∀ lease ∈ grantedLeases s'.log, lease.id.toNat ≤ grants s'.log) ∧
      ((grantedLeases s'.log).map Lease.id).Nodup ∧
      (s'.fabric.leases.poisoned = false → s'.fabric.nextLeaseId.toNat = grants s'.log) := by
  rcases hstep.granted_cases with ⟨hg, hids⟩ | ⟨lease, hg, hid, hp, hnext⟩
  · -- no grant: the counter moves at most on the way into a poisoned mutex
    have hcount : grants s'.log = grants s.log := by rw [grants, hg, grants]
    rw [hg, hcount]
    refine ⟨h.bounded, h.nodup, ?_⟩
    intro hp'
    obtain ⟨hp, hsame⟩ := hids hp'
    rw [hsame]
    exact h.next hp
  · -- a grant: its id is the number of grants so far, plus one
    have hcount : grants s'.log = grants s.log + 1 := by
      rw [grants, hg, List.length_cons, grants]
    rw [hcount] at hlt ⊢
    have hid' : lease.id.toNat = grants s.log + 1 := by rw [hid, h.next_toNat hp hlt]
    rw [hg]
    refine ⟨?_, ?_, ?_⟩
    · intro l hl
      rcases List.mem_cons.mp hl with rfl | hl
      · exact hid'.le
      · exact (h.bounded l hl).trans (Nat.le_succ _)
    · rw [List.map_cons, List.nodup_cons]
      refine ⟨?_, h.nodup⟩
      intro hm
      obtain ⟨l, hl, hsame⟩ := List.mem_map.mp hm
      have hle := h.bounded l hl
      rw [hsame] at hle
      omega
    · intro _
      rw [hnext, h.next_toNat hp hlt]

theorem LeaseInv.tracks_step {s s' : Shared W} {sec : Section W} (h : LeaseInv s)
    (hstep : LeaseStep s sec s') (hnow : s'.now = s.now) (hlt : grants s'.log < 2 ^ 64) :
    Tracks (leaseHistory s'.log) (leaseTable s'.fabric.leases.val) s'.now := by
  rw [hnow]
  cases hstep with
  | idle hleases _ hlog =>
      obtain ⟨evs, hlog, hquiet⟩ := hlog
      rw [hleases, hlog, leaseHistory_append, leaseHistory_quiet hquiet]
      exact h.tracks
  | prune hleases _ hlog =>
      rw [hleases, hlog, leaseTable_retainUnexpired]
      exact h.tracks.prune
  | @grant resourceId owner ttl lease _ hlease hgrant hleases _ hlog =>
      have hcount : grants s'.log = grants s.log + 1 := by rw [hlog]; rfl
      have hfree : leaseTable (retainUnexpired s.now s.fabric.leases.val) resourceId = none := by
        simp [leaseTable, Std.ExtTreeMap.getElem?_eq_none hgrant.free]
      rw [leaseTable_retainUnexpired] at hfree
      -- `lease_exclusive` prunes first, then grants
      rw [hleases, hlog, leaseTable_insert, leaseTable_retainUnexpired, hlease]
      exact h.tracks.prune.grant (s.now + ttl)
        (h.next_fresh hgrant.poisoned (hcount ▸ hlt)) hfree
  | @renew lease ttl active _ hactive hid hlive hleases _ hlog =>
      have hentry := leaseTable_eq_some hactive
      have hkept : ((leaseTable s.fabric.leases.val lease.resourceId).filter
          fun p => decide (s.now < p.2)) = some (lease.id, active.expiresAt) := by
        simp [hentry, hlive, hid]
      -- the lease that is renewed survives the pruning
      rw [hleases, hlog, leaseTable_insert, leaseTable_retainUnexpired, hid]
      exact h.tracks.prune.renew (s.now + ttl) hkept hlive
  | @attach _ _ lease active _ _ _ hactive hid hlive _ hleases _ hlog =>
      obtain ⟨evs, hlog, hquiet⟩ := hlog
      have hentry := leaseTable_eq_some hactive
      rw [hid] at hentry
      rw [hleases, hlog, leaseHistory_append, leaseHistory_quiet hquiet]
      exact h.tracks.use hentry hlive
  | @release lease active _ hactive hid hleases _ hlog =>
      have hentry := leaseTable_eq_some hactive
      rw [hid] at hentry
      rw [hleases, hlog, leaseTable_erase]
      exact h.tracks.release hentry

theorem LeaseInv.act {s : Shared W} (h : LeaseInv s) (sec : Section W)
    (hlt : grants (sec.act s).2.log < 2 ^ 64) : LeaseInv (sec.act s).2 := by
  have hstep := act_leaseStep sec s
  obtain ⟨hbounded, hnodup, hnext⟩ := h.ids_step hstep hlt
  refine ⟨hbounded, hnodup, hnext, ?_, ?_, h.tracks_step hstep (act_now sec s) hlt⟩
  · intro k active' hk
    rcases hstep.recorded_cases hk with ⟨active, hk, hsame⟩ | ⟨hkey, hg⟩
    · obtain ⟨hkey, hl⟩ := h.recorded k active hk
      rw [← hsame]
      exact ⟨hkey, hstep.mem_granted hl⟩
    · rw [hg]
      exact ⟨hkey, List.mem_cons_self⟩
  · intro presented removed t hm
    rcases hstep.released_cases hm with hm | ⟨active, hk, rfl, hid⟩
    · obtain ⟨hkey, hid, hl⟩ := h.released presented removed t hm
      exact ⟨hkey, hid, hstep.mem_granted hl⟩
    · obtain ⟨hkey, hl⟩ := h.recorded _ active hk
      exact ⟨hkey.symm, hid, hstep.mem_granted hl⟩

theorem leaseInv_reachable {guard : Section W → Shared W → Prop}
    {c : Config (@Section.Reply W) (Shared W) Unit} (h : (fabricSystem guard).Reachable c)
    (hlt : grants c.state.log < 2 ^ 64) : LeaseInv c.state := by
  -- the bound on the grants holds at the end of the run, and so all along it
  refine h.invariant (fun s => grants s.log < 2 ^ 64 → LeaseInv s) ?_ ?_ ?_ hlt
  · intro s hs _
    exact .fresh hs
  · intro sec s _ ih hlt
    have hle := (act_leaseStep sec s).grants_le
    exact (ih (hle.trans_lt hlt)).act sec hlt
  · intro s s' he ih hlt
    have hlog : s'.log = s.log := by rw [he.2]
    exact (ih (hlog ▸ hlt)).elapse he

/-! ## Exclusive leases -/

/-- Two granted leases with one id are the same lease. -/
theorem LeaseInv.eq_of_id {s : Shared W} (h : LeaseInv s) {l₁ l₂ : Lease}
    (h₁ : l₁ ∈ grantedLeases s.log) (h₂ : l₂ ∈ grantedLeases s.log) (hid : l₁.id = l₂.id) :
    l₁ = l₂ :=
  List.inj_on_of_nodup_map h.nodup h₁ h₂ hid

/-- The end of a granted lease, in the history and in the fabric's own terms. -/
theorem LeaseInv.over_of_ended {s : Shared W} (h : LeaseInv s) {later log : List (Event W)}
    (hlog : s.log = later ++ log) {lease : Lease} (hl : lease ∈ grantedLeases s.log) {t : Instant}
    (he : Ended (leaseHistory log) lease.resourceId lease.id t) : Over log lease t := by
  rcases he with hr | hexp
  · left
    obtain ⟨presented, removed, t', hm, -, hid⟩ := released_iff.mp hr
    obtain ⟨-, hid', hl'⟩ := h.released presented removed t' (by rw [hlog]; simp [hm])
    obtain rfl : removed = lease := h.eq_of_id hl' hl (hid'.symm.trans hid)
    exact ⟨presented, t', hm, hid⟩
  · exact Or.inr hexp

theorem LeaseInv.ended_of_over {s : Shared W} (h : LeaseInv s) {lease : Lease} {t : Instant}
    (ho : Over s.log lease t) : Ended (leaseHistory s.log) lease.resourceId lease.id t := by
  rcases ho with ⟨presented, t', hm, hid⟩ | hexp
  · left
    obtain ⟨hkey, -, -⟩ := h.released presented lease t' hm
    exact released_iff.mpr ⟨presented, lease, t', hm, hkey, hid⟩
  · exact Or.inr hexp

theorem exclusive_leases {c : Config (@Section.Reply W) (Shared W) Unit}
    (h : (fabricSystem anySection).Reachable c) (hlt : grants c.state.log < 2 ^ 64) :
    -- ids are never reused
    ((grantedLeases c.state.log).map Lease.id).Nodup ∧
    -- a later grant on the resource of `L₁` finds `L₁` removed, or past its expiry
    (∀ later earlier L₂ ttl t₂, c.state.log = later ++ .granted L₂ ttl t₂ :: earlier →
      ∀ L₁ ∈ grantedLeases earlier, L₁.resourceId = L₂.resourceId → Over earlier L₁ t₂) ∧
    -- until then `L₁` stays recorded, under its current expiry
    ∀ L₁ ∈ grantedLeases c.state.log, Over c.state.log L₁ c.state.now ∨
      ∃ e, currentExpiry c.state.log L₁ = some e ∧
        c.state.fabric.leases.val[L₁.resourceId]? = some ⟨L₁, e⟩ := by
  have hinv := leaseInv_reachable h hlt
  refine ⟨hinv.nodup, ?_, ?_⟩
  · intro later earlier L₂ ttl t₂ hlog L₁ hL₁ hkey
    have hlawful := hinv.tracks.lawful
    rw [hlog, leaseHistory_append] at hlawful
    have hallow : Allowed (leaseHistory earlier)
        (.grant L₂.resourceId L₂.id t₂ (t₂ + ttl)) := hlawful.allowed
    have hended := hallow.2 L₁.id (granted_iff.mpr ⟨L₁, hL₁, hkey, rfl⟩)
    have hsplit : c.state.log = (later ++ [.granted L₂ ttl t₂]) ++ earlier := by simp [hlog]
    have hmem : L₁ ∈ grantedLeases c.state.log := by
      rw [hsplit, grantedLeases_append]
      exact List.mem_append_right _ hL₁
    exact hinv.over_of_ended hsplit hmem (hkey ▸ hended)
  · intro L₁ hL₁
    rcases hinv.tracks.kept L₁.resourceId L₁.id (granted_iff.mpr ⟨L₁, hL₁, rfl, rfl⟩) with
      hended | ⟨e, hentry⟩
    · exact Or.inl (hinv.over_of_ended (List.nil_append _).symm hL₁ hended)
    · right
      obtain ⟨active, hactive, hpair⟩ := Option.map_eq_some_iff.mp hentry
      obtain ⟨hid, rfl⟩ := Prod.mk.inj hpair
      have hsame : active.lease = L₁ := hinv.eq_of_id (hinv.recorded _ active hactive).2 hL₁ hid
      refine ⟨active.expiresAt, (hinv.tracks.recorded _ _ _ hentry).2.2, ?_⟩
      rw [hactive, ← hsame]

namespace Scenario

/-- The device is leased for 30 ns, and 40 ns pass. -/
def leaseExpired : Schedule Unit := registerAndLease ++ [.env (wait 40)]

/-- Another owner leases the device. -/
def leaseAgain : Schedule Unit :=
  [.invoke (Op.leaseExclusive "device.0" "mission-b" 30).call, .advance 0, .advance 0]

theorem reachable_leaseExpired :
    (fabricSystem anySection).Reachable (after (start ()) leaseExpired) :=
  reachable_after () ⟨⟨.register device, rfl⟩, ⟨.leaseExclusive "device.0" "mission-a" 30, rfl⟩,
    elapse_wait 40, trivial⟩

theorem schedule_leaseAgain :
    (fabricSystem anySection).Schedule (after (start ()) leaseExpired) leaseAgain := by
  have hm : (fabricSystem anySection).Admits leaseAgain :=
    ⟨⟨.leaseExclusive "device.0" "mission-b" 30, rfl⟩, trivial⟩
  exact System.schedule_of_admits (fun _ _ => trivial) hm _

end Scenario

open Scenario in
theorem exclusive_leases_twice :
    grantedLeases (after (start ()) (leaseExpired ++ leaseAgain)).state.log =
        [⟨2, "device.0", "mission-b"⟩, ⟨1, "device.0", "mission-a"⟩] ∧
      ((grantedLeases (after (start ()) (leaseExpired ++ leaseAgain)).state.log).map
        Lease.id).Nodup := by
  have hr : (fabricSystem anySection).Reachable
      (after (start ()) (leaseExpired ++ leaseAgain)) :=
    reachable_leaseExpired.schedule schedule_leaseAgain
  exact ⟨by decide +kernel, (exclusive_leases hr (by decide +kernel)).1⟩

/-! ## The authority of a lease -/

theorem holder_leaseHistory (log : List (Event W)) (k : String) :
    LeaseHistory.holder (leaseHistory log) k = (latestGrant log k).map Lease.id := by
  induction log with
  | nil => rfl
  | cons ev log ih =>
      cases ev with
      | granted lease ttl t =>
          by_cases hk : lease.resourceId = k
          · simp [leaseHistory, Event.lease?, LeaseHistory.holder, latestGrant, grantedLeases,
              Event.grant?, hk]
          · have hih : LeaseHistory.holder (leaseHistory log) k =
                ((grantedLeases log).find? fun lease => lease.resourceId == k).map Lease.id := ih
            simpa [leaseHistory, Event.lease?, LeaseHistory.holder, latestGrant, grantedLeases,
              Event.grant?, hk] using hih
      | renewed => exact ih
      | released => exact ih
      | attachCall => exact ih
      | detachCall => exact ih
      | attachmentRecorded => exact ih
      | attachmentTaken => exact ih

/-- A live lease of the history, in the fabric's own terms. -/
theorem LeaseInv.authority_of_live {s : Shared W} (h : LeaseInv s) {later log : List (Event W)}
    (hlog : s.log = later ++ log) {presented : Lease} {t : Instant}
    (hl : Live (leaseHistory log) presented.resourceId presented.id t) :
    Authority log presented t := by
  obtain ⟨hholder, hnr, e, hexp, hlt⟩ := hl
  rw [holder_leaseHistory, Option.map_eq_some_iff] at hholder
  obtain ⟨lease, hlatest, hid⟩ := hholder
  have hkey : lease.resourceId = presented.resourceId := by
    simpa using List.find?_some hlatest
  refine ⟨lease, hlatest, hid, ?_, e, by rw [currentExpiry, hid, hexp], hlt⟩
  rintro ⟨p, t', hm, hpid⟩
  obtain ⟨hpkey, -, -⟩ := h.released p lease t' (by rw [hlog]; simp [hm])
  exact hnr (released_iff.mpr ⟨p, lease, t', hm, hpkey.trans hkey, hpid.trans hid⟩)

/-- What the fabric honours is live. -/
theorem LeaseInv.live_of_honours {s : Shared W} (h : LeaseInv s) {lease : Lease}
    (hh : s.Honours lease) :
    Live (leaseHistory s.log) lease.resourceId lease.id s.now := by
  obtain ⟨active, hrec, hlive⟩ := hh
  obtain ⟨hactive, hid⟩ := recorded?_eq_some.mp hrec
  have hentry := leaseTable_eq_some hactive
  rw [hid] at hentry
  exact h.tracks.live hentry hlive

/-- Time has not gone back, and the history of the leases grew by later events. -/
def Later (s s' : Shared W) : Prop :=
  s.now ≤ s'.now ∧ ∃ later, leaseHistory s'.log = later ++ leaseHistory s.log ∧
    ∀ ev ∈ later, s.now ≤ ev.time

theorem Later.refl (s : Shared W) : Later s s := ⟨le_rfl, [], rfl, by simp⟩

theorem Later.trans {s₁ s₂ s₃ : Shared W} (h₁ : Later s₁ s₂) (h₂ : Later s₂ s₃) :
    Later s₁ s₃ := by
  obtain ⟨hnow₁, later₁, hhist₁, htime₁⟩ := h₁
  obtain ⟨hnow₂, later₂, hhist₂, htime₂⟩ := h₂
  refine ⟨hnow₁.trans hnow₂, later₂ ++ later₁, ?_, ?_⟩
  · rw [hhist₂, hhist₁, List.append_assoc]
  · intro ev hm
    rcases List.mem_append.mp hm with hm | hm
    · exact hnow₁.trans (htime₂ ev hm)
    · exact htime₁ ev hm

theorem LeaseStep.later {s s' : Shared W} {sec : Section W} (h : LeaseStep s sec s')
    (hnow : s'.now = s.now) : Later s s' := by
  refine ⟨hnow.ge, ?_⟩
  cases h with
  | idle _ _ hlog =>
      obtain ⟨evs, hlog, hquiet⟩ := hlog
      refine ⟨[], ?_, by simp⟩
      rw [hlog, leaseHistory_append, leaseHistory_quiet hquiet]
  | prune _ _ hlog => exact ⟨[], by rw [hlog, List.nil_append], by simp⟩
  -- each of the others adds its own event, at this instant
  | @grant _ _ ttl lease _ _ _ _ _ hlog =>
      refine ⟨[.grant lease.resourceId lease.id s.now (s.now + ttl)], ?_, ?_⟩
      · rw [hlog]
        rfl
      · simp [LeaseHistory.Event.time]
  | @renew lease ttl _ _ _ _ _ _ _ hlog =>
      refine ⟨[.renew lease.resourceId lease.id s.now (s.now + ttl)], ?_, ?_⟩
      · rw [hlog]
        rfl
      · simp [LeaseHistory.Event.time]
  | @attach _ _ lease _ _ _ _ _ _ _ _ _ _ hlog =>
      obtain ⟨evs, hlog, hquiet⟩ := hlog
      refine ⟨[.use lease.resourceId lease.id s.now], ?_, ?_⟩
      · rw [hlog, leaseHistory_append, leaseHistory_quiet hquiet]
        rfl
      · simp [LeaseHistory.Event.time]
  | @release lease _ _ _ _ _ _ hlog =>
      refine ⟨[.release lease.resourceId lease.id s.now], ?_, ?_⟩
      · rw [hlog]
        rfl
      · simp [LeaseHistory.Event.time]

theorem later_of_steps {guard : Section W → Shared W → Prop}
    {c c' : Config (@Section.Reply W) (Shared W) Unit}
    (hs : Relation.ReflTransGen (fabricSystem guard).Step c c') : Later c.state c'.state := by
  refine System.rel_of_steps Later .refl (fun _ _ _ => .trans) ?_ ?_ hs
  · intro sec s _
    exact (act_leaseStep sec s).later (act_now sec s)
  · intro s s' he
    refine ⟨he.1, [], ?_, by simp⟩
    rw [he.2]
    rfl

/-- The adapters are asked to attach under the lease of the resource they get. -/
def AttachKeyed (s : Shared W) : Prop :=
  ∀ adapter r lease t result, .attachCall adapter r lease t result ∈ s.log →
    r.id = lease.resourceId

theorem LeaseStep.attachCall_cases {s s' : Shared W} {sec : Section W} (h : LeaseStep s sec s')
    {adapter : ResourceAdapter W} {r : Resource} {lease : Lease} {t : Instant}
    {result : Except FabricError Attachment}
    (hm : .attachCall adapter r lease t result ∈ s'.log) :
    .attachCall adapter r lease t result ∈ s.log ∨
      ∃ adapterName, sec = .attach r adapterName lease := by
  cases h with
  | idle _ _ hlog =>
      obtain ⟨evs, hlog, hquiet⟩ := hlog
      rw [hlog, List.mem_append] at hm
      exact Or.inl (hm.resolve_left fun hm => hquiet _ hm)
  | prune _ _ hlog => exact Or.inl (hlog ▸ hm)
  | grant _ _ _ _ hlog => exact Or.inl (by simpa [hlog] using hm)
  | renew _ _ _ _ _ hlog => exact Or.inl (by simpa [hlog] using hm)
  | @attach _ adapterName _ _ _ _ _ _ _ _ _ _ _ hlog =>
      obtain ⟨evs, hlog, hquiet⟩ := hlog
      rw [hlog, List.mem_append] at hm
      rcases List.mem_cons.mp (hm.resolve_left fun hm => hquiet _ hm) with heq | hm
      · obtain ⟨-, rfl, rfl, -, -⟩ := Event.attachCall.inj heq
        exact Or.inr ⟨adapterName, rfl⟩
      · exact Or.inl hm
  | release _ _ _ _ hlog => exact Or.inl (by simpa [hlog] using hm)

theorem attachKeyed_reachable {guard : Section W → Shared W → Prop}
    {c : Config (@Section.Reply W) (Shared W) Unit} (h : (fabricSystem guard).Reachable c) :
    AttachKeyed c.state := by
  refine (h.sound (fun s => RegistryKeyed s ∧ AttachKeyed s) Section.WellFormed
    ?_ ?_ ?_ ?_).1.2
  · intro s hs
    refine ⟨.fresh hs, ?_⟩
    intro adapter r lease t result hm
    rw [hs.2] at hm
    cases hm
  · rintro p ⟨op, rfl⟩
    exact call_sound (fun _ hI => hI.1) op
  · intro sec s hwf _ hI
    refine ⟨hI.1.act sec, ?_⟩
    intro adapter r lease t result hm
    rcases (act_leaseStep sec s).attachCall_cases hm with hm | ⟨adapterName, rfl⟩
    · exact hI.2 adapter r lease t result hm
    · exact hwf
  · intro s s' he hI
    refine ⟨hI.1.elapse he, ?_⟩
    rw [he.2]
    exact hI.2

/-- A lease that is over is never honoured again. -/
theorem not_honours_of_over {guard : Section W → Shared W → Prop}
    {c c' : Config (@Section.Reply W) (Shared W) Unit} (h : (fabricSystem guard).Reachable c)
    (hs : Relation.ReflTransGen (fabricSystem guard).Step c c')
    (hlt : grants c'.state.log < 2 ^ 64) (hlt₀ : grants c.state.log < 2 ^ 64) {lease : Lease}
    (hl : lease ∈ grantedLeases c.state.log) (ho : Over c.state.log lease c.state.now)
    {presented : Lease} (hid : presented.id = lease.id) : ¬ c'.state.Honours presented := by
  intro hh
  have hinv := leaseInv_reachable (h.steps hs) hlt
  have hlive := hinv.live_of_honours hh
  obtain ⟨hnow, later, hhist, htime⟩ := later_of_steps hs
  have hgranted : Granted (leaseHistory c.state.log) lease.resourceId lease.id :=
    granted_iff.mpr ⟨lease, hl, rfl, rfl⟩
  have hended := (leaseInv_reachable h hlt₀).ended_of_over ho
  have hlawful := hinv.tracks.lawful
  rw [hhist] at hlawful hlive
  -- an id is granted on one resource, so `presented` names the one of `lease`
  have hkey : presented.resourceId = lease.resourceId :=
    hlawful.key_unique (hid ▸ granted_of_holder hlive.1) (hgranted.append later)
  rw [hkey, hid] at hlive
  exact hlawful.not_live_of_ended hgranted hended htime hnow hlive

theorem grants_le_of_steps {guard : Section W → Shared W → Prop}
    {c c' : Config (@Section.Reply W) (Shared W) Unit}
    (hs : Relation.ReflTransGen (fabricSystem guard).Step c c') :
    grants c.state.log ≤ grants c'.state.log := by
  refine System.rel_of_steps (fun s s' => grants s.log ≤ grants s'.log) (fun _ => le_rfl)
    (fun _ _ _ => le_trans) ?_ ?_ hs
  · intro sec s _
    exact (act_leaseStep sec s).grants_le
  · intro s s' he
    rw [he.2]

theorem lease_authority {c : Config (@Section.Reply W) (Shared W) Unit}
    (h : (fabricSystem anySection).Reachable c) (hlt : grants c.state.log < 2 ^ 64) :
    -- an adapter is asked to attach only under the authority of the lease
    (∀ later earlier adapter r l t result,
      c.state.log = later ++ .attachCall adapter r l t result :: earlier →
        r.id = l.resourceId ∧ Authority earlier l t) ∧
    -- and so is a lease renewed
    (∀ l ttl renewed, (renewLeaseSection l ttl c.state).1 = some (.ok renewed) →
      Authority c.state.log l c.state.now) ∧
    -- a lease that was over at some point of the run is not honoured afterwards
    ∀ c₀ : Config (@Section.Reply W) (Shared W) Unit, (fabricSystem anySection).Reachable c₀ →
      Relation.ReflTransGen (fabricSystem anySection).Step c₀ c →
      ∀ L ∈ grantedLeases c₀.state.log, Over c₀.state.log L c₀.state.now →
      ∀ l, l.id = L.id → ∀ r adapterName ttl,
        (∀ attachment, (attachSection r adapterName l c.state).1 ≠ some (.ok attachment)) ∧
        ∀ renewed, (renewLeaseSection l ttl c.state).1 ≠ some (.ok renewed) := by
  have hinv := leaseInv_reachable h hlt
  refine ⟨?_, ?_, ?_⟩
  · intro later earlier adapter r l t result hlog
    refine ⟨attachKeyed_reachable h adapter r l t result (by rw [hlog]; simp), ?_⟩
    have hlawful := hinv.tracks.lawful
    rw [hlog, leaseHistory_append] at hlawful
    have hlive : Live (leaseHistory earlier) l.resourceId l.id t := hlawful.allowed
    have hsplit : c.state.log = (later ++ [.attachCall adapter r l t result]) ++ earlier := by
      simp [hlog]
    exact hinv.authority_of_live hsplit hlive
  · intro l ttl renewed hok
    exact hinv.authority_of_live (List.nil_append _).symm (hinv.live_of_honours (renewLease_ok hok))
  · intro c₀ h₀ hs L hL ho l hid r adapterName ttl
    have hlt₀ := (grants_le_of_steps hs).trans_lt hlt
    have hnot := not_honours_of_over h₀ hs hlt hlt₀ hL ho hid
    refine ⟨?_, ?_⟩
    · intro attachment hok
      exact hnot (attach_ok hok)
    · intro renewed hok
      exact hnot (renewLease_ok hok)

open Scenario in
theorem lease_authority_expired :
    Over (after (start ()) leaseExpired).state.log ⟨1, "device.0", "mission-a"⟩
        (after (start ()) leaseExpired).state.now ∧
      (renewLeaseSection ⟨1, "device.0", "mission-a"⟩ 30
        (after (start ()) (leaseExpired ++ leaseAgain)).state).1 ≠
          some (.ok ⟨1, "device.0", "mission-a"⟩) := by
  have hsteps := System.steps_schedule schedule_leaseAgain
  have hmem : (⟨1, "device.0", "mission-a"⟩ : Lease) ∈
      grantedLeases (after (start ()) leaseExpired).state.log := by decide +kernel
  have hover : Over (after (start ()) leaseExpired).state.log ⟨1, "device.0", "mission-a"⟩
      (after (start ()) leaseExpired).state.now :=
    Or.inr ⟨30, by decide +kernel, by decide +kernel⟩
  have hauth := lease_authority (reachable_leaseExpired.steps hsteps) (by decide +kernel)
  obtain ⟨-, hrefused⟩ :=
    hauth.2.2 _ reachable_leaseExpired hsteps _ hmem hover _ rfl device "null" 30
  exact ⟨hover, hrefused _⟩

end NautiFabric
