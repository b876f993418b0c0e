import NautiFabric.Fabric.Sequential
import NautiFabric.Fabric.Attachments
import NautiFabric.Lib.Carried

/-!
# NautiFabric.Fabric.Asks — what a call asks for, and what it carries

Only `attach` and `release` ask for sections that touch an adapter, and only `lease_exclusive`
asks for a lease (`call_asks`). A release asks for the `detach` of a lease that it has found
recorded. The lease may be gone by then, but it was granted with that id on that resource, and
this stays so: `call_carries` says that every `detach` is asked for under a lease that was granted.
-/

namespace NautiFabric

open Interleave

variable {W : Type}

/-! ## Sections that touch no adapter and grant no lease -/

def Section.plain : Section W → Prop
  | .leaseExclusive _ _ _ => False
  | sec => ¬ sec.attaches

section Asks

variable {I : Shared W → Prop} {wf : Section W → Prop}
  (hplain : ∀ sec : Section W, sec.plain → wf sec)

include hplain

theorem asks_section {sec : Section W} (h : sec.plain) :
    (atomically sec).Sound Section.act I wf := by
  refine ⟨hplain sec h, ?_⟩
  intro s r _ _
  trivial

theorem asks_unregister (resourceId : String) :
    (unregister resourceId : Call W _).Sound Section.act I wf := by
  refine ⟨hplain _ not_false, ?_⟩
  intro s r _ _
  rcases r with e | ⟨⟩
  · trivial
  · refine ⟨hplain _ not_false, ?_⟩
    intro s' removed _ _
    trivial

theorem asks_unregisterEach (ids : List String) :
    (unregisterEach ids : Call W _).Sound Section.act I wf := by
  induction ids with
  | nil => trivial
  | cons id ids ih => exact (asks_unregister hplain id).bind fun _ => ih

theorem asks_unregisterGone (ids : List String) :
    (unregisterGone ids : Call W _).Sound Section.act I wf := by
  induction ids with
  | nil => trivial
  | cons id ids ih =>
      refine (asks_unregister hplain id).bind fun result => ih.bind fun lists => ?_
      dsimp only
      split <;> trivial

theorem asks_registerEach (rs : List Resource) :
    (registerEach rs : Call W _).Sound Section.act I wf := by
  induction rs with
  | nil => trivial
  | cons r rs ih =>
      have hregister : (register r : Call W _).Sound Section.act I wf :=
        asks_section hplain not_false
      exact hregister.bind fun _ => ih

theorem asks_evictStaleNodes (olderThan : Duration) (nodeOrder idOrder : IterOrder) :
    (evictStaleNodes olderThan nodeOrder idOrder : Call W _).Sound Section.act I wf := by
  refine ⟨hplain _ not_false, fun s cutoff _ _ => ?_⟩
  refine ⟨hplain _ not_false, fun s stale _ _ => ?_⟩
  dsimp only [Prog.bind]
  split
  · trivial
  · refine ⟨hplain _ not_false, fun _ owned _ _ => ?_⟩
    exact (asks_unregisterEach hplain owned).bind fun _ => trivial

theorem asks_refreshLocal (discovered : List Resource) :
    (refreshLocal discovered : Call W _).Sound Section.act I wf := by
  refine ⟨hplain _ not_false, fun s currentIds _ _ => ?_⟩
  exact (asks_registerEach hplain _).bind fun _ =>
    (asks_unregisterGone hplain _).bind fun _ => trivial

/-- Apart from `lease_exclusive`, `attach` and `release`, the calls ask for plain sections. -/
theorem call_asks
    (hlease : ∀ id owner ttl, (leaseExclusive id owner ttl : Call W _).Sound Section.act I wf)
    (hattach : ∀ name lease, (attach name lease : Call W _).Sound Section.act I wf)
    (op : Op W) (hop : ∀ lease, op ≠ .release lease) : op.call.Sound Section.act I wf := by
  have ignored : ∀ {α : Type} {p : Call W α}, p.Sound Section.act I wf →
      p.ignore.Sound Section.act I wf := fun h => h.bind fun _ => trivial
  cases op with
  | register r => exact asks_section hplain not_false
  | unregister resourceId => exact ignored (asks_unregister hplain resourceId)
  | resource resourceId => exact ignored (asks_section hplain not_false)
  | resources => exact ignored (asks_section hplain not_false)
  | registerAdapter adapter => exact asks_section hplain not_false
  | adapterReports order => exact ignored (asks_section hplain not_false)
  | leaseExclusive resourceId owner ttl =>
      exact ignored (hlease resourceId owner ttl)
  | findAvailable request order => exact ignored (asks_section hplain not_false)
  | attach name lease => exact ignored (hattach name lease)
  | release lease => exact absurd rfl (hop lease)
  | renewLease lease ttl => exact ignored (asks_section hplain not_false)
  | heartbeat node => exact asks_section hplain not_false
  | evictStaleNodes olderThan nodeOrder idOrder =>
      exact ignored (asks_evictStaleNodes hplain olderThan nodeOrder idOrder)
  | discoverLocal discovered =>
      exact ignored ((asks_registerEach hplain discovered).bind fun _ => trivial)
  | refreshLocal discovered => exact ignored (asks_refreshLocal hplain discovered)

end Asks

/-! ## The lease of a detach -/

/-- A lease with the id was granted on the resource. -/
def GrantedOn (log : List (Event W)) (lease : Lease) : Prop :=
  ∃ granted ∈ grantedLeases log, granted.id = lease.id ∧ granted.resourceId = lease.resourceId

/-- What was granted stays granted. -/
def GrantsKept (s s' : Shared W) : Prop :=
  ∀ lease ∈ grantedLeases s.log, lease ∈ grantedLeases s'.log

theorem GrantedOn.kept {s s' : Shared W} {lease : Lease} (h : GrantedOn s.log lease)
    (hkept : GrantsKept s s') : GrantedOn s'.log lease := by
  obtain ⟨granted, hmem, hsame⟩ := h
  exact ⟨granted, hkept granted hmem, hsame⟩

theorem grantsKept_act (sec : Section W) (s : Shared W) : GrantsKept s (sec.act s).2 :=
  fun _ hmem => (act_leaseStep sec s).mem_granted hmem

theorem RecordedLatest.grantedOn {s : Shared W} (h : RecordedLatest s) {lease : Lease}
    {active : ActiveLease} (hrec : s.recorded? lease = some active) : GrantedOn s.log lease := by
  obtain ⟨hlatest, hid⟩ := h.of_recorded hrec
  have hresource : active.lease.resourceId = lease.resourceId := by
    simpa using List.find?_some hlatest
  exact ⟨active.lease, List.mem_of_find?_eq_some hlatest, hid, hresource⟩

/-- An adapter section acts on the resource of its lease; a `detach`, under a lease that was
granted. -/
def Section.Wanted : Section W → Shared W → Prop
  | .attach r _ lease, _ => r.id = lease.resourceId
  | .releaseDetach r _ lease, s => r.id = lease.resourceId ∧ GrantedOn s.log lease
  | _, _ => True

section Carries

variable {I : Shared W → Prop}

/-- A call that asks for its sections where they are wanted. -/
abbrev CarryingCall {α : Type} (I : Shared W → Prop) (p : Call W α) (s : Shared W) : Prop :=
  p.Carries Section.act I GrantsKept Section.Wanted s

theorem carries_detachTaken (hI : ∀ s, I s → RegistryKeyed s) {lease : Lease} {s : Shared W}
    (h : GrantedOn s.log lease) (adapterName : Option String) :
    CarryingCall I (detachTaken adapterName lease) s := by
  rcases adapterName with _ | name
  · trivial
  · intro s₁ hs₁ hinv₁
    refine ⟨trivial, fun r s₂ hact => ?_⟩
    obtain ⟨hr, rfl⟩ := Prod.mk.inj hact
    obtain rfl := Option.some.inj hr
    rcases hget : s₁.fabric.resources[lease.resourceId]? with _ | r
    · trivial
    · intro s₃ hs₃ _
      refine ⟨⟨hI s₁ hinv₁ _ r hget, (h.kept hs₁).kept hs₃⟩, ?_⟩
      intro r' s₄ _
      trivial

theorem carries_release (hI : ∀ s, I s → RegistryKeyed s) (hlatest : ∀ s, I s → RecordedLatest s)
    (lease : Lease) (s : Shared W) : CarryingCall I (release lease) s := by
  intro s₁ _ hinv₁
  refine ⟨trivial, fun r s₂ hact => ?_⟩
  rcases r with e | ⟨⟩
  · trivial
  · -- the check has found the lease recorded
    have hbody := body_of_withLeases hact
    rcases hrec : s₁.recorded? lease with _ | active
    · rw [hrec] at hbody
      cases hbody
    · rw [hrec] at hbody
      obtain rfl : s₁ = s₂ := (Prod.mk.inj hbody).2
      have hgranted := (hlatest s₁ hinv₁).grantedOn hrec
      intro s₃ hs₃ _
      refine ⟨trivial, fun name s₄ htake => ?_⟩
      have hkept : GrantsKept s₃ s₄ := by
        have hstep := grantsKept_act (.releaseTake lease) s₃
        rwa [htake] at hstep
      refine (carries_detachTaken hI ((hgranted.kept hs₃).kept hkept) name).bind ?_
      intro result s₅
      rcases result with e | ⟨⟩
      · trivial
      · intro s₆ _ _
        refine ⟨trivial, fun r' s₇ _ => ?_⟩
        trivial

/-- Every call asks for its sections where they are wanted. -/
theorem call_carries (hI : ∀ s, I s → RegistryKeyed s) (hlatest : ∀ s, I s → RecordedLatest s)
    (op : Op W) (s : Shared W) : CarryingCall I op.call s := by
  by_cases hop : ∃ lease, op = .release lease
  · obtain ⟨lease, rfl⟩ := hop
    exact (carries_release hI hlatest lease s).bind fun _ _ => trivial
  · push Not at hop
    have hsound : op.call.Sound Section.act I fun sec => ∀ s, Section.Wanted sec s := by
      refine call_asks ?_ ?_ ?_ op hop
      · intro sec hsec s
        cases sec <;> first | trivial | exact absurd trivial hsec
      · intro id owner ttl
        exact leaseExclusive_sound (fun _ => trivial) fun _ => trivial
      · intro name lease
        exact attach_sound (fun _ => trivial) fun s r hs hr _ => hI s hs _ r hr
    exact Prog.carries_of_sound hsound (fun _ _ h => h _) s

end Carries

end NautiFabric
