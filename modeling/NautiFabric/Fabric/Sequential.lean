import NautiFabric.Fabric.Registry

/-!
# NautiFabric.Fabric.Sequential — one call at a time

A rule for invariants of sequential runs. When every section that leaves the
adapters alone keeps the invariant, and so do whole `attach` and `release`
calls, then every call does (`call_keeps`). A section need only keep it where
`OrphanGuard` holds: with no other call in between, `unregister` and
`lease_exclusive` act on what they have just checked.
-/

namespace NautiFabric

open Interleave

variable {W : Type}

/-- The sections that call an adapter or change the attachment table. -/
def Section.attaches : Section W → Prop
  | .attach _ _ _ => True
  | .releaseTake _ => True
  | .releaseDetach _ _ _ => True
  | _ => False

/-- Run alone under the guard, the call keeps the invariant. -/
abbrev Keeps {α : Type} (guard : Section W → Shared W → Prop) (I : Shared W → Prop)
    (p : Call W α) : Prop :=
  ∀ s, I s → p.Leaves Section.act guard I s

section Rules

variable {guard : Section W → Shared W → Prop} {I : Shared W → Prop}

theorem Keeps.bind {α β : Type} {p : Call W α} {f : α → Call W β} (hp : Keeps guard I p)
    (hf : ∀ a, Keeps guard I (f a)) : Keeps guard I (p >>= f) := by
  intro s h
  exact (hp s h).bind (fun _ hI => hI) fun a s hI => hf a s hI

theorem Keeps.ignore {α : Type} {p : Call W α} (hp : Keeps guard I p) :
    Keeps guard I p.ignore :=
  fun s h => (hp s h).ignore

theorem keeps_done {α : Type} (a : α) : Keeps guard I (.done a : Call W α) :=
  fun _ h => Prog.leaves_done h

/-- The registry read that several calls begin with. -/
theorem leaves_resource {α : Type} {resourceId : String} {next : Option Resource → Call W α}
    {s : Shared W} (h : (next s.fabric.resources[resourceId]?).Leaves Section.act guard I s) :
    (Prog.atomic (.resource resourceId) next : Call W α).Leaves Section.act guard I s := by
  refine Prog.leaves_atomic ?_ ?_
  · intro s' _ ha
    simp [Section.act] at ha
  · intro r s' _ ha
    obtain ⟨hr, rfl⟩ := Prod.mk.inj ha
    obtain rfl := Option.some.inj hr
    exact h

/-- `attach` is one section on the resource that the registry has, if it has one. -/
theorem keeps_attach {adapterName : String} {lease : Lease}
    (h : ∀ s r, I s → s.fabric.resources[lease.resourceId]? = some r →
      guard (.attach r adapterName lease) s →
        I (Section.act (.attach r adapterName lease) s).2) :
    Keeps guard I (attach adapterName lease : Call W _) := by
  intro s hI
  refine leaves_resource ?_
  rcases hr : s.fabric.resources[lease.resourceId]? with _ | r
  · exact Prog.leaves_done hI
  · exact Prog.leaves_perform (h s r hI hr)

theorem unregisterCheck_ok {resourceId : String} {s s' : Shared W}
    (h : unregisterCheckSection resourceId s = (some (.ok ()), s')) :
    s' = s ∧ resourceId ∉ s.fabric.leases.val := by
  have hbody := body_of_withLeases h
  split at hbody
  · cases hbody
  · rename_i hfree
    exact ⟨(Prod.mk.inj hbody).2.symm, hfree⟩

/-- Every section that leaves the adapters alone keeps the invariant, when what its
call has checked before still holds. -/
abbrev KeptBySections (guard : Section W → Shared W → Prop) (I : Shared W → Prop) : Prop :=
  ∀ (sec : Section W) (s : Shared W), ¬ sec.attaches → guard sec s → OrphanGuard sec s → I s →
    I (sec.act s).2

variable (hsec : KeptBySections guard I)

include hsec in
/-- A section that keeps the invariant, and the rest of the call after its reply. -/
theorem leaves_section {α : Type} {sec : Section W} {next : sec.Reply → Call W α} {s : Shared W}
    (h : I s) (ho : OrphanGuard sec s) (hs : ¬ sec.attaches)
    (hnext : ∀ r s', sec.act s = (some r, s') → I s' →
      (next r).Leaves Section.act guard I s') :
    (Prog.atomic sec next).Leaves Section.act guard I s := by
  have hinv : guard sec s → I (sec.act s).2 := fun hg => hsec sec s hs hg ho h
  refine Prog.leaves_atomic ?_ ?_
  · intro s' hg ha
    simpa [ha] using hinv hg
  · intro r s' hg ha
    exact hnext r s' ha (by simpa [ha] using hinv hg)

include hsec in
theorem atomically_keeps {sec : Section W} (hs : ¬ sec.attaches)
    (ho : ∀ s, OrphanGuard sec s) : Keeps guard I (atomically sec) := by
  intro s h
  refine Prog.leaves_perform ?_
  intro hg
  exact hsec sec s hs hg (ho s) h

include hsec in
theorem unregister_keeps (resourceId : String) :
    Keeps guard I (unregister resourceId : Call W _) := by
  intro s h
  refine leaves_section hsec h trivial not_false ?_
  intro r s' ha h'
  rcases r with e | ⟨⟩
  · exact Prog.leaves_done h'
  · obtain ⟨rfl, hfree⟩ := unregisterCheck_ok ha
    refine leaves_section hsec h' hfree not_false ?_
    intro r' s'' _ h''
    exact Prog.leaves_done h''

include hsec in
theorem leaseExclusive_keeps (resourceId owner : String) (ttl : Duration) :
    Keeps guard I (leaseExclusive resourceId owner ttl : Call W _) := by
  intro s h
  refine leaves_resource ?_
  rcases hr : s.fabric.resources[resourceId]? with _ | r
  · exact Prog.leaves_done h
  · dsimp only [Prog.bind]
    split
    · exact Prog.leaves_done h
    · split
      · exact Prog.leaves_done h
      · have hmem : resourceId ∈ s.fabric.resources := StringMap.mem_of_getElem? hr
        refine leaves_section hsec h (fun _ => hmem) not_false ?_
        intro r' s' _ h'
        exact Prog.leaves_done h'

include hsec in
theorem registerEach_keeps (rs : List Resource) :
    Keeps guard I (registerEach rs : Call W _) := by
  induction rs with
  | nil => exact keeps_done ()
  | cons r rs ih =>
      have hregister : Keeps guard I (register r : Call W _) :=
        atomically_keeps hsec not_false fun _ => trivial
      exact hregister.bind fun _ => ih

include hsec in
theorem unregisterEach_keeps (ids : List String) :
    Keeps guard I (unregisterEach ids : Call W _) := by
  induction ids with
  | nil => exact keeps_done ()
  | cons id ids ih => exact (unregister_keeps hsec id).bind fun _ => ih

include hsec in
theorem unregisterGone_keeps (ids : List String) :
    Keeps guard I (unregisterGone ids : Call W _) := by
  induction ids with
  | nil => exact keeps_done ([], [])
  | cons id ids ih =>
      refine (unregister_keeps hsec id).bind fun result => ih.bind fun lists => ?_
      dsimp only
      split <;> exact keeps_done _

include hsec in
theorem evictStaleNodes_keeps (olderThan : Duration) (nodeOrder idOrder : IterOrder) :
    Keeps guard I (evictStaleNodes olderThan nodeOrder idOrder : Call W _) := by
  intro s h
  refine leaves_section hsec h trivial not_false fun cutoff s₁ _ h₁ => ?_
  refine leaves_section hsec h₁ trivial not_false fun stale s₂ _ h₂ => ?_
  dsimp only [Prog.bind]
  split
  · exact Prog.leaves_done h₂
  · refine leaves_section hsec h₂ trivial not_false fun owned s₃ _ h₃ => ?_
    exact (unregisterEach_keeps hsec owned).bind (fun _ => keeps_done stale) s₃ h₃

include hsec in
theorem refreshLocal_keeps (discovered : List Resource) :
    Keeps guard I (refreshLocal discovered : Call W _) := by
  intro s h
  refine leaves_section hsec h trivial not_false fun currentIds s₁ _ h₁ => ?_
  exact (registerEach_keeps hsec _).bind
    (fun _ => (unregisterGone_keeps hsec _).bind fun _ => keeps_done _) s₁ h₁

include hsec in
/-- What the sections, `attach` and `release` keep, every call keeps. -/
theorem call_keeps
    (hattach : ∀ adapterName lease, Keeps guard I (attach adapterName lease : Call W _))
    (hrelease : ∀ lease, Keeps guard I (release lease : Call W _)) (op : Op W) :
    Keeps guard I op.call := by
  have one_section : ∀ {sec : Section W}, ¬ sec.attaches → (∀ s, OrphanGuard sec s) →
      Keeps guard I (atomically sec).ignore := fun hs ho => (atomically_keeps hsec hs ho).ignore
  cases op with
  | register r => exact atomically_keeps hsec not_false fun _ => trivial
  | unregister resourceId => exact (unregister_keeps hsec resourceId).ignore
  | resource resourceId => exact one_section not_false fun _ => trivial
  | resources => exact one_section not_false fun _ => trivial
  | registerAdapter adapter => exact atomically_keeps hsec not_false fun _ => trivial
  | adapterReports order => exact one_section not_false fun _ => trivial
  | leaseExclusive resourceId owner ttl =>
      exact (leaseExclusive_keeps hsec resourceId owner ttl).ignore
  | findAvailable request order => exact one_section not_false fun _ => trivial
  | attach adapterName lease => exact (hattach adapterName lease).ignore
  | release lease => exact (hrelease lease).ignore
  | renewLease lease ttl => exact one_section not_false fun _ => trivial
  | heartbeat node => exact atomically_keeps hsec not_false fun _ => trivial
  | evictStaleNodes olderThan nodeOrder idOrder =>
      exact (evictStaleNodes_keeps hsec olderThan nodeOrder idOrder).ignore
  | discoverLocal discovered =>
      exact ((registerEach_keeps hsec discovered).bind fun _ => keeps_done discovered).ignore
  | refreshLocal discovered => exact (refreshLocal_keeps hsec discovered).ignore

end Rules

end NautiFabric
