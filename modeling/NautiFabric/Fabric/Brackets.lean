import NautiFabric.Fabric.Attachments
import NautiFabric.Fabric.Sequential

/-!
# NautiFabric.Fabric.Brackets — attach and detach over sequential runs

When calls run one after the other, what an adapter's `attach` opened on a
resource is what the attachment table holds (`Attached`), and every adapter call
fits the one that is open (`Bracketed`). `BracketGuard` is what this needs: no
grant on a resource that still has an entry, and no registration that replaces
the adapter an entry stands for.
-/

namespace NautiFabric

open Interleave

variable {W : Type}

/-! ## What is open on a resource -/

/-- The adapter and the lease id of the last successful `attach` on a resource,
unless a `detach` on the resource has been called since. -/
def attachedBy : List (Event W) → String → Option (ResourceAdapter W × UInt64)
  | [], _ => none
  | .attachCall adapter r lease _ (.ok _) :: log, k =>
    if r.id = k then some (adapter, lease.id) else attachedBy log k
  | .detachCall _ r _ _ _ :: log, k => if r.id = k then none else attachedBy log k
  | _ :: log, k => attachedBy log k

/-- A successful `attach` finds nothing open under another lease, and a `detach`
is called on what is open. -/
def Bracketed : List (Event W) → Prop
  | [] => True
  | .attachCall _ r lease _ (.ok _) :: log =>
    (∀ adapter id, attachedBy log r.id = some (adapter, id) → id = lease.id) ∧ Bracketed log
  | .detachCall adapter r lease _ _ :: log =>
    attachedBy log r.id = some (adapter, lease.id) ∧ Bracketed log
  | _ :: log => Bracketed log

/-- No lease is attached through two different adapters. -/
def OneAdapter (log : List (Event W)) : Prop :=
  ∀ adapter adapter' r r' lease lease' t t' attachment attachment',
    .attachCall adapter r lease t (.ok attachment) ∈ log →
    .attachCall adapter' r' lease' t' (.ok attachment') ∈ log →
    r.id = r'.id → lease.id = lease'.id → adapter = adapter'

/-- Between successful attaches on a resource under two leases, the first adapter
was asked to detach its lease. -/
def DetachedBetween (log : List (Event W)) : Prop :=
  ∀ (later mid earlier : List (Event W)) (a b : ResourceAdapter W) (r₁ r₂ : Resource)
    (L₁ L₂ : Lease) (t₁ t₂ : Instant) (x₁ x₂ : Attachment),
    log = later ++ .attachCall b r₂ L₂ t₂ (.ok x₂) ::
      (mid ++ .attachCall a r₁ L₁ t₁ (.ok x₁) :: earlier) →
    r₁.id = r₂.id → L₁.id ≠ L₂.id →
    ∃ r L t result, .detachCall a r L t result ∈ mid ∧ r.id = r₁.id ∧ L.id = L₁.id

/-- The adapter attached lease `id` on `k`, and nothing on `k` was detached since. -/
def AttachedSince (log : List (Event W)) (k : String) (a : ResourceAdapter W) (id : UInt64) :
    Prop :=
  ∃ (mid rest : List (Event W)) (r : Resource) (L : Lease) (t : Instant) (x : Attachment),
    log = mid ++ .attachCall a r L t (.ok x) :: rest ∧ r.id = k ∧ L.id = id ∧
      ∀ (b : ResourceAdapter W) (r' : Resource) (L' : Lease) (t' : Instant)
        (result : Except FabricError Unit), .detachCall b r' L' t' result ∈ mid → r'.id ≠ k

/-- `detach` is only called on what the adapter attached, and not detached since. -/
def DetachesOpen (log : List (Event W)) : Prop :=
  ∀ (later earlier : List (Event W)) (a : ResourceAdapter W) (r : Resource) (L : Lease)
    (t : Instant) (result : Except FabricError Unit),
    log = later ++ .detachCall a r L t result :: earlier → AttachedSince earlier r.id a L.id

theorem attachedBy_append {evs : List (Event W)} (h : ∀ ev ∈ evs, ev.Unattached)
    (log : List (Event W)) (k : String) : attachedBy (evs ++ log) k = attachedBy log k := by
  induction evs with
  | nil => rfl
  | cons ev evs ih =>
      have hev : ev.Unattached := h ev (by simp)
      have hrest : ∀ ev ∈ evs, ev.Unattached := fun ev hm => h ev (by simp [hm])
      cases ev with
      | attachCall adapter r lease t result =>
          cases result with
          | error e => exact ih hrest
          | ok attachment => exact hev.elim
      | detachCall => exact hev.elim
      | _ => exact ih hrest

theorem Bracketed.append {log : List (Event W)} (h : Bracketed log) {evs : List (Event W)}
    (hevs : ∀ ev ∈ evs, ev.Unattached) : Bracketed (evs ++ log) := by
  induction evs with
  | nil => exact h
  | cons ev evs ih =>
      have hev : ev.Unattached := hevs ev (by simp)
      have hrest := ih fun ev hm => hevs ev (by simp [hm])
      cases ev with
      | attachCall adapter r lease t result =>
          cases result with
          | error e => exact hrest
          | ok attachment => exact hev.elim
      | detachCall => exact hev.elim
      | _ => exact hrest

theorem Bracketed.of_append {later log : List (Event W)} (h : Bracketed (later ++ log)) :
    Bracketed log := by
  induction later with
  | nil => exact h
  | cons ev later ih =>
      cases ev with
      | attachCall adapter r lease t result =>
          cases result with
          | error e => exact ih h
          | ok attachment => exact ih h.2
      | detachCall => exact ih h.2
      | _ => exact ih h

/-! ### What a bracketed history says about pairs of calls -/

/-- After a successful `attach`, either its `detach` has been called or it is open. -/
theorem Bracketed.detached_or_open {mid earlier : List (Event W)} {a : ResourceAdapter W}
    {r : Resource} {lease : Lease} {t : Instant} {x : Attachment}
    (h : Bracketed (mid ++ .attachCall a r lease t (.ok x) :: earlier))
    (hone : OneAdapter (mid ++ .attachCall a r lease t (.ok x) :: earlier)) :
    (∃ r' lease' t' result, .detachCall a r' lease' t' result ∈ mid ∧ r'.id = r.id ∧
        lease'.id = lease.id) ∨
      attachedBy (mid ++ .attachCall a r lease t (.ok x) :: earlier) r.id = some (a, lease.id) := by
  -- on what came after the `attach`; the newest event decides
  induction mid with
  | nil =>
      right
      simp [attachedBy]
  | cons ev mid ih =>
      have hone' : OneAdapter (mid ++ .attachCall a r lease t (.ok x) :: earlier) := by
        intro b b' s s' l l' u u' y y' hm hm'
        exact hone b b' s s' l l' u u' y y' (List.mem_cons_of_mem _ hm) (List.mem_cons_of_mem _ hm')
      have hsplit : Bracketed ([ev] ++ (mid ++ .attachCall a r lease t (.ok x) :: earlier)) := h
      have hrest := hsplit.of_append
      rcases ih hrest hone' with ⟨r', lease', t', result, hm, hr, hl⟩ | hopen
      · exact Or.inl ⟨r', lease', t', result, List.mem_cons_of_mem _ hm, hr, hl⟩
      · cases ev with
        | attachCall b r' lease' t' result =>
            cases result with
            | error e => exact Or.inr hopen
            | ok y =>
                right
                by_cases hr : r'.id = r.id
                · -- the same lease again, so the same adapter again
                  have hid : lease.id = lease'.id := h.1 a lease.id (hr ▸ hopen)
                  have hadapter : b = a :=
                    hone b a r' r lease' lease t' t y x (by simp) (by simp) hr hid.symm
                  simp [attachedBy, hr, hid, hadapter]
                · simpa [attachedBy, hr] using hopen
        | detachCall b r' lease' t' result =>
            by_cases hr : r'.id = r.id
            · -- what is detached is what was open
              left
              have hpair : some (a, lease.id) = some (b, lease'.id) := by
                rw [← hopen, ← hr]
                exact h.1
              obtain ⟨rfl, hid⟩ := Prod.mk.inj (Option.some.inj hpair)
              exact ⟨r', lease', t', result, List.mem_cons_self, hr, hid.symm⟩
            · exact Or.inr (by simpa [attachedBy, hr] using hopen)
        | _ => exact Or.inr hopen

theorem AttachedSince.cons {log : List (Event W)} {k : String} {a : ResourceAdapter W}
    {id : UInt64} (h : AttachedSince log k a id) {ev : Event W}
    (hev : ∀ b r L t result, ev = .detachCall b r L t result → r.id ≠ k) :
    AttachedSince (ev :: log) k a id := by
  obtain ⟨mid, rest, r, L, t, x, hsplit, hr, hL, hmid⟩ := h
  refine ⟨ev :: mid, rest, r, L, t, x, by rw [hsplit, List.cons_append], hr, hL, ?_⟩
  intro b r' L' t' result hm
  rcases List.mem_cons.mp hm with heq | hm
  · exact hev b r' L' t' result heq.symm
  · exact hmid b r' L' t' result hm

/-- What is open was opened by a successful `attach`, and not detached since. -/
theorem attachedSince_of_attachedBy {log : List (Event W)} {k : String} {a : ResourceAdapter W}
    {id : UInt64} (h : attachedBy log k = some (a, id)) : AttachedSince log k a id := by
  -- induction on the log, the newest event first
  induction log with
  | nil => cases h
  | cons ev log ih =>
      cases ev with
      | attachCall b r lease t result =>
          cases result with
          | error e => exact (ih h).cons (by simp)
          | ok x =>
              by_cases hr : r.id = k
              · have hpair : some (b, lease.id) = some (a, id) := by
                  simpa [attachedBy, hr] using h
                obtain ⟨rfl, hid⟩ := Prod.mk.inj (Option.some.inj hpair)
                exact ⟨[], log, r, lease, t, x, rfl, hr, hid, by simp⟩
              · have hlog : attachedBy log k = some (a, id) := by simpa [attachedBy, hr] using h
                exact (ih hlog).cons (by simp)
      | detachCall b r lease t result =>
          by_cases hr : r.id = k
          · simp [attachedBy, hr] at h
          · have hlog : attachedBy log k = some (a, id) := by simpa [attachedBy, hr] using h
            refine (ih hlog).cons ?_
            rintro b' r' lease' t' result' heq
            obtain ⟨-, rfl, -⟩ := Event.detachCall.inj heq
            exact hr
      | _ => exact (ih h).cons (by simp)

/-! ## The invariant -/

/-- Nothing is open on a resource without an entry; the entry of another one
names the adapter that is open, under the lease granted last. -/
def Attached (s : Shared W) : Prop :=
  ∀ k : String, (s.fabric.attachments[k]? = none → attachedBy s.log k = none) ∧
    ∀ name, s.fabric.attachments[k]? = some name → ∃ adapter lease,
      s.fabric.adapters[name]? = some adapter ∧ latestGrant s.log k = some lease ∧
        attachedBy s.log k = some (adapter, lease.id)

structure BracketInv (s : Shared W) : Prop where
  noOrphan : NoOrphan s
  keyed : RegistryKeyed s
  latest : RecordedLatest s
  attached : Attached s
  bracketed : Bracketed s.log

/-- No grant on a resource that still has an entry, and no registration that
replaces the adapter of an entry. -/
def BracketGuard : Section W → Shared W → Prop
  | .leaseExclusive resourceId _ ttl, s =>
    s.WouldGrant resourceId ttl → resourceId ∉ s.fabric.attachments
  | .registerAdapter adapter, s => ∀ k : String, s.fabric.attachments[k]? = some adapter.name →
    s.fabric.adapters[adapter.name]? = some adapter
  | _, _ => True

/-- An adapter that an entry names stays the one under its name. -/
theorem getElem?_adapters_act {s : Shared W} {sec : Section W} (hg : BracketGuard sec s)
    {k name : String} {adapter : ResourceAdapter W}
    (hentry : s.fabric.attachments[k]? = some name)
    (hadapter : s.fabric.adapters[name]? = some adapter) :
    (sec.act s).2.fabric.adapters[name]? = some adapter := by
  by_cases hw : sec.writes
  · cases sec with
    | registerAdapter a =>
        have hget : (s.fabric.adapters.insert a.name a)[name]? = some adapter := by
          rw [Std.ExtTreeMap.getElem?_insert]
          split
          · rename_i heq
            obtain rfl : a.name = name := by simpa using heq
            exact (hg k hentry).symm.trans hadapter
          · exact hadapter
        exact hget
    | register => exact hadapter
    | unregisterRemove => exact hadapter
    | heartbeat => exact hadapter
    | evictStale => exact hadapter
    | _ => exact hw.elim
  · rw [(act_frame sec hw s).adapters]
    exact hadapter

/-- A section that leaves the attachments alone keeps what is open. -/
theorem Attached.act {s : Shared W} (h : Attached s) {sec : Section W} (hg : BracketGuard sec s)
    (hs : ¬ sec.attaches) : Attached (sec.act s).2 := by
  have hcases := (act_leaseStep sec s).latestGrant_cases
  have hadapters : ∀ (k name : String) (adapter : ResourceAdapter W),
      s.fabric.attachments[k]? = some name → s.fabric.adapters[name]? = some adapter →
      (sec.act s).2.fabric.adapters[name]? = some adapter :=
    fun k name adapter => getElem?_adapters_act hg
  have hstep := act_attachStep sec s
  generalize (sec.act s).2 = s' at hcases hadapters hstep ⊢
  cases hstep with
  | record => exact absurd trivial hs
  | take => exact absurd trivial hs
  | detach => exact absurd trivial hs
  | idle hattachments hlog =>
      obtain ⟨evs, hlog, hevs⟩ := hlog
      intro k
      have hopen : attachedBy s'.log k = attachedBy s.log k := by
        rw [hlog, attachedBy_append hevs]
      rw [hattachments, hopen]
      refine ⟨(h k).1, ?_⟩
      intro name hentry
      obtain ⟨adapter, lease, hadapter, hl, hby⟩ := (h k).2 name hentry
      refine ⟨adapter, lease, hadapters k name adapter hentry hadapter, ?_, hby⟩
      rcases hcases with hsame | ⟨granted, ttl, rfl, hgrant, -, -, hother⟩
      · exact (hsame k).trans hl
      · -- the guard keeps grants off resources with an entry
        refine (hother k ?_).trans hl
        rintro rfl
        exact hg hgrant (StringMap.mem_of_getElem? hentry)

theorem Bracketed.act {s : Shared W} (h : Bracketed s.log) {sec : Section W}
    (hs : ¬ sec.attaches) : Bracketed (sec.act s).2.log := by
  have hstep := act_attachStep sec s
  generalize (sec.act s).2 = s' at hstep
  cases hstep with
  | idle _ hlog =>
      obtain ⟨evs, hlog, hevs⟩ := hlog
      rw [hlog]
      exact h.append hevs
  | record => exact absurd trivial hs
  | take => exact absurd trivial hs
  | detach => exact absurd trivial hs

theorem BracketInv.act {s : Shared W} (h : BracketInv s) {sec : Section W}
    (hg : BracketGuard sec s) (ho : OrphanGuard sec s) (hs : ¬ sec.attaches) :
    BracketInv (sec.act s).2 :=
  ⟨h.noOrphan.act ho, h.keyed.act sec, h.latest.act sec, h.attached.act hg hs,
    h.bracketed.act hs⟩

/-- What the fabric honours finds nothing open under another lease. -/
theorem BracketInv.open_id {s : Shared W} (h : BracketInv s) {lease : Lease}
    {active : ActiveLease} (hrec : s.recorded? lease = some active) {adapter : ResourceAdapter W}
    {id : UInt64} (hopen : attachedBy s.log lease.resourceId = some (adapter, id)) :
    id = lease.id := by
  obtain ⟨hl, hid⟩ := h.latest.of_recorded hrec
  obtain ⟨hnone, hsome⟩ := h.attached lease.resourceId
  rcases hentry : s.fabric.attachments[lease.resourceId]? with _ | name
  · rw [hnone hentry] at hopen
    cases hopen
  · obtain ⟨adapter', latest, -, hl', hby⟩ := hsome name hentry
    rw [hl] at hl'
    obtain rfl := Option.some.inj hl'
    rw [hby] at hopen
    obtain ⟨-, rfl⟩ := Prod.mk.inj (Option.some.inj hopen)
    exact hid

/-! ## One call at a time -/

/-- Run alone under the guard, the call keeps the invariant. -/
abbrev KeepsBrackets {α : Type} (p : Call W α) : Prop :=
  ∀ s, BracketInv s → p.Leaves Section.act BracketGuard BracketInv s

theorem bracketInv_sections : KeptBySections BracketGuard (@BracketInv W) :=
  fun _ _ hs hg ho h => h.act hg ho hs

theorem releaseCheck_ok {lease : Lease} {s s' : Shared W}
    (h : releaseCheckSection lease s = (some (.ok ()), s')) :
    s' = s ∧ ∃ active, s.recorded? lease = some active := by
  have hbody := body_of_withLeases h
  split at hbody
  · cases hbody
  · rename_i active hrec
    exact ⟨(Prod.mk.inj hbody).2.symm, active, hrec⟩

/-- A successful `attach` opens what its entry will close. -/
theorem BracketInv.record {s s' : Shared W} (h : BracketInv s) {r : Resource} {name : String}
    {lease : Lease} (hkey : r.id = lease.resourceId)
    (hact : (Section.act (.attach r name lease) s).2 = s')
    (hstep : AttachStep s (.attach r name lease) s') : BracketInv s' := by
  have hlatest : ∀ k, latestGrant s'.log k = latestGrant s.log k := by
    rcases (act_leaseStep (.attach r name lease) s).latestGrant_cases with hsame | ⟨_, _, hsec, -⟩
    · rwa [hact] at hsame
    · cases hsec
  have hframe := act_frame (.attach r name lease) not_false s
  rw [hact] at hframe
  have hrest : NoOrphan s' ∧ RegistryKeyed s' ∧ RecordedLatest s' := by
    rw [← hact]
    exact ⟨h.noOrphan.act trivial, h.keyed.act _, h.latest.act _⟩
  obtain ⟨horphan, hkeyed, hrecorded⟩ := hrest
  -- what is left is the table against the log, and the log itself
  suffices hopen : Attached s' ∧ Bracketed s'.log from
    ⟨horphan, hkeyed, hrecorded, hopen.1, hopen.2⟩
  cases hstep with
  | idle hattachments hlog =>
      obtain ⟨evs, hlog, hevs⟩ := hlog
      refine ⟨?_, by rw [hlog]; exact h.bracketed.append hevs⟩
      intro k
      rw [hattachments, hframe.adapters, hlatest, hlog, attachedBy_append hevs]
      exact h.attached k
  | @record _ _ _ adapter attachment _ hhonours hadapter hattachments hlog =>
      obtain ⟨active, hrec, -⟩ := hhonours
      have hby : ∀ k, attachedBy s'.log k =
          if r.id = k then some (adapter, lease.id) else attachedBy s.log k := by
        intro k
        rw [hlog]
        rfl
      refine ⟨?_, ?_⟩
      · intro k
        rw [hattachments, hframe.adapters, hlatest, hby, Std.ExtTreeMap.getElem?_insert]
        by_cases hk : lease.resourceId = k
        · subst hk
          obtain ⟨hl, hid⟩ := h.latest.of_recorded hrec
          simp [hkey, hadapter, hl, hid]
        -- another resource
        · have hne : ¬ compare lease.resourceId k = .eq := by simpa using hk
          rw [if_neg hne, if_neg (hkey ▸ hk)]
          exact h.attached k
      · rw [hlog]
        refine ⟨?_, h.bracketed⟩
        intro a id hopen
        rw [hkey] at hopen
        exact h.open_id hrec hopen

theorem attach_keeps (adapterName : String) (lease : Lease) :
    KeepsBrackets (attach adapterName lease : Call W _) := by
  refine keeps_attach ?_
  intro s r h hr _
  exact h.record (h.keyed _ r hr) rfl (act_attachStep _ s)

/-- Taking the entry of a resource and detaching what is open there. -/
theorem BracketInv.detach {s : Shared W} (h : BracketInv s) {lease : Lease}
    {adapter : ResourceAdapter W} {r : Resource} (hkey : r.id = lease.resourceId)
    (hopen : attachedBy s.log lease.resourceId = some (adapter, lease.id)) (name : String)
    (result : Except FabricError Unit) (world : W) :
    BracketInv { s with
      fabric.attachments := s.fabric.attachments.erase lease.resourceId
      world
      log :=
        .detachCall adapter r lease s.now result :: .attachmentTaken lease name :: s.log } where
  noOrphan := h.noOrphan
  keyed := h.keyed
  latest := h.latest
  attached := by
    intro k
    dsimp only
    rw [Std.ExtTreeMap.getElem?_erase]
    by_cases hk : lease.resourceId = k
    · simp [attachedBy, hkey, hk]
    -- neither event is about another resource
    · have hne : ¬ compare lease.resourceId k = .eq := by simpa using hk
      have hby : attachedBy
          (.detachCall adapter r lease s.now result :: .attachmentTaken lease name :: s.log) k =
          attachedBy s.log k := by simp [attachedBy, hkey, hk]
      rw [if_neg hne, hby]
      exact h.attached k
  bracketed := by
    refine ⟨?_, h.bracketed⟩
    rw [hkey]
    exact hopen

theorem releaseRemove_keeps (lease : Lease) :
    KeepsBrackets (atomically (.releaseRemove lease) : Call W _) :=
  atomically_keeps bracketInv_sections not_false fun _ => trivial

theorem release_keeps (lease : Lease) : KeepsBrackets (release lease : Call W _) := by
  intro s h
  refine leaves_section bracketInv_sections h trivial not_false ?_
  intro r s' ha h'
  rcases r with e | ⟨⟩
  · exact Prog.leaves_done h'
  · obtain ⟨rfl, active, hrec⟩ := releaseCheck_ok ha
    refine Prog.leaves_atomic ?_ ?_
    · intro s'' _ ha'
      simp only [Section.act, releaseTakeSection] at ha'
      split at ha' <;> cases ha'
    · intro taken s₁ _ htake
      simp only [Section.act, releaseTakeSection] at htake
      split at htake
      · -- nothing was attached
        obtain ⟨htaken, rfl⟩ := Prod.mk.inj htake
        obtain rfl := Option.some.inj htaken
        exact releaseRemove_keeps lease _ h'
      · rename_i name hentry
        obtain ⟨htaken, rfl⟩ := Prod.mk.inj htake
        obtain rfl := Option.some.inj htaken
        obtain ⟨adapter, latest, hadapter, hl, hopen⟩ :=
          (h'.attached lease.resourceId).2 name hentry
        have hid : latest.id = lease.id := h'.open_id hrec hopen
        rw [hid] at hopen
        -- the lease is recorded, so its resource is registered
        have hleased : lease.resourceId ∈ s'.fabric.leases.val :=
          StringMap.mem_of_getElem? (recorded?_eq_some.mp hrec).1
        obtain ⟨r, hr⟩ := StringMap.exists_getElem? (h'.noOrphan _ hleased)
        have hkey : r.id = lease.resourceId := h'.keyed _ r hr
        refine leaves_resource ?_
        dsimp only [Shared.emit]
        rw [hr]
        refine Prog.leaves_atomic ?_ ?_
        · intro s₂ _ hdetach
          simp only [Section.act, releaseDetachSection] at hdetach
          split at hdetach <;> cases hdetach
        · intro result s₂ _ hdetach
          simp only [Section.act, releaseDetachSection] at hdetach
          rw [hadapter] at hdetach
          obtain ⟨hresult, rfl⟩ := Prod.mk.inj hdetach
          have hinv := h'.detach hkey hopen name (adapter.detach r lease s'.world).1
            (adapter.detach r lease s'.world).2
          rcases result with e | ⟨⟩
          · exact Prog.leaves_done hinv
          · exact releaseRemove_keeps lease _ hinv

theorem bracketInv_seqReachable {s : Shared W} (h : (fabricSystem BracketGuard).SeqReachable s) :
    BracketInv s := by
  refine h.invariant BracketInv ?_ ?_ ?_
  · rintro s ⟨hfabric, hlog⟩
    refine ⟨?_, .fresh ⟨hfabric, hlog⟩, .fresh ⟨hfabric, hlog⟩, ?_, ?_⟩
    · intro id hid
      simp [hfabric, Fabric.default] at hid
    · intro k
      simp [hfabric, hlog, Fabric.default, attachedBy]
    · rw [hlog]
      trivial
  · rintro p s ⟨op, rfl⟩ hs
    exact call_keeps bracketInv_sections attach_keeps release_keeps op s hs
  · intro s s' he hs
    rw [he.2]
    exact ⟨hs.noOrphan, hs.keyed, hs.latest, hs.attached, hs.bracketed⟩

/-! ## Adapter calls are bracketed -/

/-- In every sequential run whose sections meet the guard, and in which no lease
is attached through two adapters, the adapter calls on a resource are properly
bracketed. -/
theorem adapter_calls_bracketed {s : Shared W} (h : (fabricSystem BracketGuard).SeqReachable s)
    (hone : OneAdapter s.log) : DetachedBetween s.log ∧ DetachesOpen s.log := by
  have hbracketed := (bracketInv_seqReachable h).bracketed
  refine ⟨?_, ?_⟩
  · intro later mid earlier a b r₁ r₂ L₁ L₂ t₁ t₂ x₁ x₂ hlog hr hne
    rw [hlog] at hbracketed
    obtain ⟨hunder, hrest⟩ := hbracketed.of_append
    have hone' : OneAdapter (mid ++ .attachCall a r₁ L₁ t₁ (.ok x₁) :: earlier) := by
      have hsub : ∀ ev ∈ mid ++ .attachCall a r₁ L₁ t₁ (.ok x₁) :: earlier, ev ∈ s.log := by
        intro ev hm
        rw [hlog]
        exact List.mem_append_right _ (List.mem_cons_of_mem _ hm)
      intro c c' v v' l l' u u' y y' hm hm'
      exact hone c c' v v' l l' u u' y y' (hsub _ hm) (hsub _ hm')
    rcases hrest.detached_or_open hone' with hdetached | hopen
    · exact hdetached
    · exact absurd (hunder a L₁.id (hr ▸ hopen)) hne
  · intro later earlier a r L t result hlog
    rw [hlog] at hbracketed
    exact attachedSince_of_attachedBy hbracketed.of_append.1

namespace Scenario

/-- The device is leased, attached and released. -/
def attachAndRelease : Schedule Unit :=
  [.invoke (Op.register device).call,
   .invoke (Op.registerAdapter localProofAdapter).call,
   .invoke (Op.leaseExclusive "device.0" "mission-a" 30).call,
   .invoke (Op.attach "local-proof" ⟨1, "device.0", "mission-a"⟩).call,
   .invoke (Op.release ⟨1, "device.0", "mission-a"⟩).call]

/-- The device is leased and attached; the lease runs out, and another owner
leases and attaches the device. -/
def attachTwice : Schedule Unit :=
  [.invoke (Op.register device).call,
   .invoke (Op.registerAdapter localProofAdapter).call,
   .invoke (Op.leaseExclusive "device.0" "mission-a" 30).call,
   .invoke (Op.attach "local-proof" ⟨1, "device.0", "mission-a"⟩).call, .env (wait 40),
   .invoke (Op.leaseExclusive "device.0" "mission-b" 30).call,
   .invoke (Op.attach "local-proof" ⟨2, "device.0", "mission-b"⟩).call]

/-- A `localProofAdapter` attach of the device. -/
def attachEvent (lease : Lease) (t : Instant) : Event Unit :=
  .attachCall localProofAdapter device lease t (.ok ⟨"device.0", lease.id, "local-proof", ∅⟩)

/-- What the adapter was asked on the way: one attach and one detach. -/
theorem log_attachAndRelease : (afterCalls (start ()) attachAndRelease).log =
    [.released ⟨1, "device.0", "mission-a"⟩ ⟨1, "device.0", "mission-a"⟩ 0,
     .detachCall localProofAdapter device ⟨1, "device.0", "mission-a"⟩ 0 (.ok ()),
     .attachmentTaken ⟨1, "device.0", "mission-a"⟩ "local-proof",
     .attachmentRecorded ⟨1, "device.0", "mission-a"⟩ "local-proof",
     attachEvent ⟨1, "device.0", "mission-a"⟩ 0,
     .granted ⟨1, "device.0", "mission-a"⟩ 30 0] := by with_unfolding_all rfl

/-- Two attaches, and no detach between them. -/
theorem log_attachTwice : (afterCalls (start ()) attachTwice).log =
    [.attachmentRecorded ⟨2, "device.0", "mission-b"⟩ "local-proof",
     attachEvent ⟨2, "device.0", "mission-b"⟩ 40,
     .granted ⟨2, "device.0", "mission-b"⟩ 30 40,
     .attachmentRecorded ⟨1, "device.0", "mission-a"⟩ "local-proof",
     attachEvent ⟨1, "device.0", "mission-a"⟩ 0,
     .granted ⟨1, "device.0", "mission-a"⟩ 30 0] := by with_unfolding_all rfl

end Scenario

open Scenario in
theorem adapter_calls_bracketed_released :
    DetachedBetween (afterCalls (start ()) attachAndRelease).log ∧
      DetachesOpen (afterCalls (start ()) attachAndRelease).log := by
  have hsched : (fabricSystem BracketGuard).SeqSchedule (start ()) attachAndRelease := by
    have hfree : ∀ s : Shared Unit, s.fabric.attachments = ∅ → ∀ id, id ∉ s.fabric.attachments := by
      intro s hs id
      simp [hs]
    refine ⟨⟨.register device, rfl⟩, ⟨trivial, trivial⟩,
      ⟨.registerAdapter localProofAdapter, rfl⟩, ⟨?_, trivial⟩,
      ⟨.leaseExclusive "device.0" "mission-a" 30, rfl⟩, ⟨trivial, fun _ => hfree _ rfl _, ?_⟩,
      ⟨.attach "local-proof" ⟨1, "device.0", "mission-a"⟩, rfl⟩, ?_,
      ⟨.release ⟨1, "device.0", "mission-a"⟩, rfl⟩, ?_, trivial⟩
    · intro k hk
      have hk : (∅ : StringMap String)[k]? = some "local-proof" := hk
      simp at hk
    · with_unfolding_all trivial
    · with_unfolding_all exact ⟨trivial, trivial, trivial⟩
    · with_unfolding_all exact ⟨trivial, trivial, trivial, trivial, trivial, trivial⟩
  have hone : OneAdapter (afterCalls (start ()) attachAndRelease).log := by
    rw [log_attachAndRelease]
    intro a a' r r' l l' t t' x x' hm hm' _ _
    simp only [attachEvent, List.mem_cons, List.not_mem_nil, or_false, reduceCtorEq, false_or,
      Event.attachCall.injEq] at hm hm'
    rw [hm.1, hm'.1]
  exact adapter_calls_bracketed (seqReachable_afterCalls hsched) hone

open Scenario in
/-- Without the guard, a lease that runs out is never detached. -/
theorem expired_attachment_lingers :
    ¬ ∀ s : Shared Unit, (fabricSystem anySection).SeqReachable s → OneAdapter s.log →
      DetachedBetween s.log ∧ DetachesOpen s.log := by
  intro h
  have hadmits : (fabricSystem anySection).Admits attachTwice :=
    ⟨⟨.register device, rfl⟩, ⟨.registerAdapter localProofAdapter, rfl⟩,
      ⟨.leaseExclusive "device.0" "mission-a" 30, rfl⟩,
      ⟨.attach "local-proof" ⟨1, "device.0", "mission-a"⟩, rfl⟩, elapse_wait 40,
      ⟨.leaseExclusive "device.0" "mission-b" 30, rfl⟩,
      ⟨.attach "local-proof" ⟨2, "device.0", "mission-b"⟩, rfl⟩, trivial⟩
  have hr := seqReachable_afterCalls
    (System.seqSchedule_of_admits (fun _ _ => trivial) hadmits (start ()))
  have hone : OneAdapter (afterCalls (start ()) attachTwice).log := by
    rw [log_attachTwice]
    intro a a' r r' l l' t t' x x' hm hm' _ _
    simp only [attachEvent, List.mem_cons, List.not_mem_nil, or_false, reduceCtorEq, false_or,
      Event.attachCall.injEq] at hm hm'
    rcases hm with hm | hm <;> rcases hm' with hm' | hm' <;> rw [hm.1, hm'.1]
  obtain ⟨hbetween, -⟩ := h _ hr hone
  -- between the two attaches there is only the second grant, and no `detach`
  obtain ⟨r, L, t, result, hm, -, -⟩ := hbetween
    [.attachmentRecorded ⟨2, "device.0", "mission-b"⟩ "local-proof"]
    [.granted ⟨2, "device.0", "mission-b"⟩ 30 40,
      .attachmentRecorded ⟨1, "device.0", "mission-a"⟩ "local-proof"]
    [.granted ⟨1, "device.0", "mission-a"⟩ 30 0] _ _ _ _ _ _ _ _ _ _ log_attachTwice rfl
    (by decide)
  simp at hm

end NautiFabric
