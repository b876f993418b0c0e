import NautiFabric.Fabric.Asks
import NautiFabric.Fabric.Detaching
import NautiFabric.Store.Resolution

/-!
# NautiFabric.Store.Adapter — the store attached under a lease

The `fabric-store` adapter keeps a table of what is attached through it, by lease id. Its
`attach` enters what the resource resolves to; its `detach` takes the entry out, unless it is
an entry for another resource, which it refuses.

`LiveUnder` reads off the history under which ids the store was attached and not detached
since. `FollowsAttachments` is the adapter's promise: the table holds these ids, each for the
resource that the lease of that id was granted on, and no `detach` has been refused. No id is
granted twice before the counter wraps, and up to there `follows_attachments` proves it for
every interleaving, with any other adapters registered.
-/

namespace NautiFabric

open Interleave

namespace Store

/-- `name()`. -/
def name : String := "fabric-store"

/-- What the adapter asks of its host. -/
structure Host (V : Type) where
  /-- `create_dir_all`; an error comes with its text. -/
  createDirAll : String → V → Except String Unit × V
  which : String → V → Option String

/-- The state behind the adapters: the attachments of the store, and all that is outside. -/
structure StoreWorld (V : Type) where
  live : Std.ExtTreeMap UInt64 StoreResolution compare
  outside : V

variable {V : Type}

def liveCount (w : StoreWorld V) : ℕ := w.live.size

def ensureDir (host : Host V) (path : String) (outside : V) : Except FabricError Unit × V :=
  match host.createDirAll path outside with
  | (.ok (), outside') => (.ok (), outside')
  | (.error error, outside') =>
    (.error (.adapterBackendUnavailable name ("cannot create " ++ path ++ ": " ++ error)),
      outside')

def details (resolution : StoreResolution) : StringMap String :=
  .ofList
    [("store.kind", resolution.kind.asStr), ("store.path", resolution.jobPath),
     ("store.virtio_fs", resolution.virtioFsSpec.getD ""), ("store.tag", resolution.tag)]

def attach (host : Host V) (resource : Resource) (lease : Lease) (w : StoreWorld V) :
    Except FabricError Attachment × StoreWorld V :=
  match StoreResolution.fromResource resource with
  | .error e => (.error e, w)
  | .ok resolution =>
    let (made, outside) :=
      if resolution.kind ≠ .nfs then ensureDir host resolution.path w.outside
      else (.ok (), w.outside)
    match made with
    | .error e => (.error e, { w with outside })
    | .ok () =>
      (.ok ⟨resource.id, lease.id, name, details resolution⟩,
        ⟨w.live.insert lease.id resolution, outside⟩)

def detach (resource : Resource) (lease : Lease) (w : StoreWorld V) :
    Except FabricError Unit × StoreWorld V :=
  let live := w.live.erase lease.id
  match w.live[lease.id]? with
  | some resolution =>
    if resolution.resourceId = resource.id then (.ok (), { w with live })
    -- an entry for another resource is put back
    else (.error .leaseNotFound, { w with live := live.insert lease.id resolution })
  | none => (.ok (), { w with live })

def capabilityReport (host : Host V) (w : StoreWorld V) : AdapterReport where
  name := name
  scope := "fabric-store"
  healthy := true
  detail := .ofList
    [("store.bind", "available"),
     ("store.virtiofsd", (host.which "virtiofsd" w.outside).getD "missing"),
     ("store.nfs", "explicit-attr-only")]

def adapter (host : Host V) : ResourceAdapter (StoreWorld V) where
  name := name
  attach := attach host
  detach := detach
  capabilityReport := capabilityReport host

/-! ## What the adapter does to the table -/

/-- Either way an attach can end. -/
inductive AttachOutcome (resource : Resource) (lease : Lease) (w : StoreWorld V) :
    Except FabricError Attachment × StoreWorld V → Prop
  | refused {e : FabricError} {outside : V} :
      AttachOutcome resource lease w (.error e, { w with outside })
  | attached {resolution : StoreResolution} {outside : V}
      (hresolved : StoreResolution.fromResource resource = .ok resolution) :
      AttachOutcome resource lease w
        (.ok ⟨resource.id, lease.id, name, details resolution⟩,
          ⟨w.live.insert lease.id resolution, outside⟩)

theorem attach_outcome (host : Host V) (resource : Resource) (lease : Lease) (w : StoreWorld V) :
    AttachOutcome resource lease w (attach host resource lease w) := by
  unfold attach
  rcases hresolved : StoreResolution.fromResource resource with e | resolution
  · exact .refused
  · dsimp only
    generalize (if resolution.kind ≠ .nfs then ensureDir host resolution.path w.outside
      else (.ok (), w.outside)) = outcome
    rcases outcome with ⟨made, outside⟩
    rcases made with e | ⟨⟩
    · exact .refused
    · exact .attached hresolved

theorem resolved_id {resource : Resource} {resolution : StoreResolution}
    (h : StoreResolution.fromResource resource = .ok resolution) :
    resolution.resourceId = resource.id := by
  obtain ⟨kind, path, -, rfl⟩ := fromResource_iff.mp h
  rfl

/-- What is attached for the resource, or not at all, is detached. -/
theorem detach_own {resource : Resource} {lease : Lease} {w : StoreWorld V}
    (h : ∀ resolution, w.live[lease.id]? = some resolution →
      resolution.resourceId = resource.id) :
    detach resource lease w = (.ok (), { w with live := w.live.erase lease.id }) := by
  unfold detach
  rcases hentry : w.live[lease.id]? with _ | resolution
  · rfl
  · dsimp only
    rw [if_pos (h resolution hentry)]

/-- A detach touches no entry but the one of its lease. -/
theorem getElem?_detach_of_ne {resource : Resource} {lease : Lease} {w : StoreWorld V}
    {id : UInt64} (hne : lease.id ≠ id) :
    (detach resource lease w).2.live[id]? = w.live[id]? := by
  unfold detach
  rcases w.live[lease.id]? with _ | resolution
  · dsimp only
    rw [Table.getElem?_erase, if_neg hne]
  · dsimp only
    split
    · dsimp only
      rw [Table.getElem?_erase, if_neg hne]
    · dsimp only
      rw [Table.getElem?_insert, if_neg hne, Table.getElem?_erase, if_neg hne]

/-! ## A fabric with a store -/

/-- An adapter of another kind, which has no access to the table. -/
structure Bystander (other : ResourceAdapter (StoreWorld V)) : Prop where
  name : other.name ≠ Store.name
  attach : ∀ resource lease w, (other.attach resource lease w).2.live = w.live
  detach : ∀ resource lease w, (other.detach resource lease w).2.live = w.live

variable (host : Host V)

/-- The adapters that may be registered: the store adapter itself, and bystanders. -/
def Admits (other : ResourceAdapter (StoreWorld V)) : Prop :=
  other = adapter host ∨ Bystander other

def Registers : Section (StoreWorld V) → Prop
  | .registerAdapter other => Admits host other
  | _ => True

/-- All interleavings of fabric calls with the store adapter. Between the sections time
passes, and the outside does what it likes. -/
def storeSystem (guard : Section (StoreWorld V) → Shared (StoreWorld V) → Prop) :
    Interleave.System (@Section.Reply (StoreWorld V)) (Shared (StoreWorld V)) Unit where
  act := Section.act
  init s := s.Fresh ∧ s.world.live = ∅
  invocable p := ∃ op : Op (StoreWorld V), p = op.call
  env s s' := s.Elapse s' ∧ s'.world.live = s.world.live
  guard sec s := Registers host sec ∧ guard sec s

/-! ## What is attached -/

/-- The store `k` was attached under the lease `id`, and has not been detached under it since. -/
inductive LiveUnder {W : Type} (k : String) (id : UInt64) : List (Event W) → Prop
  | attached {a : ResourceAdapter W} {r : Resource} {lease : Lease} {t : Instant} {x : Attachment}
      {log : List (Event W)} (ha : a.name = name) (hr : r.id = k) (hid : lease.id = id) :
      LiveUnder k id (.attachCall a r lease t (.ok x) :: log)
  | since {ev : Event W} {log : List (Event W)} (h : LiveUnder k id log)
      (hev : ∀ a r lease t result, ev = .detachCall a r lease t result → a.name = name →
        ¬ (r.id = k ∧ lease.id = id)) : LiveUnder k id (ev :: log)

/-- The table holds what is attached, under leases that were granted on it, and the store has
never refused to detach. -/
structure FollowsAttachments (s : Shared (StoreWorld V)) : Prop where
  table : ∀ k id, (s.world.live[id]?).map StoreResolution.resourceId = some k ↔
    LiveUnder k id s.log
  granted : ∀ k id, LiveUnder k id s.log →
    ∃ lease ∈ grantedLeases s.log, lease.id = id ∧ lease.resourceId = k
  detached : ∀ a r lease t e, a.name = name → .detachCall a r lease t (.error e) ∉ s.log

/-- The event is no call of the store adapter that matters to the table. -/
def Aside {W : Type} : Event W → Prop
  | .attachCall a _ _ _ (.ok _) => a.name ≠ name
  | .detachCall a _ _ _ _ => a.name ≠ name
  | _ => True

section History

variable {W : Type} {k : String} {id : UInt64} {log : List (Event W)}

theorem liveUnder_cons_aside {ev : Event W} (hev : Aside ev) :
    LiveUnder k id (ev :: log) ↔ LiveUnder k id log := by
  constructor
  · intro h
    cases h with
    | attached ha => exact absurd ha hev
    | since h => exact h
  · intro h
    refine .since h ?_
    rintro a r lease t result rfl ha
    exact absurd ha hev

theorem liveUnder_append {evs : List (Event W)} (hevs : ∀ ev ∈ evs, Aside ev) :
    LiveUnder k id (evs ++ log) ↔ LiveUnder k id log := by
  induction evs with
  | nil => exact Iff.rfl
  | cons ev evs ih =>
      rw [List.cons_append, liveUnder_cons_aside (hevs ev List.mem_cons_self)]
      exact ih fun ev hmem => hevs ev (List.mem_cons_of_mem _ hmem)

variable {a : ResourceAdapter W} {r : Resource} {lease : Lease} {t : Instant}

theorem liveUnder_cons_attached (ha : a.name = name) (x : Attachment) :
    LiveUnder k id (.attachCall a r lease t (.ok x) :: log) ↔
      (r.id = k ∧ lease.id = id) ∨ LiveUnder k id log := by
  constructor
  · intro h
    cases h with
    | attached _ hr hid => exact Or.inl ⟨hr, hid⟩
    | since h => exact Or.inr h
  · rintro (⟨hr, hid⟩ | h)
    · exact .attached ha hr hid
    · refine .since h ?_
      rintro _ _ _ _ _ ⟨⟩

theorem liveUnder_cons_detached (ha : a.name = name) (result : Except FabricError Unit) :
    LiveUnder k id (.detachCall a r lease t result :: log) ↔
      ¬ (r.id = k ∧ lease.id = id) ∧ LiveUnder k id log := by
  constructor
  · intro h
    cases h with
    | since h hev => exact ⟨hev _ _ _ _ _ rfl ha, h⟩
  · rintro ⟨hne, h⟩
    refine .since h ?_
    rintro _ _ _ _ _ heq -
    cases heq
    exact hne

end History

theorem aside_of_unattached {W : Type} {ev : Event W} (h : ev.Unattached) : Aside ev := by
  cases ev with
  | attachCall a r lease t result =>
      cases result with
      | error e => trivial
      | ok x => exact h.elim
  | detachCall => exact h.elim
  | _ => trivial

/-! ## What the sections keep -/

/-- The table is as before, and nothing of the store's was reported. -/
structure Unmoved (s s' : Shared (StoreWorld V)) : Prop where
  live : s'.world.live = s.world.live
  log : ∃ evs, s'.log = evs ++ s.log ∧ ∀ ev ∈ evs, Aside ev

/-- A section that calls no adapter. -/
theorem unmoved_act {sec : Section (StoreWorld V)} (s : Shared (StoreWorld V))
    (hattach : ∀ r name lease, sec ≠ .attach r name lease)
    (hdetach : ∀ r name lease, sec ≠ .releaseDetach r name lease) :
    Unmoved s (sec.act s).2 := by
  have hworld : (sec.act s).2.world = s.world := by
    have hstep := act_worldStep sec s
    generalize (sec.act s).2 = s' at hstep
    cases hstep with
    | still h => exact h.1
    | attach => exact absurd rfl (hattach _ _ _)
    | detach => exact absurd rfl (hdetach _ _ _)
  refine ⟨by rw [hworld], ?_⟩
  have hstep := act_attachStep sec s
  generalize (sec.act s).2 = s' at hstep
  cases hstep with
  | idle _ hlog =>
      obtain ⟨evs, hlog, hevs⟩ := hlog
      exact ⟨evs, hlog, fun ev hmem => aside_of_unattached (hevs ev hmem)⟩
  | record => exact absurd rfl (hattach _ _ _)
  | @take lease adapterName _ _ _ hlog =>
      exact ⟨[.attachmentTaken lease adapterName], hlog, by simp [Aside]⟩
  | detach => exact absurd rfl (hdetach _ _ _)

theorem FollowsAttachments.unmoved {s s' : Shared (StoreWorld V)} (h : FollowsAttachments s)
    (hsame : Unmoved s s') (hkept : GrantsKept s s') : FollowsAttachments s' := by
  obtain ⟨evs, hlog, hevs⟩ := hsame.log
  constructor
  · intro k id
    rw [hsame.live, hlog, liveUnder_append hevs]
    exact h.table k id
  · intro k id hlive
    rw [hlog, liveUnder_append hevs] at hlive
    obtain ⟨lease, hmem, hlease⟩ := h.granted k id hlive
    exact ⟨lease, hkept lease hmem, hlease⟩
  · intro a r lease t e ha hmem
    rw [hlog] at hmem
    rcases List.mem_append.mp hmem with hmem | hmem
    · exact hevs _ hmem ha
    · exact h.detached a r lease t e ha hmem

variable {host}

/-- What is attached under the id of a granted lease is attached on its resource. -/
theorem FollowsAttachments.resource_eq {s : Shared (StoreWorld V)} (h : FollowsAttachments s)
    (hleases : LeaseInv s) {lease : Lease} (hgranted : GrantedOn s.log lease) {k : String}
    (hlive : LiveUnder k lease.id s.log) : k = lease.resourceId := by
  obtain ⟨granted, hmem, hid, hresource⟩ := hgranted
  obtain ⟨granted', hmem', hid', hresource'⟩ := h.granted k lease.id hlive
  obtain rfl := hleases.eq_of_id hmem hmem' (hid.trans hid'.symm)
  exact hresource'.symm.trans hresource

/-- The store adapter itself has been asked to attach. -/
theorem FollowsAttachments.callAttach {s : Shared (StoreWorld V)} (h : FollowsAttachments s)
    (hleases : LeaseInv s) {r : Resource} {lease : Lease} (hgranted : GrantedOn s.log lease)
    (hkey : r.id = lease.resourceId) :
    FollowsAttachments (s.callAttach (adapter host) r lease) := by
  have houtcome := attach_outcome host r lease s.world
  unfold Shared.callAttach adapter
  dsimp only
  generalize attach host r lease s.world = outcome at houtcome
  cases houtcome with
  | refused =>
      refine h.unmoved ⟨rfl, [_], rfl, ?_⟩ fun lease hmem => hmem
      intro ev hmem
      obtain rfl := List.mem_singleton.mp hmem
      trivial
  | @attached resolution outside hresolved =>
      have hlive : ∀ k id, LiveUnder k id (.attachCall (adapter host) r lease s.now
          (.ok ⟨r.id, lease.id, name, details resolution⟩) :: s.log) ↔
            (r.id = k ∧ lease.id = id) ∨ LiveUnder k id s.log :=
        fun k id => liveUnder_cons_attached rfl _
      constructor
      · intro k id
        refine Iff.trans ?_ (hlive k id).symm
        dsimp only [Shared.emit]
        rw [Table.getElem?_insert]
        by_cases hid : lease.id = id
        · -- the new entry, in place of one for the same resource
          subst hid
          rw [if_pos rfl, Option.map_some, resolved_id hresolved]
          constructor
          · intro hk
            exact Or.inl ⟨Option.some.inj hk, rfl⟩
          · rintro (⟨hk, -⟩ | hbefore)
            · rw [hk]
            · rw [h.resource_eq hleases hgranted hbefore, hkey]
        · rw [if_neg hid, h.table k id]
          simp [hid]
      · intro k id hafter
        rcases (hlive k id).mp hafter with ⟨hk, hid⟩ | hbefore
        · obtain ⟨granted, hmem, hsame, hresource⟩ := hgranted
          exact ⟨granted, hmem, hsame.trans hid, hresource.trans (hkey.symm.trans hk)⟩
        · exact h.granted k id hbefore
      · intro a r' lease' t e ha hmem
        have hmem := List.mem_cons.mp hmem
        rcases hmem with heq | hmem
        · cases heq
        · exact h.detached a r' lease' t e ha hmem

/-- The store adapter itself has been asked to detach under a lease that was granted. -/
theorem FollowsAttachments.callDetach {s : Shared (StoreWorld V)} (h : FollowsAttachments s)
    (hleases : LeaseInv s) {r : Resource} {lease : Lease} (hgranted : GrantedOn s.log lease)
    (hkey : r.id = lease.resourceId) :
    FollowsAttachments (s.callDetach (adapter host) r lease) := by
  -- the entry is for the resource of the one lease that has the id
  have hown : ∀ resolution, s.world.live[lease.id]? = some resolution →
      resolution.resourceId = r.id := by
    intro resolution hget
    have hlive : LiveUnder resolution.resourceId lease.id s.log := by
      apply (h.table _ _).mp
      rw [hget, Option.map_some]
    rw [h.resource_eq hleases hgranted hlive, hkey]
  have hcall : s.callDetach (adapter host) r lease =
      { s with
          world.live := s.world.live.erase lease.id
        }.emit (.detachCall (adapter host) r lease s.now (.ok ())) := by
    unfold Shared.callDetach adapter
    dsimp only
    rw [detach_own hown]
  have hlive : ∀ k id, LiveUnder k id (.detachCall (adapter host) r lease s.now (.ok ()) ::
      s.log) ↔ ¬ (r.id = k ∧ lease.id = id) ∧ LiveUnder k id s.log :=
    fun k id => liveUnder_cons_detached rfl _
  rw [hcall]
  constructor
  · intro k id
    refine Iff.trans ?_ (hlive k id).symm
    dsimp only [Shared.emit]
    rw [Table.getElem?_erase]
    by_cases hid : lease.id = id
    · subst hid
      rw [if_pos rfl]
      constructor
      · intro hk
        cases hk
      · rintro ⟨hother, hbefore⟩
        rw [h.resource_eq hleases hgranted hbefore, hkey] at hother
        exact absurd ⟨rfl, rfl⟩ hother
    · rw [if_neg hid, h.table k id]
      simp [hid]
  · intro k id hafter
    exact h.granted k id ((hlive k id).mp hafter).2
  · intro a r' lease' t e ha hmem
    rcases List.mem_cons.mp hmem with heq | hmem
    · cases heq
    · exact h.detached a r' lease' t e ha hmem

/-- What every interleaving keeps; the leases, as long as their ids are distinct. -/
structure StoreInv (host : Host V) (s : Shared (StoreWorld V)) : Prop where
  registry : RegistryKeyed s
  latest : RecordedLatest s
  adapters : ∀ (name : String) (a : ResourceAdapter (StoreWorld V)),
    s.fabric.adapters[name]? = some a → Admits host a
  follows : grants s.log < 2 ^ 64 → LeaseInv s ∧ FollowsAttachments s

theorem FollowsAttachments.attach {s : Shared (StoreWorld V)} (h : FollowsAttachments s)
    (hadapters : ∀ (name : String) (a : ResourceAdapter (StoreWorld V)),
      s.fabric.adapters[name]? = some a → Admits host a)
    (hlatest : RecordedLatest s) (hleases : LeaseInv s) {r : Resource} {name : String}
    {lease : Lease} (hkey : r.id = lease.resourceId) :
    FollowsAttachments (Section.act (.attach r name lease) s).2 := by
  have hcalled : ∀ a, s.Attaches name lease a → FollowsAttachments (s.callAttach a r lease) := by
    intro a hattaches
    obtain ⟨active, hrec, -⟩ := hattaches.honours
    have hgranted := hlatest.grantedOn hrec
    rcases hadapters name a hattaches.adapter with rfl | hother
    · exact h.callAttach hleases hgranted hkey
    · refine h.unmoved ⟨hother.attach r lease s.world, [_], rfl, ?_⟩ fun lease hmem => hmem
      intro ev hmem
      obtain rfl := List.mem_singleton.mp hmem
      cases (a.attach r lease s.world).1 with
      | error e => trivial
      | ok x => exact hother.name
  have hrun := attachSection_run r name lease s
  simp only [Section.act]
  generalize attachSection r name lease s = outcome at hrun
  cases hrun with
  | poisoned => exact h
  | unauthorized => exact h
  | unknown => exact h
  | failed hattaches => exact hcalled _ hattaches
  | attached hattaches =>
      refine (hcalled _ hattaches).unmoved ⟨rfl, [_], rfl, ?_⟩ fun lease hmem => hmem
      intro ev hmem
      obtain rfl := List.mem_singleton.mp hmem
      trivial

theorem FollowsAttachments.releaseDetach {s : Shared (StoreWorld V)}
    (h : FollowsAttachments s) (hleases : LeaseInv s)
    (hadapters : ∀ (name : String) (a : ResourceAdapter (StoreWorld V)),
      s.fabric.adapters[name]? = some a → Admits host a)
    {r : Resource} {name : String} {lease : Lease} (hgranted : GrantedOn s.log lease)
    (hkey : r.id = lease.resourceId) :
    FollowsAttachments (Section.act (.releaseDetach r name lease) s).2 := by
  simp only [Section.act, releaseDetachSection]
  split
  · exact h
  · rename_i a hadapter
    rcases hadapters name a hadapter with rfl | hother
    · exact h.callDetach hleases hgranted hkey
    · refine h.unmoved ⟨hother.detach r lease s.world, [_], rfl, ?_⟩ fun lease hmem => hmem
      intro ev hmem
      obtain rfl := List.mem_singleton.mp hmem
      exact hother.name

theorem StoreInv.act {s : Shared (StoreWorld V)} (h : StoreInv host s)
    {sec : Section (StoreWorld V)} (hwanted : sec.Wanted s) (hregisters : Registers host sec) :
    StoreInv host (sec.act s).2 := by
  refine ⟨h.registry.act sec, h.latest.act sec, ?_, ?_⟩
  · refine adapters_act h.adapters ?_
    rintro other rfl
    exact hregisters
  · intro hlt
    have hle := (act_leaseStep sec s).grants_le
    obtain ⟨hleases, hfollows⟩ := h.follows (hle.trans_lt hlt)
    refine ⟨hleases.act sec hlt, ?_⟩
    by_cases hattach : ∃ r name lease, sec = .attach r name lease
    · obtain ⟨r, name, lease, rfl⟩ := hattach
      exact hfollows.attach h.adapters h.latest hleases hwanted
    · by_cases hdetach : ∃ r name lease, sec = .releaseDetach r name lease
      · obtain ⟨r, name, lease, rfl⟩ := hdetach
        exact hfollows.releaseDetach hleases h.adapters hwanted.2 hwanted.1
      · push Not at hattach hdetach
        exact hfollows.unmoved (unmoved_act s hattach hdetach) (grantsKept_act sec s)

theorem StoreInv.fresh {s : Shared (StoreWorld V)} (h : s.Fresh) (hnone : s.world.live = ∅) :
    StoreInv host s := by
  have hfabric := h.1
  have hlog := h.2
  refine ⟨.fresh h, .fresh h, ?_, fun _ => ⟨.fresh h, ?_⟩⟩
  · intro name a ha
    simp [hfabric, Fabric.default] at ha
  · constructor
    · intro k id
      rw [hnone, hlog]
      constructor
      · intro hk
        simp at hk
      · intro hlive
        cases hlive
    · intro k id hlive
      rw [hlog] at hlive
      cases hlive
    · intro a r lease t e _ hmem
      rw [hlog] at hmem
      cases hmem

theorem StoreInv.env {s s' : Shared (StoreWorld V)} (h : StoreInv host s) (he : s.Elapse s')
    (hsame : s'.world.live = s.world.live) : StoreInv host s' := by
  have hfabric : s'.fabric = s.fabric := by rw [he.2]
  have hlog : s'.log = s.log := by rw [he.2]
  refine ⟨h.registry.elapse he, ?_, ?_, ?_⟩
  · intro k active hk
    rw [hfabric] at hk
    rw [hlog]
    exact h.latest k active hk
  · rw [hfabric]
    exact h.adapters
  · rw [hlog]
    intro hlt
    obtain ⟨hleases, hfollows⟩ := h.follows hlt
    refine ⟨hleases.elapse he, hfollows.unmoved ⟨hsame, [], hlog, by simp⟩ ?_⟩
    intro lease hmem
    rwa [hlog]

theorem storeInv_reachable {guard : Section (StoreWorld V) → Shared (StoreWorld V) → Prop}
    {c : Config (@Section.Reply (StoreWorld V)) (Shared (StoreWorld V)) Unit}
    (h : (storeSystem host guard).Reachable c) : StoreInv host c.state := by
  refine (h.carried (StoreInv host) GrantsKept Section.Wanted ?_ ?_ ?_ ?_ ?_ ?_).1
  · exact fun _ _ hmem => hmem
  · exact fun _ _ _ h₁ h₂ lease hmem => h₂ lease (h₁ lease hmem)
  · rintro s ⟨hfresh, hnone⟩
    exact .fresh hfresh hnone
  · rintro p s ⟨op, rfl⟩
    exact call_carries (fun _ hs => hs.registry) (fun _ hs => hs.latest) op s
  · intro sec s hwanted hg hs
    exact ⟨hs.act hwanted hg.1, grantsKept_act sec s⟩
  · rintro s s' ⟨he, hsame⟩ hs
    refine ⟨hs.env he hsame, ?_⟩
    intro lease hmem
    rw [he.2]
    exact hmem

/-- In every interleaving in which the ids of the leases have not wrapped, the store follows
what is attached. -/
theorem follows_attachments {guard : Section (StoreWorld V) → Shared (StoreWorld V) → Prop}
    {c : Config (@Section.Reply (StoreWorld V)) (Shared (StoreWorld V)) Unit}
    (h : (storeSystem host guard).Reachable c) (hlt : grants c.state.log < 2 ^ 64) :
    FollowsAttachments c.state :=
  ((storeInv_reachable h).follows hlt).2

namespace Samples

open Scenario

/-- A host on which every directory can be made. -/
def roomyHost : Host Unit where
  createDirAll _ w := (.ok (), w)
  which _ _ := none

def empty : Shared (StoreWorld Unit) := start ⟨∅, ()⟩

def mission : Lease := ⟨1, "local.store.fabric", "mission-a"⟩

/-- The store of the host is leased and attached. -/
def attachStore : Schedule (StoreWorld Unit) :=
  [.invoke (Op.register (defaultStoreResource "local")).call,
   .invoke (Op.registerAdapter (adapter roomyHost)).call,
   .invoke (Op.leaseExclusive "local.store.fabric" "mission-a" 30).call,
   .invoke (Op.attach "fabric-store" mission).call]

theorem seqReachable_empty
    (guard : Section (StoreWorld Unit) → Shared (StoreWorld Unit) → Prop) :
    (storeSystem roomyHost guard).SeqReachable empty :=
  .init _ ⟨⟨rfl, rfl⟩, rfl⟩

theorem seqSchedule_attachStore :
    (storeSystem roomyHost DetachGuard).SeqSchedule empty attachStore := by
  refine ⟨⟨.register _, rfl⟩, ⟨⟨trivial, trivial⟩, trivial⟩,
    ⟨.registerAdapter _, rfl⟩, ⟨⟨Or.inl rfl, ?_⟩, trivial⟩,
    ⟨.leaseExclusive _ _ _, rfl⟩, ⟨⟨trivial, trivial⟩, ⟨trivial, ?_⟩, ?_⟩,
    ⟨.attach _ _, rfl⟩, ⟨⟨trivial, trivial⟩, ⟨trivial, ?_⟩, ?_⟩, trivial⟩
  · intro a ha
    have ha : (∅ : StringMap (ResourceAdapter (StoreWorld Unit)))["fabric-store"]? = some a := ha
    simp at ha
  · rintro - a ⟨⟩
  · with_unfolding_all trivial
  · intro _ adapter x _ _ a hu
    cases hu with
    | since h => cases h
  · with_unfolding_all trivial

end Samples

open Scenario Samples in
theorem follows_attachments_attached :
    liveCount (afterCalls empty attachStore).world = 1 ∧
      FollowsAttachments (afterCalls empty attachStore) := by
  have hreachable := (seqReachable_empty DetachGuard).schedule seqSchedule_attachStore
  exact ⟨by decide +kernel, follows_attachments hreachable.reachable (by decide +kernel)⟩

end Store

end NautiFabric
