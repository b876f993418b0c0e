import NautiFabric.Store.Adapter

/-!
# NautiFabric.Store.Ended — what a lease leaves in the store

Two ends of a lease. A release that succeeds leaves nothing attached under it
(`released_not_live`). But a lease that has run out is dropped from the lease table by the
next call that prunes it, and no adapter is told; a later release finds no lease. No adapter is
called under it again, and what was attached stays attached for good (`live_kept_of_gone`).
-/

namespace NautiFabric

open Interleave

namespace Store

variable {V : Type} {host : Host V}

/-! ## Released -/

/-- What is attached on the store is attached through an adapter of its name. -/
theorem LiveUnder.undetached {W : Type} {k : String} {id : UInt64} {log : List (Event W)}
    (h : LiveUnder k id log) : ∃ a, a.name = name ∧ Undetached k id a log := by
  induction h with
  | @attached a r lease t x log ha hr hid => exact ⟨a, ha, .attached hr hid⟩
  | since _ hev ih =>
      obtain ⟨a, ha, hundetached⟩ := ih
      refine ⟨a, ha, .since hundetached ?_⟩
      intro r lease t result heq
      exact hev a r lease t result heq ha

theorem detachInv_of_store {s : Shared (StoreWorld V)}
    (h : (storeSystem host DetachGuard).SeqReachable s) : DetachInv s := by
  apply detachInv_seqReachable
  refine System.SeqReachable.mono (S := storeSystem host DetachGuard)
    (T := fabricSystem DetachGuard) rfl ?_ (fun _ hp => hp) ?_ ?_ h
  · exact fun _ hs => hs.1
  · exact fun _ _ he => he.1
  · exact fun _ _ hg => hg.2

/-- The sections of a release are not what the guards restrict. -/
theorem release_guarded (lease : Lease) (s : Shared (StoreWorld V)) :
    (release lease).ignore.Guarded Section.act (storeSystem host DetachGuard).guard s := by
  have hsound : (release lease).Sound Section.act (fun _ : Shared (StoreWorld V) => True)
      (fun sec => ∀ s, (storeSystem host DetachGuard).guard sec s) :=
    release_sound (fun _ => ⟨trivial, trivial⟩) (fun _ => ⟨trivial, trivial⟩)
      (fun _ => ⟨trivial, trivial⟩) (fun _ _ _ _ _ _ => ⟨trivial, trivial⟩)
      fun _ => ⟨trivial, trivial⟩
  have hcall : (release lease).ignore.Sound Section.act (fun _ : Shared (StoreWorld V) => True)
      (fun sec => ∀ s, (storeSystem host DetachGuard).guard sec s) := hsound.bind fun _ => trivial
  exact hcall.guarded (fun _ _ hg => hg _) s

/-- In every sequential run under the guard, a release that succeeds leaves no attachment of
the store under its lease. -/
theorem released_not_live {s : Shared (StoreWorld V)}
    (h : (storeSystem host DetachGuard).SeqReachable s) {lease : Lease}
    (hlt : grants ((release lease).run Section.act s).2.log < 2 ^ 64)
    (hok : ((release lease).run Section.act s).1 = some (.ok ())) :
    lease.id ∉ ((release lease).run Section.act s).2.world.live := by
  have hcall : ((release lease).ignore.run Section.act s).2 =
      ((release lease).run Section.act s).2 := Prog.run_bind_done Section.act (release lease) _ s
  have hafter : (storeSystem host DetachGuard).SeqReachable
      ((release lease).run Section.act s).2 := by
    rw [← hcall]
    exact h.step (.call _ ⟨.release lease, rfl⟩ (release_guarded lease s))
  obtain ⟨hleases, hfollows⟩ := (storeInv_reachable hafter.reachable).follows hlt
  have hinv := detachInv_of_store h
  rcases (release_run lease s).none_undetached hinv with ⟨-, hnot⟩ | ⟨⟨active, hrec⟩, hnone⟩
  · exact absurd hok hnot
  · intro hmem
    have hgranted : GrantedOn ((release lease).run Section.act s).2.log lease := by
      have hlatest := (release_run lease s).frame.latest lease.resourceId
      obtain ⟨hgrant, hid⟩ := hinv.latest.of_recorded hrec
      rw [← hlatest] at hgrant
      have hresource : active.lease.resourceId = lease.resourceId := by
        simpa using List.find?_some hgrant
      exact ⟨active.lease, List.mem_of_find?_eq_some hgrant, hid, hresource⟩
    obtain ⟨resolution, hget⟩ :=
      Option.isSome_iff_exists.mp (Std.ExtTreeMap.mem_iff_isSome_getElem?.mp hmem)
    have hlive : LiveUnder resolution.resourceId lease.id
        ((release lease).run Section.act s).2.log := by
      apply (hfollows.table _ _).mp
      rw [hget, Option.map_some]
    rw [hfollows.resource_eq hleases hgranted hlive] at hlive
    obtain ⟨a, -, hundetached⟩ := hlive.undetached
    exact hnone a hundetached

open Scenario Samples in
theorem released_not_live_store :
    liveCount (afterCalls empty attachStore).world = 1 ∧
      mission.id ∉
        ((release mission).run Section.act (afterCalls empty attachStore)).2.world.live := by
  have hreachable := (seqReachable_empty DetachGuard).schedule seqSchedule_attachStore
  have hok : ((release mission).run Section.act (afterCalls empty attachStore)).1 =
      some (.ok ()) := by with_unfolding_all rfl
  exact ⟨by decide +kernel, released_not_live hreachable (by decide +kernel) hok⟩

/-! ## Dropped -/

/-- The lease was granted, and is recorded no more. -/
def Gone {W : Type} (s : Shared W) (lease : Lease) : Prop :=
  lease ∈ grantedLeases s.log ∧ s.recorded? lease = none

section Gone

variable {W : Type} {s : Shared W} {lease : Lease}

/-- No lease that is presented with the id is recorded. -/
theorem Gone.not_recorded (h : Gone s lease) (hleases : LeaseInv s) {presented : Lease}
    (hid : presented.id = lease.id) : s.recorded? presented = none := by
  rw [Option.eq_none_iff_forall_ne_some]
  intro active hrec
  obtain ⟨hactive, hsame⟩ := recorded?_eq_some.mp hrec
  obtain ⟨hkey, hmem⟩ := hleases.recorded _ active hactive
  obtain hlease : active.lease = lease := hleases.eq_of_id hmem h.1 (hsame.trans hid)
  have hrecorded : s.recorded? lease = some active := by
    refine recorded?_eq_some.mpr ⟨?_, by rw [hlease]⟩
    rw [← hlease, hkey]
    exact hactive
  rw [h.2] at hrecorded
  cases hrecorded

/-- An id is not granted again. -/
theorem Gone.act (h : Gone s lease) (hleases : LeaseInv s) (sec : Section W)
    (hlt : grants (sec.act s).2.log < 2 ^ 64) : Gone (sec.act s).2 lease := by
  have hstep := act_leaseStep sec s
  refine ⟨hstep.mem_granted h.1, ?_⟩
  rw [Option.eq_none_iff_forall_ne_some]
  intro active' hrec
  obtain ⟨hactive, hid⟩ := recorded?_eq_some.mp hrec
  rcases hstep.recorded_cases hactive with ⟨active, hbefore, hsame⟩ | ⟨-, hgranted⟩
  · have hrecorded : s.recorded? lease = some active :=
      recorded?_eq_some.mpr ⟨hbefore, by rw [hsame]; exact hid⟩
    rw [h.2] at hrecorded
    cases hrecorded
  · obtain ⟨-, hnodup, -⟩ := hleases.ids_step hstep hlt
    rw [hgranted, List.map_cons, List.nodup_cons] at hnodup
    exact hnodup.1 (List.mem_map.mpr ⟨lease, h.1, hid.symm⟩)

end Gone

/-- An adapter was called under the id. -/
def CallsUnder {W : Type} (id : UInt64) : Event W → Prop
  | .attachCall _ _ lease _ _ => lease.id = id
  | .detachCall _ _ lease _ _ => lease.id = id
  | _ => False

/-- What the store holds under the lease is as before, and no adapter was called under it. -/
structure Untouched (lease : Lease) (s s' : Shared (StoreWorld V)) : Prop where
  entry : s'.world.live[lease.id]? = s.world.live[lease.id]?
  log : ∃ evs, s'.log = evs ++ s.log ∧ ∀ ev ∈ evs, ¬ CallsUnder lease.id ev

section Untouched

variable {lease : Lease} {s s' s'' : Shared (StoreWorld V)}

theorem Untouched.of_same (hworld : s'.world.live = s.world.live) (hlog : s'.log = s.log) :
    Untouched lease s s' :=
  ⟨by rw [hworld], [], hlog, by simp⟩

theorem Untouched.trans (h : Untouched lease s s') (h' : Untouched lease s' s'') :
    Untouched lease s s'' := by
  obtain ⟨evs, hlog, hevs⟩ := h.log
  obtain ⟨evs', hlog', hevs'⟩ := h'.log
  refine ⟨h'.entry.trans h.entry, evs' ++ evs, by rw [hlog', hlog, List.append_assoc], ?_⟩
  intro ev hev
  rcases List.mem_append.mp hev with hev | hev
  · exact hevs' ev hev
  · exact hevs ev hev

/-- A section that calls no adapter. -/
theorem untouched_act {sec : Section (StoreWorld V)} (s : Shared (StoreWorld V))
    (hattach : ∀ r name lease, sec ≠ .attach r name lease)
    (hdetach : ∀ r name lease, sec ≠ .releaseDetach r name lease) :
    Untouched lease s (sec.act s).2 := by
  refine ⟨by rw [(unmoved_act s hattach hdetach).live], ?_⟩
  have hworld := act_worldStep sec s
  have hentries := act_attachStep sec s
  generalize (sec.act s).2 = s' at hworld hentries
  -- the one says that nothing was attached, the other that nothing was detached
  obtain ⟨evs, hlog, hevs⟩ : ∃ evs, s'.log = evs ++ s.log ∧ ∀ ev ∈ evs, ev.NoAttach := by
    cases hworld with
    | still h => exact h.2
    | attach => exact absurd rfl (hattach _ _ _)
    | detach => exact absurd rfl (hdetach _ _ _)
  refine ⟨evs, hlog, fun ev hmem => ?_⟩
  have hev := hevs ev hmem
  cases hentries with
  | idle _ hidle =>
      obtain ⟨evs', hlog', hevs'⟩ := hidle
      rw [hlog] at hlog'
      obtain rfl := List.append_cancel_right hlog'
      have hunattached := hevs' ev hmem
      cases ev with
      | attachCall => exact hev.elim
      | detachCall => exact hunattached.elim
      | _ => exact id
  | record => exact absurd rfl (hattach _ _ _)
  | @take lease adapterName _ _ _ htaken =>
      rw [hlog] at htaken
      obtain rfl : evs = [.attachmentTaken lease adapterName] :=
        List.append_cancel_right htaken
      obtain rfl := List.mem_singleton.mp hmem
      exact id
  | detach => exact absurd rfl (hdetach _ _ _)

end Untouched

/-- The lease is recorded no more, and nothing has touched it since `s₀`. -/
structure LeftWith (host : Host V) (lease : Lease) (s₀ s : Shared (StoreWorld V)) : Prop where
  adapters : ∀ (name : String) (a : ResourceAdapter (StoreWorld V)),
    s.fabric.adapters[name]? = some a → Admits host a
  gone : grants s.log < 2 ^ 64 → LeaseInv s ∧ Gone s lease
  untouched : grants s.log < 2 ^ 64 → Untouched lease s₀ s

section LeftWith

variable {lease : Lease} {s₀ s : Shared (StoreWorld V)}

/-- A section that leaves the lease alone. -/
theorem LeftWith.step (h : LeftWith host lease s₀ s) {sec : Section (StoreWorld V)}
    (hregisters : Registers host sec)
    (huntouched : LeaseInv s → Gone s lease → Untouched lease s (sec.act s).2) :
    LeftWith host lease s₀ (sec.act s).2 := by
  have hle := (act_leaseStep sec s).grants_le
  refine ⟨?_, ?_, ?_⟩
  · refine adapters_act h.adapters ?_
    rintro other rfl
    exact hregisters
  · intro hlt
    obtain ⟨hleases, hgone⟩ := h.gone (hle.trans_lt hlt)
    exact ⟨hleases.act sec hlt, hgone.act hleases sec hlt⟩
  · intro hlt
    obtain ⟨hleases, hgone⟩ := h.gone (hle.trans_lt hlt)
    exact (h.untouched (hle.trans_lt hlt)).trans (huntouched hleases hgone)

/-- Attaching under another lease. -/
theorem getElem?_callAttach {a : ResourceAdapter (StoreWorld V)} (ha : Admits host a)
    (r : Resource) {presented : Lease} (hne : presented.id ≠ lease.id) :
    (a.attach r presented s.world).2.live[lease.id]? = s.world.live[lease.id]? := by
  rcases ha with rfl | hother
  · have houtcome := attach_outcome host r presented s.world
    dsimp only [adapter]
    generalize attach host r presented s.world = outcome at houtcome
    cases houtcome with
    | refused => rfl
    | attached =>
        dsimp only
        rw [Table.getElem?_insert, if_neg hne]
  · rw [hother.attach]

/-- Detaching under another lease. -/
theorem getElem?_callDetach {a : ResourceAdapter (StoreWorld V)} (ha : Admits host a)
    (r : Resource) {presented : Lease} (hne : presented.id ≠ lease.id) :
    (a.detach r presented s.world).2.live[lease.id]? = s.world.live[lease.id]? := by
  rcases ha with rfl | hother
  · exact getElem?_detach_of_ne hne
  · rw [hother.detach]

theorem LeftWith.attach (h : LeftWith host lease s₀ s) (r : Resource) (name : String)
    (presented : Lease) :
    LeftWith host lease s₀ (Section.act (.attach r name presented) s).2 := by
  refine h.step trivial ?_
  intro hleases hgone
  have hcalled : ∀ a, s.Attaches name presented a →
      Untouched lease s (s.callAttach a r presented) := by
    intro a hattaches
    have hne : presented.id ≠ lease.id := by
      intro hid
      obtain ⟨active, hrec, -⟩ := hattaches.honours
      rw [hgone.not_recorded hleases hid] at hrec
      cases hrec
    exact ⟨getElem?_callAttach (h.adapters name a hattaches.adapter) r hne, [_], rfl,
      by simpa [CallsUnder] using hne⟩
  have hrun := attachSection_run r name presented s
  simp only [Section.act]
  generalize attachSection r name presented s = outcome at hrun
  cases hrun with
  | poisoned => exact .of_same rfl rfl
  | unauthorized => exact .of_same rfl rfl
  | unknown => exact .of_same rfl rfl
  | failed hattaches => exact hcalled _ hattaches
  | attached hattaches => exact (hcalled _ hattaches).trans ⟨rfl, [_], rfl, by simp [CallsUnder]⟩

/-- A release under the id finds no lease, so it comes to no adapter. -/
theorem LeftWith.release (h : LeftWith host lease s₀ s) (presented : Lease) :
    LeftWith host lease s₀ ((NautiFabric.release presented).run Section.act s).2 := by
  have hsections : (NautiFabric.release presented).Leaves Section.act (fun _ _ => True)
      (fun s' => (∀ (name : String) (a : ResourceAdapter (StoreWorld V)),
        s'.fabric.adapters[name]? = some a → Admits host a) ∧ grants s.log ≤ grants s'.log ∧
          (grants s'.log < 2 ^ 64 → LeaseInv s' ∧ Gone s' lease)) s := by
    have hsound : (NautiFabric.release presented).Sound Section.act
        (fun _ : Shared (StoreWorld V) => True) (fun sec => Registers host sec) :=
      release_sound trivial trivial trivial (fun _ _ _ _ _ => trivial) trivial
    refine hsound.leaves ?_ (fun _ _ => trivial) ⟨h.adapters, le_rfl, h.gone⟩
    rintro sec s' hregisters ⟨hadapters, hle', hgone'⟩
    have hle := (act_leaseStep sec s').grants_le
    refine ⟨adapters_act hadapters ?_, hle'.trans hle, ?_⟩
    · rintro other rfl
      exact hregisters
    · intro hlt
      obtain ⟨hleases, hgone⟩ := hgone' (hle.trans_lt hlt)
      exact ⟨hleases.act sec hlt, hgone.act hleases sec hlt⟩
  obtain ⟨hadapters, hle, hgone⟩ :=
    hsections (Prog.guarded_of_forall (fun _ _ => trivial) _ _)
  refine ⟨hadapters, hgone, ?_⟩
  intro hlt
  obtain ⟨hleases, hgone⟩ := h.gone (hle.trans_lt hlt)
  refine (h.untouched (hle.trans_lt hlt)).trans ?_
  -- where the adapter is called, the presented lease is recorded
  have hdetached : ∀ active name r a, s.Detaches presented active name r a →
      Untouched lease s ((s.takeEntry presented name).callDetach a r presented) := by
    intro active name r a hdetaches
    have hne : presented.id ≠ lease.id := by
      intro hid
      have hrec := hdetaches.recorded
      rw [hgone.not_recorded hleases hid] at hrec
      cases hrec
    exact ⟨getElem?_callDetach (h.adapters name a hdetaches.adapter) r hne, [_, _], rfl,
      by simpa [CallsUnder] using hne⟩
  have hrun := release_run presented s
  generalize (NautiFabric.release presented).run Section.act s = outcome at hrun
  cases hrun with
  | poisoned => exact .of_same rfl rfl
  | refused => exact .of_same rfl rfl
  | unattached => exact ⟨rfl, [_], rfl, by simp [CallsUnder]⟩
  | dangling => exact ⟨rfl, [_, _], rfl, by simp [CallsUnder]⟩
  | failed hdetaches => exact hdetached _ _ _ _ hdetaches
  | detached hdetaches =>
      exact (hdetached _ _ _ _ hdetaches).trans ⟨rfl, [_], rfl, by simp [CallsUnder]⟩

theorem LeftWith.env (h : LeftWith host lease s₀ s) {s' : Shared (StoreWorld V)}
    (he : s.Elapse s') (hsame : s'.world.live = s.world.live) :
    LeftWith host lease s₀ s' := by
  have hfabric : s'.fabric = s.fabric := by rw [he.2]
  have hlog : s'.log = s.log := by rw [he.2]
  refine ⟨?_, ?_, ?_⟩
  · rw [hfabric]
    exact h.adapters
  · rw [hlog]
    intro hlt
    obtain ⟨hleases, hmem, hrec⟩ := h.gone hlt
    refine ⟨hleases.elapse he, ?_, ?_⟩
    · rw [hlog]
      exact hmem
    · rw [he.2]
      exact hrec
  · rw [hlog]
    exact fun hlt => (h.untouched hlt).trans (.of_same hsame hlog)

/-- Every call leaves the lease alone. -/
theorem leftWith_call {guard : Section (StoreWorld V) → Shared (StoreWorld V) → Prop}
    (op : Op (StoreWorld V)) :
    Keeps (storeSystem host guard).guard (LeftWith host lease s₀) op.call := by
  refine call_keeps ?_ ?_ ?_ op
  · intro sec s hplain hg _ h
    refine h.step hg.1 fun _ _ => untouched_act s ?_ ?_
    · rintro r name lease rfl
      exact hplain trivial
    · rintro r name lease rfl
      exact hplain trivial
  · intro name presented
    refine keeps_attach ?_
    intro s r h _ _
    exact h.attach r name presented
  · intro presented s h _
    exact h.release presented

end LeftWith

/-- In sequential runs, what the store holds under a lease that is recorded no more, it holds
for good, and no adapter is called under that lease again. -/
theorem live_kept_of_gone {guard : Section (StoreWorld V) → Shared (StoreWorld V) → Prop}
    {s s' : Shared (StoreWorld V)} (h : (storeSystem host guard).SeqReachable s) {lease : Lease}
    (hgone : Gone s lease) (hsteps : Relation.ReflTransGen (storeSystem host guard).SeqStep s s')
    (hlt : grants s'.log < 2 ^ 64) :
    s'.world.live[lease.id]? = s.world.live[lease.id]? ∧
      ∃ evs, s'.log = evs ++ s.log ∧ ∀ ev ∈ evs, ¬ CallsUnder lease.id ev := by
  have hinv := storeInv_reachable h.reachable
  have hleft : LeftWith host lease s s :=
    ⟨hinv.adapters, fun hlt => ⟨(hinv.follows hlt).1, hgone⟩, fun _ => .of_same rfl rfl⟩
  have hafter : LeftWith host lease s s' := by
    clear hlt
    induction hsteps with
    | refl => exact hleft
    | tail _ hstep ih =>
        cases hstep with
        | call p hp hg =>
            obtain ⟨op, rfl⟩ := hp
            exact leftWith_call op _ ih hg
        | env he => exact ih.env he.1 he.2
  exact ⟨(hafter.untouched hlt).entry, (hafter.untouched hlt).log⟩

namespace Samples

open Scenario

/-- The lease runs out, and the store is leased to another. -/
def outlive : Schedule (StoreWorld Unit) :=
  [.env (wait 40), .invoke (Op.leaseExclusive "local.store.fabric" "mission-b" 30).call]

/-- The first lease is presented for release, and then the second one. -/
def releaseBoth : Schedule (StoreWorld Unit) :=
  [.invoke (Op.release mission).call,
   .invoke (Op.release ⟨2, "local.store.fabric", "mission-b"⟩).call]

theorem seqSchedule_outlive :
    (storeSystem roomyHost DetachGuard).SeqSchedule (afterCalls empty attachStore) outlive := by
  refine ⟨⟨elapse_wait 40 _, rfl⟩,
    ⟨.leaseExclusive _ _ _, rfl⟩, ⟨⟨trivial, trivial⟩, ⟨trivial, ?_⟩, ?_⟩, trivial⟩
  · intro _ a hundetached
    -- what is attached is attached under the first lease
    have hfirst : ∀ id, Undetached "local.store.fabric" id a
        (afterCalls empty attachStore).log → id = 1 := by
      intro id h
      cases h with
      | since h =>
          cases h with
          | attached _ hid => exact hid.symm
          | since h =>
              cases h with
              | since h => cases h
    have hid : (2 : UInt64) = 1 := hfirst 2 hundetached
    exact absurd hid (by decide)
  · with_unfolding_all trivial

end Samples

open Scenario Samples in
/-- An attachment outlives its lease, and every release that is tried. -/
theorem live_kept_of_gone_expired :
    ((afterCalls (afterCalls empty attachStore) outlive).world.live[mission.id]?).isSome ∧
      (afterCalls (afterCalls (afterCalls empty attachStore) outlive)
          releaseBoth).world.live[mission.id]? =
        (afterCalls (afterCalls empty attachStore) outlive).world.live[mission.id]? := by
  have hattached := (seqReachable_empty DetachGuard).schedule seqSchedule_attachStore
  have hgone : Gone (afterCalls (afterCalls empty attachStore) outlive) mission :=
    ⟨by decide +kernel, by decide +kernel⟩
  have hsteps : Relation.ReflTransGen (storeSystem roomyHost DetachGuard).SeqStep
      (afterCalls (afterCalls empty attachStore) outlive)
      (afterCalls (afterCalls (afterCalls empty attachStore) outlive) releaseBoth) :=
    (Relation.ReflTransGen.single
      (.call _ ⟨.release mission, rfl⟩ (release_guarded mission _))).tail
      (.call _ ⟨.release _, rfl⟩ (release_guarded _ _))
  exact ⟨by decide +kernel,
    (live_kept_of_gone (hattached.schedule seqSchedule_outlive) hgone hsteps
      (by decide +kernel)).1⟩

end Store

end NautiFabric
