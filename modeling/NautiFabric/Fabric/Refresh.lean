import NautiFabric.Fabric.Eviction

/-!
# NautiFabric.Fabric.Refresh — rediscovering the local host

`refresh_local` compares ids: what discovery finds under a new id is
registered, what it finds no more is unregistered unless it is leased, and an
id on both sides is left as it is. `refreshLocal_run` says what one refresh
does from any state. The report accounts for every id (`RefreshAccounts`), but
a device that keeps its id and changes its contents keeps its old entry.
-/

namespace NautiFabric

open Interleave

variable {W : Type}

/-! ## Registering and unregistering lists -/

/-- The state with the resources registered, one after the other. -/
def Shared.registerAll (s : Shared W) (rs : List Resource) : Shared W :=
  { s with fabric.resources := rs.foldl (fun m r => m.insert r.id r) s.fabric.resources }

theorem getElem?_registerAll (s : Shared W) (rs : List Resource) (id : String) :
    (s.registerAll rs).fabric.resources[id]? =
      (rs.reverse.find? fun r => r.id = id).or s.fabric.resources[id]? := by
  have hget := Table.getElem?_foldl_insert (fun r : Resource => r.id) (fun r => r) rs
    s.fabric.resources id
  rw [Option.map_id'] at hget
  exact hget

theorem registerEach_run (rs : List Resource) (s : Shared W) :
    (registerEach rs).run Section.act s = (some (), s.registerAll rs) := by
  induction rs generalizing s with
  | nil => rfl
  | cons r rs ih => exact ih { s with fabric.resources := s.fabric.resources.insert r.id r }

theorem discoverLocal_run (resources : List Resource) (s : Shared W) :
    (discoverLocal resources).run Section.act s = (some resources, s.registerAll resources) :=
  Prog.run_bind_some (registerEach_run resources s)

/-- The removal loop: what is leased is blocked, the rest is removed. -/
theorem unregisterGone_run {s : Shared W} (hp : s.fabric.leases.poisoned = false)
    {ids : List String} (hnodup : ids.Nodup) (hmem : ∀ id ∈ ids, id ∈ s.fabric.resources) :
    (unregisterGone ids).run Section.act s =
      (some (ids.filter fun id => id ∉ s.fabric.leases.val,
        ids.filter fun id => id ∈ s.fabric.leases.val), s.dropFree ids) := by
  induction ids generalizing s with
  | nil => rw [dropFree_nil]; rfl
  | cons id ids ih =>
      obtain ⟨hid, hnodup⟩ := List.nodup_cons.mp hnodup
      have hrest : ∀ id' ∈ ids, id' ∈ s.fabric.resources := fun id' h => hmem id' (by simp [h])
      by_cases hleased : id ∈ s.fabric.leases.val
      · refine (Prog.run_bind_some (unregister_run_leased hp hleased)).trans ?_
        refine (Prog.run_bind_some (ih hp hnodup hrest)).trans ?_
        rw [dropFree_cons_of_leased hleased]
        simp [hleased, Prog.run, pure]
      · have hregistered : id ∈ s.fabric.resources := hmem id (by simp)
        refine (Prog.run_bind_some (unregister_run_free hp hleased)).trans ?_
        -- the other ids are still registered
        have hothers : ∀ id' ∈ ids, id' ∈ s.fabric.resources.erase id := by
          intro id' hid'
          have hne : id ≠ id' := fun heq => hid (heq ▸ hid')
          exact Std.ExtTreeMap.mem_erase.mpr ⟨by simpa using hne, hrest id' hid'⟩
        have hloop := ih (s := { s with fabric.resources := s.fabric.resources.erase id }) hp
          hnodup hothers
        refine (Prog.run_bind_some hloop).trans ?_
        rw [dropFree_cons_of_free hleased]
        simp [hleased, hregistered, Prog.run, pure]

theorem unregisterGone_run_poisoned {s : Shared W} (hp : s.fabric.leases.poisoned = true)
    {ids : List String} (hne : ids ≠ []) :
    (unregisterGone ids).run Section.act s = (none, s) := by
  cases ids with
  | nil => exact absurd rfl hne
  | cons id ids => exact Prog.run_bind_none (unregister_run_poisoned hp id)

/-! ## One refresh -/

/-- The ids that discovery finds. -/
def discoveredIds (discovered : List Resource) : StringMap Unit :=
  discovered.foldl (fun ids r => ids.insert r.id ()) ∅

theorem mem_discoveredIds {discovered : List Resource} {id : String} :
    id ∈ discoveredIds discovered ↔ ∃ d ∈ discovered, d.id = id := by
  have hget := Table.getElem?_foldl_insert (fun r : Resource => r.id) (fun _ => ()) discovered
    (∅ : StringMap Unit) id
  rw [Std.ExtTreeMap.mem_iff_isSome_getElem?, discoveredIds, hget]
  simp

/-- The ids that a refresh adds. -/
def Shared.newIds (s : Shared W) (discovered : List Resource) : List String :=
  (discoveredIds discovered).keys.filter fun id => id ∉ s.fabric.resources.keys

/-- The ids that a refresh finds no more. -/
def Shared.goneIds (s : Shared W) (discovered : List Resource) : List String :=
  s.fabric.resources.keys.filter fun id => id ∉ discoveredIds discovered

theorem mem_newIds {s : Shared W} {discovered : List Resource} {id : String} :
    id ∈ s.newIds discovered ↔ id ∈ discoveredIds discovered ∧ id ∉ s.fabric.resources := by
  simp [Shared.newIds]

theorem mem_goneIds {s : Shared W} {discovered : List Resource} {id : String} :
    id ∈ s.goneIds discovered ↔ id ∈ s.fabric.resources ∧ id ∉ discoveredIds discovered := by
  simp [Shared.goneIds]

/-- The state with the new resources registered. -/
def Shared.registerNew (s : Shared W) (discovered : List Resource) : Shared W :=
  s.registerAll (discovered.filter fun r => r.id ∈ s.newIds discovered)

/-- A refresh registers nothing under an id that is registered or not discovered. -/
theorem getElem?_registerNew_of_not_new {s : Shared W} {discovered : List Resource} {id : String}
    (h : id ∉ s.newIds discovered) :
    (s.registerNew discovered).fabric.resources[id]? = s.fabric.resources[id]? := by
  have hnone : ((discovered.filter fun r => r.id ∈ s.newIds discovered).reverse.find?
      fun r => r.id = id) = none := by
    rw [List.find?_eq_none]
    intro r hr hid
    obtain ⟨-, hnew⟩ := List.mem_filter.mp (List.mem_reverse.mp hr)
    have hid : r.id = id := by simpa using hid
    exact h (by simpa [hid] using hnew)
  rw [Shared.registerNew, getElem?_registerAll, hnone, Option.none_or]

/-- Under a new id the last discovered resource with that id is registered. -/
theorem getElem?_registerNew_of_new {s : Shared W} {discovered : List Resource} {id : String}
    (h : id ∈ s.newIds discovered) : ∃ d ∈ discovered, d.id = id ∧
      (s.registerNew discovered).fabric.resources[id]? = some d := by
  obtain ⟨hfound, -⟩ := mem_newIds.mp h
  obtain ⟨d, hd, hid⟩ := mem_discoveredIds.mp hfound
  have hsome : ((discovered.filter fun r => r.id ∈ s.newIds discovered).reverse.find?
      fun r => r.id = id).isSome := by
    rw [List.find?_isSome]
    refine ⟨d, List.mem_reverse.mpr (List.mem_filter.mpr ⟨hd, ?_⟩), by simpa using hid⟩
    simpa [hid] using h
  obtain ⟨last, hlast⟩ := Option.isSome_iff_exists.mp hsome
  have hmem := List.mem_of_find?_eq_some hlast
  refine ⟨last, (List.mem_filter.mp (List.mem_reverse.mp hmem)).1, ?_, ?_⟩
  · simpa using List.find?_some hlast
  · rw [Shared.registerNew, getElem?_registerAll, hlast, Option.some_or]

theorem mem_registerNew {s : Shared W} {discovered : List Resource} {id : String} :
    id ∈ (s.registerNew discovered).fabric.resources ↔
      id ∈ s.fabric.resources ∨ id ∈ discoveredIds discovered := by
  by_cases hnew : id ∈ s.newIds discovered
  · obtain ⟨d, -, -, hget⟩ := getElem?_registerNew_of_new hnew
    have hmem := StringMap.mem_of_getElem? hget
    simp [hmem, (mem_newIds.mp hnew).1]
  · have hget := getElem?_registerNew_of_not_new hnew
    have hiff : id ∈ (s.registerNew discovered).fabric.resources ↔ id ∈ s.fabric.resources := by
      rw [Std.ExtTreeMap.mem_iff_isSome_getElem?, hget, ← Std.ExtTreeMap.mem_iff_isSome_getElem?]
    rw [hiff]
    constructor
    · exact Or.inl
    · rintro (hmem | hfound)
      · exact hmem
      · by_contra hmem
        exact hnew (mem_newIds.mpr ⟨hfound, hmem⟩)

/-- A refresh from any state. It panics on a poisoned lease mutex as soon as there
is a resource to unregister; the new resources are registered by then. -/
theorem refreshLocal_run (discovered : List Resource) (s : Shared W) :
    (refreshLocal discovered).run Section.act s =
      let gone := s.goneIds discovered
      if s.fabric.leases.poisoned = true ∧ gone ≠ [] then (none, s.registerNew discovered)
      else (some ⟨s.newIds discovered, gone.filter fun id => id ∉ s.fabric.leases.val,
          gone.filter fun id => id ∈ s.fabric.leases.val⟩,
        (s.registerNew discovered).dropFree gone) := by
  have hids : Section.act .resourceIds s = (some s.fabric.resources.keys, s) := rfl
  rw [refreshLocal, atomically, Prog.perform_bind, Prog.run_atomic_some hids]
  refine (Prog.run_bind_some (registerEach_run _ s)).trans ?_
  change Prog.run Section.act ((unregisterGone (s.goneIds discovered)).bind _)
    (s.registerNew discovered) = _
  have hgone : ∀ id ∈ s.goneIds discovered, id ∈ (s.registerNew discovered).fabric.resources :=
    fun id hid => mem_registerNew.mpr (Or.inl (mem_goneIds.mp hid).1)
  have hnodup : (s.goneIds discovered).Nodup := Std.ExtTreeMap.nodup_keys.filter _
  generalize s.goneIds discovered = gone at hgone hnodup ⊢
  dsimp only
  -- a poisoned lease mutex is noticed by the first `unregister`, if there is one
  rcases Bool.eq_false_or_eq_true s.fabric.leases.poisoned with hp | hp
  · by_cases hnil : gone = []
    · subst hnil
      rw [if_neg (by simp), dropFree_nil]
      rfl
    · rw [if_pos ⟨hp, hnil⟩]
      have hp' : (s.registerNew discovered).fabric.leases.poisoned = true := hp
      exact Prog.run_bind_none (unregisterGone_run_poisoned hp' hnil)
  · rw [if_neg (by simp [hp])]
    have hp' : (s.registerNew discovered).fabric.leases.poisoned = false := hp
    exact Prog.run_bind_some (unregisterGone_run hp' hnodup hgone)

/-! ## What the registry holds after a refresh -/

/-- Every discovered resource is registered as it was discovered. -/
def Reflects (discovered : List Resource) (s : Shared W) : Prop :=
  ∀ d ∈ discovered, s.fabric.resources[d.id]? = some d

/-- What is still discovered is not unregistered. -/
theorem getElem?_refresh_of_discovered {discovered : List Resource} {id : String}
    (h : id ∈ discoveredIds discovered) (s : Shared W) :
    ((refreshLocal discovered).run Section.act s).2.fabric.resources[id]? =
      (s.registerNew discovered).fabric.resources[id]? := by
  rw [refreshLocal_run]
  dsimp only
  split
  · rfl
  · rw [getElem?_dropFree, if_neg]
    rintro ⟨hgone, -⟩
    exact (mem_goneIds.mp hgone).2 h

/-- A refresh reflects the host exactly when no discovered id was registered with
other contents. -/
theorem refreshLocal_reflects_iff {discovered : List Resource}
    (hids : (discovered.map Resource.id).Nodup) (s : Shared W) :
    Reflects discovered ((refreshLocal discovered).run Section.act s).2 ↔
      ∀ d ∈ discovered, ∀ r, s.fabric.resources[d.id]? = some r → r = d := by
  have hfound : ∀ d ∈ discovered, d.id ∈ discoveredIds discovered :=
    fun d hd => mem_discoveredIds.mpr ⟨d, hd, rfl⟩
  constructor
  · intro hreflects d hd r hr
    have hold : d.id ∉ s.newIds discovered := by
      intro hnew
      exact (mem_newIds.mp hnew).2 (StringMap.mem_of_getElem? hr)
    have hget := hreflects d hd
    rw [getElem?_refresh_of_discovered (hfound d hd), getElem?_registerNew_of_not_new hold,
      hr] at hget
    exact Option.some.inj hget
  · intro hsame d hd
    rw [getElem?_refresh_of_discovered (hfound d hd)]
    -- what is new is entered as it was discovered; what is old is left as it was
    by_cases hnew : d.id ∈ s.newIds discovered
    · obtain ⟨d', hd', hid, hget⟩ := getElem?_registerNew_of_new hnew
      have heq : d' = d := List.inj_on_of_nodup_map hids hd' hd hid
      rw [hget, heq]
    · rw [getElem?_registerNew_of_not_new hnew]
      have hmem : d.id ∈ s.fabric.resources := by
        by_contra hmem
        exact hnew (mem_newIds.mpr ⟨hfound d hd, hmem⟩)
      obtain ⟨r, hr⟩ := StringMap.exists_getElem? hmem
      rw [hr, hsame d hd r hr]

namespace Scenario

/-- The card in the slot of the device, after a swap. -/
def swapped : Resource := { device with capacity := 2 }

end Scenario

open Scenario in
theorem refreshLocal_reflects_same :
    Reflects [device] ((refreshLocal [device]).run Section.act
      (afterCalls (start ()) [.invoke (Op.register device).call])).2 := by
  refine (refreshLocal_reflects_iff (by simp) _).mpr ?_
  intro d hd r hr
  obtain rfl := List.mem_singleton.mp hd
  have hget : (afterCalls (start ())
      [.invoke (Op.register device).call]).fabric.resources[device.id]? = some device := by
    decide +kernel
  exact Option.some.inj (hr.symm.trans hget)

open Scenario in
/-- A card swapped for another one in the same slot keeps its old entry. -/
theorem swapped_card_stale :
    ¬ ∀ (s : Shared Unit) (discovered : List Resource), (discovered.map Resource.id).Nodup →
      Reflects discovered ((refreshLocal discovered).run Section.act s).2 := by
  intro h
  have hget := h (afterCalls (start ()) [.invoke (Op.register device).call]) [swapped] (by simp)
    swapped (by simp)
  have hold : ((refreshLocal [swapped]).run Section.act
      (afterCalls (start ()) [.invoke (Op.register device).call])).2.fabric.resources[swapped.id]? =
        some device := by decide +kernel
  rw [hold] at hget
  exact absurd hget (by decide +kernel)

/-! ## What a refresh reports -/

/-- The refresh reported what it added, removed and left because of a lease; this
is all it did, and a second refresh has nothing to report but what is still leased. -/
structure RefreshAccounts (discovered : List Resource) (s : Shared W) (report : RefreshReport)
    (s' : Shared W) : Prop where
  added : ∀ id, id ∈ report.added ↔ id ∈ discoveredIds discovered ∧ id ∉ s.fabric.resources
  nodup : report.removed.Nodup ∧ report.blockedByLease.Nodup
  disjoint : ∀ id, id ∈ report.removed → id ∉ report.blockedByLease
  gone : ∀ id, id ∈ report.removed ∨ id ∈ report.blockedByLease ↔
    id ∈ s.fabric.resources ∧ id ∉ discoveredIds discovered
  blocked : ∀ id, id ∈ report.blockedByLease ↔
    (id ∈ s.fabric.resources ∧ id ∉ discoveredIds discovered) ∧ id ∈ s.fabric.leases.val
  registry : ∀ id, id ∈ s'.fabric.resources ↔
    id ∈ discoveredIds discovered ∨ id ∈ report.blockedByLease
  untouched : ∀ id : String, id ∈ report.blockedByLease →
    s'.fabric.resources[id]? = s.fabric.resources[id]?
  leases : s'.fabric.leases = s.fabric.leases
  attachments : s'.fabric.attachments = s.fabric.attachments
  heartbeats : s'.fabric.heartbeats = s.fabric.heartbeats
  nextLeaseId : s'.fabric.nextLeaseId = s.fabric.nextLeaseId
  again : ∀ s'', s'.Elapse s'' → ((refreshLocal discovered).run Section.act s'').1 =
    some ⟨[], [], report.blockedByLease⟩

/-- The refresh returned a report that accounts for what it did. -/
def RefreshesExactly (discovered : List Resource) (s : Shared W)
    (outcome : Option RefreshReport × Shared W) : Prop :=
  ∃ report, outcome.1 = some report ∧ RefreshAccounts discovered s report outcome.2

theorem mem_refreshed {discovered : List Resource} {s : Shared W} {id : String} :
    id ∈ ((s.registerNew discovered).dropFree (s.goneIds discovered)).fabric.resources ↔
      id ∈ discoveredIds discovered ∨
        (id ∈ s.fabric.resources ∧ id ∉ discoveredIds discovered) ∧
          id ∈ s.fabric.leases.val := by
  have hget := getElem?_dropFree (s.registerNew discovered) (s.goneIds discovered) id
  rw [Std.ExtTreeMap.mem_iff_isSome_getElem?, hget]
  by_cases hdropped : id ∈ s.goneIds discovered ∧
      id ∉ (s.registerNew discovered).fabric.leases.val
  · rw [if_pos hdropped]
    obtain ⟨hgone, hfree⟩ := hdropped
    have hfree : id ∉ s.fabric.leases.val := hfree
    simp [(mem_goneIds.mp hgone).2, hfree]
  · rw [if_neg hdropped, ← Std.ExtTreeMap.mem_iff_isSome_getElem?, mem_registerNew]
    -- whatever is gone and stays is leased
    have hkept : id ∈ s.goneIds discovered → id ∈ s.fabric.leases.val := by
      intro hgone
      by_contra hfree
      exact hdropped ⟨hgone, hfree⟩
    rw [mem_goneIds] at hkept
    constructor
    · rintro (hmem | hfound)
      · by_cases hfound : id ∈ discoveredIds discovered
        · exact Or.inl hfound
        · exact Or.inr ⟨⟨hmem, hfound⟩, hkept ⟨hmem, hfound⟩⟩
      · exact Or.inl hfound
    · rintro (hfound | ⟨⟨hmem, -⟩, -⟩)
      · exact Or.inr hfound
      · exact Or.inl hmem

/-- After a refresh nothing is new, and what is gone is leased. -/
theorem newIds_refreshed {discovered : List Resource} {s s' : Shared W}
    (hres : s'.fabric.resources =
      ((s.registerNew discovered).dropFree (s.goneIds discovered)).fabric.resources) :
    s'.newIds discovered = [] := by
  rw [List.eq_nil_iff_forall_not_mem]
  intro id hnew
  obtain ⟨hfound, hmissing⟩ := mem_newIds.mp hnew
  rw [hres] at hmissing
  exact hmissing (mem_refreshed.mpr (Or.inl hfound))

theorem goneIds_refreshed {discovered : List Resource} {s s' : Shared W}
    (hres : s'.fabric.resources =
      ((s.registerNew discovered).dropFree (s.goneIds discovered)).fabric.resources) :
    s'.goneIds discovered = (s.goneIds discovered).filter fun id => id ∈ s.fabric.leases.val := by
  rw [Shared.goneIds, Shared.goneIds, List.filter_filter]
  refine Table.filter_keys_congr fun id => ?_
  rw [hres, mem_refreshed]
  simp only [decide_eq_true_eq, Bool.and_eq_true]
  constructor
  · rintro ⟨hfound | ⟨⟨hmem, -⟩, hleased⟩, hgone⟩
    · exact absurd hfound hgone
    · exact ⟨hmem, hleased, hgone⟩
  · rintro ⟨hmem, hleased, hgone⟩
    exact ⟨Or.inr ⟨⟨hmem, hgone⟩, hleased⟩, hgone⟩

/-- A second refresh removes nothing, and is blocked by the same leases. -/
theorem refreshLocal_again {discovered : List Resource} {s s' : Shared W}
    (hthrough : ¬ (s.fabric.leases.poisoned = true ∧ s.goneIds discovered ≠ []))
    (hres : s'.fabric.resources =
      ((s.registerNew discovered).dropFree (s.goneIds discovered)).fabric.resources)
    (hleases : s'.fabric.leases = s.fabric.leases) :
    ((refreshLocal discovered).run Section.act s').1 =
      some ⟨[], [], (s.goneIds discovered).filter fun id => id ∈ s.fabric.leases.val⟩ := by
  have hgone := goneIds_refreshed hres
  have hthrough' : ¬ (s'.fabric.leases.poisoned = true ∧ s'.goneIds discovered ≠ []) := by
    rintro ⟨hp, hne⟩
    rw [hleases] at hp
    rw [hgone] at hne
    refine hthrough ⟨hp, fun hnil => hne ?_⟩
    rw [hnil, List.filter_nil]
  rw [refreshLocal_run]
  dsimp only
  rw [if_neg hthrough', newIds_refreshed hres, hgone, hleases]
  simp [List.filter_filter]

theorem refreshAccounts_refreshed {discovered : List Resource} {s : Shared W}
    (hthrough : ¬ (s.fabric.leases.poisoned = true ∧ s.goneIds discovered ≠ [])) :
    RefreshAccounts discovered s
      ⟨s.newIds discovered, (s.goneIds discovered).filter fun id => id ∉ s.fabric.leases.val,
        (s.goneIds discovered).filter fun id => id ∈ s.fabric.leases.val⟩
      ((s.registerNew discovered).dropFree (s.goneIds discovered)) := by
  have hnodup : (s.goneIds discovered).Nodup := Std.ExtTreeMap.nodup_keys.filter _
  have hblocked : ∀ id, id ∈ (s.goneIds discovered).filter (fun id => id ∈ s.fabric.leases.val) ↔
      (id ∈ s.fabric.resources ∧ id ∉ discoveredIds discovered) ∧ id ∈ s.fabric.leases.val := by
    intro id
    rw [List.mem_filter, mem_goneIds, decide_eq_true_eq]
  -- the two lists of the answer are a partition of what is gone
  constructor
  case added => exact fun id => mem_newIds
  case nodup => exact ⟨hnodup.filter _, hnodup.filter _⟩
  case disjoint =>
    intro id hremoved hleased
    have hfree : id ∉ s.fabric.leases.val := by simpa using (List.mem_filter.mp hremoved).2
    exact hfree ((hblocked id).mp hleased).2
  case gone =>
    intro id
    rw [hblocked, List.mem_filter, mem_goneIds]
    by_cases hleased : id ∈ s.fabric.leases.val
    · simp [hleased]
    · simp [hleased]
  case blocked => exact hblocked
  case registry =>
    intro id
    rw [hblocked]
    exact mem_refreshed
  case untouched =>
    intro id hid
    obtain ⟨⟨hmem, hgone⟩, hleased⟩ := (hblocked id).mp hid
    rw [getElem?_dropFree, if_neg (fun h => h.2 hleased)]
    exact getElem?_registerNew_of_not_new fun hnew => hgone (mem_newIds.mp hnew).1
  case leases => rfl
  case attachments => rfl
  case heartbeats => rfl
  case nextLeaseId => rfl
  case again =>
    -- only time passes until the second refresh
    intro s'' helapse
    have hfabric : s''.fabric =
        ((s.registerNew discovered).dropFree (s.goneIds discovered)).fabric := by
      rw [helapse.2]
    exact refreshLocal_again hthrough (by rw [hfabric]) (by rw [hfabric]; rfl)

/-- A refresh accounts for every id, unless an earlier panic has poisoned the lease
mutex and something is gone: that refresh panics too. -/
theorem refreshLocal_exact_iff (discovered : List Resource) (s : Shared W) :
    RefreshesExactly discovered s ((refreshLocal discovered).run Section.act s) ↔
      (s.fabric.leases.poisoned = true →
        ∀ id, id ∈ s.fabric.resources → ∃ d ∈ discovered, d.id = id) := by
  rw [refreshLocal_run]
  dsimp only
  constructor
  · rintro ⟨report, hreturned, -⟩ hp id hmem
    by_contra hfound
    have hgone : id ∈ s.goneIds discovered :=
      mem_goneIds.mpr ⟨hmem, fun h => hfound (mem_discoveredIds.mp h)⟩
    rw [if_pos ⟨hp, List.ne_nil_of_mem hgone⟩] at hreturned
    cases hreturned
  · intro hall
    have hthrough : ¬ (s.fabric.leases.poisoned = true ∧ s.goneIds discovered ≠ []) := by
      rintro ⟨hp, hne⟩
      obtain ⟨id, hid⟩ := List.exists_mem_of_ne_nil _ hne
      obtain ⟨hmem, hgone⟩ := mem_goneIds.mp hid
      exact hgone (mem_discoveredIds.mpr (hall hp id hmem))
    rw [if_neg hthrough]
    exact ⟨_, rfl, refreshAccounts_refreshed hthrough⟩

open Scenario in
/-- After a panic under the lease guard, a refresh that has a resource to remove
panics instead of reporting. -/
theorem refresh_panics :
    ¬ ∀ s : Shared Unit, (fabricSystem anySection).SeqReachable s → ∀ discovered,
      RefreshesExactly discovered s ((refreshLocal discovered).run Section.act s) := by
  intro h
  obtain ⟨report, hreturned, -⟩ := h _ (seqReachable_beatAndLease forever) []
  have hpanic : ((refreshLocal []).run Section.act
      (afterCalls (start ()) (beatAndLease forever))).1 = none := by decide +kernel
  rw [hpanic] at hreturned
  cases hreturned

end NautiFabric
