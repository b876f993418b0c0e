import Mathlib
import NautiFabric.Plan.Planner

/-!
# NautiFabric.Plan.Placement — where a role is placed

What the answer of a planner depends on. With exact numbers the fleet-wide scan
is an argmax with two tie rules, the first host and on it the last slot
(`monolithic_argmax`). The answer of the head is read off the host it names and
off its link to the asker, and nothing else of the fleet shows in it
(`fragment_hides_fleet`). The federated planner answers what the head answers
first (`planners_agree`).
-/

namespace NautiFabric

open Select

variable {N : Type}

/-! ## Comparing -/

/-- `>` is a strict weak order: no number is `NaN`. -/
def Platform.NoNan (std : Platform N) : Prop := StrictWeak std.gt

theorem Platform.NoNan.better {std : Platform N} (h : std.NoNan) :
    StrictWeak (Offer.better std) := by
  constructor
  · intro a b hab
    exact h.asymm a.score b.score hab
  · intro a b c hab
    exact h.cotrans a.score b.score c.score hab

section Exact

variable {display displayMillis : ℚ → String} {debug : String → String}

theorem gt_exact_iff {a b : ℚ} :
    (Platform.exact display displayMillis debug).gt a b = true ↔ b < a := by
  unfold Platform.gt Platform.exact
  rw [beq_iff_eq, Option.some.injEq]
  exact compare_gt_iff_gt

theorem noNan_exact : (Platform.exact display displayMillis debug).NoNan := by
  constructor
  · intro a b hab
    have hlt : b < a := gt_exact_iff.mp hab
    have hnot : ¬ (Platform.exact display displayMillis debug).gt b a = true := by
      rw [gt_exact_iff]
      exact hlt.not_gt
    simpa using hnot
  · intro a b c hab
    have hlt : b < a := gt_exact_iff.mp hab
    rw [gt_exact_iff, gt_exact_iff]
    rcases lt_or_ge c a with hca | hac
    · exact Or.inl hca
    · exact Or.inr (hlt.trans_le hac)

end Exact

/-! ## The best placement -/

/-- The score of a slot of `hostKey` for the asker, in exact numbers. -/
def placementScore (latency : LatencyMatrix ℚ) (asker hostKey : String) (slot : SlotView ℚ) : ℚ :=
  match latency.rttMs asker hostKey with
  | some ms => slot.freeMb - 512 * ms
  | none => slot.freeMb

/-- `slot` serves the role on `hostKey`, an unlocked host other than the asker. -/
def RemoteSlot (ask : PlanRequest) (view : FleetView N) (hostKey : String) (slot : SlotView N) :
    Prop :=
  hostKey ≠ ask.nodeId ∧ ∃ host : HostView N, view.hosts[hostKey]? = some host ∧
    host.locked = false ∧ slot ∈ host.slots ∧ slot.serves ask.role = true

section Exact

variable {display displayMillis : ℚ → String} {debug : String → String} {ask : PlanRequest}
  {view : FleetView ℚ}

theorem fleetScore_exact (latency : LatencyMatrix ℚ) (asker hostKey : String)
    (slot : SlotView ℚ) :
    fleetScore (.exact display displayMillis debug) slot.freeMb (latency.rttMs asker hostKey) =
      placementScore latency asker hostKey slot := by
  unfold fleetScore placementScore
  rcases latency.rttMs asker hostKey with _ | ms
  · rfl
  · simp [Platform.exact, latencyMbPerMs]

theorem compare_sub_right (a b c : ℚ) : compare (a - c) (b - c) = compare a b := by
  rcases lt_trichotomy a b with hlt | heq | hgt
  · have hsub : a - c < b - c := sub_lt_sub_right hlt c
    rw [compare_lt_iff_lt.mpr hsub, compare_lt_iff_lt.mpr hlt]
  · subst heq
    rw [compare_eq_iff_eq.mpr rfl, compare_eq_iff_eq.mpr rfl]
  · have hsub : b - c < a - c := sub_lt_sub_right hgt c
    rw [compare_gt_iff_gt.mpr hsub, compare_gt_iff_gt.mpr hgt]

/-- On one host the link takes the same from every score. -/
theorem bestServing_exact (host : HostView ℚ) (role : String) (rttMs : Option ℚ) :
    host.bestServing (.exact display displayMillis debug) role rttMs =
      if host.locked then none
      else maxBy (fun a b => compare a.freeMb b.freeMb) (host.serving role) := by
  unfold HostView.bestServing
  congr 2
  funext a b
  cases rttMs with
  | none => rfl
  | some ms => exact compare_sub_right a.freeMb b.freeMb _

theorem bestSlot_exact {hostKey : String} {host : HostView ℚ} (rttMs : Option ℚ)
    (hhost : view.hosts[hostKey]? = some host) :
    view.bestSlot (.exact display displayMillis debug) hostKey ask.role =
      host.bestServing (.exact display displayMillis debug) ask.role rttMs := by
  rw [bestSlot_eq, hhost, Option.bind_some, bestServing_exact, bestServing_exact]

theorem lastMax_of_bestServing {host : HostView ℚ} {role : String} {rttMs : Option ℚ}
    {slot : SlotView ℚ}
    (h : host.bestServing (.exact display displayMillis debug) role rttMs = some slot) :
    LastMax SlotView.freeMb (host.serving role) slot := by
  rw [bestServing_exact] at h
  rcases hlocked : host.locked with _ | _
  · rw [hlocked] at h
    exact lastMax_maxBy h
  · rw [hlocked] at h
    cases h

theorem better_exact_iff {a b : Offer ℚ} :
    a.better (.exact display displayMillis debug) b = true ↔ b.score < a.score := gt_exact_iff

variable (display displayMillis debug) in
/-- A serving slot of another host does not beat the offer of that host. -/
theorem offer_of_remoteSlot {hostKey : String} {slot : SlotView ℚ}
    (h : RemoteSlot ask view hostKey slot) :
    ∃ offer ∈ offers (.exact display displayMillis debug) ask view, offer.hostKey = hostKey ∧
      placementScore view.latency ask.nodeId hostKey slot ≤ offer.score := by
  obtain ⟨hasker, host, hhost, hlocked, hmem, hserves⟩ := h
  have hoffers : host.Offers ask.role := ⟨hlocked, slot, hmem, hserves⟩
  rcases hbest : host.bestServing (.exact display displayMillis debug) ask.role
    (view.latency.rttMs ask.nodeId hostKey) with _ | best
  · exact absurd hoffers (bestServing_eq_none_iff.mp hbest)
  · have hmax := (lastMax_of_bestServing hbest).bound slot (List.mem_filter.mpr ⟨hmem, hserves⟩)
    let offer : Offer ℚ := ⟨placementScore view.latency ask.nodeId hostKey best, hostKey, best,
      view.latency.rttMs ask.nodeId hostKey⟩
    have hoffer : offer ∈ offers (.exact display displayMillis debug) ask view := by
      rw [mem_offers]
      exact ⟨hasker, rfl, (fleetScore_exact view.latency ask.nodeId hostKey best).symm, host,
        hhost, hbest⟩
    refine ⟨offer, hoffer, rfl, ?_⟩
    change placementScore _ _ _ _ ≤ placementScore _ _ _ _
    unfold placementScore
    rcases view.latency.rttMs ask.nodeId hostKey with _ | ms
    · exact hmax
    · exact sub_le_sub_right hmax _

theorem hostKey_of_offer? {std : Platform N} {ask : PlanRequest} {latency : LatencyMatrix N}
    {entry : String × HostView N} {offer : Offer N}
    (h : offer? std ask latency entry = some offer) : offer.hostKey = entry.1 := by
  unfold offer? at h
  split at h
  · cases h
  · obtain ⟨slot, -, rfl⟩ := Option.map_eq_some_iff.mp h
    rfl

/-- The scan goes through the hosts in the order of their keys. -/
theorem offers_pairwise (std : Platform N) (ask : PlanRequest) (view : FleetView N) :
    (offers std ask view).Pairwise fun a b => a.hostKey < b.hostKey := by
  unfold offers
  rw [List.pairwise_filterMap]
  have hordered := Std.ExtTreeMap.ordered_keys_toList (t := view.hosts)
  refine hordered.imp ?_
  intro entry entry' hlt offer hoffer offer' hoffer'
  rw [hostKey_of_offer? hoffer, hostKey_of_offer? hoffer']
  exact compare_lt_iff_lt.mp hlt

/-- What the scan keeps scores more than what came before it, and as much as any. -/
theorem score_of_firstBest {l : List (Offer ℚ)} {offer : Offer ℚ}
    (h : FirstBest (fun a b => a.better (.exact display displayMillis debug) b) l offer) :
    ∃ before after, l = before ++ offer :: after ∧ (∀ x ∈ before, x.score < offer.score) ∧
      ∀ x ∈ l, x.score ≤ offer.score := by
  obtain ⟨before, after, rfl, hbefore, hafter⟩ := h
  have hless : ∀ x ∈ before, x.score < offer.score := fun x hx =>
    better_exact_iff.mp (hbefore x hx)
  refine ⟨before, after, rfl, hless, ?_⟩
  intro x hx
  rcases List.mem_append.mp hx with hx | hx
  · exact (hless x hx).le
  · rcases List.mem_cons.mp hx with rfl | hx
    · exact le_rfl
    · have hnot : ¬ x.better (.exact display displayMillis debug) offer = true := by
        have hafter := hafter x hx
        simpa using hafter
      rw [better_exact_iff] at hnot
      exact not_lt.mp hnot

/-- An offer that scores as much as the first best one comes at it or after it. -/
theorem hostKey_le_of_firstBest {l before after : List (Offer ℚ)} {offer x : Offer ℚ}
    (hordered : l.Pairwise fun a b => a.hostKey < b.hostKey)
    (hl : l = before ++ offer :: after) (hless : ∀ x ∈ before, x.score < offer.score)
    (hx : x ∈ l) (hge : offer.score ≤ x.score) : offer.hostKey ≤ x.hostKey := by
  rw [hl] at hx hordered
  rcases List.mem_append.mp hx with hx | hx
  · exact absurd (hless x hx) hge.not_gt
  · rcases List.mem_cons.mp hx with rfl | hx
    · exact le_rfl
    · have hlater := (List.pairwise_cons.mp (List.pairwise_append.mp hordered).2.1).1 x hx
      exact le_of_lt hlater

/-- With exact numbers the fleet-wide planner picks a slot of greatest score; among
the hosts that reach it the one with the smallest key, and on that host the last
slot with the most headroom, which is its `best_slot`. -/
theorem monolithic_argmax (display displayMillis : ℚ → String) (debug : String → String)
    (ask : PlanRequest) (view : FleetView ℚ) (f : PlanFragment ℚ)
    (h : monolithicPlan (.exact display displayMillis debug) ask view = some f) :
    ∃ (host : HostView ℚ) (slot : SlotView ℚ),
      f = fragmentFor ask f.hostKey slot (view.latency.rttMs ask.nodeId f.hostKey) f.reason ∧
      view.hosts[f.hostKey]? = some host ∧ RemoteSlot ask view f.hostKey slot ∧
      (∀ (hostKey : String) (other : SlotView ℚ), RemoteSlot ask view hostKey other →
        placementScore view.latency ask.nodeId hostKey other ≤
          placementScore view.latency ask.nodeId f.hostKey slot) ∧
      (∀ (hostKey : String) (other : SlotView ℚ), RemoteSlot ask view hostKey other →
        placementScore view.latency ask.nodeId hostKey other =
          placementScore view.latency ask.nodeId f.hostKey slot → f.hostKey ≤ hostKey) ∧
      LastMax SlotView.freeMb (host.serving ask.role) slot ∧
      view.bestSlot (.exact display displayMillis debug) f.hostKey ask.role = some slot := by
  rw [monolithicPlan_eq] at h
  obtain ⟨offer, hscan, rfl⟩ := Option.map_eq_some_iff.mp h
  obtain ⟨hasker, hrtt, hscore, host, hhost, hbest⟩ := mem_offers.mp (mem_of_scan hscan)
  obtain ⟨hlocked, hmem, hserves⟩ := of_bestServing hbest
  -- the fold keeps the first of the best offers, in the order of the keys
  obtain ⟨before, after, hoffers, hless, hbound⟩ :=
    score_of_firstBest (firstBest_of_scan noNan_exact.better hscan)
  rw [hrtt, fleetScore_exact] at hscore
  refine ⟨host, offer.slot, ?_, hhost, ⟨hasker, host, hhost, hlocked, hmem, hserves⟩, ?_, ?_,
    lastMax_of_bestServing hbest, ?_⟩
  · change fragmentFor _ _ _ _ _ = fragmentFor _ _ _ _ _
    rw [hrtt]
    rfl
  · intro hostKey other hother
    obtain ⟨x, hx, -, hle⟩ := offer_of_remoteSlot display displayMillis debug hother
    have hxbound := hbound x hx
    rw [hscore] at hxbound
    exact hle.trans hxbound
  · intro hostKey other hother heq
    obtain ⟨x, hx, rfl, hle⟩ := offer_of_remoteSlot display displayMillis debug hother
    refine hostKey_le_of_firstBest (offers_pairwise _ ask view) hoffers hless hx ?_
    rw [hscore]
    exact heq.symm.le.trans hle
  · change view.bestSlot _ offer.hostKey ask.role = _
    rw [bestSlot_exact offer.rttMs hhost]
    exact hbest

end Exact

namespace Scenario

/-- What `node-a` is answered: the last slot of `node-b`, which has the most headroom. -/
def answerB : PlanFragment ℚ where
  nodeId := "node-a"
  role := "coder"
  hostKey := "node-b"
  slot := "b1"
  modelId := "coder-7b"
  reason := "fleet-wide: node-b has a healthy coder slot (4096 MiB free, rtt 1/2 ms)"
  resourceId := some "gpu.0"
  rttMs := some (1 / 2)

end Scenario

open Scenario in
theorem monolithic_argmax_two_nodes :
    monolithicPlan rationals askFromA twoNodes = some answerB ∧
      ∃ (host : HostView ℚ) (slot : SlotView ℚ),
        answerB = fragmentFor askFromA "node-b" slot (twoNodes.latency.rttMs "node-a" "node-b")
          answerB.reason ∧
        twoNodes.hosts["node-b"]? = some host ∧ RemoteSlot askFromA twoNodes "node-b" slot ∧
        (∀ (hostKey : String) (other : SlotView ℚ), RemoteSlot askFromA twoNodes hostKey other →
          placementScore twoNodes.latency "node-a" hostKey other ≤
            placementScore twoNodes.latency "node-a" "node-b" slot) ∧
        (∀ (hostKey : String) (other : SlotView ℚ), RemoteSlot askFromA twoNodes hostKey other →
          placementScore twoNodes.latency "node-a" hostKey other =
            placementScore twoNodes.latency "node-a" "node-b" slot → "node-b" ≤ hostKey) ∧
        LastMax SlotView.freeMb (host.serving "coder") slot ∧
        twoNodes.bestSlot rationals "node-b" "coder" = some slot := by
  have hplan : monolithicPlan rationals askFromA twoNodes = some answerB := by decide +kernel
  exact ⟨hplan, monolithic_argmax toString toString id askFromA twoNodes answerB hplan⟩

/-! ## What the answer shows of the fleet -/

/-- The view without some of its hosts. -/
def FleetView.deleteHosts (view : FleetView N) (gone : String → Bool) : FleetView N :=
  { view with hosts := view.hosts.filter fun hostKey _ => !gone hostKey }

theorem getElem?_deleteHosts (view : FleetView N) (gone : String → Bool) (hostKey : String) :
    (view.deleteHosts gone).hosts[hostKey]? =
      if gone hostKey then none else view.hosts[hostKey]? := by
  unfold FleetView.deleteHosts
  rw [Std.ExtTreeMap.getElem?_filter']
  rcases gone hostKey with _ | _
  · rcases view.hosts[hostKey]? with _ | host
    · rfl
    · rfl
  · simp

/-- The hosts that are left make the offers they made before. -/
theorem offers_deleteHosts (std : Platform N) (ask : PlanRequest) (view : FleetView N)
    (gone : String → Bool) :
    offers std ask (view.deleteHosts gone) =
      (offers std ask view).filter fun offer => !gone offer.hostKey := by
  unfold offers FleetView.deleteHosts
  rw [Std.ExtTreeMap.toList_filter]
  induction view.hosts.toList with
  | nil => rfl
  | cons entry hosts ih =>
      rcases hoffer : offer? std ask view.latency entry with _ | offer
      · rw [List.filterMap_cons_none hoffer, List.filter_cons]
        split
        · rw [List.filterMap_cons_none hoffer, ih]
        · exact ih
      · have hkey := hostKey_of_offer? hoffer
        rw [List.filterMap_cons_some hoffer, List.filter_cons, List.filter_cons, hkey]
        split
        · rw [List.filterMap_cons_some hoffer, ih]
        · exact ih

section Answer

variable {std : Platform N} {req : PlanRequest} {view : FleetView N} {roles : RoleCatalogue}
  {f : PlanFragment N}

/-- The two ways to an answer. -/
theorem headPlan_cases (h : headPlan std req view roles = .ok f) :
    validateAsk req roles = .ok () ∧
      ((∃ slot, view.bestSlot std req.nodeId req.role = some slot ∧
          f = fragmentFor req req.nodeId slot none "local plan satisfies this role") ∨
        (view.bestSlot std req.nodeId req.role = none ∧
          ∃ offer, scan (Offer.better std) (offers std req view) = some offer ∧
            f = offer.fragment std req)) := by
  rcases hvalid : validateAsk req roles with e | ⟨⟩
  · simp only [headPlan, hvalid] at h
    cases h
  refine ⟨rfl, ?_⟩
  rcases hslot : view.bestSlot std req.nodeId req.role with _ | slot
  · right
    refine ⟨rfl, ?_⟩
    rcases hscan : scan (Offer.better std) (offers std req view) with _ | offer
    · rw [headPlan_nowhere hvalid hslot hscan] at h
      cases h
    · rw [headPlan_remote hvalid hslot hscan] at h
      exact ⟨offer, rfl, (Except.ok.inj h).symm⟩
  · left
    rw [headPlan_local hvalid hslot] at h
    exact ⟨slot, rfl, (Except.ok.inj h).symm⟩

/-- An answer is a slot of the view. -/
theorem answers_headPlan (h : headPlan std req view roles = .ok f) : Answers req view f := by
  obtain ⟨-, ⟨slot, hslot, rfl⟩ | ⟨hslot, offer, hscan, rfl⟩⟩ := headPlan_cases h
  · exact answers_local hslot _
  · exact answers_remote (mem_of_scan hscan) (bestSlot_eq_none_iff.mp hslot)

theorem bestSlot_deleteHosts_none {gone : String → Bool} {hostKey role : String}
    (h : view.bestSlot std hostKey role = none) :
    (view.deleteHosts gone).bestSlot std hostKey role = none := by
  rw [bestSlot_eq] at h ⊢
  rw [getElem?_deleteHosts]
  split
  · rfl
  · exact h

/-- The other hosts may leave. -/
theorem headPlan_deleteHosts (hnan : std.NoNan) (h : headPlan std req view roles = .ok f)
    {gone : String → Bool} (hkept : gone f.hostKey = false) :
    headPlan std req (view.deleteHosts gone) roles = .ok f := by
  obtain ⟨hvalid, ⟨slot, hslot, rfl⟩ | ⟨hslot, offer, hscan, rfl⟩⟩ := headPlan_cases h
  · have hkept' : gone req.nodeId = false := hkept
    apply headPlan_local hvalid
    rw [bestSlot_eq, getElem?_deleteHosts, hkept', ← hslot, bestSlot_eq]
    simp
  · have hkept' : (!gone offer.hostKey) = true := by
      rw [Bool.not_eq_true']
      exact hkept
    apply headPlan_remote hvalid (bestSlot_deleteHosts_none hslot)
    rw [offers_deleteHosts]
    exact scan_filter hnan.better hscan hkept'

/-- The answer is read off the host that it names, and off its link to the asker. -/
theorem headPlan_determined {view' : FleetView N} {f' : PlanFragment N}
    (h : headPlan std req view roles = .ok f) (h' : headPlan std req view' roles = .ok f')
    (hkey : f'.hostKey = f.hostKey) (hhost : view'.hosts[f.hostKey]? = view.hosts[f.hostKey]?)
    (hrtt : view'.latency.rttMs req.nodeId f.hostKey = view.latency.rttMs req.nodeId f.hostKey) :
    f' = f := by
  obtain ⟨-, ⟨slot, hslot, rfl⟩ | ⟨-, offer, hscan, rfl⟩⟩ := headPlan_cases h
  · obtain ⟨-, ⟨slot', hslot', rfl⟩ | ⟨-, offer', hscan', rfl⟩⟩ := headPlan_cases h'
    · have hhost' : view'.hosts[req.nodeId]? = view.hosts[req.nodeId]? := hhost
      rw [bestSlot_eq] at hslot hslot'
      rw [hhost', hslot] at hslot'
      rw [Option.some.inj hslot']
    · -- a remote answer does not name the asker
      exact absurd hkey (mem_offers.mp (mem_of_scan hscan')).1
  · obtain ⟨-, ⟨slot', hslot', rfl⟩ | ⟨-, offer', hscan', rfl⟩⟩ := headPlan_cases h'
    · exact absurd hkey.symm (mem_offers.mp (mem_of_scan hscan)).1
    · obtain ⟨-, hr, hs, host, hh, hb⟩ := mem_offers.mp (mem_of_scan hscan)
      obtain ⟨-, hr', hs', host', hh', hb'⟩ := mem_offers.mp (mem_of_scan hscan')
      obtain ⟨score, hostKey, slot, rtt⟩ := offer
      obtain ⟨score', hostKey', slot', rtt'⟩ := offer'
      have hkey' : hostKey' = hostKey := hkey
      subst hkey'
      have hrtt' : rtt' = rtt := hr'.trans (hrtt.trans hr.symm)
      subst hrtt'
      have hhost' : host' = host := by
        have hsame : view'.hosts[hostKey']? = view.hosts[hostKey']? := hhost
        dsimp only at hh hh'
        rw [hsame, hh] at hh'
        exact (Option.some.inj hh').symm
      subst hhost'
      have hslot : slot' = slot := Option.some.inj (hb'.symm.trans hb)
      subst hslot
      dsimp only at hs hs'
      rw [hs, hs']

/-- Nothing of the rest of the fleet shows in an answer: the other hosts may leave
without changing it, and two views that agree on the host it names and on its link
to the asker give the same one. -/
theorem fragment_hides_fleet (hnan : std.NoNan) (h : headPlan std req view roles = .ok f) :
    (∀ gone : String → Bool, gone f.hostKey = false →
        headPlan std req (view.deleteHosts gone) roles = .ok f) ∧
      ∀ (view' : FleetView N) (f' : PlanFragment N), headPlan std req view' roles = .ok f' →
        f'.hostKey = f.hostKey → view'.hosts[f.hostKey]? = view.hosts[f.hostKey]? →
        view'.latency.rttMs req.nodeId f.hostKey = view.latency.rttMs req.nodeId f.hostKey →
        f' = f := by
  refine ⟨?_, ?_⟩
  · intro gone hkept
    exact headPlan_deleteHosts hnan h hkept
  · intro view' f' h' hkey hhost hrtt
    exact headPlan_determined h h' hkey hhost hrtt

end Answer

open Scenario in
theorem fragment_hides_fleet_two_nodes :
    (∀ gone : String → Bool, gone "node-b" = false →
        headPlan rationals askFromA (twoNodes.deleteHosts gone) catalogue = .ok answerB) ∧
      ∀ (view' : FleetView ℚ) (f' : PlanFragment ℚ),
        headPlan rationals askFromA view' catalogue = .ok f' → f'.hostKey = "node-b" →
        view'.hosts["node-b"]? = twoNodes.hosts["node-b"]? →
        view'.latency.rttMs "node-a" "node-b" = twoNodes.latency.rttMs "node-a" "node-b" →
        f' = answerB := by
  have hplan : headPlan rationals askFromA twoNodes catalogue = .ok answerB := by
    with_unfolding_all rfl
  exact fragment_hides_fleet noNan_exact hplan

/-! ## The two planners -/

section Kinds

variable {std : Platform N} {req : PlanRequest} {view : FleetView N} {roles : RoleCatalogue}

theorem federatedPlan_eq :
    federatedPlan std req view =
      (view.bestSlot std req.nodeId req.role).map fun slot =>
        fragmentFor req req.nodeId slot none
          ("local: " ++ req.nodeId ++ " holds a healthy " ++ req.role ++ " slot") := by
  rw [bestSlot_eq]
  unfold federatedPlan
  rcases view.hosts[req.nodeId]? with _ | host
  · rfl
  · simp only [bestSlotScored_eq, Option.bind_some]
    rcases host.bestServing std req.role none with _ | slot
    · rfl
    · rfl

theorem planByKind_refused {e : PlanReject} (h : validateAsk req roles = .error e)
    (kind : String) : planByKind std kind req view roles = .error e := by
  simp only [planByKind, h]
  rfl

theorem planByKind_monolithic (hvalid : validateAsk req roles = .ok ()) :
    planByKind std "monolithic" req view roles = headPlan std req view roles := by
  unfold planByKind
  rw [hvalid]
  exact pure_bind () _

theorem planByKind_federated (hvalid : validateAsk req roles = .ok ()) :
    planByKind std "federated" req view roles =
      match view.bestSlot std req.nodeId req.role with
      | some slot => .ok (fragmentFor req req.nodeId slot none
          ("local: " ++ req.nodeId ++ " holds a healthy " ++ req.role ++ " slot"))
      | none => .error (.escalateNowhere ((escalateConstraint std req view).map fun detail =>
          "federated: " ++ detail)) := by
  simp only [planByKind, planWith, hvalid, federatedPerNodePlanner, federatedPlan_eq]
  rcases view.bestSlot std req.nodeId req.role with _ | slot
  · rfl
  · rfl

end Kinds

/-- Where the federated planner answers, the head answers the same but for the
reason; where it finds nothing, the head finds nothing or another host; and both
refuse an invalid ask alike. -/
theorem planners_agree (std : Platform N) (req : PlanRequest) (view : FleetView N)
    (roles : RoleCatalogue) :
    (∀ f, planByKind std "federated" req view roles = .ok f →
        ∃ g, planByKind std "monolithic" req view roles = .ok g ∧
          { g with reason := f.reason } = f) ∧
      (∀ c, planByKind std "federated" req view roles = .error (.escalateNowhere c) →
        (∃ c', planByKind std "monolithic" req view roles = .error (.escalateNowhere c')) ∨
          ∃ g, planByKind std "monolithic" req view roles = .ok g ∧ g.hostKey ≠ req.nodeId) ∧
      ∀ e, validateAsk req roles = .error e →
        planByKind std "federated" req view roles = .error e ∧
          planByKind std "monolithic" req view roles = .error e := by
  rcases hvalid : validateAsk req roles with e | ⟨⟩
  · rw [planByKind_refused hvalid, planByKind_refused hvalid]
    refine ⟨by simp, ?_, ?_⟩
    · intro c hc
      exact Or.inl ⟨c, hc⟩
    · intro e' he
      obtain rfl := Except.error.inj he
      exact ⟨rfl, rfl⟩
  -- a valid ask: the head looks at the asker first, as the federated planner does
  rw [planByKind_federated hvalid, planByKind_monolithic hvalid]
  refine ⟨?_, ?_, by simp⟩
  · intro f hf
    rcases hslot : view.bestSlot std req.nodeId req.role with _ | slot
    · rw [hslot] at hf
      cases hf
    · rw [hslot] at hf
      obtain rfl := Except.ok.inj hf
      exact ⟨_, headPlan_local hvalid hslot, rfl⟩
  · intro c hc
    rcases hslot : view.bestSlot std req.nodeId req.role with _ | slot
    · rcases hscan : scan (Offer.better std) (offers std req view) with _ | offer
      · exact Or.inl ⟨_, headPlan_nowhere hvalid hslot hscan⟩
      · right
        refine ⟨_, headPlan_remote hvalid hslot hscan, ?_⟩
        exact (mem_offers.mp (mem_of_scan hscan)).1
    · rw [hslot] at hc
      cases hc

end NautiFabric
