import NautiFabric.Lib.Select
import NautiFabric.Plan.Types

/-!
# NautiFabric.Plan.Planner — the planners and the head's decision order

The head answers an ask from the asking node's own slots when one of them serves
the role, else from the rest of the fleet. The two searches are written apart:
`bestSlot` on one host, and a scan over all hosts of the `monolithic` planner,
which skips the asker. `head_plan_sound_complete` says that together they miss
no slot and invent none.
-/

namespace NautiFabric

open Select

variable {N : Type}

/-! ## Scores -/

/-- `LATENCY_MB_PER_MS` -/
def latencyMbPerMs (std : Platform N) : N := std.ofNat 512

/-- An unmeasured link is scored on headroom alone. -/
def fleetScore (std : Platform N) (freeMb : N) : Option N → N
  | some ms => std.sub freeMb (std.mul (latencyMbPerMs std) ms)
  | none => freeMb

/-- The serving slots of a host, in its order. -/
def HostView.serving (host : HostView N) (role : String) : List (SlotView N) :=
  host.slots.filter fun s => s.serves role

/-- The slot of one host with the most headroom. -/
def FleetView.bestSlot (std : Platform N) (view : FleetView N) (hostKey role : String) :
    Option (SlotView N) :=
  match view.hosts[hostKey]? with
  | none => none
  | some host =>
    if host.locked then none
    else maxBy (fun a b => std.cmpOrEqual a.freeMb b.freeMb) (host.serving role)

def bestSlotScored (std : Platform N) (host : HostView N) (role : String) (rttMs : Option N) :
    Option (N × SlotView N) :=
  if host.locked then none
  else
    maxBy (fun a b => std.cmpOrEqual a.1 b.1)
      ((host.serving role).map fun s => (fleetScore std s.freeMb rttMs, s))

def fragmentFor (ask : PlanRequest) (hostKey : String) (slot : SlotView N) (rttMs : Option N)
    (reason : String) : PlanFragment N where
  nodeId := ask.nodeId
  role := ask.role
  hostKey := hostKey
  slot := slot.slot
  modelId := slot.modelId
  reason := reason
  resourceId := slot.resourceId
  rttMs := rttMs

/-! ## The planners -/

/-- The best offer that the fleet-wide scan has seen. -/
structure Offer (N : Type) where
  score : N
  hostKey : String
  slot : SlotView N
  rttMs : Option N

/-- One turn of the fleet-wide scan. -/
def considerHost (std : Platform N) (ask : PlanRequest) (latency : LatencyMatrix N)
    (best : Option (Offer N)) (entry : String × HostView N) : Option (Offer N) :=
  -- the head may not hand a node its own work back
  if entry.1 == ask.nodeId then best
  else
    let rtt := latency.rttMs ask.nodeId entry.1
    match bestSlotScored std entry.2 ask.role rtt with
    | none => best
    | some (score, slot) =>
      let better :=
        match best with
        | none => true
        | some prev => std.gt score prev.score
      if better then some ⟨score, entry.1, slot, rtt⟩ else best

/-- The text of a fleet-wide answer. -/
def monolithicReason (std : Platform N) (ask : PlanRequest) (offer : Offer N) : String :=
  let latency :=
    match offer.rttMs with
    | some ms => "rtt " ++ std.displayMillis ms ++ " ms"
    | none => "rtt not measured"
  "fleet-wide: " ++ offer.hostKey ++ " has a healthy " ++ ask.role ++ " slot (" ++
    std.display offer.slot.freeMb ++ " MiB free, " ++ latency ++ ")"

/-- `MonolithicMoEPlanner::plan`; the hosts come in the order of their keys. -/
def monolithicPlan (std : Platform N) (ask : PlanRequest) (view : FleetView N) :
    Option (PlanFragment N) :=
  match view.hosts.toList.foldl (considerHost std ask view.latency) none with
  | none => none
  | some offer =>
    some (fragmentFor ask offer.hostKey offer.slot offer.rttMs (monolithicReason std ask offer))

/-- `FederatedPerNodePlanner::plan` -/
def federatedPlan (std : Platform N) (ask : PlanRequest) (view : FleetView N) :
    Option (PlanFragment N) :=
  match view.hosts[ask.nodeId]? with
  | none => none
  | some host =>
    match bestSlotScored std host ask.role none with
    | none => none
    | some (_, slot) =>
      some (fragmentFor ask ask.nodeId slot none
        ("local: " ++ ask.nodeId ++ " holds a healthy " ++ ask.role ++ " slot"))

structure FleetPlanner (N : Type) where
  name : String
  plan : PlanRequest → FleetView N → Option (PlanFragment N)

def monolithicMoEPlanner (std : Platform N) : FleetPlanner N := ⟨"monolithic", monolithicPlan std⟩

def federatedPerNodePlanner (std : Platform N) : FleetPlanner N := ⟨"federated", federatedPlan std⟩

/-! ## Entry points -/

/-- What the view shows of why nothing serves the role. -/
def escalateConstraint (std : Platform N) (ask : PlanRequest) (view : FleetView N) :
    Option String :=
  if view.hosts.isEmpty then none
  else
    let locked := (view.hosts.toList.filter fun entry => entry.2.locked).map Prod.fst
    let unhealthy := ((view.hosts.toList.flatMap fun entry => entry.2.slots).filter fun s =>
      !s.healthy && s.roles.any fun r => r == ask.role).length
    some ("no healthy unlocked slot serves role " ++ std.debug ask.role ++ " across " ++
      toString view.hosts.size ++ " host(s)" ++
      -- the keys of the table come sorted
      (if locked.isEmpty then "" else "; locked: " ++ String.intercalate ", " locked) ++
      (if unhealthy > 0 then "; " ++ toString unhealthy ++ " serving slot(s) unhealthy" else ""))

def validateAsk (req : PlanRequest) (roles : RoleCatalogue) : Except PlanReject Unit :=
  if (trim req.nodeId).isEmpty then .error (.missingField "node_id")
  else if (trim req.role).isEmpty then .error (.missingField "role")
  else if !roles.contains req.role then .error (.unknownRole req.role)
  else .ok ()

def planWith (std : Platform N) (planner : FleetPlanner N) (req : PlanRequest)
    (view : FleetView N) (roles : RoleCatalogue) : Except PlanReject (PlanFragment N) := do
  validateAsk req roles
  match planner.plan req view with
  | some fragment => return fragment
  | none =>
    throw (.escalateNowhere ((escalateConstraint std req view).map fun detail =>
      planner.name ++ ": " ++ detail))

/-- The asker's own slots first, then the rest of the fleet. -/
def headPlan (std : Platform N) (req : PlanRequest) (view : FleetView N)
    (roles : RoleCatalogue) : Except PlanReject (PlanFragment N) := do
  validateAsk req roles
  match view.bestSlot std req.nodeId req.role with
  | some slot =>
    return fragmentFor req req.nodeId slot none "local plan satisfies this role"
  | none =>
    match monolithicPlan std req view with
    | some fragment => return fragment
    | none => throw (.escalateNowhere (escalateConstraint std req view))

def planByKind (std : Platform N) (kind : String) (req : PlanRequest) (view : FleetView N)
    (roles : RoleCatalogue) : Except PlanReject (PlanFragment N) := do
  validateAsk req roles
  match kind with
  | "monolithic" => headPlan std req view roles
  | "federated" => planWith std (federatedPerNodePlanner std) req view roles
  | other => throw (.unknownPlanner other)

/-! ## One host -/

/-- Some slot of the unlocked host serves the role. -/
def HostView.Offers (host : HostView N) (role : String) : Prop :=
  host.locked = false ∧ ∃ slot ∈ host.slots, slot.serves role = true

/-- What both searches of one host come to. -/
def HostView.bestServing (std : Platform N) (host : HostView N) (role : String)
    (rttMs : Option N) : Option (SlotView N) :=
  if host.locked then none
  else
    maxBy (fun a b =>
        std.cmpOrEqual (fleetScore std a.freeMb rttMs) (fleetScore std b.freeMb rttMs))
      (host.serving role)

theorem bestSlotScored_eq (std : Platform N) (host : HostView N) (role : String)
    (rttMs : Option N) :
    bestSlotScored std host role rttMs =
      (host.bestServing std role rttMs).map fun s => (fleetScore std s.freeMb rttMs, s) := by
  unfold bestSlotScored HostView.bestServing
  split
  · rfl
  · rw [maxBy_map]

theorem bestSlot_eq (std : Platform N) (view : FleetView N) (hostKey role : String) :
    view.bestSlot std hostKey role =
      (view.hosts[hostKey]?).bind fun host => host.bestServing std role none := by
  unfold FleetView.bestSlot
  rcases view.hosts[hostKey]? with _ | host
  · rfl
  · rfl

section Host

variable {std : Platform N} {host : HostView N} {role : String} {rttMs : Option N}

theorem of_bestServing {slot : SlotView N} (h : host.bestServing std role rttMs = some slot) :
    host.locked = false ∧ slot ∈ host.slots ∧ slot.serves role = true := by
  unfold HostView.bestServing at h
  rcases hlocked : host.locked with _ | _
  · rw [hlocked] at h
    have hmem := mem_of_maxBy h
    rw [HostView.serving, List.mem_filter] at hmem
    exact ⟨rfl, hmem⟩
  · rw [hlocked] at h
    cases h

theorem bestServing_eq_none_iff : host.bestServing std role rttMs = none ↔ ¬ host.Offers role := by
  unfold HostView.bestServing HostView.Offers
  rcases host.locked with _ | _
  · simp [maxBy_eq_none_iff, HostView.serving]
  · simp

end Host

/-! ## The fleet-wide scan -/

/-- What one host offers to the scan. -/
def offer? (std : Platform N) (ask : PlanRequest) (latency : LatencyMatrix N)
    (entry : String × HostView N) : Option (Offer N) :=
  if entry.1 = ask.nodeId then none
  else
    let rtt := latency.rttMs ask.nodeId entry.1
    (entry.2.bestServing std ask.role rtt).map fun s =>
      ⟨fleetScore std s.freeMb rtt, entry.1, s, rtt⟩

def Offer.better (std : Platform N) (a b : Offer N) : Bool := std.gt a.score b.score

/-- The offers of the fleet, in the order of the scan. -/
def offers (std : Platform N) (ask : PlanRequest) (view : FleetView N) : List (Offer N) :=
  view.hosts.toList.filterMap (offer? std ask view.latency)

theorem considerHost_eq (std : Platform N) (ask : PlanRequest) (latency : LatencyMatrix N)
    (best : Option (Offer N)) (entry : String × HostView N) :
    considerHost std ask latency best entry =
      match offer? std ask latency entry with
      | some offer => improve (Offer.better std) best offer
      | none => best := by
  unfold considerHost offer?
  by_cases hasker : entry.1 = ask.nodeId
  · simp [hasker]
  · dsimp only
    rw [bestSlotScored_eq]
    rcases entry.2.bestServing std ask.role (latency.rttMs ask.nodeId entry.1) with _ | s
    · simp [hasker]
    · cases best with
      | none => simp [hasker, improve]
      | some prev =>
          rcases hgt : std.gt (fleetScore std s.freeMb (latency.rttMs ask.nodeId entry.1))
            prev.score with _ | _
          · simp [hasker, improve, Offer.better, hgt]
          · simp [hasker, improve, Offer.better, hgt]

theorem scan_offers (std : Platform N) (ask : PlanRequest) (view : FleetView N) :
    view.hosts.toList.foldl (considerHost std ask view.latency) none =
      scan (Offer.better std) (offers std ask view) := by
  unfold scan offers
  rw [List.foldl_filterMap]
  congr 1
  funext best entry
  rw [considerHost_eq]
  rcases offer? std ask view.latency entry with _ | offer
  · rfl
  · rfl

/-- The fragment that an offer becomes. -/
def Offer.fragment (std : Platform N) (ask : PlanRequest) (offer : Offer N) : PlanFragment N :=
  fragmentFor ask offer.hostKey offer.slot offer.rttMs (monolithicReason std ask offer)

theorem monolithicPlan_eq (std : Platform N) (ask : PlanRequest) (view : FleetView N) :
    monolithicPlan std ask view =
      (scan (Offer.better std) (offers std ask view)).map (Offer.fragment std ask) := by
  unfold monolithicPlan
  rw [scan_offers]
  rcases scan (Offer.better std) (offers std ask view) with _ | offer
  · rfl
  · rfl

theorem mem_offers {std : Platform N} {ask : PlanRequest} {view : FleetView N} {offer : Offer N} :
    offer ∈ offers std ask view ↔ offer.hostKey ≠ ask.nodeId ∧
      offer.rttMs = view.latency.rttMs ask.nodeId offer.hostKey ∧
      offer.score = fleetScore std offer.slot.freeMb offer.rttMs ∧
      ∃ host : HostView N, view.hosts[offer.hostKey]? = some host ∧
        host.bestServing std ask.role offer.rttMs = some offer.slot := by
  unfold offers
  rw [List.mem_filterMap]
  constructor
  · rintro ⟨⟨hostKey, host⟩, hmem, hoffer⟩
    have hhost := Std.ExtTreeMap.mem_toList_iff_getElem?_eq_some.mp hmem
    unfold offer? at hoffer
    split at hoffer
    · cases hoffer
    · rename_i hasker
      obtain ⟨slot, hslot, rfl⟩ := Option.map_eq_some_iff.mp hoffer
      exact ⟨hasker, rfl, rfl, host, hhost, hslot⟩
  · rintro ⟨hasker, hrtt, hscore, host, hhost, hslot⟩
    refine ⟨(offer.hostKey, host), Std.ExtTreeMap.mem_toList_iff_getElem?_eq_some.mpr hhost, ?_⟩
    unfold offer?
    rw [if_neg hasker, ← hrtt]
    simp only [hslot, Option.map_some, Option.some.injEq]
    rw [← hscore]

/-! ## What the head answers -/

/-- Some slot of this unlocked host of the view serves the role. -/
def FleetView.Offers (view : FleetView N) (hostKey role : String) : Prop :=
  ∃ host : HostView N, view.hosts[hostKey]? = some host ∧ host.Offers role

/-- The fragment answers the ask with a slot of the view. -/
structure Answers (req : PlanRequest) (view : FleetView N) (f : PlanFragment N) : Prop where
  nodeId : f.nodeId = req.nodeId
  role : f.role = req.role
  offered : ∃ (host : HostView N) (slot : SlotView N), view.hosts[f.hostKey]? = some host ∧
    host.locked = false ∧ slot ∈ host.slots ∧ slot.serves req.role = true ∧
      f.slot = slot.slot ∧ f.modelId = slot.modelId ∧ f.resourceId = slot.resourceId
  local_iff : f.hostKey = req.nodeId ↔ view.Offers req.nodeId req.role
  rtt : f.rttMs =
    if f.hostKey = req.nodeId then none else view.latency.rttMs req.nodeId f.hostKey

section Head

variable {std : Platform N} {req : PlanRequest} {view : FleetView N} {roles : RoleCatalogue}

theorem bestSlot_eq_none_iff {hostKey role : String} :
    view.bestSlot std hostKey role = none ↔ ¬ view.Offers hostKey role := by
  rw [bestSlot_eq]
  unfold FleetView.Offers
  rcases view.hosts[hostKey]? with _ | host
  · simp
  · simp [bestServing_eq_none_iff]

theorem answers_local {slot : SlotView N}
    (h : view.bestSlot std req.nodeId req.role = some slot) (reason : String) :
    Answers req view (fragmentFor req req.nodeId slot none reason) := by
  rw [bestSlot_eq] at h
  obtain ⟨host, hhost, hslot⟩ := Option.bind_eq_some_iff.mp h
  obtain ⟨hlocked, hmem, hserves⟩ := of_bestServing hslot
  refine ⟨rfl, rfl, ⟨host, slot, hhost, hlocked, hmem, hserves, rfl, rfl, rfl⟩, ?_, ?_⟩
  · exact iff_of_true rfl ⟨host, hhost, hlocked, slot, hmem, hserves⟩
  · simp [fragmentFor]

theorem answers_remote {offer : Offer N} (hmem : offer ∈ offers std req view)
    (hlocal : ¬ view.Offers req.nodeId req.role) : Answers req view (offer.fragment std req) := by
  obtain ⟨hasker, hrtt, -, host, hhost, hslot⟩ := mem_offers.mp hmem
  obtain ⟨hlocked, hslots, hserves⟩ := of_bestServing hslot
  refine ⟨rfl, rfl, ⟨host, offer.slot, hhost, hlocked, hslots, hserves, rfl, rfl, rfl⟩, ?_, ?_⟩
  · exact iff_of_false hasker hlocal
  · have hremote : (offer.fragment std req).hostKey ≠ req.nodeId := hasker
    rw [if_neg hremote]
    exact hrtt

/-- Every host but the asker that serves the role makes an offer. -/
theorem offers_eq_nil_iff :
    offers std req view = [] ↔
      ∀ hostKey, hostKey ≠ req.nodeId → ¬ view.Offers hostKey req.role := by
  rw [List.eq_nil_iff_forall_not_mem]
  constructor
  · rintro hnone hostKey hasker ⟨host, hhost, hoffers⟩
    rcases hslot : host.bestServing std req.role (view.latency.rttMs req.nodeId hostKey)
      with _ | slot
    · exact bestServing_eq_none_iff.mp hslot hoffers
    · exact hnone ⟨fleetScore std slot.freeMb (view.latency.rttMs req.nodeId hostKey), hostKey,
        slot, view.latency.rttMs req.nodeId hostKey⟩
        (mem_offers.mpr ⟨hasker, rfl, rfl, host, hhost, hslot⟩)
  · intro hnone offer hmem
    obtain ⟨hasker, -, -, host, hhost, hslot⟩ := mem_offers.mp hmem
    obtain ⟨hlocked, hslots, hserves⟩ := of_bestServing hslot
    exact hnone offer.hostKey hasker ⟨host, hhost, hlocked, offer.slot, hslots, hserves⟩

theorem headPlan_local {slot : SlotView N} (hvalid : validateAsk req roles = .ok ())
    (hslot : view.bestSlot std req.nodeId req.role = some slot) :
    headPlan std req view roles =
      .ok (fragmentFor req req.nodeId slot none "local plan satisfies this role") := by
  simp only [headPlan, hvalid, hslot]
  rfl

theorem headPlan_remote {offer : Offer N} (hvalid : validateAsk req roles = .ok ())
    (hslot : view.bestSlot std req.nodeId req.role = none)
    (hscan : scan (Offer.better std) (offers std req view) = some offer) :
    headPlan std req view roles = .ok (offer.fragment std req) := by
  simp only [headPlan, hvalid, hslot, monolithicPlan_eq, hscan]
  rfl

theorem headPlan_nowhere (hvalid : validateAsk req roles = .ok ())
    (hslot : view.bestSlot std req.nodeId req.role = none)
    (hscan : scan (Offer.better std) (offers std req view) = none) :
    headPlan std req view roles = .error (.escalateNowhere (escalateConstraint std req view)) := by
  simp only [headPlan, hvalid, hslot, monolithicPlan_eq, hscan]
  rfl

/-- An ask that passes the checks is answered exactly when some unlocked host has
a slot that serves its role, and the answer is such a slot: the asker's, if it
has one. -/
theorem head_plan_sound_complete (std : Platform N) (req : PlanRequest) (view : FleetView N)
    (roles : RoleCatalogue) (hvalid : validateAsk req roles = .ok ()) :
    ((∃ f, headPlan std req view roles = .ok f) ↔ ∃ hostKey, view.Offers hostKey req.role) ∧
      ((¬ ∃ hostKey, view.Offers hostKey req.role) →
        headPlan std req view roles =
          .error (.escalateNowhere (escalateConstraint std req view))) ∧
      ∀ f, headPlan std req view roles = .ok f → Answers req view f := by
  rcases hslot : view.bestSlot std req.nodeId req.role with _ | slot
  · have hlocal : ¬ view.Offers req.nodeId req.role := bestSlot_eq_none_iff.mp hslot
    rcases hscan : scan (Offer.better std) (offers std req view) with _ | offer
    · -- nobody offers
      have hplan := headPlan_nowhere hvalid hslot hscan
      have hnone : ¬ ∃ hostKey, view.Offers hostKey req.role := by
        rintro ⟨hostKey, hoffers⟩
        by_cases hasker : hostKey = req.nodeId
        · exact hlocal (hasker ▸ hoffers)
        · exact offers_eq_nil_iff.mp (scan_eq_none_iff.mp hscan) hostKey hasker hoffers
      rw [hplan]
      exact ⟨iff_of_false (by simp) hnone, fun _ => rfl, by simp⟩
    · have hplan := headPlan_remote hvalid hslot hscan
      have hanswers := answers_remote (mem_of_scan hscan) hlocal
      obtain ⟨host, slot, hhost, hlocked, hmem, hserves, -⟩ := hanswers.offered
      have hsome : ∃ hostKey, view.Offers hostKey req.role :=
        ⟨_, host, hhost, hlocked, slot, hmem, hserves⟩
      rw [hplan]
      refine ⟨iff_of_true ⟨_, rfl⟩ hsome, fun hnone => absurd hsome hnone, ?_⟩
      intro f hf
      rwa [← Except.ok.inj hf]
  · have hplan := headPlan_local hvalid hslot
    have hanswers := answers_local hslot "local plan satisfies this role"
    have hsome : ∃ hostKey, view.Offers hostKey req.role := ⟨_, hanswers.local_iff.mp rfl⟩
    rw [hplan]
    refine ⟨iff_of_true ⟨_, rfl⟩ hsome, fun hnone => absurd hsome hnone, ?_⟩
    intro f hf
    rwa [← Except.ok.inj hf]

end Head

/-! ## Two nodes -/

namespace Scenario

def rationals : Platform ℚ := .exact toString toString id

def coderSlot (name : String) (freeMb : ℚ) (healthy : Bool) : SlotView ℚ where
  slot := name
  modelId := "coder-7b"
  roles := ["coder"]
  healthy := healthy
  freeMb := freeMb
  resourceId := some "gpu.0"

/-- The slot of `node-a` is down, `node-b` has two that are up. -/
def twoNodes : FleetView ℚ where
  hosts := (∅ : StringMap (HostView ℚ)).insert "node-a" ⟨[coderSlot "a0" 8192 false], false⟩
    |>.insert "node-b" ⟨[coderSlot "b0" 2048 true, coderSlot "b1" 4096 true], false⟩
  latency := ⟨(∅ : StringMap (StringMap (Option ℚ))).insert "node-a"
    ((∅ : StringMap (Option ℚ)).insert "node-b" (some (1 / 2)))⟩

def askFromA : PlanRequest := ⟨"node-a", "coder"⟩

def catalogue : RoleCatalogue := ⟨["coder", "planner"]⟩

end Scenario

open Scenario in
theorem head_plan_sound_complete_two_nodes :
    ((∃ f, headPlan rationals askFromA twoNodes catalogue = .ok f) ↔
        ∃ hostKey, twoNodes.Offers hostKey "coder") ∧
      ((¬ ∃ hostKey, twoNodes.Offers hostKey "coder") →
        headPlan rationals askFromA twoNodes catalogue =
          .error (.escalateNowhere (escalateConstraint rationals askFromA twoNodes))) ∧
      ∀ f, headPlan rationals askFromA twoNodes catalogue = .ok f → Answers askFromA twoNodes f :=
  head_plan_sound_complete rationals askFromA twoNodes catalogue (by with_unfolding_all rfl)

end NautiFabric
