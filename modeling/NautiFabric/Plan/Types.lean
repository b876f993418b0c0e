import NautiFabric.Fabric.Types
import NautiFabric.Text

/-!
# NautiFabric.Plan.Types — asks, fragments, and the fleet as the head sees it

Free memory and round trips are `f64`s in the code. The planner subtracts,
multiplies, compares and prints them and does nothing else with them, so they
are a type `N` with these operations here, in a `Platform`, together with the
texts of the standard library. `Platform.exact` takes them as rationals.
-/

namespace NautiFabric

/-! ## Numbers and texts -/

structure Platform (N : Type) where
  sub : N → N → N
  mul : N → N → N
  ofNat : ℕ → N
  partialCmp : N → N → Option Ordering
  /-- `{}` of a number -/
  display : N → String
  /-- `{:.3}` of a number -/
  displayMillis : N → String
  /-- `{:?}` of a string -/
  debug : String → String

namespace Platform

/-- The operator `>`. -/
def gt {N : Type} (std : Platform N) (a b : N) : Bool := std.partialCmp a b == some .gt

/-- `partial_cmp(..).unwrap_or(Equal)`. -/
def cmpOrEqual {N : Type} (std : Platform N) (a b : N) : Ordering := (std.partialCmp a b).getD .eq

/-- Exact arithmetic. -/
def exact (display displayMillis : ℚ → String) (debug : String → String) : Platform ℚ where
  sub a b := a - b
  mul a b := a * b
  ofNat n := n
  partialCmp a b := some (compare a b)
  display := display
  displayMillis := displayMillis
  debug := debug

end Platform

/-! ## Asks, fragments, refusals -/

structure PlanRequest where
  nodeId : String
  role : String
deriving DecidableEq, Repr

structure PlanFragment (N : Type) where
  nodeId : String
  role : String
  hostKey : String
  slot : String
  modelId : String
  reason : String
  resourceId : Option String
  rttMs : Option N
deriving DecidableEq

inductive PlanReject where
  | unknownRole (role : String)
  | escalateNowhere (constraint : Option String)
  | missingField (field : String)
  | headUnreachable (detail : String)
  | badResponse (status : UInt16) (token detail : String)
  | unknownPlanner (kind : String)
  | badHeadUrl (detail : String)
deriving DecidableEq, Repr

namespace PlanReject

def reasonToken : PlanReject → String
  | unknownRole _ => "bad-enum"
  | escalateNowhere _ => "escalate-nowhere"
  | missingField _ => "missing-field"
  | headUnreachable _ => "backend-down"
  | badResponse _ token _ => token
  | unknownPlanner _ => "bad-enum"
  | badHeadUrl _ => "bad-enum"

/-- The status a head uses for the refusal, if a head comes to refuse at all. -/
def httpStatus : PlanReject → Option UInt16
  | unknownRole _ => some 404
  | escalateNowhere _ => some 403
  | missingField _ => some 422
  | badResponse status _ _ => some status
  | _ => none

end PlanReject

/-! ## The fleet -/

structure SlotView (N : Type) where
  slot : String
  modelId : String
  roles : List String
  healthy : Bool
  freeMb : N
  resourceId : Option String
deriving DecidableEq

/-- A slot without declared roles takes any, if it has a model. -/
def SlotView.serves {N : Type} (slot : SlotView N) (role : String) : Bool :=
  if !slot.healthy then false
  else if slot.roles.isEmpty then !slot.modelId.isEmpty
  else slot.roles.any fun r => r == role

structure HostView (N : Type) where
  slots : List (SlotView N)
  locked : Bool
deriving DecidableEq

structure LatencyMatrix (N : Type) where
  /-- the median round trip by source and target; a `null` cell is `none` -/
  rpcMedianMs : StringMap (StringMap (Option N))

/-- The measured median, if that pair was measured. -/
def LatencyMatrix.rttMs {N : Type} (latency : LatencyMatrix N) (source target : String) :
    Option N :=
  (latency.rpcMedianMs[source]?).bind fun row => (row[target]?).join

structure FleetView (N : Type) where
  hosts : StringMap (HostView N)
  latency : LatencyMatrix N

structure RoleCatalogue where
  roles : List String
deriving DecidableEq, Repr

def RoleCatalogue.contains (catalogue : RoleCatalogue) (role : String) : Bool :=
  catalogue.roles.any fun r => r == role

end NautiFabric
