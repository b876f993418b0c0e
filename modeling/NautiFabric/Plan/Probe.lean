import Mathlib.Algebra.Order.Floor.Semiring
import NautiFabric.Json
import NautiFabric.Plan.Types

/-!
# NautiFabric.Plan.Probe — a round trip from the probe to the planner

`nauti fleet` pings every node and writes a row for each into a fleet view; the
planner reads a `LatencyMatrix` from the view. A link that nobody measured
should read as no number at all. The row of a node that was reached and answered
no ping carries a median all the same.
-/

namespace NautiFabric

variable {N : Type}

/-! ## Reading a matrix -/

namespace LatencyMatrix

/-- A cell: a number, or `null`. -/
def decodeCell : Json N → Option (Option N)
  | .null => some none
  | .num value => some (some value)
  | _ => none

/-- A map, when every value of it decodes. -/
def decodeMap {V : Type} (decode : Json N → Option V) : Json N → Option (StringMap V)
  | .obj entries =>
    entries.foldlM (fun map entry => (decode entry.2).map fun value => map.insert entry.1 value) ∅
  | _ => none

def decodeRows : Json N → Option (LatencyMatrix N) := fun value =>
  (decodeMap (decodeMap decodeCell) value).map LatencyMatrix.mk

/-- `serde_json::from_value::<LatencyMatrix>`: the matrix itself, from an object or
from the list of its fields; without the field it is empty. -/
def decode : Json N → Option (LatencyMatrix N)
  | .obj entries =>
    match entries.lookup "rpc_median_ms" with
    | none => some ⟨∅⟩
    | some rows => decodeRows rows
  | .arr [] => some ⟨∅⟩
  | .arr [rows] => decodeRows rows
  | _ => none

/-- Add the cell of one node of a fleet view; a node without a name is skipped. -/
def addNode (row : StringMap (Option N)) (node : Json N) : StringMap (Option N) :=
  match (node.index "node").asStr with
  | none => row
  | some target => row.insert target ((node.index "rpc_rtt_ms").index "median").asF64

/-- The row of a fleet view, from the node that it was taken from. -/
def ofView (value : Json N) : LatencyMatrix N :=
  let source := (value.index "from").asStr.getD ""
  if source.isEmpty then ⟨∅⟩
  else
    let row := ((value.index "nodes").asArray.getD []).foldl addNode ∅
    if row.isEmpty then ⟨∅⟩ else ⟨(∅ : StringMap (StringMap (Option N))).insert source row⟩

/-- A matrix as it stands, unless it is empty; else the row of a fleet view. -/
def fromJson (value : Json N) : LatencyMatrix N :=
  match decode value with
  | some matrix => if matrix.rpcMedianMs.isEmpty then ofView value else matrix
  | none => ofView value

end LatencyMatrix

/-! ## The probe -/

/-- `f64::round`, of a number that is not negative, `as usize`. -/
def round (x : ℚ) : ℕ := ⌊x + 1 / 2⌋₊

/-- The sample at a percentile, `0.0` for no samples. The index is computed exactly:
for as many samples as a `u32` counts, `f64` arithmetic rounds to the same one. -/
def percentile (std : Platform N) (sorted : List N) (p : ℚ) : N :=
  if sorted.isEmpty then std.ofNat 0
  else (sorted[min (round ((sorted.length - 1 : ℕ) * p)) (sorted.length - 1)]?).getD (std.ofNat 0)

/-- The loop of pings: the times of those that are answered before the first that
fails or times out, at most `calls` of them. -/
def pingLoop (pings : ℕ → Option N) : (calls : ℕ) → (call : ℕ) → List N
  | 0, _ => []
  | calls + 1, call =>
    match pings call with
    | some ms => ms :: pingLoop pings calls (call + 1)
    | none => []

/-- A probe of a node whose agent was reached: what its calls return. -/
structure Reached (N : Type) where
  connectMs : N
  /-- the time of each ping, if it is answered -/
  pings : ℕ → Option N
  /-- the summary of the inventory, or `null` -/
  inventory : Json N

inductive ProbeOutcome (N : Type) where
  | badAddr (error : String)
  | connectFailed (error : String)
  | connectTimeout
  | reached (probe : Reached N)

/-- The times of the pings, sorted. -/
def Reached.rtts (std : Platform N) (samples : UInt32) (probe : Reached N) : List N :=
  (pingLoop probe.pings (max samples.toNat 1) 0).mergeSort fun a b => std.cmpOrEqual a b != .gt

/-- The row of a node that was not reached. -/
def offlineRow (node error : String) (paths : List (Json N)) : Json N :=
  .obj [("node", .str node), ("online", .bool false), ("error", .str error), ("paths", .arr paths)]

/-- The row of a node that was. -/
def reachedRow (std : Platform N) (node : String) (samples : UInt32) (paths : List (Json N))
    (probe : Reached N) : Json N :=
  let rtts := probe.rtts std samples
  .obj [
    ("node", .str node),
    ("online", .bool (!rtts.isEmpty)),
    ("connect_ms", .num probe.connectMs),
    ("rpc_rtt_ms", .obj [
      ("samples", .num (std.ofNat rtts.length)),
      ("min", .num (rtts.head?.getD (std.ofNat 0))),
      ("median", .num (percentile std rtts (1 / 2))),
      ("p95", .num (percentile std rtts (95 / 100))),
      ("max", .num (rtts.getLast?.getD (std.ofNat 0)))]),
    ("paths", .arr paths),
    ("resources", probe.inventory)]

/-- The JSON row that a probe emits. -/
def probeNode (std : Platform N) (node : String) (samples : UInt32) (paths : List (Json N)) :
    ProbeOutcome N → Json N
  | .badAddr error => offlineRow node ("bad addr file: " ++ error) paths
  | .connectFailed error => offlineRow node error paths
  | .connectTimeout => offlineRow node "connect timeout 15s" paths
  | .reached probe => reachedRow std node samples paths probe

/-- A view with one row. -/
def viewOf (source : String) (row : Json N) : Json N :=
  .obj [("from", .str source), ("nodes", .arr [row])]

/-! ## What the planner reads -/

/-- What the planner reads for a link is a number exactly when a ping was answered,
and then it is the middle sample. -/
def ReadsMeasured (std : Platform N) (source node : String) (samples : UInt32)
    (paths : List (Json N)) (probe : Reached N) : Prop :=
  let rtts := probe.rtts std samples
  let read := (LatencyMatrix.fromJson
    (viewOf source (probeNode std node samples paths (.reached probe)))).rttMs source node
  (read = none ↔ rtts = []) ∧ (rtts ≠ [] → read = rtts[round ((rtts.length - 1 : ℕ) / 2)]?)

theorem fromJson_viewOf (source : String) (row : Json N) :
    LatencyMatrix.fromJson (viewOf source row) = LatencyMatrix.ofView (viewOf source row) := by
  have hdecode : LatencyMatrix.decode (viewOf source row) = some ⟨∅⟩ := by
    simp [LatencyMatrix.decode, viewOf, List.lookup]
  unfold LatencyMatrix.fromJson
  rw [hdecode]
  simp

/-- From a named node, the planner reads the median of the row. -/
theorem rttMs_viewOf {source : String} (hsource : source ≠ "") (node : String) {row : Json N}
    (hnode : (row.index "node").asStr = some node) :
    (LatencyMatrix.ofView (viewOf source row)).rttMs source node =
      ((row.index "rpc_rtt_ms").index "median").asF64 := by
  have hsource' : source.isEmpty = false := by simpa using hsource
  have hfrom : ((viewOf source row).index "from").asStr.getD "" = source := by
    simp [viewOf, Json.index, Json.asStr, List.lookup]
  have hnodes : ((viewOf source row).index "nodes").asArray.getD [] = [row] := by
    simp [viewOf, Json.index, Json.asArray, List.lookup]
  unfold LatencyMatrix.ofView
  rw [hfrom, hnodes]
  simp [hsource', LatencyMatrix.addNode, hnode, LatencyMatrix.rttMs]

/-- From a node without a name, nothing is read. -/
theorem rttMs_viewOf_unnamed (node : String) (row : Json N) :
    (LatencyMatrix.ofView (viewOf "" row)).rttMs "" node = none := by
  have hfrom : ((viewOf "" row).index "from").asStr.getD "" = "" := by
    simp [viewOf, Json.index, Json.asStr, List.lookup]
  unfold LatencyMatrix.ofView
  rw [hfrom]
  simp [LatencyMatrix.rttMs]

theorem round_half (n : ℕ) : round ((n : ℚ) / 2) = (n + 1) / 2 := by
  have hsum : (n : ℚ) / 2 + 1 / 2 = ((n + 1 : ℕ) : ℚ) / (2 : ℕ) := by
    push_cast
    ring
  unfold round
  rw [hsum, Nat.floor_div_eq_div]

/-- The middle sample. -/
theorem percentile_half (std : Platform N) {sorted : List N} (h : sorted ≠ []) :
    some (percentile std sorted (1 / 2)) = sorted[round ((sorted.length - 1 : ℕ) / 2)]? := by
  have hpos : 0 < sorted.length := List.length_pos_iff.mpr h
  have hmul : ((sorted.length - 1 : ℕ) : ℚ) * (1 / 2) = ((sorted.length - 1 : ℕ) : ℚ) / 2 := by
    ring
  unfold percentile
  rw [if_neg (by simpa using h), hmul, round_half]
  have hmin : min ((sorted.length - 1 + 1) / 2) (sorted.length - 1) =
      (sorted.length - 1 + 1) / 2 := by
    omega
  have hlt : (sorted.length - 1 + 1) / 2 < sorted.length := by omega
  rw [hmin, List.getElem?_eq_getElem hlt, Option.getD_some]

/-- What the planner reads for the link to a node that was reached is measured
exactly when a ping was answered; or else when the view has no source, so that it
reads nothing of it. -/
theorem reads_measured_iff (std : Platform N) (source node : String) (samples : UInt32)
    (paths : List (Json N)) (probe : Reached N) :
    ReadsMeasured std source node samples paths probe ↔
      (source = "" ↔ probe.rtts std samples = []) := by
  unfold ReadsMeasured
  dsimp only
  rw [fromJson_viewOf]
  by_cases hsource : source = ""
  · subst hsource
    rw [rttMs_viewOf_unnamed]
    constructor
    · intro h
      exact iff_of_true rfl (h.1.mp rfl)
    · intro h
      have hnone := h.mp rfl
      exact ⟨iff_of_true rfl hnone, fun hsome => absurd hnone hsome⟩
  · have hnode : ((probeNode std node samples paths (.reached probe)).index "node").asStr =
        some node := by
      simp [probeNode, reachedRow, Json.index, Json.asStr, List.lookup]
    -- the row of the node has its name, and the median of the round trips
    have hmedian : (((probeNode std node samples paths (.reached probe)).index
        "rpc_rtt_ms").index "median").asF64 =
          some (percentile std (probe.rtts std samples) (1 / 2)) := by
      simp [probeNode, reachedRow, Json.index, Json.asF64, List.lookup]
    rw [rttMs_viewOf hsource node hnode, hmedian]
    constructor
    · intro h
      refine iff_of_false hsource ?_
      intro hnone
      have hread := h.1.mpr hnone
      cases hread
    · intro h
      have hsome : probe.rtts std samples ≠ [] := fun hnone => hsource (h.mpr hnone)
      exact ⟨iff_of_false (by simp) hsome, fun _ => percentile_half std hsome⟩

/-- The node is reached and its first ping times out: the planner reads `0.0` for the
link, as if it had been measured. -/
theorem unmeasured_read_as_zero :
    ¬ ∀ (source node : String) (samples : UInt32) (paths : List (Json ℚ)) (probe : Reached ℚ),
      ReadsMeasured (.exact toString toString id) source node samples paths probe := by
  intro hall
  have hmeasured := hall "head" "node-b" 5 [] ⟨2, fun _ => none, .null⟩
  have hiff := (reads_measured_iff _ "head" "node-b" 5 [] ⟨2, fun _ => none, .null⟩).mp hmeasured
  have hnone : (Reached.rtts (.exact toString toString id) 5 ⟨2, fun _ => none, .null⟩ : List ℚ) =
      [] := by
    decide +kernel
  have hsource : "head" = "" := hiff.mpr hnone
  exact absurd hsource (by decide)

end NautiFabric
