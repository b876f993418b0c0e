import NautiFabric.Host.HwInfo
import NautiFabric.Lib.StableSort

/-!
# NautiFabric.Host.Rdma — the adapter of the RDMA ports

A port that is leased may have gone down, or away, since it was found. So the adapter reads
sysfs again: `attach_again` says which of the ports that were found once it attaches, and
what it tells of them. Its report is healthy as long as it would attach some port
(`healthy_iff_attaches`).
-/

namespace NautiFabric

open StableSort

namespace HwInfo

/-- `Path::join`: an absolute path takes the place of the directory. -/
def joinPath (dir name : String) : String :=
  if startsWith "/" name then name else dir ++ "/" ++ name

/-- What the adapter sees of its host. -/
structure RdmaHost where
  sys : SysTree
  tools : HostTools

namespace RdmaAdapter

/-- The directory of a port, by the attributes of its resource. -/
def portDir (root device port : String) : String :=
  joinPath (joinPath (infiniband root) device ++ "/ports") port

def gidIndices (sys : SysTree) (portDir : String) : List ℕ :=
  sortByKey id ((sys.entries (portDir ++ "/gids")).filterMap (fromStrRadix 10 32))

/-- Whether a GID is a mapped IPv4 address of type RoCE v2. -/
def roceV2Ipv4 (sys : SysTree) (portDir : String) (i : String) : Bool :=
  let gid := (sys.read (portDir ++ "/gids/" ++ i)).getD ""
  let kind := (sys.read (portDir ++ "/gid_attrs/types/" ++ i)).getD ""
  kind == "RoCE v2" && startsWith "0000:0000:0000:0000:0000:ffff:" gid

def roceV2GidIndex (sys : SysTree) (root device port : String) : Option String :=
  let dir := portDir root device port
  ((gidIndices sys dir).map toString).find? (roceV2Ipv4 sys dir)

/-- The addresses of the interface in front of a port. -/
def netdevIpv4 (tools : HostTools) (live : Resource) : Option String :=
  (live.attributes["rdma.netdev"]?).bind fun netdev =>
    ((ipv4ByInterface tools.ipOutput)[netdev]?).map fun ips => ",".intercalate ips

/-- What is added to the attributes of a port, if there is something to add. -/
def optionalDetails (host : RdmaHost) (root device port : String) (live : Resource) :
    List (String × Option String) :=
  [("rdma.roce_v2_gid_index", roceV2GidIndex host.sys root device port),
    ("rdma.ipv4", netdevIpv4 host.tools live)]

def details (host : RdmaHost) (root device port : String) (live : Resource) :
    StringMap String :=
  (optionalDetails host root device port live).foldl Entries.insertSome
    (live.attributes.insert "attachment.scope" "rdma-port")

/-- `none` is the panic at an attribute that is not there. -/
def attach (root : String) (resource : Resource) (lease : Lease) (host : RdmaHost) :
    Option (Except FabricError Attachment) :=
  if startsWith "local.rdma." resource.id then
    match resource.attributes["rdma.device"]? with
    | none => some (.error (.missingResourceAttribute "rdma.device"))
    | some device =>
      let port := (resource.attributes["rdma.port"]?).getD "1"
      let ports := rdmaResources host.tools.rateText host.sys root resource.node
      match ports.find? fun r => r.id = resource.id with
      | none =>
        some (.error (.adapterBackendUnavailable "rdma"
          (device ++ " port " ++ port ++ " no longer in /sys/class/infiniband")))
      | some live =>
        if live.state = .available then
          some (.ok ⟨resource.id, lease.id, "rdma", details host root device port live⟩)
        else
          (live.attributes["rdma.state"]?).map fun state =>
            .error (.adapterBackendUnavailable "rdma"
              (device ++ " port " ++ port ++ " is " ++ state))
  else some (.error (.missingResourceAttribute "rdma.device"))

/-- The ports that are up, each with its rate; `none` is the panic. -/
def activePorts (ports : List Resource) : Option (List String) :=
  (ports.filter fun r => r.state = .available).mapM fun r =>
    (r.attributes["rdma.device"]?).bind fun device =>
      (r.attributes["rdma.rate"]?).map fun rate => device ++ ":" ++ rate

def capabilityReport (root : String) (host : RdmaHost) : Option AdapterReport :=
  let ports := rdmaResources host.tools.rateText host.sys root "local"
  (activePorts ports).map fun active =>
    { name := "rdma"
      scope := "rdma-roce-iwarp-ib"
      healthy := !active.isEmpty
      detail := .ofList
        [("rdma.ports", toString ports.length),
          ("rdma.active", if active.isEmpty then "none" else ",".intercalate active)] }

/-! ## The attributes of a port -/

section Ports

variable {rateText : RateText} {sys : SysTree} {root node : String} {p : RdmaPort}

theorem getElem?_asResource (p : RdmaPort) (k : String) :
    (p.asResource rateText sys root node).attributes[k]? =
      (((p.optionalAttrs sys root).lookup k).join).or ((p.attrs sys root).lookup k) := by
  have halways : ((p.attrs sys root).map Prod.fst).Nodup := by
    have hkeys : (p.attrs sys root).map Prod.fst = ["rdma.device", "rdma.port", "rdma.state",
        "rdma.rate", "rdma.link_layer", "rdma.transport"] := rfl
    rw [hkeys]
    decide
  have hoptional : ((p.optionalAttrs sys root).map Prod.fst).Nodup := by
    have hkeys : (p.optionalAttrs sys root).map Prod.fst =
        ["rdma.netdev", "rdma.numa_node", "rdma.driver", "rdma.gid0"] := rfl
    rw [hkeys]
    decide
  exact Entries.getElem?_build halways hoptional k

theorem device_asResource :
    (p.asResource rateText sys root node).attributes["rdma.device"]? = some p.device :=
  getElem?_asResource p _

theorem port_asResource :
    (p.asResource rateText sys root node).attributes["rdma.port"]? = some p.port :=
  getElem?_asResource p _

theorem state_asResource : (p.asResource rateText sys root node).attributes["rdma.state"]? =
    some (trim ((split ':' (p.state sys root)).getLast?.getD "")) :=
  getElem?_asResource p _

theorem rate_asResource :
    (p.asResource rateText sys root node).attributes["rdma.rate"]? = some (p.rate sys root) :=
  getElem?_asResource p _

theorem available_asResource :
    (p.asResource rateText sys root node).state = .available ↔ p.active sys root = true := by
  unfold RdmaPort.asResource
  split
  · simp_all
  · simp_all

/-- An index that a port lists, of a GID that a RoCE v2 job can use. -/
def Usable (sys : SysTree) (dir : String) (i : ℕ) : Prop :=
  (∃ name ∈ sys.entries (dir ++ "/gids"), fromStrRadix 10 32 name = some i) ∧
    roceV2Ipv4 sys dir (toString i) = true

theorem roceV2GidIndex_eq_some_iff {device port : String} {i : ℕ} :
    roceV2GidIndex sys root device port = some (toString i) ↔
      Usable sys (portDir root device port) i ∧
        ∀ j, Usable sys (portDir root device port) j → i ≤ j := by
  unfold roceV2GidIndex gidIndices Usable
  dsimp only
  generalize portDir root device port = dir
  rw [List.find?_map, Option.map_eq_some_iff]
  have hlisted : ∀ j, j ∈ (sys.entries (dir ++ "/gids")).filterMap (fromStrRadix 10 32) ↔
      ∃ name ∈ sys.entries (dir ++ "/gids"), fromStrRadix 10 32 name = some j :=
    fun j => List.mem_filterMap
  constructor
  · rintro ⟨j, hfind, htext⟩
    obtain rfl := toString_injective htext
    obtain ⟨hmem, husable, hleast⟩ := find?_sort.mp hfind
    refine ⟨⟨(hlisted j).mp hmem, husable⟩, ?_⟩
    intro k hk
    exact hleast k ((hlisted k).mpr hk.1) hk.2
  · rintro ⟨⟨hmem, husable⟩, hleast⟩
    refine ⟨i, find?_sort.mpr ⟨(hlisted i).mpr hmem, husable, ?_⟩, rfl⟩
    intro k hk hkusable
    exact hleast k ⟨(hlisted k).mp hk, hkusable⟩

theorem attach_isSome (root : String) (resource : Resource) (lease : Lease) (host : RdmaHost) :
    (attach root resource lease host).isSome = true := by
  unfold attach
  split
  · split
    · rfl
    · dsimp only
      split
      · rfl
      · rename_i live hfind
        split
        · rfl
        · obtain ⟨p, -, rfl⟩ := List.mem_map.mp (List.mem_of_find?_eq_some hfind)
          rw [state_asResource]
          rfl
  · rfl

end Ports

/-! ## A port that was found once -/

/-- What holds of the names of a port: a file name has no slash, and a port is a number. -/
structure Named (p : RdmaPort) : Prop where
  device : startsWith "/" p.device = false
  port : startsWith "/" p.port = false
  number : '.' ∉ p.port.toList

theorem portDir_eq {root : String} {p : RdmaPort} (h : Named p) :
    portDir root p.device p.port = p.dir root := by
  unfold portDir joinPath
  rw [h.device, h.port]
  simp only [Bool.false_eq_true, if_false]
  unfold RdmaPort.dir
  apply String.toList_injective
  simp only [String.toList_append, List.append_assoc]
  rfl

section Again

variable {before now : RdmaHost} {root node : String} {p : RdmaPort} {lease : Lease}

theorem find?_rdmaResources {rateText : RateText} {sys : SysTree}
    (hnow : ∀ q ∈ rdmaPorts sys root, Named q) (hp : Named p) :
    ((rdmaResources rateText sys root node).find? fun r => r.id = p.id) =
      if p ∈ rdmaPorts sys root then some (p.asResource rateText sys root node) else none := by
  unfold rdmaResources
  rw [List.find?_map]
  have hsame : ∀ q ∈ rdmaPorts sys root,
      ((fun r : Resource => decide (r.id = p.id)) ∘ RdmaPort.asResource rateText sys root node) q =
        decide (q = p) := by
    intro q hq
    apply decide_eq_decide.mpr
    constructor
    · intro hid
      exact RdmaPort.id_inj (hnow q hq).number hp.number hid
    · rintro rfl
      rfl
  split
  · rename_i hmem
    have hfind : (rdmaPorts sys root).find? ((fun r : Resource => decide (r.id = p.id)) ∘
        RdmaPort.asResource rateText sys root node) = some p := by
      rcases h : (rdmaPorts sys root).find? _ with _ | q
      · have hnot := List.find?_eq_none.mp h p hmem
        rw [hsame p hmem] at hnot
        simp at hnot
      · have hq := List.mem_of_find?_eq_some h
        have heq := List.find?_some h
        rw [hsame q hq] at heq
        rw [of_decide_eq_true heq]
    rw [hfind]
    rfl
  · rename_i hmem
    have hnone : (rdmaPorts sys root).find? ((fun r : Resource => decide (r.id = p.id)) ∘
        RdmaPort.asResource rateText sys root node) = none := by
      rw [List.find?_eq_none]
      intro q hq
      rw [hsame q hq, decide_eq_true_iff]
      rintro rfl
      exact hmem hq
    rw [hnone]
    rfl

theorem starts_id (p : RdmaPort) : startsWith "local.rdma." p.id = true := by
  unfold startsWith RdmaPort.id
  rw [List.isPrefixOf_iff_prefix, String.toList_append, String.toList_append,
    String.toList_append, List.append_assoc, List.append_assoc]
  exact List.prefix_append _ _

/-- The answer for a port that was found once: it is gone, it is not up, or it is attached. -/
theorem attach_asResource (hnow : ∀ q ∈ rdmaPorts now.sys root, Named q) (hp : Named p) :
    attach root (p.asResource before.tools.rateText before.sys root node) lease now = some
      (if p ∈ rdmaPorts now.sys root then
        if p.active now.sys root = true then
          .ok ⟨p.id, lease.id, "rdma", details now root p.device p.port
            (p.asResource now.tools.rateText now.sys root node)⟩
        else .error (.adapterBackendUnavailable "rdma" (p.device ++ " port " ++ p.port ++ " is " ++
          trim ((split ':' (p.state now.sys root)).getLast?.getD "")))
      else .error (.adapterBackendUnavailable "rdma"
        (p.device ++ " port " ++ p.port ++ " no longer in /sys/class/infiniband"))) := by
  unfold attach
  rw [device_asResource, port_asResource]
  have hid : (p.asResource before.tools.rateText before.sys root node).id = p.id := rfl
  have hnode : (p.asResource before.tools.rateText before.sys root node).node = node := rfl
  rw [hid, hnode, starts_id, if_pos rfl]
  dsimp only [Option.getD_some]
  rw [find?_rdmaResources hnow hp]
  by_cases hmem : p ∈ rdmaPorts now.sys root
  · rw [if_pos hmem, if_pos hmem]
    dsimp only
    by_cases hactive : p.active now.sys root = true
    · rw [if_pos hactive, if_pos (available_asResource.mpr hactive)]
    · rw [if_neg hactive, if_neg fun h => hactive (available_asResource.mp h), state_asResource]
      rfl
  · rw [if_neg hmem, if_neg hmem]

/-- What the adapter tells of a port: its attributes as they are now, and the first of the GIDs
that a RoCE v2 job can use. -/
structure Tells (host : RdmaHost) (root node : String) (p : RdmaPort) (lease : Lease)
    (a : Attachment) : Prop where
  resourceId : a.resourceId = p.id
  leaseId : a.leaseId = lease.id
  device : a.details["rdma.device"]? = some p.device
  port : a.details["rdma.port"]? = some p.port
  attributes : ∀ k ∉ ["attachment.scope", "rdma.roce_v2_gid_index", "rdma.ipv4"],
    a.details[k]? = (p.asResource host.tools.rateText host.sys root node).attributes[k]?
  gid : ∀ i : ℕ, a.details["rdma.roce_v2_gid_index"]? = some (toString i) ↔
    Usable host.sys (p.dir root) i ∧ ∀ j, Usable host.sys (p.dir root) j → i ≤ j

theorem getElem?_details {host : RdmaHost} {device port : String} {live : Resource} (k : String) :
    (details host root device port live)[k]? =
      (((optionalDetails host root device port live).lookup k).join).or
        (if "attachment.scope" = k then some "rdma-port" else live.attributes[k]?) := by
  have hnodup : ((optionalDetails host root device port live).map Prod.fst).Nodup := by
    have hkeys : (optionalDetails host root device port live).map Prod.fst =
        ["rdma.roce_v2_gid_index", "rdma.ipv4"] := rfl
    rw [hkeys]
    decide
  unfold details
  rw [Entries.getElem?_insertPresent hnodup, Table.getElem?_insert]

theorem tells_details (hp : Named p) : Tells now root node p lease
    ⟨p.id, lease.id, "rdma", details now root p.device p.port
      (p.asResource now.tools.rateText now.sys root node)⟩ := by
  have hattribute : ∀ k ∉ ["attachment.scope", "rdma.roce_v2_gid_index", "rdma.ipv4"],
      (details now root p.device p.port (p.asResource now.tools.rateText now.sys root node))[k]? =
        (p.asResource now.tools.rateText now.sys root node).attributes[k]? := by
    intro k hk
    have hscope : ¬ "attachment.scope" = k := fun h => hk (h ▸ List.mem_cons_self)
    have hnone : (optionalDetails now root p.device p.port
        (p.asResource now.tools.rateText now.sys root node)).lookup k = none :=
      Entries.lookup_of_not_mem fun hmem => hk (List.mem_cons_of_mem _ hmem)
    rw [getElem?_details, hnone, if_neg hscope]
    rfl
  refine ⟨rfl, rfl, ?_, ?_, hattribute, ?_⟩
  · exact (hattribute _ (by decide)).trans device_asResource
  · exact (hattribute _ (by decide)).trans port_asResource
  · intro i
    have hnone : (p.asResource now.tools.rateText now.sys root node).attributes[
        "rdma.roce_v2_gid_index"]? = none := getElem?_asResource p _
    rw [← portDir_eq hp, ← roceV2GidIndex_eq_some_iff, getElem?_details, hnone]
    have hlookup : (optionalDetails now root p.device p.port
        (p.asResource now.tools.rateText now.sys root node)).lookup "rdma.roce_v2_gid_index" =
          some (roceV2GidIndex now.sys root p.device p.port) := rfl
    rw [hlookup, if_neg (by decide)]
    simp

/-- A port that was found once is attached exactly when it is still there and up, whatever has
become of the host; and what is told of it is how it is now. -/
theorem attach_again (hbefore : ∀ p ∈ rdmaPorts before.sys root, Named p)
    (hnow : ∀ p ∈ rdmaPorts now.sys root, Named p) {r : Resource}
    (hr : r ∈ rdmaResources before.tools.rateText before.sys root node) (lease : Lease) :
    ∃ p ∈ rdmaPorts before.sys root, r.id = p.id ∧ ∃ answer,
      attach root r lease now = some answer ∧
        ((∃ a, answer = .ok a) ↔
          p ∈ rdmaPorts now.sys root ∧ p.active now.sys root = true) ∧
        ∀ a, answer = .ok a → Tells now root node p lease a := by
  obtain ⟨p, hmem, rfl⟩ := List.mem_map.mp hr
  have hp := hbefore p hmem
  refine ⟨p, hmem, rfl, _, attach_asResource hnow hp, ?_, ?_⟩
  · by_cases hthere : p ∈ rdmaPorts now.sys root
    · by_cases hactive : p.active now.sys root = true
      · simp [hthere, hactive]
      · simp [hthere, hactive]
    · simp [hthere]
  · intro a ha
    by_cases hthere : p ∈ rdmaPorts now.sys root
    · by_cases hactive : p.active now.sys root = true
      · rw [if_pos hthere, if_pos hactive] at ha
        obtain rfl := Except.ok.inj ha
        exact tells_details hp
      · rw [if_pos hthere, if_neg hactive] at ha
        cases ha
    · rw [if_neg hthere] at ha
      cases ha

/-! ## The report -/

theorem activePorts_map (ports : List RdmaPort) :
    activePorts (ports.map (RdmaPort.asResource now.tools.rateText now.sys root node)) = some
      ((ports.filter fun p => p.active now.sys root).map fun p =>
        p.device ++ ":" ++ p.rate now.sys root) := by
  unfold activePorts
  induction ports with
  | nil => rfl
  | cons p ports ih =>
      rw [List.map_cons]
      by_cases hactive : p.active now.sys root = true
      · have havailable : decide ((p.asResource now.tools.rateText now.sys root node).state =
            .available) = true := decide_eq_true (available_asResource.mpr hactive)
        rw [List.filter_cons_of_pos (p := fun r : Resource => decide (r.state = .available))
          havailable, List.mapM_cons, ih, List.filter_cons_of_pos hactive, device_asResource,
          rate_asResource]
        rfl
      · have hnot : ¬ decide ((p.asResource now.tools.rateText now.sys root node).state =
            .available) = true := by
          rw [decide_eq_true_iff]
          exact fun h => hactive (available_asResource.mp h)
        rw [List.filter_cons_of_neg (p := fun r : Resource => decide (r.state = .available))
          hnot, ih, List.filter_cons_of_neg hactive]

/-- The report does not panic, and it is healthy exactly when there is a port that the adapter
attaches. -/
theorem healthy_iff_attaches (hnow : ∀ p ∈ rdmaPorts now.sys root, Named p) (lease : Lease) :
    ∃ report, capabilityReport root now = some report ∧
      (report.healthy = true ↔
        ∃ r ∈ rdmaResources now.tools.rateText now.sys root "local", ∃ a,
          attach root r lease now = some (.ok a)) := by
  unfold capabilityReport rdmaResources
  dsimp only
  rw [activePorts_map]
  refine ⟨_, rfl, ?_⟩
  dsimp only
  rw [Bool.not_eq_true', List.isEmpty_eq_false_iff_exists_mem]
  constructor
  · rintro ⟨text, htext⟩
    obtain ⟨p, hp, -⟩ := List.mem_map.mp htext
    obtain ⟨hmem, hactive⟩ := List.mem_filter.mp hp
    refine ⟨_, List.mem_map_of_mem hmem, ⟨p.id, lease.id, "rdma", details now root p.device
      p.port (p.asResource now.tools.rateText now.sys root "local")⟩, ?_⟩
    rw [attach_asResource hnow (hnow p hmem), if_pos hmem, if_pos hactive]
  · rintro ⟨r, hr, a, hattach⟩
    obtain ⟨p, hmem, rfl⟩ := List.mem_map.mp hr
    rw [attach_asResource hnow (hnow p hmem), if_pos hmem] at hattach
    by_cases hactive : p.active now.sys root = true
    · exact ⟨_, List.mem_map_of_mem (List.mem_filter.mpr ⟨hmem, hactive⟩)⟩
    · rw [if_neg hactive] at hattach
      cases hattach

theorem capabilityReport_isSome (root : String) (host : RdmaHost) :
    (capabilityReport root host).isSome = true := by
  unfold capabilityReport rdmaResources
  dsimp only
  rw [activePorts_map]
  rfl

/-- The adapter, over a world in which the host can be seen. Neither call panics. -/
def adapter {W : Type} (root : String) (host : W → RdmaHost) : ResourceAdapter W where
  name := "rdma"
  attach resource lease w :=
    ((attach root resource lease (host w)).get (attach_isSome root resource lease (host w)), w)
  detach := ResourceAdapter.defaultDetach
  capabilityReport w :=
    (capabilityReport root (host w)).get (capabilityReport_isSome root (host w))

end Again

namespace Samples

def port : RdmaPort := ⟨"mlx5_0", "1"⟩

def reservation : Lease := ⟨7, port.id, "mission-a"⟩

/-- A host with one port, in some state. -/
def hostIn (state : String) : RdmaHost where
  sys :=
    { readDir := fun dir =>
        if dir = infiniband "/sys" then some ["mlx5_0"]
        else if dir = "/sys/class/infiniband/mlx5_0/ports" then some ["1"]
        else none
      readLink := fun _ => none
      readToString := fun path =>
        if path = "/sys/class/infiniband/mlx5_0/ports/1/state" then some state else none
      pathExists := fun _ => true
      canonicalize := fun _ => none }
  tools := ⟨fun _ => none, none⟩

theorem rdmaPorts_hostIn (state : String) : rdmaPorts (hostIn state).sys "/sys" = [port] := by
  have hdevices : (hostIn state).sys.entries (infiniband "/sys") = ["mlx5_0"] := by
    unfold SysTree.entries
    exact List.mergeSort_singleton _
  have hports : (hostIn state).sys.entries (infiniband "/sys" ++ "/" ++ "mlx5_0" ++ "/ports") =
      ["1"] := by
    unfold SysTree.entries
    exact List.mergeSort_singleton _
  unfold rdmaPorts
  rw [hdevices, List.flatMap_cons, hports]
  rfl

theorem named_hostIn (state : String) : ∀ p ∈ rdmaPorts (hostIn state).sys "/sys", Named p := by
  intro p hp
  rw [rdmaPorts_hostIn, List.mem_singleton] at hp
  subst hp
  exact ⟨by decide, by decide, by decide⟩

end Samples

open Samples in
theorem attach_again_down : ∃ answer,
    attach "/sys" (port.asResource (fun _ => none) (hostIn "4: ACTIVE").sys "/sys" "t440")
        reservation (hostIn "1: DOWN") = some answer ∧ ¬ ∃ a, answer = .ok a := by
  have hmem : port.asResource (fun _ => none) (hostIn "4: ACTIVE").sys "/sys" "t440" ∈
      rdmaResources (hostIn "4: ACTIVE").tools.rateText (hostIn "4: ACTIVE").sys "/sys" "t440" := by
    unfold rdmaResources
    rw [rdmaPorts_hostIn]
    exact List.mem_singleton_self _
  obtain ⟨p, hp, -, answer, hanswer, hiff, -⟩ := attach_again (named_hostIn "4: ACTIVE")
    (named_hostIn "1: DOWN") hmem reservation
  rw [rdmaPorts_hostIn, List.mem_singleton] at hp
  subst hp
  have hdown : port.active (hostIn "1: DOWN").sys "/sys" = false := by decide +kernel
  refine ⟨answer, hanswer, ?_⟩
  rw [hiff, hdown]
  simp

open Samples in
theorem healthy_iff_attaches_up : ∃ report,
    capabilityReport "/sys" (hostIn "4: ACTIVE") = some report ∧
      (report.healthy = true ↔
        ∃ r ∈ rdmaResources (hostIn "4: ACTIVE").tools.rateText (hostIn "4: ACTIVE").sys "/sys"
            "local", ∃ a, attach "/sys" r reservation (hostIn "4: ACTIVE") = some (.ok a)) :=
  healthy_iff_attaches (named_hostIn "4: ACTIVE") reservation

end RdmaAdapter

end HwInfo

end NautiFabric
