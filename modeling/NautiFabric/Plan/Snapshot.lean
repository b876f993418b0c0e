import NautiFabric.Json
import NautiFabric.Lib.Table
import NautiFabric.Plan.Placement
import NautiFabric.Plan.Probe

/-!
# NautiFabric.Plan.Snapshot — a fleet view from a snapshot

A snapshot names its hosts in an envelope (`nodes`, `hosts` or `fleet`) or at the top, and
a host its slots in a list, in an object by name, or at its own top. The code goes over an
object in the order of its entries here, which is that of the keys.

`snapshot_encodings` says which of these shapes read alike. A slot is read by a derived
deserializer, which takes a list of fields for an object: `dropsNonObjects_iff` says when
no slot is made of anything but an object.
-/

namespace NautiFabric

variable {N : Type}

/-! ## Slots -/

/-- `Vec<String>` -/
def decodeStrings : Json N → Option (List String)
  | .arr items => items.mapM Json.asStr
  | _ => none

/-- `Option<String>` -/
def decodeOptional : Json N → Option (Option String)
  | .null => some none
  | .str value => some (some value)
  | _ => none

/-- A field with a default. -/
def readField {α : Type} (found : Option (Json N)) (default : α) (read : Json N → Option α) :
    Option α :=
  match found with
  | none => some default
  | some value => read value

/-- The fields of a slot, found by their name or by their position. -/
def SlotView.ofFields (std : Platform N) (field : String → ℕ → Option (Json N)) :
    Option (SlotView N) := do
  let slot ← readField (field "slot" 0) "" Json.asStr
  let modelId ← readField (field "model_id" 1) "" Json.asStr
  let roles ← readField (field "roles" 2) [] decodeStrings
  let healthy ← readField (field "healthy" 3) true Json.asBool
  let freeMb ← readField (field "free_mb" 4) (std.ofNat 0) Json.asF64
  let resourceId ← readField (field "resource_id" 5) none decodeOptional
  return ⟨slot, modelId, roles, healthy, freeMb, resourceId⟩

/-- `serde_json::from_value::<SlotView>`: from an object, or from a list of the fields in
their order, of which the last ones may be missing. -/
def SlotView.decode (std : Platform N) : Json N → Option (SlotView N)
  | .obj entries => SlotView.ofFields std fun name _ => entries.lookup name
  | .arr items =>
    if items.length ≤ 6 then SlotView.ofFields std fun _ position => items[position]? else none
  | _ => none

/-- One turn of the loop over the items of a host. -/
def readSlot (std : Platform N) (item : String × Json N) : Option (SlotView N) :=
  match SlotView.decode std item.2 with
  | none => none
  | some slot => some (if slot.slot.isEmpty then { slot with slot := item.1 } else slot)

/-! ## Hosts -/

/-- The items of a host's slots, each with its index or its key. -/
def slotItems (info : List (String × Json N)) : List (String × Json N) :=
  -- without slots, the host itself is read as the slots
  match (info.lookup "slots").getD (.obj info) with
  | .arr list => list.zipIdx.map fun (item, i) => (toString i, item)
  | .obj map => map
  | _ => []

def HostView.ofInfo (std : Platform N) (info : List (String × Json N)) : HostView N where
  slots := (slotItems info).filterMap (readSlot std)
  locked := ((info.lookup "locked").bind Json.asBool).getD false

/-! ## Snapshots -/

/-- The entries of the envelope, if there is one, or else of the whole. -/
def hostEntries (value : Json N) : Option (List (String × Json N)) :=
  (["nodes", "hosts", "fleet"].findSome? fun key => (value.index key).asObject).or value.asObject

/-- One turn of the loop over the hosts. -/
def insertHost (std : Platform N) (hosts : StringMap (HostView N)) (entry : String × Json N) :
    StringMap (HostView N) :=
  match entry.2.asObject with
  -- the envelope's own keys
  | none => hosts
  | some info => hosts.insert entry.1 (.ofInfo std info)

def FleetView.fromSnapshotJson (std : Platform N) (value : Json N) : FleetView N :=
  match hostEntries value with
  | none => ⟨∅, ⟨∅⟩⟩
  | some entries => ⟨entries.foldl (insertHost std) ∅, LatencyMatrix.fromJson value⟩

/-! ## The host of a view -/

/-- The objects under the names of hosts. -/
def hostObjects (value : Json N) : List (String × List (String × Json N)) :=
  ((hostEntries value).getD []).filterMap fun entry =>
    entry.2.asObject.map fun info => (entry.1, info)

/-- The object of a host; of two under one name the last stands. -/
def hostInfo (value : Json N) (hostKey : String) : Option (List (String × Json N)) :=
  ((hostObjects value).reverse.find? fun entry => entry.1 = hostKey).map Prod.snd

/-- What a view holds of a host is read from its own object, and from nothing else. -/
theorem getElem?_hosts (std : Platform N) (value : Json N) (hostKey : String) :
    (FleetView.fromSnapshotJson std value).hosts[hostKey]? =
      (hostInfo value hostKey).map (HostView.ofInfo std) := by
  have hfold : (FleetView.fromSnapshotJson std value).hosts =
      (hostObjects value).foldl
        (fun hosts entry => hosts.insert entry.1 (.ofInfo std entry.2)) ∅ := by
    unfold FleetView.fromSnapshotJson hostObjects
    rcases hostEntries value with _ | entries
    · rfl
    · rw [Option.getD_some, List.foldl_filterMap]
      dsimp only
      congr 1
      funext hosts entry
      unfold insertHost
      rcases entry.2.asObject with _ | info
      · rfl
      · rfl
  rw [hfold, Table.getElem?_foldl_insert Prod.fst (fun entry => HostView.ofInfo std entry.2)]
  rw [hostInfo, Option.map_map]
  simp [Function.comp_def]

/-! ## Encodings of a snapshot -/

/-- An object that maps names of hosts to objects. -/
structure HostMap (entries : List (String × Json N)) : Prop where
  distinct : (entries.map Prod.fst).Nodup
  names : ∀ name ∈ ["nodes", "hosts", "fleet", "rpc_median_ms", "from"],
    name ∉ entries.map Prod.fst
  objects : ∀ entry ∈ entries, ∃ info, entry.2 = .obj info

/-- The snapshots of a map of hosts: in one of the envelopes, or bare. -/
def encodings (entries : List (String × Json N)) : List (Json N) :=
  [.obj [("nodes", .obj entries)], .obj [("hosts", .obj entries)], .obj [("fleet", .obj entries)],
    .obj entries]

/-- The value has no name of its own: no `slot`, or an empty one. -/
def Unnamed (value : Json N) : Prop :=
  ∃ fields, value = .obj fields ∧
    (fields.lookup "slot" = none ∨ fields.lookup "slot" = some (.str ""))

theorem unnamed_obj {fields : List (String × Json N)} : Unnamed (.obj fields) ↔
    fields.lookup "slot" = none ∨ fields.lookup "slot" = some (.str "") := by
  constructor
  · rintro ⟨fields', heq, h⟩
    rw [Json.obj.inj heq]
    exact h
  · intro h
    exact ⟨fields, rfl, h⟩

/-- A slot of an object of slots, as an item of a list: with its key for a name, if it has
none of its own. -/
def nameSlot (entry : String × Json N) : Json N :=
  match entry.2 with
  | .obj fields =>
    match fields.lookup "slot" with
    | none => .obj (Json.setEntry "slot" (.str entry.1) fields)
    | some (.str "") => .obj (Json.setEntry "slot" (.str entry.1) fields)
    | some _ => .obj fields
  | value => value

/-- The host with its slots as a list. -/
def listSlots (info slots : List (String × Json N)) : List (String × Json N) :=
  Json.setEntry "slots" (.arr (slots.map nameSlot)) info

/-- Where the names are different, the object of a host is what stands under its name. -/
theorem hostInfo_of_hostEntries {value : Json N} {entries : List (String × Json N)}
    (hentries : hostEntries value = some entries) (hdistinct : (entries.map Prod.fst).Nodup)
    (hostKey : String) : hostInfo value hostKey = (entries.lookup hostKey).bind Json.asObject := by
  rw [hostInfo, hostObjects, hentries, Option.getD_some]
  -- induction on the entries: with distinct keys the first one of a key is the last one
  clear hentries
  induction entries with
  | nil => rfl
  | cons entry entries ih =>
      obtain ⟨name, inner⟩ := entry
      rw [List.map_cons, List.nodup_cons] at hdistinct
      have hrest := ih hdistinct.2
      rw [Entries.lookup_entry]
      rcases hinfo : inner.asObject with _ | info
      · rw [List.filterMap_cons_none (by rw [hinfo]; rfl), hrest]
        by_cases hk : hostKey = name
        · subst hk
          rw [if_pos rfl, Entries.lookup_of_not_mem hdistinct.1, Option.bind_some, hinfo,
            Option.bind_none]
        · rw [if_neg hk]
      · rw [List.filterMap_cons_some (by rw [hinfo]; rfl), List.reverse_cons, List.find?_append]
        by_cases hk : hostKey = name
        · subst hk
          rw [Entries.lookup_of_not_mem hdistinct.1, Option.bind_none] at hrest
          rw [Option.map_eq_none_iff.mp hrest, if_pos rfl, Option.bind_some, hinfo]
          simp
        · have hne : name ≠ hostKey := fun h => hk h.symm
          rw [if_neg hk, ← hrest]
          simp [hne]

theorem fromJson_of_none {entries : List (String × Json N)}
    (hmedians : entries.lookup "rpc_median_ms" = none) (hfrom : entries.lookup "from" = none) :
    LatencyMatrix.fromJson (.obj entries) = ⟨∅⟩ := by
  have hdecode : LatencyMatrix.decode (.obj entries) = some ⟨∅⟩ := by
    rw [LatencyMatrix.decode, hmedians]
  have hview : LatencyMatrix.ofView (.obj entries) = ⟨∅⟩ := by
    simp [LatencyMatrix.ofView, Json.index, Json.asStr, hfrom]
  rw [LatencyMatrix.fromJson, hdecode, hview]
  simp

/-- Read from any of its encodings, a map of hosts is found, and no latency. -/
theorem hostEntries_encodings {entries : List (String × Json N)} (h : HostMap entries)
    {value : Json N} (hvalue : value ∈ encodings entries) :
    hostEntries value = some entries ∧ LatencyMatrix.fromJson value = ⟨∅⟩ := by
  have hnone : ∀ name ∈ ["nodes", "hosts", "fleet", "rpc_median_ms", "from"],
      entries.lookup name = none := fun name hname => Entries.lookup_of_not_mem (h.names name hname)
  have hnodes := hnone "nodes" (by simp)
  have hhosts := hnone "hosts" (by simp)
  have hfleet := hnone "fleet" (by simp)
  simp only [encodings, List.mem_cons, List.not_mem_nil, or_false] at hvalue
  rcases hvalue with rfl | rfl | rfl | rfl
  · exact ⟨rfl, fromJson_of_none rfl rfl⟩
  · exact ⟨rfl, fromJson_of_none rfl rfl⟩
  · exact ⟨rfl, fromJson_of_none rfl rfl⟩
  · refine ⟨?_, fromJson_of_none (hnone _ (by simp)) (hnone _ (by simp))⟩
    simp [hostEntries, Json.index, Json.asObject, hnodes, hhosts, hfleet]

theorem fromSnapshotJson_encodings (std : Platform N) {entries : List (String × Json N)}
    (h : HostMap entries) {value : Json N} (hvalue : value ∈ encodings entries) :
    FleetView.fromSnapshotJson std value = ⟨entries.foldl (insertHost std) ∅, ⟨∅⟩⟩ := by
  obtain ⟨hentries, hlatency⟩ := hostEntries_encodings h hvalue
  rw [FleetView.fromSnapshotJson, hentries, hlatency]

theorem bare_mem_encodings (entries : List (String × Json N)) :
    .obj entries ∈ encodings entries := by
  simp [encodings]

/-- The view of a host is read from its own object. -/
theorem getElem?_hosts_of_mem (std : Platform N) {entries : List (String × Json N)}
    (h : HostMap entries) {value : Json N} (hvalue : value ∈ encodings entries) {hostKey : String}
    {info : List (String × Json N)} (hmem : (hostKey, .obj info) ∈ entries) :
    (FleetView.fromSnapshotJson std value).hosts[hostKey]? = some (.ofInfo std info) := by
  rw [getElem?_hosts, hostInfo_of_hostEntries (hostEntries_encodings h hvalue).1 h.distinct,
    Entries.lookup_of_mem h.distinct hmem]
  rfl

/-! ## Slots in an object and in a list -/

/-- A name given to a slot that had none is the name that is read. -/
theorem ofFields_named (std : Platform N) (field after : String → ℕ → Option (Json N))
    {key : String} (hslot : field "slot" 0 = none ∨ field "slot" 0 = some (.str ""))
    (hslot' : after "slot" 0 = some (.str key))
    (hsame : ∀ name i, name ≠ "slot" → after name i = field name i) :
    SlotView.ofFields std after =
        (SlotView.ofFields std field).map (fun slot => { slot with slot := key }) ∧
      ∀ slot, SlotView.ofFields std field = some slot → slot.slot = "" := by
  have hread : readField (field "slot" 0) "" Json.asStr = some "" := by
    rcases hslot with hslot | hslot
    · rw [hslot]
      rfl
    · rw [hslot]
      rfl
  have hread' : readField (after "slot" 0) "" Json.asStr = some key := by
    rw [hslot']
    rfl
  unfold SlotView.ofFields
  rw [hread, hread', hsame "model_id" 1 (by decide), hsame "roles" 2 (by decide),
    hsame "healthy" 3 (by decide), hsame "free_mb" 4 (by decide),
    hsame "resource_id" 5 (by decide)]
  -- the other fields are read alike, and where one fails both fail
  rcases readField (field "model_id" 1) "" Json.asStr with _ | modelId
  · simp
  rcases readField (field "roles" 2) [] decodeStrings with _ | roles
  · simp
  rcases readField (field "healthy" 3) true Json.asBool with _ | healthy
  · simp
  rcases readField (field "free_mb" 4) (std.ofNat 0) Json.asF64 with _ | freeMb
  · simp
  rcases readField (field "resource_id" 5) none decodeOptional with _ | resourceId
  · simp
  · refine ⟨rfl, ?_⟩
    intro slot heq
    rw [← Option.some.inj heq]

/-- What a slot is read as, with its key for a name if it has none. -/
theorem readSlot_obj (std : Platform N) (key : String) (fields : List (String × Json N)) :
    readSlot std (key, .obj fields) =
      (SlotView.ofFields std fun name _ => fields.lookup name).map fun slot =>
        if slot.slot.isEmpty then { slot with slot := key } else slot := by
  rw [readSlot, SlotView.decode]
  rcases SlotView.ofFields std fun name _ => fields.lookup name with _ | slot
  · rfl
  · rfl

theorem nameSlot_of_unnamed {key : String} {fields : List (String × Json N)}
    (h : Unnamed (.obj fields)) :
    nameSlot (key, .obj fields) = .obj (Json.setEntry "slot" (.str key) fields) := by
  rcases unnamed_obj.mp h with h | h
  · simp [nameSlot, h]
  · simp [nameSlot, h]

theorem nameSlot_of_named {key : String} {fields : List (String × Json N)}
    (h : ¬ Unnamed (.obj fields)) : nameSlot (key, .obj fields) = .obj fields := by
  rw [unnamed_obj] at h
  push Not at h
  unfold nameSlot
  dsimp only
  split
  · rename_i hslot
    exact absurd hslot h.1
  · rename_i hslot
    exact absurd hslot h.2
  · rfl

/-- A name of its own is the name that is read. -/
theorem slot_of_named {std : Platform N} {fields : List (String × Json N)} {slot : SlotView N}
    (h : ¬ Unnamed (.obj fields))
    (hread : SlotView.ofFields std (fun name _ => fields.lookup name) = some slot) :
    slot.slot ≠ "" := by
  rw [unnamed_obj] at h
  push Not at h
  obtain ⟨name, hname, hrest⟩ := Option.bind_eq_some_iff.mp hread
  -- the name is the first field that is read
  have hslot : slot.slot = name := by
    obtain ⟨_, -, hrest⟩ := Option.bind_eq_some_iff.mp hrest
    obtain ⟨_, -, hrest⟩ := Option.bind_eq_some_iff.mp hrest
    obtain ⟨_, -, hrest⟩ := Option.bind_eq_some_iff.mp hrest
    obtain ⟨_, -, hrest⟩ := Option.bind_eq_some_iff.mp hrest
    obtain ⟨_, -, hrest⟩ := Option.bind_eq_some_iff.mp hrest
    rw [← Option.some.inj hrest]
  rw [hslot]
  rintro rfl
  rcases hlookup : fields.lookup "slot" with _ | value
  · exact h.1 hlookup
  · dsimp only at hname
    rw [hlookup] at hname
    rcases value with _ | _ | _ | text | _ | _
    · cases hname
    · cases hname
    · cases hname
    · have htext : text = "" := Option.some.inj hname
      rw [htext] at hlookup
      exact h.2 hlookup
    · cases hname
    · cases hname

/-- Named by its key, a slot is read alike at any place of a list. -/
theorem readSlot_nameSlot (std : Platform N) {key : String} {fields : List (String × Json N)}
    (hkey : key = "" → ¬ Unnamed (.obj fields)) (i : String) :
    readSlot std (i, nameSlot (key, .obj fields)) = readSlot std (key, .obj fields) := by
  by_cases hunnamed : Unnamed (.obj fields)
  · have hne : key ≠ "" := fun h => hkey h hunnamed
    have hslot' : (Json.setEntry "slot" (.str key) fields).lookup "slot" = some (.str key) := by
      rw [Json.lookup_setEntry, if_pos rfl]
    obtain ⟨hnamed, hempty⟩ := ofFields_named std (fun name _ => fields.lookup name)
      (fun name _ => (Json.setEntry "slot" (.str key) fields).lookup name)
      (unnamed_obj.mp hunnamed) hslot' fun name _ hname => by
        rw [Json.lookup_setEntry, if_neg hname]
    rw [nameSlot_of_unnamed hunnamed, readSlot_obj, readSlot_obj, hnamed]
    rcases hread : SlotView.ofFields std (fun name _ => fields.lookup name) with _ | slot
    · rfl
    · simp [hempty slot hread, hne]
  · rw [nameSlot_of_named hunnamed, readSlot_obj, readSlot_obj]
    rcases hread : SlotView.ofFields std (fun name _ => fields.lookup name) with _ | slot
    · rfl
    · have hne : slot.slot ≠ "" := slot_of_named hunnamed hread
      simp [hne]

/-- Read from the list of its slots, a host is read as from the object. -/
theorem ofInfo_listSlots (std : Platform N) {info slots : List (String × Json N)}
    (hslots : info.lookup "slots" = some (.obj slots))
    (hnamed : ∀ slot ∈ slots, (∃ fields, slot.2 = .obj fields) ∧
      (slot.1 = "" → ¬ Unnamed slot.2)) :
    HostView.ofInfo std (listSlots info slots) = HostView.ofInfo std info := by
  have hlist : slotItems (listSlots info slots) =
      (slots.map nameSlot).zipIdx.map fun (item, i) => (toString i, item) := by
    rw [slotItems, listSlots, Json.lookup_setEntry, if_pos rfl]
    rfl
  have hobject : slotItems info = slots := by
    rw [slotItems, hslots]
    rfl
  have hlocked : (listSlots info slots).lookup "locked" = info.lookup "locked" := by
    rw [listSlots, Json.lookup_setEntry, if_neg (by decide)]
  -- one slot after the other, with the index that it has got to
  have hread : ∀ n, (((slots.map nameSlot).zipIdx n).map fun (item, i) =>
      (toString i, item)).filterMap (readSlot std) = slots.filterMap (readSlot std) := by
    clear hslots hlist hobject hlocked
    induction slots with
    | nil => exact fun _ => rfl
    | cons slot slots ih =>
        intro n
        rw [List.forall_mem_cons] at hnamed
        obtain ⟨⟨⟨fields, hfields⟩, hkey⟩, hrest⟩ := hnamed
        obtain ⟨key, value⟩ := slot
        dsimp only at hfields hkey
        subst hfields
        rw [List.map_cons, List.zipIdx_cons, List.map_cons, List.filterMap_cons,
          List.filterMap_cons, ih hrest (n + 1)]
        dsimp only
        rw [readSlot_nameSlot std hkey]
  rw [HostView.ofInfo, HostView.ofInfo, hlist, hread 0, hobject, hlocked]

theorem mem_setEntry {key : String} {value : Json N} {entries : List (String × Json N)}
    {entry : String × Json N} (h : entry ∈ Json.setEntry key value entries) :
    entry = (key, value) ∨ entry ∈ entries := by
  induction entries with
  | nil => exact Or.inl (List.mem_singleton.mp h)
  | cons head entries ih =>
      rw [Json.setEntry] at h
      split at h
      · rcases List.mem_cons.mp h with h | h
        · exact Or.inl h
        · exact Or.inr (List.mem_cons_of_mem head h)
      · rcases List.mem_cons.mp h with h | h
        · exact Or.inr (h ▸ List.mem_cons_self)
        · rcases ih h with h | h
          · exact Or.inl h
          · exact Or.inr (List.mem_cons_of_mem head h)

/-- Another object for one of its hosts makes another map of the same hosts. -/
theorem HostMap.setEntry {entries : List (String × Json N)} (h : HostMap entries)
    {hostKey : String} (hmem : hostKey ∈ entries.map Prod.fst) (info : List (String × Json N)) :
    HostMap (Json.setEntry hostKey (.obj info) entries) := by
  have hkeys := Json.keys_setEntry hmem (.obj info)
  refine ⟨?_, ?_, ?_⟩
  · rw [hkeys]
    exact h.distinct
  · rw [hkeys]
    exact h.names
  · intro entry hentry
    rcases mem_setEntry hentry with rfl | hentry
    · exact ⟨info, rfl⟩
    · exact h.objects entry hentry

theorem hosts_listSlots (std : Platform N) {hosts : List (String × Json N)} (h : HostMap hosts)
    {hostKey : String} {info slots : List (String × Json N)}
    (hmem : (hostKey, .obj info) ∈ hosts) (hslots : info.lookup "slots" = some (.obj slots))
    (hnamed : ∀ slot ∈ slots, (∃ fields, slot.2 = .obj fields) ∧
      (slot.1 = "" → ¬ Unnamed slot.2)) {value value' : Json N} (hvalue : value ∈ encodings hosts)
    (hvalue' : value' ∈ encodings (Json.setEntry hostKey (.obj (listSlots info slots)) hosts)) :
    (FleetView.fromSnapshotJson std value').hosts =
      (FleetView.fromSnapshotJson std value).hosts := by
  have hkey : hostKey ∈ hosts.map Prod.fst := List.mem_map.mpr ⟨_, hmem, rfl⟩
  have h' := h.setEntry hkey (listSlots info slots)
  apply Std.ExtTreeMap.ext_getElem?
  intro k
  rw [getElem?_hosts, getElem?_hosts,
    hostInfo_of_hostEntries (hostEntries_encodings h' hvalue').1 h'.distinct,
    hostInfo_of_hostEntries (hostEntries_encodings h hvalue).1 h.distinct, Json.lookup_setEntry]
  by_cases hk : k = hostKey
  · subst hk
    rw [if_pos rfl, Entries.lookup_of_mem h.distinct hmem]
    exact congrArg some (ofInfo_listSlots std hslots hnamed)
  · rw [if_neg hk]

/-- The encodings of a snapshot: the envelopes and the bare map read alike; a host with
its slots in an object, where no slot without a name stands under the empty key, and with
them in a list read alike; and the view of a host is read from its own object. -/
theorem snapshot_encodings (std : Platform N) {hosts : List (String × Json N)}
    (h : HostMap hosts) :
    (∀ value ∈ encodings hosts, FleetView.fromSnapshotJson std value =
      FleetView.fromSnapshotJson std (.obj hosts)) ∧
    (∀ hostKey info slots, (hostKey, .obj info) ∈ hosts →
      info.lookup "slots" = some (.obj slots) →
      (∀ slot ∈ slots, (∃ fields, slot.2 = .obj fields) ∧ (slot.1 = "" → ¬ Unnamed slot.2)) →
      ∀ value ∈ encodings hosts,
      ∀ value' ∈ encodings (Json.setEntry hostKey (.obj (listSlots info slots)) hosts),
        FleetView.fromSnapshotJson std value' = FleetView.fromSnapshotJson std value) ∧
    (∀ hosts', HostMap hosts' → ∀ hostKey info, (hostKey, .obj info) ∈ hosts →
      (hostKey, .obj info) ∈ hosts' → ∀ value ∈ encodings hosts, ∀ value' ∈ encodings hosts',
        (FleetView.fromSnapshotJson std value').hosts[hostKey]? =
          (FleetView.fromSnapshotJson std value).hosts[hostKey]?) := by
  refine ⟨?_, ?_, ?_⟩
  · intro value hvalue
    rw [fromSnapshotJson_encodings std h hvalue,
      fromSnapshotJson_encodings std h (bare_mem_encodings hosts)]
  · intro hostKey info slots hmem hslots hnamed value hvalue value' hvalue'
    -- only the hosts are built from the slots; the measurements are read off the whole
    have hhosts := hosts_listSlots std h hmem hslots hnamed hvalue hvalue'
    have hkey : hostKey ∈ hosts.map Prod.fst := List.mem_map.mpr ⟨_, hmem, rfl⟩
    rw [fromSnapshotJson_encodings std (h.setEntry hkey _) hvalue',
      fromSnapshotJson_encodings std h hvalue] at hhosts ⊢
    dsimp only at hhosts
    rw [hhosts]
  · intro hosts' h' hostKey info hmem hmem' value hvalue value' hvalue'
    rw [getElem?_hosts_of_mem std h' hvalue' hmem', getElem?_hosts_of_mem std h hvalue hmem]

namespace Scenario

/-- Two hosts, one with its slots in an object. -/
def twoHosts (key : String) : List (String × Json ℚ) :=
  [("a", .obj [("slots", .obj [(key, .obj [("model_id", .str "KAT")])])]),
   ("b", .obj [("locked", .bool true)])]

/-- The first of them, with its slots in a list. -/
def twoHostsListed (key : String) : List (String × Json ℚ) :=
  [("a", .obj [("slots", .arr [.obj [("model_id", .str "KAT"), ("slot", .str key)]])]),
   ("b", .obj [("locked", .bool true)])]

theorem twoHosts_hostMap (key : String) : HostMap (twoHosts key) where
  distinct := by simp [twoHosts]
  names := by simp [twoHosts]
  objects := by simp [twoHosts]

end Scenario

open Scenario in
theorem snapshot_encodings_two_hosts :
    FleetView.fromSnapshotJson rationals (.obj [("fleet", .obj (twoHostsListed "lane"))]) =
      FleetView.fromSnapshotJson rationals (.obj [("nodes", .obj (twoHosts "lane"))]) := by
  have hencodings := (snapshot_encodings rationals (twoHosts_hostMap "lane")).2.1 "a"
    [("slots", .obj [("lane", .obj [("model_id", .str "KAT")])])]
    [("lane", .obj [("model_id", .str "KAT")])] List.mem_cons_self rfl
  apply hencodings
  · intro slot hslot
    rw [List.mem_singleton] at hslot
    subst hslot
    exact ⟨⟨_, rfl⟩, fun hempty => absurd hempty (by decide)⟩
  · simp [encodings]
  · have hset : Json.setEntry "a" (.obj (listSlots
        [("slots", .obj [("lane", .obj [("model_id", .str "KAT")])])]
        [("lane", .obj [("model_id", .str "KAT")])])) (twoHosts "lane") =
        twoHostsListed "lane" := rfl
    rw [hset]
    simp [encodings]

open Scenario in
/-- Under the empty key, a slot has an empty name in the object, and its index for a name in
the list. -/
theorem empty_key_reads_differently :
    ¬ ∀ hosts : List (String × Json ℚ), HostMap hosts → ∀ hostKey info slots,
      (hostKey, .obj info) ∈ hosts → info.lookup "slots" = some (.obj slots) →
      (∀ slot ∈ slots, ∃ fields, slot.2 = .obj fields) →
      FleetView.fromSnapshotJson rationals
          (.obj (Json.setEntry hostKey (.obj (listSlots info slots)) hosts)) =
        FleetView.fromSnapshotJson rationals (.obj hosts) := by
  intro h
  have hview := h (twoHosts "") (twoHosts_hostMap "") "a"
    [("slots", .obj [("", .obj [("model_id", .str "KAT")])])]
    [("", .obj [("model_id", .str "KAT")])] List.mem_cons_self rfl (by simp)
  have hslots := congrArg (fun view =>
    (view.hosts["a"]?).map fun host => host.slots.map SlotView.slot) hview
  have hobject : ((FleetView.fromSnapshotJson rationals (.obj (twoHosts ""))).hosts["a"]?).map
      (fun host => host.slots.map SlotView.slot) = some [""] := by
    with_unfolding_all rfl
  have hlist : ((FleetView.fromSnapshotJson rationals
      (.obj (twoHostsListed ""))).hosts["a"]?).map (fun host => host.slots.map SlotView.slot) =
        some ["0"] := by
    with_unfolding_all rfl
  have hset : Json.setEntry "a" (.obj (listSlots
      [("slots", .obj [("", .obj [("model_id", .str "KAT")])])]
      [("", .obj [("model_id", .str "KAT")])])) (twoHosts "") = twoHostsListed "" := rfl
  rw [hset, hobject, hlist] at hslots
  exact absurd hslots (by decide)

/-! ## What is read as a slot -/

/-- The value is an object. -/
def Json.isObject (value : Json N) : Bool := value.asObject.isSome

/-- A list that reads as the fields of a slot in their order, as many of them as it has. -/
structure Positional (items : List (Json N)) : Prop where
  length : items.length ≤ 6
  slot : ∀ value, items[0]? = some value → ∃ text, value = .str text
  modelId : ∀ value, items[1]? = some value → ∃ text, value = .str text
  roles : ∀ value, items[2]? = some value →
    ∃ roles, value = .arr roles ∧ ∀ role ∈ roles, ∃ text, role = .str text
  healthy : ∀ value, items[3]? = some value → ∃ flag, value = .bool flag
  freeMb : ∀ value, items[4]? = some value → ∃ n, value = .num n
  resourceId : ∀ value, items[5]? = some value → value = .null ∨ ∃ text, value = .str text

theorem asStr_isSome_iff (value : Json N) : value.asStr.isSome ↔ ∃ text, value = .str text := by
  cases value <;> simp [Json.asStr]

theorem asBool_isSome_iff (value : Json N) : value.asBool.isSome ↔ ∃ flag, value = .bool flag := by
  cases value <;> simp [Json.asBool]

theorem asF64_isSome_iff (value : Json N) : value.asF64.isSome ↔ ∃ n, value = .num n := by
  cases value <;> simp [Json.asF64]

theorem decodeOptional_isSome_iff (value : Json N) :
    (decodeOptional value).isSome ↔ value = .null ∨ ∃ text, value = .str text := by
  cases value <;> simp [decodeOptional]

theorem isSome_mapM_iff {α β : Type} (f : α → Option β) (l : List α) :
    (l.mapM f).isSome ↔ ∀ a ∈ l, (f a).isSome := by
  induction l with
  | nil => simp
  | cons a l ih =>
      rw [List.mapM_cons, List.forall_mem_cons, ← ih]
      rcases f a with _ | b
      · simp
      · rcases l.mapM f with _ | bs
        · simp
        · simp

theorem decodeStrings_isSome_iff (value : Json N) : (decodeStrings value).isSome ↔
    ∃ roles, value = .arr roles ∧ ∀ role ∈ roles, ∃ text, role = .str text := by
  cases value <;> simp [decodeStrings, isSome_mapM_iff, asStr_isSome_iff]

theorem readField_isSome_iff {α : Type} (found : Option (Json N)) (default : α)
    (read : Json N → Option α) :
    (readField found default read).isSome ↔ ∀ value, found = some value → (read value).isSome := by
  rcases found with _ | value
  · simp [readField]
  · simp [readField]

/-- What comes after a read succeeds or not, whatever was read. -/
theorem isSome_bind_iff {α β : Type} {x : Option α} {f : α → Option β} {p : Prop}
    (h : ∀ a, (f a).isSome ↔ p) : (x >>= f).isSome ↔ x.isSome ∧ p := by
  rcases x with _ | a
  · simp
  · simpa using h a

theorem ofFields_isSome_iff (std : Platform N) (field : String → ℕ → Option (Json N)) :
    (SlotView.ofFields std field).isSome ↔
      (readField (field "slot" 0) "" Json.asStr).isSome ∧
      (readField (field "model_id" 1) "" Json.asStr).isSome ∧
      (readField (field "roles" 2) [] decodeStrings).isSome ∧
      (readField (field "healthy" 3) true Json.asBool).isSome ∧
      (readField (field "free_mb" 4) (std.ofNat 0) Json.asF64).isSome ∧
      (readField (field "resource_id" 5) none decodeOptional).isSome := by
  unfold SlotView.ofFields
  apply isSome_bind_iff
  intro slot
  apply isSome_bind_iff
  intro modelId
  apply isSome_bind_iff
  intro roles
  apply isSome_bind_iff
  intro healthy
  apply isSome_bind_iff
  intro freeMb
  rcases readField (field "resource_id" 5) none decodeOptional with _ | resourceId
  · simp
  · simp

theorem decode_arr_isSome_iff (std : Platform N) (items : List (Json N)) :
    (SlotView.decode std (.arr items)).isSome ↔ Positional items := by
  have hfields := ofFields_isSome_iff std fun _ position => items[position]?
  simp only [readField_isSome_iff, asStr_isSome_iff, decodeStrings_isSome_iff, asBool_isSome_iff,
    asF64_isSome_iff, decodeOptional_isSome_iff] at hfields
  rw [SlotView.decode]
  split
  · rename_i hlength
    rw [hfields]
    constructor
    · rintro ⟨hslot, hmodelId, hroles, hhealthy, hfreeMb, hresourceId⟩
      exact ⟨hlength, hslot, hmodelId, hroles, hhealthy, hfreeMb, hresourceId⟩
    · intro h
      exact ⟨h.slot, h.modelId, h.roles, h.healthy, h.freeMb, h.resourceId⟩
  · rename_i hlength
    refine ⟨fun h => absurd h (by simp), fun h => absurd h.length hlength⟩

theorem readSlot_isSome (std : Platform N) (item : String × Json N) :
    (readSlot std item).isSome = (SlotView.decode std item.2).isSome := by
  unfold readSlot
  rcases SlotView.decode std item.2 with _ | slot
  · rfl
  · rfl

/-! ## No slot is made of anything but an object -/

/-- The slots of every host are those of its items that are objects, and a host that is
offered has one. -/
structure DropsNonObjects (std : Platform N) (value : Json N) : Prop where
  slots : ∀ (hostKey : String) (host : HostView N),
    (FleetView.fromSnapshotJson std value).hosts[hostKey]? = some host →
    ∃ info, hostInfo value hostKey = some info ∧
      host.slots = ((slotItems info).filter fun item => item.2.isObject).filterMap (readSlot std)
  offered : ∀ req roles f, headPlan std req (.fromSnapshotJson std value) roles = .ok f →
    ∃ info, hostInfo value f.hostKey = some info ∧ ∃ item ∈ slotItems info, item.2.isObject = true

/-- Some item of a host is a list of fields. -/
def ListsFields (value : Json N) : Prop :=
  ∃ hostKey info, hostInfo value hostKey = some info ∧
    ∃ item ∈ slotItems info, ∃ fields, item.2 = .arr fields ∧ Positional fields

theorem length_filterMap_filter_le {α β : Type} (p : α → Bool) (f : α → Option β) (l : List α) :
    ((l.filter p).filterMap f).length ≤ (l.filterMap f).length :=
  (List.filter_sublist.filterMap f).length_le

/-- Nothing is left out exactly when nothing that is left out is read. -/
theorem filterMap_filter_eq_iff {α β : Type} (p : α → Bool) (f : α → Option β) (l : List α) :
    (l.filter p).filterMap f = l.filterMap f ↔ ∀ a ∈ l, p a = false → f a = none := by
  induction l with
  | nil => simp
  | cons a l ih =>
      rw [List.forall_mem_cons, ← ih]
      rcases hp : p a with _ | _
      · rw [List.filter_cons_of_neg (by simp [hp])]
        rcases hf : f a with _ | b
        · rw [List.filterMap_cons_none hf]
          simp
        · rw [List.filterMap_cons_some hf]
          constructor
          · intro h
            have hle := length_filterMap_filter_le p f l
            rw [h, List.length_cons] at hle
            omega
          · intro h
            exact absurd (h.1 rfl) (by simp)
      · rw [List.filter_cons_of_pos hp]
        rcases hf : f a with _ | b
        · rw [List.filterMap_cons_none hf, List.filterMap_cons_none hf]
          simp
        · rw [List.filterMap_cons_some hf, List.filterMap_cons_some hf]
          simp

/-- A value that is no object reads as a slot only if it is a list of fields. -/
theorem readSlot_eq_none {std : Platform N} {item : String × Json N}
    (hobject : item.2.isObject = false) (hfields : ∀ fields, item.2 = .arr fields →
      ¬ Positional fields) : readSlot std item = none := by
  have hdecode : SlotView.decode std item.2 = none := by
    rcases hvalue : item.2 with _ | _ | _ | _ | fields | _
    · rfl
    · rfl
    · rfl
    · rfl
    · rw [← Option.not_isSome_iff_eq_none, decode_arr_isSome_iff]
      exact hfields fields hvalue
    · rw [hvalue] at hobject
      cases hobject
  rw [readSlot, hdecode]

/-- No slot is made of anything but an object exactly when no item of a host is a list of
fields. -/
theorem dropsNonObjects_iff (std : Platform N) (value : Json N) :
    DropsNonObjects std value ↔ ¬ ListsFields value := by
  constructor
  · rintro hdrops ⟨hostKey, info, hinfo, item, hmem, fields, hitem, hpositional⟩
    have hhost : (FleetView.fromSnapshotJson std value).hosts[hostKey]? =
        some (.ofInfo std info) := by
      rw [getElem?_hosts, hinfo, Option.map_some]
    obtain ⟨info', hinfo', hslots⟩ := hdrops.slots hostKey _ hhost
    obtain rfl := Option.some.inj (hinfo.symm.trans hinfo')
    have hall := (filterMap_filter_eq_iff _ _ _).mp hslots.symm
    have hnone : readSlot std item = none := hall item hmem (by rw [hitem]; rfl)
    -- but a list that decodes is read as a slot
    have hsome := readSlot_isSome std item
    rw [hnone, hitem] at hsome
    have hdecodes := (decode_arr_isSome_iff std fields).mpr hpositional
    rw [← hsome] at hdecodes
    cases hdecodes
  · intro hnone
    have hslots : ∀ (hostKey : String) (host : HostView N),
        (FleetView.fromSnapshotJson std value).hosts[hostKey]? = some host →
        ∃ info, hostInfo value hostKey = some info ∧ host.slots =
          ((slotItems info).filter fun item => item.2.isObject).filterMap (readSlot std) := by
      intro hostKey host hhost
      rw [getElem?_hosts] at hhost
      obtain ⟨info, hinfo, rfl⟩ := Option.map_eq_some_iff.mp hhost
      refine ⟨info, hinfo, ((filterMap_filter_eq_iff _ _ _).mpr ?_).symm⟩
      intro item hmem hobject
      apply readSlot_eq_none hobject
      intro fields hitem hpositional
      exact hnone ⟨hostKey, info, hinfo, item, hmem, fields, hitem, hpositional⟩
    refine ⟨hslots, ?_⟩
    -- the slot of an answer is one of its host's, so it was an object
    intro req roles f hplan
    obtain ⟨host, slot, hhost, -, hmem, -⟩ := (answers_headPlan hplan).offered
    obtain ⟨info, hinfo, heq⟩ := hslots f.hostKey host hhost
    rw [heq, List.mem_filterMap] at hmem
    obtain ⟨item, hitem, -⟩ := hmem
    rw [List.mem_filter] at hitem
    exact ⟨info, hinfo, item, hitem⟩

namespace Scenario

/-- A host with one slot, which is a list of two texts. -/
def listedSlot : Json ℚ :=
  .obj [("nodes", .obj [("a", .obj [("slots", .arr [.arr [.str "lane", .str "KAT"]])])])]

end Scenario

open Scenario in
/-- A list of texts is read as a slot with a model, and offered. -/
theorem listed_slot_offered : ¬ ∀ value : Json ℚ, DropsNonObjects rationals value := by
  intro h
  have hplan : headPlan rationals ⟨"b", "coder"⟩ (.fromSnapshotJson rationals listedSlot)
      ⟨["coder"]⟩ = .ok ⟨"b", "coder", "a", "lane", "KAT",
        "fleet-wide: a has a healthy coder slot (0 MiB free, rtt not measured)", none, none⟩ := by
    with_unfolding_all rfl
  obtain ⟨info, hinfo, item, hmem, hobject⟩ := (h listedSlot).offered _ _ _ hplan
  have hitems : hostInfo listedSlot "a" =
      some [("slots", .arr [.arr [.str "lane", .str "KAT"]])] := by
    with_unfolding_all rfl
  obtain rfl := Option.some.inj (hitems.symm.trans hinfo)
  have hsingle : item = ("0", .arr [.str "lane", .str "KAT"]) := List.mem_singleton.mp hmem
  rw [hsingle] at hobject
  cases hobject

end NautiFabric
