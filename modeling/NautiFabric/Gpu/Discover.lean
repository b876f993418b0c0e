import NautiFabric.Gpu.Local
import NautiFabric.Host.Sysfs
import NautiFabric.Lib.Buckets
import NautiFabric.Lib.Fill
import NautiFabric.Lib.StableSort

/-!
# NautiFabric.Gpu.Discover — the GPUs of a host

Discovery walks `/sys/class/drm` and asks NVML and `rocm-smi` what else they know of the
cards. The walk is the authority: what the others say changes how a device is described,
and never which devices there are (`sameCards_discover`). A directory comes in no order,
and the list of devices does not depend on it as long as each card has an address of its
own (`discover_relisted`).

The list is printed in two ways. `listingsAgree`: grouped by vendor or not, the same
devices are printed.
-/

namespace NautiFabric

open StableSort

/-- A physical GPU with everything that discovery knows of it. -/
structure DrmDevice extends GpuDevice where
  drmCard : Option UInt32
  temperatureC : Option UInt32
  utilizationPct : Option UInt32
deriving DecidableEq, Repr

/-- What NVML knows of a device. -/
structure NvmlRecord where
  name : String
  uuid : String
  index : UInt32
  vramTotalBytes : UInt64
  vramUsedBytes : UInt64
  utilizationPct : Option UInt32
  temperatureC : Option UInt32
deriving DecidableEq, Repr

def GpuVendor.fromPciId (id : ℕ) : GpuVendor :=
  if id = 0x10de then .nvidia
  else if id = 0x1002 ∨ id = 0x1022 then .amd
  else if id = 0x8086 then .intel
  else .unknown ("0x" ++ hex 4 id)

namespace Discover

def drmDir : String := "/sys/class/drm"

/-- The number of a card, if an entry of the directory is one. -/
def cardIndex (name : String) : Option ℕ :=
  if isCard name then (stripStart "card" name).bind (fromStrRadix 10 32) else none

def devDir (card : String) : String := drmDir ++ "/" ++ card ++ "/device"

def readU32 (fs : Sysfs) (path : String) : Option ℕ :=
  (fs.readToString path).bind fun s => fromStrRadix 10 32 (trim s)

/-- What sysfs alone says of a card. -/
def readDrmCard (sys : SysTree) (cardIdx : ℕ) : Option DrmDevice :=
  let dev := devDir ("card" ++ toString cardIdx)
  let vendorId := vendorOf sys.toSysfs dev
  if !sys.pathExists dev || vendorId == 0 then none
  else
    let vendor := GpuVendor.fromPciId vendorId
    let uevent := (sys.readToString (dev ++ "/uevent")).getD ""
    let driver := ((lines uevent).findSome? (stripStart "DRIVER=")).getD ""
    let pciBdf := (sys.linkName dev).getD ""
    let busyPct := (readU32 sys.toSysfs (dev ++ "/gpu_busy_percent")).getD 0
    some {
      stableId := pciBdf
      vendor := vendor
      deviceName := vendor.label ++ " GPU (" ++ pciBdf ++ ")"
      vramTotalBytes := .ofNat ((readU64 sys.toSysfs (dev ++ "/mem_info_vram_total")).getD 0)
      vramUsedBytes := .ofNat ((readU64 sys.toSysfs (dev ++ "/mem_info_vram_used")).getD 0)
      driver := driver
      pciBdf := pciBdf
      uuid := none
      nvmlIndex := none
      displayOnly := driver == "ast" || driver == "mgag200"
      drmCard := some (.ofNat cardIdx)
      temperatureC := none
      utilizationPct := if busyPct > 0 then some (.ofNat busyPct) else none }

/-- The devices of a listing, in its order. -/
def cards (sys : SysTree) (names : List String) : List DrmDevice :=
  names.filterMap fun name => (cardIndex name).bind (readDrmCard sys)

/-! ## Enrichment -/

def withNvml (dev : DrmDevice) (nvml : NvmlRecord) : DrmDevice :=
  { dev with
    deviceName := nvml.name
    uuid := some nvml.uuid
    nvmlIndex := some nvml.index
    vramTotalBytes := nvml.vramTotalBytes
    vramUsedBytes := nvml.vramUsedBytes
    utilizationPct := nvml.utilizationPct
    temperatureC := nvml.temperatureC }

/-- A name that is empty and a total of zero are not taken over. -/
def withTelemetry (dev : DrmDevice) (t : AmdTelemetry) : DrmDevice :=
  { dev with
    deviceName := (t.productName.filter fun name => name ≠ "").getD dev.deviceName
    uuid := t.uniqueId.or dev.uuid
    vramTotalBytes := (t.vramTotalBytes.filter fun v => v > 0).getD dev.vramTotalBytes
    vramUsedBytes := t.vramUsedBytes.getD dev.vramUsedBytes
    utilizationPct := t.utilizationPct.or dev.utilizationPct
    temperatureC := t.temperatureC.or dev.temperatureC }

/-- One device, as the loop of `discover` enriches it. -/
def enrichDevice (nvmlByBdf : StringMap NvmlRecord) (rocm : TelemetryMap) (dev : DrmDevice) :
    DrmDevice :=
  let dev :=
    if dev.vendor = .nvidia then
      match nvmlByBdf[dev.pciBdf]? with
      | some nvml => withNvml dev nvml
      | none => dev
    else dev
  if dev.vendor = .amd ∧ !dev.displayOnly then
    match rocm[dev.pciBdf]? with
    | some t => withTelemetry dev t
    | none => dev
  else dev

/-! ## Discovery -/

/-- A host: its sysfs, and what the tools of the vendors answer. -/
structure DrmHost (F N : Type) where
  sys : SysTree
  /-- why the directory of the cards cannot be read, if it cannot -/
  drmError : String
  lower : Lowercase
  /-- the devices that NVML lists, none without the `nvidia` feature -/
  nvml : List (Option String × NvmlRecord)
  /-- `rocm-smi`, with the `rocm` feature -/
  rocm : Option (RocmText F × RocmSmi N)

variable {F N : Type}

def DrmHost.telemetry (host : DrmHost F N) : TelemetryMap :=
  match host.rocm with
  | none => ∅
  | some (text, smi) => collect text smi host.sys.toSysfs drmDir

def rank (dev : DrmDevice) : ℕ :=
  if dev.displayOnly then 3
  else
    match dev.vendor with
    | .nvidia => 0
    | .amd => 1
    | _ => 2

/-- The devices are sorted by rank, and then by address. -/
def sortKey (dev : DrmDevice) : ℕ ×ₗ String := toLex (rank dev, dev.pciBdf)

/-- `GpuDiscoveryResult::discover`; `none` is the panic of a bus id that cannot be cut. -/
def discover (host : DrmHost F N) : Option (Except GpuDiscoveryError (List DrmDevice)) :=
  if !host.sys.pathExists drmDir then some (.ok [])
  else
    match host.sys.readDir drmDir with
    | none => some (.error (.sysfs host.drmError))
    | some names =>
      (nvmlByBdf host.lower host.nvml).map fun nvml =>
        .ok (sortByKey sortKey ((cards host.sys names).map (enrichDevice nvml host.telemetry)))

/-- What the rest of the program sees of the devices. -/
def result (devices : List DrmDevice) : GpuDiscoveryResult :=
  ⟨devices.map DrmDevice.toGpuDevice⟩

/-! ## What enrichment leaves alone -/

/-- The two describe one card. -/
structure SameCard (a b : DrmDevice) : Prop where
  stableId : a.stableId = b.stableId
  vendor : a.vendor = b.vendor
  driver : a.driver = b.driver
  pciBdf : a.pciBdf = b.pciBdf
  displayOnly : a.displayOnly = b.displayOnly
  drmCard : a.drmCard = b.drmCard

theorem SameCard.refl (a : DrmDevice) : SameCard a a := ⟨rfl, rfl, rfl, rfl, rfl, rfl⟩

theorem SameCard.trans {a b c : DrmDevice} (h : SameCard a b) (h' : SameCard b c) :
    SameCard a c :=
  ⟨h.stableId.trans h'.stableId, h.vendor.trans h'.vendor, h.driver.trans h'.driver,
    h.pciBdf.trans h'.pciBdf, h.displayOnly.trans h'.displayOnly, h.drmCard.trans h'.drmCard⟩

theorem SameCard.symm {a b : DrmDevice} (h : SameCard a b) : SameCard b a :=
  ⟨h.stableId.symm, h.vendor.symm, h.driver.symm, h.pciBdf.symm, h.displayOnly.symm,
    h.drmCard.symm⟩

theorem sameCard_enrichDevice (nvml : StringMap NvmlRecord) (rocm : TelemetryMap)
    (dev : DrmDevice) : SameCard (enrichDevice nvml rocm dev) dev := by
  have hnvml (dev : DrmDevice) (record : NvmlRecord) : SameCard (withNvml dev record) dev :=
    ⟨rfl, rfl, rfl, rfl, rfl, rfl⟩
  have hrocm (dev : DrmDevice) (t : AmdTelemetry) : SameCard (withTelemetry dev t) dev :=
    ⟨rfl, rfl, rfl, rfl, rfl, rfl⟩
  have hsecond (dev : DrmDevice) : SameCard
      (if dev.vendor = .amd ∧ !dev.displayOnly then
        match rocm[dev.pciBdf]? with
        | some t => withTelemetry dev t
        | none => dev
      else dev) dev := by
    split
    · split
      · exact hrocm dev _
      · exact .refl dev
    · exact .refl dev
  refine (hsecond _).trans ?_
  split
  · split
    · exact hnvml dev _
    · exact .refl dev
  · exact .refl dev

theorem SameCard.sortKey {a b : DrmDevice} (h : SameCard a b) : sortKey a = sortKey b := by
  unfold Discover.sortKey rank
  rw [h.displayOnly, h.vendor, h.pciBdf]

/-- The two trees show the same cards; the rest of what they say of them may differ. -/
structure SameCards (a b : SysTree) : Prop where
  listing : b.readDir drmDir = a.readDir drmDir
  pathExists : b.pathExists = a.pathExists
  readLink : b.readLink = a.readLink
  vendor : ∀ card, b.readToString (devDir card ++ "/vendor") =
    a.readToString (devDir card ++ "/vendor")
  uevent : ∀ card, b.readToString (devDir card ++ "/uevent") =
    a.readToString (devDir card ++ "/uevent")

theorem SameCards.refl (sys : SysTree) : SameCards sys sys :=
  ⟨rfl, rfl, rfl, fun _ => rfl, fun _ => rfl⟩

theorem SameCards.readDrmCard {a b : SysTree} (h : SameCards a b) (idx : ℕ) :
    Option.Rel SameCard (readDrmCard b idx) (readDrmCard a idx) := by
  have hvendor : vendorOf b.toSysfs (devDir ("card" ++ toString idx)) =
      vendorOf a.toSysfs (devDir ("card" ++ toString idx)) := by
    unfold vendorOf
    rw [h.vendor]
  unfold Discover.readDrmCard SysTree.linkName
  dsimp only
  rw [hvendor, h.pathExists, h.readLink, h.uevent]
  split
  · exact .none
  · exact .some ⟨rfl, rfl, rfl, rfl, rfl, rfl⟩

theorem SameCards.cards {a b : SysTree} (h : SameCards a b) (names : List String) :
    List.Forall₂ SameCard (cards b names) (cards a names) := by
  induction names with
  | nil => exact .nil
  | cons name names ih =>
      unfold Discover.cards at ih ⊢
      rw [List.filterMap_cons, List.filterMap_cons]
      rcases cardIndex name with _ | idx
      · exact ih
      · have hrel := h.readDrmCard idx
        dsimp only [Option.bind_some]
        generalize Discover.readDrmCard b idx = x at hrel
        generalize Discover.readDrmCard a idx = y at hrel
        cases hrel with
        | none => exact ih
        | some hsame => exact .cons hsame ih

/-- What discovery comes to where the directory can be read and NVML answers. -/
theorem discover_listed {host : DrmHost F N} {names : List String} {nvml : StringMap NvmlRecord}
    (hexists : host.sys.pathExists drmDir = true) (hread : host.sys.readDir drmDir = some names)
    (hnvml : nvmlByBdf host.lower host.nvml = some nvml) :
    discover host = some (.ok (sortByKey sortKey
      ((cards host.sys names).map (enrichDevice nvml host.telemetry)))) := by
  unfold discover
  rw [hexists, hread]
  simp only [Bool.not_true, Bool.false_eq_true, if_false]
  rw [hnvml, Option.map_some]

theorem discover_eq_ok {host : DrmHost F N} {devices : List DrmDevice}
    (h : discover host = some (.ok devices)) :
    (host.sys.pathExists drmDir = false ∧ devices = []) ∨
      ∃ names nvml, host.sys.pathExists drmDir = true ∧ host.sys.readDir drmDir = some names ∧
        devices = sortByKey sortKey
          ((cards host.sys names).map (enrichDevice nvml host.telemetry)) := by
  unfold discover at h
  rcases hexists : host.sys.pathExists drmDir with _ | _
  · rw [hexists] at h
    simp only [Bool.not_false, if_true, Option.some.injEq, Except.ok.injEq] at h
    exact Or.inl ⟨rfl, h.symm⟩
  · rw [hexists] at h
    simp only [Bool.not_true, Bool.false_eq_true, if_false] at h
    rcases hread : host.sys.readDir drmDir with _ | names
    · rw [hread] at h
      cases h
    · rw [hread] at h
      obtain ⟨nvml, -, hok⟩ := Option.map_eq_some_iff.mp h
      simp only [Except.ok.injEq] at hok
      exact Or.inr ⟨names, nvml, rfl, rfl, hok.symm⟩

theorem discover_eq_error {host : DrmHost F N} {e : GpuDiscoveryError}
    (h : discover host = some (.error e)) :
    host.sys.pathExists drmDir = true ∧ host.sys.readDir drmDir = none := by
  unfold discover at h
  rcases hexists : host.sys.pathExists drmDir with _ | _
  · rw [hexists] at h
    simp at h
  · rw [hexists] at h
    simp only [Bool.not_true, Bool.false_eq_true, if_false] at h
    rcases hread : host.sys.readDir drmDir with _ | names
    · exact ⟨rfl, rfl⟩
    · rw [hread] at h
      obtain ⟨nvml, -, hok⟩ := Option.map_eq_some_iff.mp h
      cases hok

theorem discover_ok_not_listed {host : DrmHost F N} {devices : List DrmDevice}
    (h : discover host = some (.ok devices)) (hexists : host.sys.pathExists drmDir = true) :
    host.sys.readDir drmDir ≠ none := by
  rcases discover_eq_ok h with ⟨hnone, -⟩ | ⟨names, _, -, hread, -⟩
  · rw [hexists] at hnone
    cases hnone
  · rw [hread]
    exact Option.some_ne_none names

/-- Two discoveries of the same cards find them in the same order, whatever the tools of the
vendors say. -/
theorem sameCards_discover {F' N' : Type} {host : DrmHost F N} {other : DrmHost F' N'}
    (hsys : SameCards host.sys other.sys) {devices devices' : List DrmDevice}
    (h : discover host = some (.ok devices)) (h' : discover other = some (.ok devices')) :
    List.Forall₂ SameCard devices' devices := by
  rcases discover_eq_ok h with ⟨hnone, rfl⟩ | ⟨names, nvml, hexists, hread, rfl⟩
  · rcases discover_eq_ok h' with ⟨-, rfl⟩ | ⟨_, _, hexists', -, -⟩
    · exact .nil
    · rw [hsys.pathExists, hnone] at hexists'
      cases hexists'
  · rcases discover_eq_ok h' with ⟨hnone', -⟩ | ⟨names', nvml', -, hread', rfl⟩
    · rw [hsys.pathExists, hexists] at hnone'
      cases hnone'
    · rw [hsys.listing, hread] at hread'
      obtain rfl := Option.some.inj hread'
      refine forall₂_sortByKey (R := SameCard) (fun _ _ hab => hab.sortKey) ?_
      rw [List.forall₂_map_left_iff, List.forall₂_map_right_iff]
      refine (hsys.cards names).imp fun a b hab => ?_
      exact ((sameCard_enrichDevice _ _ a).trans hab).trans (sameCard_enrichDevice _ _ b).symm

/-! ## The order of the directory -/

/-- The address of the device behind an entry. -/
def address (fs : Sysfs) (name : String) : String :=
  ((fs.readLink (devDir name)).bind fileName).getD ""

/-- The entries are spelled as the kernel spells them, and each card has an address of its own. -/
structure PlainListing (fs : Sysfs) (names : List String) : Prop where
  spelled : ∀ name ∈ names, ∀ idx, cardIndex name = some idx → name = "card" ++ toString idx
  address : ∀ a ∈ names, ∀ b ∈ names, isCard a → isCard b → address fs a = address fs b → a = b

/-- The host with another listing of its cards. -/
def DrmHost.relisted (host : DrmHost F N) (names : List String) : DrmHost F N :=
  { host with
    sys := { host.sys with
      readDir := fun path => if path = drmDir then some names else host.sys.readDir path } }

theorem readDir_relisted (host : DrmHost F N) (names : List String) (path : String) :
    (host.relisted names).sys.readDir path =
      if path = drmDir then some names else host.sys.readDir path := rfl

theorem readDir_relisted_drm (host : DrmHost F N) (names : List String) :
    (host.relisted names).sys.readDir drmDir = some names := by
  rw [readDir_relisted, if_pos rfl]

theorem isCard_of_cardIndex {name : String} {idx : ℕ} (h : cardIndex name = some idx) :
    isCard name := by
  unfold cardIndex at h
  split at h
  · assumption
  · cases h

theorem pciBdf_readDrmCard {sys : SysTree} {idx : ℕ} {dev : DrmDevice}
    (h : readDrmCard sys idx = some dev) :
    dev.pciBdf = address sys.toSysfs ("card" ++ toString idx) := by
  unfold readDrmCard at h
  dsimp only at h
  split at h
  · cases h
  · rw [← Option.some.inj h]
    rfl

/-- In a plain listing, a device is known by its address. -/
theorem cards_distinct {sys : SysTree} {names : List String} (h : PlainListing sys.toSysfs names)
    {a b : DrmDevice} (ha : a ∈ cards sys names) (hb : b ∈ cards sys names)
    (hbdf : a.pciBdf = b.pciBdf) : a = b := by
  obtain ⟨x, hx, hread⟩ := List.mem_filterMap.mp ha
  obtain ⟨y, hy, hread'⟩ := List.mem_filterMap.mp hb
  obtain ⟨i, hi, hread⟩ := Option.bind_eq_some_iff.mp hread
  obtain ⟨j, hj, hread'⟩ := Option.bind_eq_some_iff.mp hread'
  rw [pciBdf_readDrmCard hread, pciBdf_readDrmCard hread', ← h.spelled x hx i hi,
    ← h.spelled y hy j hj] at hbdf
  have hxy := h.address x hx y hy (isCard_of_cardIndex hi) (isCard_of_cardIndex hj) hbdf
  rw [← hxy, hi] at hj
  rw [← Option.some.inj hj, hread] at hread'
  exact Option.some.inj hread'

/-! ### What the tools of AMD read of the directory -/

/-- The entry that `sysfs_enrichment` makes of a card. -/
def telemetryEntry (fs : Sysfs) (name : String) : Option (String × AmdTelemetry) :=
  let dev := devDir name
  let bdf := address fs name
  if !isCard name || bdf.isEmpty then none
  else if vendorOf fs dev ≠ 0x1002 ∧ vendorOf fs dev ≠ 0x1022 then none
  else some (bdf, sysfsTelemetry fs dev)

theorem enrichCard_eq_put (fs : Sysfs) (map : TelemetryMap) (name : String) :
    enrichCard fs drmDir map name = Table.put (telemetryEntry fs) map name := by
  have hdir : drmDir ++ "/" ++ name ++ "/device" = devDir name := rfl
  have haddress : ((fs.readLink (devDir name)).bind fileName).getD "" = address fs name := rfl
  unfold enrichCard Table.put telemetryEntry
  dsimp only
  rw [hdir, haddress]
  by_cases hskip : (!isCard name || (address fs name).isEmpty) = true
  · rw [if_pos hskip, if_pos hskip]
  · rw [if_neg hskip, if_neg hskip]
    by_cases hvendor : vendorOf fs (devDir name) ≠ 0x1002 ∧ vendorOf fs (devDir name) ≠ 0x1022
    · rw [if_pos hvendor, if_pos hvendor]
    · rw [if_neg hvendor, if_neg hvendor]

/-- The entry that `card_index_to_bdf` makes of a card. -/
def indexEntry (fs : Sysfs) (name : String) : Option (ℕ × String) :=
  (cardIndex name).bind fun idx =>
    ((fs.readLink (devDir name)).bind fileName).map fun bdf => (idx, bdf)

theorem cardIndexToBdf_eq_fill (fs : Sysfs) :
    cardIndexToBdf fs = Table.fill (indexEntry fs) ∅ ((fs.readDir drmDir).getD []) := by
  unfold cardIndexToBdf Table.fill
  congr 1
  funext map name
  unfold Table.put indexEntry cardIndex
  rcases isCard name with _ | _
  · rfl
  · simp only [Bool.not_true, Bool.false_eq_true, if_false, if_true]
    rcases (stripStart "card" name).bind (fromStrRadix 10 32) with _ | idx
    · rfl
    · have hdir : "/sys/class/drm/" ++ name ++ "/device" = devDir name := by
        unfold devDir drmDir
        rw [String.append_assoc, String.append_assoc]
        rfl
      rw [hdir]
      rcases (fs.readLink (devDir name)).bind fileName with _ | bdf
      · rfl
      · rfl

theorem telemetryEntry_relisted (host : DrmHost F N) (names : List String) :
    telemetryEntry (host.relisted names).sys.toSysfs = telemetryEntry host.sys.toSysfs := by
  funext name
  have hhwmon : (host.relisted names).sys.readDir (devDir name ++ "/hwmon") =
      host.sys.readDir (devDir name ++ "/hwmon") := by
    rw [readDir_relisted, if_neg]
    intro heq
    have hlength := congrArg String.length heq
    have hsix : "/hwmon".length = 6 := by decide
    simp only [devDir, String.length_append] at hlength
    omega
  have htemperature : hwmonTemperature (host.relisted names).sys.toSysfs (devDir name) =
      hwmonTemperature host.sys.toSysfs (devDir name) := by
    unfold hwmonTemperature
    rw [hhwmon]
    rfl
  have hsysfs : sysfsTelemetry (host.relisted names).sys.toSysfs (devDir name) =
      sysfsTelemetry host.sys.toSysfs (devDir name) := by
    unfold sysfsTelemetry
    rw [htemperature]
    rfl
  unfold telemetryEntry
  dsimp only
  rw [hsysfs]
  rfl

theorem telemetry_relisted {host : DrmHost F N} {names names' : List String}
    (hread : host.sys.readDir drmDir = some names)
    (hplain : PlainListing host.sys.toSysfs names) (hperm : names'.Perm names) :
    (host.relisted names').telemetry = host.telemetry := by
  have htables : sysfsEnrichment (host.relisted names').sys.toSysfs drmDir =
      sysfsEnrichment host.sys.toSysfs drmDir := by
    have hfill (host : DrmHost F N) {names : List String}
        (hread : host.sys.readDir drmDir = some names) :
        sysfsEnrichment host.sys.toSysfs drmDir =
          Table.fill (telemetryEntry host.sys.toSysfs) ∅ names := by
      unfold sysfsEnrichment Table.fill
      rw [hread]
      dsimp only
      congr 1
      funext map name
      exact enrichCard_eq_put host.sys.toSysfs map name
    rw [hfill host hread, hfill _ (readDir_relisted_drm host names'), telemetryEntry_relisted]
    refine Table.fill_perm hperm ?_ ∅
    intro a ha b hb k hak hbk
    have hentry (name : String)
        (hk : (telemetryEntry host.sys.toSysfs name).map Prod.fst = some k) :
        isCard name ∧ address host.sys.toSysfs name = k := by
      unfold telemetryEntry at hk
      dsimp only at hk
      split at hk
      · cases hk
      · split at hk
        · cases hk
        · rename_i hcard _
          refine ⟨?_, Option.some.inj hk⟩
          simp only [Bool.or_eq_true, not_or] at hcard
          simpa using hcard.1
    obtain ⟨hcard, haddress⟩ := hentry a hak
    obtain ⟨hcard', haddress'⟩ := hentry b hbk
    exact hplain.address a ha b hb hcard hcard' (haddress.trans haddress'.symm)
  have hindexes : cardIndexToBdf (host.relisted names').sys.toSysfs =
      cardIndexToBdf host.sys.toSysfs := by
    rw [cardIndexToBdf_eq_fill, cardIndexToBdf_eq_fill, readDir_relisted_drm, hread]
    refine Table.fill_perm hperm ?_ ∅
    intro a ha b hb k hak hbk
    have hentry (name : String) (hk : (indexEntry host.sys.toSysfs name).map Prod.fst = some k) :
        cardIndex name = some k := by
      unfold indexEntry at hk
      obtain ⟨entry, hentry, rfl⟩ := Option.map_eq_some_iff.mp hk
      obtain ⟨idx, hidx, hmap⟩ := Option.bind_eq_some_iff.mp hentry
      obtain ⟨bdf, -, rfl⟩ := Option.map_eq_some_iff.mp hmap
      exact hidx
    rw [hplain.spelled a ha k (hentry a hak), hplain.spelled b hb k (hentry b hbk)]
  unfold DrmHost.telemetry collect
  rw [hindexes, htables]
  rfl

/-- However the directory of the cards is listed, the same devices are found in the same
order, as long as each card has an address of its own. -/
theorem discover_relisted {host : DrmHost F N} {names names' : List String}
    (hread : host.sys.readDir drmDir = some names)
    (hplain : PlainListing host.sys.toSysfs names) (hperm : names'.Perm names) :
    discover (host.relisted names') = discover host := by
  have hcards : (cards (host.relisted names').sys names').Perm (cards host.sys names) :=
    hperm.filterMap _
  unfold discover
  rw [readDir_relisted_drm, hread, telemetry_relisted hread hplain hperm]
  have hsorted : ∀ nvml, sortByKey sortKey
      ((cards (host.relisted names').sys names').map (enrichDevice nvml host.telemetry)) =
        sortByKey sortKey ((cards host.sys names).map (enrichDevice nvml host.telemetry)) := by
    intro nvml
    apply sortByKey_eq_of_perm (hcards.map _)
    intro a ha b hb hkey
    obtain ⟨x, hx, rfl⟩ := List.mem_map.mp ha
    obtain ⟨y, hy, rfl⟩ := List.mem_map.mp hb
    have hbdf := congrArg (fun key : ℕ ×ₗ String => (ofLex key).2) hkey
    have hxy : x.pciBdf = y.pciBdf :=
      ((sameCard_enrichDevice _ _ x).pciBdf.symm.trans hbdf).trans
        (sameCard_enrichDevice _ _ y).pciBdf
    rw [cards_distinct hplain hx hy hxy]
  simp only [hsorted]
  rfl

namespace Samples

open Scenario

/-- A card of NVIDIA and one of AMD; the directory shows the later one first. -/
def twoCards : SysTree where
  readDir path := if path = drmDir then some ["card1", "card0", "card0-DP-1"] else none
  readLink path :=
    if path = devDir "card0" then some "../../../0000:01:00.0"
    else if path = devDir "card1" then some "../../../0000:02:00.0"
    else none
  readToString path :=
    if path = devDir "card0" ++ "/vendor" then some "0x10de"
    else if path = devDir "card1" ++ "/vendor" then some "0x1002"
    else none
  pathExists _ := true
  canonicalize _ := none

def bareHost : DrmHost Unit Unit := ⟨twoCards, "", asciiLowercase, [], none⟩

theorem plainListing_twoCards :
    PlainListing twoCards.toSysfs ["card1", "card0", "card0-DP-1"] := by
  have hone : cardIndex "card1" = some 1 := by decide +kernel
  have hzero : cardIndex "card0" = some 0 := by decide +kernel
  have hnone : cardIndex "card0-DP-1" = none := by decide +kernel
  constructor
  · intro name hname idx hidx
    simp only [List.mem_cons, List.not_mem_nil, or_false] at hname
    rcases hname with rfl | rfl | rfl
    · rw [hone] at hidx
      rw [← Option.some.inj hidx]
      decide
    · rw [hzero] at hidx
      rw [← Option.some.inj hidx]
      decide
    · rw [hnone] at hidx
      cases hidx
  · decide +kernel

end Samples

open Samples in
theorem discover_relisted_twoCards :
    discover (bareHost.relisted ["card0-DP-1", "card0", "card1"]) = discover bareHost ∧
      (cards twoCards ["card1", "card0", "card0-DP-1"]).length = 2 := by
  refine ⟨discover_relisted (by decide) plainListing_twoCards (by decide), ?_⟩
  decide +kernel

/-! ## How the devices are printed -/

/-- The group of a device. -/
def groupKey (dev : DrmDevice) : String :=
  if dev.displayOnly then "__display_only__" else dev.vendor.label

def grouped (devices : List DrmDevice) : StringMap (List DrmDevice) :=
  Buckets.collect groupKey devices

/-- Whether a vendor is asked for; the filter is in lower case. -/
def asksFor (lower : Lowercase) (filter : Option String) (vendor : String) : Bool :=
  filter.all fun f => containsStr (lower.apply vendor) f

/-- The groups that `nauti gpus --grouped` prints, with their headings. -/
def groupsPrinted (lower : Lowercase) (filter : Option String) (devices : List DrmDevice) :
    List (String × List DrmDevice) :=
  (grouped devices).toList.filter fun (vendor, _) =>
    asksFor lower filter vendor && vendor != "__display_only__"

/-- The devices that `nauti gpus` prints. -/
def devicesPrinted (lower : Lowercase) (filter : Option String) (devices : List DrmDevice) :
    List DrmDevice :=
  devices.filter fun dev => !dev.displayOnly && asksFor lower filter dev.vendor.label

def printGpu (dev : DrmDevice) : String :=
  let uuid := dev.uuid.getD "-"
  let util := (dev.utilizationPct.map fun u => toString u ++ "%").getD "-"
  let vramMb := dev.vramTotalBytes / (1024 * 1024)
  let flag := if dev.displayOnly then " [display-only]" else ""
  dev.vendor.label ++ "\t" ++ dev.deviceName ++ "\t" ++ uuid ++ "\t" ++ toString vramMb ++ "MB\t" ++
    dev.driver ++ "\t" ++ dev.pciBdf ++ "\t" ++ util ++ flag

/-- The lines of `nauti gpus`; the type that is asked for comes in any case. -/
def gpusText (lower : Lowercase) (group : Bool) (type : Option String) (devices : List DrmDevice) :
    List String :=
  let filter := type.map lower.apply
  if group then
    (groupsPrinted lower filter devices).flatMap fun (vendor, devices) =>
      ("=== " ++ vendor ++ " (" ++ toString devices.length ++ " devices) ===") ::
        devices.map printGpu
  else (devicesPrinted lower filter devices).map printGpu

/-- The label of a vendor that discovery knows is not the name of the hidden group. -/
theorem label_fromPciId (id : ℕ) : (GpuVendor.fromPciId id).label ≠ "__display_only__" := by
  unfold GpuVendor.fromPciId
  split
  · decide
  · split
    · decide
    · split
      · decide
      · intro heq
        have hfirst := congrArg (fun s => s.toList.head?) heq
        simp [GpuVendor.label] at hfirst

theorem vendor_readDrmCard {sys : SysTree} {idx : ℕ} {dev : DrmDevice}
    (h : readDrmCard sys idx = some dev) : ∃ id, dev.vendor = GpuVendor.fromPciId id := by
  unfold readDrmCard at h
  dsimp only at h
  split at h
  · cases h
  · rw [← Option.some.inj h]
    exact ⟨_, rfl⟩

/-- No device has the name of the hidden group for its vendor. -/
def Labelled (devices : List DrmDevice) : Prop :=
  ∀ dev ∈ devices, dev.vendor.label ≠ "__display_only__"

theorem labelled_discover {host : DrmHost F N} {devices : List DrmDevice}
    (h : discover host = some (.ok devices)) : Labelled devices := by
  rcases discover_eq_ok h with ⟨-, rfl⟩ | ⟨names, nvml, -, -, rfl⟩
  · intro dev hdev
    cases hdev
  · intro dev hdev
    obtain ⟨card, hcard, rfl⟩ := List.mem_map.mp ((sortByKey_perm _ _).subset hdev)
    obtain ⟨name, -, hread⟩ := List.mem_filterMap.mp hcard
    obtain ⟨idx, -, hread⟩ := Option.bind_eq_some_iff.mp hread
    obtain ⟨id, hid⟩ := vendor_readDrmCard hread
    rw [(sameCard_enrichDevice _ _ card).vendor, hid]
    exact label_fromPciId id

theorem groupKey_eq_iff (dev : DrmDevice) {vendor : String}
    (hvendor : vendor ≠ "__display_only__") :
    groupKey dev = vendor ↔ dev.displayOnly = false ∧ dev.vendor.label = vendor := by
  unfold groupKey
  rcases dev.displayOnly with _ | _
  · simp
  · simp [hvendor.symm]

/-- What is printed of a group is what is printed of its vendor without groups. -/
theorem filter_groupKey {lower : Lowercase} {filter : Option String} (devices : List DrmDevice)
    {vendor : String} (hvendor : vendor ≠ "__display_only__")
    (hasked : asksFor lower filter vendor) :
    (devices.filter fun dev => groupKey dev = vendor) =
      (devicesPrinted lower filter devices).filter fun dev => dev.vendor.label = vendor := by
  unfold devicesPrinted
  rw [List.filter_filter]
  refine List.filter_congr fun dev _ => ?_
  rw [Bool.eq_iff_iff, decide_eq_true_iff, groupKey_eq_iff dev hvendor]
  simp only [Bool.and_eq_true, decide_eq_true_iff, Bool.not_eq_true']
  constructor
  · rintro ⟨hdisplay, hlabel⟩
    exact ⟨hlabel, hdisplay, hlabel ▸ hasked⟩
  · rintro ⟨hlabel, hdisplay, -⟩
    exact ⟨hdisplay, hlabel⟩

/-- The two ways to print agree: every group has a vendor of its own and prints all that is
printed of that vendor, in the same order; and every device printed is in a group. -/
structure ListingsAgree (lower : Lowercase) (filter : Option String)
    (devices : List DrmDevice) : Prop where
  headings : (groupsPrinted lower filter devices).Pairwise fun a b => a.1 < b.1
  groups : ∀ vendor group, (vendor, group) ∈ groupsPrinted lower filter devices →
    group ≠ [] ∧
      group = (devicesPrinted lower filter devices).filter fun dev => dev.vendor.label = vendor
  all : ((groupsPrinted lower filter devices).flatMap Prod.snd).Perm
    (devicesPrinted lower filter devices)

theorem mem_groupsPrinted {lower : Lowercase} {filter : Option String} {devices : List DrmDevice}
    {vendor : String} {group : List DrmDevice} :
    (vendor, group) ∈ groupsPrinted lower filter devices ↔
      asksFor lower filter vendor ∧ vendor ≠ "__display_only__" ∧ group ≠ [] ∧
        group = (devicesPrinted lower filter devices).filter
          fun dev => dev.vendor.label = vendor := by
  unfold groupsPrinted grouped
  rw [List.mem_filter, Std.ExtTreeMap.mem_toList_iff_getElem?_eq_some, Buckets.getElem?_collect]
  simp only [Bool.and_eq_true, bne_iff_ne]
  constructor
  · rintro ⟨hgroup, hasked, hvendor⟩
    rw [filter_groupKey devices hvendor hasked] at hgroup
    split at hgroup
    · cases hgroup
    · rename_i hne
      rw [← Option.some.inj hgroup]
      exact ⟨hasked, hvendor, hne, rfl⟩
  · rintro ⟨hasked, hvendor, hne, hgroup⟩
    rw [filter_groupKey devices hvendor hasked, ← hgroup, if_neg hne]
    exact ⟨rfl, hasked, hvendor⟩

/-- Grouped or not, the same devices are printed. -/
theorem listingsAgree (lower : Lowercase) (filter : Option String) {devices : List DrmDevice}
    (h : Labelled devices) : ListingsAgree lower filter devices := by
  have hheadings : (groupsPrinted lower filter devices).Pairwise fun a b => a.1 < b.1 := by
    refine (Std.ExtTreeMap.ordered_keys_toList.filter _).imp ?_
    intro a b hab
    exact compare_lt_iff_lt.mp hab
  have hgroups : ∀ vendor group, (vendor, group) ∈ groupsPrinted lower filter devices →
      group ≠ [] ∧ group = (devicesPrinted lower filter devices).filter
        fun dev => dev.vendor.label = vendor :=
    fun vendor group hmem => (mem_groupsPrinted.mp hmem).2.2
  refine ⟨hheadings, hgroups, ?_⟩
  let vendors := (groupsPrinted lower filter devices).map Prod.fst
  have hnodup : vendors.Nodup :=
    List.pairwise_map.mpr (hheadings.imp fun hab => ne_of_lt hab)
  have hprinted : (groupsPrinted lower filter devices).flatMap Prod.snd =
      vendors.flatMap fun vendor => ((devicesPrinted lower filter devices).filter
        fun dev => some dev.vendor.label = some vendor).map id := by
    rw [List.flatMap_map]
    refine List.flatMap_congr fun entry hentry => ?_
    rw [List.map_id, (hgroups entry.1 entry.2 hentry).2]
    simp
  -- the vendor of a device that is printed has a group
  have hall : ((devicesPrinted lower filter devices).filter fun dev =>
      vendors.any fun vendor => some dev.vendor.label = some vendor) =
        devicesPrinted lower filter devices := by
    rw [List.filter_eq_self]
    intro dev hdev
    obtain ⟨hmem, hshown⟩ := List.mem_filter.mp hdev
    rw [Bool.and_eq_true, Bool.not_eq_true'] at hshown
    have hentry := (mem_groupsPrinted).mpr
      ⟨hshown.2, h dev hmem, List.ne_nil_of_mem (List.mem_filter.mpr ⟨hdev, decide_eq_true rfl⟩),
        rfl⟩
    rw [List.any_eq_true]
    exact ⟨dev.vendor.label, List.mem_map_of_mem hentry, decide_eq_true rfl⟩
  rw [hprinted]
  refine (Buckets.perm_by_key (fun dev : DrmDevice => some dev.vendor.label) id _ hnodup).trans ?_
  rw [hall, List.map_id]

/-- What `nauti gpus` prints of the devices of a host, grouped or not. -/
theorem listingsAgree_discover {host : DrmHost F N} {devices : List DrmDevice}
    (h : discover host = some (.ok devices)) (lower : Lowercase) (filter : Option String) :
    ListingsAgree lower filter devices :=
  listingsAgree lower filter (labelled_discover h)

open Scenario Samples in
theorem listingsAgree_bareHost : ∃ devices, discover bareHost = some (.ok devices) ∧
    devices.length = 2 ∧ ListingsAgree asciiLowercase (some "amd") devices := by
  have hread : bareHost.sys.readDir drmDir = some ["card1", "card0", "card0-DP-1"] := by
    decide
  have hfound := discover_listed (show bareHost.sys.pathExists drmDir = true from rfl) hread
    (show nvmlByBdf bareHost.lower bareHost.nvml = some ∅ from rfl)
  refine ⟨_, hfound, ?_, listingsAgree_discover hfound asciiLowercase (some "amd")⟩
  rw [(sortByKey_perm _ _).length_eq, List.length_map]
  decide +kernel

end Discover

end NautiFabric
