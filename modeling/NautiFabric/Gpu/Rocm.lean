import NautiFabric.Fabric.Types
import NautiFabric.Gpu.Bdf
import NautiFabric.Json
import NautiFabric.Text

/-!
# NautiFabric.Gpu.Rocm — what is known of AMD cards

Two sources say something about a card: the files under its device in sysfs, and the table
that `rocm-smi` prints for it. The cards are told apart by their BDF.

* `fieldAt_mergeTables`: in what comes out of both, sysfs goes first, and behind it the
  first entry of the card's tables that says anything.
* `rocm_smi_precedence_iff` says when that is the same as `rocm-smi` going first.
-/

namespace NautiFabric

/-! ## Telemetry -/

structure AmdTelemetry where
  productName : Option String
  uniqueId : Option String
  vramTotalBytes : Option UInt64
  vramUsedBytes : Option UInt64
  utilizationPct : Option UInt32
  temperatureC : Option UInt32
  source : String
deriving DecidableEq, Repr

/-- `AmdTelemetry::default()` with a source. -/
def AmdTelemetry.empty (source : String) : AmdTelemetry :=
  ⟨none, none, none, none, none, none, source⟩

abbrev TelemetryMap := StringMap AmdTelemetry

/-! ## sysfs -/

/-- The files that are read, by their paths; `None` where a call fails. -/
structure Sysfs where
  /-- the names of the entries, in order -/
  readDir : String → Option (List String)
  readLink : String → Option String
  readToString : String → Option String

/-- `Path::file_name` -/
def fileName (path : String) : Option String :=
  match ((split '/' path).filter fun part => part ≠ "" ∧ part ≠ ".").getLast? with
  | none => none
  | some ".." => none
  | some name => some name

/-- `str::trim_start_matches` of a string, taken away at most so many times. -/
def trimStarts (start : String) : (times : ℕ) → String → String
  | 0, s => s
  | times + 1, s =>
    match stripStart start s with
    | none => s
    | some rest => trimStarts start times rest

def trimStartMatches (start s : String) : String := trimStarts start s.toList.length s

/-- `s.trim()`, if anything is left. -/
def trimmedText (s : String) : Option String := (some (trim s)).filter fun text => text ≠ ""

def readU64 (fs : Sysfs) (path : String) : Option ℕ :=
  (fs.readToString path).bind fun s => fromStrRadix 10 64 (trim s)

def vendorOf (fs : Sysfs) (dev : String) : ℕ :=
  ((fs.readToString (dev ++ "/vendor")).bind fun s =>
    fromStrRadix 16 32 (trimStartMatches "0x" (trim s))).getD 0

/-- Only the first entry of `hwmon` is looked at. -/
def hwmonTemperature (fs : Sysfs) (dev : String) : Option UInt32 :=
  match fs.readDir (dev ++ "/hwmon") with
  | some (hm :: _) =>
    (readU64 fs (dev ++ "/hwmon/" ++ hm ++ "/temp1_input")).map fun milli => .ofNat (milli / 1000)
  | _ => none

def sysfsTelemetry (fs : Sysfs) (dev : String) : AmdTelemetry where
  productName := (fs.readToString (dev ++ "/product_name")).bind trimmedText
  uniqueId := (fs.readToString (dev ++ "/unique_id")).bind trimmedText
  vramTotalBytes := (readU64 fs (dev ++ "/mem_info_vram_total")).map .ofNat
  vramUsedBytes := (readU64 fs (dev ++ "/mem_info_vram_used")).map .ofNat
  utilizationPct := none
  temperatureC := hwmonTemperature fs dev
  source := "rocm-sysfs"

/-- A card itself, and none of its connectors. -/
def isCard (name : String) : Bool := "card".toList.isPrefixOf name.toList && !containsStr name "-"

/-- One entry of the directory. -/
def enrichCard (fs : Sysfs) (drmDir : String) (map : TelemetryMap) (name : String) :
    TelemetryMap :=
  let dev := drmDir ++ "/" ++ name ++ "/device"
  let bdf := ((fs.readLink dev).bind fileName).getD ""
  if !isCard name || bdf.isEmpty then map
  else if vendorOf fs dev ≠ 0x1002 ∧ vendorOf fs dev ≠ 0x1022 then map
  else map.insert bdf (sysfsTelemetry fs dev)

def sysfsEnrichment (fs : Sysfs) (drmDir : String) : TelemetryMap :=
  match fs.readDir drmDir with
  | none => ∅
  | some names => names.foldl (enrichCard fs drmDir) ∅

/-- From the index of a card to its BDF. -/
def cardIndexToBdf (fs : Sysfs) : Std.ExtTreeMap ℕ String :=
  ((fs.readDir "/sys/class/drm").getD []).foldl (fun map name =>
    if !isCard name then map
    else
      match (stripStart "card" name).bind (fromStrRadix 10 32) with
      | none => map
      | some idx =>
        match (fs.readLink ("/sys/class/drm/" ++ name ++ "/device")).bind fileName with
        | none => map
        | some bdf => map.insert idx bdf) ∅

/-! ## The fields of a table -/

/-- What the texts of `rocm-smi` are read with. -/
structure RocmText (F : Type) where
  lowercase : Lowercase
  toUppercase : String → String
  parseF64 : String → Option F
  mul : F → F → F
  ofU64 : UInt64 → F
  toU64 : F → UInt64
  toU32 : F → UInt32

variable {F N : Type}

/-- `split_once(char::is_whitespace)` -/
def splitOnceWhitespace (s : String) : Option (String × String) :=
  match s.toList.dropWhile fun c => !isWhitespace c with
  | [] => none
  | _ :: after => some (.ofList (s.toList.takeWhile fun c => !isWhitespace c), .ofList after)

def parseHumanBytes (text : RocmText F) (s : String) : Option UInt64 :=
  match splitOnceWhitespace (trim s) with
  | none => none
  | some (num, unit) =>
    match text.parseF64 (trim num) with
    | none => none
    | some n =>
      let mult : UInt64 :=
        if containsStr (text.toUppercase unit) "G" then 1024 * 1024 * 1024 else 1024 * 1024
      some (text.toU64 (text.mul n (text.ofU64 mult)))

def parsePct (text : RocmText F) (s : String) : Option UInt32 :=
  (text.parseF64 (trim (.ofList ((trim s).toList.rdropWhile fun c => c == '%')))).map text.toU32

/-- The fields of `AmdTelemetry` that a table may say something about. -/
inductive TelemetryField where
  | productName
  | uniqueId
  | vramTotalBytes
  | vramUsedBytes
  | utilizationPct
  | temperatureC
deriving DecidableEq, Repr

namespace TelemetryField

abbrev Value : TelemetryField → Type
  | productName | uniqueId => String
  | vramTotalBytes | vramUsedBytes => UInt64
  | utilizationPct | temperatureC => UInt32

def get (t : AmdTelemetry) : (field : TelemetryField) → Option field.Value
  | productName => t.productName
  | uniqueId => t.uniqueId
  | vramTotalBytes => t.vramTotalBytes
  | vramUsedBytes => t.vramUsedBytes
  | utilizationPct => t.utilizationPct
  | temperatureC => t.temperatureC

/-- Whether a key, in lower case, is one for the field. -/
def recognises (kl : String) : TelemetryField → Bool
  | productName => containsStr kl "product name" || containsStr kl "vbios"
  | uniqueId => containsStr kl "unique_id" || containsStr kl "unique id"
  | vramTotalBytes => containsStr kl "total" && containsStr kl "vram"
  | vramUsedBytes => containsStr kl "used" && containsStr kl "vram"
  | utilizationPct => containsStr kl "gpu use" || containsStr kl "gpu utilization"
  | temperatureC => containsStr kl "temperature"

def parse (text : RocmText F) (v : Json N) : (field : TelemetryField) → Option field.Value
  | productName | uniqueId => v.asStr.filter fun s => !s.isEmpty
  | vramTotalBytes | vramUsedBytes => v.asStr.bind (parseHumanBytes text)
  | utilizationPct | temperatureC => v.asStr.bind (parsePct text)

/-- What an entry of a table says about the field. -/
def read (text : RocmText F) (field : TelemetryField) (entry : String × Json N) :
    Option field.Value :=
  if field.recognises (text.lowercase.apply entry.1) then field.parse text entry.2 else none

/-- The new value of the field: only one that is not set is looked for. -/
def fill (text : RocmText F) (field : TelemetryField) (entry : String × Json N)
    (t : AmdTelemetry) : Option field.Value :=
  if field.recognises (text.lowercase.apply entry.1) && (field.get t).isNone then
    match field.parse text entry.2 with
    | some value => some value
    | none => field.get t
  else field.get t

end TelemetryField

/-! ## `rocm-smi` -/

/-- One entry of a card's table. -/
def mergeEntry (text : RocmText F) (t : AmdTelemetry) (entry : String × Json N) :
    AmdTelemetry where
  productName := TelemetryField.productName.fill text entry t
  uniqueId := TelemetryField.uniqueId.fill text entry t
  vramTotalBytes := TelemetryField.vramTotalBytes.fill text entry t
  vramUsedBytes := TelemetryField.vramUsedBytes.fill text entry t
  utilizationPct := TelemetryField.utilizationPct.fill text entry t
  temperatureC := TelemetryField.temperatureC.fill text entry t
  source := t.source

/-- The card that a key of the answer is for. -/
def namedBdf (cardToBdf : Std.ExtTreeMap ℕ String) (key : String) : Option String :=
  match stripStart "card" key with
  | some i => (fromStrRadix 10 32 i).bind fun i => cardToBdf[i]?
  | none => some key

/-- The entry that a table is merged into. -/
def entryOf (map : TelemetryMap) (bdf : String) : AmdTelemetry :=
  let entry := (map[bdf]?).getD (.empty "rocm-smi")
  if entry.source = "rocm-sysfs" then { entry with source := "rocm-smi" } else entry

def mergeTable (text : RocmText F) (cardToBdf : Std.ExtTreeMap ℕ String) (map : TelemetryMap)
    (table : String × Json N) : TelemetryMap :=
  match namedBdf cardToBdf table.1 with
  | none => map
  | some bdf =>
    match table.2.asObject with
    | none => map
    | some obj => map.insert bdf (obj.foldl (mergeEntry text) (entryOf map bdf))

/-- A run of `rocm-smi`. -/
structure RocmSmi (N : Type) where
  /-- what it prints, if it succeeds -/
  output : Option (List UInt8)
  json : String → Option (Json N)

def mergeRocmSmi (text : RocmText F) (smi : RocmSmi N) (cardToBdf : Std.ExtTreeMap ℕ String)
    (map : TelemetryMap) : TelemetryMap :=
  match smi.output with
  | none => map
  | some stdout =>
    match smi.json (fromUtf8Lossy stdout) with
    | none => map
    | some parsed =>
      match parsed.asObject with
      | none => map
      | some tables => tables.foldl (mergeTable text cardToBdf) map

/-- A card of which nothing is known is left out. -/
def AmdTelemetry.known (t : AmdTelemetry) : Bool :=
  t.productName.isSome || t.uniqueId.isSome || t.vramTotalBytes.isSome ||
    t.vramUsedBytes.isSome || t.utilizationPct.isSome || t.temperatureC.isSome

def collect (text : RocmText F) (smi : RocmSmi N) (fs : Sysfs) (drmDir : String) : TelemetryMap :=
  (mergeRocmSmi text smi (cardIndexToBdf fs) (sysfsEnrichment fs drmDir)).filter fun _ t => t.known

/-! ## What comes out of both -/

/-- A field of a card; a card that is not in the map has none. -/
def fieldAt (map : TelemetryMap) (bdf : String) (field : TelemetryField) : Option field.Value :=
  (map[bdf]?).bind fun t => field.get t

section Tables

variable (text : RocmText F) (cardToBdf : Std.ExtTreeMap ℕ String)

/-- Everything that the tables of a card say about a field, in order. -/
def readings (tables : List (String × Json N)) (bdf : String) (field : TelemetryField) :
    List field.Value :=
  tables.flatMap fun table =>
    if namedBdf cardToBdf table.1 = some bdf then
      ((table.2.asObject).getD []).filterMap (field.read text)
    else []

variable {text cardToBdf}

theorem get_mergeEntry (field : TelemetryField) (t : AmdTelemetry) (entry : String × Json N) :
    field.get (mergeEntry text t entry) = (field.get t).or (field.read text entry) := by
  have hfill : field.get (mergeEntry text t entry) = field.fill text entry t := by
    cases field
    all_goals rfl
  rw [hfill]
  unfold TelemetryField.fill TelemetryField.read
  rcases field.get t with _ | value
  · cases field.recognises (text.lowercase.apply entry.1)
    · rfl
    · rcases field.parse text entry.2 with _ | value
      · rfl
      · rfl
  · simp

theorem get_foldl_mergeEntry (field : TelemetryField) (t : AmdTelemetry)
    (obj : List (String × Json N)) :
    field.get (obj.foldl (mergeEntry text) t) =
      (field.get t).or (obj.filterMap (field.read text)).head? := by
  induction obj generalizing t with
  | nil => simp
  | cons entry obj ih =>
    rw [List.foldl_cons, ih, get_mergeEntry, Option.or_assoc, List.filterMap_cons]
    rcases field.read text entry with _ | value
    · rw [Option.none_or]
    · rfl

/-- The source of an entry is none of the fields. -/
theorem get_entryOf (map : TelemetryMap) (bdf : String) (field : TelemetryField) :
    field.get (entryOf map bdf) = fieldAt map bdf field := by
  have hsource (t : AmdTelemetry) (source : String) :
      field.get { t with source := source } = field.get t := by
    cases field
    all_goals rfl
  have hempty : field.get (.empty "rocm-smi") = none := by
    cases field
    all_goals rfl
  unfold entryOf fieldAt
  dsimp only
  rcases map[bdf]? with _ | t
  · exact hempty
  · rw [Option.getD_some, Option.bind_some]
    split
    · exact hsource t "rocm-smi"
    · rfl

theorem fieldAt_insert (map : TelemetryMap) (bdf bdf' : String) (t : AmdTelemetry)
    (field : TelemetryField) :
    fieldAt (map.insert bdf t) bdf' field =
      if bdf = bdf' then field.get t else fieldAt map bdf' field := by
  unfold fieldAt
  rw [Table.getElem?_insert]
  split
  · rfl
  · rfl

theorem fieldAt_mergeTable (map : TelemetryMap) (table : String × Json N) (bdf : String)
    (field : TelemetryField) :
    fieldAt (mergeTable text cardToBdf map table) bdf field =
      (fieldAt map bdf field).or (readings text cardToBdf [table] bdf field).head? := by
  have hreadings : readings text cardToBdf [table] bdf field =
      if namedBdf cardToBdf table.1 = some bdf then
        ((table.2.asObject).getD []).filterMap (field.read text)
      else [] := List.flatMap_singleton _ _
  rw [hreadings]
  unfold mergeTable
  rcases hnamed : namedBdf cardToBdf table.1 with _ | named
  · simp
  · rcases hobj : table.2.asObject with _ | obj
    · simp
    · dsimp only
      rw [fieldAt_insert, Option.getD_some]
      by_cases hbdf : named = bdf
      · subst hbdf
        rw [if_pos rfl, if_pos rfl, get_foldl_mergeEntry, get_entryOf]
      · rw [if_neg hbdf, if_neg (mt Option.some.inj hbdf), List.head?_nil, Option.or_none]

theorem fieldAt_mergeTables (map : TelemetryMap) (tables : List (String × Json N)) (bdf : String)
    (field : TelemetryField) :
    fieldAt (tables.foldl (mergeTable text cardToBdf) map) bdf field =
      (fieldAt map bdf field).or (readings text cardToBdf tables bdf field).head? := by
  induction tables generalizing map with
  | nil => simp [readings]
  | cons table tables ih =>
    have hreadings : readings text cardToBdf (table :: tables) bdf field =
        readings text cardToBdf [table] bdf field ++
          readings text cardToBdf tables bdf field := by
      unfold readings
      rw [← List.singleton_append, List.flatMap_append]
    rw [List.foldl_cons, ih, fieldAt_mergeTable, hreadings, List.head?_append, Option.or_assoc]

/-- The answer names the card, by its index or by its BDF. -/
def Named (cardToBdf : Std.ExtTreeMap ℕ String) (tables : List (String × Json N)) (bdf : String) :
    Prop :=
  ∃ table ∈ tables, namedBdf cardToBdf table.1 = some bdf

theorem getElem?_mergeTables (map : TelemetryMap) {tables : List (String × Json N)} {bdf : String}
    (h : ¬ Named cardToBdf tables bdf) :
    (tables.foldl (mergeTable text cardToBdf) map)[bdf]? = map[bdf]? := by
  induction tables generalizing map with
  | nil => rfl
  | cons table tables ih =>
    have hrest : ¬ Named cardToBdf tables bdf := by
      rintro ⟨other, hother, hnamed⟩
      exact h ⟨other, List.mem_cons_of_mem _ hother, hnamed⟩
    have htable : (mergeTable text cardToBdf map table)[bdf]? = map[bdf]? := by
      unfold mergeTable
      rcases hnamed : namedBdf cardToBdf table.1 with _ | named
      · rfl
      · rcases table.2.asObject with _ | obj
        · rfl
        · have hne : named ≠ bdf := by
            rintro rfl
            exact h ⟨table, List.mem_cons_self, hnamed⟩
          dsimp only
          rw [Table.getElem?_insert, if_neg hne]
    rw [List.foldl_cons, ih _ hrest, htable]

end Tables

/-! ## Which source goes first -/

/-- `rocm-smi` goes first: a field of a named card has what one of the card's entries says,
if any says something, and all else is as it was. -/
structure RocmSmiFirst (text : RocmText F) (cardToBdf : Std.ExtTreeMap ℕ String)
    (tables : List (String × Json N)) (map merged : TelemetryMap) : Prop where
  named : ∀ bdf, Named cardToBdf tables bdf → ∀ field,
    if readings text cardToBdf tables bdf field = [] then
      fieldAt merged bdf field = fieldAt map bdf field
    else ∃ value ∈ readings text cardToBdf tables bdf field,
      fieldAt merged bdf field = some value
  notNamed : ∀ bdf, ¬ Named cardToBdf tables bdf → merged[bdf]? = map[bdf]?

/-- The answer that it prints. -/
def RocmSmi.Prints (smi : RocmSmi N) (tables : List (String × Json N)) : Prop :=
  ∃ stdout, smi.output = some stdout ∧ smi.json (fromUtf8Lossy stdout) = some (.obj tables)

theorem mergeRocmSmi_of_prints (text : RocmText F) {smi : RocmSmi N}
    {tables : List (String × Json N)} (hprints : smi.Prints tables)
    (cardToBdf : Std.ExtTreeMap ℕ String) (map : TelemetryMap) :
    mergeRocmSmi text smi cardToBdf map = tables.foldl (mergeTable text cardToBdf) map := by
  obtain ⟨stdout, houtput, hjson⟩ := hprints
  unfold mergeRocmSmi
  rw [houtput]
  dsimp only
  rw [hjson]
  rfl

/-- What is collected of a card: sysfs goes first. -/
theorem fieldAt_collect (text : RocmText F) {smi : RocmSmi N} {tables : List (String × Json N)}
    (hprints : smi.Prints tables) (fs : Sysfs) (drmDir bdf : String) (field : TelemetryField) :
    fieldAt (collect text smi fs drmDir) bdf field =
      (fieldAt (sysfsEnrichment fs drmDir) bdf field).or
        (readings text (cardIndexToBdf fs) tables bdf field).head? := by
  have hblank (t : AmdTelemetry) (h : t.known = false) : field.get t = none := by
    simp only [AmdTelemetry.known, Bool.or_eq_false_iff, Option.isSome_eq_false_iff,
      Option.isNone_iff_eq_none] at h
    obtain ⟨⟨⟨⟨⟨hproduct, hunique⟩, htotal⟩, hused⟩, hutilization⟩, htemperature⟩ := h
    cases field
    · exact hproduct
    · exact hunique
    · exact htotal
    · exact hused
    · exact hutilization
    · exact htemperature
  -- a card that is left out has no field anyway
  have hretained (map : TelemetryMap) :
      fieldAt (map.filter fun _ t => t.known) bdf field = fieldAt map bdf field := by
    unfold fieldAt
    rw [Std.ExtTreeMap.getElem?_filter']
    rcases map[bdf]? with _ | t
    · rfl
    · cases hspoken : t.known
      · rw [Option.filter_some, if_neg (by simp [hspoken]), Option.bind_none, Option.bind_some,
          hblank t hspoken]
      · rw [Option.filter_some, if_pos hspoken]
  unfold collect
  rw [hretained, mergeRocmSmi_of_prints text hprints, fieldAt_mergeTables]

/-- Wherever sysfs has a value and the answer says something, they are the same at one entry
at least. -/
def SysfsGivesWay (text : RocmText F) (cardToBdf : Std.ExtTreeMap ℕ String)
    (tables : List (String × Json N)) (map : TelemetryMap) : Prop :=
  ∀ bdf field value, fieldAt map bdf field = some value →
    readings text cardToBdf tables bdf field = [] ∨
      value ∈ readings text cardToBdf tables bdf field

/-- `rocm-smi` goes first just where sysfs has no say of its own. -/
theorem rocm_smi_precedence_iff (text : RocmText F) {smi : RocmSmi N}
    {tables : List (String × Json N)} (hprints : smi.Prints tables)
    (cardToBdf : Std.ExtTreeMap ℕ String) (map : TelemetryMap) :
    RocmSmiFirst text cardToBdf tables map (mergeRocmSmi text smi cardToBdf map) ↔
      SysfsGivesWay text cardToBdf tables map := by
  rw [mergeRocmSmi_of_prints text hprints]
  constructor
  · intro hfirst bdf field value hsysfs
    by_cases hspoken : readings text cardToBdf tables bdf field = []
    · exact .inl hspoken
    · have hnamed : Named cardToBdf tables bdf := by
        by_contra hnot
        refine hspoken (List.flatMap_eq_nil_iff.mpr fun table htable => if_neg fun hbdf => ?_)
        exact hnot ⟨table, htable, hbdf⟩
      -- the field has the value of sysfs, so an entry has to say the same
      have hfield := hfirst.named bdf hnamed field
      rw [if_neg hspoken, fieldAt_mergeTables, hsysfs] at hfield
      obtain ⟨said, hmem, hsame⟩ := hfield
      exact .inr (Option.some.inj hsame ▸ hmem)
  · intro hway
    constructor
    · intro bdf _ field
      rw [fieldAt_mergeTables]
      rcases hspoken : readings text cardToBdf tables bdf field with _ | ⟨said, more⟩
      · rw [if_pos rfl, List.head?_nil, Option.or_none]
      · rw [if_neg (List.cons_ne_nil said more)]
        rcases hsysfs : fieldAt map bdf field with _ | value
        · exact ⟨said, List.mem_cons_self, rfl⟩
        · have hagrees := hway bdf field value hsysfs
          rw [hspoken] at hagrees
          exact ⟨value, hagrees.resolve_left (List.cons_ne_nil said more), rfl⟩
    · intro bdf hnot
      exact getElem?_mergeTables map hnot

namespace RocmScenario

/-- Decimal texts, up to the point. -/
def decimal : RocmText ℕ where
  lowercase := Scenario.asciiLowercase
  toUppercase s := .ofList (s.toList.map Char.toUpper)
  parseF64 s := fromStrRadix 10 64 ((split '.' s).headD "")
  mul := (· * ·)
  ofU64 := UInt64.toNat
  toU64 := .ofNat
  toU32 := .ofNat

/-- One card, at 45.5 °C. -/
def oneCard : Sysfs where
  readDir path :=
    if path = "/sys/class/drm" then some ["card0"]
    else if path = "/sys/class/drm/card0/device/hwmon" then some ["hwmon0"]
    else none
  readLink path :=
    if path = "/sys/class/drm/card0/device" then some "../../../0000:03:00.0" else none
  readToString path :=
    if path = "/sys/class/drm/card0/device/vendor" then some "0x1002\n"
    else if path = "/sys/class/drm/card0/device/hwmon/hwmon0/temp1_input" then some "45500\n"
    else none

/-- The same card, as `rocm-smi` has it. -/
def fiftyDegrees : List (String × Json ℕ) :=
  [("card0", .obj [("Temperature (Sensor edge) (C)", .str "50.0")])]

def fiftyDegreesText : String :=
  "\x7b\"card0\": \x7b\"Temperature (Sensor edge) (C)\": \"50.0\"\x7d\x7d"

def smi : RocmSmi ℕ where
  output := some (asBytes fiftyDegreesText)
  json text := if text = fiftyDegreesText then some (.obj fiftyDegrees) else none

theorem smi_prints : smi.Prints fiftyDegrees := by
  refine ⟨_, rfl, ?_⟩
  rw [fromUtf8Lossy_asBytes]
  unfold smi
  dsimp only
  rw [if_pos rfl]

end RocmScenario

open RocmScenario in
theorem rocm_smi_precedence_iff_oneCard :
    RocmSmiFirst decimal (cardIndexToBdf oneCard) fiftyDegrees
        (sysfsEnrichment oneCard "/sys/class/drm")
        (mergeRocmSmi decimal smi (cardIndexToBdf oneCard)
          (sysfsEnrichment oneCard "/sys/class/drm")) ↔
      SysfsGivesWay decimal (cardIndexToBdf oneCard) fiftyDegrees
        (sysfsEnrichment oneCard "/sys/class/drm") :=
  rocm_smi_precedence_iff decimal smi_prints (cardIndexToBdf oneCard)
    (sysfsEnrichment oneCard "/sys/class/drm")

open RocmScenario in
theorem sysfs_temperature_kept :
    ¬ RocmSmiFirst decimal (cardIndexToBdf oneCard) fiftyDegrees
      (sysfsEnrichment oneCard "/sys/class/drm")
      (mergeRocmSmi decimal smi (cardIndexToBdf oneCard)
        (sysfsEnrichment oneCard "/sys/class/drm")) := by
  have hspoken : readings decimal (cardIndexToBdf oneCard) fiftyDegrees "0000:03:00.0"
      .temperatureC = [50] := by
    decide +kernel
  have hkept : fieldAt (mergeRocmSmi decimal smi (cardIndexToBdf oneCard)
      (sysfsEnrichment oneCard "/sys/class/drm")) "0000:03:00.0" .temperatureC = some 45 := by
    decide +kernel
  have hnamed : namedBdf (cardIndexToBdf oneCard) "card0" = some "0000:03:00.0" := by
    decide +kernel
  intro hfirst
  have hfield := hfirst.named "0000:03:00.0" ⟨_, List.mem_singleton_self _, hnamed⟩ .temperatureC
  rw [hspoken, hkept, if_neg (List.cons_ne_nil _ _)] at hfield
  obtain ⟨value, hvalue, hsame⟩ := hfield
  rw [List.mem_singleton.mp hvalue] at hsame
  exact absurd hsame (by decide)

end NautiFabric
