import NautiFabric.Fabric.Types
import NautiFabric.Lib.Table
import NautiFabric.Text

/-!
# NautiFabric.Gpu.Bdf — one key for one PCI device

GPU discovery reads PCI addresses from sysfs and finds the NVML record of a
device under `normalize_bdf` of NVML's spelling; the VFIO adapter has a
`normalize_bdf` of its own. Discovery cuts the domain to its last four digits,
where VFIO reads the number and prints it again; `oneKey_iff` says what that
costs.
-/

namespace NautiFabric

/-- `{:0width$x}`, and `%0*x` of C: lower-case digits, zeros in front. -/
def hex (width n : ℕ) : String := .ofList ((Nat.toDigits 16 n).leftpad width '0')

@[ext]
structure PciAddress where
  domain : UInt32
  bus : UInt8
  device : Fin 32
  function : Fin 8
deriving DecidableEq

namespace PciAddress

def slot (a : PciAddress) : String := hex 2 a.device ++ "." ++ hex 1 a.function

/-- The spelling of sysfs. -/
def sysfs (a : PciAddress) : String :=
  hex 4 a.domain.toNat ++ ":" ++ hex 2 a.bus.toNat ++ ":" ++ a.slot

/-- The spelling of NVML, in lower case. -/
def nvml (a : PciAddress) : String :=
  hex 8 a.domain.toNat ++ ":" ++ hex 2 a.bus.toNat ++ ":" ++ a.slot

/-- The text is how sysfs spells the address, or NVML in whatever case. -/
def Spelled (a : PciAddress) (text : String) : Prop :=
  text = a.sysfs ∨ toAsciiLowercase text = a.nvml

end PciAddress

/-- The last four bytes of a longer domain. -/
def Discover.cutDomain (domain : String) : Option String :=
  let length := (asBytes domain).length
  if length > 4 then sliceFrom domain (length - 4) else some domain

/-- `normalize_bdf` of GPU discovery; `none` is a panic at the slice. -/
def Discover.normalizeBdf (lower : Lowercase) (raw : String) : Option String :=
  let trimmed := lower.apply (trim raw)
  if trimmed.isEmpty then some ""
  else
    match split ':' trimmed with
    | [domain, bus, slot] =>
      (Discover.cutDomain domain).map fun domain => domain ++ ":" ++ bus ++ ":" ++ slot
    | _ => some trimmed

/-- `normalize_bdf` of the VFIO adapter. -/
def Vfio.normalizeBdf (raw : String) : String :=
  let raw := toAsciiLowercase (trim raw)
  match splitOnce ':' raw with
  | some (domain, rest) =>
    if ':' ∈ rest.toList then hex 4 ((fromStrRadix 16 32 domain).getD 0) ++ ":" ++ rest
    else "0000:" ++ raw
  | none => "0000:" ++ raw

/-! ## The characters of an address -/

/-- A lower-case hexadecimal digit. -/
def HexChar (c : Char) : Prop := ∃ d < 16, c = Nat.digitChar d

theorem hexChar_spec {c : Char} (h : HexChar c) :
    c.toLower = c ∧ c ≠ ':' ∧ c ≠ '.' ∧ c ≠ '+' ∧ isWhitespace c = false ∧ c.toNat < 0x80 := by
  obtain ⟨d, hd, rfl⟩ := h
  revert d
  decide

theorem hex_columns (width n : ℕ) :
    ∃ k, width ≤ k ∧ n < 16 ^ k ∧ (hex width n).toList = Digits.fixed 16 k n := by
  obtain ⟨k, hwidth, hfits, hcolumns⟩ := Digits.leftpad_toDigits (b := 16) (by decide) width n
  exact ⟨k, hwidth, hfits, by rw [hex, String.toList_ofList, hcolumns]⟩

theorem hexChar_of_mem_fixed {k n : ℕ} {c : Char} (h : c ∈ Digits.fixed 16 k n) : HexChar c :=
  Digits.of_mem_fixed (by decide) h

theorem hexChar_of_mem_hex {width n : ℕ} {c : Char} (h : c ∈ (hex width n).toList) :
    HexChar c := by
  obtain ⟨k, -, -, hcolumns⟩ := hex_columns width n
  rw [hcolumns] at h
  exact hexChar_of_mem_fixed h

/-- A printed number is read back. -/
theorem digitsTotal_hex (width n : ℕ) : digitsTotal 16 0 (hex width n).toList = n := by
  obtain ⟨k, -, hfits, hcolumns⟩ := hex_columns width n
  rw [hcolumns, digitsTotal_fixed (by decide) toDigit_hexDigitChar, Nat.mod_eq_of_lt hfits]

theorem hex_injective {width n m : ℕ} (h : hex width n = hex width m) : n = m := by
  rw [← digitsTotal_hex width n, h, digitsTotal_hex]

/-! ## The spellings -/

namespace PciAddress

theorem not_mem_hex {width n : ℕ} {c : Char} (hc : ¬ HexChar c) : c ∉ (hex width n).toList :=
  fun h => hc (hexChar_of_mem_hex h)

theorem not_hexChar_colon : ¬ HexChar ':' := fun h => (hexChar_spec h).2.1 rfl

theorem not_hexChar_dot : ¬ HexChar '.' := fun h => (hexChar_spec h).2.2.1 rfl

theorem toList_slot (a : PciAddress) :
    a.slot.toList = (hex 2 a.device).toList ++ '.' :: (hex 1 a.function).toList := by
  simp [slot, String.toList_append]

theorem colon_not_mem_slot (a : PciAddress) : ':' ∉ a.slot.toList := by
  rw [toList_slot]
  intro h
  rcases List.mem_append.mp h with hdevice | hrest
  · exact not_mem_hex not_hexChar_colon hdevice
  · rcases List.mem_cons.mp hrest with hdot | hfunction
    · cases hdot
    · exact not_mem_hex not_hexChar_colon hfunction

/-- The columns of the domain, the bus, and the slot. -/
def columns (a : PciAddress) (k : ℕ) : List Char :=
  Digits.fixed 16 k a.domain.toNat ++ ':' :: ((hex 2 a.bus.toNat).toList ++ ':' :: a.slot.toList)

theorem columns_spec (a : PciAddress) (k : ℕ) {c : Char} (h : c ∈ a.columns k) :
    c.toLower = c ∧ isWhitespace c = false ∧ c.toNat < 0x80 := by
  have hchar : HexChar c ∨ c = ':' ∨ c = '.' := by
    rw [columns, toList_slot] at h
    simp only [List.mem_append, List.mem_cons] at h
    rcases h with hdomain | hcolon | hbus | hcolon | hdevice | hdot | hfunction
    · exact Or.inl (hexChar_of_mem_fixed hdomain)
    · exact Or.inr (Or.inl hcolon)
    · exact Or.inl (hexChar_of_mem_hex hbus)
    · exact Or.inr (Or.inl hcolon)
    · exact Or.inl (hexChar_of_mem_hex hdevice)
    · exact Or.inr (Or.inr hdot)
    · exact Or.inl (hexChar_of_mem_hex hfunction)
  rcases hchar with hhex | rfl | rfl
  · obtain ⟨hlower, -, -, -, hspace, hascii⟩ := hexChar_spec hhex
    exact ⟨hlower, hspace, hascii⟩
  · decide
  · decide

/-- Printed in at least `width` columns, the domain stands in some number of columns. -/
theorem printed (a : PciAddress) (width : ℕ) :
    ∃ k, width ≤ k ∧ a.domain.toNat < 16 ^ k ∧
      hex width a.domain.toNat ++ ":" ++ hex 2 a.bus.toNat ++ ":" ++ a.slot =
        .ofList (a.columns k) := by
  obtain ⟨k, hwidth, hfits, hdomain⟩ := hex_columns width a.domain.toNat
  refine ⟨k, hwidth, hfits, ?_⟩
  apply String.toList_injective
  simp [columns, String.toList_append, hdomain]

theorem toAsciiLowercase_columns (a : PciAddress) (k : ℕ) :
    toAsciiLowercase (.ofList (a.columns k)) = .ofList (a.columns k) := by
  rw [toAsciiLowercase, String.toList_ofList]
  congr 1
  refine (List.map_congr_left fun c hc => (a.columns_spec k hc).1).trans ?_
  exact List.map_id _

/-- Both spellings are columns with at least four for the domain, up to the case. -/
theorem Spelled.columns {a : PciAddress} {text : String} (h : a.Spelled text) :
    ∃ k, 4 ≤ k ∧ a.domain.toNat < 16 ^ k ∧ toAsciiLowercase text = .ofList (a.columns k) := by
  rcases h with rfl | hnvml
  · obtain ⟨k, hwidth, hfits, hprinted⟩ := a.printed 4
    refine ⟨k, hwidth, hfits, ?_⟩
    rw [sysfs, hprinted, toAsciiLowercase_columns]
  · obtain ⟨k, hwidth, hfits, hprinted⟩ := a.printed 8
    exact ⟨k, by omega, hfits, hnvml.trans hprinted⟩

theorem sysfs_spelled (a : PciAddress) : a.Spelled a.sysfs := Or.inl rfl

theorem toList_sysfs (a : PciAddress) :
    a.sysfs.toList = (hex 4 a.domain.toNat).toList ++ ':' ::
      ((hex 2 a.bus.toNat).toList ++ ':' :: a.slot.toList) := by
  simp [sysfs, String.toList_append]

/-- What stands before a character that is no digit is read off. -/
theorem hex_append_inj {width n m : ℕ} {c : Char} (hc : ¬ HexChar c) {xs ys : List Char}
    (h : (hex width n).toList ++ c :: xs = (hex width m).toList ++ c :: ys) : n = m ∧ xs = ys := by
  obtain ⟨hprinted, hrest⟩ := append_cons_inj (not_mem_hex hc) (not_mem_hex hc) h
  exact ⟨hex_injective (String.toList_injective hprinted), hrest⟩

theorem sysfs_injective {a b : PciAddress} (h : a.sysfs = b.sysfs) : a = b := by
  have htext := congrArg String.toList h
  rw [toList_sysfs, toList_sysfs] at htext
  obtain ⟨hdomain, hrest⟩ := hex_append_inj not_hexChar_colon htext
  obtain ⟨hbus, hslot⟩ := hex_append_inj not_hexChar_colon hrest
  rw [toList_slot, toList_slot] at hslot
  obtain ⟨hdevice, hfunction⟩ := hex_append_inj not_hexChar_dot hslot
  apply PciAddress.ext
  · exact UInt32.toNat_inj.mp hdomain
  · exact UInt8.toNat_inj.mp hbus
  · exact Fin.ext hdevice
  · exact Fin.ext (hex_injective (String.toList_injective hfunction))

/-- A spelling has no white space around it, and any lower case is that of ASCII. -/
theorem Spelled.plain {a : PciAddress} {text : String} (h : a.Spelled text) :
    trim text = text ∧ ∀ lower : Lowercase, lower.apply text = toAsciiLowercase text := by
  obtain ⟨k, -, -, hcolumns⟩ := h.columns
  have hplain : ∀ c ∈ text.toList, isWhitespace c = false ∧ c.toNat < 0x80 := by
    apply of_lowercase
    intro c hc
    rw [hcolumns, String.toList_ofList] at hc
    exact (a.columns_spec k hc).2
  constructor
  · have htrim := trim_of_no_whitespace fun c hc => (hplain c hc).1
    rwa [String.ofList_toList] at htrim
  · intro lower
    exact lower.ascii text fun c hc => (hplain c hc).2

end PciAddress

open PciAddress

/-! ## What the two functions make of a spelling -/

theorem colon_not_mem_fixed (k n : ℕ) : ':' ∉ Digits.fixed 16 k n :=
  fun h => not_hexChar_colon (hexChar_of_mem_fixed h)

/-- VFIO reads the domain and prints it again. -/
theorem vfio_spelled {a : PciAddress} {text : String} (h : a.Spelled text) :
    Vfio.normalizeBdf text = a.sysfs := by
  obtain ⟨k, hwidth, hfits, hcolumns⟩ := h.columns
  have hvalue : digitsTotal 16 0 (Digits.fixed 16 k a.domain.toNat) = a.domain.toNat := by
    rw [digitsTotal_fixed (by decide) toDigit_hexDigitChar, Nat.mod_eq_of_lt hfits]
  have hne : Digits.fixed 16 k a.domain.toNat ≠ [] := by
    apply List.ne_nil_of_length_pos
    rw [Digits.length_fixed]
    omega
  have hplus : '+' ∉ Digits.fixed 16 k a.domain.toNat :=
    fun hmem => (hexChar_spec (hexChar_of_mem_fixed hmem)).2.2.2.1 rfl
  have hparsed : fromStrRadix 16 32 (.ofList (Digits.fixed 16 k a.domain.toNat)) =
      some a.domain.toNat := by
    rw [fromStrRadix_of_digits (by decide) hne hplus
      (fun c hc => isSome_toDigit_fixed (by decide) toDigit_hexDigitChar hc)
      (by rw [hvalue]; exact a.domain.toNat_lt), hvalue]
  unfold Vfio.normalizeBdf
  dsimp only
  rw [h.plain.1, hcolumns, PciAddress.columns, splitOnce_append (colon_not_mem_fixed _ _)]
  dsimp only
  rw [if_pos (by simp), hparsed]
  apply String.toList_injective
  simp [sysfs, String.toList_append]

/-- The address as discovery sees it: the domain without its upper half. -/
def PciAddress.narrow (a : PciAddress) : PciAddress := { a with domain := a.domain % 0x10000 }

theorem narrow_eq_self_iff {a : PciAddress} : a.narrow = a ↔ a.domain.toNat < 2 ^ 16 := by
  have hnat : (a.domain % 0x10000).toNat = a.domain.toNat % 2 ^ 16 := UInt32.toNat_mod _ _
  constructor
  · intro h
    have hdomain := congrArg (fun a => a.domain.toNat) h
    change (a.domain % 0x10000).toNat = a.domain.toNat at hdomain
    omega
  · intro h
    apply PciAddress.ext
    · apply UInt32.toNat_inj.mp
      change (a.domain % 0x10000).toNat = a.domain.toNat
      omega
    · rfl
    · rfl
    · rfl

theorem narrow_lt (a : PciAddress) : a.narrow.domain.toNat < 2 ^ 16 := by
  have hnat : a.narrow.domain.toNat = a.domain.toNat % 2 ^ 16 := UInt32.toNat_mod _ _
  rw [hnat]
  exact Nat.mod_lt _ (by decide)

/-- Four columns show the domain without its upper half. -/
theorem sysfs_narrow (a : PciAddress) :
    a.narrow.sysfs = .ofList (a.columns 4) := by
  have hnat : (a.domain % 0x10000).toNat = a.domain.toNat % 16 ^ 4 := UInt32.toNat_mod _ _
  have hfits : a.domain.toNat % 16 ^ 4 < 16 ^ 4 := Nat.mod_lt _ (by decide)
  apply String.toList_injective
  rw [toList_sysfs, String.toList_ofList, PciAddress.columns]
  change (hex 4 (a.domain % 0x10000).toNat).toList ++ _ = _
  rw [hnat, hex, String.toList_ofList, Digits.leftpad_toDigits_of_lt (by decide) (by decide) hfits,
    Digits.fixed_mod]
  rfl

theorem split_columns (a : PciAddress) (k : ℕ) :
    split ':' (.ofList (a.columns k)) =
      [.ofList (Digits.fixed 16 k a.domain.toNat), hex 2 a.bus.toNat, a.slot] := by
  have hbus : ':' ∉ (hex 2 a.bus.toNat).toList := not_mem_hex not_hexChar_colon
  unfold split
  rw [String.toList_ofList, PciAddress.columns,
    List.splitOn_append_cons_self_of_not_mem (colon_not_mem_fixed _ _),
    List.splitOn_append_cons_self_of_not_mem hbus,
    List.splitOn_eq_singleton a.colon_not_mem_slot]
  simp

theorem cutDomain_fixed {k n : ℕ} (hk : 4 ≤ k) :
    Discover.cutDomain (.ofList (Digits.fixed 16 k n)) = some (.ofList (Digits.fixed 16 4 n)) := by
  have hascii : ∀ c ∈ Digits.fixed 16 k n, c.toNat < 0x80 :=
    fun c hc => (hexChar_spec (hexChar_of_mem_fixed hc)).2.2.2.2.2
  have hlength : (asBytes (.ofList (Digits.fixed 16 k n))).length = k := by
    rw [asBytes_of_ascii hascii, List.length_map, Digits.length_fixed]
  unfold Discover.cutDomain
  dsimp only
  rw [hlength]
  split
  · rw [sliceFrom_of_ascii hascii (by rw [Digits.length_fixed]; omega)]
    obtain ⟨j, rfl⟩ : ∃ j, k = j + 4 := ⟨k - 4, by omega⟩
    rw [Nat.add_sub_cancel, Digits.drop_fixed]
  · obtain rfl : k = 4 := by omega
    rfl

/-- Discovery cuts the domain. -/
theorem discover_spelled (lower : Lowercase) {a : PciAddress} {text : String}
    (h : a.Spelled text) : Discover.normalizeBdf lower text = some a.narrow.sysfs := by
  obtain ⟨k, hwidth, -, hcolumns⟩ := h.columns
  have hnonempty : ¬ (String.ofList (a.columns k)).isEmpty = true := by
    simp [PciAddress.columns]
  unfold Discover.normalizeBdf
  dsimp only
  rw [h.plain.1, h.plain.2, hcolumns, if_neg hnonempty, split_columns]
  dsimp only
  rw [cutDomain_fixed hwidth, sysfs_narrow, Option.map_some]
  apply congrArg some
  apply String.toList_injective
  simp [PciAddress.columns, String.toList_append]

/-! ## One key for one device -/

/-- Both functions map every spelling of every device to its sysfs spelling, and no
two devices get the same key. -/
structure OneKey (lower : Lowercase) (devices : Set PciAddress) : Prop where
  discover : ∀ a ∈ devices, ∀ text, a.Spelled text →
    Discover.normalizeBdf lower text = some a.sysfs
  vfio : ∀ a ∈ devices, ∀ text, a.Spelled text → Vfio.normalizeBdf text = a.sysfs
  apart : ∀ a ∈ devices, ∀ b ∈ devices, ∀ x y, a.Spelled x → b.Spelled y →
    Discover.normalizeBdf lower x = Discover.normalizeBdf lower y ∨
      Vfio.normalizeBdf x = Vfio.normalizeBdf y → a = b

/-- Among any devices, one key for one device means that all domains fit into 16 bits. -/
theorem oneKey_iff (lower : Lowercase) (devices : Set PciAddress) :
    OneKey lower devices ↔ ∀ a ∈ devices, a.domain.toNat < 2 ^ 16 := by
  constructor
  · intro h a ha
    have hkey := (h.discover a ha a.sysfs a.sysfs_spelled).symm.trans
      (discover_spelled lower a.sysfs_spelled)
    have hsame : a.sysfs = a.narrow.sysfs := Option.some.inj hkey
    exact narrow_eq_self_iff.mp (sysfs_injective hsame).symm
  · intro hnarrow
    have hdiscover : ∀ a ∈ devices, ∀ text, a.Spelled text →
        Discover.normalizeBdf lower text = some a.sysfs := by
      intro a ha text htext
      have hself := narrow_eq_self_iff.mpr (hnarrow a ha)
      rw [discover_spelled lower htext, hself]
    constructor
    · exact hdiscover
    · intro a _ text htext
      exact vfio_spelled htext
    · intro a ha b hb x y hx hy hkeys
      apply sysfs_injective
      rcases hkeys with hkey | hkey
      · rw [hdiscover a ha x hx, hdiscover b hb y hy] at hkey
        exact Option.some.inj hkey
      · rw [vfio_spelled hx, vfio_spelled hy] at hkey
        exact hkey

namespace Scenario

def asciiLowercase : Lowercase := ⟨toAsciiLowercase, fun _ _ => rfl⟩

/-- A device in a PCI domain that takes more than 16 bits. -/
def wideDevice : PciAddress := ⟨0x10000, 3, 0, 0⟩

end Scenario

open Scenario in
/-- Discovery takes the device `10000:03:00.0` for `0000:03:00.0`. -/
theorem wide_domain_cut :
    Discover.normalizeBdf asciiLowercase "00010000:03:00.0" =
        Discover.normalizeBdf asciiLowercase "00000000:03:00.0" ∧
      ¬ OneKey asciiLowercase Set.univ := by
  have hcut : Discover.normalizeBdf asciiLowercase "00010000:03:00.0" = some "0000:03:00.0" := by
    decide +kernel
  constructor
  · rw [hcut]
    decide +kernel
  · intro h
    have hspelled : wideDevice.Spelled "00010000:03:00.0" := Or.inr (by decide +kernel)
    have hkey := h.discover wideDevice trivial _ hspelled
    rw [hcut] at hkey
    revert hkey
    decide +kernel

/-! ## The enrichment with NVML records -/

variable {R : Type}

/-- One turn of the loop of `nvml_by_bdf`. A device whose bus id NVML does not tell has the
empty key, and is left out. -/
def insertRecord (lower : Lowercase) (map : StringMap R) (listed : Option String × R) :
    Option (StringMap R) :=
  let bdf := match listed.1 with
    | none => some ""
    | some raw => Discover.normalizeBdf lower raw
  bdf.map fun bdf => if bdf.isEmpty then map else map.insert bdf listed.2

/-- `nvml_by_bdf`, over the bus ids and the records of NVML. -/
def nvmlByBdf (lower : Lowercase) (listed : List (Option String × R)) : Option (StringMap R) :=
  listed.foldlM (insertRecord lower) ∅

/-- A device as NVML lists it. -/
structure NvmlDevice (R : Type) where
  address : PciAddress
  busId : String
  spelled : address.Spelled busId
  record : R

def NvmlDevice.listed (d : NvmlDevice R) : Option String × R := (some d.busId, d.record)

/-- The record that the discovery of the device `a` in sysfs comes to find. -/
def enrichment (lower : Lowercase) (devices : List (NvmlDevice R)) (a : PciAddress) : Option R :=
  (nvmlByBdf lower (devices.map NvmlDevice.listed)).bind fun map => map[a.sysfs]?

theorem insertRecord_listed (lower : Lowercase) (map : StringMap R) (d : NvmlDevice R) :
    insertRecord lower map d.listed = some (map.insert d.address.narrow.sysfs d.record) := by
  have hnonempty : ¬ d.address.narrow.sysfs.isEmpty = true := by simp [sysfs]
  unfold insertRecord NvmlDevice.listed
  dsimp only
  rw [discover_spelled lower d.spelled, Option.map_some, if_neg hnonempty]

theorem nvmlByBdf_listed (lower : Lowercase) (devices : List (NvmlDevice R)) :
    nvmlByBdf lower (devices.map NvmlDevice.listed) =
      some (devices.foldl (fun map d => map.insert d.address.narrow.sysfs d.record) ∅) := by
  unfold nvmlByBdf
  generalize (∅ : StringMap R) = map
  induction devices generalizing map with
  | nil => rfl
  | cons d devices ih =>
      rw [List.map_cons, List.foldlM_cons, insertRecord_listed, List.foldl_cons, ← ih]
      rfl

/-- The last device listed whose address discovery takes for `a`. -/
theorem enrichment_eq (lower : Lowercase) (devices : List (NvmlDevice R)) (a : PciAddress) :
    enrichment lower devices a =
      (devices.reverse.find? fun d => d.address.narrow = a).map NvmlDevice.record := by
  have hsame : ∀ d : NvmlDevice R,
      decide (d.address.narrow.sysfs = a.sysfs) = decide (d.address.narrow = a) := by
    intro d
    rw [decide_eq_decide]
    exact ⟨sysfs_injective, congrArg sysfs⟩
  unfold enrichment
  rw [nvmlByBdf_listed, Option.bind_some, Table.getElem?_foldl_insert]
  simp [hsame]

/-- Every device listed is enriched with the record of its own exactly when all domains
fit into 16 bits. -/
theorem enrichment_own_iff (lower : Lowercase) {devices : List (NvmlDevice R)}
    (hdistinct : (devices.map NvmlDevice.address).Nodup) :
    (∀ d ∈ devices, enrichment lower devices d.address = some d.record) ↔
      ∀ d ∈ devices, d.address.domain.toNat < 2 ^ 16 := by
  constructor
  · intro h d hd
    have hfound := h d hd
    rw [enrichment_eq] at hfound
    obtain ⟨e, he, -⟩ := Option.map_eq_some_iff.mp hfound
    have hnarrow : e.address.narrow = d.address := by simpa using List.find?_some he
    rw [← hnarrow]
    exact narrow_lt e.address
  · intro h d hd
    have hself : ∀ e ∈ devices, e.address.narrow = e.address := fun e he =>
      narrow_eq_self_iff.mpr (h e he)
    rw [enrichment_eq]
    rcases hfind : devices.reverse.find? (fun e => e.address.narrow = d.address) with _ | e
    · -- the device itself is listed
      have hnone := List.find?_eq_none.mp hfind d (List.mem_reverse.mpr hd)
      exact absurd (hself d hd) (by simpa using hnone)
    · have hnarrow : e.address.narrow = d.address := by simpa using List.find?_some hfind
      have he : e ∈ devices := List.mem_reverse.mp (List.mem_of_find?_eq_some hfind)
      have haddress : e.address = d.address := (hself e he).symm.trans hnarrow
      rw [hfind, Option.map_some, List.inj_on_of_nodup_map hdistinct he hd haddress]

end NautiFabric
