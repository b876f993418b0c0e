import NautiFabric.Gpu.Bdf

/-!
# NautiFabric.Gpu.Vfio — what a VFIO address is made of

The VFIO adapter looks for a device under `normalize_bdf` of an attribute. A domain in
front of the bus is read as a number, and taken for 0 where it cannot be read:
`GuessesDomain` says of which texts an address is made that they do not spell
(`failsClosed_iff`).
-/

namespace NautiFabric

namespace Vfio

/-- The text of an attribute as `normalize_bdf` looks at it. -/
def folded (raw : String) : String := toAsciiLowercase (trim raw)

/-- A bus and a device in two digits, a function in one. -/
def SlotText (text : List Char) : Prop :=
  ∃ bus device function : List Char,
    (∀ c ∈ bus ++ device ++ function, HexChar c) ∧ bus.length = 2 ∧ device.length = 2 ∧
      function.length = 1 ∧ text = bus ++ ':' :: (device ++ '.' :: function)

/-- A domain that can be read: digits, of a value that fits into a `u32`. -/
def DomainText (text : List Char) : Prop :=
  text ≠ [] ∧ (∀ c ∈ text, HexChar c) ∧ digitsTotal 16 0 text < 2 ^ 32

/-- A well-formed sysfs address, of the given domain and slot. -/
structure Address (text : String) (domain slot : List Char) : Prop where
  parts : text.toList = domain ++ ':' :: slot
  long : 4 ≤ domain.length
  digits : ∀ c ∈ domain, HexChar c
  slotText : SlotText slot

/-- A text spells the address of a domain and a slot: with a domain of the same value,
or, in the domain 0, without one. -/
def Spells (text : String) (domain slot : List Char) : Prop :=
  (∃ own, text.toList = own ++ ':' :: slot ∧ DomainText own ∧
      digitsTotal 16 0 own = digitsTotal 16 0 domain) ∨
    text.toList = slot ∧ digitsTotal 16 0 domain = 0

/-- An address is made of a text that spells it only, and no address of a device of a
text whose domain cannot be read. -/
structure FailsClosed (raw : String) : Prop where
  spells : ∀ domain slot, Address (normalizeBdf raw) domain slot →
    Spells (folded raw) domain slot
  unreadable : ∀ domain rest, (folded raw).toList = domain ++ ':' :: rest → ':' ∉ domain →
    ':' ∈ rest → ¬ DomainText domain → ∀ device : PciAddress, normalizeBdf raw ≠ device.sysfs

/-- A well-formed slot behind a domain that cannot be read. -/
def GuessesDomain (raw : String) : Prop :=
  ∃ domain slot, (folded raw).toList = domain ++ ':' :: slot ∧ ':' ∉ domain ∧ SlotText slot ∧
    ¬ DomainText domain

/-! ## The parts of a text -/

theorem DomainText.colon {text : List Char} (h : DomainText text) : ':' ∉ text :=
  fun hmem => PciAddress.not_hexChar_colon (h.2.1 _ hmem)

theorem SlotText.colon {text : List Char} (h : SlotText text) : ':' ∈ text := by
  obtain ⟨bus, device, function, -, -, -, -, rfl⟩ := h
  simp

theorem Address.colon {text : String} {domain slot : List Char} (h : Address text domain slot) :
    ':' ∉ domain :=
  fun hmem => PciAddress.not_hexChar_colon (h.digits _ hmem)

theorem colon_not_mem_hex (width n : ℕ) : ':' ∉ (hex width n).toList :=
  PciAddress.not_mem_hex PciAddress.not_hexChar_colon

theorem toList_hex {width n : ℕ} (hwidth : 0 < width) (hfits : n < 16 ^ width) :
    (hex width n).toList = Digits.fixed 16 width n := by
  rw [hex, String.toList_ofList, Digits.leftpad_toDigits_of_lt (by decide) hwidth hfits]

/-- The sysfs spelling of a device is a well-formed address. -/
theorem address_sysfs (device : PciAddress) :
    Address device.sysfs (hex 4 device.domain.toNat).toList
      ((hex 2 device.bus.toNat).toList ++ ':' :: device.slot.toList) where
  parts := device.toList_sysfs
  long := by
    obtain ⟨k, hwidth, -, hcolumns⟩ := hex_columns 4 device.domain.toNat
    rw [hcolumns, Digits.length_fixed]
    exact hwidth
  digits := fun c hc => hexChar_of_mem_hex hc
  slotText := by
    have hbus : device.bus.toNat < 16 ^ 2 := device.bus.toNat_lt
    have hdevice : device.device.val < 16 ^ 2 := by omega
    have hfunction : device.function.val < 16 ^ 1 := by omega
    refine ⟨(hex 2 device.bus.toNat).toList, (hex 2 device.device).toList,
      (hex 1 device.function).toList, ?_, ?_, ?_, ?_, ?_⟩
    · intro c hc
      rw [List.mem_append, List.mem_append] at hc
      rcases hc with (hc | hc) | hc
      · exact hexChar_of_mem_hex hc
      · exact hexChar_of_mem_hex hc
      · exact hexChar_of_mem_hex hc
    · rw [toList_hex (by decide) hbus, Digits.length_fixed]
    · rw [toList_hex (by decide) hdevice, Digits.length_fixed]
    · rw [toList_hex (by decide) hfunction, Digits.length_fixed]
    · rw [device.toList_slot]

/-- A domain that can be read is. -/
theorem fromStrRadix_domain {domain : List Char} (h : DomainText domain) :
    fromStrRadix 16 32 (.ofList domain) = some (digitsTotal 16 0 domain) := by
  obtain ⟨hne, hdigits, hfits⟩ := h
  have hplus : '+' ∉ domain := fun hmem => (hexChar_spec (hdigits _ hmem)).2.2.2.1 rfl
  apply fromStrRadix_of_digits (by decide) hne hplus _ hfits
  intro c hc
  obtain ⟨d, hd, rfl⟩ := hdigits c hc
  rw [toDigit_hexDigitChar d hd]
  rfl

/-! ## What is made of a text -/

theorem normalizeBdf_of_domain {raw : String} {domain rest : List Char}
    (hparts : (folded raw).toList = domain ++ ':' :: rest) (hdomain : ':' ∉ domain)
    (hrest : ':' ∈ rest) :
    (normalizeBdf raw).toList =
      (hex 4 ((fromStrRadix 16 32 (.ofList domain)).getD 0)).toList ++ ':' :: rest := by
  have htext : toAsciiLowercase (trim raw) = .ofList (domain ++ ':' :: rest) := by
    rw [← hparts, String.ofList_toList]
    rfl
  unfold normalizeBdf
  dsimp only
  rw [htext, splitOnce_append hdomain]
  dsimp only
  rw [String.toList_ofList, if_pos hrest]
  simp [String.toList_append]

/-- Without a domain in front of the bus. -/
theorem normalizeBdf_of_none {raw : String}
    (h : ∀ domain rest, (folded raw).toList = domain ++ ':' :: rest → ':' ∉ domain → ':' ∉ rest) :
    normalizeBdf raw = "0000:" ++ folded raw := by
  have hfolded : toAsciiLowercase (trim raw) = folded raw := rfl
  unfold normalizeBdf
  rw [hfolded]
  dsimp only
  generalize folded raw = text at h
  by_cases hcolon : ':' ∈ text.toList
  · obtain ⟨domain, rest, hparts, hdomain⟩ := List.eq_append_cons_of_mem hcolon
    have htext : text = .ofList (domain ++ ':' :: rest) := by
      rw [← hparts, String.ofList_toList]
    rw [htext, splitOnce_append hdomain]
    dsimp only
    rw [String.toList_ofList, if_neg (h domain rest hparts hdomain)]
  · have hnone : splitOnce ':' text = none := if_neg hcolon
    rw [hnone]

/-- What stands behind the domain that is printed. -/
theorem address_of_domain {raw : String} {domain rest : List Char}
    (hparts : (folded raw).toList = domain ++ ':' :: rest) (hdomain : ':' ∉ domain)
    (hrest : ':' ∈ rest) {text slot : List Char} (h : Address (normalizeBdf raw) text slot) :
    text = (hex 4 ((fromStrRadix 16 32 (.ofList domain)).getD 0)).toList ∧ slot = rest := by
  have hboth := h.parts
  rw [normalizeBdf_of_domain hparts hdomain hrest] at hboth
  obtain ⟨hsame, hslot⟩ := append_cons_inj (colon_not_mem_hex _ _) h.colon hboth
  exact ⟨hsame.symm, hslot.symm⟩

/-- Every address that is made with a well-formed slot is well-formed. -/
theorem address_of_slot {raw : String} {domain slot : List Char}
    (hparts : (folded raw).toList = domain ++ ':' :: slot) (hdomain : ':' ∉ domain)
    (hslot : SlotText slot) :
    Address (normalizeBdf raw)
      (hex 4 ((fromStrRadix 16 32 (.ofList domain)).getD 0)).toList slot where
  parts := normalizeBdf_of_domain hparts hdomain hslot.colon
  long := by
    obtain ⟨k, hwidth, -, hcolumns⟩ := hex_columns 4
      ((fromStrRadix 16 32 (.ofList domain)).getD 0)
    rw [hcolumns, Digits.length_fixed]
    exact hwidth
  digits := fun c hc => hexChar_of_mem_hex hc
  slotText := hslot

/-- An address is made of what spells it only exactly when no domain is guessed. -/
theorem failsClosed_iff (raw : String) : FailsClosed raw ↔ ¬ GuessesDomain raw := by
  constructor
  · rintro hcloses ⟨domain, slot, hparts, hdomain, hslot, hunreadable⟩
    have haddress := address_of_slot hparts hdomain hslot
    rcases hcloses.spells _ _ haddress with ⟨own, hown, hread, -⟩ | ⟨hsame, -⟩
    · rw [hparts] at hown
      obtain ⟨rfl, -⟩ := append_cons_inj hdomain hread.colon hown
      exact hunreadable hread
    · have hlength := congrArg List.length (hparts.symm.trans hsame)
      simp at hlength
      omega
  · intro hguess
    constructor
    · intro text slot haddress
      by_cases hsplit : ∃ domain rest, (folded raw).toList = domain ++ ':' :: rest ∧
          ':' ∉ domain ∧ ':' ∈ rest
      · -- the domain is read off the text
        obtain ⟨domain, rest, hparts, hdomain, hrest⟩ := hsplit
        obtain ⟨rfl, rfl⟩ := address_of_domain hparts hdomain hrest haddress
        have hread : DomainText domain := by
          by_contra hunreadable
          exact hguess ⟨domain, slot, hparts, hdomain, haddress.slotText, hunreadable⟩
        refine Or.inl ⟨domain, hparts, hread, ?_⟩
        rw [fromStrRadix_domain hread, digitsTotal_hex]
        rfl
      · -- it is left out
        have hnone : normalizeBdf raw = "0000:" ++ folded raw := by
          apply normalizeBdf_of_none
          intro domain rest hparts hdomain hrest
          exact hsplit ⟨domain, rest, hparts, hdomain, hrest⟩
        have hboth := haddress.parts
        have hzeros : "0000:".toList = "0000".toList ++ [':'] := by decide
        rw [hnone, String.toList_append, hzeros, List.append_assoc, List.singleton_append] at hboth
        obtain ⟨rfl, rfl⟩ := append_cons_inj (by decide) haddress.colon hboth
        exact Or.inr ⟨rfl, by decide⟩
    · intro domain rest hparts hdomain hrest hunreadable device hdevice
      have haddress := address_sysfs device
      rw [← hdevice] at haddress
      obtain ⟨-, hslot⟩ := address_of_domain hparts hdomain hrest haddress
      have hslotText := haddress.slotText
      rw [hslot] at hslotText
      exact hguess ⟨domain, rest, hparts, hdomain, hslotText, hunreadable⟩

/-- A domain that is no number is taken for 0, and there may be such a device. -/
theorem guessed_domain :
    ¬ (∀ raw : String, FailsClosed raw) ∧
      normalizeBdf "zzzz:03:00.0" = (⟨0, 3, 0, 0⟩ : PciAddress).sysfs := by
  have hguessed : normalizeBdf "zzzz:03:00.0" = (⟨0, 3, 0, 0⟩ : PciAddress).sysfs := by
    decide +kernel
  refine ⟨?_, hguessed⟩
  intro hall
  have hparts : (folded "zzzz:03:00.0").toList = "zzzz".toList ++ ':' :: "03:00.0".toList := by
    decide +kernel
  refine (hall "zzzz:03:00.0").unreadable _ _ hparts (by decide) (by decide) ?_ _ hguessed
  intro hread
  obtain ⟨d, hd, hz⟩ := hread.2.1 'z' (by decide)
  revert hz
  revert d
  decide

end Vfio

end NautiFabric
