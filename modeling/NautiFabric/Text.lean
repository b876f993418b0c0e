import Mathlib
import NautiFabric.Lib.Digits
import NautiFabric.Lib.Subslice
import NautiFabric.Lib.Utf8

/-!
# NautiFabric.Text — string functions of the standard library
-/

namespace NautiFabric

/-- `char::is_whitespace`: the Unicode property `White_Space`. -/
def isWhitespace (c : Char) : Bool :=
  (0x09 ≤ c.toNat && c.toNat ≤ 0x0D) || (0x2000 ≤ c.toNat && c.toNat ≤ 0x200A) ||
    c.toNat ∈ [0x20, 0x85, 0xA0, 0x1680, 0x2028, 0x2029, 0x202F, 0x205F, 0x3000]

/-- `str::trim`. -/
def trim (s : String) : String :=
  .ofList ((s.toList.dropWhile isWhitespace).rdropWhile isWhitespace)

/-- `str::split` at a character. -/
def split (c : Char) (s : String) : List String := (s.toList.splitOn c).map .ofList

/-- `str::split_once` at a character. -/
def splitOnce (c : Char) (s : String) : Option (String × String) :=
  if c ∈ s.toList then
    some (.ofList (s.toList.takeWhile (· != c)), .ofList (s.toList.dropWhile (· != c)).tail)
  else none

/-- `str::rsplit_once` at a character. -/
def rsplitOnce (c : Char) (s : String) : Option (String × String) :=
  if c ∈ s.toList then
    some (.ofList (s.toList.reverse.dropWhile (· != c)).tail.reverse,
      .ofList (s.toList.reverse.takeWhile (· != c)).reverse)
  else none

/-- `str::strip_prefix`. -/
def stripStart (start s : String) : Option String :=
  if start.toList.isPrefixOf s.toList then some (.ofList (s.toList.drop start.toList.length))
  else none

/-- `str::trim_matches`. -/
def trimMatches (p : Char → Bool) (s : String) : String :=
  .ofList ((s.toList.dropWhile p).rdropWhile p)

/-- `str::split_whitespace`. -/
def splitWhitespace (s : String) : List String :=
  ((s.toList.splitOnP isWhitespace).filter fun word => !word.isEmpty).map .ofList

/-- A line without the CR at its end. -/
def stripCr (line : List Char) : List Char :=
  if line.getLast? = some '\r' then line.dropLast else line

/-- `str::lines`: a line ends with LF or with CR LF, the last one also with the text. -/
def lines (s : String) : List String :=
  let pieces := s.toList.splitOn '\n'
  let last := pieces.getLastD []
  (pieces.dropLast.map fun line => .ofList (stripCr line)) ++
    if last.isEmpty then [] else [.ofList last]

/-- `str::to_ascii_lowercase`. -/
def toAsciiLowercase (s : String) : String := .ofList (s.toList.map Char.toLower)

/-- `str::to_lowercase`: the lower case of Unicode, given by what it does to ASCII texts. -/
structure Lowercase where
  apply : String → String
  ascii : ∀ s, (∀ c ∈ s.toList, c.toNat < 0x80) → apply s = toAsciiLowercase s

/-- `str::contains`. -/
def containsStr (s needle : String) : Bool := (Subslice.find needle.toList s.toList).isSome

/-! ## Unsigned integers -/

/-- `char::to_digit`. -/
def toDigit (radix : ℕ) (c : Char) : Option ℕ :=
  let n := c.toNat
  let digit :=
    if 0x30 ≤ n ∧ n ≤ 0x39 then n - 0x30
    else if 0x41 ≤ n ∧ n ≤ 0x5A then n - 0x41 + 10
    else if 0x61 ≤ n ∧ n ≤ 0x7A then n - 0x61 + 10
    else radix
  if digit < radix then some digit else none

/-- The digits of a number below `limit`, with the digits before them as `n`. -/
def digitsValue (radix limit n : ℕ) : List Char → Option ℕ
  | [] => some n
  | c :: digits =>
    match toDigit radix c with
    | none => none
    | some digit =>
      if n * radix + digit < limit then digitsValue radix limit (n * radix + digit) digits
      else none

/-- `from_str_radix` of an unsigned integer of so many bits. A plus sign may stand
before the digits; a minus sign is no digit. -/
def fromStrRadix (radix bits : ℕ) (s : String) : Option ℕ :=
  match s.toList with
  | [] => none
  | ['+'] => none
  | '+' :: digits => digitsValue radix (2 ^ bits) 0 digits
  | digits => digitsValue radix (2 ^ bits) 0 digits

/-- `str::parse::<u16>`. -/
def parseU16 (s : String) : Option UInt16 := (fromStrRadix 10 16 s).map UInt16.ofNat

/-! ## UTF-8 -/

/-- `str::from_utf8`. -/
def fromUtf8 (bytes : List UInt8) : Option String := (Utf8.decode bytes).map .ofList

/-- `String::from_utf8_lossy`. -/
def fromUtf8Lossy (bytes : List UInt8) : String := .ofList (Utf8.lossy bytes)

/-- `str::as_bytes`. -/
def asBytes (s : String) : List UInt8 := Utf8.encode s.toList

/-- `&s[start..]`, with the index in bytes; `none` is the panic, past the end or within
a character. -/
def sliceFrom (s : String) (start : ℕ) : Option String :=
  if start ≤ (asBytes s).length then fromUtf8 ((asBytes s).drop start) else none

/-! ## What the functions do to texts in parts -/

theorem lines_of_crlf {texts : List (List Char)} (h : ∀ text ∈ texts, '\n' ∉ text) :
    lines (.ofList (texts.flatMap fun text => text ++ ['\r', '\n'])) = texts.map .ofList := by
  have hpieces : (texts.flatMap fun text => text ++ ['\r', '\n']).splitOn '\n' =
      (texts.map fun text => text ++ ['\r']) ++ [[]] := by
    induction texts with
    | nil => rfl
    | cons text texts ih =>
        have hmem : '\n' ∉ text ++ ['\r'] := by
          intro hin
          rcases List.mem_append.mp hin with htext | hcr
          · exact h text (by simp) htext
          · exact absurd (List.mem_singleton.mp hcr) (by decide)
        have hsplit : (text :: texts).flatMap (fun text => text ++ ['\r', '\n']) =
            (text ++ ['\r']) ++ '\n' :: texts.flatMap fun text => text ++ ['\r', '\n'] := by
          simp
        rw [hsplit, List.splitOn_append_cons_self_of_not_mem hmem]
        rw [ih fun t ht => h t (List.mem_cons_of_mem _ ht)]
        rfl
  have hstrip (text : List Char) : stripCr (text ++ ['\r']) = text := by
    simp [stripCr]
  unfold lines
  rw [String.toList_ofList, hpieces]
  dsimp only
  rw [List.dropLast_concat, List.map_map]
  simp [Function.comp_def, hstrip]

theorem splitOnce_append {c : Char} {before : List Char} (h : c ∉ before) (after : List Char) :
    splitOnce c (.ofList (before ++ c :: after)) = some (.ofList before, .ofList after) := by
  have hbefore : ∀ d ∈ before, (d != c) = true := by
    intro d hd
    exact bne_iff_ne.mpr fun heq => h (heq ▸ hd)
  unfold splitOnce
  rw [String.toList_ofList, if_pos (by simp)]
  rw [List.takeWhile_append_of_pos hbefore, List.dropWhile_append_of_pos hbefore]
  simp

theorem rsplitOnce_append {c : Char} {after : List Char} (h : c ∉ after) (before : List Char) :
    rsplitOnce c (.ofList (before ++ c :: after)) = some (.ofList before, .ofList after) := by
  have hafter : ∀ d ∈ after.reverse, (d != c) = true := by
    intro d hd
    exact bne_iff_ne.mpr fun heq => h (heq ▸ List.mem_reverse.mp hd)
  have hreverse : (before ++ c :: after).reverse = after.reverse ++ c :: before.reverse := by
    simp
  unfold rsplitOnce
  rw [String.toList_ofList, if_pos (by simp), hreverse]
  rw [List.takeWhile_append_of_pos hafter, List.dropWhile_append_of_pos hafter]
  simp

theorem rsplitOnce_of_not_mem {c : Char} {text : List Char} (h : c ∉ text) :
    rsplitOnce c (.ofList text) = none := by
  unfold rsplitOnce
  rw [String.toList_ofList, if_neg h]

/-- The last of a character, and what stands around it. -/
theorem exists_last {c : Char} {text : List Char} (h : c ∈ text) :
    ∃ before after, text = before ++ c :: after ∧ c ∉ after := by
  obtain ⟨after, before, hsplit, hafter⟩ :=
    List.eq_append_cons_of_mem (List.mem_reverse.mpr h)
  refine ⟨before.reverse, after.reverse, ?_, ?_⟩
  · rw [← List.reverse_reverse text, hsplit]
    simp
  · rwa [List.mem_reverse]

/-- A prefix that is there is taken off. -/
theorem stripStart_append (start : String) (text : List Char) :
    stripStart start (.ofList (start.toList ++ text)) = some (.ofList text) := by
  have hprefix : start.toList.isPrefixOf (start.toList ++ text) :=
    List.isPrefixOf_iff_prefix.mpr (List.prefix_append _ _)
  unfold stripStart
  rw [String.toList_ofList, if_pos hprefix, List.drop_left]

theorem stripStart_eq_none_iff {start s : String} :
    stripStart start s = none ↔ ¬ start.toList <+: s.toList := by
  unfold stripStart
  rw [← List.isPrefixOf_iff_prefix]
  split
  · rename_i h
    simp [h]
  · rename_i h
    simp [h]

theorem trimMatches_isEmpty_iff {p : Char → Bool} {text : List Char} :
    (trimMatches p (.ofList text)).isEmpty ↔ ∀ c ∈ text, p c := by
  have hempty (l : List Char) : (String.ofList l).isEmpty ↔ l = [] := by
    rw [String.isEmpty_iff, ← String.toList_inj, String.toList_ofList]
    rfl
  unfold trimMatches
  rw [hempty, String.toList_ofList, List.rdropWhile_eq_nil_iff]
  constructor
  · intro h
    by_contra hsome
    -- what is left would begin with a character that does not match
    have hne : text.dropWhile p ≠ [] := fun hnil => hsome (List.dropWhile_eq_nil_iff.mp hnil)
    have hhead := List.head_dropWhile_not p hne
    rw [h _ (List.head_mem hne)] at hhead
    cases hhead
  · intro h c hc
    exact h c ((List.dropWhile_suffix p).subset hc)

theorem append_left_injective {start a b : String} (h : start ++ a = start ++ b) : a = b := by
  have htext := congrArg String.toList h
  rw [String.toList_append, String.toList_append] at htext
  exact String.toList_injective (List.append_cancel_left htext)

theorem prefix_append (start a : String) : start.toList <+: (start ++ a).toList := by
  rw [String.toList_append]
  exact List.prefix_append _ _

/-- What stands before the first of a character, and behind it. -/
theorem append_cons_inj {c : Char} {a b x y : List Char} (ha : c ∉ a) (hb : c ∉ b)
    (h : a ++ c :: x = b ++ c :: y) : a = b ∧ x = y := by
  have hsplit := splitOnce_append ha x
  rw [h, splitOnce_append hb y] at hsplit
  obtain ⟨hbefore, hafter⟩ := Prod.mk.inj (Option.some.inj hsplit)
  exact ⟨(String.ofList_injective hbefore).symm, (String.ofList_injective hafter).symm⟩

/-- White space around a text goes; the text has none itself. -/
theorem trim_around {before text after : List Char} (hbefore : ∀ c ∈ before, isWhitespace c)
    (hafter : ∀ c ∈ after, isWhitespace c) (htext : ∀ c ∈ text, isWhitespace c = false) :
    trim (.ofList (before ++ (text ++ after))) = .ofList text := by
  unfold trim
  rw [String.toList_ofList, List.dropWhile_append_of_pos hbefore]
  rcases text with _ | ⟨c, text⟩
  · -- all of it is white space
    rw [List.nil_append, List.dropWhile_eq_nil_iff.mpr hafter, List.rdropWhile_nil]
  · have hc : ¬ isWhitespace c := by simp [htext c]
    have hreverse : ∀ d ∈ after.reverse, isWhitespace d := by
      intro d hd
      exact hafter d (List.mem_reverse.mp hd)
    have hlast : (c :: text).rdropWhile isWhitespace = c :: text := by
      rw [List.rdropWhile_eq_self_iff]
      intro hne
      simp [htext _ (List.getLast_mem hne)]
    rw [List.cons_append, List.dropWhile_cons_of_neg hc, ← List.cons_append]
    rw [List.rdropWhile, List.reverse_append, List.dropWhile_append_of_pos hreverse]
    exact congrArg String.ofList hlast

theorem trim_of_no_whitespace {text : List Char} (h : ∀ c ∈ text, isWhitespace c = false) :
    trim (.ofList text) = .ofList text := by
  have haround := trim_around (List.forall_mem_nil _) (List.forall_mem_nil _) h
  rwa [List.nil_append, List.append_nil] at haround

/-- What is trimmed off is white space. -/
theorem exists_trim (text : List Char) :
    ∃ before after, text = before ++ ((trim (.ofList text)).toList ++ after) ∧
      (∀ c ∈ before, isWhitespace c) ∧ ∀ c ∈ after, isWhitespace c := by
  refine ⟨text.takeWhile isWhitespace, (text.dropWhile isWhitespace).rtakeWhile isWhitespace,
    ?_, ?_, ?_⟩
  · unfold trim
    rw [String.toList_ofList, String.toList_ofList, List.rdropWhile_append_rtakeWhile,
      List.takeWhile_append_dropWhile]
  · intro c hc
    exact List.mem_takeWhile_imp hc
  · intro c hc
    exact List.mem_rtakeWhile_imp hc

theorem trim_space (text : List Char) : trim (.ofList (' ' :: text)) = trim (.ofList text) := by
  unfold trim
  rw [String.toList_ofList, String.toList_ofList, List.dropWhile_cons_of_pos (by decide)]

/-- The part of a text in front of the first of a character. -/
theorem split_headD {c : Char} {field more : List Char} (hfield : c ∉ field)
    (hmore : more = [] ∨ ∃ behind, more = c :: behind) :
    (split c (.ofList (field ++ more))).headD "" = .ofList field := by
  unfold split
  rw [String.toList_ofList]
  rcases hmore with rfl | ⟨behind, rfl⟩
  · rw [List.append_nil, List.splitOn_eq_singleton hfield]
    rfl
  · rw [List.splitOn_append_cons_self_of_not_mem hfield]
    rfl

theorem exists_field (c : Char) (text : List Char) :
    ∃ field more, text = field ++ more ∧ c ∉ field ∧
      (more = [] ∨ ∃ behind, more = c :: behind) := by
  by_cases hc : c ∈ text
  · obtain ⟨field, behind, htext, hfield⟩ := List.eq_append_cons_of_mem hc
    exact ⟨field, c :: behind, htext, hfield, Or.inr ⟨behind, rfl⟩⟩
  · exact ⟨text, [], by simp, hc, Or.inl rfl⟩

/-- The first word of a text that goes on. -/
theorem splitWhitespace_append {word : List Char} (hword : word ≠ [])
    (h : ∀ c ∈ word, isWhitespace c = false) (after : List Char) :
    splitWhitespace (.ofList (word ++ ' ' :: after)) =
      .ofList word :: splitWhitespace (.ofList after) := by
  unfold splitWhitespace
  rw [String.toList_ofList, String.toList_ofList,
    List.splitOnP_append_cons_of_forall_mem h ' ' (by decide)]
  rw [List.filter_cons_of_pos (by simpa using hword), List.map_cons]

/-! ## Digits -/

/-- What digits stand for, if nothing overflows. -/
def digitsTotal (radix n : ℕ) (digits : List Char) : ℕ :=
  digits.foldl (fun n c => n * radix + (toDigit radix c).getD 0) n

theorem le_digitsTotal {radix : ℕ} (hradix : 0 < radix) (n : ℕ) (digits : List Char) :
    n ≤ digitsTotal radix n digits := by
  induction digits generalizing n with
  | nil => exact le_rfl
  | cons c digits ih =>
      calc n ≤ n * radix := Nat.le_mul_of_pos_right n hradix
        _ ≤ n * radix + (toDigit radix c).getD 0 := Nat.le_add_right _ _
        _ ≤ digitsTotal radix (n * radix + (toDigit radix c).getD 0) digits := ih _

theorem digitsValue_eq_some {radix limit n : ℕ} {digits : List Char} (hradix : 0 < radix)
    (hdigits : ∀ c ∈ digits, (toDigit radix c).isSome)
    (hlimit : digitsTotal radix n digits < limit) :
    digitsValue radix limit n digits = some (digitsTotal radix n digits) := by
  induction digits generalizing n with
  | nil => rfl
  | cons c digits ih =>
      obtain ⟨digit, hdigit⟩ := Option.isSome_iff_exists.mp (hdigits c (by simp))
      have htotal : digitsTotal radix n (c :: digits) =
          digitsTotal radix (n * radix + digit) digits := by
        simp [digitsTotal, hdigit]
      rw [htotal] at hlimit ⊢
      have hle := le_digitsTotal hradix (n * radix + digit) digits
      unfold digitsValue
      rw [hdigit]
      dsimp only
      rw [if_pos (by omega)]
      exact ih (fun d hd => hdigits d (List.mem_cons_of_mem _ hd)) hlimit

/-- What is read as a number: digits, and the number fits. -/
theorem digitsValue_eq_some_iff {radix limit n value : ℕ} {digits : List Char}
    (hradix : 0 < radix) (hn : n < limit) :
    digitsValue radix limit n digits = some value ↔
      (∀ c ∈ digits, (toDigit radix c).isSome) ∧ digitsTotal radix n digits = value ∧
        value < limit := by
  constructor
  · intro h
    -- digit by digit; the number so far is below the limit
    induction digits generalizing n with
    | nil =>
        obtain rfl := Option.some.inj h
        exact ⟨by simp, rfl, hn⟩
    | cons c digits ih =>
        unfold digitsValue at h
        rcases hdigit : toDigit radix c with _ | digit
        · simp [hdigit] at h
        · rw [hdigit] at h
          dsimp only at h
          split_ifs at h with hlt
          obtain ⟨hdigits, htotal, hvalue⟩ := ih hlt h
          refine ⟨?_, ?_, hvalue⟩
          · intro d hd
            rcases List.mem_cons.mp hd with rfl | hd
            · simp [hdigit]
            · exact hdigits d hd
          · rw [← htotal]
            simp [digitsTotal, hdigit]
  · rintro ⟨hdigits, rfl, hlimit⟩
    exact digitsValue_eq_some hradix hdigits hlimit

/-- A hexadecimal digit is one of the code points that say so. -/
theorem of_isHexDigit {c : Char} (h : (toDigit 16 c).isSome) :
    (0x30 ≤ c.toNat ∧ c.toNat ≤ 0x39) ∨ (0x41 ≤ c.toNat ∧ c.toNat ≤ 0x46) ∨
      (0x61 ≤ c.toNat ∧ c.toNat ≤ 0x66) := by
  unfold toDigit at h
  dsimp only at h
  split_ifs at h with h1 h2 h3
  all_goals first | omega | simp at h

theorem toDigit_digitChar : ∀ d < 10, toDigit 10 (Nat.digitChar d) = some d := by
  decide

theorem toDigit_hexDigitChar : ∀ d < 16, toDigit 16 (Nat.digitChar d) = some d := by
  decide

section Columns

variable {radix : ℕ} (hradix : 0 < radix)
  (hdigit : ∀ d < radix, toDigit radix (Nat.digitChar d) = some d)

include hradix hdigit

/-- Columns of digits are read back, as far as the columns go. -/
theorem digitsTotal_fixed (k n : ℕ) :
    digitsTotal radix 0 (Digits.fixed radix k n) = n % radix ^ k := by
  induction k generalizing n with
  | zero => simp [Digits.fixed, digitsTotal, Nat.mod_one]
  | succ k ih =>
      have hfront := ih (n / radix)
      have hlast := hdigit (n % radix) (Nat.mod_lt n hradix)
      unfold digitsTotal at hfront ⊢
      rw [Digits.fixed, List.foldl_append, hfront, pow_succ', Nat.mod_mul]
      simp [hlast, Nat.mul_comm, Nat.add_comm]

theorem isSome_toDigit_fixed {k n : ℕ} {c : Char} (h : c ∈ Digits.fixed radix k n) :
    (toDigit radix c).isSome := by
  obtain ⟨d, hd, rfl⟩ := Digits.of_mem_fixed hradix h
  rw [hdigit d hd]
  rfl

end Columns

/-- The decimal digits of a number. -/
theorem digitsTotal_toDigits (n : ℕ) :
    digitsTotal 10 0 (Nat.toDigits 10 n) = n ∧
      ∀ c ∈ Nat.toDigits 10 n, (toDigit 10 c).isSome := by
  obtain ⟨hfits, hdigits⟩ := Digits.toDigits_eq_fixed (b := 10) (by decide) n
  generalize (Nat.toDigits 10 n).length = k at hfits hdigits
  rw [hdigits]
  constructor
  · rw [digitsTotal_fixed (by decide) toDigit_digitChar, Nat.mod_eq_of_lt hfits]
  · intro c hc
    exact isSome_toDigit_fixed (by decide) toDigit_digitChar hc

theorem toString_injective {n m : ℕ} (h : toString n = toString m) : n = m := by
  have htext : (Nat.toDigits 10 n) = Nat.toDigits 10 m := String.ofList_injective h
  rw [← (digitsTotal_toDigits n).1, htext, (digitsTotal_toDigits m).1]

theorem fromStrRadix_of_digits {radix bits : ℕ} {digits : List Char} (hradix : 0 < radix)
    (hne : digits ≠ []) (hplus : '+' ∉ digits) (hdigits : ∀ c ∈ digits, (toDigit radix c).isSome)
    (hfits : digitsTotal radix 0 digits < 2 ^ bits) :
    fromStrRadix radix bits (.ofList digits) = some (digitsTotal radix 0 digits) := by
  have hvalue := digitsValue_eq_some hradix hdigits hfits
  unfold fromStrRadix
  rw [String.toList_ofList]
  rcases digits with _ | ⟨c, digits⟩
  · exact absurd rfl hne
  · have hc : c ≠ '+' := fun h => hplus (by simp [h])
    split
    · rename_i heq
      exact absurd heq hne
    · rename_i heq
      exact absurd (List.cons.inj heq).1 hc
    · rename_i heq
      exact absurd (List.cons.inj heq).1 hc
    · exact hvalue

/-- A plus sign is no digit, in any radix. -/
theorem toDigit_plus (radix : ℕ) : toDigit radix '+' = none := by
  have hplus : '+'.toNat = 0x2B := rfl
  simp [toDigit, hplus]

/-- What is read as a number: perhaps a plus sign, and digits. -/
theorem fromStrRadix_eq_some_iff {radix bits value : ℕ} {text : List Char} (hradix : 0 < radix) :
    fromStrRadix radix bits (.ofList text) = some value ↔
      ∃ sign digits, text = sign ++ digits ∧ (sign = [] ∨ sign = ['+']) ∧ digits ≠ [] ∧
        (∀ c ∈ digits, (toDigit radix c).isSome) ∧ digitsTotal radix 0 digits = value ∧
          value < 2 ^ bits := by
  have hzero : 0 < 2 ^ bits := by positivity
  constructor
  · intro h
    -- empty, a lone plus sign, a plus sign and more, or no plus sign
    unfold fromStrRadix at h
    rw [String.toList_ofList] at h
    split at h
    · cases h
    · cases h
    · rename_i digits hne
      refine ⟨['+'], digits, rfl, Or.inr rfl, ?_, (digitsValue_eq_some_iff hradix hzero).mp h⟩
      rintro rfl
      exact hne rfl
    · rename_i hne _ _
      exact ⟨[], text, rfl, Or.inl rfl, hne, (digitsValue_eq_some_iff hradix hzero).mp h⟩
  · rintro ⟨sign, digits, rfl, hsign, hne, hdigits, rfl, hfits⟩
    rcases hsign with rfl | rfl
    · have hplus : '+' ∉ digits := by
        intro hmem
        have hdigit := hdigits '+' hmem
        rw [toDigit_plus] at hdigit
        cases hdigit
      exact fromStrRadix_of_digits hradix hne hplus hdigits hfits
    · have hread := digitsValue_eq_some hradix hdigits hfits
      rcases digits with _ | ⟨c, digits⟩
      · exact absurd rfl hne
      · unfold fromStrRadix
        rw [String.toList_ofList]
        exact hread

theorem parseU16_of_digits {digits : List Char} (hne : digits ≠ [])
    (hdigits : ∀ c ∈ digits, (toDigit 10 c).isSome) (hfits : digitsTotal 10 0 digits < 2 ^ 16) :
    parseU16 (.ofList digits) = some (.ofNat (digitsTotal 10 0 digits)) := by
  have hplus : '+' ∉ digits := by
    intro h
    have hdigit := hdigits '+' h
    rw [toDigit_plus] at hdigit
    cases hdigit
  rw [parseU16, fromStrRadix_of_digits (by decide) hne hplus hdigits hfits, Option.map_some]

/-- No number has a character that is neither a plus sign nor a digit. -/
theorem parseU16_eq_none {text : List Char} {c : Char} (hc : c ∈ text) (hplus : c ≠ '+')
    (hdigit : toDigit 10 c = none) : parseU16 (.ofList text) = none := by
  unfold parseU16
  rw [Option.map_eq_none_iff, Option.eq_none_iff_forall_ne_some]
  intro value hvalue
  obtain ⟨sign, digits, rfl, hsign, -, hdigits, -⟩ :=
    (fromStrRadix_eq_some_iff (by decide)).mp hvalue
  rcases List.mem_append.mp hc with hin | hin
  · rcases hsign with rfl | rfl
    · cases hin
    · exact hplus (List.mem_singleton.mp hin)
  · have hsome := hdigits c hin
    rw [hdigit] at hsome
    cases hsome

theorem parseU16_toString (n : UInt16) : parseU16 (toString n) = some n := by
  obtain ⟨htotal, hdigits⟩ := digitsTotal_toDigits n.toNat
  have htext : toString n = String.ofList (Nat.toDigits 10 n.toNat) := by
    show toString n.toNat = _
    exact Nat.toString_eq_ofList_toDigits
  have hplus : '+' ∉ Nat.toDigits 10 n.toNat := by
    intro h
    have hdigit := hdigits '+' h
    revert hdigit
    decide
  have hfits := n.toNat_lt
  unfold parseU16
  rw [htext, fromStrRadix_of_digits (by decide) Nat.toDigits_ne_nil hplus hdigits
    (by rw [htotal]; exact hfits), htotal]
  simp

/-! ## ASCII -/

/-- Only the capital letters have another lower case. -/
theorem toLower_eq_or_capital (c : Char) :
    c.toLower = c ∨ (0x41 ≤ c.toNat ∧ c.toNat ≤ 0x5A) := by
  unfold Char.toLower
  split
  · rename_i hcapital
    exact Or.inr ⟨hcapital.1, hcapital.2⟩
  · exact Or.inl rfl

/-- A text whose lower case is ASCII without white space is such a text itself. -/
theorem of_lowercase {s : String}
    (h : ∀ c ∈ (toAsciiLowercase s).toList, isWhitespace c = false ∧ c.toNat < 0x80) :
    ∀ c ∈ s.toList, isWhitespace c = false ∧ c.toNat < 0x80 := by
  intro c hc
  have hlower : c.toLower ∈ (toAsciiLowercase s).toList := by
    rw [toAsciiLowercase, String.toList_ofList]
    exact List.mem_map_of_mem hc
  rcases toLower_eq_or_capital c with hsame | hcapital
  · have hkept := h _ hlower
    rwa [hsame] at hkept
  · constructor
    · simp [isWhitespace]
      omega
    · omega

/-! ## Octets of a text -/

@[simp] theorem fromUtf8_encode (text : List Char) :
    fromUtf8 (Utf8.encode text) = some (.ofList text) := by
  simp [fromUtf8]

@[simp] theorem fromUtf8Lossy_asBytes (s : String) : fromUtf8Lossy (asBytes s) = s := by
  simp [fromUtf8Lossy, asBytes]

theorem ascii_not_mem_encode {text : List Char} {b : UInt8} (hb : b.toNat < 0x80)
    (h : ∀ c ∈ text, c.toNat ≠ b.toNat) : b ∉ Utf8.encode text := by
  intro hmem
  obtain ⟨c, hc, hmem⟩ := List.mem_flatMap.mp hmem
  exact h c hc (Utf8.eq_of_ascii_mem_encodeChar hmem hb)

theorem asBytes_of_ascii {text : List Char} (h : ∀ c ∈ text, c.toNat < 0x80) :
    asBytes (.ofList text) = text.map fun c => UInt8.ofNat c.toNat := by
  rw [asBytes, String.toList_ofList, Utf8.encode_of_ascii h]

theorem sliceFrom_of_ascii {text : List Char} (h : ∀ c ∈ text, c.toNat < 0x80) {start : ℕ}
    (hstart : start ≤ text.length) :
    sliceFrom (.ofList text) start = some (.ofList (text.drop start)) := by
  have hrest : ∀ c ∈ text.drop start, c.toNat < 0x80 := fun c hc => h c (List.mem_of_mem_drop hc)
  unfold sliceFrom
  rw [asBytes_of_ascii h, if_pos (by rwa [List.length_map]), ← List.map_drop]
  rw [← Utf8.encode_of_ascii hrest, fromUtf8_encode]

end NautiFabric
