import Mathlib.Tactic.Common
import Mathlib.Data.List.Basic

/-!
# UTF-8, read octet by octet

The reader is a machine. Between characters it is in `start`; inside a character it
knows how many octets come after the next one, the range of the next one, and the
value so far. `decode` gives up at the first octet that fits no character. `lossy`
writes U+FFFD for what it has of the character instead, and reads that octet again
from `start`.

Since the machine has no way to take back a character, the text of a prefix is a
prefix of the text, and at most one U+FFFD after it (`lossy_of_isPrefix`).
-/

namespace Utf8

/-- U+FFFD. -/
def replacement : Char := '\uFFFD'

inductive State where
  | start
  /-- inside a character; `later` octets follow the next one -/
  | more (later low high value : ℕ)
deriving DecidableEq

/-- The first octet of a character. -/
def first (b : ℕ) : Option (List Char × State) :=
  if b < 0x80 then some ([.ofNat b], .start)
  else if 0xC2 ≤ b ∧ b ≤ 0xDF then some ([], .more 0 0x80 0xBF (b - 0xC0))
  else if b = 0xE0 then some ([], .more 1 0xA0 0xBF 0)
  else if b = 0xED then some ([], .more 1 0x80 0x9F 0xD)
  else if 0xE1 ≤ b ∧ b ≤ 0xEF then some ([], .more 1 0x80 0xBF (b - 0xE0))
  else if b = 0xF0 then some ([], .more 2 0x90 0xBF 0)
  else if 0xF1 ≤ b ∧ b ≤ 0xF3 then some ([], .more 2 0x80 0xBF (b - 0xF0))
  else if b = 0xF4 then some ([], .more 2 0x80 0x8F 4)
  else none

/-- An octet: the character it completes, if it does, and the state after it. -/
def next : State → UInt8 → Option (List Char × State)
  | .start, b => first b.toNat
  | .more later low high value, b =>
    if low ≤ b.toNat ∧ b.toNat ≤ high then
      match later with
      | 0 => some ([.ofNat (value * 64 + (b.toNat - 0x80))], .start)
      | later + 1 => some ([], .more later 0x80 0xBF (value * 64 + (b.toNat - 0x80)))
    else none

/-- All octets, while they fit. -/
def nexts : State → List UInt8 → Option (List Char × State)
  | s, [] => some ([], s)
  | s, b :: rest =>
    match next s b with
    | none => none
    | some (text, s) =>
      match nexts s rest with
      | none => none
      | some (more, s) => some (text ++ more, s)

/-- The text, if all the octets are UTF-8. -/
def decode (bytes : List UInt8) : Option (List Char) :=
  match nexts .start bytes with
  | some (text, .start) => some text
  | _ => none

/-- An octet that may not fit: then what there is of the character is replaced, and
the octet is read as a first one. -/
def feed (s : State) (b : UInt8) : List Char × State :=
  match next s b, s with
  | some result, _ => result
  | none, .start => ([replacement], .start)
  | none, .more .. =>
    match next .start b with
    | some (text, s) => (replacement :: text, s)
    | none => ([replacement, replacement], .start)

/-- The replacement of a character that the end cuts off. -/
def flush : State → List Char
  | .start => []
  | .more .. => [replacement]

def run : State → List UInt8 → List Char × State
  | s, [] => ([], s)
  | s, b :: rest =>
    let (text, s) := feed s b
    let (more, s) := run s rest
    (text ++ more, s)

/-- The text, with replacements for what is not UTF-8. -/
def lossy (bytes : List UInt8) : List Char :=
  let (text, s) := run .start bytes
  text ++ flush s

def encode (text : List Char) : List UInt8 := text.flatMap String.utf8EncodeChar

/-! ## Reading in parts -/

theorem nexts_cons {s s' : State} {b : UInt8} {text : List Char} (h : next s b = some (text, s'))
    (rest : List UInt8) :
    nexts s (b :: rest) = (nexts s' rest).map fun r => (text ++ r.1, r.2) := by
  rw [nexts, h]
  dsimp only
  rcases nexts s' rest with _ | r
  · rfl
  · rfl

/-- What fits, octet by octet. -/
theorem of_nexts_cons {s s' : State} {b : UInt8} {rest : List UInt8} {text : List Char}
    (h : nexts s (b :: rest) = some (text, s')) :
    ∃ out t more, next s b = some (out, t) ∧ nexts t rest = some (more, s') ∧
      text = out ++ more := by
  rcases hnext : next s b with _ | ⟨out, t⟩
  · rw [nexts, hnext] at h
    cases h
  · rw [nexts_cons hnext] at h
    obtain ⟨⟨more, t'⟩, hrest, heq⟩ := Option.map_eq_some_iff.mp h
    obtain ⟨rfl, rfl⟩ := Prod.mk.inj heq
    exact ⟨out, t, more, rfl, hrest, rfl⟩

theorem nexts_append {s s' : State} {bytes bytes' : List UInt8} {text : List Char}
    (h : nexts s bytes = some (text, s')) :
    nexts s (bytes ++ bytes') = (nexts s' bytes').map fun r => (text ++ r.1, r.2) := by
  -- on the octets of the first part, from any state
  induction bytes generalizing s text with
  | nil =>
      obtain ⟨rfl, rfl⟩ := Prod.mk.inj (Option.some.inj h)
      simp
  | cons b bytes ih =>
      obtain ⟨out, t, more, hnext, hrest, rfl⟩ := of_nexts_cons h
      rw [List.cons_append, nexts_cons hnext, ih hrest, Option.map_map]
      congr 1
      funext r
      simp [List.append_assoc]

theorem run_append (s : State) (bytes bytes' : List UInt8) :
    run s (bytes ++ bytes') =
      ((run s bytes).1 ++ (run (run s bytes).2 bytes').1, (run (run s bytes).2 bytes').2) := by
  induction bytes generalizing s with
  | nil => simp [run]
  | cons b bytes ih => simp [run, ih]

theorem run_of_nexts {s s' : State} {bytes : List UInt8} {text : List Char}
    (h : nexts s bytes = some (text, s')) : run s bytes = (text, s') := by
  induction bytes generalizing s text with
  | nil => exact Option.some.inj h
  | cons b bytes ih =>
      obtain ⟨out, t, more, hnext, hrest, rfl⟩ := of_nexts_cons h
      have hfeed : feed s b = (out, t) := by
        unfold feed
        rw [hnext]
      rw [run, hfeed]
      dsimp only
      rw [ih hrest]

/-- The text of a prefix is a prefix of the text, and perhaps a replacement. -/
theorem lossy_of_isPrefix {bytes bytes' : List UInt8} (h : bytes <+: bytes') :
    ∃ text, text <+: lossy bytes' ∧ (lossy bytes = text ∨ lossy bytes = text ++ [replacement]) := by
  obtain ⟨rest, rfl⟩ := h
  refine ⟨(run .start bytes).1, ?_, ?_⟩
  · -- what the machine has written stays written
    unfold lossy
    rw [run_append]
    simp [List.append_assoc]
  · -- only the end inside a character adds to it
    unfold lossy
    dsimp only
    rcases (run .start bytes).2 with _ | _
    · exact Or.inl (List.append_nil _)
    · exact Or.inr rfl

/-- Behind whole characters the reading starts anew. -/
theorem lossy_append_of_decode {bytes : List UInt8} {text : List Char}
    (h : decode bytes = some text) (bytes' : List UInt8) :
    lossy (bytes ++ bytes') = text ++ lossy bytes' := by
  have hnexts : nexts .start bytes = some (text, .start) := by
    unfold decode at h
    split at h
    · rename_i hnexts
      rw [hnexts, Option.some.inj h]
    · cases h
  unfold lossy
  rw [run_append, run_of_nexts hnexts]
  simp [List.append_assoc]

/-- An octet that completes nothing leaves the machine inside a character. -/
theorem feed_ne_start (s : State) (b : UInt8) : feed s b ≠ ([], .start) := by
  have hfirst (n : ℕ) : first n ≠ some ([], .start) := by
    unfold first
    split_ifs
    all_goals simp
  have hnext : next s b ≠ some ([], .start) := by
    intro h
    rcases s with _ | ⟨later, low, high, value⟩
    · exact hfirst _ h
    · simp only [next] at h
      split_ifs at h
      rcases later with _ | later
      · simp at h
      · simp at h
  intro h
  unfold feed at h
  split at h
  · rename_i result hsome
    exact hnext (by rw [hsome, h])
  · simp at h
  · split at h
    · simp at h
    · simp at h

theorem lossy_ne_nil {bytes : List UInt8} (h : bytes ≠ []) : lossy bytes ≠ [] := by
  have hrun (s : State) : ∀ bytes, (run s bytes).1 ++ flush (run s bytes).2 = [] →
      s = .start ∧ bytes = [] := by
    intro bytes
    -- the last octet that was read has left something to write
    induction bytes generalizing s with
    | nil =>
        intro hnil
        rcases s with _ | _
        · exact ⟨rfl, rfl⟩
        · simp [run, flush] at hnil
    | cons b bytes ih =>
        intro hnil
        simp only [run, List.append_assoc, List.append_eq_nil_iff] at hnil
        obtain ⟨htext, hrest⟩ := hnil
        obtain ⟨hstart, -⟩ := ih _ (List.append_eq_nil_iff.mpr hrest)
        exact absurd (Prod.ext htext hstart) (feed_ne_start s b)
  intro hnil
  exact h (hrun .start bytes hnil).2

/-! ## The round trip of a character -/

theorem toNat_ofNat_of_lt {n : ℕ} (h : n < 256) : (UInt8.ofNat n).toNat = n := by
  rw [UInt8.toNat_ofNat', Nat.mod_eq_of_lt h]

theorem next_tail {later low high value n : ℕ} (hlow : low ≤ n) (hhigh : n ≤ high) (hn : n < 256) :
    next (.more (later + 1) low high value) (.ofNat n) =
      some ([], .more later 0x80 0xBF (value * 64 + (n - 0x80))) := by
  simp [next, toNat_ofNat_of_lt hn, hlow, hhigh]

theorem next_last {low high value n : ℕ} (hlow : low ≤ n) (hhigh : n ≤ high) (hn : n < 256) :
    next (.more 0 low high value) (.ofNat n) =
      some ([.ofNat (value * 64 + (n - 0x80))], .start) := by
  simp [next, toNat_ofNat_of_lt hn, hlow, hhigh]

/-- The first octet of three; overlong forms and surrogates are no characters. -/
theorem first_of_three {v : ℕ} (hlow : 0x7FF < v) (hhigh : v ≤ 0xFFFF)
    (hvalid : v < 0xD800 ∨ 0xDFFF < v) :
    ∃ low high, first (v / 4096 % 16 + 0xE0) = some ([], .more 1 low high (v / 4096)) ∧
      low ≤ v / 64 % 64 + 0x80 ∧ v / 64 % 64 + 0x80 ≤ high := by
  unfold first
  rw [if_neg (by omega), if_neg (by omega)]
  by_cases hzero : v / 4096 = 0
  · rw [if_pos (by omega), hzero]
    exact ⟨_, _, rfl, by omega, by omega⟩
  · rw [if_neg (by omega)]
    by_cases hd : v / 4096 = 0xD
    · rw [if_pos (by omega), hd]
      exact ⟨_, _, rfl, by omega, by omega⟩
    · have hvalue : v / 4096 % 16 + 0xE0 - 0xE0 = v / 4096 := by omega
      rw [if_neg (by omega), if_pos (by omega), hvalue]
      exact ⟨_, _, rfl, by omega, by omega⟩

/-- The first octet of four; nothing beyond U+10FFFF is a character. -/
theorem first_of_four {v : ℕ} (hlow : 0xFFFF < v) (hhigh : v < 0x110000) :
    ∃ low high, first (v / 262144 % 8 + 0xF0) = some ([], .more 2 low high (v / 262144)) ∧
      low ≤ v / 4096 % 64 + 0x80 ∧ v / 4096 % 64 + 0x80 ≤ high := by
  unfold first
  rw [if_neg (by omega), if_neg (by omega), if_neg (by omega), if_neg (by omega),
    if_neg (by omega)]
  by_cases hzero : v / 262144 = 0
  · rw [if_pos (by omega), hzero]
    exact ⟨_, _, rfl, by omega, by omega⟩
  · rw [if_neg (by omega)]
    by_cases hfour : v / 262144 = 4
    · rw [if_neg (by omega), if_pos (by omega), hfour]
      exact ⟨_, _, rfl, by omega, by omega⟩
    · have hvalue : v / 262144 % 8 + 0xF0 - 0xF0 = v / 262144 := by omega
      rw [if_pos (by omega), hvalue]
      exact ⟨_, _, rfl, by omega, by omega⟩

theorem nexts_encodeChar (c : Char) :
    nexts .start (String.utf8EncodeChar c) = some ([c], .start) := by
  have hc : Char.ofNat c.val.toNat = c := Char.ofNat_toNat c
  have hvalid : c.val.toNat < 0xD800 ∨ 0xDFFF < c.val.toNat ∧ c.val.toNat < 0x110000 := c.valid
  unfold String.utf8EncodeChar
  dsimp only
  generalize c.val.toNat = v at hc hvalid
  -- one, two, three or four octets
  by_cases h1 : v ≤ 0x7F
  · have hfirst : next .start (.ofNat v) = some ([.ofNat v], .start) := by
      simp only [next, toNat_ofNat_of_lt (show v < 256 by omega), first]
      rw [if_pos (by omega)]
    rw [if_pos h1, nexts_cons hfirst, hc]
    rfl
  · by_cases h2 : v ≤ 0x7FF
    · have hfirst : next .start (.ofNat (v / 64 % 0x20 + 0xC0)) =
          some ([], .more 0 0x80 0xBF (v / 64)) := by
        have hvalue : v / 64 % 0x20 + 0xC0 - 0xC0 = v / 64 := by omega
        simp only [next, toNat_ofNat_of_lt (show v / 64 % 0x20 + 0xC0 < 256 by omega), first]
        rw [if_neg (by omega), if_pos (by omega), hvalue]
      have hlast : v / 64 * 64 + (v % 0x40 + 0x80 - 0x80) = v := by omega
      rw [if_neg h1, if_pos h2, nexts_cons hfirst]
      rw [nexts_cons (next_last (by omega) (by omega) (by omega)), hlast, hc]
      rfl
    · by_cases h3 : v ≤ 0xFFFF
      · obtain ⟨low, high, hfirst, hlow, hhigh⟩ := first_of_three (by omega) h3 (by omega)
        have hnext : next .start (.ofNat (v / 4096 % 0x10 + 0xE0)) =
            some ([], .more 1 low high (v / 4096)) := by
          simp only [next, toNat_ofNat_of_lt (show v / 4096 % 0x10 + 0xE0 < 256 by omega)]
          exact hfirst
        have hlast : (v / 4096 * 64 + (v / 64 % 0x40 + 0x80 - 0x80)) * 64 +
            (v % 0x40 + 0x80 - 0x80) = v := by omega
        rw [if_neg h1, if_neg h2, if_pos h3, nexts_cons hnext]
        rw [nexts_cons (next_tail hlow hhigh (by omega))]
        rw [nexts_cons (next_last (by omega) (by omega) (by omega)), hlast, hc]
        rfl
      · obtain ⟨low, high, hfirst, hlow, hhigh⟩ := first_of_four (v := v) (by omega) (by omega)
        have hnext : next .start (.ofNat (v / 262144 % 0x08 + 0xF0)) =
            some ([], .more 2 low high (v / 262144)) := by
          simp only [next, toNat_ofNat_of_lt (show v / 262144 % 0x08 + 0xF0 < 256 by omega)]
          exact hfirst
        have hlast : ((v / 262144 * 64 + (v / 4096 % 0x40 + 0x80 - 0x80)) * 64 +
            (v / 64 % 0x40 + 0x80 - 0x80)) * 64 + (v % 0x40 + 0x80 - 0x80) = v := by omega
        rw [if_neg h1, if_neg h2, if_neg h3, nexts_cons hnext]
        rw [nexts_cons (next_tail hlow hhigh (by omega))]
        rw [nexts_cons (next_tail (by omega) (by omega) (by omega))]
        rw [nexts_cons (next_last (by omega) (by omega) (by omega)), hlast, hc]
        rfl

theorem nexts_encode (text : List Char) : nexts .start (encode text) = some (text, .start) := by
  induction text with
  | nil => rfl
  | cons c text ih =>
      have hcons : encode (c :: text) = String.utf8EncodeChar c ++ encode text := rfl
      rw [hcons, nexts_append (nexts_encodeChar c), ih]
      rfl

@[simp] theorem decode_encode (text : List Char) : decode (encode text) = some text := by
  rw [decode, nexts_encode]

/-- Text is read as it is, whatever follows. -/
theorem lossy_encode_append (text : List Char) (bytes : List UInt8) :
    lossy (encode text ++ bytes) = text ++ lossy bytes := by
  unfold lossy
  rw [run_append, run_of_nexts (nexts_encode text)]
  simp [List.append_assoc]

@[simp] theorem lossy_encode (text : List Char) : lossy (encode text) = text := by
  have h := lossy_encode_append text []
  rw [List.append_nil] at h
  rw [h]
  exact List.append_nil text

@[simp] theorem encode_append (text text' : List Char) :
    encode (text ++ text') = encode text ++ encode text' :=
  List.flatMap_append

/-! ## ASCII -/

/-- An octet of ASCII stands for itself only. -/
theorem eq_of_ascii_mem_encodeChar {c : Char} {b : UInt8} (hmem : b ∈ String.utf8EncodeChar c)
    (hb : b.toNat < 0x80) : c.toNat = b.toNat := by
  have hvalid : c.val.toNat < 0xD800 ∨ 0xDFFF < c.val.toNat ∧ c.val.toNat < 0x110000 := c.valid
  have hc : c.toNat = c.val.toNat := rfl
  rw [hc]
  unfold String.utf8EncodeChar at hmem
  dsimp only at hmem
  generalize c.val.toNat = v at hmem hvalid
  split_ifs at hmem
  · rw [List.mem_singleton.mp hmem, toNat_ofNat_of_lt (by omega)]
  -- every octet of a longer form is 0x80 or more
  all_goals
    exfalso
    simp only [List.mem_cons, List.not_mem_nil, or_false] at hmem
    rcases hmem with rfl | rfl | rfl | rfl
  all_goals
    rw [toNat_ofNat_of_lt (by omega)] at hb
    omega

theorem encodeChar_of_ascii {c : Char} (h : c.toNat < 0x80) :
    String.utf8EncodeChar c = [UInt8.ofNat c.toNat] := by
  have hc : c.val.toNat ≤ 0x7F := Nat.le_of_lt_succ h
  unfold String.utf8EncodeChar
  dsimp only
  rw [if_pos hc]
  rfl

/-- A text of ASCII takes one octet for each character. -/
theorem encode_of_ascii {text : List Char} (h : ∀ c ∈ text, c.toNat < 0x80) :
    encode text = text.map fun c => UInt8.ofNat c.toNat := by
  induction text with
  | nil => rfl
  | cons c text ih =>
      have hc := encodeChar_of_ascii (h c (by simp))
      have htext := ih fun d hd => h d (List.mem_cons_of_mem _ hd)
      rw [List.map_cons, ← htext]
      change String.utf8EncodeChar c ++ encode text = _
      rw [hc]
      rfl

end Utf8
