import NautiFabric.Fabric.Types
import NautiFabric.Text

/-!
# NautiFabric.Http.Response — an HTTP response as the node reads it

The bytes that a head sent until it closed the connection are cut at the first blank
line. What comes before it is text; what comes after it is the body, in chunks if the
header says so. Nothing of the response is taken if there is no blank line or no
status, and of a chunked body only the chunks that are whole.
-/

namespace NautiFabric

def crlf : List UInt8 := [0x0D, 0x0A]

def findSubslice (haystack needle : List UInt8) : Option ℕ := Subslice.find needle haystack

/-- Past the first CR LF CR LF, or if there is none, past the first LF LF. -/
def findHeaderEnd (raw : List UInt8) : Option ℕ :=
  match findSubslice raw (crlf ++ crlf) with
  | some i => some (i + 4)
  | none => (findSubslice raw [0x0A, 0x0A]).map fun i => i + 2

/-! ## Chunks -/

/-- `usize::checked_add`. -/
def checkedAdd (a b : ℕ) : Option ℕ := if a + b < 2 ^ 64 then some (a + b) else none

/-- `usize::saturating_add`. -/
def saturatingAdd (a b : ℕ) : ℕ := min (a + b) (2 ^ 64 - 1)

/-- The number in a size line. -/
@[irreducible] def chunkSize (line : List UInt8) : Option ℕ :=
  fromStrRadix 16 64 (trim ((split ';' (fromUtf8Lossy line)).headD ""))

/-- One round of the loop of `dechunk`: the data of the chunk and what follows it, or
`none` where the loop stops. -/
def nextChunk (rest : List UInt8) : Option (List UInt8 × List UInt8) :=
  -- without a CR LF the line is all that is left
  let lineEnd := (findSubslice rest crlf).getD rest.length
  match chunkSize (rest.take lineEnd) with
  | none => none
  | some len =>
    if len = 0 then none
    else
      let start := lineEnd + 2
      match (checkedAdd start len).filter fun stop => stop ≤ rest.length with
      | none => none
      | some stop =>
        -- the two bytes behind the data are not looked at
        some ((rest.take stop).drop start,
          rest.drop (min (saturatingAdd (min stop rest.length) 2) rest.length))

/-- A chunk that is taken: its size line ends with CR LF, the size is not zero, and
the data is there. -/
structure Takes (rest data rest' : List UInt8) (lineEnd len : ℕ) : Prop where
  line : findSubslice rest crlf = some lineEnd
  size : chunkSize (rest.take lineEnd) = some len
  pos : 0 < len
  fits : lineEnd + 2 + len < 2 ^ 64
  whole : lineEnd + 2 + len ≤ rest.length
  data : data = (rest.drop (lineEnd + 2)).take len
  rest' : rest' = rest.drop (saturatingAdd (lineEnd + 2 + len) 2)

theorem checkedAdd_filter_eq_some_iff {a b n stop : ℕ} :
    ((checkedAdd a b).filter fun m => m ≤ n) = some stop ↔
      a + b < 2 ^ 64 ∧ a + b ≤ n ∧ stop = a + b := by
  unfold checkedAdd
  rw [Option.filter_eq_some_iff]
  split_ifs with hfits
  · rw [Option.some.injEq, decide_eq_true_iff]
    constructor
    · rintro ⟨rfl, hle⟩
      exact ⟨hfits, hle, rfl⟩
    · rintro ⟨-, hle, rfl⟩
      exact ⟨rfl, hle⟩
  · constructor
    · rintro ⟨hnone, -⟩
      cases hnone
    · rintro ⟨h, -⟩
      exact absurd h hfits

theorem nextChunk_eq_some_iff {rest data rest' : List UInt8} :
    nextChunk rest = some (data, rest') ↔ ∃ lineEnd len, Takes rest data rest' lineEnd len := by
  have hdrop (k : ℕ) : rest.drop (min k rest.length) = rest.drop k := by
    rcases Nat.le_total k rest.length with hle | hle
    · rw [min_eq_left hle]
    · rw [min_eq_right hle, List.drop_length, List.drop_eq_nil_of_le hle]
  constructor
  · intro h
    unfold nextChunk at h
    dsimp only at h
    rcases hsize : chunkSize (rest.take ((findSubslice rest crlf).getD rest.length)) with _ | len
    · simp [hsize] at h
    · rw [hsize] at h
      dsimp only at h
      split_ifs at h with hlen
      rcases hstop : (checkedAdd ((findSubslice rest crlf).getD rest.length + 2) len).filter
          fun stop => stop ≤ rest.length with _ | stop
      · simp [hstop] at h
      · rw [hstop] at h
        obtain ⟨hfits, hwhole, rfl⟩ := checkedAdd_filter_eq_some_iff.mp hstop
        obtain ⟨hdata, hrest'⟩ := Prod.mk.inj (Option.some.inj h)
        rcases hline : findSubslice rest crlf with _ | lineEnd
        · -- without a CR LF the data would start behind the end
          rw [hline, Option.getD_none] at hwhole
          omega
        · rw [hline, Option.getD_some] at hsize hfits hwhole hdata hrest'
          rw [hdrop, min_eq_left hwhole] at hrest'
          rw [List.drop_take, Nat.add_sub_cancel_left] at hdata
          exact ⟨lineEnd, len, hline, hsize, Nat.pos_of_ne_zero hlen, hfits, hwhole, hdata.symm,
            hrest'.symm⟩
  · rintro ⟨lineEnd, len, h⟩
    have hstop := checkedAdd_filter_eq_some_iff.mpr ⟨h.fits, h.whole, rfl⟩
    unfold nextChunk
    dsimp only
    rw [h.line, Option.getD_some, h.size]
    dsimp only
    rw [if_neg h.pos.ne', hstop]
    dsimp only
    rw [hdrop, min_eq_left h.whole, List.drop_take, Nat.add_sub_cancel_left, ← h.data, ← h.rest']

theorem length_lt_of_nextChunk {rest data rest' : List UInt8}
    (h : nextChunk rest = some (data, rest')) : rest'.length < rest.length := by
  obtain ⟨lineEnd, len, htakes⟩ := nextChunk_eq_some_iff.mp h
  have hpos := htakes.pos
  have hwhole := htakes.whole
  -- at least the size line and one byte of data are gone
  rw [htakes.rest', List.length_drop]
  unfold saturatingAdd
  omega

/-- A chunk that is taken has data. -/
theorem ne_nil_of_nextChunk {rest data rest' : List UInt8}
    (h : nextChunk rest = some (data, rest')) : data ≠ [] := by
  obtain ⟨lineEnd, len, htakes⟩ := nextChunk_eq_some_iff.mp h
  have hpos := htakes.pos
  have hwhole := htakes.whole
  rw [htakes.data]
  apply List.ne_nil_of_length_pos
  rw [List.length_take, List.length_drop]
  omega

/-- A loop that takes chunks off the front until there is none. -/
def takeChunks (next : List UInt8 → Option (List UInt8 × List UInt8))
    (hnext : ∀ {rest data rest' : List UInt8}, next rest = some (data, rest') →
      rest'.length < rest.length) (out rest : List UInt8) : List UInt8 :=
  match _h : next rest with
  | none => out
  | some (data, rest') => takeChunks next hnext (out ++ data) rest'
termination_by rest.length
decreasing_by exact hnext _h

/-- The loop of `dechunk`. -/
def dechunkLoop (out rest : List UInt8) : List UInt8 :=
  takeChunks nextChunk length_lt_of_nextChunk out rest

theorem dechunkLoop_of_none {out rest : List UInt8} (h : nextChunk rest = none) :
    dechunkLoop out rest = out := by
  unfold dechunkLoop takeChunks
  split
  · rfl
  · rename_i hsome
    rw [h] at hsome
    cases hsome

theorem dechunkLoop_of_some {out rest data rest' : List UInt8}
    (h : nextChunk rest = some (data, rest')) :
    dechunkLoop out rest = dechunkLoop (out ++ data) rest' := by
  unfold dechunkLoop
  rw [takeChunks]
  split
  · rename_i hnone
    rw [h] at hnone
    cases hnone
  · rename_i data' rest'' hsome
    rw [h] at hsome
    obtain ⟨rfl, rfl⟩ := Prod.mk.inj (Option.some.inj hsome)
    rfl

theorem isPrefix_dechunkLoop (out rest : List UInt8) : out <+: dechunkLoop out rest := by
  induction hlength : rest.length using Nat.strong_induction_on generalizing out rest with
  | h n ih =>
      rcases hnext : nextChunk rest with _ | ⟨data, rest'⟩
      · rw [dechunkLoop_of_none hnext]
      · rw [dechunkLoop_of_some hnext]
        have hlt := length_lt_of_nextChunk hnext
        exact (List.prefix_append out data).trans (ih _ (by omega) (out ++ data) rest' rfl)

def dechunk (body : List UInt8) : String := fromUtf8Lossy (dechunkLoop [] body)

/-! ## Header fields -/

/-- A header line with a colon is a field; the last one of a name is kept. -/
def insertField (headers : StringMap String) (line : String) : StringMap String :=
  match splitOnce ':' line with
  | some (k, v) => headers.insert (toAsciiLowercase (trim k)) (trim v)
  | none => headers

def isChunked (headers : StringMap String) : Bool :=
  headers["transfer-encoding"]?.any fun v => containsStr (toAsciiLowercase v) "chunked"

/-- The status and the fields of a head. -/
def parseHead (head : String) : Option (UInt16 × StringMap String) :=
  match lines head with
  | [] => none
  | statusLine :: fields =>
    match (splitWhitespace statusLine)[1]?.bind parseU16 with
    | none => none
    | some status => some (status, fields.foldl insertField ∅)

def readBody (headers : StringMap String) (body : List UInt8) : String :=
  if isChunked headers then dechunk body else fromUtf8Lossy body

/-- The status, the fields by their names in lower case, and the body. -/
def parseHttpResponse (raw : List UInt8) : Option (UInt16 × StringMap String × String) :=
  match findHeaderEnd raw with
  | none => none
  | some stop =>
    match (fromUtf8 (raw.take stop)).bind parseHead with
    | none => none
    | some (status, headers) => some (status, headers, readBody headers (raw.drop stop))

end NautiFabric
