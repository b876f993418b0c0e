import NautiFabric.Http.Response

/-!
# NautiFabric.Http.Grammar — the chunks that `dechunk` takes

A chunk of the grammar is a size line, as many octets as it says, and CR LF behind
each of the two. `dechunk` takes every such chunk (`nextChunk_render`), and it takes
more: its size line is read as text, so that white space and a plus sign may stand in
front of the digits, and what stands behind the data is not looked at.

* `chunkSize_eq_some_iff`, `nextChunk_isSome_iff` — what is taken, exactly.
* `dechunk_iff` — a body is decoded up to its first malformed chunk, unless what is
  left there is taken all the same.
-/

namespace NautiFabric

/-! ## The grammar -/

/-- Hexadecimal digits, blanks, and perhaps an extension behind a `;`. -/
structure ChunkLine where
  digits : List Char
  blanks : List Char
  extension : Option (List UInt8)
  nonempty : digits ≠ []
  hex : ∀ c ∈ digits, (toDigit 16 c).isSome
  blank : ∀ c ∈ blanks, c = ' ' ∨ c = '\t'
  oneLine : ∀ ext, extension = some ext → ¬ crlf <:+: ext

namespace ChunkLine

def value (line : ChunkLine) : ℕ := digitsTotal 16 0 line.digits

/-- The digits and the blanks. -/
def field (line : ChunkLine) : List UInt8 := Utf8.encode (line.digits ++ line.blanks)

def bytes (line : ChunkLine) : List UInt8 :=
  line.field ++
    match line.extension with
    | none => []
    | some ext => 0x3B :: ext

end ChunkLine

structure WellFormedChunk where
  line : ChunkLine
  data : List UInt8
  nonempty : data ≠ []
  sized : line.value = data.length
  fits : line.value < 2 ^ 64

def WellFormedChunk.render (chunk : WellFormedChunk) : List UInt8 :=
  chunk.line.bytes ++ (crlf ++ (chunk.data ++ crlf))

/-- Chunks one behind the other. -/
abbrev ChunkRun : Type := List WellFormedChunk

namespace ChunkRun

def render (run : ChunkRun) : List UInt8 := run.flatMap WellFormedChunk.render

def data (run : ChunkRun) : List UInt8 := run.flatMap WellFormedChunk.data

end ChunkRun

/-- The longest prefix that is a sequence of well-formed chunks, and what is left. -/
structure LongestRun (body : List UInt8) (run : ChunkRun) (rest : List UInt8) : Prop where
  splits : body = run.render ++ rest
  longest : ∀ (run' : ChunkRun) (rest' : List UInt8), body = run'.render ++ rest' →
    run'.render.length ≤ run.render.length

theorem exists_longestRun (body : List UInt8) : ∃ run rest, LongestRun body run rest := by
  classical
  -- the greatest of the lengths that a run in front of the body has
  let IsLength (n : ℕ) : Prop :=
    ∃ (run : ChunkRun) (rest : List UInt8), body = run.render ++ rest ∧ run.render.length = n
  have hnil : IsLength 0 := ⟨[], body, rfl, rfl⟩
  obtain ⟨run, rest, hsplits, hlength⟩ :=
    Nat.findGreatest_spec (P := IsLength) (Nat.zero_le body.length) hnil
  refine ⟨run, rest, hsplits, ?_⟩
  intro run' rest' hsplits'
  rw [hlength]
  refine Nat.le_findGreatest ?_ ⟨run', rest', hsplits', rfl⟩
  rw [hsplits', List.length_append]
  exact Nat.le_add_right _ _

/-! ## What is taken for a size -/

/-- The text of a size line as it is read: white space, a plus sign, digits and white
space again, and from a `;` on anything. -/
structure SizeText where
  before : List Char
  sign : List Char
  digits : List Char
  after : List Char
  more : List Char
  white_before : ∀ c ∈ before, isWhitespace c
  sign_eq : sign = [] ∨ sign = ['+']
  nonempty : digits ≠ []
  hex : ∀ c ∈ digits, (toDigit 16 c).isSome
  white_after : ∀ c ∈ after, isWhitespace c
  more_eq : more = [] ∨ ∃ behind, more = ';' :: behind

namespace SizeText

def text (size : SizeText) : List Char :=
  size.before ++ (size.sign ++ size.digits ++ size.after) ++ size.more

def value (size : SizeText) : ℕ := digitsTotal 16 0 size.digits

end SizeText

/-- A hexadecimal digit is no white space, and no `;`. -/
theorem plain_of_isHexDigit {c : Char} (h : (toDigit 16 c).isSome) :
    isWhitespace c = false ∧ c ≠ ';' := by
  have hhex := of_isHexDigit h
  constructor
  · simp only [isWhitespace, List.mem_cons, List.not_mem_nil, or_false]
    simp only [Bool.or_eq_false_iff, Bool.and_eq_false_iff, decide_eq_false_iff_not]
    omega
  · rintro rfl
    have hsemicolon : ';'.toNat = 0x3B := rfl
    omega

/-- Of the number, no character is white space, and none a `;`. -/
theorem SizeText.plain (size : SizeText) :
    ∀ c ∈ size.sign ++ size.digits, isWhitespace c = false ∧ c ≠ ';' := by
  intro c hc
  rcases List.mem_append.mp hc with hsign | hdigit
  · rcases size.sign_eq with hnone | hplus
    · simp [hnone] at hsign
    · rw [hplus, List.mem_singleton] at hsign
      subst hsign
      decide
  · exact plain_of_isHexDigit (size.hex c hdigit)

theorem ne_semicolon_of_isWhitespace {c : Char} (h : isWhitespace c) : c ≠ ';' := by
  rintro rfl
  revert h
  decide

theorem chunkSize_eq_some_iff {line : List UInt8} {n : ℕ} :
    chunkSize line = some n ↔
      ∃ size : SizeText, Utf8.lossy line = size.text ∧ size.value = n ∧ n < 2 ^ 64 := by
  unfold chunkSize fromUtf8Lossy
  constructor
  · intro h
    -- up to the `;`, then without the white space around it, then the sign and the digits
    obtain ⟨field, more, hline, hfield, hmore⟩ := exists_field ';' (Utf8.lossy line)
    rw [hline, split_headD hfield hmore] at h
    obtain ⟨before, after, htrim, hbefore, hafter⟩ := exists_trim field
    rw [← String.ofList_toList (s := trim (.ofList field)),
      fromStrRadix_eq_some_iff (by decide)] at h
    obtain ⟨sign, digits, hnumber, hsign, hne, hhex, htotal, hfits⟩ := h
    refine ⟨⟨before, sign, digits, after, more, hbefore, hsign, hne, hhex, hafter, hmore⟩,
      ?_, htotal, hfits⟩
    rw [hline, htrim, hnumber]
    simp [SizeText.text, List.append_assoc]
  · rintro ⟨size, hline, rfl, hfits⟩
    -- the first `;` is the one behind all that
    have hfield : ';' ∉ size.before ++ (size.sign ++ size.digits ++ size.after) := by
      intro hmem
      rcases List.mem_append.mp hmem with hbefore | hmem
      · exact ne_semicolon_of_isWhitespace (size.white_before _ hbefore) rfl
      · rcases List.mem_append.mp hmem with hnumber | hafter
        · exact (size.plain _ hnumber).2 rfl
        · exact ne_semicolon_of_isWhitespace (size.white_after _ hafter) rfl
    rw [hline, SizeText.text, split_headD hfield size.more_eq]
    rw [trim_around size.white_before size.white_after fun c hc => (size.plain c hc).1]
    rw [fromStrRadix_eq_some_iff (by decide)]
    exact ⟨size.sign, size.digits, rfl, size.sign_eq, size.nonempty, size.hex, rfl, hfits⟩

/-! ## What is taken for a chunk -/

/-- A line that is read as a size, CR LF, and at least that many octets. -/
def TakesLoosely (rest : List UInt8) : Prop :=
  ∃ (line more : List UInt8) (size : SizeText), rest = line ++ (crlf ++ more) ∧
    ¬ crlf <:+: line ∧ Utf8.lossy line = size.text ∧ 0 < size.value ∧ size.value ≤ more.length

/-- A line that has no CR LF is read up to the first one behind it. -/
theorem findSubslice_sizeLine {line : List UInt8} (hline : ¬ crlf <:+: line) (more : List UInt8) :
    findSubslice (line ++ (crlf ++ more)) crlf = some line.length :=
  Subslice.find_append_self (by decide) hline more

theorem drop_line (line more : List UInt8) :
    (line ++ (crlf ++ more)).drop (line.length + 2) = more := by
  rw [← List.drop_drop, List.drop_left]
  rfl

/-- The data of a chunk, and what is left behind the two octets that follow it. -/
theorem nextChunk_of_chunkSize {line more : List UInt8} {n : ℕ} (hline : ¬ crlf <:+: line)
    (hsize : chunkSize line = some n) (hpos : 0 < n) (hwhole : n ≤ more.length)
    (hfits : (line ++ (crlf ++ more)).length < 2 ^ 64) :
    nextChunk (line ++ (crlf ++ more)) = some (more.take n, more.drop (n + 2)) := by
  have hcrlf : crlf.length = 2 := rfl
  simp only [List.length_append, hcrlf] at hfits
  refine nextChunk_eq_some_iff.mpr ⟨line.length, n, ?_⟩
  constructor
  · exact findSubslice_sizeLine hline more
  · rw [List.take_left]
    exact hsize
  · exact hpos
  · omega
  · simp only [List.length_append, hcrlf]
    omega
  · rw [drop_line]
  · -- the end saturates only where nothing is left
    have hdrop : (line ++ (crlf ++ more)).drop (line.length + 2 + (n + 2)) = more.drop (n + 2) := by
      rw [← List.drop_drop, drop_line]
    rw [← hdrop]
    unfold saturatingAdd
    rcases Nat.lt_or_ge (line.length + 2 + n + 2) (2 ^ 64) with hlt | hge
    · rw [min_eq_left (by omega)]
      rfl
    · rw [List.drop_eq_nil_of_le, List.drop_eq_nil_of_le]
      · simp only [List.length_append, hcrlf]
        omega
      · simp only [List.length_append, hcrlf]
        omega

theorem nextChunk_isSome_iff {rest : List UInt8} (hfits : rest.length < 2 ^ 64) :
    (nextChunk rest).isSome ↔ TakesLoosely rest := by
  constructor
  · intro h
    obtain ⟨⟨data, rest'⟩, hnext⟩ := Option.isSome_iff_exists.mp h
    obtain ⟨lineEnd, n, htakes⟩ := nextChunk_eq_some_iff.mp hnext
    obtain ⟨line, more, rfl, rfl, hline⟩ := Subslice.of_find_eq_some (by decide) htakes.line
    have hsize := htakes.size
    rw [List.take_left] at hsize
    obtain ⟨size, htext, rfl, -⟩ := chunkSize_eq_some_iff.mp hsize
    have hcrlf : crlf.length = 2 := rfl
    have hwhole := htakes.whole
    simp only [List.length_append, hcrlf] at hwhole
    exact ⟨line, more, size, rfl, hline, htext, htakes.pos, by omega⟩
  · rintro ⟨line, more, size, rfl, hline, htext, hpos, hwhole⟩
    -- the data is there, so its size fits
    have hvalue : size.value < 2 ^ 64 := by
      simp only [List.length_append] at hfits
      omega
    have hsize := chunkSize_eq_some_iff.mpr ⟨size, htext, rfl, hvalue⟩
    rw [nextChunk_of_chunkSize hline hsize hpos hwhole hfits]
    rfl

/-! ## Well-formed chunks are taken -/

namespace ChunkLine

/-- The text from the `;` on. -/
def more (line : ChunkLine) : List Char :=
  match line.extension with
  | none => []
  | some ext => ';' :: Utf8.lossy ext

/-- The text of a size line is the digits and the blanks, up to a `;` if there is one. -/
def sizeText (line : ChunkLine) : SizeText where
  before := []
  sign := []
  digits := line.digits
  after := line.blanks
  more := line.more
  white_before := List.forall_mem_nil _
  sign_eq := Or.inl rfl
  nonempty := line.nonempty
  hex := line.hex
  white_after := by
    intro c hc
    rcases line.blank c hc with rfl | rfl
    · rfl
    · rfl
  more_eq := by
    unfold more
    rcases line.extension with _ | ext
    · exact Or.inl rfl
    · exact Or.inr ⟨_, rfl⟩

theorem lossy_bytes (line : ChunkLine) : Utf8.lossy line.bytes = line.sizeText.text := by
  have htext : line.sizeText.text = line.digits ++ line.blanks ++ line.more := by
    simp [SizeText.text, sizeText]
  rw [htext]
  unfold bytes field more
  rcases line.extension with _ | ext
  · simp only [List.append_nil, Utf8.lossy_encode]
  · have hsemicolon : (0x3B : UInt8) :: ext = Utf8.encode [';'] ++ ext := rfl
    dsimp only
    rw [hsemicolon, Utf8.lossy_encode_append, Utf8.lossy_encode_append]
    rfl

theorem chunkSize_bytes (line : ChunkLine) (hfits : line.value < 2 ^ 64) :
    chunkSize line.bytes = some line.value :=
  chunkSize_eq_some_iff.mpr ⟨line.sizeText, line.lossy_bytes, rfl, hfits⟩

theorem cr_not_mem_field (line : ChunkLine) : (0x0D : UInt8) ∉ line.field := by
  refine ascii_not_mem_encode (by decide) ?_
  intro c hc
  have hcr : (0x0D : UInt8).toNat = 13 := rfl
  -- neither a digit nor a blank has the code point of CR
  rcases List.mem_append.mp hc with hdigit | hblank
  · have hhex := of_isHexDigit (line.hex c hdigit)
    omega
  · rcases line.blank c hblank with rfl | rfl
    · decide
    · decide

theorem crlf_not_isInfix_bytes (line : ChunkLine) : ¬ crlf <:+: line.bytes := by
  intro hpart
  unfold bytes at hpart
  rcases hextension : line.extension with _ | ext
  · rw [hextension] at hpart
    dsimp only at hpart
    rw [List.append_nil] at hpart
    exact line.cr_not_mem_field (hpart.subset (by decide))
  · rw [hextension] at hpart
    dsimp only at hpart
    -- where it starts is past the field and the `;`
    have hcr : (0x0D : UInt8) ∉ line.field ++ [0x3B] := by
      intro hmem
      rcases List.mem_append.mp hmem with hfield | hsemicolon
      · exact line.cr_not_mem_field hfield
      · exact absurd (List.mem_singleton.mp hsemicolon) (by decide)
    have happend : line.field ++ 0x3B :: ext = (line.field ++ [0x3B]) ++ ext := by simp
    have hnone : Subslice.find crlf ext = none := by
      rw [Subslice.find_eq_none_iff (by decide)]
      intro i hstarts
      exact line.oneLine ext hextension (Subslice.isInfix_iff_starts.mpr ⟨i, hstarts⟩)
    have hfind : Subslice.find crlf ((line.field ++ [0x3B]) ++ ext) = none := by
      unfold crlf at hnone ⊢
      rw [Subslice.find_append_of_not_mem hcr, hnone, Option.map_none]
    obtain ⟨i, hstarts⟩ := Subslice.isInfix_iff_starts.mp hpart
    rw [happend] at hstarts
    exact (Subslice.find_eq_none_iff (by decide)).mp hfind i hstarts

end ChunkLine

/-- A chunk is taken off the front of what it was written to. -/
theorem WellFormedChunk.nextChunk_render (chunk : WellFormedChunk) (rest : List UInt8)
    (hfits : (chunk.render ++ rest).length < 2 ^ 64) :
    nextChunk (chunk.render ++ rest) = some (chunk.data, rest) := by
  have hrender : chunk.render ++ rest =
      chunk.line.bytes ++ (crlf ++ (chunk.data ++ (crlf ++ rest))) := by
    simp [render, List.append_assoc]
  have hpos : 0 < chunk.line.value := by
    rw [chunk.sized]
    exact List.length_pos_iff.mpr chunk.nonempty
  have hwhole : chunk.line.value ≤ (chunk.data ++ (crlf ++ rest)).length := by
    rw [chunk.sized, List.length_append]
    exact Nat.le_add_right _ _
  rw [hrender] at hfits ⊢
  rw [nextChunk_of_chunkSize chunk.line.crlf_not_isInfix_bytes
    (chunk.line.chunkSize_bytes chunk.fits) hpos hwhole hfits]
  rw [chunk.sized, List.take_left, ← List.drop_drop, List.drop_left]
  rfl

theorem dechunkLoop_run (out : List UInt8) (run : ChunkRun) {rest : List UInt8}
    (hfits : (run.render ++ rest).length < 2 ^ 64) :
    dechunkLoop out (run.render ++ rest) = dechunkLoop (out ++ run.data) rest := by
  -- on the chunks; `out` is what was taken before them
  induction run generalizing out with
  | nil => simp [ChunkRun.render, ChunkRun.data]
  | cons chunk run ih =>
      have hrender : ChunkRun.render (chunk :: run) ++ rest =
          chunk.render ++ (ChunkRun.render run ++ rest) := by
        simp [ChunkRun.render]
      have hdata : ChunkRun.data (chunk :: run) = chunk.data ++ ChunkRun.data run := by
        simp [ChunkRun.data]
      rw [hrender] at hfits ⊢
      have hlater : (ChunkRun.render run ++ rest).length < 2 ^ 64 := by
        rw [List.length_append] at hfits
        omega
      rw [dechunkLoop_of_some (chunk.nextChunk_render _ hfits), ih _ hlater, hdata,
        List.append_assoc]

/-- A run behind which the loop stops is the longest one. -/
theorem LongestRun.of_nextChunk {body : List UInt8} {run : ChunkRun} {rest : List UInt8}
    (hsplits : body = run.render ++ rest) (hrest : nextChunk rest = none)
    (hfits : body.length < 2 ^ 64) : LongestRun body run rest := by
  refine ⟨hsplits, ?_⟩
  intro run' rest' hsplits'
  -- the loop takes the first chunks of both runs alike
  induction run generalizing body run' with
  | nil =>
      rcases run' with _ | ⟨chunk', run'⟩
      · exact le_rfl
      · rw [hsplits] at hsplits' hfits
        simp only [ChunkRun.render, List.flatMap_nil, List.nil_append, List.flatMap_cons,
          List.append_assoc] at hsplits' hfits
        rw [hsplits'] at hrest hfits
        rw [chunk'.nextChunk_render _ hfits] at hrest
        cases hrest
  | cons chunk run ih =>
      rcases run' with _ | ⟨chunk', run'⟩
      · exact Nat.zero_le _
      · simp only [ChunkRun.render, List.flatMap_cons, List.append_assoc] at hsplits hsplits'
        have hnext := chunk.nextChunk_render (ChunkRun.render run ++ rest) (hsplits ▸ hfits)
        have hnext' := chunk'.nextChunk_render (ChunkRun.render run' ++ rest') (hsplits' ▸ hfits)
        have hbody : chunk.render ++ (ChunkRun.render run ++ rest) =
            chunk'.render ++ (ChunkRun.render run' ++ rest') := hsplits.symm.trans hsplits'
        rw [hbody, hnext'] at hnext
        obtain ⟨-, htail⟩ := Prod.mk.inj (Option.some.inj hnext)
        rw [htail] at hbody
        -- what is left behind them is the same, and so are the chunks
        have hhead : chunk.render = chunk'.render := List.append_cancel_right hbody
        have hlater : (ChunkRun.render run ++ rest).length < 2 ^ 64 := by
          rw [hsplits, List.length_append] at hfits
          exact lt_of_le_of_lt (Nat.le_add_left _ _) hfits
        have hle := ih rfl hlater run' htail.symm
        unfold ChunkRun.render at hle ⊢
        rw [List.flatMap_cons, List.flatMap_cons, List.length_append, List.length_append, hhead]
        omega

/-! ## What is decoded -/

/-- The text of these octets, and no octet behind them. -/
structure DecodesTo (body data : List UInt8) : Prop where
  text : dechunk body = fromUtf8Lossy data
  octets : dechunkLoop [] body = data

/-- What the loop takes behind a run is nothing, or it is more than nothing. -/
theorem dechunkLoop_rest (data : List UInt8) {rest : List UInt8} (hfits : rest.length < 2 ^ 64) :
    (¬ TakesLoosely rest ∧ dechunkLoop data rest = data) ∨
      (TakesLoosely rest ∧ ∃ more, more ≠ [] ∧ dechunkLoop data rest = data ++ more) := by
  have hiff := nextChunk_isSome_iff hfits
  rcases hnext : nextChunk rest with _ | ⟨first, rest'⟩
  · left
    rw [hnext] at hiff
    constructor
    · intro hloose
      exact absurd (hiff.mpr hloose) (by simp)
    · exact dechunkLoop_of_none hnext
  · right
    rw [hnext] at hiff
    constructor
    · exact hiff.mp rfl
    · obtain ⟨later, hlater⟩ := isPrefix_dechunkLoop (data ++ first) rest'
      refine ⟨first ++ later, ?_, ?_⟩
      · intro hnil
        exact ne_nil_of_nextChunk hnext (List.append_eq_nil_iff.mp hnil).1
      · rw [dechunkLoop_of_some hnext, ← hlater, List.append_assoc]

/-- Every body has a longest run of well-formed chunks. It is decoded to the data of
this run if and only if what is left does not begin with a chunk that is taken all the
same; where the data ends with a whole character, one sees this from the text. -/
theorem dechunk_iff (body : List UInt8) (hfits : body.length < 2 ^ 64) :
    (∃ run rest, LongestRun body run rest) ∧
      ∀ run rest, LongestRun body run rest →
        (DecodesTo body run.data ↔ ¬ TakesLoosely rest) ∧
          ((Utf8.decode run.data).isSome →
            (dechunk body = fromUtf8Lossy run.data ↔ ¬ TakesLoosely rest)) := by
  refine ⟨exists_longestRun body, ?_⟩
  intro run rest hrun
  have hsplits := hrun.splits
  subst hsplits
  have hrest : rest.length < 2 ^ 64 := by
    rw [List.length_append] at hfits
    omega
  -- the loop takes the run, and then it depends on what is left
  have hloop := dechunkLoop_run [] run hfits
  rw [List.nil_append] at hloop
  rcases dechunkLoop_rest run.data hrest with ⟨hstops, hdata⟩ | ⟨hloose, more, hmore, hdata⟩
  · have htext : dechunk (run.render ++ rest) = fromUtf8Lossy run.data := by
      rw [dechunk, hloop, hdata]
    constructor
    · exact iff_of_true ⟨htext, hloop.trans hdata⟩ hstops
    · intro _
      exact iff_of_true htext hstops
  · constructor
    · refine iff_of_false ?_ (not_not_intro hloose)
      intro h
      have hoctets := h.octets
      rw [hloop, hdata, List.append_right_eq_self] at hoctets
      exact hmore hoctets
    · intro hwhole
      obtain ⟨text, hdecode⟩ := Option.isSome_iff_exists.mp hwhole
      refine iff_of_false ?_ (not_not_intro hloose)
      intro htext
      -- behind a whole character more octets are more text
      have hnone := Utf8.lossy_append_of_decode hdecode []
      have hlossy := Utf8.lossy_append_of_decode hdecode more
      rw [List.append_nil] at hnone
      rw [dechunk, hloop, hdata] at htext
      have heq := String.ofList_injective htext
      rw [hlossy, hnone] at heq
      exact Utf8.lossy_ne_nil hmore (List.append_cancel_left heq)

namespace GrammarScenario

def helloChunk : WellFormedChunk where
  line :=
    { digits := ['5'], blanks := [' '], extension := some (asBytes "a=b")
      nonempty := by decide
      hex := List.forall_mem_singleton.mpr (by decide)
      blank := List.forall_mem_singleton.mpr (Or.inl rfl)
      oneLine := by
        intro ext hext
        obtain rfl := Option.some.inj hext
        decide +kernel }
  data := asBytes "hello"
  nonempty := by decide +kernel
  sized := by decide +kernel
  fits := by decide

/-- A chunk, and the zero chunk behind it. -/
def hello : List UInt8 := asBytes "5 ;a=b\r\nhello\r\n0\r\n\r\n"

/-- Where the CR LF behind the data should be, there is something else. -/
def unclosed : List UInt8 := asBytes "5\r\nhelloXX0\r\n\r\n"

end GrammarScenario

open GrammarScenario in
theorem dechunk_iff_hello : DecodesTo hello (asBytes "hello") := by
  have hrun : LongestRun hello [helloChunk] (asBytes "0\r\n\r\n") :=
    .of_nextChunk (by decide +kernel) (by decide +kernel) (by decide +kernel)
  have hstops : ¬ TakesLoosely (asBytes "0\r\n\r\n") := by
    rw [← nextChunk_isSome_iff (by decide +kernel)]
    decide +kernel
  exact (((dechunk_iff hello (by decide +kernel)).2 _ _ hrun).1).mpr hstops

open GrammarScenario in
/-- No chunk of the grammar stands at the front, and yet there is a text. -/
theorem unclosed_chunk_decoded :
    LongestRun unclosed [] unclosed ∧ dechunk unclosed = "hello" ∧
      fromUtf8Lossy (ChunkRun.data []) = "" := by
  have hfits : unclosed.length < 2 ^ 64 := by decide +kernel
  have hnext : nextChunk unclosed = some (asBytes "hello", asBytes "0\r\n\r\n") := by
    decide +kernel
  have hlast : nextChunk (asBytes "0\r\n\r\n") = none := by decide +kernel
  refine ⟨⟨rfl, ?_⟩, ?_, rfl⟩
  · intro run' rest' hsplits
    rcases run' with _ | ⟨chunk, run'⟩
    · exact le_rfl
    · exfalso
      simp only [ChunkRun.render, List.flatMap_cons, List.append_assoc] at hsplits
      have htaken := chunk.nextChunk_render _ (hsplits ▸ hfits)
      rw [← hsplits, hnext] at htaken
      obtain ⟨-, htail⟩ := Prod.mk.inj (Option.some.inj htaken)
      rw [← htail] at hsplits
      -- the data of a well-formed chunk is closed
      have hclosed : crlf ++ asBytes "0\r\n\r\n" <:+ unclosed := by
        refine ⟨chunk.line.bytes ++ crlf ++ chunk.data, ?_⟩
        rw [hsplits]
        simp [WellFormedChunk.render, List.append_assoc]
      exact absurd hclosed (by decide +kernel)
  · rw [dechunk, dechunkLoop_of_some hnext, dechunkLoop_of_none hlast]
    decide +kernel

end NautiFabric
