import NautiFabric.Http.Grammar
import NautiFabric.Http.Head

/-!
# NautiFabric.Http.Message — what a response is written from is read back

A `Response` is a status, fields and a body, and how the body is transferred: as it
is, or in chunks whose data is the body. `Response.render` writes it with CR LF, and
`parseHttpResponse` reads what was written.
-/

namespace NautiFabric

/-! ## Chunks -/

/-- Hexadecimal digits, and perhaps an extension behind a `;`. -/
structure SizeLine where
  digits : List Char
  extension : Option (List UInt8)
  nonempty : digits ≠ []
  hex : ∀ c ∈ digits, (toDigit 16 c).isSome
  plain : ∀ ext, extension = some ext → ∀ b ∈ ext, b ≠ 0x0D ∧ b ≠ 0x0A

namespace SizeLine

def value (size : SizeLine) : ℕ := digitsTotal 16 0 size.digits

def bytes (size : SizeLine) : List UInt8 :=
  Utf8.encode size.digits ++
    match size.extension with
    | none => []
    | some ext => 0x3B :: ext

/-- A size line of the grammar, without blanks. -/
def line (size : SizeLine) : ChunkLine where
  digits := size.digits
  blanks := []
  extension := size.extension
  nonempty := size.nonempty
  hex := size.hex
  blank := List.forall_mem_nil _
  oneLine := by
    intro ext hext hpart
    have hcr : (0x0D : UInt8) ∈ ext := hpart.subset (by decide)
    exact (size.plain ext hext _ hcr).1 rfl

theorem bytes_line (size : SizeLine) : size.line.bytes = size.bytes := by
  have hfield : size.line.field = Utf8.encode size.digits :=
    congrArg Utf8.encode (List.append_nil size.digits)
  unfold ChunkLine.bytes bytes
  rw [hfield]
  rfl

theorem chunkSize_bytes (size : SizeLine) (hfits : size.value < 2 ^ 64) :
    chunkSize size.bytes = some size.value := by
  rw [← bytes_line]
  exact size.line.chunkSize_bytes hfits

/-- The line ends at its CR LF. -/
theorem findSubslice_bytes (size : SizeLine) (rest : List UInt8) :
    findSubslice (size.bytes ++ (crlf ++ rest)) crlf = some size.bytes.length := by
  rw [← bytes_line]
  exact findSubslice_sizeLine size.line.crlf_not_isInfix_bytes rest

end SizeLine

structure Chunk where
  size : SizeLine
  data : List UInt8
  nonempty : data ≠ []
  sized : size.value = data.length

namespace Chunk

def render (chunk : Chunk) : List UInt8 := chunk.size.bytes ++ (crlf ++ (chunk.data ++ crlf))

theorem le_length_render (chunk : Chunk) : chunk.size.value ≤ chunk.render.length := by
  rw [chunk.sized]
  simp only [render, List.length_append]
  omega

def wellFormed (chunk : Chunk) (hfits : chunk.size.value < 2 ^ 64) : WellFormedChunk where
  line := chunk.size.line
  data := chunk.data
  nonempty := chunk.nonempty
  sized := chunk.sized
  fits := hfits

theorem render_wellFormed (chunk : Chunk) (hfits : chunk.size.value < 2 ^ 64) :
    (chunk.wellFormed hfits).render = chunk.render := by
  unfold WellFormedChunk.render render
  rw [← chunk.size.bytes_line]
  rfl

end Chunk

/-- Chunks, the zero chunk, and a trailer, which is not read. -/
structure ChunkedBody where
  chunks : List Chunk
  last : SizeLine
  last_zero : last.value = 0
  trailer : List UInt8

namespace ChunkedBody

def data (body : ChunkedBody) : List UInt8 := body.chunks.flatMap Chunk.data

def render (body : ChunkedBody) : List UInt8 :=
  body.chunks.flatMap Chunk.render ++ (body.last.bytes ++ (crlf ++ body.trailer))

/-- The loop stops at the zero chunk. -/
theorem nextChunk_last (body : ChunkedBody) :
    nextChunk (body.last.bytes ++ (crlf ++ body.trailer)) = none := by
  rcases hnext : nextChunk (body.last.bytes ++ (crlf ++ body.trailer)) with _ | ⟨data, rest⟩
  · rfl
  · obtain ⟨lineEnd, len, htakes⟩ := nextChunk_eq_some_iff.mp hnext
    have hline := htakes.line
    rw [body.last.findSubslice_bytes] at hline
    obtain rfl := Option.some.inj hline
    have hsize := htakes.size
    rw [List.take_left, body.last.chunkSize_bytes (by rw [body.last_zero]; decide),
      body.last_zero] at hsize
    have hpos := htakes.pos
    rw [← Option.some.inj hsize] at hpos
    exact absurd hpos (Nat.lt_irrefl 0)

/-- Chunks of a size that fits are well formed. -/
theorem exists_run (chunks : List Chunk)
    (hfits : (chunks.flatMap Chunk.render).length < 2 ^ 64) :
    ∃ run : ChunkRun, run.render = chunks.flatMap Chunk.render ∧
      run.data = chunks.flatMap Chunk.data := by
  induction chunks with
  | nil => exact ⟨[], rfl, rfl⟩
  | cons chunk chunks ih =>
      rw [List.flatMap_cons, List.length_append] at hfits
      have hle := chunk.le_length_render
      obtain ⟨run, hrender, hdata⟩ := ih (by omega)
      refine ⟨chunk.wellFormed (by omega) :: run, ?_, ?_⟩
      · rw [ChunkRun.render, List.flatMap_cons, chunk.render_wellFormed, List.flatMap_cons,
          ← hrender]
        rfl
      · rw [ChunkRun.data, List.flatMap_cons, List.flatMap_cons, ← hdata]
        rfl

theorem dechunk_render (body : ChunkedBody) (hfits : body.render.length < 2 ^ 64) :
    dechunk body.render = fromUtf8Lossy body.data := by
  unfold render at hfits ⊢
  obtain ⟨run, hrender, hdata⟩ := exists_run body.chunks (by
    rw [List.length_append] at hfits
    omega)
  rw [← hrender] at hfits ⊢
  rw [dechunk, dechunkLoop_run [] run hfits, dechunkLoop_of_none body.nextChunk_last,
    List.nil_append, hdata, data]

end ChunkedBody

/-! ## Lines of text -/

structure TextLine where
  text : List Char
  nonempty : text ≠ []
  plain : ∀ c ∈ text, c ≠ '\r' ∧ c ≠ '\n'

namespace TextLine

theorem encode_ne_nil (line : TextLine) : Utf8.encode line.text ≠ [] := by
  obtain ⟨c, text, htext⟩ := List.exists_cons_of_ne_nil line.nonempty
  intro h
  have hlength := congrArg List.length h
  rw [htext, Utf8.encode, List.flatMap_cons, List.length_append,
    String.length_utf8EncodeChar] at hlength
  have hpos := c.utf8Size_pos
  rw [List.length_nil] at hlength
  omega

def head (line : TextLine) : HeadLine where
  bytes := Utf8.encode line.text
  nonempty := line.encode_ne_nil
  plain := by
    have hcode (c : Char) (hc : c ∈ line.text) : c.toNat ≠ 13 ∧ c.toNat ≠ 10 := by
      obtain ⟨hcr, hlf⟩ := line.plain c hc
      constructor
      · intro h
        exact hcr (Char.toNat_inj.mp h)
      · intro h
        exact hlf (Char.toNat_inj.mp h)
    intro b hb
    constructor
    · rintro rfl
      refine ascii_not_mem_encode (by decide) ?_ hb
      intro c hc
      exact (hcode c hc).1
    · rintro rfl
      refine ascii_not_mem_encode (by decide) ?_ hb
      intro c hc
      exact (hcode c hc).2

/-- The text of a head. -/
def headText (lines : List TextLine) : List Char :=
  (lines.map text ++ [[]]).flatMap fun line => line ++ ['\r', '\n']

theorem renderHead_eq (lines : List TextLine) :
    renderHead (lines.map head) = Utf8.encode (headText lines) := by
  have hcrlf : Utf8.encode ['\r', '\n'] = crlf := rfl
  induction lines with
  | nil => rfl
  | cons line lines ih =>
      have hcons : headText (line :: lines) = line.text ++ ['\r', '\n'] ++ headText lines := rfl
      rw [List.map_cons, renderHead_cons, ih, hcons, Utf8.encode_append, Utf8.encode_append, hcrlf]
      rfl

theorem lines_headText (lines' : List TextLine) :
    lines (.ofList (headText lines')) = lines'.map (fun line => .ofList line.text) ++ [""] := by
  unfold headText
  rw [lines_of_crlf]
  · simp
  · intro line hline hlf
    rcases List.mem_append.mp hline with htext | hblank
    · obtain ⟨l, -, rfl⟩ := List.mem_map.mp htext
      exact (l.plain _ hlf).2 rfl
    · rw [List.mem_singleton.mp hblank] at hlf
      cases hlf

end TextLine

/-! ## Header fields -/

structure HeaderField where
  name : String
  value : String
  name_ne : name ≠ ""
  name_plain : ∀ c ∈ name.toList, c ≠ ':' ∧ c ≠ '\r' ∧ c ≠ '\n'
  name_trim : trim name = name
  value_plain : ∀ c ∈ value.toList, c ≠ '\r' ∧ c ≠ '\n'
  value_trim : trim value = value

namespace HeaderField

/-- What a field is found by. -/
def key (field : HeaderField) : String := toAsciiLowercase field.name

def line (field : HeaderField) : TextLine where
  text := field.name.toList ++ ':' :: ' ' :: field.value.toList
  nonempty := by simp
  plain := by
    intro c hc
    rcases List.mem_append.mp hc with hname | hrest
    · exact (field.name_plain c hname).2
    · rcases List.mem_cons.mp hrest with rfl | hrest
      · decide
      · rcases List.mem_cons.mp hrest with rfl | hvalue
        · decide
        · exact field.value_plain c hvalue

theorem insertField_line (headers : StringMap String) (field : HeaderField) :
    insertField headers (.ofList field.line.text) = headers.insert field.key field.value := by
  have hcolon : ':' ∉ field.name.toList := fun h => (field.name_plain _ h).1 rfl
  unfold insertField line
  dsimp only
  rw [splitOnce_append hcolon]
  dsimp only
  rw [trim_space, String.ofList_toList, String.ofList_toList, field.name_trim, field.value_trim]
  rfl

/-- The value of the last field of a name. -/
def lastValue (fields : List HeaderField) (key : String) : Option String :=
  (fields.filter fun field => field.key == key).getLast?.map value

theorem lastValue_cons (field : HeaderField) (fields : List HeaderField) (key : String) :
    lastValue (field :: fields) key =
      (lastValue fields key).or (if field.key = key then some field.value else none) := by
  unfold lastValue
  by_cases hkey : field.key = key
  · rw [List.filter_cons_of_pos (by simpa using hkey), List.getLast?_cons, if_pos hkey]
    generalize (fields.filter fun field => field.key == key).getLast? = last
    rcases last with _ | last
    · rfl
    · rfl
  · rw [List.filter_cons_of_neg (by simpa using hkey), if_neg hkey, Option.or_none]

/-- The table has the last value of each name. -/
theorem getElem?_foldl_insert (fields : List HeaderField) (headers : StringMap String)
    (key : String) :
    (fields.foldl (fun headers field => headers.insert field.key field.value) headers)[key]? =
      (lastValue fields key).or headers[key]? := by
  induction fields generalizing headers with
  | nil => simp [lastValue]
  | cons field fields ih =>
      rw [List.foldl_cons, ih, lastValue_cons, Std.ExtTreeMap.getElem?_insert, Option.or_assoc]
      by_cases hkey : field.key = key
      · simp [hkey]
      · simp [hkey]

theorem foldl_insertField (fields : List HeaderField) (headers : StringMap String) :
    (fields.map fun field => String.ofList field.line.text).foldl insertField headers =
      fields.foldl (fun headers field => headers.insert field.key field.value) headers := by
  induction fields generalizing headers with
  | nil => rfl
  | cons field fields ih =>
      rw [List.map_cons, List.foldl_cons, List.foldl_cons, insertField_line, ih]

/-- A table of fields says chunked if the last `transfer-encoding` does. -/
theorem isChunked_eq {fields : List HeaderField} {headers : StringMap String}
    (h : ∀ key : String, headers[key]? = lastValue fields key) :
    isChunked headers =
      (lastValue fields "transfer-encoding").any fun v =>
        containsStr (toAsciiLowercase v) "chunked" := by
  rw [isChunked, h]

theorem exists_of_lastValue {fields : List HeaderField} {key value : String}
    (h : lastValue fields key = some value) :
    ∃ field ∈ fields, field.key = key ∧ field.value = value := by
  obtain ⟨field, hlast, rfl⟩ := Option.map_eq_some_iff.mp h
  obtain ⟨hmem, hkey⟩ := List.mem_filter.mp (List.mem_of_getLast? hlast)
  exact ⟨field, hmem, beq_iff_eq.mp hkey, rfl⟩

theorem lastValue_isSome {fields : List HeaderField} {field : HeaderField}
    (h : field ∈ fields) : (lastValue fields field.key).isSome := by
  have hmem : field ∈ fields.filter fun f => f.key == field.key :=
    List.mem_filter.mpr ⟨h, beq_self_eq_true _⟩
  unfold lastValue
  rw [Option.isSome_map, List.getLast?_isSome]
  exact List.ne_nil_of_mem hmem

end HeaderField

/-! ## Responses -/

/-- How the octets of a body are transferred. -/
inductive Coding (data : List UInt8) where
  | identity
  | chunked (body : ChunkedBody) (holds : body.data = data)

namespace Coding

variable {data : List UInt8}

def bytes : Coding data → List UInt8
  | .identity => data
  | .chunked body _ => body.render

/-- `Transfer-Encoding` is there, as chunked, for a body in chunks and for no other. -/
def Declared : Coding data → List HeaderField → Prop
  | .identity, fields => ∀ field ∈ fields, field.key ≠ "transfer-encoding"
  | .chunked .., fields =>
    (∃ field ∈ fields, field.key = "transfer-encoding") ∧
      ∀ field ∈ fields, field.key = "transfer-encoding" →
        toAsciiLowercase field.value = "chunked"

theorem readBody_bytes (coding : Coding data) {fields : List HeaderField}
    {headers : StringMap String} (hdeclared : coding.Declared fields)
    (hheaders : ∀ key : String, headers[key]? = HeaderField.lastValue fields key)
    (hfits : coding.bytes.length < 2 ^ 64) :
    readBody headers coding.bytes = fromUtf8Lossy data := by
  unfold readBody
  rw [HeaderField.isChunked_eq hheaders]
  -- the code asks the last `transfer-encoding`; here all of them say chunked, or none is there
  rcases hlast : HeaderField.lastValue fields "transfer-encoding" with _ | value
  · cases coding with
    | identity => rfl
    | chunked body holds =>
        obtain ⟨⟨field, hmem, hkey⟩, -⟩ := hdeclared
        have hsome := HeaderField.lastValue_isSome hmem
        rw [hkey, hlast] at hsome
        cases hsome
  · obtain ⟨field, hmem, hkey, rfl⟩ := HeaderField.exists_of_lastValue hlast
    cases coding with
    | identity => exact absurd hkey (hdeclared field hmem)
    | chunked body holds =>
        have hchunked : containsStr (toAsciiLowercase field.value) "chunked" = true := by
          rw [hdeclared.2 field hmem hkey]
          decide +kernel
        rw [Option.any_some, hchunked, if_pos rfl]
        rw [bytes, body.dechunk_render hfits, holds]

end Coding

theorem digit_of_mem_toString {n : UInt16} {c : Char} (h : c ∈ (toString n).toList) :
    0x30 ≤ c.toNat ∧ c.toNat ≤ 0x39 := by
  have hmem : c ∈ Nat.toDigits 10 n.toNat := by
    have htext : toString n = String.ofList (Nat.toDigits 10 n.toNat) :=
      Nat.toString_eq_ofList_toDigits
    rwa [htext, String.toList_ofList] at h
  have hdigit := Nat.isDigit_of_mem_toDigits (by decide) (by decide) hmem
  simp only [Char.isDigit, Bool.and_eq_true, decide_eq_true_eq] at hdigit
  exact hdigit

/-- What a head is written from: its status line and its fields. -/
structure MessageHead where
  status : UInt16
  reason : String
  fields : List HeaderField
  reason_plain : ∀ c ∈ reason.toList, c ≠ '\r' ∧ c ≠ '\n'

namespace MessageHead

def statusLine (head : MessageHead) : TextLine where
  text := "HTTP/1.1".toList ++
    ' ' :: ((toString head.status).toList ++ ' ' :: head.reason.toList)
  nonempty := by simp
  plain := by
    have hversion : ∀ c ∈ "HTTP/1.1".toList, c ≠ '\r' ∧ c ≠ '\n' := by simp
    have hdigits : ∀ c ∈ (toString head.status).toList, c ≠ '\r' ∧ c ≠ '\n' := by
      intro c hc
      have hdigit := digit_of_mem_toString hc
      constructor
      · rintro rfl
        exact absurd hdigit.1 (by decide)
      · rintro rfl
        exact absurd hdigit.1 (by decide)
    intro c hc
    rcases List.mem_append.mp hc with hin | hin
    · exact hversion c hin
    · rcases List.mem_cons.mp hin with rfl | hin
      · decide
      · rcases List.mem_append.mp hin with hin | hin
        · exact hdigits c hin
        · rcases List.mem_cons.mp hin with rfl | hin
          · decide
          · exact head.reason_plain c hin

def render (head : MessageHead) : List UInt8 :=
  renderHead (head.statusLine.head :: head.fields.map fun field => field.line.head)

theorem status_of_statusLine (head : MessageHead) :
    (splitWhitespace (.ofList head.statusLine.text))[1]?.bind parseU16 =
      some head.status := by
  have hversion : ∀ c ∈ "HTTP/1.1".toList, isWhitespace c = false := by
    simp [isWhitespace]
  have hdigits : ∀ c ∈ (toString head.status).toList, isWhitespace c = false := by
    intro c hc
    have hdigit := digit_of_mem_toString hc
    simp only [isWhitespace, List.mem_cons, List.not_mem_nil, or_false]
    simp only [Bool.or_eq_false_iff, Bool.and_eq_false_iff, decide_eq_false_iff_not]
    omega
  have hne : (toString head.status).toList ≠ [] := by
    have htext : toString head.status =
        String.ofList (Nat.toDigits 10 head.status.toNat) :=
      Nat.toString_eq_ofList_toDigits
    rw [htext, String.toList_ofList]
    exact Nat.toDigits_ne_nil
  unfold statusLine
  dsimp only
  rw [splitWhitespace_append (by decide +kernel) hversion, splitWhitespace_append hne hdigits]
  rw [List.getElem?_cons_succ, List.getElem?_cons_zero, String.ofList_toList]
  exact parseU16_toString head.status

/-- The head is read as the status and the table of the fields. -/
theorem parseHead_headText (head : MessageHead) :
    parseHead (.ofList (TextLine.headText
      (head.statusLine :: head.fields.map HeaderField.line))) =
      some (head.status, head.fields.foldl
        (fun headers field => headers.insert field.key field.value) ∅) := by
  have hblank (headers : StringMap String) : insertField headers "" = headers := by
    have hnone : splitOnce ':' "" = none := by decide +kernel
    rw [insertField, hnone]
  have hfields : (head.fields.map ((fun line => String.ofList line.text) ∘
      HeaderField.line)).foldl insertField (∅ : StringMap String) = _ :=
    HeaderField.foldl_insertField head.fields ∅
  unfold parseHead
  rw [TextLine.lines_headText, List.map_cons, List.cons_append]
  dsimp only
  rw [head.status_of_statusLine]
  dsimp only
  rw [List.foldl_append, List.map_map, List.foldl_cons, List.foldl_nil, hblank, hfields]

/-- Whatever the body is, the head in front of it is read as the status and, for each name
in lower case, the value of its last field. -/
theorem parseHttpResponse_render (head : MessageHead) (body : List UInt8) :
    ∃ headers, parseHttpResponse (head.render ++ body) =
        some (head.status, headers, readBody headers body) ∧
      ∀ key : String, headers[key]? = HeaderField.lastValue head.fields key := by
  have hheaders (key : String) : (head.fields.foldl
      (fun headers field => headers.insert field.key field.value) (∅ : StringMap String))[key]? =
        HeaderField.lastValue head.fields key := by
    rw [HeaderField.getElem?_foldl_insert, Std.ExtTreeMap.getElem?_empty, Option.or_none]
  have hhead := TextLine.renderHead_eq (head.statusLine :: head.fields.map HeaderField.line)
  rw [List.map_cons, List.map_map] at hhead
  refine ⟨_, ?_, hheaders⟩
  -- the head is found, decoded, and read line by line
  rw [render, parseHttpResponse_renderHead]
  rw [show (head.fields.map fun field => field.line.head) =
    head.fields.map (TextLine.head ∘ HeaderField.line) from rfl, hhead]
  rw [fromUtf8_encode, Option.bind_some, head.parseHead_headText, Option.map_some]

end MessageHead

structure Response where
  status : UInt16
  reason : String
  fields : List HeaderField
  body : String
  coding : Coding (asBytes body)
  reason_plain : ∀ c ∈ reason.toList, c ≠ '\r' ∧ c ≠ '\n'
  declared : coding.Declared fields

namespace Response

def head (response : Response) : MessageHead :=
  ⟨response.status, response.reason, response.fields, response.reason_plain⟩

def statusLine (response : Response) : TextLine where
  text := "HTTP/1.1".toList ++
    ' ' :: ((toString response.status).toList ++ ' ' :: response.reason.toList)
  nonempty := response.head.statusLine.nonempty
  plain := response.head.statusLine.plain

def render (response : Response) : List UInt8 :=
  renderHead (response.statusLine.head :: response.fields.map fun field => field.line.head) ++
    response.coding.bytes

/-- A response that was written is read back: the status, for each name in lower case
the value of its last field, and the body. It is read from a slice, whose length fits
into a `usize`. -/
theorem parse_render (response : Response) (hfits : response.render.length < 2 ^ 64) :
    ∃ headers, parseHttpResponse response.render =
        some (response.status, headers, response.body) ∧
      ∀ key : String, headers[key]? = HeaderField.lastValue response.fields key := by
  obtain ⟨headers, hparse, hheaders⟩ := response.head.parseHttpResponse_render response.coding.bytes
  have hbody : response.coding.bytes.length < 2 ^ 64 := by
    rw [render, List.length_append] at hfits
    omega
  refine ⟨headers, ?_, hheaders⟩
  rw [response.coding.readBody_bytes response.declared hheaders hbody,
    fromUtf8Lossy_asBytes] at hparse
  exact hparse

end Response

namespace Scenario

def chunkedField : HeaderField where
  name := "Transfer-Encoding"
  value := "Chunked"
  name_ne := by decide
  name_plain := by simp
  name_trim := by decide +kernel
  value_plain := by simp
  value_trim := by decide +kernel

/-- `03;a=1` -/
def firstSize : SizeLine where
  digits := ['0', '3']
  extension := some [0x61, 0x3D, 0x31]
  nonempty := by decide
  hex := by simp [toDigit]
  plain := by
    intro ext hext
    obtain rfl := Option.some.inj hext
    simp

def plainSize (digit : Char) (h : (toDigit 16 digit).isSome) : SizeLine where
  digits := [digit]
  extension := none
  nonempty := by simp
  hex := by simpa using h
  plain := by simp

/-- The two octets of the `ü` are in different chunks. -/
def gruen : ChunkedBody where
  chunks := [⟨firstSize, [0x67, 0x72, 0xC3], by decide, by decide⟩,
    ⟨plainSize '2' (by decide), [0xBC, 0x6E], by decide, by decide⟩]
  last := plainSize '0' (by decide)
  last_zero := by decide
  trailer := crlf

def gruenResponse : Response where
  status := 200
  reason := "OK"
  fields := [chunkedField]
  body := "grün"
  coding := .chunked gruen (by decide +kernel)
  reason_plain := by simp
  declared := by
    constructor
    · exact ⟨chunkedField, by simp, by decide +kernel⟩
    · intro field hfield _
      rw [List.mem_singleton.mp hfield]
      decide +kernel

end Scenario

open Scenario in
theorem parse_render_gruen :
    ∃ headers, parseHttpResponse gruenResponse.render = some (200, headers, "grün") ∧
      ∀ key : String, headers[key]? = HeaderField.lastValue [chunkedField] key :=
  gruenResponse.parse_render (by decide +kernel)

end NautiFabric
