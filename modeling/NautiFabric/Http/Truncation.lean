import NautiFabric.Http.Client
import NautiFabric.Http.Head
import NautiFabric.Lib.JsonText
import NautiFabric.Plan.Planner

/-!
# NautiFabric.Http.Truncation — a connection that is closed too early

A response that was cut in its head has no blank line, so it is no response. Cut
behind the head, it has the same head and a body that was cut: of a chunked body the
data up to some chunk, of any other one a part of the bytes, and in either case a part
of the text with one replacement character behind it at most. JSON that was cut does
not decode.
-/

namespace NautiFabric

/-! ## A body that was cut -/

/-- A chunk that is taken from a part of the input is taken from the whole of it. -/
theorem nextChunk_of_isPrefix {rest whole data rest' : List UInt8} (hpre : rest <+: whole)
    (h : nextChunk rest = some (data, rest')) :
    ∃ whole', nextChunk whole = some (data, whole') ∧ rest' <+: whole' := by
  obtain ⟨lineEnd, len, htakes⟩ := nextChunk_eq_some_iff.mp h
  obtain ⟨more, rfl⟩ := hpre
  have hwhole := htakes.whole
  refine ⟨(rest ++ more).drop (saturatingAdd (lineEnd + 2 + len) 2), ?_, ?_⟩
  · apply nextChunk_eq_some_iff.mpr
    refine ⟨lineEnd, len, Subslice.find_append (by decide) htakes.line more, ?_, htakes.pos,
      htakes.fits, ?_, ?_, rfl⟩
    · rw [List.take_append_of_le_length (by omega)]
      exact htakes.size
    · rw [List.length_append]
      omega
    · rw [List.drop_append_of_le_length (by omega), List.take_append_of_le_length, htakes.data]
      rw [List.length_drop]
      omega
  · rw [htakes.rest', List.drop_append]
    exact List.prefix_append _ _

/-- Of a part of the input the loop gets a part of the data. -/
theorem dechunkLoop_of_isPrefix {out rest whole : List UInt8} (hpre : rest <+: whole) :
    dechunkLoop out rest <+: dechunkLoop out whole := by
  -- on the length of the part; the whole follows it chunk by chunk
  induction hlength : rest.length using Nat.strong_induction_on generalizing out rest whole with
  | h n ih =>
      rcases hnext : nextChunk rest with _ | ⟨data, rest'⟩
      · rw [dechunkLoop_of_none hnext]
        exact isPrefix_dechunkLoop out whole
      · obtain ⟨whole', hwhole, hpre'⟩ := nextChunk_of_isPrefix hpre hnext
        have hlt := length_lt_of_nextChunk hnext
        rw [dechunkLoop_of_some hnext, dechunkLoop_of_some hwhole]
        exact ih _ (by omega) hpre' rfl

theorem readBody_of_isPrefix (headers : StringMap String) {body whole : List UInt8}
    (hpre : body <+: whole) :
    ∃ text, text <+: (readBody headers whole).toList ∧
      ((readBody headers body).toList = text ∨
        (readBody headers body).toList = text ++ [Utf8.replacement]) := by
  unfold readBody
  split
  · unfold dechunk fromUtf8Lossy
    simp only [String.toList_ofList]
    exact Utf8.lossy_of_isPrefix (dechunkLoop_of_isPrefix hpre)
  · unfold fromUtf8Lossy
    simp only [String.toList_ofList]
    exact Utf8.lossy_of_isPrefix hpre

/-! ## An answer that was cut -/

section Decoding

variable {N : Type} {json : PlanJson N}

/-- Of a body that was cut the same fragment is decoded, or none. -/
theorem fragment_of_isPrefix (hd : JsonText.Decodes json.fragment) (headers : StringMap String)
    {body whole : List UInt8} (hpre : body <+: whole) {fragment fragment' : PlanFragment N}
    (h : json.fragment (readBody headers whole) = .ok fragment)
    (h' : json.fragment (readBody headers body) = .ok fragment') : fragment' = fragment := by
  obtain ⟨text, htext, hsame | hreplaced⟩ := readBody_of_isPrefix headers hpre
  · rw [← hsame] at htext
    exact hd.eq_of_isPrefix h h' htext
  · -- a replacement character is no bracket
    have hclosed := hd.closed h'
    rw [hreplaced] at hclosed
    exact absurd hclosed (JsonText.not_closed_concat text (by decide) (by decide))

/-- A response whose lines end with CR LF: a status line, fields and a blank line, and
then the body, as it is or in chunks. -/
def CrlfResponse (raw : List UInt8) : Prop :=
  ∃ statusLine fields body, raw = renderHead (statusLine :: fields) ++ body

/-- What the node reads of a cut response, if it reads one: the same head, and of the
body a part. -/
theorem parseHttpResponse_of_isPrefix {raw received : List UInt8} (hraw : CrlfResponse raw)
    (hpre : received <+: raw) {response : UInt16 × StringMap String × String}
    (h : parseHttpResponse received = some response) :
    ∃ status headers body whole, body <+: whole ∧
      parseHttpResponse raw = some (status, headers, readBody headers whole) ∧
      response = (status, headers, readBody headers body) := by
  obtain ⟨statusLine, fields, whole, rfl⟩ := hraw
  by_cases hcut : received.length < (renderHead (statusLine :: fields)).length
  · -- cut in the head: no response
    have hhead : received <+: renderHead (statusLine :: fields) :=
      List.prefix_of_prefix_length_le hpre (List.prefix_append _ _) hcut.le
    rw [parseHttpResponse_of_cut hhead hcut] at h
    cases h
  · -- cut behind it: the same head
    have hhead : renderHead (statusLine :: fields) <+: received :=
      List.prefix_of_prefix_length_le (List.prefix_append _ _) hpre (Nat.not_lt.mp hcut)
    obtain ⟨body, rfl⟩ := hhead
    have hbody : body <+: whole := (List.prefix_append_right_inj _).mp hpre
    rw [parseHttpResponse_renderHead] at h ⊢
    obtain ⟨⟨status, headers⟩, hhead, hresponse⟩ := Option.map_eq_some_iff.mp h
    rw [hhead]
    exact ⟨status, headers, body, whole, hbody, rfl, hresponse.symm⟩

end Decoding

/-- If a head answers with a CRLF response that holds a fragment, and the connection
is closed before all of it has arrived, then the node gets the same fragment or an
error. -/
theorem truncated_answer {N : Type} (std : Platform N) (json : PlanJson N)
    (hd : JsonText.Decodes json.fragment) (baseUrl : String) (req : PlanRequest)
    (socket cutSocket : Socket)
    (hcrlf : ∀ request raw, socket.readToEnd request = .ok raw → CrlfResponse raw)
    (hcut : ∀ request received, cutSocket.readToEnd request = .ok received →
      ∃ raw, socket.readToEnd request = .ok raw ∧ received <+: raw)
    (fragment : PlanFragment N) (h : askHead std json socket baseUrl req = .ok fragment) :
    askHead std json cutSocket baseUrl req = .ok fragment ∨
      ∃ reject, askHead std json cutSocket baseUrl req = .error reject := by
  rcases hask : askHead std json cutSocket baseUrl req with reject | fragment'
  · exact Or.inr ⟨reject, rfl⟩
  · left
    obtain ⟨host, port, body, raw, status, headers, resp, hurl, hbody, hdelivers, hparse, -,
      hfragment⟩ := askHead_ok h
    obtain ⟨host', port', body', received, status', headers', resp', hurl', hbody',
      hdelivers', hparse', -, hfragment'⟩ := askHead_ok hask
    -- both asks send the same request
    obtain ⟨rfl, rfl⟩ := Prod.mk.inj (Except.ok.inj (hurl.symm.trans hurl'))
    obtain rfl := Except.ok.inj (hbody.symm.trans hbody')
    obtain ⟨raw', hraw', hpre⟩ := hcut _ _ hdelivers'.read
    obtain rfl := Except.ok.inj (hdelivers.read.symm.trans hraw')
    obtain ⟨status₀, headers₀, part, whole, hpart, hwhole, hreceived⟩ :=
      parseHttpResponse_of_isPrefix (hcrlf _ _ hdelivers.read) hpre hparse'
    rw [hparse] at hwhole
    simp only [Option.some.injEq, Prod.mk.injEq] at hwhole hreceived
    obtain ⟨-, -, rfl⟩ := hwhole
    obtain ⟨-, -, rfl⟩ := hreceived
    rw [fragment_of_isPrefix hd headers₀ hpart hfragment hfragment']

namespace Scenario

def fragmentText : String :=
  "\x7b\"node_id\":\"node-a\",\"role\":\"coder\",\"host_key\":\"node-b\",\"slot\":\"b1\"," ++
    "\"model_id\":\"coder-7b\",\"reason\":\"größter freier Platz\"\x7d"

def fragmentFromB : PlanFragment ℚ :=
  ⟨"node-a", "coder", "node-b", "b1", "coder-7b", "größter freier Platz", none, none⟩

/-- The JSON of one fragment. -/
def oneFragment : PlanJson ℚ where
  toString _ := .ok "\x7b\"node_id\":\"node-a\",\"role\":\"coder\"\x7d"
  fragment text :=
    if text.toList.rdropWhile JsonText.isSpace = fragmentText.toList then .ok fragmentFromB
    else .error "not the fragment"
  value _ := .error "not read"

def okLine : HeadLine := ⟨asBytes "HTTP/1.1 200 OK", by decide +kernel, by decide +kernel⟩

def okResponse : List UInt8 := renderHead [okLine] ++ asBytes fragmentText

/-- A connection over which these bytes arrive. -/
def delivers (bytes : List UInt8) : Socket where
  connect _ := .ok ()
  writeAll _ := .ok ()
  flush := .ok ()
  readToEnd _ := .ok bytes

end Scenario

open Scenario in
/-- The connection is closed inside the two bytes of an `ö`. -/
theorem truncated_answer_umlaut :
    askHead rationals oneFragment (delivers (okResponse.take 121)) "http://head" askFromA =
        .ok fragmentFromB ∨
      ∃ reject, askHead rationals oneFragment (delivers (okResponse.take 121)) "http://head"
        askFromA = .error reject := by
  refine truncated_answer rationals oneFragment (JsonText.Decodes.single (by decide +kernel))
    "http://head" askFromA (delivers okResponse) (delivers (okResponse.take 121)) ?_ ?_
    fragmentFromB ?_
  · intro request raw hraw
    obtain rfl := Except.ok.inj hraw
    exact ⟨okLine, [], asBytes fragmentText, rfl⟩
  · intro request received hreceived
    obtain rfl := Except.ok.inj hreceived
    exact ⟨okResponse, rfl, List.take_prefix _ _⟩
  · decide +kernel

end NautiFabric
