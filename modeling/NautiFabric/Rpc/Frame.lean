import Mathlib
import NautiFabric.Lib.Source

/-!
# NautiFabric.Rpc.Frame — frames on a stream

A frame is the length of a payload, as a little-endian `u32`, and the payload, a
value in JSON. The JSON codec is a parameter. What `readFrame` does is read off
the bytes of the stream alone (`readFrame_of_firstFrame`, `readFrame_of_none`),
however they come in; from this the round trip of any list of frames follows by
induction (`frames_round_trip`).
-/

namespace NautiFabric

/-! ## Bytes and lengths -/

/-- `u32::to_le_bytes` -/
def toLeBytes (n : UInt32) : List UInt8 :=
  [.ofNat n.toNat, .ofNat (n.toNat / 2 ^ 8), .ofNat (n.toNat / 2 ^ 16), .ofNat (n.toNat / 2 ^ 24)]

/-- `u32::from_le_bytes` -/
def fromLeBytes (bytes : List UInt8) : UInt32 :=
  .ofNat (bytes.foldr (fun byte rest => byte.toNat + 2 ^ 8 * rest) 0)

/-- `MAX_FRAME_BYTES` -/
def maxFrameBytes : UInt32 := 16 * 1024 * 1024

theorem length_toLeBytes (n : UInt32) : (toLeBytes n).length = 4 := rfl

theorem fromLeBytes_toLeBytes (n : UInt32) : fromLeBytes (toLeBytes n) = n := by
  have hlt := n.toNat_lt
  unfold fromLeBytes toLeBytes
  simp only [List.foldr_cons, List.foldr_nil, UInt8.toNat_ofNat']
  have hsum : n.toNat % 2 ^ 8 + 2 ^ 8 * (n.toNat / 2 ^ 8 % 2 ^ 8 + 2 ^ 8 *
      (n.toNat / 2 ^ 16 % 2 ^ 8 + 2 ^ 8 * (n.toNat / 2 ^ 24 % 2 ^ 8 + 2 ^ 8 * 0))) = n.toNat := by
    omega
  rw [hsum]
  exact UInt32.ofNat_toNat

theorem toLeBytes_fromLeBytes {header : List UInt8} (h : header.length = 4) :
    toLeBytes (fromLeBytes header) = header := by
  obtain ⟨a, b, c, d, rfl⟩ := List.length_eq_four.mp h
  have ha := a.toNat_lt
  have hb := b.toNat_lt
  have hc := c.toNat_lt
  have hd := d.toNat_lt
  have hvalue : (fromLeBytes [a, b, c, d]).toNat =
      a.toNat + 2 ^ 8 * (b.toNat + 2 ^ 8 * (c.toNat + 2 ^ 8 * d.toNat)) := by
    unfold fromLeBytes
    simp only [List.foldr_cons, List.foldr_nil, Nat.mul_zero, Nat.add_zero]
    rw [UInt32.toNat_ofNat_of_lt']
    show _ < 2 ^ 32
    omega
  unfold toLeBytes
  rw [hvalue]
  simp only [List.cons.injEq, and_true]
  refine ⟨?_, ?_, ?_, ?_⟩
  all_goals
    apply UInt8.toNat_inj.mp
    rw [UInt8.toNat_ofNat']
    omega

/-! ## The codec and its frames -/

/-- `serde_json` for values of a type. -/
structure Codec (T : Type) where
  toVec : T → Except String (List UInt8)
  fromSlice : List UInt8 → Except String T

/-- How a stream fails. -/
inductive StreamError where
  /-- the peer's application closed the connection -/
  | applicationClosed
  | connectionLost
deriving DecidableEq, Repr

inductive RpcTransportError where
  | io (error : Source.ReadError StreamError)
  | frameTooLarge (size : UInt32)
  | connectionClosed
  | json (error : String)
deriving DecidableEq

/-- The receiving side of a stream. -/
abbrev RecvStream := Source UInt8 StreamError

variable {T : Type}

/-- What `write_frame` writes. -/
def writeFrame (codec : Codec T) (value : T) : Except RpcTransportError (List UInt8) :=
  match codec.toVec value with
  | .error e => .error (.json e)
  | .ok bytes =>
    if bytes.length < 2 ^ 32 then .ok (toLeBytes (.ofNat bytes.length) ++ bytes)
    else .error (.frameTooLarge 0xFFFFFFFF)

def readFrame (codec : Codec T) (recv : RecvStream) : Except RpcTransportError T × RecvStream :=
  match recv.readExact 4 with
  | (.error .unexpectedEof, recv) => (.error .connectionClosed, recv)
  | (.error e, recv) => (.error (.io e), recv)
  | (.ok lenBytes, recv) =>
    let len := fromLeBytes lenBytes
    if len > maxFrameBytes then (.error (.frameTooLarge len), recv)
    else
      match recv.readExact len.toNat with
      | (.error e, recv) => (.error (.io e), recv)
      | (.ok buf, recv) =>
        match codec.fromSlice buf with
        | .error e => (.error (.json e), recv)
        | .ok value => (.ok value, recv)

/-- Frame after frame. -/
def writeFrames (codec : Codec T) : List T → Except RpcTransportError (List UInt8)
  | [] => .ok []
  | value :: values => do
    let frame ← writeFrame codec value
    let frames ← writeFrames codec values
    return frame ++ frames

/-- The results of the next `count` calls of `readFrame`. -/
def readFrames (codec : Codec T) : (count : ℕ) → RecvStream →
    List (Except RpcTransportError T) × RecvStream
  | 0, recv => ([], recv)
  | count + 1, recv =>
    let (result, recv) := readFrame codec recv
    let (results, recv) := readFrames codec count recv
    (result :: results, recv)

/-! ## What a read comes to -/

/-- The value of the complete frame at the front of some bytes, if there is one of
at most `maxFrameBytes` that decodes, and the bytes behind it. -/
def firstFrame (codec : Codec T) (bytes : List UInt8) : Option (T × List UInt8) :=
  let len := fromLeBytes (bytes.take 4)
  if bytes.length < 4 ∨ len > maxFrameBytes ∨ bytes.length < 4 + len.toNat then none
  else
    match codec.fromSlice ((bytes.drop 4).take len.toNat) with
    | .error _ => none
    | .ok value => some (value, bytes.drop (4 + len.toNat))

section Read

variable {codec : Codec T} {recv : RecvStream}

/-- A read of a frame, split at the length and at the payload. -/
theorem readFrame_of_firstFrame {value : T} {rest : List UInt8}
    (h : firstFrame codec recv.rest = some (value, rest)) :
    ∃ recv' : RecvStream, readFrame codec recv = (.ok value, recv') ∧ recv'.rest = rest ∧
      recv'.ending = recv.ending := by
  unfold firstFrame at h
  dsimp only at h
  split at h
  · cases h
  rename_i hcomplete
  rw [not_or, not_or] at hcomplete
  obtain ⟨hheader, hsize, hpayload⟩ := hcomplete
  obtain ⟨recv₁, hlen, hleft₁, hend₁⟩ := recv.readExact_of_le (Nat.not_lt.mp hheader)
  have hpayload₁ : (fromLeBytes (recv.rest.take 4)).toNat ≤ recv₁.rest.length := by
    rw [hleft₁, List.length_drop]
    omega
  -- both reads get all they want, however the bytes arrive
  obtain ⟨recv₂, hbuf, hleft₂, hend₂⟩ := recv₁.readExact_of_le hpayload₁
  rw [hleft₁] at hbuf hleft₂
  rw [List.drop_drop] at hleft₂
  rcases hdecode : codec.fromSlice ((recv.rest.drop 4).take
    (fromLeBytes (recv.rest.take 4)).toNat) with e | decoded
  · rw [hdecode] at h
    cases h
  · rw [hdecode] at h
    obtain ⟨rfl, rfl⟩ := Prod.mk.inj (Option.some.inj h)
    refine ⟨recv₂, ?_, hleft₂, hend₂.trans hend₁⟩
    unfold readFrame
    rw [hlen]
    dsimp only
    rw [if_neg hsize, hbuf]
    dsimp only
    rw [hdecode]

/-- A read of anything else fails, in one of four ways. -/
theorem readFrame_of_none (h : firstFrame codec recv.rest = none) :
    ∃ (e : RpcTransportError) (recv' : RecvStream), readFrame codec recv = (.error e, recv') := by
  unfold readFrame
  by_cases hheader : recv.rest.length < 4
  · -- the length is cut off
    obtain ⟨recv₁, hlen⟩ := recv.readExact_of_lt hheader
    rw [hlen]
    rcases recv.endError with _ | e
    · exact ⟨_, _, rfl⟩
    · exact ⟨_, _, rfl⟩
  obtain ⟨recv₁, hlen, hleft₁, -⟩ := recv.readExact_of_le (Nat.not_lt.mp hheader)
  rw [hlen]
  dsimp only
  by_cases hsize : fromLeBytes (recv.rest.take 4) > maxFrameBytes
  · rw [if_pos hsize]
    exact ⟨_, _, rfl⟩
  rw [if_neg hsize]
  by_cases hpayload : recv₁.rest.length < (fromLeBytes (recv.rest.take 4)).toNat
  · -- the payload is cut off
    obtain ⟨recv₂, hbuf⟩ := recv₁.readExact_of_lt hpayload
    rw [hbuf]
    exact ⟨_, _, rfl⟩
  obtain ⟨recv₂, hbuf, -, -⟩ := recv₁.readExact_of_le (Nat.not_lt.mp hpayload)
  rw [hbuf]
  dsimp only
  rcases hdecode : codec.fromSlice (recv₁.rest.take (fromLeBytes (recv.rest.take 4)).toNat)
    with e | value
  · exact ⟨_, _, rfl⟩
  · exfalso
    rw [hleft₁, List.length_drop] at hpayload
    rw [hleft₁] at hdecode
    have hcomplete : ¬ (recv.rest.length < 4 ∨ fromLeBytes (recv.rest.take 4) > maxFrameBytes ∨
        recv.rest.length < 4 + (fromLeBytes (recv.rest.take 4)).toNat) := by
      rw [not_or, not_or]
      exact ⟨hheader, hsize, by omega⟩
    unfold firstFrame at h
    dsimp only at h
    rw [if_neg hcomplete, hdecode] at h
    cases h

/-- At the orderly end of a stream. -/
theorem readFrame_end (hrest : recv.rest = []) (hending : recv.ending = none) :
    (readFrame codec recv).1 = .error .connectionClosed := by
  obtain ⟨recv₁, hlen⟩ := recv.readExact_of_lt (show recv.rest.length < 4 by simp [hrest])
  have herror : recv.endError = .unexpectedEof := by simp [Source.endError, hending]
  unfold readFrame
  rw [hlen, herror]

end Read

/-! ## Round trip -/

/-- Decoding inverts encoding. -/
def Codec.Inverts (codec : Codec T) : Prop :=
  ∀ (value : T) (bytes : List UInt8), codec.toVec value = .ok bytes →
    codec.fromSlice bytes = .ok value

/-- The value has an encoding that fits into a frame. -/
def Codec.Fits (codec : Codec T) (value : T) : Prop :=
  ∃ bytes, codec.toVec value = .ok bytes ∧ bytes.length ≤ maxFrameBytes.toNat

section RoundTrip

variable {codec : Codec T}

/-- A payload that fits, behind its length, is the first frame, whatever follows. -/
theorem firstFrame_of_payload {bytes : List UInt8} {value : T}
    (hlength : bytes.length ≤ maxFrameBytes.toNat) (hdecode : codec.fromSlice bytes = .ok value)
    (rest : List UInt8) :
    firstFrame codec (toLeBytes (.ofNat bytes.length) ++ bytes ++ rest) = some (value, rest) := by
  have hmax : maxFrameBytes.toNat = 16777216 := by decide
  have hsmall : bytes.length < 2 ^ 32 := by omega
  have hlen : (UInt32.ofNat bytes.length).toNat = bytes.length := UInt32.toNat_ofNat_of_lt' hsmall
  have hsplit : toLeBytes (.ofNat bytes.length) ++ bytes ++ rest =
      toLeBytes (.ofNat bytes.length) ++ (bytes ++ rest) := List.append_assoc _ _ _
  have hheader : (toLeBytes (.ofNat bytes.length) ++ (bytes ++ rest)).take 4 =
      toLeBytes (.ofNat bytes.length) := List.take_left' (length_toLeBytes _)
  have hbody : (toLeBytes (.ofNat bytes.length) ++ (bytes ++ rest)).drop 4 = bytes ++ rest :=
    List.drop_left' (length_toLeBytes _)
  have hcomplete : ¬ ((toLeBytes (.ofNat bytes.length) ++ (bytes ++ rest)).length < 4 ∨
      UInt32.ofNat bytes.length > maxFrameBytes ∨
      (toLeBytes (.ofNat bytes.length) ++ (bytes ++ rest)).length < 4 + bytes.length) := by
    rw [List.length_append, List.length_append, length_toLeBytes, gt_iff_lt, UInt32.lt_iff_toNat_lt,
      hlen]
    omega
  unfold firstFrame
  rw [hsplit]
  dsimp only
  rw [hheader, fromLeBytes_toLeBytes, hlen, if_neg hcomplete, ← List.drop_drop, hbody,
    List.take_left, List.drop_left, hdecode]

/-- What is written for a value is its first frame. -/
theorem firstFrame_writeFrame (hinverts : codec.Inverts) {value : T} (hfits : codec.Fits value) :
    ∃ frame, writeFrame codec value = .ok frame ∧ ∀ rest : List UInt8,
      firstFrame codec (frame ++ rest) = some (value, rest) := by
  obtain ⟨bytes, hbytes, hlength⟩ := hfits
  have hmax : maxFrameBytes.toNat = 16777216 := by decide
  have hsmall : bytes.length < 2 ^ 32 := by omega
  refine ⟨toLeBytes (.ofNat bytes.length) ++ bytes, ?_, ?_⟩
  · simp only [writeFrame, hbytes, if_pos hsmall]
  · intro rest
    exact firstFrame_of_payload hlength (hinverts value bytes hbytes) rest

/-- A read right after a write. -/
theorem readFrame_writeFrame (hinverts : codec.Inverts) {value : T} (hfits : codec.Fits value) :
    ∃ frame, writeFrame codec value = .ok frame ∧ ∀ (recv : RecvStream) (rest : List UInt8),
      recv.rest = frame ++ rest → ∃ recv' : RecvStream,
        readFrame codec recv = (.ok value, recv') ∧ recv'.rest = rest ∧
          recv'.ending = recv.ending := by
  obtain ⟨frame, hframe, hfirst⟩ := firstFrame_writeFrame hinverts hfits
  refine ⟨frame, hframe, ?_⟩
  intro recv rest hrecv
  apply readFrame_of_firstFrame
  rw [hrecv]
  exact hfirst rest

theorem writeFrames_ok (hinverts : codec.Inverts) {values : List T}
    (hfits : ∀ value ∈ values, codec.Fits value) :
    ∃ stream, writeFrames codec values = .ok stream := by
  induction values with
  | nil => exact ⟨[], rfl⟩
  | cons value values ih =>
      obtain ⟨frame, hframe, -⟩ := firstFrame_writeFrame hinverts (hfits value (by simp))
      obtain ⟨frames, hframes⟩ := ih fun v hv => hfits v (by simp [hv])
      exact ⟨frame ++ frames, by simp only [writeFrames, hframe, hframes]; rfl⟩

/-- The first `count` reads give the first `count` values and leave the frames of
the others. -/
theorem readFrames_writeFrames (hinverts : codec.Inverts) {values : List T}
    (hfits : ∀ value ∈ values, codec.Fits value) {stream rest : List UInt8} {recv : RecvStream}
    (hstream : writeFrames codec values = .ok stream) (hrecv : recv.rest = stream ++ rest)
    {count : ℕ} (hcount : count ≤ values.length) :
    ∃ (recv' : RecvStream) (remaining : List UInt8),
      readFrames codec count recv = ((values.take count).map .ok, recv') ∧
      writeFrames codec (values.drop count) = .ok remaining ∧
      recv'.rest = remaining ++ rest ∧ recv'.ending = recv.ending := by
  -- on the values; each call takes the frame of the first one
  induction values generalizing stream recv count with
  | nil =>
      have hzero : count = 0 := by simpa using hcount
      subst hzero
      exact ⟨recv, stream, rfl, hstream, hrecv, rfl⟩
  | cons value values ih =>
      cases count with
      | zero => exact ⟨recv, stream, rfl, hstream, hrecv, rfl⟩
      | succ count =>
          have hvalue := hfits value (by simp)
          have hvalues : ∀ v ∈ values, codec.Fits v := fun v hv => hfits v (by simp [hv])
          obtain ⟨frame, hframe, hread⟩ := readFrame_writeFrame hinverts hvalue
          obtain ⟨frames, hframes⟩ := writeFrames_ok hinverts hvalues
          have hboth : stream = frame ++ frames := by
            simp only [writeFrames, hframe, hframes] at hstream
            exact (Except.ok.inj hstream).symm
          rw [hboth, List.append_assoc] at hrecv
          obtain ⟨recv₁, hfirst, hleft, hend⟩ := hread recv (frames ++ rest) hrecv
          have hcount' : count ≤ values.length := by simpa using hcount
          obtain ⟨recv', remaining, hreads, hremaining, hrest, hend'⟩ :=
            ih hvalues hframes hleft hcount'
          refine ⟨recv', remaining, ?_, hremaining, hrest, hend'.trans hend⟩
          simp only [readFrames, hfirst, hreads, List.take_succ_cons, List.map_cons]

/-- Frames written one after the other are read back as the same values, each read
taking its own frame and leaving what follows; at the orderly end of the stream the
next read finds the connection closed. -/
theorem frames_round_trip (hinverts : codec.Inverts) {values : List T}
    (hfits : ∀ value ∈ values, codec.Fits value) :
    ∃ stream, writeFrames codec values = .ok stream ∧
      ∀ (recv : RecvStream) (rest : List UInt8), recv.rest = stream ++ rest →
        (∀ count ≤ values.length, ∃ remaining,
          (readFrames codec count recv).1 = (values.take count).map .ok ∧
          writeFrames codec (values.drop count) = .ok remaining ∧
          (readFrames codec count recv).2.rest = remaining ++ rest) ∧
        (rest = [] → recv.ending = none →
          (readFrame codec (readFrames codec values.length recv).2).1 =
            .error .connectionClosed) := by
  obtain ⟨stream, hstream⟩ := writeFrames_ok hinverts hfits
  refine ⟨stream, hstream, ?_⟩
  intro recv rest hrecv
  constructor
  · intro count hcount
    obtain ⟨recv', remaining, hreads, hremaining, hleft, -⟩ :=
      readFrames_writeFrames hinverts hfits hstream hrecv hcount
    rw [hreads]
    exact ⟨remaining, rfl, hremaining, hleft⟩
  · intro hrest hending
    obtain ⟨recv', remaining, hreads, hremaining, hleft, hend⟩ :=
      readFrames_writeFrames hinverts hfits hstream hrecv (Nat.le_refl values.length)
    -- after all of them nothing of the stream is left
    rw [List.drop_length] at hremaining
    have hnothing : remaining = [] := (Except.ok.inj hremaining).symm
    rw [hreads]
    apply readFrame_end
    · rw [hleft, hnothing, hrest]
      rfl
    · rw [hend, hending]

end RoundTrip

namespace Scenario

/-- JSON of the two booleans: `true` and `false`. -/
def boolCodec : Codec Bool where
  toVec value := .ok (if value then [116, 114, 117, 101] else [102, 97, 108, 115, 101])
  fromSlice bytes :=
    if bytes = [116, 114, 117, 101] then .ok true
    else if bytes = [102, 97, 108, 115, 101] then .ok false
    else .error "expected value"

theorem boolCodec_inverts : boolCodec.Inverts := by
  intro value bytes h
  cases value with
  | false =>
      obtain rfl := Except.ok.inj h
      rfl
  | true =>
      obtain rfl := Except.ok.inj h
      rfl

theorem boolCodec_fits (value : Bool) : boolCodec.Fits value := by
  cases value with
  | false => exact ⟨_, rfl, by decide⟩
  | true => exact ⟨_, rfl, by decide⟩

end Scenario

open Scenario in
theorem frames_round_trip_two :
    ∃ stream, writeFrames boolCodec [true, false] = .ok stream ∧
      ∀ (recv : RecvStream) (rest : List UInt8), recv.rest = stream ++ rest →
        (∀ count ≤ 2, ∃ remaining,
          (readFrames boolCodec count recv).1 = ([true, false].take count).map .ok ∧
          writeFrames boolCodec ([true, false].drop count) = .ok remaining ∧
          (readFrames boolCodec count recv).2.rest = remaining ++ rest) ∧
        (rest = [] → recv.ending = none →
          (readFrame boolCodec (readFrames boolCodec 2 recv).2).1 = .error .connectionClosed) :=
  frames_round_trip boolCodec_inverts fun value _ => boolCodec_fits value

end NautiFabric
