import NautiFabric.Lib.Utf8
import NautiFabric.Rpc.Dispatch
import NautiFabric.Rpc.Frame

/-!
# NautiFabric.Rpc.Limits — how long a frame may be

The writer's limit is what a `u32` can hold, the reader's is `maxFrameBytes`. A read
is refused by length exactly when the length in front is above the reader's limit
(`readFrame_frameTooLarge_iff`); so the frames between the two limits are those that
are written and refused.
-/

namespace NautiFabric

variable {T : Type} {codec : Codec T}

theorem writeFrame_eq_ok_iff {value : T} {frame : List UInt8} :
    writeFrame codec value = .ok frame ↔
      ∃ bytes, codec.toVec value = .ok bytes ∧ bytes.length < 2 ^ 32 ∧
        frame = toLeBytes (.ofNat bytes.length) ++ bytes := by
  unfold writeFrame
  rcases hbytes : codec.toVec value with e | bytes
  · simp
  · by_cases hsmall : bytes.length < 2 ^ 32
    · simp only [if_pos hsmall, Except.ok.injEq]
      constructor
      · intro h
        exact ⟨bytes, rfl, hsmall, h.symm⟩
      · rintro ⟨_, rfl, -, rfl⟩
        rfl
    · simp only [if_neg hsmall, reduceCtorEq, Except.ok.injEq, false_iff]
      rintro ⟨_, rfl, h, -⟩
      exact hsmall h

/-- A read is refused by length on account of the length in front alone. -/
theorem readFrame_frameTooLarge_iff {recv : RecvStream} {size : UInt32} :
    (readFrame codec recv).1 = .error (.frameTooLarge size) ↔
      4 ≤ recv.rest.length ∧ fromLeBytes (recv.rest.take 4) = size ∧ maxFrameBytes < size := by
  unfold readFrame
  by_cases hheader : 4 ≤ recv.rest.length
  · obtain ⟨recv₁, hlen, -, -⟩ := recv.readExact_of_le hheader
    rw [hlen]
    dsimp only
    by_cases hsize : fromLeBytes (recv.rest.take 4) > maxFrameBytes
    · rw [if_pos hsize]
      constructor
      · intro h
        obtain rfl := RpcTransportError.frameTooLarge.inj (Except.error.inj h)
        exact ⟨hheader, rfl, hsize⟩
      · rintro ⟨-, rfl, -⟩
        rfl
    · rw [if_neg hsize]
      -- no other way out of a read has this error
      constructor
      · intro h
        split at h
        · cases h
        · split at h <;> cases h
      · rintro ⟨-, h, hlarge⟩
        rw [← h] at hlarge
        exact absurd hlarge hsize
  · obtain ⟨recv₁, hlen⟩ := recv.readExact_of_lt (Nat.lt_of_not_le hheader)
    rw [hlen]
    rcases recv.endError with _ | e
    · simp [hheader]
    · simp [hheader]

/-- The frame of a payload between the two limits is refused. -/
theorem readFrame_of_between {bytes : List UInt8} (hlarge : maxFrameBytes.toNat < bytes.length)
    (hsmall : bytes.length < 2 ^ 32) {recv : RecvStream}
    (hrecv : recv.rest = toLeBytes (.ofNat bytes.length) ++ bytes) :
    (readFrame codec recv).1 = .error (.frameTooLarge (.ofNat bytes.length)) := by
  apply readFrame_frameTooLarge_iff.mpr
  rw [hrecv]
  refine ⟨?_, ?_, ?_⟩
  · rw [List.length_append, length_toLeBytes]
    omega
  · rw [List.take_left' (length_toLeBytes _), fromLeBytes_toLeBytes]
  · rw [UInt32.lt_iff_toNat_lt, UInt32.toNat_ofNat_of_lt' hsmall]
    exact hlarge

/-- A value is written and its frame not refused by length exactly when its encoding
does not lie between the two limits. -/
theorem written_not_too_large_iff (codec : Codec T) (value : T) :
    (∀ frame, writeFrame codec value = .ok frame →
      ∀ (recv : RecvStream) (rest : List UInt8) (size : UInt32), recv.rest = frame ++ rest →
        (readFrame codec recv).1 ≠ .error (.frameTooLarge size)) ↔
      ∀ bytes, codec.toVec value = .ok bytes →
        bytes.length ≤ maxFrameBytes.toNat ∨ 2 ^ 32 ≤ bytes.length := by
  constructor
  · intro hread bytes hbytes
    by_contra hbetween
    rw [not_or, Nat.not_le, Nat.not_le] at hbetween
    obtain ⟨hlarge, hsmall⟩ := hbetween
    have hframe := writeFrame_eq_ok_iff.mpr ⟨bytes, hbytes, hsmall, rfl⟩
    let recv : RecvStream := ⟨toLeBytes (.ofNat bytes.length) ++ bytes, fun _ => 0, 0, none⟩
    have hrefused : (readFrame codec recv).1 = _ := readFrame_of_between hlarge hsmall rfl
    exact hread _ hframe recv [] _ (List.append_nil _).symm hrefused
  · intro hencoding frame hframe recv rest size hrecv hrefused
    obtain ⟨bytes, hbytes, hsmall, rfl⟩ := writeFrame_eq_ok_iff.mp hframe
    obtain ⟨-, hsize, hlarge⟩ := readFrame_frameTooLarge_iff.mp hrefused
    rw [hrecv, List.append_assoc, List.take_left' (length_toLeBytes _),
      fromLeBytes_toLeBytes] at hsize
    rw [← hsize, UInt32.lt_iff_toNat_lt, UInt32.toNat_ofNat_of_lt' hsmall] at hlarge
    rcases hencoding bytes hbytes with h | h
    · omega
    · omega

namespace Scenario

/-- What stands around the id in the JSON of an inventory of one GPU. -/
def beforeId : List Char := "\x7b\"Inventory\":[\x7b\"id\":\"".toList

def afterId : List Char :=
  ("\",\"kind\":\"Gpu\",\"capacity\":1,\"unit\":\"device\",\"node\":\"far\"," ++
    "\"state\":\"Available\",\"exclusive\":true,\"attributes\":\x7b\x7d\x7d]\x7d").toList

def gpuNamed (id : String) : Resource where
  id := id
  kind := .gpu
  capacity := 1
  unit := "device"
  node := "far"
  state := .available
  exclusive := true
  attributes := ∅

/-- The JSON of inventories that hold one such GPU. -/
def inventoryCodec : Codec RpcResponse where
  toVec
    | .inventory [gpu] =>
      if gpu = gpuNamed gpu.id then .ok (Utf8.encode (beforeId ++ gpu.id.toList ++ afterId))
      else .error "not rendered"
    | _ => .error "not rendered"
  fromSlice _ := .error "not read"

def longId (size : ℕ) : String := .ofList (List.replicate size 'x')

theorem inventoryCodec_toVec (id : String) : inventoryCodec.toVec (.inventory [gpuNamed id]) =
    .ok (Utf8.encode (beforeId ++ id.toList ++ afterId)) := by
  have hnamed : gpuNamed id = gpuNamed (gpuNamed id).id := rfl
  exact if_pos hnamed

theorem longId_encoding (size : ℕ) : ∃ bytes,
    inventoryCodec.toVec (.inventory [gpuNamed (longId size)]) = .ok bytes ∧
      bytes.length = size + 133 := by
  refine ⟨_, inventoryCodec_toVec (longId size), ?_⟩
  have hid : (longId size).toList = List.replicate size 'x' := by simp [longId]
  have hbefore : beforeId.all (fun c => c.toNat < 0x80) = true := by decide +kernel
  have hafter : afterId.all (fun c => c.toNat < 0x80) = true := by decide +kernel
  have hascii : ∀ c ∈ beforeId ++ (longId size).toList ++ afterId, c.toNat < 0x80 := by
    intro c hc
    rw [hid, List.mem_append, List.mem_append] at hc
    rcases hc with (hc | hc) | hc
    · exact of_decide_eq_true (List.all_eq_true.mp hbefore c hc)
    · rw [List.eq_of_mem_replicate hc]
      decide
    · exact of_decide_eq_true (List.all_eq_true.mp hafter c hc)
  have hbeforeLength : beforeId.length = 21 := by decide +kernel
  have hafterLength : afterId.length = 112 := by decide +kernel
  rw [Utf8.encode_of_ascii hascii, List.length_map, List.length_append, List.length_append, hid,
    List.length_replicate, hbeforeLength, hafterLength]
  omega

end Scenario

open Scenario in
/-- The inventory of one GPU with an id of 16 MiB is written, and its reader refuses it. -/
theorem inventory_written_too_large :
    ¬ ∀ (codec : Codec RpcResponse) (value : RpcResponse) (frame : List UInt8),
      writeFrame codec value = .ok frame →
        ∀ (recv : RecvStream) (rest : List UInt8) (size : UInt32), recv.rest = frame ++ rest →
          (readFrame codec recv).1 ≠ .error (.frameTooLarge size) := by
  intro hall
  obtain ⟨bytes, hbytes, hlength⟩ := longId_encoding (16 * 1024 * 1024)
  have hmax : maxFrameBytes.toNat = 16 * 1024 * 1024 := by decide
  have hlarge : maxFrameBytes.toNat < bytes.length := by omega
  have hsmall : bytes.length < 2 ^ 32 := by omega
  have hframe := writeFrame_eq_ok_iff.mpr ⟨bytes, hbytes, hsmall, rfl⟩
  let recv : RecvStream := ⟨toLeBytes (.ofNat bytes.length) ++ bytes, fun _ => 0, 0, none⟩
  have hrefused : (readFrame inventoryCodec recv).1 = _ := readFrame_of_between hlarge hsmall rfl
  exact hall _ _ _ hframe recv [] _ (List.append_nil _).symm hrefused

end NautiFabric
