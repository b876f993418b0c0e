import NautiFabric.Rpc.Frame

/-!
# NautiFabric.Vhost.Entropy — random bytes from another host

A client sends lengths, four bytes each with the most significant byte first, and the
server answers each with that many random bytes. Both sides have the same limits, and
each checks them for itself.

* `serve_conn` is a loop over the connection; `serveLoop_run` says what it makes of a run
  of requests within the limits, and `LongestRequests` which run that is.
* `entropy_fetch` is one request; the network is an `EntropyDial`, with the server at its
  other end in `ServedBy`.
-/

namespace NautiFabric

/-! ## Lengths on the wire -/

/-- `u32::to_be_bytes` -/
def toBeBytes (n : UInt32) : List UInt8 :=
  [.ofNat (n.toNat / 2 ^ 24), .ofNat (n.toNat / 2 ^ 16), .ofNat (n.toNat / 2 ^ 8), .ofNat n.toNat]

/-- `u32::from_be_bytes` -/
def fromBeBytes (bytes : List UInt8) : UInt32 :=
  .ofNat (bytes.foldl (fun value byte => 2 ^ 8 * value + byte.toNat) 0)

/-- `MAX_REQUEST_BYTES` -/
def maxRequestBytes : UInt32 := (1 : UInt32) <<< 20

inductive EntropyError where
  | connect (addr error : String)
  | protocol (detail : String)
  | io (error : String)
deriving DecidableEq, Repr

def outsideLimits (len : UInt32) : EntropyError :=
  .protocol s!"requested length {len} outside 1..={maxRequestBytes}"

/-! ## The server -/

/-- `/dev/urandom` as one connection reads it. -/
structure Urandom where
  openFile : Except String Unit
  /-- what comes behind the bytes that were read already -/
  readExact : (already count : ℕ) → Except String (List UInt8)

/-- A connection, from the server's side. -/
structure EntropyConn where
  recv : Source UInt8 String
  sent : List UInt8
  /-- how a write of these bytes ends, behind those sent, and what of them goes out -/
  write : (sent bytes : List UInt8) → Except String Unit × List UInt8

structure EntropyServer where
  conn : EntropyConn
  /-- the bytes of `/dev/urandom` that were read -/
  already : ℕ

/-- One turn of the loop; `None` where the loop goes on. -/
def serveTurn (urandom : Urandom) (s : EntropyServer) :
    Option (Except EntropyError Unit) × EntropyServer :=
  match s.conn.recv.readExact 4 with
  -- a clean disconnect between requests
  | (.error .unexpectedEof, recv) => (some (.ok ()), { s with conn := { s.conn with recv } })
  | (.error (.failed e), recv) => (some (.error (.io e)), { s with conn := { s.conn with recv } })
  | (.ok lenBuf, recv) =>
    let len := fromBeBytes lenBuf
    if len = 0 ∨ maxRequestBytes < len then
      (some (.error (outsideLimits len)), { s with conn := { s.conn with recv } })
    else
      match urandom.readExact s.already len.toNat with
      | .error e => (some (.error (.io e)), { s with conn := { s.conn with recv } })
      | .ok buf =>
        match s.conn.write s.conn.sent buf with
        | (.error e, out) =>
          (some (.error (.io e)),
            ⟨{ s.conn with recv, sent := s.conn.sent ++ out }, s.already + len.toNat⟩)
        | (.ok (), out) =>
          (none, ⟨{ s.conn with recv, sent := s.conn.sent ++ out }, s.already + len.toNat⟩)

/-- A turn that does not end the loop reads four bytes, so more turns than bytes are
enough. -/
def serveLoop (urandom : Urandom) : (turns : ℕ) → EntropyServer →
    Except EntropyError Unit × EntropyServer
  | 0, s => (.ok (), s)
  | turns + 1, s =>
    match serveTurn urandom s with
    | (some result, s) => (result, s)
    | (none, s) => serveLoop urandom turns s

/-- What it returns, and what it has sent. -/
def serveConn (urandom : Urandom) (conn : EntropyConn) :
    Except EntropyError Unit × List UInt8 :=
  match urandom.openFile with
  | .error e => (.error (.io e), conn.sent)
  | .ok () =>
    let (result, s) := serveLoop urandom (conn.recv.rest.length + 1) ⟨conn, 0⟩
    (result, s.conn.sent)

/-! ## The client -/

/-- The network, as a client sees it. -/
structure EntropyDial where
  connect : (addr : String) → Except String Unit
  setReadTimeout : (deadline : ℕ) → Except String Unit
  setWriteTimeout : (deadline : ℕ) → Except String Unit
  /-- how a write ends, and what of the bytes goes out -/
  writeAll : List UInt8 → Except String Unit × List UInt8
  /-- what comes back, once these bytes were sent -/
  reply : List UInt8 → Source UInt8 String

def ioError : Source.ReadError String → EntropyError
  | .unexpectedEof => .io "failed to fill whole buffer"
  | .failed e => .io e

/-- What it returns, and what it has put on the wire. -/
def entropyFetch (dial : EntropyDial) (addr : String) (len : UInt32) (deadline : ℕ) :
    Except EntropyError (List UInt8) × List UInt8 :=
  if len = 0 ∨ maxRequestBytes < len then (.error (outsideLimits len), [])
  else
    match dial.connect addr with
    | .error e => (.error (.connect addr e), [])
    | .ok () =>
      match dial.setReadTimeout deadline with
      | .error e => (.error (.io e), [])
      | .ok () =>
        match dial.setWriteTimeout deadline with
        | .error e => (.error (.io e), [])
        | .ok () =>
          match dial.writeAll (toBeBytes len) with
          | (.error e, out) => (.error (.io e), out)
          | (.ok (), out) =>
            match ((dial.reply out).readExact len.toNat).1 with
            | .error e => (.error (ioError e), out)
            | .ok buf => (.ok buf, out)

/-! ## Runs of requests -/

@[simp] theorem length_toBeBytes (n : UInt32) : (toBeBytes n).length = 4 := rfl

theorem fromBeBytes_toBeBytes (n : UInt32) : fromBeBytes (toBeBytes n) = n := by
  have hlt := n.toNat_lt
  have hvalue : 2 ^ 8 * (2 ^ 8 * (2 ^ 8 * (2 ^ 8 * 0 + n.toNat / 2 ^ 24 % 2 ^ 8) +
      n.toNat / 2 ^ 16 % 2 ^ 8) + n.toNat / 2 ^ 8 % 2 ^ 8) + n.toNat % 2 ^ 8 = n.toNat := by
    omega
  unfold fromBeBytes toBeBytes
  simp only [List.foldl_cons, List.foldl_nil, UInt8.toNat_ofNat']
  rw [hvalue]
  exact UInt32.ofNat_toNat

theorem toBeBytes_fromBeBytes {bytes : List UInt8} (h : bytes.length = 4) :
    toBeBytes (fromBeBytes bytes) = bytes := by
  have hlength : bytes.reverse.length = 4 := by rw [List.length_reverse, h]
  have hreverse (n : UInt32) : toBeBytes n = (toLeBytes n).reverse := rfl
  have hfrom : fromBeBytes bytes = fromLeBytes bytes.reverse := by
    unfold fromBeBytes fromLeBytes
    rw [List.foldr_reverse]
    congr 2
    funext value byte
    omega
  rw [hreverse, hfrom, toLeBytes_fromLeBytes hlength, List.reverse_reverse]

/-- What both sides take for a length. -/
def InLimits (len : UInt32) : Prop := 1 ≤ len ∧ len ≤ maxRequestBytes

instance : DecidablePred InLimits := fun len => inferInstanceAs (Decidable (1 ≤ len ∧ _))

theorem inLimits_iff {len : UInt32} : InLimits len ↔ ¬ (len = 0 ∨ maxRequestBytes < len) := by
  unfold InLimits
  rw [not_or, UInt32.not_lt]
  refine and_congr_left fun _ => ?_
  rw [UInt32.le_iff_toNat_le, ← UInt32.toNat_inj]
  show 1 ≤ len.toNat ↔ ¬ len.toNat = 0
  omega

/-- The longest run of complete requests within the limits, and what stands behind it. -/
structure LongestRequests (bytes : List UInt8) (lens : List UInt32) (rest : List UInt8) :
    Prop where
  splits : bytes = lens.flatMap toBeBytes ++ rest
  inLimits : ∀ len ∈ lens, InLimits len
  longest : ∀ lens' rest', bytes = lens'.flatMap toBeBytes ++ rest' →
    (∀ len ∈ lens', InLimits len) → lens' <+: lens

/-- No request within the limits is at the front: too few bytes, or another length. -/
def NoRequest (rest : List UInt8) : Prop :=
  rest.length < 4 ∨ ¬ InLimits (fromBeBytes (rest.take 4))

/-- Otherwise the first four bytes are one. -/
theorem exists_request {bytes : List UInt8} (h : ¬ NoRequest bytes) :
    ∃ len more, bytes = toBeBytes len ++ more ∧ InLimits len := by
  unfold NoRequest at h
  rw [not_or, not_lt, not_not] at h
  have hheader : (bytes.take 4).length = 4 := by
    rw [List.length_take]
    omega
  refine ⟨fromBeBytes (bytes.take 4), bytes.drop 4, ?_, h.2⟩
  rw [toBeBytes_fromBeBytes hheader, List.take_append_drop]

theorem LongestRequests.noRequest {bytes : List UInt8} {lens : List UInt32} {rest : List UInt8}
    (h : LongestRequests bytes lens rest) : NoRequest rest := by
  by_contra hrequest
  obtain ⟨len, more, hrest, hlimits⟩ := exists_request hrequest
  -- it would belong to the run
  have hlonger : lens ++ [len] <+: lens := by
    refine h.longest _ more ?_ ?_
    · rw [h.splits, hrest, List.flatMap_append, List.flatMap_singleton, List.append_assoc]
    · intro l hl
      rcases List.mem_append.mp hl with hl | hl
      · exact h.inLimits l hl
      · rwa [List.mem_singleton.mp hl]
  have hle := hlonger.length_le
  rw [List.length_append, List.length_singleton] at hle
  omega

/-- A run that nothing follows which belongs to it has every run in front of it. -/
theorem prefix_of_noRequest {lens lens' : List UInt32} {rest rest' : List UInt8}
    (hrest : NoRequest rest)
    (hsplits : lens.flatMap toBeBytes ++ rest = lens'.flatMap toBeBytes ++ rest')
    (hlimits : ∀ len ∈ lens', InLimits len) : lens' <+: lens := by
  induction lens' generalizing lens with
  | nil => exact List.nil_prefix
  | cons len' lens' ih =>
    have hlimit := hlimits len' List.mem_cons_self
    rw [List.flatMap_cons, List.append_assoc] at hsplits
    rcases lens with _ | ⟨len, lens⟩
    · -- the run ends where this request would be
      have hfront : rest = toBeBytes len' ++ (lens'.flatMap toBeBytes ++ rest') := hsplits
      rcases hrest with hshort | hother
      · rw [hfront, List.length_append, length_toBeBytes] at hshort
        omega
      · rw [hfront, List.take_left' (length_toBeBytes len'), fromBeBytes_toBeBytes] at hother
        exact absurd hlimit hother
    · rw [List.flatMap_cons, List.append_assoc] at hsplits
      obtain ⟨hlen, htail⟩ := List.append_inj hsplits rfl
      have heq : len = len' := by
        rw [← fromBeBytes_toBeBytes len, hlen, fromBeBytes_toBeBytes]
      rw [heq, List.cons_prefix_cons]
      exact ⟨rfl, ih htail fun l hl => hlimits l (List.mem_cons_of_mem _ hl)⟩

theorem LongestRequests.of_noRequest {lens : List UInt32} {rest : List UInt8}
    (hlimits : ∀ len ∈ lens, InLimits len) (hrest : NoRequest rest) :
    LongestRequests (lens.flatMap toBeBytes ++ rest) lens rest where
  splits := rfl
  inLimits := hlimits
  longest _ _ hsplits hlimits' := prefix_of_noRequest hrest hsplits hlimits'

theorem exists_longestRequests (bytes : List UInt8) :
    ∃ lens rest, LongestRequests bytes lens rest := by
  induction hsize : bytes.length using Nat.strong_induction_on generalizing bytes with
  | _ size ih =>
    by_cases hrest : NoRequest bytes
    · exact ⟨[], bytes, .of_noRequest (List.forall_mem_nil _) hrest⟩
    · obtain ⟨len, more, hfront, hlimits⟩ := exists_request hrest
      have hless : more.length < size := by
        rw [← hsize, hfront, List.length_append, length_toBeBytes]
        omega
      obtain ⟨lens, rest, hrun⟩ := ih more.length hless more rfl
      have hlonger := LongestRequests.of_noRequest
        (List.forall_mem_cons.mpr ⟨hlimits, hrun.inLimits⟩) hrun.noRequest
      rw [List.flatMap_cons, List.append_assoc, ← hrun.splits, ← hfront] at hlonger
      exact ⟨len :: lens, rest, hlonger⟩

/-! ## What is sent back -/

/-- `/dev/urandom` never fails, and is the sequence `byte`. -/
structure Urandom.NeverFails (urandom : Urandom) (byte : ℕ → UInt8) : Prop where
  opens : urandom.openFile = .ok ()
  reads : ∀ already count,
    urandom.readExact already count = .ok ((List.range' already count).map byte)

/-- The client takes what it is sent. -/
def EntropyConn.TakesAll (conn : EntropyConn) : Prop :=
  ∀ sent bytes, conn.write sent bytes = (.ok (), bytes)

/-- How the server ends at these bytes. -/
def endOf (ending : Option String) (rest : List UInt8) : Except EntropyError Unit :=
  if rest.length < 4 then
    match ending with
    | none => .ok ()
    | some e => .error (.io e)
  else .error (outsideLimits (fromBeBytes (rest.take 4)))

section Server

variable {urandom : Urandom} {byte : ℕ → UInt8} (hurandom : urandom.NeverFails byte)

omit hurandom in
theorem serveTurn_of_noRequest (urandom : Urandom) (s : EntropyServer)
    (h : NoRequest s.conn.recv.rest) :
    ∃ s', serveTurn urandom s = (some (endOf s.conn.recv.ending s.conn.recv.rest), s') ∧
      s'.conn.sent = s.conn.sent := by
  unfold serveTurn endOf
  by_cases hshort : s.conn.recv.rest.length < 4
  · obtain ⟨recv, hread⟩ := s.conn.recv.readExact_of_lt hshort
    rw [hread, if_pos hshort]
    unfold Source.endError
    rcases s.conn.recv.ending with _ | e
    · exact ⟨_, rfl, rfl⟩
    · exact ⟨_, rfl, rfl⟩
  · obtain ⟨recv, hread, -, -⟩ := s.conn.recv.readExact_of_le (Nat.le_of_not_lt hshort)
    have houtside := h.resolve_left hshort
    rw [inLimits_iff, not_not] at houtside
    rw [hread, if_neg hshort]
    dsimp only
    rw [if_pos houtside]
    exact ⟨_, rfl, rfl⟩

include hurandom

theorem serveTurn_of_request {s : EntropyServer} {len : UInt32} {more : List UInt8}
    (htakes : s.conn.TakesAll) (hrest : s.conn.recv.rest = toBeBytes len ++ more)
    (hlimits : InLimits len) :
    ∃ s', serveTurn urandom s = (none, s') ∧ s'.conn.TakesAll ∧ s'.conn.recv.rest = more ∧
      s'.conn.recv.ending = s.conn.recv.ending ∧ s'.already = s.already + len.toNat ∧
      s'.conn.sent = s.conn.sent ++ (List.range' s.already len.toNat).map byte := by
  have hlength : 4 ≤ s.conn.recv.rest.length := by
    rw [hrest, List.length_append, length_toBeBytes]
    omega
  obtain ⟨recv, hread, hleft, hending⟩ := s.conn.recv.readExact_of_le hlength
  rw [hrest, List.drop_left' (length_toBeBytes len)] at hleft
  unfold serveTurn
  rw [hread, hrest, List.take_left' (length_toBeBytes len)]
  dsimp only
  rw [fromBeBytes_toBeBytes, if_neg (inLimits_iff.mp hlimits), hurandom.reads]
  dsimp only
  rw [htakes]
  exact ⟨_, rfl, htakes, hleft, hending, rfl, rfl⟩

/-- The loop answers the whole run, and ends behind it. -/
theorem serveLoop_run {lens : List UInt32} {rest : List UInt8} (hrest : NoRequest rest)
    (hlimits : ∀ len ∈ lens, InLimits len) {turns : ℕ} (hturns : lens.length < turns)
    {s : EntropyServer} (htakes : s.conn.TakesAll)
    (hbytes : s.conn.recv.rest = lens.flatMap toBeBytes ++ rest) :
    (serveLoop urandom turns s).1 = endOf s.conn.recv.ending rest ∧
      (serveLoop urandom turns s).2.conn.sent = s.conn.sent ++
        (List.range' s.already (lens.map UInt32.toNat).sum).map byte := by
  -- induction on the run: one turn of the loop for each request, and one to end
  induction lens generalizing turns s with
  | nil =>
    obtain ⟨turns, rfl⟩ := Nat.exists_eq_add_one_of_ne_zero (Nat.ne_zero_of_lt hturns)
    have hnone : s.conn.recv.rest = rest := hbytes
    obtain ⟨s', hturn, hsent⟩ := serveTurn_of_noRequest urandom s (hnone ▸ hrest)
    unfold serveLoop
    rw [hturn, hnone]
    refine ⟨rfl, ?_⟩
    simpa using hsent
  | cons len lens ih =>
    obtain ⟨turns, rfl⟩ := Nat.exists_eq_add_one_of_ne_zero (Nat.ne_zero_of_lt hturns)
    rw [List.flatMap_cons, List.append_assoc] at hbytes
    obtain ⟨s', hturn, htakes', hleft, hending, halready, hsent⟩ :=
      serveTurn_of_request hurandom htakes hbytes (hlimits len List.mem_cons_self)
    have hloop := ih (fun l hl => hlimits l (List.mem_cons_of_mem _ hl))
      (Nat.lt_of_succ_lt_succ hturns) htakes' hleft
    unfold serveLoop
    rw [hturn]
    dsimp only
    rw [hloop.1, hloop.2, hending, hsent, halready, List.map_cons, List.sum_cons,
      List.append_assoc, ← List.map_append, List.range'_append_1]
    exact ⟨rfl, rfl⟩

theorem serveConn_eq {conn : EntropyConn} (htakes : conn.TakesAll) {lens : List UInt32}
    {rest : List UInt8} (hrun : LongestRequests conn.recv.rest lens rest) :
    serveConn urandom conn = (endOf conn.recv.ending rest,
      conn.sent ++ (List.range (lens.map UInt32.toNat).sum).map byte) := by
  have hturns : lens.length < conn.recv.rest.length + 1 := by
    have hsize : (lens.flatMap toBeBytes).length = 4 * lens.length := by
      rw [List.length_flatMap, List.map_congr_left fun len _ => length_toBeBytes len,
        List.map_const', List.sum_replicate, smul_eq_mul, Nat.mul_comm]
    rw [hrun.splits, List.length_append, hsize]
    omega
  obtain ⟨hresult, hsent⟩ :=
    serveLoop_run hurandom hrun.noRequest hrun.inLimits hturns (s := ⟨conn, 0⟩) htakes hrun.splits
  rw [← List.range_eq_range'] at hsent
  unfold serveConn
  rw [hurandom.opens]
  exact Prod.ext hresult hsent

/-- The answer to one length, from a server that is asked for nothing else. -/
theorem serveConn_one {conn : EntropyConn} (htakes : conn.TakesAll) {len : UInt32}
    (hrecv : conn.recv.rest = toBeBytes len) :
    serveConn urandom conn =
      if InLimits len then
        (endOf conn.recv.ending [], conn.sent ++ (List.range len.toNat).map byte)
      else (.error (outsideLimits len), conn.sent) := by
  by_cases hlimits : InLimits len
  · have hrun := LongestRequests.of_noRequest (List.forall_mem_singleton.mpr hlimits)
      (show NoRequest [] from .inl (by simp))
    rw [List.flatMap_singleton, List.append_nil, ← hrecv] at hrun
    rw [serveConn_eq hurandom htakes hrun, if_pos hlimits, List.map_singleton, List.sum_singleton]
  · have hrest : NoRequest (toBeBytes len) := by
      refine .inr ?_
      rwa [List.take_of_length_le (length_toBeBytes len).le, fromBeBytes_toBeBytes]
    have hrun := LongestRequests.of_noRequest (List.forall_mem_nil _) hrest
    rw [List.flatMap_nil, List.nil_append, ← hrecv] at hrun
    rw [serveConn_eq hurandom htakes hrun, if_neg hlimits, hrecv]
    simp [endOf, fromBeBytes_toBeBytes, List.take_of_length_le (length_toBeBytes len).le]

end Server

/-! ## A client of this server -/

/-- The calls of the client work, and at the other end is a server that answers it alone. -/
structure ServedBy (dial : EntropyDial) (urandom : Urandom) (deadline : ℕ) : Prop where
  connects : ∀ addr, dial.connect addr = .ok ()
  readTimeout : dial.setReadTimeout deadline = .ok ()
  writeTimeout : dial.setWriteTimeout deadline = .ok ()
  writes : ∀ bytes, dial.writeAll bytes = (.ok (), bytes)
  replies : ∀ out, ∃ conn : EntropyConn, conn.recv.rest = out ∧ conn.sent = [] ∧
    conn.TakesAll ∧ (dial.reply out).rest = (serveConn urandom conn).2

theorem entropyFetch_served {dial : EntropyDial} {urandom : Urandom} {byte : ℕ → UInt8}
    {deadline : ℕ} (hurandom : urandom.NeverFails byte)
    (hserved : ServedBy dial urandom deadline) (addr : String) {len : UInt32}
    (hlimits : InLimits len) :
    entropyFetch dial addr len deadline =
      (.ok ((List.range len.toNat).map byte), toBeBytes len) := by
  obtain ⟨conn, hrecv, hsent, htakes, hreply⟩ := hserved.replies (toBeBytes len)
  have hrest : (dial.reply (toBeBytes len)).rest = (List.range len.toNat).map byte := by
    rw [hreply, serveConn_one hurandom htakes hrecv, if_pos hlimits, hsent, List.nil_append]
  have hlength : ((List.range len.toNat).map byte).length = len.toNat := by
    rw [List.length_map, List.length_range]
  have henough : len.toNat ≤ (dial.reply (toBeBytes len)).rest.length := by
    rw [hrest, hlength]
  obtain ⟨recv, hread, -, -⟩ := (dial.reply (toBeBytes len)).readExact_of_le henough
  rw [hrest, List.take_of_length_le hlength.le] at hread
  unfold entropyFetch
  rw [if_neg (inLimits_iff.mp hlimits), hserved.connects]
  dsimp only
  rw [hserved.readTimeout]
  dsimp only
  rw [hserved.writeTimeout]
  dsimp only
  rw [hserved.writes]
  dsimp only
  rw [hread]

theorem entropyFetch_outside (dial : EntropyDial) (addr : String) {len : UInt32} (deadline : ℕ)
    (hlimits : ¬ InLimits len) :
    entropyFetch dial addr len deadline = (.error (outsideLimits len), []) := by
  rw [inLimits_iff, not_not] at hlimits
  exact if_pos hlimits

/-- A server that is sent this length alone closes the connection for it. -/
def Refuses (urandom : Urandom) (len : UInt32) : Prop :=
  ∃ conn : EntropyConn, conn.TakesAll ∧ conn.recv.rest = toBeBytes len ∧
    ∃ detail, (serveConn urandom conn).1 = .error (.protocol detail)

theorem refuses_iff {urandom : Urandom} {byte : ℕ → UInt8} (hurandom : urandom.NeverFails byte)
    (len : UInt32) : Refuses urandom len ↔ ¬ InLimits len := by
  constructor
  · rintro ⟨conn, htakes, hrecv, detail, hrefused⟩ hlimits
    rw [serveConn_one hurandom htakes hrecv, if_pos hlimits] at hrefused
    unfold endOf at hrefused
    rw [if_pos (by simp)] at hrefused
    rcases hending : conn.recv.ending with _ | e
    · rw [hending] at hrefused
      cases hrefused
    · rw [hending] at hrefused
      cases hrefused
  · intro hlimits
    refine ⟨⟨⟨toBeBytes len, fun _ => 0, 0, none⟩, [], fun _ bytes => (.ok (), bytes)⟩,
      fun _ _ => rfl, rfl, ?_⟩
    rw [serveConn_one hurandom (fun _ _ => rfl) rfl, if_neg hlimits]
    exact ⟨_, rfl⟩

/-- The server answers the longest run of requests within the limits, and nothing else; a
client gets what it asks for, and asks for nothing that the server refuses. -/
theorem entropy_wire_protocol {urandom : Urandom} {byte : ℕ → UInt8}
    (hurandom : urandom.NeverFails byte) :
    (∀ conn : EntropyConn, conn.TakesAll → conn.sent = [] →
      (∃ lens rest, LongestRequests conn.recv.rest lens rest) ∧
        ∀ lens rest, LongestRequests conn.recv.rest lens rest →
          serveConn urandom conn = (endOf conn.recv.ending rest,
            (List.range (lens.map UInt32.toNat).sum).map byte)) ∧
    ∀ (dial : EntropyDial) (addr : String) (len : UInt32) (deadline : ℕ),
      (ServedBy dial urandom deadline → (entropyFetch dial addr len deadline).2 ≠ [] →
        ∃ bytes, entropyFetch dial addr len deadline = (.ok bytes, toBeBytes len) ∧
          bytes.length = len.toNat) ∧
      (ServedBy dial urandom deadline → ¬ Refuses urandom len →
        (entropyFetch dial addr len deadline).2 = toBeBytes len) ∧
      (Refuses urandom len →
        entropyFetch dial addr len deadline = (.error (outsideLimits len), [])) := by
  constructor
  · intro conn htakes hsent
    refine ⟨exists_longestRequests _, ?_⟩
    intro lens rest hrun
    rw [serveConn_eq hurandom htakes hrun, hsent, List.nil_append]
  · intro dial addr len deadline
    rw [refuses_iff hurandom, not_not]
    refine ⟨?_, ?_, entropyFetch_outside dial addr deadline⟩
    · intro hserved hwire
      -- the client checks the length before it dials
      have hlimits : InLimits len := by
        by_contra hout
        rw [entropyFetch_outside dial addr deadline hout] at hwire
        exact hwire rfl
      refine ⟨_, entropyFetch_served hurandom hserved addr hlimits, ?_⟩
      rw [List.length_map, List.length_range]
    · intro hserved hlimits
      rw [entropyFetch_served hurandom hserved addr hlimits]

namespace EntropyScenario

/-- A source that counts. -/
def counting : Urandom where
  openFile := .ok ()
  readExact already count := .ok ((List.range' already count).map .ofNat)

theorem counting_neverFails : counting.NeverFails .ofNat := ⟨rfl, fun _ _ => rfl⟩

/-- A client that has sent these bytes and takes what it is sent. -/
def client (bytes : List UInt8) : EntropyConn :=
  ⟨⟨bytes, fun _ => 0, 0, none⟩, [], fun _ bytes => (.ok (), bytes)⟩

def dial : EntropyDial where
  connect _ := .ok ()
  setReadTimeout _ := .ok ()
  setWriteTimeout _ := .ok ()
  writeAll bytes := (.ok (), bytes)
  reply out := ⟨(serveConn counting (client out)).2, fun _ => 1, 0, none⟩

theorem dial_served : ServedBy dial counting 30 where
  connects _ := rfl
  readTimeout := rfl
  writeTimeout := rfl
  writes _ := rfl
  replies out := ⟨client out, rfl, rfl, fun _ _ => rfl, rfl⟩

/-- Two requests and half of a third. -/
theorem twoRequests : LongestRequests [0, 0, 0, 2, 0, 0, 0, 1, 0, 0] [2, 1] [0, 0] := by
  have hlimits : ∀ len ∈ [2, 1], InLimits len := by
    intro len hlen
    rcases List.mem_pair.mp hlen with rfl | rfl
    · decide
    · decide
  have hrest : NoRequest [0, 0] := .inl (by decide)
  exact .of_noRequest hlimits hrest

end EntropyScenario

open EntropyScenario in
theorem entropy_wire_protocol_counting :
    serveConn counting (client [0, 0, 0, 2, 0, 0, 0, 1, 0, 0]) = (.ok (), [0, 1, 2]) ∧
      ∃ bytes, entropyFetch dial "rig:7" 3 30 = (.ok bytes, [0, 0, 0, 3]) ∧ bytes.length = 3 :=
  ⟨((entropy_wire_protocol counting_neverFails).1 (client [0, 0, 0, 2, 0, 0, 0, 1, 0, 0])
      (fun _ _ => rfl) rfl).2 [2, 1] [0, 0] twoRequests,
    ((entropy_wire_protocol counting_neverFails).2 dial "rig:7" 3 30).1 dial_served
      (by decide +kernel)⟩

end NautiFabric
