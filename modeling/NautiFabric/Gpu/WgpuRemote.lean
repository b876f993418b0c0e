import NautiFabric.Rpc.Frame

/-!
# NautiFabric.Gpu.WgpuRemote — the remote compute server

A client sends one job in a frame and is sent the result in another; the server
takes one connection after the other and serves only peers in the address range of
Tailscale. Most errors of a connection leave the accept loop through `?`, so that
one connection ends the server for those behind it. `Harmless` says which
connections do not.

A connection is what the operating system makes of it: its two addresses, the bytes
that come in and how they end, and how the two writes of a frame go. The JSON codecs
are parameters, and so is the GPU kernel.
-/

namespace NautiFabric

namespace Wgpu

/-! ## Addresses -/

inductive IpAddr where
  | v4 (a b c d : UInt8)
  | v6 (segments : Fin 8 → UInt16)
deriving DecidableEq

structure SocketAddr where
  ip : IpAddr
  port : UInt16
  scopeId : UInt32 := 0
deriving DecidableEq

/-- A run of zero segments. -/
structure Span where
  start : ℕ := 0
  len : ℕ := 0

/-- The first of the longest runs of zeros. -/
def longestZeros (segments : List UInt16) : Span :=
  let step : Span × Span → UInt16 × ℕ → Span × Span := fun (longest, current) (segment, i) =>
    if segment = 0 then
      let start := if current.len = 0 then i else current.start
      let current : Span := ⟨start, current.len + 1⟩
      (if current.len > longest.len then current else longest, current)
    else (longest, {})
  (segments.zipIdx.foldl step ({}, {})).1

/-- `{:x}`, with colons between -/
def showSegments (segments : List UInt16) : String :=
  ":".intercalate (segments.map fun segment => .ofList (Nat.toDigits 16 segment.toNat))

/-- The `Display` text of an address. -/
def IpAddr.toString : IpAddr → String
  | .v4 a b c d => s!"{a}.{b}.{c}.{d}"
  | .v6 segments =>
    let segments := List.ofFn segments
    if segments.take 6 = [0, 0, 0, 0, 0, 0xFFFF] then
      let octets := (segments.drop 6).flatMap fun segment =>
        [segment.toNat / 2 ^ 8, segment.toNat % 2 ^ 8]
      "::ffff:" ++ ".".intercalate (octets.map ToString.toString)
    else
      let zeros := longestZeros segments
      if zeros.len > 1 then
        showSegments (segments.take zeros.start) ++ "::" ++
          showSegments (segments.drop (zeros.start + zeros.len))
      else showSegments segments

def SocketAddr.toString (addr : SocketAddr) : String :=
  match addr.ip with
  | .v4 .. => s!"{addr.ip.toString}:{addr.port}"
  | .v6 _ =>
    if addr.scopeId = 0 then s!"[{addr.ip.toString}]:{addr.port}"
    else s!"[{addr.ip.toString}%{addr.scopeId}]:{addr.port}"

/-- Whether an address is in `100.64.0.0/10`. -/
def isTailscaleIp : IpAddr → Bool
  | .v4 a b _ _ => a == 100 && b ≥ 64 && b ≤ 127
  | .v6 _ => false

def requireTailscale (addr : SocketAddr) (role : String) : Except String Unit :=
  if isTailscaleIp addr.ip then .ok ()
  else
    .error (s!"{role} {addr.toString} is not a Tailscale CGNAT address (100.64.0.0/10); " ++
      "off-routing proof refuses LAN fallback")

/-! ## Jobs -/

structure WgpuJob where
  jobId : String
  op : String
  n : UInt64
  a : List Float32
  b : List Float32

structure WgpuResult where
  jobId : String
  status : String
  backend : String
  adapterName : String
  out : List Float32
  elapsedMs : ℕ
  serverLocal : String
  clientPeer : String

def cpuAdd (a b : List Float32) : List Float32 := List.zipWith (· + ·) a b

def correctnessOk (job : WgpuJob) (out : List Float32) : Bool :=
  if out.length ≠ job.a.length ∨ out.length ≠ job.b.length then false
  else
    ((cpuAdd job.a job.b).zip out).all fun (expect, got) =>
      decide ((expect - got).abs ≤ 1e-4)

/-! ## Connections -/

/-- How the bytes of a connection end, other than in an orderly way. -/
inductive Interruption where
  | failed (error : String)
  /-- the peer neither sends nor closes -/
  | stalled

structure TcpStream where
  peerAddr : Except String SocketAddr
  localAddr : Except String SocketAddr
  recv : Source UInt8 Interruption
  /-- how the write of the length goes, and the write of the payload -/
  writeLength : Except String Unit
  writePayload : Except String Unit

/-- How the server stops. -/
inductive Stop where
  | returned (error : String)
  | hung
  | panicked
deriving DecidableEq

/-- What a read that does not get its bytes comes to. -/
def Stop.ofRead : Source.ReadError Interruption → Stop
  | .unexpectedEof => .returned "failed to fill whole buffer"
  | .failed (.failed error) => .returned error
  | .failed .stalled => .hung

def readFrame (recv : Source UInt8 Interruption) : Except Stop (List UInt8) :=
  match recv.readExact 4 with
  | (.error e, _) => .error (.ofRead e)
  | (.ok header, recv) =>
    let len := (fromLeBytes header).toNat
    if len > 16 * 1024 * 1024 then .error (.returned "frame too large")
    else
      match recv.readExact len with
      | (.error e, _) => .error (.ofRead e)
      | (.ok buf, _) => .ok buf

/-- What is written for a payload, and whether all of it is. -/
def writeFrame (stream : TcpStream) (payload : List UInt8) : List UInt8 × Except Stop Unit :=
  if payload.length < 2 ^ 32 then
    let header := toLeBytes (.ofNat payload.length)
    match stream.writeLength with
    | .error e => ([], .error (.returned e))
    | .ok () =>
      match stream.writePayload with
      | .error e => (header, .error (.returned e))
      | .ok () => (header ++ payload, .ok ())
  else ([], .error (.returned "out of range integral type conversion attempted"))

/-! ## The server -/

/-- What a kernel gives: the sums, its backend and the name of its adapter. -/
abbrev KernelReply := Except String (List Float32 × String × String)

structure Server where
  jobs : Codec WgpuJob
  results : Codec WgpuResult
  /-- the kernel of the feature `wgpu-remote`, if it is on, for the `i`-th connection;
  `none` where it panics -/
  kernel : Option (ℕ → List Float32 → List Float32 → Option KernelReply)
  /-- the time that the `i`-th connection took -/
  elapsedMs : ℕ → ℕ

namespace Server

def executeAdd (server : Server) (i : ℕ) (job : WgpuJob) : Option KernelReply :=
  if job.op ≠ "add_f32" then some (.error s!"unknown op {job.op}")
  else if job.a.length ≠ job.n.toNat ∨ job.b.length ≠ job.n.toNat then
    some (.error "job length mismatch")
  else
    match server.kernel with
    | some kernel => kernel i job.a job.b
    | none => some (.ok (cpuAdd job.a job.b, "cpu-reference", "none"))

/-- Encode and write. -/
def respond (server : Server) (stream : TcpStream) (result : WgpuResult) :
    List UInt8 × Except Stop Unit :=
  match server.results.toVec result with
  | .error e => ([], .error (.returned e))
  | .ok payload => writeFrame stream payload

/-- One round of the accept loop: what is written, and whether there is a next round. -/
def handle (server : Server) (i : ℕ) (incoming : Except String TcpStream) :
    List UInt8 × Except Stop Unit :=
  match incoming with
  | .error e => ([], .error (.returned e))
  | .ok stream =>
    match stream.peerAddr with
    | .error e => ([], .error (.returned e))
    | .ok peer =>
      match requireTailscale peer "peer" with
      | .error _ => ([], .ok ())
      | .ok () =>
        match stream.localAddr with
        | .error e => ([], .error (.returned e))
        | .ok serverLocal =>
          match readFrame stream.recv with
          | .error stop => ([], .error stop)
          | .ok bytes =>
            match server.jobs.fromSlice bytes with
            | .error e => ([], .error (.returned e))
            | .ok job =>
              match server.executeAdd i job with
              | none => ([], .error .panicked)
              | some (.error error) =>
                server.respond stream
                  { jobId := job.jobId
                    status := "error"
                    backend := "error"
                    adapterName := error
                    out := []
                    elapsedMs := server.elapsedMs i
                    serverLocal := serverLocal.toString
                    clientPeer := peer.toString }
              | some (.ok (out, backend, adapterName)) =>
                server.respond stream
                  { jobId := job.jobId
                    status := if correctnessOk job out then "ok" else "incorrect"
                    backend := backend
                    adapterName := adapterName
                    out := out
                    elapsedMs := server.elapsedMs i
                    serverLocal := serverLocal.toString
                    clientPeer := peer.toString }

/-- What is written to each connection that gets its round, from the `i`-th on, and
how the loop ends. -/
def acceptLoop (server : Server) : ℕ → List (Except String TcpStream) →
    List (List UInt8) × Except Stop Unit
  | _, [] => ([], .ok ())
  | i, incoming :: later =>
    match server.handle i incoming with
    | (sent, .error stop) => ([sent], .error stop)
    | (sent, .ok ()) =>
      let (sents, ending) := server.acceptLoop (i + 1) later
      (sent :: sents, ending)

/-- `listen` is the outcome of `TcpListener::bind`. -/
def serve (server : Server) (bind : SocketAddr) (listen : Except String Unit)
    (incoming : List (Except String TcpStream)) : List (List UInt8) × Except Stop Unit :=
  match requireTailscale bind "bind" with
  | .error e => ([], .error (.returned e))
  | .ok () =>
    match listen with
    | .error e => ([], .error (.returned s!"bind {bind.toString}: {e}"))
    | .ok () => server.acceptLoop 0 incoming

end Server

/-! ## Connections that are answered -/

/-- Some bytes begin with the frame of a payload that is not too large. -/
def Framed (bytes payload : List UInt8) : Prop :=
  payload.length ≤ 16 * 1024 * 1024 ∧ toLeBytes (.ofNat payload.length) ++ payload <+: bytes

namespace Server

/-- A Tailscale peer sends a job in a frame, and stays open to read. -/
structure Sends (server : Server) (stream : TcpStream) (peer here : SocketAddr)
    (job : WgpuJob) : Prop where
  peerAddr : stream.peerAddr = .ok peer
  tailscale : isTailscaleIp peer.ip = true
  localAddr : stream.localAddr = .ok here
  frame : ∃ payload, Framed stream.recv.rest payload ∧ server.jobs.fromSlice payload = .ok job
  writeLength : stream.writeLength = .ok ()
  writePayload : stream.writePayload = .ok ()

/-- The result of a job at the `i`-th connection. -/
def resultOf (server : Server) (i : ℕ) (peer here : SocketAddr) (job : WgpuJob) :
    Option WgpuResult :=
  (server.executeAdd i job).map fun reply =>
    { jobId := job.jobId
      status :=
        match reply with
        | .error _ => "error"
        | .ok (out, _, _) => if correctnessOk job out then "ok" else "incorrect"
      backend :=
        match reply with
        | .error _ => "error"
        | .ok (_, backend, _) => backend
      adapterName :=
        match reply with
        | .error error => error
        | .ok (_, _, adapterName) => adapterName
      out :=
        match reply with
        | .error _ => []
        | .ok (out, _, _) => out
      elapsedMs := server.elapsedMs i
      serverLocal := here.toString
      clientPeer := peer.toString }

/-- The result has an encoding that fits into a frame. -/
def Encodes (server : Server) (result : WgpuResult) : Prop :=
  ∃ bytes, server.results.toVec result = .ok bytes ∧ bytes.length < 2 ^ 32

/-- The results of the jobs that are sent have such encodings. -/
def ResultsFit (server : Server) (incoming : List (Except String TcpStream)) : Prop :=
  ∀ (i : ℕ) (stream : TcpStream) (peer here : SocketAddr) (job : WgpuJob) (result : WgpuResult),
    incoming[i]? = some (.ok stream) → server.Sends stream peer here job →
      server.resultOf i peer here job = some result → server.Encodes result

/-- The kernel of the feature does not panic on a job that gets to it. -/
def KernelReturns (server : Server) (i : ℕ) (job : WgpuJob) : Prop :=
  ∀ kernel, server.kernel = some kernel → job.op = "add_f32" → job.a.length = job.n.toNat →
    job.b.length = job.n.toNat → (kernel i job.a job.b).isSome

/-- A connection that the accept loop comes back from: it is from outside, or it is
answered. -/
def Harmless (server : Server) (i : ℕ) (incoming : Except String TcpStream) : Prop :=
  ∃ stream peer, incoming = .ok stream ∧ stream.peerAddr = .ok peer ∧
    (isTailscaleIp peer.ip = false ∨
      ∃ here job, server.Sends stream peer here job ∧ server.KernelReturns i job)

/-- Every job is answered with its result, and the server goes on. -/
def ServesAll (server : Server) (bind : SocketAddr) (incoming : List (Except String TcpStream)) :
    Prop :=
  (∀ (i : ℕ) (stream : TcpStream) (peer here : SocketAddr) (job : WgpuJob),
    incoming[i]? = some (.ok stream) → server.Sends stream peer here job →
      ∃ result bytes, server.resultOf i peer here job = some result ∧
        server.results.toVec result = .ok bytes ∧
        (server.serve bind (.ok ()) incoming).1[i]? =
          some (toLeBytes (.ofNat bytes.length) ++ bytes)) ∧
    (server.serve bind (.ok ()) incoming).2 = .ok ()

end Server

/-! ## One round -/

/-- Behind the length of a frame. -/
theorem framed_append_iff {len : UInt32} {rest payload : List UInt8} :
    Framed (toLeBytes len ++ rest) payload ↔
      len.toNat ≤ 16 * 1024 * 1024 ∧ len.toNat ≤ rest.length ∧ payload = rest.take len.toNat := by
  constructor
  · rintro ⟨hsmall, more, hmore⟩
    rw [List.append_assoc] at hmore
    obtain ⟨hheader, hrest⟩ := List.append_inj hmore (by rw [length_toLeBytes, length_toLeBytes])
    have hlen : len.toNat = payload.length := by
      rw [← fromLeBytes_toLeBytes len, ← hheader, fromLeBytes_toLeBytes]
      exact UInt32.toNat_ofNat_of_lt' (show payload.length < 2 ^ 32 by omega)
    rw [hlen, ← hrest, List.take_left]
    refine ⟨hsmall, ?_, rfl⟩
    rw [List.length_append]
    exact Nat.le_add_right _ _
  · rintro ⟨hsmall, hcomplete, rfl⟩
    have hlength : (rest.take len.toNat).length = len.toNat := by
      rw [List.length_take]
      omega
    constructor
    · omega
    · rw [hlength, UInt32.ofNat_toNat]
      exact (List.prefix_append_right_inj _).mpr (List.take_prefix _ _)

theorem readFrame_eq_ok_iff {recv : Source UInt8 Interruption} {payload : List UInt8} :
    readFrame recv = .ok payload ↔ Framed recv.rest payload := by
  unfold readFrame
  -- the stream may end in the header, the length may be refused, or the stream may end in
  -- the payload
  by_cases hheader : recv.rest.length < 4
  · obtain ⟨recv₁, hlen⟩ := recv.readExact_of_lt hheader
    rw [hlen]
    constructor
    · intro h
      cases h
    · rintro ⟨-, hprefix⟩
      have hlength := hprefix.length_le
      rw [List.length_append, length_toLeBytes] at hlength
      omega
  obtain ⟨recv₁, hlen, hleft, -⟩ := recv.readExact_of_le (Nat.not_lt.mp hheader)
  rw [hlen]
  dsimp only
  have htake : (recv.rest.take 4).length = 4 := by
    rw [List.length_take]
    omega
  have hsplit : recv.rest = toLeBytes (fromLeBytes (recv.rest.take 4)) ++ recv₁.rest := by
    rw [toLeBytes_fromLeBytes htake, hleft, List.take_append_drop]
  -- from here on the length is any number
  generalize fromLeBytes (recv.rest.take 4) = len at hsplit
  rw [hsplit, framed_append_iff]
  by_cases hsize : len.toNat > 16 * 1024 * 1024
  · rw [if_pos hsize]
    constructor
    · intro h
      cases h
    · intro h
      omega
  rw [if_neg hsize]
  by_cases hpayload : recv₁.rest.length < len.toNat
  · obtain ⟨recv₂, hbuf⟩ := recv₁.readExact_of_lt hpayload
    rw [hbuf]
    constructor
    · intro h
      cases h
    · intro h
      omega
  obtain ⟨recv₂, hbuf, -, -⟩ := recv₁.readExact_of_le (Nat.not_lt.mp hpayload)
  rw [hbuf]
  constructor
  · intro h
    exact ⟨Nat.not_lt.mp hsize, Nat.not_lt.mp hpayload, (Except.ok.inj h).symm⟩
  · rintro ⟨-, -, rfl⟩
    rfl

namespace Server

variable {server : Server} {i : ℕ} {stream : TcpStream} {peer here : SocketAddr} {job : WgpuJob}

theorem executeAdd_isSome_iff : (server.executeAdd i job).isSome ↔ server.KernelReturns i job := by
  unfold executeAdd KernelReturns
  by_cases hop : job.op = "add_f32"
  swap
  · simp [hop]
  rw [if_neg (not_not.mpr hop)]
  by_cases hlengths : job.a.length ≠ job.n.toNat ∨ job.b.length ≠ job.n.toNat
  · rw [if_pos hlengths]
    constructor
    · intro _ kernel _ _ ha hb
      rcases hlengths with h | h
      · exact absurd ha h
      · exact absurd hb h
    · intro _
      rfl
  rw [if_neg hlengths]
  rw [not_or, not_not, not_not] at hlengths
  rcases server.kernel with _ | kernel
  · simp
  · simp [hop, hlengths.1, hlengths.2]

/-- From a Tailscale peer with a job the round ends with its result, if it has one. -/
theorem handle_of_job {payload : List UInt8} (hpeer : stream.peerAddr = .ok peer)
    (htailscale : isTailscaleIp peer.ip = true) (hhere : stream.localAddr = .ok here)
    (hframe : readFrame stream.recv = .ok payload)
    (hjob : server.jobs.fromSlice payload = .ok job) :
    server.handle i (.ok stream) =
      match server.resultOf i peer here job with
      | none => ([], .error .panicked)
      | some result => server.respond stream result := by
  have hrequire : requireTailscale peer "peer" = .ok () := if_pos htailscale
  unfold handle
  simp only [hpeer, hrequire, hhere, hframe, hjob]
  unfold resultOf
  rcases server.executeAdd i job with _ | error | ⟨out, backend, adapterName⟩
  · rfl
  · rfl
  · rfl

theorem handle_of_outside (hpeer : stream.peerAddr = .ok peer)
    (houtside : isTailscaleIp peer.ip = false) : server.handle i (.ok stream) = ([], .ok ()) := by
  have hrequire : ∃ e, requireTailscale peer "peer" = .error e := by
    unfold requireTailscale
    rw [houtside]
    exact ⟨_, rfl⟩
  obtain ⟨e, he⟩ := hrequire
  unfold handle
  simp only [hpeer, he]

/-- A connection sends one job. -/
theorem Sends.job_unique {peer' here' : SocketAddr} {job' : WgpuJob}
    (hsends : server.Sends stream peer here job) (hsends' : server.Sends stream peer' here' job') :
    job = job' := by
  obtain ⟨payload, hframed, hjob⟩ := hsends.frame
  obtain ⟨payload', hframed', hjob'⟩ := hsends'.frame
  have hframe := readFrame_eq_ok_iff.mpr hframed
  rw [readFrame_eq_ok_iff.mpr hframed'] at hframe
  obtain rfl := Except.ok.inj hframe
  rw [hjob] at hjob'
  exact Except.ok.inj hjob'

theorem Harmless.kernelReturns (hharmless : server.Harmless i (.ok stream))
    (hsends : server.Sends stream peer here job) : server.KernelReturns i job := by
  obtain ⟨stream', peer', hsame, hpeer', hcase⟩ := hharmless
  obtain rfl := Except.ok.inj hsame
  rw [hsends.peerAddr] at hpeer'
  obtain rfl := Except.ok.inj hpeer'
  rcases hcase with houtside | ⟨here', job', hsends', hreturns'⟩
  · rw [hsends.tailscale] at houtside
    cases houtside
  · rwa [hsends.job_unique hsends']

theorem respond_of_ok {result : WgpuResult} {bytes : List UInt8}
    (hbytes : server.results.toVec result = .ok bytes) (hsmall : bytes.length < 2 ^ 32)
    (hlength : stream.writeLength = .ok ()) (hpayload : stream.writePayload = .ok ()) :
    server.respond stream result = (toLeBytes (.ofNat bytes.length) ++ bytes, .ok ()) := by
  unfold respond
  rw [hbytes]
  dsimp only
  unfold writeFrame
  rw [if_pos hsmall, hlength, hpayload]

theorem writes_of_respond {result : WgpuResult} (h : (server.respond stream result).2 = .ok ()) :
    stream.writeLength = .ok () ∧ stream.writePayload = .ok () := by
  unfold respond at h
  split at h
  · cases h
  unfold writeFrame at h
  split at h
  swap
  · cases h
  dsimp only at h
  rcases hlength : stream.writeLength with e | ⟨⟩
  · rw [hlength] at h
    cases h
  · rcases hpayload : stream.writePayload with e | ⟨⟩
    · rw [hlength, hpayload] at h
      cases h
    · exact ⟨rfl, rfl⟩

/-- A job is answered if the kernel returns. -/
theorem handle_of_sends (hsends : server.Sends stream peer here job)
    (hfits : ∀ result, server.resultOf i peer here job = some result → server.Encodes result)
    (hreturns : server.KernelReturns i job) :
    ∃ result bytes, server.resultOf i peer here job = some result ∧
      server.results.toVec result = .ok bytes ∧
      server.handle i (.ok stream) = (toLeBytes (.ofNat bytes.length) ++ bytes, .ok ()) := by
  obtain ⟨payload, hframed, hjob⟩ := hsends.frame
  have hframe : readFrame stream.recv = .ok payload := readFrame_eq_ok_iff.mpr hframed
  have hhandle :=
    handle_of_job (i := i) hsends.peerAddr hsends.tailscale hsends.localAddr hframe hjob
  obtain ⟨reply, hreply⟩ := Option.isSome_iff_exists.mp (executeAdd_isSome_iff.mpr hreturns)
  obtain ⟨result, hresult⟩ : ∃ result, server.resultOf i peer here job = some result := by
    unfold resultOf
    rw [hreply]
    exact ⟨_, rfl⟩
  obtain ⟨bytes, hbytes, hsmall⟩ := hfits result hresult
  refine ⟨result, bytes, hresult, hbytes, ?_⟩
  rw [hhandle, hresult]
  exact respond_of_ok hbytes hsmall hsends.writeLength hsends.writePayload

/-- The loop comes back from the harmless connections only. -/
theorem handle_ok_iff {incoming : Except String TcpStream}
    (hfits : ∀ stream peer here job result, incoming = .ok stream →
      server.Sends stream peer here job → server.resultOf i peer here job = some result →
        server.Encodes result) :
    (server.handle i incoming).2 = .ok () ↔ server.Harmless i incoming := by
  constructor
  · intro h
    -- each step that fails ends the loop, so all before the reply have worked
    rcases incoming with e | stream
    · cases h
    rcases hpeer : stream.peerAddr with e | peer
    · simp [handle, hpeer] at h
    refine ⟨stream, peer, rfl, hpeer, ?_⟩
    rcases htailscale : isTailscaleIp peer.ip with _ | _
    · exact Or.inl rfl
    right
    have hrequire : requireTailscale peer "peer" = .ok () := if_pos htailscale
    rcases hhere : stream.localAddr with e | here
    · simp [handle, hpeer, hrequire, hhere] at h
    rcases hframe : readFrame stream.recv with stop | payload
    · simp [handle, hpeer, hrequire, hhere, hframe] at h
    rcases hjob : server.jobs.fromSlice payload with e | job
    · simp [handle, hpeer, hrequire, hhere, hframe, hjob] at h
    rw [handle_of_job hpeer htailscale hhere hframe hjob] at h
    have hreturns : server.KernelReturns i job := by
      apply executeAdd_isSome_iff.mp
      rcases hreply : server.executeAdd i job with _ | reply
      · simp [resultOf, hreply] at h
      · rfl
    have hwrites : stream.writeLength = .ok () ∧ stream.writePayload = .ok () := by
      split at h
      · cases h
      · exact writes_of_respond h
    exact ⟨here, job, ⟨hpeer, htailscale, hhere, ⟨payload, readFrame_eq_ok_iff.mp hframe, hjob⟩,
      hwrites.1, hwrites.2⟩, hreturns⟩
  · rintro ⟨stream, peer, rfl, hpeer, houtside | ⟨here, job, hsends, hreturns⟩⟩
    · rw [handle_of_outside hpeer houtside]
    · obtain ⟨result, bytes, -, -, hhandle⟩ := handle_of_sends hsends
        (fun result => hfits stream peer here job result rfl hsends) hreturns
      rw [hhandle]

end Server

/-! ## The loop -/

namespace Server

variable {server : Server} {i k : ℕ} {incoming : List (Except String TcpStream)}

/-- The loop gets to its end when it comes back from every connection. -/
theorem acceptLoop_ok_iff : (server.acceptLoop i incoming).2 = .ok () ↔
    ∀ k c, incoming[k]? = some c → (server.handle (i + k) c).2 = .ok () := by
  induction incoming generalizing i with
  | nil => simp [acceptLoop]
  | cons first later ih =>
      unfold acceptLoop
      rcases hfirst : server.handle i first with ⟨sent, stop | ⟨⟩⟩
      · constructor
        · intro h
          cases h
        · intro h
          have hzero := h 0 first rfl
          rw [Nat.add_zero, hfirst] at hzero
          cases hzero
      · rw [show (server.acceptLoop (i + 1) later).2 = .ok () ↔ _ from ih]
        -- the first round comes back; the others are counted from the next connection
        constructor
        · intro h k c hc
          cases k with
          | zero =>
              obtain rfl := Option.some.inj hc
              rw [Nat.add_zero, hfirst]
          | succ k =>
              have hk := h k c hc
              rwa [Nat.add_assoc, Nat.add_comm 1 k] at hk
        · intro h k c hc
          have hk := h (k + 1) c hc
          rwa [← Nat.add_assoc, Nat.add_right_comm] at hk

/-- A connection has its round when the loop comes back from those before it. -/
theorem acceptLoop_getElem? {c : Except String TcpStream}
    (hearlier : ∀ j < k, ∀ d, incoming[j]? = some d → (server.handle (i + j) d).2 = .ok ())
    (hc : incoming[k]? = some c) :
    (server.acceptLoop i incoming).1[k]? = some (server.handle (i + k) c).1 := by
  induction incoming generalizing i k with
  | nil => cases hc
  | cons first later ih =>
      unfold acceptLoop
      cases k with
      | zero =>
          obtain rfl := Option.some.inj hc
          rcases hfirst : server.handle i first with ⟨sent, stop | ⟨⟩⟩
          · simp
          · simp
      | succ k =>
          -- the first round comes back, so the loop gets to the rest
          have hzero := hearlier 0 (Nat.succ_pos k) first rfl
          rw [Nat.add_zero] at hzero
          rcases hfirst : server.handle i first with ⟨sent, stop | ⟨⟩⟩
          · rw [hfirst] at hzero
            cases hzero
          · have hlater := ih (i := i + 1) (k := k) ?_ hc
            · rw [Nat.add_right_comm, Nat.add_assoc] at hlater
              exact hlater
            · intro j hj d hd
              have hj' := hearlier (j + 1) (Nat.succ_lt_succ hj) d hd
              rwa [← Nat.add_assoc, Nat.add_right_comm] at hj'

theorem serve_of_tailscale {bind : SocketAddr} (hbind : isTailscaleIp bind.ip = true) :
    server.serve bind (.ok ()) incoming = server.acceptLoop 0 incoming := by
  have hrequire : requireTailscale bind "bind" = .ok () := if_pos hbind
  unfold serve
  rw [hrequire]

/-- A listening server answers every job and goes on exactly when all its connections
are harmless. -/
theorem serves_all_iff (server : Server) (bind : SocketAddr)
    (hbind : isTailscaleIp bind.ip = true) (incoming : List (Except String TcpStream))
    (hfits : server.ResultsFit incoming) :
    server.ServesAll bind incoming ↔ ∀ i c, incoming[i]? = some c → server.Harmless i c := by
  have hround : ∀ i c, incoming[i]? = some c →
      ((server.handle i c).2 = .ok () ↔ server.Harmless i c) := by
    intro i c hc
    apply handle_ok_iff
    rintro stream peer here job result rfl hsends hresult
    exact hfits i stream peer here job result hc hsends hresult
  -- the loop goes on as long as every round comes back
  unfold ServesAll
  rw [serve_of_tailscale hbind, acceptLoop_ok_iff]
  constructor
  · rintro ⟨-, hgoes⟩ i c hc
    have hi := hgoes i c hc
    rw [Nat.zero_add] at hi
    exact (hround i c hc).mp hi
  · intro hharmless
    have hgoes : ∀ i c, incoming[i]? = some c → (server.handle (0 + i) c).2 = .ok () := by
      intro i c hc
      rw [Nat.zero_add]
      exact (hround i c hc).mpr (hharmless i c hc)
    refine ⟨?_, hgoes⟩
    intro i stream peer here job hstream hsends
    have hreturns := (hharmless i _ hstream).kernelReturns hsends
    obtain ⟨result, bytes, hresult, hbytes, hhandle⟩ := handle_of_sends hsends
      (fun result => hfits i stream peer here job result hstream hsends) hreturns
    refine ⟨result, bytes, hresult, hbytes, ?_⟩
    rw [acceptLoop_getElem? (fun j _ d hd => hgoes j d hd) hstream, Nat.zero_add, hhandle]

end Server

namespace Samples

def octets (text : String) : List UInt8 := text.toList.map fun c => .ofNat c.toNat

def emptyJob : WgpuJob := ⟨"m10-add", "add_f32", 0, [], []⟩

def emptyJobText : List UInt8 :=
  octets "\x7b\"job_id\":\"m10-add\",\"op\":\"add_f32\",\"n\":0,\"a\":[],\"b\":[]\x7d"

/-- The text of a result without sums. -/
def resultText (result : WgpuResult) : List UInt8 :=
  octets ("\x7b\"job_id\":\"" ++ result.jobId ++ "\",\"status\":\"" ++ result.status ++
    "\",\"backend\":\"" ++ result.backend ++ "\",\"adapter_name\":\"" ++ result.adapterName ++
    "\",\"out\":[],\"elapsed_ms\":" ++ toString result.elapsedMs ++ ",\"server_local\":\"" ++
    result.serverLocal ++ "\",\"client_peer\":\"" ++ result.clientPeer ++ "\"\x7d")

/-- A server without a GPU, with the JSON of the empty job and of results without sums. -/
def cpuServer : Server where
  jobs :=
    { toVec := fun _ => .error "not rendered"
      fromSlice := fun bytes =>
        if bytes = emptyJobText then .ok emptyJob else .error "expected value" }
  results :=
    { toVec := fun result =>
        match result.out with
        | [] => .ok (resultText result)
        | _ :: _ => .error "not rendered"
      fromSlice := fun _ => .error "not read" }
  kernel := none
  elapsedMs := fun _ => 0

def serverAddr : SocketAddr := { ip := .v4 100 109 55 22, port := 9110 }

def clientAddr : SocketAddr := { ip := .v4 100 76 255 40, port := 50000 }

def lanAddr : SocketAddr := { ip := .v4 192 168 4 38, port := 50000 }

/-- A connection that sends some bytes and closes its side. -/
def sending (peer : SocketAddr) (bytes : List UInt8) : TcpStream where
  peerAddr := .ok peer
  localAddr := .ok serverAddr
  recv := ⟨bytes, fun _ => 0, 0, none⟩
  writeLength := .ok ()
  writePayload := .ok ()

def jobStream : TcpStream :=
  sending clientAddr (toLeBytes (.ofNat emptyJobText.length) ++ emptyJobText)

theorem jobStream_sends : cpuServer.Sends jobStream clientAddr serverAddr emptyJob where
  peerAddr := rfl
  tailscale := by decide
  localAddr := rfl
  frame := by
    have hread : cpuServer.jobs.fromSlice emptyJobText = .ok emptyJob := by simp [cpuServer]
    refine ⟨emptyJobText, ⟨?_, List.prefix_refl _⟩, hread⟩
    decide +kernel
  writeLength := rfl
  writePayload := rfl

theorem cpuServer_kernelReturns (i : ℕ) (job : WgpuJob) : cpuServer.KernelReturns i job := by
  intro kernel hkernel
  cases hkernel

/-- The only job that the server can read. -/
theorem cpuServer_sends {stream : TcpStream} {peer here : SocketAddr} {job : WgpuJob}
    (hsends : cpuServer.Sends stream peer here job) : job = emptyJob := by
  obtain ⟨payload, -, hjob⟩ := hsends.frame
  change (if payload = emptyJobText then Except.ok emptyJob else .error "expected value") =
    .ok job at hjob
  split at hjob
  · exact (Except.ok.inj hjob).symm
  · cases hjob

/-- A connection that closes without a frame sends no job. -/
theorem not_sends_nothing {peer peer' here : SocketAddr} {job : WgpuJob} :
    ¬ cpuServer.Sends (sending peer []) peer' here job := by
  intro hsends
  obtain ⟨payload, ⟨-, hprefix⟩, -⟩ := hsends.frame
  have hlength := hprefix.length_le
  rw [List.length_append, length_toLeBytes] at hlength
  simp [sending] at hlength

theorem cpuServer_resultsFit (peer : SocketAddr) : cpuServer.ResultsFit
    [.ok (sending peer []), .ok jobStream] := by
  intro i stream peer' here job result hstream hsends hresult
  have hcases : sending peer [] = stream ∨ i = 1 ∧ jobStream = stream := by
    match i with
    | 0 => exact Or.inl (Except.ok.inj (Option.some.inj hstream))
    | 1 => exact Or.inr ⟨rfl, Except.ok.inj (Option.some.inj hstream)⟩
  rcases hcases with rfl | ⟨rfl, rfl⟩
  · exact absurd hsends not_sends_nothing
  · obtain rfl := cpuServer_sends hsends
    obtain rfl : clientAddr = peer' := Except.ok.inj hsends.peerAddr
    obtain rfl : serverAddr = here := Except.ok.inj hsends.localAddr
    obtain rfl := Option.some.inj hresult
    exact ⟨_, rfl, by decide +kernel⟩

end Samples

open Samples in
/-- A connection from the LAN does not keep a later job from its answer. -/
theorem serves_all_behind_lan :
    cpuServer.ServesAll serverAddr [.ok (sending lanAddr []), .ok jobStream] := by
  refine (Server.serves_all_iff cpuServer serverAddr (by decide) _
    (cpuServer_resultsFit lanAddr)).mpr ?_
  intro i c hc
  match i with
  | 0 =>
    obtain rfl := Option.some.inj hc
    exact ⟨_, lanAddr, rfl, rfl, Or.inl (by decide)⟩
  | 1 =>
    obtain rfl := Option.some.inj hc
    exact ⟨_, clientAddr, rfl, rfl,
      Or.inr ⟨serverAddr, emptyJob, jobStream_sends, cpuServer_kernelReturns 1 emptyJob⟩⟩

open Samples in
/-- A Tailscale peer that closes without a frame: the job behind it is not answered. -/
theorem job_not_answered_behind_close :
    ¬ ∀ (server : Server) (bind : SocketAddr), isTailscaleIp bind.ip = true →
      ∀ incoming : List (Except String TcpStream), server.ResultsFit incoming →
        ∀ (i : ℕ) (stream : TcpStream) (peer here : SocketAddr) (job : WgpuJob),
          incoming[i]? = some (.ok stream) → server.Sends stream peer here job →
            ∃ result bytes, server.resultOf i peer here job = some result ∧
              server.results.toVec result = .ok bytes ∧
              (server.serve bind (.ok ()) incoming).1[i]? =
                some (toLeBytes (.ofNat bytes.length) ++ bytes) := by
  intro hall
  obtain ⟨result, bytes, -, -, hanswer⟩ := hall cpuServer serverAddr (by decide) _
    (cpuServer_resultsFit clientAddr) 1 jobStream clientAddr serverAddr emptyJob rfl
    jobStream_sends
  have hended : cpuServer.serve serverAddr (.ok ()) [.ok (sending clientAddr []), .ok jobStream] =
      ([[]], .error (.returned "failed to fill whole buffer")) := rfl
  rw [hended] at hanswer
  cases hanswer

end Wgpu

end NautiFabric
