import NautiFabric.Fabric.Types
import NautiFabric.Gpu.WgpuRemote

/-!
# NautiFabric.Gpu.WgpuClient — the controller's side of a compute job

The client of the compute server, the resource that stands for the server in the
inventory, and the adapter that leases it. Client and server are put together in
`Exchange`: the server reads what the client has written, and the client what the server
writes to it, or a part of that when its read breaks off. `submissions_answered` says what
a job that is submitted to a running server comes to.
-/

namespace NautiFabric

namespace Wgpu

/-! ## Submitting a job -/

/-- What `set_read_timeout` makes of a read that breaks off. -/
def Interruption.timed : Interruption → Interruption
  | .failed error => .failed error
  | .stalled => .failed "Resource temporarily unavailable (os error 11)"

/-- `set_read_timeout`; the client does not look at what it returns. -/
def TcpStream.setReadTimeout (stream : TcpStream) : TcpStream :=
  { stream with recv.ending := stream.recv.ending.map Interruption.timed }

@[simp] theorem localAddr_setReadTimeout (stream : TcpStream) :
    stream.setReadTimeout.localAddr = stream.localAddr := rfl

@[simp] theorem writeFrame_setReadTimeout (stream : TcpStream) (payload : List UInt8) :
    writeFrame stream.setReadTimeout payload = writeFrame stream payload := rfl

@[simp] theorem rest_setReadTimeout (stream : TcpStream) :
    stream.setReadTimeout.recv.rest = stream.recv.rest := rfl

/-- The client computes the sums again, and believes no `ok` that they do not bear out. -/
def recheck (job : WgpuJob) (result : WgpuResult) : WgpuResult :=
  if result.status == "ok" && !correctnessOk job result.out then
    { result with status := "incorrect" }
  else result

/-- What is written, and what comes of it. `dial` is the outcome of
`TcpStream::connect_timeout`. -/
def submit (jobs : Codec WgpuJob) (results : Codec WgpuResult) (connect : SocketAddr)
    (dial : Except String TcpStream) (job : WgpuJob) : List UInt8 × Except Stop WgpuResult :=
  match requireTailscale connect "connect" with
  | .error e => ([], .error (.returned e))
  | .ok () =>
    match dial with
    | .error e => ([], .error (.returned s!"connect {connect.toString}: {e}"))
    | .ok stream =>
      let stream := stream.setReadTimeout
      match stream.localAddr with
      | .error e => ([], .error (.returned e))
      | .ok clientLocal =>
        match requireTailscale clientLocal "client-local" with
        | .error e => ([], .error (.returned e))
        | .ok () =>
          match jobs.toVec job with
          | .error e => ([], .error (.returned e))
          | .ok payload =>
            match writeFrame stream payload with
            | (sent, .error stop) => (sent, .error stop)
            | (sent, .ok ()) =>
              match readFrame stream.recv with
              | .error stop => (sent, .error stop)
              | .ok bytes =>
                match results.fromSlice bytes with
                | .error e => (sent, .error (.returned e))
                | .ok result => (sent, .ok (recheck job result))

/-- The job of `nauti wgpu run`. -/
def sampleJob (n : UInt64) : WgpuJob where
  jobId := "m10-add"
  op := "add_f32"
  n := n
  a := (List.range n.toNat).map Float32.ofNat
  b := (List.range n.toNat).map fun i => Float32.ofNat i * 0.5

/-- What `nauti wgpu run` ends with, once the address is parsed. -/
def wgpuRun (jobs : Codec WgpuJob) (results : Codec WgpuResult) (connect : SocketAddr)
    (dial : Except String TcpStream) (n : UInt64) : Except Stop WgpuResult :=
  match (submit jobs results connect dial (sampleJob n)).2 with
  | .error stop => .error stop
  | .ok result =>
    if result.status ≠ "ok" then
      .error (.returned s!"wgpu-remote job status {result.status}")
    else .ok result

/-! ## The server as a resource -/

def defaultPort : UInt16 := 9110

def defaultResource (node : String) : Resource where
  id := "local.gpu.wgpu-remote"
  kind := .gpu
  capacity := 1
  unit := "remote-job"
  node := node
  state := .available
  exclusive := true
  attributes := .ofList
    [("gpu.transport", "tailscale"), ("gpu.protocol", "wgpu-remote/1"),
      ("gpu.port", toString defaultPort)]

def adapterName : String := "gpu-wgpu-remote"

def scope : String := "gpu-wgpu-remote-tailscale"

/-- `enabled` is whether the feature `wgpu-remote` is on. -/
def wgpuRemoteAdapter {W : Type} (enabled : Bool) : ResourceAdapter W where
  name := adapterName
  attach resource lease w :=
    if resource.kind ≠ .gpu then
      (.error (.incompatibleResourceKind adapterName .gpu resource.kind), w)
    else
      (.ok ⟨resource.id, lease.id, adapterName,
        .ofList [("gpu.transport", "tailscale"), ("gpu.protocol", "wgpu-remote/1")]⟩, w)
  detach := ResourceAdapter.defaultDetach
  capabilityReport _ :=
    { name := adapterName
      scope := scope
      healthy := enabled
      detail := .ofList
        [("transport", "tailscale-cgnat"), ("wgpu", if enabled then "enabled" else "feature-off")] }

/-! ## Client and server -/

/-- A client and the `i`-th connection of a server that is up. The server reads what the client
writes. The client reads what the server writes, or the beginning of it: its read may time out,
or the connection be lost. -/
structure Exchange (server : Server) (bind : SocketAddr) (incoming : List (Except String TcpStream))
    (i : ℕ) (client stream : TcpStream) (peer here : SocketAddr) (job : WgpuJob) : Prop where
  accepted : incoming[i]? = some (.ok stream)
  /-- the two ends agree on their addresses -/
  clientAddr : client.localAddr = .ok peer
  peerAddr : stream.peerAddr = .ok peer
  serverAddr : stream.localAddr = .ok here
  up : stream.recv.rest = (submit server.jobs server.results here (.ok client) job).1
  down : client.recv.rest <+: (server.serve bind (.ok ()) incoming).1[i]?.getD []
  writes : client.writeLength = .ok () ∧ client.writePayload = .ok ()

/-- Some job has an encoding that can be read again, and that is not too large for a frame. -/
def Server.Reads (server : Server) (job : WgpuJob) (payload : List UInt8) : Prop :=
  server.jobs.toVec job = .ok payload ∧ payload.length ≤ 16 * 1024 * 1024 ∧
    server.jobs.fromSlice payload = .ok job

theorem requireTailscale_ok {addr : SocketAddr} (h : isTailscaleIp addr.ip = true) (role : String) :
    requireTailscale addr role = .ok () := if_pos h

theorem writeFrame_ok {stream : TcpStream} {payload : List UInt8} (hsmall : payload.length < 2 ^ 32)
    (hlength : stream.writeLength = .ok ()) (hpayload : stream.writePayload = .ok ()) :
    writeFrame stream payload = (toLeBytes (.ofNat payload.length) ++ payload, .ok ()) := by
  unfold writeFrame
  rw [if_pos hsmall, hlength, hpayload]

/-- What is written of a frame is its beginning, or all of it. -/
theorem writeFrame_prefix {stream : TcpStream} {payload : List UInt8}
    (hsmall : payload.length < 2 ^ 32) :
    (writeFrame stream payload).1 <+: toLeBytes (.ofNat payload.length) ++ payload := by
  unfold writeFrame
  rw [if_pos hsmall]
  dsimp only
  rcases stream.writeLength with e | ⟨⟩
  · exact List.nil_prefix
  · rcases stream.writePayload with e | ⟨⟩
    · exact List.prefix_append _ _
    · exact List.prefix_refl _

/-- A read where a frame comes in, or the beginning of one. The length is looked at as soon as
it is there. -/
theorem readFrame_of_prefix {recv : Source UInt8 Interruption} {payload : List UInt8}
    (hsmall : payload.length < 2 ^ 32)
    (hpart : recv.rest <+: toLeBytes (.ofNat payload.length) ++ payload) :
    readFrame recv =
      if recv.rest.length < 4 then .error (.ofRead recv.endError)
      else if 16 * 1024 * 1024 < payload.length then .error (.returned "frame too large")
      else if recv.rest.length < 4 + payload.length then .error (.ofRead recv.endError)
      else .ok payload := by
  have hlen : (UInt32.ofNat payload.length).toNat = payload.length :=
    UInt32.toNat_ofNat_of_lt' hsmall
  unfold readFrame
  by_cases hheader : recv.rest.length < 4
  · obtain ⟨recv₁, hread⟩ := recv.readExact_of_lt hheader
    rw [hread, if_pos hheader]
  obtain ⟨recv₁, hread, hleft, hending⟩ := recv.readExact_of_le (Nat.not_lt.mp hheader)
  rw [hread, if_neg hheader]
  have htake : recv.rest.take 4 = toLeBytes (.ofNat payload.length) := by
    obtain ⟨more, hmore⟩ := hpart
    have hfour := congrArg (List.take 4) hmore
    rw [List.take_append_of_le_length (Nat.not_lt.mp hheader),
      List.take_left' (length_toLeBytes _)] at hfour
    exact hfour
  dsimp only
  rw [htake, fromLeBytes_toLeBytes, hlen]
  by_cases hlarge : 16 * 1024 * 1024 < payload.length
  · rw [if_pos hlarge, if_pos hlarge]
  rw [if_neg hlarge, if_neg hlarge]
  have hleftLength : recv₁.rest.length = recv.rest.length - 4 := by
    rw [hleft, List.length_drop]
  by_cases hcomplete : recv.rest.length < 4 + payload.length
  · -- the read breaks off in the payload
    obtain ⟨recv₂, hbuf⟩ := recv₁.readExact_of_lt (show recv₁.rest.length < payload.length by omega)
    have herror : recv₁.endError = recv.endError := by
      unfold Source.endError
      rw [hending]
    rw [hbuf, if_pos hcomplete, herror]
  · obtain ⟨recv₂, hbuf, -, -⟩ :=
      recv₁.readExact_of_le (show payload.length ≤ recv₁.rest.length by omega)
    have hwhole : recv.rest = toLeBytes (.ofNat payload.length) ++ payload := by
      refine hpart.eq_of_length_le ?_
      rw [List.length_append, length_toLeBytes]
      omega
    rw [hbuf, if_neg hcomplete, hleft, hwhole, List.drop_left' (length_toLeBytes _),
      List.take_length]

theorem recheck_eq_self {job : WgpuJob} {result : WgpuResult}
    (h : result.status = "ok" → correctnessOk job result.out = true) :
    recheck job result = result := by
  apply if_neg
  intro hfalse
  rw [Bool.and_eq_true, beq_iff_eq] at hfalse
  rw [h hfalse.1] at hfalse
  cases hfalse.2

/-- A result that is `ok` after the check is borne out, whatever the server sent. -/
theorem recheck_ok {job : WgpuJob} {result : WgpuResult}
    (h : (recheck job result).status = "ok") :
    correctnessOk job (recheck job result).out = true := by
  unfold recheck at h ⊢
  split at h
  · have hincorrect : "incorrect" = "ok" := h
    exact absurd hincorrect (by decide)
  · rename_i hkept
    rw [if_neg hkept]
    rw [Bool.and_eq_true, not_and, beq_iff_eq] at hkept
    simpa using hkept h

/-- A server says `ok` only of sums that pass the check of the client. -/
theorem Server.resultOf_honest {server : Server} {i : ℕ} {peer here : SocketAddr} {job : WgpuJob}
    {result : WgpuResult} (h : server.resultOf i peer here job = some result)
    (hok : result.status = "ok") : correctnessOk job result.out = true := by
  obtain ⟨reply, -, rfl⟩ := Option.map_eq_some_iff.mp h
  rcases reply with error | ⟨out, backend, name⟩
  · have herror : "error" = "ok" := hok
    exact absurd herror (by decide)
  · change (if correctnessOk job out then "ok" else "incorrect") = "ok" at hok
    by_contra hwrong
    rw [if_neg hwrong] at hok
    exact absurd hok (by decide)

theorem tailscale_of_ok {addr : SocketAddr} {role : String}
    (h : requireTailscale addr role = .ok ()) :
    isTailscaleIp addr.ip = true := by
  unfold requireTailscale at h
  split at h
  · assumption
  · cases h

/-- What a submission that returns a result has checked. -/
theorem submit_ok {jobs : Codec WgpuJob} {results : Codec WgpuResult} {connect : SocketAddr}
    {dial : Except String TcpStream} {job : WgpuJob} {result : WgpuResult}
    (h : (submit jobs results connect dial job).2 = .ok result) :
    (∃ sent, result = recheck job sent) ∧ isTailscaleIp connect.ip = true ∧
      ∃ stream clientLocal, dial = .ok stream ∧ stream.localAddr = .ok clientLocal ∧
        isTailscaleIp clientLocal.ip = true := by
  unfold submit at h
  rcases hconnect : requireTailscale connect "connect" with e | ⟨⟩
  · simp [hconnect] at h
  rcases dial with e | stream
  · simp [hconnect] at h
  rcases hlocal : stream.localAddr with e | clientLocal
  · simp [hconnect, hlocal] at h
  rcases hclient : requireTailscale clientLocal "client-local" with e | ⟨⟩
  · simp [hconnect, hlocal, hclient] at h
  rcases hvec : jobs.toVec job with e | payload
  · simp [hconnect, hlocal, hclient, hvec] at h
  rcases hwrite : writeFrame stream payload with ⟨sent, stop | ⟨⟩⟩
  · simp [hconnect, hlocal, hclient, hvec, hwrite] at h
  rcases hread : readFrame stream.setReadTimeout.recv with stop | bytes
  · simp [hconnect, hlocal, hclient, hvec, hwrite, hread] at h
  rcases hresult : results.fromSlice bytes with e | sentResult
  · simp [hconnect, hlocal, hclient, hvec, hwrite, hread, hresult] at h
  simp only [hconnect, localAddr_setReadTimeout, hlocal, hclient, hvec, writeFrame_setReadTimeout,
    hwrite, hread, hresult] at h
  exact ⟨⟨sentResult, (Except.ok.inj h).symm⟩, tailscale_of_ok hconnect, stream, clientLocal, rfl,
    hlocal, tailscale_of_ok hclient⟩

theorem writeFrame_error {stream : TcpStream} {payload sent : List UInt8} {stop : Stop}
    (h : writeFrame stream payload = (sent, .error stop)) : ∃ e, stop = .returned e := by
  unfold writeFrame at h
  split at h
  · dsimp only at h
    split at h
    · exact ⟨_, (Except.error.inj (Prod.mk.inj h).2).symm⟩
    · split at h
      · exact ⟨_, (Except.error.inj (Prod.mk.inj h).2).symm⟩
      · cases h
  · exact ⟨_, (Except.error.inj (Prod.mk.inj h).2).symm⟩

/-- A read that breaks off on a stream with a timeout ends in an error. -/
theorem endError_setReadTimeout (stream : TcpStream) {recv : Source UInt8 Interruption}
    (hending : recv.ending = stream.setReadTimeout.recv.ending) :
    ∃ e, Stop.ofRead recv.endError = .returned e := by
  unfold Source.endError
  rw [hending]
  dsimp only [TcpStream.setReadTimeout]
  rcases stream.recv.ending with _ | error | _
  · exact ⟨_, rfl⟩
  · exact ⟨_, rfl⟩
  · exact ⟨_, rfl⟩

theorem readFrame_setReadTimeout {stream : TcpStream} {stop : Stop}
    (h : readFrame stream.setReadTimeout.recv = .error stop) : ∃ e, stop = .returned e := by
  unfold readFrame at h
  by_cases hheader : stream.setReadTimeout.recv.rest.length < 4
  · obtain ⟨recv₁, hread⟩ := stream.setReadTimeout.recv.readExact_of_lt hheader
    rw [hread] at h
    obtain ⟨e, he⟩ := endError_setReadTimeout stream rfl
    exact ⟨e, (Except.error.inj h).symm.trans he⟩
  obtain ⟨recv₁, hread, -, hending⟩ :=
    stream.setReadTimeout.recv.readExact_of_le (Nat.not_lt.mp hheader)
  rw [hread] at h
  dsimp only at h
  split at h
  · exact ⟨_, (Except.error.inj h).symm⟩
  by_cases hpayload : recv₁.rest.length <
      (fromLeBytes (stream.setReadTimeout.recv.rest.take 4)).toNat
  · obtain ⟨recv₂, hbuf⟩ := recv₁.readExact_of_lt hpayload
    rw [hbuf] at h
    obtain ⟨e, he⟩ := endError_setReadTimeout stream hending
    exact ⟨e, (Except.error.inj h).symm.trans he⟩
  · obtain ⟨recv₂, hbuf, -, -⟩ := recv₁.readExact_of_le (Nat.not_lt.mp hpayload)
    rw [hbuf] at h
    cases h

/-- The client comes back, with a result or an error, whatever is at the other end. -/
theorem submit_returns {jobs : Codec WgpuJob} {results : Codec WgpuResult} {connect : SocketAddr}
    {dial : Except String TcpStream} {job : WgpuJob} {stop : Stop}
    (h : (submit jobs results connect dial job).2 = .error stop) : ∃ e, stop = .returned e := by
  unfold submit at h
  -- each step that fails is the end, with its error
  split at h
  · exact ⟨_, (Except.error.inj h).symm⟩
  split at h
  · exact ⟨_, (Except.error.inj h).symm⟩
  dsimp only at h
  split at h
  · exact ⟨_, (Except.error.inj h).symm⟩
  split at h
  · exact ⟨_, (Except.error.inj h).symm⟩
  split at h
  · exact ⟨_, (Except.error.inj h).symm⟩
  split at h
  · rename_i hwrite
    obtain rfl := Except.error.inj h
    exact writeFrame_error hwrite
  split at h
  · rename_i hread
    obtain rfl := Except.error.inj h
    exact readFrame_setReadTimeout hread
  split at h
  · exact ⟨_, (Except.error.inj h).symm⟩
  · cases h

/-- Whoever is at the other end: `nauti wgpu run` succeeds only with sums that it has checked,
over a connection between two Tailscale addresses. -/
theorem wgpuRun_checked {jobs : Codec WgpuJob} {results : Codec WgpuResult} {connect : SocketAddr}
    {dial : Except String TcpStream} {n : UInt64} {result : WgpuResult}
    (h : wgpuRun jobs results connect dial n = .ok result) :
    correctnessOk (sampleJob n) result.out = true ∧ isTailscaleIp connect.ip = true ∧
      ∃ stream clientLocal, dial = .ok stream ∧ stream.localAddr = .ok clientLocal ∧
        isTailscaleIp clientLocal.ip = true := by
  unfold wgpuRun at h
  rcases hsubmit : (submit jobs results connect dial (sampleJob n)).2 with stop | returned
  · rw [hsubmit] at h
    cases h
  rw [hsubmit] at h
  dsimp only at h
  split at h
  · cases h
  rename_i hok
  obtain rfl := Except.ok.inj h
  obtain ⟨⟨sent, hsent⟩, haddrs⟩ := submit_ok hsubmit
  refine ⟨?_, haddrs⟩
  rw [not_not] at hok
  subst hsent
  exact recheck_ok hok

section Submission

variable {server : Server} {bind : SocketAddr} {incoming : List (Except String TcpStream)} {i : ℕ}
  {client stream : TcpStream} {peer here : SocketAddr} {job : WgpuJob} {payload : List UInt8}

/-- The client up to the reply. -/
theorem submit_eq (hlocal : client.localAddr = .ok peer) (hpeer : isTailscaleIp peer.ip = true)
    (hhere : isTailscaleIp here.ip = true) (hreads : server.Reads job payload)
    (hwrites : client.writeLength = .ok () ∧ client.writePayload = .ok ()) :
    submit server.jobs server.results here (.ok client) job =
      (toLeBytes (.ofNat payload.length) ++ payload,
        match readFrame client.setReadTimeout.recv with
        | .error stop => .error stop
        | .ok bytes =>
          match server.results.fromSlice bytes with
          | .error e => .error (.returned e)
          | .ok result => .ok (recheck job result)) := by
  obtain ⟨hvec, hsize, -⟩ := hreads
  have hsmall : payload.length < 2 ^ 32 := by omega
  have hwrite := writeFrame_ok hsmall hwrites.1 hwrites.2
  unfold submit
  simp only [requireTailscale_ok hhere, localAddr_setReadTimeout, hlocal, requireTailscale_ok hpeer,
    hvec, writeFrame_setReadTimeout, hwrite]
  rcases readFrame client.setReadTimeout.recv with stop | bytes
  · rfl
  · dsimp only
    rcases server.results.fromSlice bytes with e | result
    · rfl
    · rfl

/-- The server reads the job, and works on it. -/
theorem Exchange.handled (h : Exchange server bind incoming i client stream peer here job)
    (hpeer : isTailscaleIp peer.ip = true) (hhere : isTailscaleIp here.ip = true)
    (hreads : server.Reads job payload) {result : WgpuResult}
    (hresult : server.resultOf i peer here job = some result) :
    server.handle i (.ok stream) = server.respond stream result := by
  have hframe : readFrame stream.recv = .ok payload := by
    refine readFrame_eq_ok_iff.mpr ⟨hreads.2.1, ?_⟩
    rw [h.up, submit_eq h.clientAddr hpeer hhere hreads h.writes]
  rw [Server.handle_of_job h.peerAddr hpeer h.serverAddr hframe hreads.2.2, hresult]

/-- The loop gets to a connection behind harmless ones. -/
theorem Server.goes_of_harmless (hfits : server.ResultsFit incoming)
    (hearlier : ∀ j < i, ∀ c, incoming[j]? = some c → server.Harmless j c) :
    ∀ j < i, ∀ c, incoming[j]? = some c → (server.handle (0 + j) c).2 = .ok () := by
  intro j hj c hc
  rw [Nat.zero_add]
  refine (Server.handle_ok_iff ?_).mpr (hearlier j hj c hc)
  rintro stream' peer' here' job' result' rfl hsends' hresult'
  exact hfits j stream' peer' here' job' result' hc hsends' hresult'

/-- What the client reads is the beginning of the frame of its own result, or all of it. -/
theorem Exchange.reply (h : Exchange server bind incoming i client stream peer here job)
    (hbind : isTailscaleIp bind.ip = true) (hpeer : isTailscaleIp peer.ip = true)
    (hhere : isTailscaleIp here.ip = true) (hfits : server.ResultsFit incoming)
    (hearlier : ∀ j < i, ∀ c, incoming[j]? = some c → server.Harmless j c)
    (hreads : server.Reads job payload) {result : WgpuResult} {bytes : List UInt8}
    (hresult : server.resultOf i peer here job = some result)
    (hbytes : server.results.toVec result = .ok bytes) (hsmall : bytes.length < 2 ^ 32) :
    client.recv.rest <+: toLeBytes (.ofNat bytes.length) ++ bytes := by
  have hdown := h.down
  rw [Server.serve_of_tailscale hbind,
    Server.acceptLoop_getElem? (Server.goes_of_harmless hfits hearlier) h.accepted, Nat.zero_add,
    h.handled hpeer hhere hreads hresult] at hdown
  refine hdown.trans ?_
  unfold Server.respond
  rw [hbytes]
  exact writeFrame_prefix hsmall

/-- A job that is submitted to a server, when the kernel returns and the connections before it
have been harmless: its result is computed, and once the reply has come in the client gets what
its decoder reads of it, or the decoder's error. A reply that is too long for a frame is refused
by its length, and a read that breaks off before ends in the error of the read. -/
theorem submissions_answered
    (hexchange : Exchange server bind incoming i client stream peer here job)
    (hbind : isTailscaleIp bind.ip = true) (hpeer : isTailscaleIp peer.ip = true)
    (hhere : isTailscaleIp here.ip = true) (hfits : server.ResultsFit incoming)
    (hearlier : ∀ j < i, ∀ c, incoming[j]? = some c → server.Harmless j c)
    (hreads : server.Reads job payload) (hreturns : server.KernelReturns i job)
    (hencodes : ∀ result, server.resultOf i peer here job = some result →
      server.Encodes result) :
    ∃ result bytes, server.resultOf i peer here job = some result ∧
      server.results.toVec result = .ok bytes ∧ recheck job result = result ∧
      (submit server.jobs server.results here (.ok client) job).2 =
        if client.recv.rest.length < 4 then
          .error (.ofRead client.setReadTimeout.recv.endError)
        else if 16 * 1024 * 1024 < bytes.length then .error (.returned "frame too large")
        else if client.recv.rest.length < 4 + bytes.length then
          .error (.ofRead client.setReadTimeout.recv.endError)
        else
          match server.results.fromSlice bytes with
          | .error e => .error (.returned e)
          | .ok read => .ok (recheck job read) := by
  obtain ⟨reply, hreply⟩ :=
    Option.isSome_iff_exists.mp (Server.executeAdd_isSome_iff.mpr hreturns)
  obtain ⟨result, hresult⟩ : ∃ result, server.resultOf i peer here job = some result := by
    unfold Server.resultOf
    rw [hreply]
    exact ⟨_, rfl⟩
  obtain ⟨bytes, hbytes, hsmall⟩ := hencodes result hresult
  refine ⟨result, bytes, hresult, hbytes, recheck_eq_self (Server.resultOf_honest hresult), ?_⟩
  have hpart : client.setReadTimeout.recv.rest <+: toLeBytes (.ofNat bytes.length) ++ bytes :=
    hexchange.reply hbind hpeer hhere hfits hearlier hreads hresult hbytes hsmall
  rw [submit_eq hexchange.clientAddr hpeer hhere hreads hexchange.writes,
    readFrame_of_prefix hsmall hpart, rest_setReadTimeout]
  -- the client fails as the read fails
  by_cases hheader : client.recv.rest.length < 4
  · simp only [if_pos hheader]
  by_cases hlarge : 16 * 1024 * 1024 < bytes.length
  · simp only [if_neg hheader, if_pos hlarge]
  by_cases hcut : client.recv.rest.length < 4 + bytes.length
  · simp only [if_neg hheader, if_neg hlarge, if_pos hcut]
  · simp only [if_neg hheader, if_neg hlarge, if_neg hcut]

end Submission

namespace Samples

/-- The JSON of `sampleJob 2`. -/
def sampleJobText : List UInt8 :=
  octets ("\x7b\"job_id\":\"m10-add\",\"op\":\"add_f32\",\"n\":2,\"a\":[0.0,1.0]," ++
    "\"b\":[0.0,0.5]\x7d")

def sampleSums : List Float32 := cpuAdd (sampleJob 2).a (sampleJob 2).b

/-- The result of `sampleJob 2`, with a status. -/
def sampleResult (status : String) : WgpuResult where
  jobId := "m10-add"
  status := status
  backend := "cpu-reference"
  adapterName := "none"
  out := sampleSums
  elapsedMs := 0
  serverLocal := serverAddr.toString
  clientPeer := clientAddr.toString

def sampleResultText (status : String) : List UInt8 :=
  octets ("\x7b\"job_id\":\"m10-add\",\"status\":\"" ++ status ++
    "\",\"backend\":\"cpu-reference\",\"adapter_name\":\"none\",\"out\":[0.0,1.5]," ++
    "\"elapsed_ms\":0,\"server_local\":\"" ++ serverAddr.toString ++ "\",\"client_peer\":\"" ++
    clientAddr.toString ++ "\"\x7d")

def sampleStatus : String := if correctnessOk (sampleJob 2) sampleSums then "ok" else "incorrect"

/-- The server without a GPU, and the JSON of `sampleJob 2` and of its result. -/
def pairedServer : Server where
  jobs :=
    { toVec := fun job =>
        if job.jobId = "m10-add" ∧ job.op = "add_f32" ∧ job.n = 2 then .ok sampleJobText
        else .error "not rendered"
      fromSlice := fun bytes =>
        if bytes = sampleJobText then .ok (sampleJob 2) else .error "expected value" }
  results :=
    { toVec := fun result =>
        if result.out.length = 2 then .ok (sampleResultText result.status)
        else .error "not rendered"
      fromSlice := fun bytes =>
        if bytes = sampleResultText "ok" then .ok (sampleResult "ok")
        else if bytes = sampleResultText "incorrect" then .ok (sampleResult "incorrect")
        else .error "expected value" }
  kernel := none
  elapsedMs := fun _ => 0

def pairedStream : TcpStream :=
  sending clientAddr (toLeBytes (.ofNat sampleJobText.length) ++ sampleJobText)

def clientStream : TcpStream where
  peerAddr := .ok serverAddr
  localAddr := .ok clientAddr
  recv := ⟨toLeBytes (.ofNat (sampleResultText sampleStatus).length) ++
    sampleResultText sampleStatus, fun _ => 0, 0, none⟩
  writeLength := .ok ()
  writePayload := .ok ()

theorem length_sampleResultText : (sampleResultText sampleStatus).length ≤ 256 := by
  unfold sampleStatus
  split
  · decide +kernel
  · decide +kernel

theorem pairedServer_reads : pairedServer.Reads (sampleJob 2) sampleJobText := by
  have hvec : pairedServer.jobs.toVec (sampleJob 2) = .ok sampleJobText := by
    simp [pairedServer, sampleJob]
  have hread : pairedServer.jobs.fromSlice sampleJobText = .ok (sampleJob 2) := by
    simp [pairedServer]
  exact ⟨hvec, by decide +kernel, hread⟩

theorem pairedServer_resultOf (i : ℕ) : pairedServer.resultOf i clientAddr serverAddr
    (sampleJob 2) = some (sampleResult sampleStatus) := rfl

theorem pairedServer_toVec (status : String) :
    pairedServer.results.toVec (sampleResult status) = .ok (sampleResultText status) := by
  have hlength : sampleSums.length = 2 := rfl
  simp only [pairedServer, sampleResult, hlength, if_true]

theorem pairedServer_fromSlice :
    pairedServer.results.fromSlice (sampleResultText sampleStatus) =
      .ok (sampleResult sampleStatus) := by
  have hother : sampleResultText "incorrect" ≠ sampleResultText "ok" := by decide +kernel
  unfold sampleStatus
  split
  · simp only [pairedServer, if_true]
  · simp only [pairedServer, if_neg hother, if_true]

theorem pairedServer_encodes : pairedServer.Encodes (sampleResult sampleStatus) := by
  refine ⟨_, pairedServer_toVec sampleStatus, ?_⟩
  have hlength := length_sampleResultText
  omega

theorem pairedServer_resultsFit : pairedServer.ResultsFit [.ok pairedStream] := by
  intro i stream peer here job result hstream hsends hresult
  obtain rfl : sampleJob 2 = job := by
    obtain ⟨payload, -, hread⟩ := hsends.frame
    change (if payload = sampleJobText then Except.ok (sampleJob 2) else .error "expected value") =
      .ok job at hread
    split at hread
    · exact Except.ok.inj hread
    · cases hread
  obtain ⟨rfl, rfl⟩ : i = 0 ∧ pairedStream = stream := by
    match i with
    | 0 => exact ⟨rfl, Except.ok.inj (Option.some.inj hstream)⟩
  obtain rfl : clientAddr = peer := Except.ok.inj hsends.peerAddr
  obtain rfl : serverAddr = here := Except.ok.inj hsends.localAddr
  obtain rfl := Option.some.inj hresult
  exact pairedServer_encodes

theorem exchange_paired : Exchange pairedServer serverAddr [.ok pairedStream] 0 clientStream
    pairedStream clientAddr serverAddr (sampleJob 2) where
  accepted := rfl
  clientAddr := rfl
  peerAddr := rfl
  serverAddr := rfl
  up := by
    rw [submit_eq rfl (by decide) (by decide) pairedServer_reads ⟨rfl, rfl⟩]
    rfl
  down := by
    have hframe : readFrame pairedStream.recv = .ok sampleJobText :=
      readFrame_eq_ok_iff.mpr ⟨by decide +kernel, List.prefix_refl _⟩
    have hlength := length_sampleResultText
    have hrespond : pairedServer.respond pairedStream (sampleResult sampleStatus) =
        (clientStream.recv.rest, .ok ()) :=
      Server.respond_of_ok (pairedServer_toVec sampleStatus) (by omega) rfl rfl
    rw [Server.serve_of_tailscale (by decide), Server.acceptLoop_getElem? (by omega) rfl,
      Server.handle_of_job rfl (by decide) rfl hframe pairedServer_reads.2.2,
      pairedServer_resultOf]
    dsimp only
    rw [hrespond]
    exact List.prefix_refl _
  writes := ⟨rfl, rfl⟩

end Samples

open Samples in
theorem submissions_answered_paired :
    (submit pairedServer.jobs pairedServer.results serverAddr (.ok clientStream)
      (sampleJob 2)).2 = .ok (sampleResult sampleStatus) := by
  have hlength := length_sampleResultText
  obtain ⟨result, bytes, hresult, hbytes, hkept, hsubmit⟩ := submissions_answered exchange_paired
    (by decide) (by decide) (by decide) pairedServer_resultsFit (by omega) pairedServer_reads
    (by intro kernel hkernel; cases hkernel) (by
      intro result hresult
      rw [pairedServer_resultOf] at hresult
      obtain rfl := Option.some.inj hresult
      exact pairedServer_encodes)
  rw [pairedServer_resultOf] at hresult
  obtain rfl := Option.some.inj hresult
  rw [pairedServer_toVec] at hbytes
  obtain rfl := Except.ok.inj hbytes
  have hwhole : clientStream.recv.rest.length = 4 + (sampleResultText sampleStatus).length := by
    unfold clientStream
    rw [List.length_append, length_toLeBytes]
  rw [hsubmit, if_neg (by omega), if_neg (by omega), if_neg (by omega), pairedServer_fromSlice]
  dsimp only
  rw [hkept]

end Wgpu

end NautiFabric
