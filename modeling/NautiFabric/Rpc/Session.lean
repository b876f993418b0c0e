import NautiFabric.Rpc.Agent
import NautiFabric.Rpc.Limits
import NautiFabric.Lib.Outcome

/-!
# NautiFabric.Rpc.Session — controllers and an agent

A controller calls the agent over a stream of its own: `call` writes the frame of its request
and waits for a frame to read. The agent takes one request at a time off each stream,
authorizes it, dispatches it against the fabric that all streams and the agent's own calls
share, and writes the response. Bytes arrive in any portions, the sections of the dispatches
interleave, and any stream can be lost at any time.

A call can also end without its response: it returns an error, or its caller stops waiting, as
`nauti fleet` does after a few seconds. The client goes on with the stream as it is, with a part
of a request on it, or with the response still to come, so that a later call may read what was
meant for an earlier one. From the first such call on a session is `lapsed`.

`InStep` says what a controller relies on until then: each call that has returned was given an
answer to its own request, and the agent has taken exactly these requests, in order, and at
most that of the call in progress. `sessions_in_step` proves it for every run. Lapsed or not,
the agent takes the requests that were framed on a stream, each once and in order
(`TakesEach`), and the fabric behind the streams goes through no states but those of the
agent's calls (`sessions_refine`).
-/

namespace NautiFabric

open Interleave

variable {W : Type}

/-! ## What answers a request -/

/-- The response is one of those that the request can have. -/
def RpcResponse.Answers : RpcRequest → RpcResponse → Prop
  | _, .error _ => True
  | .ping, .pong => True
  | .inventory, .inventory _ => True
  | .findAvailable query, .findAvailable found => ∀ r ∈ found, query.matches r
  | .leaseExclusive resourceId owner _, .leased lease =>
    lease.resourceId = resourceId ∧ lease.owner = owner
  | .attach _ _, .attached _ => True
  | .release _, .released => True
  | .leaseRenew presented _, .leased lease => lease.id = presented.id
  | .heartbeat _, .pong => True
  | _, _ => False

theorem answers_error (request : RpcRequest) (error : RpcError) :
    RpcResponse.Answers request (.error error) := by
  cases request <;> trivial

/-- The reply of a call that can fail. -/
theorem answers_ofResult {α : Type} {request : RpcRequest} {ok : α → RpcResponse}
    {result : Except FabricError α}
    (h : ∀ value, result = .ok value → RpcResponse.Answers request (ok value)) :
    RpcResponse.Answers request (.ofResult ok result) := by
  rcases result with e | value
  · exact answers_error request _
  · exact h value rfl

/-- The postcondition of a dispatch. -/
abbrev Outcome {α : Type} (P : α → Prop) (p : Call W α) : Prop := p.Yields Section.act P

theorem leaseExclusive_outcome (resourceId owner : String) (ttl : Duration) :
    Outcome (fun result : Except FabricError Lease => ∀ lease, result = .ok lease →
      lease.resourceId = resourceId ∧ lease.owner = owner)
      (leaseExclusive resourceId owner ttl : Call W _) := by
  intro s r _
  have refused : ∀ e, ∀ lease, (.error e : Except FabricError Lease) = .ok lease →
      lease.resourceId = resourceId ∧ lease.owner = owner := by
    rintro e lease ⟨⟩
  rcases r with _ | r
  · exact refused _
  · dsimp only [Prog.bind]
    split
    · exact refused _
    · split
      · exact refused _
      · rintro s' result hreply lease rfl
        have hact : leaseExclusiveSection resourceId owner ttl s' =
            (some (.ok lease), (leaseExclusiveSection resourceId owner ttl s').2) :=
          Prod.ext hreply rfl
        have hbody := body_of_withLeases hact
        dsimp only at hbody
        split at hbody
        · cases hbody
        · split at hbody
          · cases hbody
          · split at hbody
            · cases hbody
            · obtain ⟨hlease, -⟩ := Prod.mk.inj hbody
              obtain rfl := Except.ok.inj (Option.some.inj hlease)
              exact ⟨rfl, rfl⟩

theorem renewLease_outcome (presented : Lease) (ttl : Duration) :
    Outcome (fun result : Except FabricError Lease => ∀ lease, result = .ok lease →
      lease.id = presented.id) (renewLease presented ttl : Call W _) := by
  rintro s result hreply lease rfl
  have hact : renewLeaseSection presented ttl s =
      (some (.ok lease), (renewLeaseSection presented ttl s).2) := Prod.ext hreply rfl
  have hbody := body_of_withLeases hact
  dsimp only at hbody
  split at hbody
  · cases hbody
  · rename_i active hrec
    split at hbody
    · cases hbody
    · obtain ⟨hlease, -⟩ := Prod.mk.inj hbody
      obtain rfl := Except.ok.inj (Option.some.inj hlease)
      exact (recorded?_eq_some.mp hrec).2

theorem findAvailable_outcome (query : ResourceRequest) (order : IterOrder) :
    Outcome (fun found : List Resource => ∀ r ∈ found, query.matches r)
      (findAvailable query order : Call W _) := by
  intro s found hreply
  have hact : findAvailableSection query order s =
      (some found, (findAvailableSection query order s).2) := Prod.ext hreply rfl
  have hbody := body_of_withLeases hact
  obtain ⟨hfound, -⟩ := Prod.mk.inj hbody
  obtain rfl := Option.some.inj hfound
  intro r hr
  obtain ⟨-, hmatches⟩ := List.mem_filter.mp hr
  rw [Bool.and_eq_true] at hmatches
  exact hmatches.1

/-- Whatever runs in between, a dispatch ends in an answer to its request. -/
theorem dispatch_outcome (order : IterOrder) (request : RpcRequest) :
    Outcome (RpcResponse.Answers request) (dispatch order request : Call W _) := by
  have anything : ∀ {α : Type} (p : Call W α), Outcome (fun _ => True) p := by
    intro α p
    induction p with
    | done a => trivial
    | atomic l next ih => exact fun s r _ => ih r
  cases request with
  | ping => trivial
  | inventory => exact Prog.Yields.bind (anything _) fun found _ => trivial
  | findAvailable query => exact (findAvailable_outcome query order).bind fun found h => h
  | leaseExclusive resourceId owner ttlSecs =>
      exact (leaseExclusive_outcome resourceId owner _).bind fun result h => answers_ofResult h
  | attach adapter lease =>
      exact Prog.Yields.bind (anything _) fun result _ => answers_ofResult fun _ _ => trivial
  | release lease =>
      exact Prog.Yields.bind (anything _) fun result _ => answers_ofResult fun _ _ => trivial
  | leaseRenew lease ttlSecs =>
      exact (renewLease_outcome lease _).bind fun result h => answers_ofResult h
  | heartbeat node => exact Prog.Yields.bind (anything _) fun _ _ => trivial

/-! ## Streams -/

/-- One direction of a stream. -/
structure Pipe where
  inFlight : List UInt8
  /-- what has arrived and was not read -/
  arrived : List UInt8

namespace Pipe

/-- All that was written and not read. -/
def bytes (p : Pipe) : List UInt8 := p.arrived ++ p.inFlight

def empty : Pipe := ⟨[], []⟩

def write (p : Pipe) (frame : List UInt8) : Pipe := { p with inFlight := p.inFlight ++ frame }

/-- The next `n` bytes arrive. -/
def deliver (n : ℕ) (p : Pipe) : Pipe :=
  ⟨p.inFlight.drop n, p.arrived ++ p.inFlight.take n⟩

theorem bytes_write (p : Pipe) (frame : List UInt8) : (p.write frame).bytes = p.bytes ++ frame := by
  simp [bytes, write]

theorem bytes_deliver (n : ℕ) (p : Pipe) : (p.deliver n).bytes = p.bytes := by
  simp [bytes, deliver]

variable {T : Type} {codec : Codec T}

/-- A frame that has arrived is the first one of all that was written. -/
theorem firstFrame_bytes {p : Pipe} {value : T} {rest : List UInt8}
    (h : firstFrame codec p.arrived = some (value, rest)) :
    firstFrame codec p.bytes = some (value, (Pipe.mk p.inFlight rest).bytes) := by
  obtain ⟨lead, -, harrived, happend⟩ := firstFrame_append h
  have hbytes : p.bytes = lead ++ (rest ++ p.inFlight) := by
    rw [bytes, harrived, List.append_assoc]
  rw [hbytes]
  exact happend _

/-- If what was written can be read at all, it is read as what was written. -/
theorem firstFrame_written {value value' : T} {frame rest : List UInt8}
    (hinverts : codec.Inverts) (hframe : writeFrame codec value = .ok frame)
    (h : firstFrame codec frame = some (value', rest)) : value' = value ∧ rest = [] := by
  obtain ⟨bytes, hencoded, hsmall, rfl⟩ := writeFrame_eq_ok_iff.mp hframe
  by_cases hfits : bytes.length ≤ maxFrameBytes.toNat
  · have hfirst := firstFrame_of_payload hfits (hinverts value bytes hencoded) []
    rw [List.append_nil, h] at hfirst
    exact Prod.mk.inj (Option.some.inj hfirst)
  · -- a longer payload is refused by its length
    have hlen : (UInt32.ofNat bytes.length).toNat = bytes.length :=
      UInt32.toNat_ofNat_of_lt' hsmall
    have hlarge : UInt32.ofNat bytes.length > maxFrameBytes := by
      rw [gt_iff_lt, UInt32.lt_iff_toNat_lt, hlen]
      omega
    have hheader : (toLeBytes (.ofNat bytes.length) ++ bytes).take 4 =
        toLeBytes (.ofNat bytes.length) := List.take_left' (length_toLeBytes _)
    unfold firstFrame at h
    dsimp only at h
    rw [hheader, fromLeBytes_toLeBytes, if_pos (Or.inr (Or.inl hlarge))] at h
    cases h

/-- Where one frame is all that was written, it is the frame that is read, and nothing is
left. -/
theorem read_only {p : Pipe} {value value' : T} {frame rest : List UInt8}
    (hinverts : codec.Inverts) (hframe : writeFrame codec value = .ok frame)
    (hbytes : p.bytes = frame) (h : firstFrame codec p.arrived = some (value', rest)) :
    value' = value ∧ (Pipe.mk p.inFlight rest).bytes = [] := by
  have hfirst := firstFrame_bytes h
  rw [hbytes] at hfirst
  exact firstFrame_written hinverts hframe hfirst

/-- Nothing is read off an empty pipe. -/
theorem not_read {p : Pipe} {value : T} {rest : List UInt8} (hbytes : p.bytes = []) :
    firstFrame codec p.arrived ≠ some (value, rest) := by
  intro h
  have harrived : p.arrived = [] := (List.append_eq_nil_iff.mp hbytes).1
  rw [harrived] at h
  simp [firstFrame] at h

end Pipe

/-! ## The two parties -/

/-- A controller's stream, from the connection to its loss. -/
structure Session (W : Type) where
  remoteId : String
  up : Pipe
  down : Pipe
  /-- the call that waits for its response -/
  waiting : Option RpcRequest
  /-- the calls that have returned a response -/
  calls : List (RpcRequest × RpcResponse)
  /-- the calls that have returned an error -/
  errors : List (RpcRequest × RpcTransportError)
  /-- whether a call has ended between its first byte and its response -/
  lapsed : Bool
  /-- all that the controller has written -/
  sent : List UInt8
  /-- what the agent has taken off the stream -/
  taken : List RpcRequest
  /-- the dispatch in progress -/
  serving : Option (Call W RpcResponse)
  /-- the response that is about to be written -/
  reply : Option RpcResponse
  alive : Bool

namespace Session

/-- A stream that was just opened. -/
def opened (remoteId : String) : Session W :=
  ⟨remoteId, .empty, .empty, none, [], [], false, [], [], none, none, true⟩

/-- The agent is about to read. -/
structure Reads (agent : FabricAgent) (c : Session W) (request : RpcRequest)
    (rest : List UInt8) : Prop where
  alive : c.alive = true
  serving : c.serving = none
  reply : c.reply = none
  frame : firstFrame agent.requests c.up.arrived = some (request, rest)

/-- The request has been taken off the stream. -/
def take (c : Session W) (request : RpcRequest) (rest : List UInt8) : Session W :=
  { c with up.arrived := rest, taken := c.taken ++ [request] }

/-- The controller writes. -/
def write (c : Session W) (bytes : List UInt8) : Session W :=
  { c with up := c.up.write bytes, sent := c.sent ++ bytes }

/-- The moves of a session that do not touch the fabric. -/
inductive Moves (agent : FabricAgent) (c : Session W) : Session W → Prop
  /-- `AgentClient::call` writes its request -/
  | call {request : RpcRequest} {frame : List UInt8} (halive : c.alive = true)
      (hidle : c.waiting = none) (hframe : writeFrame agent.requests request = .ok frame) :
      Moves agent c { c.write frame with waiting := some request }
  /-- the request has no frame, and nothing is written -/
  | refused {request : RpcRequest} {e : RpcTransportError} (hidle : c.waiting = none)
      (hframe : writeFrame agent.requests request = .error e) :
      Moves agent c { c with errors := c.errors ++ [(request, e)] }
  /-- the stream fails while the request is written -/
  | writeFailed {request : RpcRequest} {frame : List UInt8} (n : ℕ) (e : StreamError)
      (hidle : c.waiting = none) (hframe : writeFrame agent.requests request = .ok frame) :
      Moves agent c
        { c.write (frame.take n) with
          errors := c.errors ++ [(request, .io (.failed e))], lapsed := true }
  /-- the call is dropped while it writes its request -/
  | cut {request : RpcRequest} {frame : List UInt8} (n : ℕ) (hidle : c.waiting = none)
      (hframe : writeFrame agent.requests request = .ok frame) :
      Moves agent c { c.write (frame.take n) with lapsed := true }
  | deliverUp (n : ℕ) (halive : c.alive = true) : Moves agent c { c with up := c.up.deliver n }
  | deliverDown (n : ℕ) (halive : c.alive = true) :
      Moves agent c { c with down := c.down.deliver n }
  /-- the provider rejects the request -/
  | rejected {request : RpcRequest} {rest : List UInt8} {rejection : AuthError}
      (hreads : c.Reads agent request rest)
      (hauth : agent.auth.authorize ⟨c.remoteId, agent.localEndpointId⟩ request =
        .error rejection) :
      Moves agent c { c.take request rest with reply := some (.error (.ofAuth rejection)) }
  | replied {response : RpcResponse} {frame : List UInt8} (halive : c.alive = true)
      (hreply : c.reply = some response)
      (hframe : writeFrame agent.responses response = .ok frame) :
      Moves agent c { c with reply := none, down := c.down.write frame }
  /-- `AgentClient::call` reads its response -/
  | returned {request : RpcRequest} {response : RpcResponse} {rest : List UInt8}
      (halive : c.alive = true) (hwaiting : c.waiting = some request)
      (hframe : firstFrame agent.responses c.down.arrived = some (response, rest)) :
      Moves agent c
        { c with
          waiting := none, calls := c.calls ++ [(request, response)], down.arrived := rest }
  /-- what has arrived is no response, or the stream ends behind it -/
  | failed {request : RpcRequest} {e : RpcTransportError} {recv recv' : RecvStream}
      (hwaiting : c.waiting = some request) (harrived : recv.rest = c.down.arrived)
      (hread : readFrame agent.responses recv = (.error e, recv')) :
      Moves agent c
        { c with
          waiting := none, errors := c.errors ++ [(request, e)], lapsed := true
          down.arrived := recv'.rest }
  /-- the call is dropped while it waits; what it has read of a frame is gone -/
  | abandoned {request : RpcRequest} (n : ℕ) (hwaiting : c.waiting = some request)
      (hpart : n < 4 + (fromLeBytes (c.down.arrived.take 4)).toNat) :
      Moves agent c
        { c with waiting := none, lapsed := true, down.arrived := c.down.arrived.drop n }
  | lost : Moves agent c { c with alive := false }

end Session

/-- The fabric, the streams, and the calls of the agent's own process. -/
structure Net (W : Type) where
  shared : Shared W
  sessions : List (Session W)
  own : List (Call W Unit)

namespace Net

/-- The moves of the whole. -/
inductive Step (agent : FabricAgent) : Net W → Net W → Prop
  | connect {s : Shared W} {sessions : List (Session W)} {own : List (Call W Unit)}
      (remoteId : String) : Step agent ⟨s, sessions, own⟩ ⟨s, .opened remoteId :: sessions, own⟩
  | moves {s : Shared W} {own : List (Call W Unit)} (pre post : List (Session W))
      {c c' : Session W} (h : c.Moves agent c') :
      Step agent ⟨s, pre ++ c :: post, own⟩ ⟨s, pre ++ c' :: post, own⟩
  /-- an authorized request comes to its dispatch -/
  | dispatched {s : Shared W} {own : List (Call W Unit)} (pre post : List (Session W))
      {c : Session W} (order : IterOrder) {request : RpcRequest} {rest : List UInt8}
      (hreads : c.Reads agent request rest)
      (hauth : agent.auth.authorize ⟨c.remoteId, agent.localEndpointId⟩ request = .ok ()) :
      Step agent ⟨s, pre ++ c :: post, own⟩
        ⟨s, pre ++ { c.take request rest with serving := some (dispatch order request) } :: post,
          own⟩
  | ran {s s' : Shared W} {own : List (Call W Unit)} (pre post : List (Session W))
      {c : Session W} {sec : Section W} {next : sec.Reply → Call W RpcResponse} {r : sec.Reply}
      (hserving : c.serving = some (.atomic sec next)) (hact : sec.act s = (some r, s')) :
      Step agent ⟨s, pre ++ c :: post, own⟩
        ⟨s', pre ++ { c with serving := some (next r) } :: post, own⟩
  /-- a panic ends the task of the stream -/
  | panicked {s s' : Shared W} {own : List (Call W Unit)} (pre post : List (Session W))
      {c : Session W} {sec : Section W} {next : sec.Reply → Call W RpcResponse}
      (hserving : c.serving = some (.atomic sec next)) (hact : sec.act s = (none, s')) :
      Step agent ⟨s, pre ++ c :: post, own⟩
        ⟨s', pre ++ { c with serving := none, alive := false } :: post, own⟩
  | finished {s : Shared W} {own : List (Call W Unit)} (pre post : List (Session W))
      {c : Session W} {response : RpcResponse} (hserving : c.serving = some (.done response)) :
      Step agent ⟨s, pre ++ c :: post, own⟩
        ⟨s, pre ++ { c with serving := none, reply := some response } :: post, own⟩
  /-- the agent's own calls, and what goes on around it -/
  | own {s s' : Shared W} {sessions : List (Session W)} {own own' : List (Call W Unit)}
      (h : (fabricSystem anySection).Step ⟨s, own⟩ ⟨s', own'⟩) :
      Step agent ⟨s, sessions, own⟩ ⟨s', sessions, own'⟩

/-- Reached from a new fabric, before any stream was opened. -/
def Reachable (agent : FabricAgent) (n : Net W) : Prop :=
  ∃ s : Shared W, s.Fresh ∧ Relation.ReflTransGen (Step agent) ⟨s, [], []⟩ n

/-- The fabric calls in progress. -/
def pending (n : Net W) : List (Call W Unit) :=
  n.sessions.filterMap (fun c => c.serving.map Prog.ignore) ++ n.own

end Net

/-! ## One call at a time -/

/-- How far the call in progress has come, if there is one: its parts are the waiting call,
the bytes on the way up and down, the dispatch, the response, and what was taken, where
`done` are the requests of the calls before. At most one of the parts is there. -/
inductive Phase (agent : FabricAgent) (done : List RpcRequest) : Bool → Option RpcRequest →
    List UInt8 → List UInt8 → Option (Call W RpcResponse) → Option RpcResponse →
      List RpcRequest → Prop
  | idle {alive : Bool} : Phase agent done alive none [] [] none none done
  | asked {alive : Bool} {request : RpcRequest} {frame : List UInt8}
      (hframe : writeFrame agent.requests request = .ok frame) :
      Phase agent done alive (some request) frame [] none none done
  | served {alive : Bool} {request : RpcRequest} {p : Call W RpcResponse}
      (houtcome : Outcome (RpcResponse.Answers request) p) :
      Phase agent done alive (some request) [] [] (some p) none (done ++ [request])
  | answered {alive : Bool} {request : RpcRequest} {response : RpcResponse}
      (hanswers : response.Answers request) :
      Phase agent done alive (some request) [] [] none (some response) (done ++ [request])
  | written {alive : Bool} {request : RpcRequest} {response : RpcResponse} {frame : List UInt8}
      (hanswers : response.Answers request)
      (hframe : writeFrame agent.responses response = .ok frame) :
      Phase agent done alive (some request) [] frame none none (done ++ [request])
  /-- the dispatch panicked -/
  | stuck {request : RpcRequest} :
      Phase agent done false (some request) [] [] none none (done ++ [request])

namespace Session

/-- The session has come so far with its call, and the calls before have their answers, or
have written nothing. -/
structure Orderly (agent : FabricAgent) (c : Session W) : Prop where
  phase : Phase agent (c.calls.map Prod.fst) c.alive c.waiting c.up.bytes c.down.bytes c.serving
    c.reply c.taken
  answered : ∀ pair ∈ c.calls, pair.2.Answers pair.1
  refused : ∀ pair ∈ c.errors, writeFrame agent.requests pair.1 = .error pair.2

variable {agent : FabricAgent} {c c' : Session W}

theorem orderly_opened (agent : FabricAgent) (remoteId : String) :
    (opened remoteId : Session W).Orderly agent :=
  ⟨.idle, by simp [opened], by simp [opened]⟩

/-- A request that is taken is the one that waits. -/
theorem Orderly.take (h : c.Orderly agent) (hinverts : agent.requests.Inverts)
    {request : RpcRequest} {rest : List UInt8} (hreads : c.Reads agent request rest) :
    c.waiting = some request ∧ (c.take request rest).up.bytes = [] ∧ c.down.bytes = [] ∧
      c.taken = c.calls.map Prod.fst := by
  obtain ⟨remoteId, up, down, waiting, calls, errors, lapsed, sent, taken, serving, reply,
    alive⟩ := c
  obtain ⟨-, rfl, rfl, hread⟩ := hreads
  have hphase : Phase agent (calls.map Prod.fst) alive waiting up.bytes down.bytes none none
    taken := h.phase
  generalize hup : up.bytes = upBytes at hphase
  generalize hdown : down.bytes = downBytes at hphase
  -- a frame can be read only where the call has just asked
  cases hphase with
  | idle => exact absurd hread (Pipe.not_read hup)
  | written => exact absurd hread (Pipe.not_read hup)
  | stuck => exact absurd hread (Pipe.not_read hup)
  | asked hframe =>
      obtain ⟨rfl, hrest⟩ := Pipe.read_only hinverts hframe hup hread
      exact ⟨rfl, hrest, rfl, rfl⟩

/-- The request that is dispatched is the one that waits. -/
theorem Orderly.dispatched (h : c.Orderly agent) (hinverts : agent.requests.Inverts)
    {request : RpcRequest} {rest : List UInt8} (hreads : c.Reads agent request rest)
    (order : IterOrder) :
    ({ c.take request rest with serving := some (dispatch order request) } :
      Session W).Orderly agent := by
  obtain ⟨hwaiting, hrest, hdown, htaken⟩ := h.take hinverts hreads
  refine ⟨?_, h.answered, h.refused⟩
  dsimp only
  rw [hrest]
  dsimp only [Session.take]
  rw [hwaiting, hdown, hreads.reply, htaken]
  exact .served (dispatch_outcome order request)

theorem Orderly.rejected (h : c.Orderly agent) (hinverts : agent.requests.Inverts)
    {request : RpcRequest} {rest : List UInt8} (hreads : c.Reads agent request rest)
    (rejection : AuthError) :
    ({ c.take request rest with reply := some (.error (.ofAuth rejection)) } :
      Session W).Orderly agent := by
  obtain ⟨hwaiting, hrest, hdown, htaken⟩ := h.take hinverts hreads
  refine ⟨?_, h.answered, h.refused⟩
  dsimp only
  rw [hrest]
  dsimp only [Session.take]
  rw [hwaiting, hdown, hreads.serving, htaken]
  exact .answered (answers_error request _)

/-- A lapse is for good. -/
theorem Moves.kept (h : c.Moves agent c') (hkept : c'.lapsed = false) : c.lapsed = false := by
  cases h with
  | writeFailed => cases hkept
  | cut => cases hkept
  | failed => cases hkept
  | abandoned => cases hkept
  | _ => exact hkept

theorem Orderly.moves (h : c.Orderly agent) (hrequests : agent.requests.Inverts)
    (hresponses : agent.responses.Inverts) (hmoves : c.Moves agent c') (hkept : c'.lapsed = false) :
    c'.Orderly agent := by
  obtain ⟨remoteId, up, down, waiting, calls, errors, lapsed, sent, taken, serving, reply,
    alive⟩ := c
  have hphase : Phase agent (calls.map Prod.fst) alive waiting up.bytes down.bytes serving reply
    taken := h.phase
  have hanswered := h.answered
  have hrefused := h.refused
  generalize hup : up.bytes = upBytes at hphase
  generalize hdown : down.bytes = downBytes at hphase
  cases hmoves with
  | @call request frame _ hidle hframe =>
      obtain rfl : waiting = none := hidle
      cases hphase with
      | idle =>
          refine ⟨?_, hanswered, hrefused⟩
          dsimp only [Session.write]
          rw [Pipe.bytes_write, hup, hdown]
          exact .asked hframe
  | @refused request e _ hframe =>
      refine ⟨h.phase, hanswered, ?_⟩
      intro pair hpair
      rcases List.mem_append.mp hpair with hpair | hpair
      · exact hrefused pair hpair
      · obtain rfl := List.mem_singleton.mp hpair
        exact hframe
  -- these lapse
  | writeFailed => cases hkept
  | cut => cases hkept
  | failed => cases hkept
  | abandoned => cases hkept
  | deliverUp n =>
      refine ⟨?_, hanswered, hrefused⟩
      dsimp only
      rw [Pipe.bytes_deliver]
      exact h.phase
  | deliverDown n =>
      refine ⟨?_, hanswered, hrefused⟩
      dsimp only
      rw [Pipe.bytes_deliver]
      exact h.phase
  | rejected hreads _ => exact h.rejected hrequests hreads _
  | @replied response frame _ hreply hframe =>
      obtain rfl : reply = some response := hreply
      cases hphase with
      | answered hanswers =>
          refine ⟨?_, hanswered, hrefused⟩
          dsimp only
          rw [Pipe.bytes_write, hup, hdown]
          exact .written hanswers hframe
  | @returned request response rest _ hwaiting hread =>
      obtain rfl : waiting = some request := hwaiting
      cases hphase with
      | asked => exact absurd hread (Pipe.not_read hdown)
      | served => exact absurd hread (Pipe.not_read hdown)
      | answered => exact absurd hread (Pipe.not_read hdown)
      | stuck => exact absurd hread (Pipe.not_read hdown)
      | written hanswers hframe =>
          obtain ⟨rfl, hrest⟩ := Pipe.read_only hresponses hframe hdown hread
          refine ⟨?_, ?_, hrefused⟩
          · dsimp only at hrest ⊢
            rw [hrest, hup, List.map_append]
            exact .idle
          · intro pair hpair
            rcases List.mem_append.mp hpair with hpair | hpair
            · exact hanswered pair hpair
            · obtain rfl := List.mem_singleton.mp hpair
              exact hanswers
  | lost =>
      refine ⟨?_, hanswered, hrefused⟩
      dsimp only
      rw [hup, hdown]
      cases hphase with
      | idle => exact .idle
      | asked hframe => exact .asked hframe
      | served houtcome => exact .served houtcome
      | answered hanswers => exact .answered hanswers
      | written hanswers hframe => exact .written hanswers hframe
      | stuck => exact .stuck

/-- What a dispatch in progress does to its session. -/
theorem Orderly.serving (h : c.Orderly agent) {p : Call W RpcResponse}
    (hserving : c.serving = some p) : ∃ request, c.reply = none ∧
      Outcome (RpcResponse.Answers request) p ∧
      ∀ (alive' : Bool) (serving' : Option (Call W RpcResponse)) (reply' : Option RpcResponse),
        Phase agent (c.calls.map Prod.fst) alive' (some request) [] [] serving' reply'
          (c.calls.map Prod.fst ++ [request]) →
        ({ c with alive := alive', serving := serving', reply := reply' } :
          Session W).Orderly agent := by
  obtain ⟨remoteId, up, down, waiting, calls, errors, lapsed, sent, taken, serving, reply,
    alive⟩ := c
  have hphase : Phase agent (calls.map Prod.fst) alive waiting up.bytes down.bytes serving reply
    taken := h.phase
  obtain rfl : serving = some p := hserving
  generalize hup : up.bytes = upBytes at hphase
  generalize hdown : down.bytes = downBytes at hphase
  cases hphase with
  | @served _ request _ houtcome =>
      refine ⟨request, rfl, houtcome, ?_⟩
      intro alive' serving' reply' hafter
      refine ⟨?_, h.answered, h.refused⟩
      dsimp only
      rw [hup, hdown]
      exact hafter

end Session

namespace Net

variable {agent : FabricAgent} {n n' : Net W}

/-- All sessions but one stay as they are. -/
theorem replaced {P : Session W → Prop} {pre post : List (Session W)} {c c' : Session W}
    (h : ∀ d ∈ pre ++ c :: post, P d) (hmove : P c → P c') : ∀ d ∈ pre ++ c' :: post, P d := by
  intro d hd
  rcases List.mem_append.mp hd with hd | hd
  · exact h d (List.mem_append_left _ hd)
  · rcases List.mem_cons.mp hd with rfl | hd
    · exact hmove (h c (by simp))
    · exact h d (List.mem_append_right _ (List.mem_cons_of_mem _ hd))

theorem orderly_step (hrequests : agent.requests.Inverts) (hresponses : agent.responses.Inverts)
    (h : ∀ c ∈ n.sessions, c.lapsed = false → c.Orderly agent) (hstep : Step agent n n') :
    ∀ c ∈ n'.sessions, c.lapsed = false → c.Orderly agent := by
  cases hstep with
  | connect remoteId =>
      intro c hc hkept
      rcases List.mem_cons.mp hc with rfl | hc
      · exact Session.orderly_opened agent remoteId
      · exact h c hc hkept
  | moves pre post hmoves =>
      exact replaced h fun hc hkept =>
        (hc (hmoves.kept hkept)).moves hrequests hresponses hmoves hkept
  | dispatched pre post order hreads _ =>
      exact replaced h fun hc hkept => (hc hkept).dispatched hrequests hreads order
  | @ran s s' _ pre post c sec next r hserving hact =>
      refine replaced h fun hc hkept => ?_
      obtain ⟨request, hreply, houtcome, hafter⟩ := (hc hkept).serving hserving
      have hnext : Outcome (RpcResponse.Answers request) (next r) :=
        houtcome s r (by rw [hact])
      refine hafter c.alive (some (next r)) c.reply ?_
      rw [hreply]
      exact .served hnext
  | @panicked s s' _ pre post c sec next hserving hact =>
      refine replaced h fun hc hkept => ?_
      obtain ⟨request, hreply, -, hafter⟩ := (hc hkept).serving hserving
      refine hafter false none c.reply ?_
      rw [hreply]
      exact .stuck
  | @finished s _ pre post c response hserving =>
      refine replaced h fun hc hkept => ?_
      obtain ⟨request, -, houtcome, hafter⟩ := (hc hkept).serving hserving
      exact hafter c.alive none (some response) (.answered houtcome)
  | own => exact h

theorem Reachable.orderly (hrequests : agent.requests.Inverts)
    (hresponses : agent.responses.Inverts) (h : n.Reachable agent) :
    ∀ c ∈ n.sessions, c.lapsed = false → c.Orderly agent := by
  obtain ⟨s, -, hsteps⟩ := h
  induction hsteps with
  | refl => simp
  | tail _ hstep ih => exact orderly_step hrequests hresponses ih hstep

end Net

/-! ## Each request once -/

namespace Session

variable {agent : FabricAgent} {c c' : Session W}

/-- What the agent has read off the stream is made of the frames of what it has taken. -/
def Consumes (agent : FabricAgent) (c : Session W) : Prop :=
  ∃ read, c.sent = read ++ c.up.bytes ∧ ∀ more : List UInt8,
    requestsOf agent.requests (read ++ more) = c.taken ++ requestsOf agent.requests more

theorem consumes_opened (agent : FabricAgent) (remoteId : String) :
    (opened remoteId : Session W).Consumes agent :=
  ⟨[], rfl, fun _ => rfl⟩

theorem Consumes.write (h : c.Consumes agent) (bytes : List UInt8) :
    (c.write bytes).Consumes agent := by
  obtain ⟨read, hsent, hread⟩ := h
  refine ⟨read, ?_, hread⟩
  dsimp only [Session.write]
  rw [hsent, Pipe.bytes_write, List.append_assoc]

/-- A request that is taken is framed next. -/
theorem Consumes.take (h : c.Consumes agent) {request : RpcRequest} {rest : List UInt8}
    (hreads : c.Reads agent request rest) : (c.take request rest).Consumes agent := by
  obtain ⟨read, hsent, hread⟩ := h
  obtain ⟨frame, -, harrived, happend⟩ := firstFrame_append hreads.frame
  refine ⟨read ++ frame, ?_, ?_⟩
  · dsimp only [Session.take, Pipe.bytes]
    rw [hsent, Pipe.bytes, harrived, List.append_assoc, List.append_assoc]
  · intro more
    dsimp only [Session.take]
    rw [List.append_assoc, hread, requestsOf_of_some (happend more), List.append_assoc,
      List.singleton_append]

theorem Consumes.moves (h : c.Consumes agent) (hmoves : c.Moves agent c') :
    c'.Consumes agent := by
  cases hmoves with
  | call => exact h.write _
  | writeFailed => exact h.write _
  | cut => exact h.write _
  | rejected hreads _ => exact h.take hreads
  | deliverUp n =>
      obtain ⟨read, hsent, hread⟩ := h
      refine ⟨read, ?_, hread⟩
      dsimp only
      rw [hsent, Pipe.bytes_deliver]
  | _ => exact h

/-- The requests that were framed in what the controller has written, the agent has taken, each
once and in this order, up to those that are still on their way. -/
def TakesEach (agent : FabricAgent) (c : Session W) : Prop :=
  requestsOf agent.requests c.sent = c.taken ++ requestsOf agent.requests c.up.bytes

theorem Consumes.takesEach (h : c.Consumes agent) : c.TakesEach agent := by
  obtain ⟨read, hsent, hread⟩ := h
  rw [TakesEach, hsent]
  exact hread _

end Session

namespace Net

variable {agent : FabricAgent} {n n' : Net W}

theorem consumes_step (h : ∀ c ∈ n.sessions, c.Consumes agent) (hstep : Step agent n n') :
    ∀ c ∈ n'.sessions, c.Consumes agent := by
  cases hstep with
  | connect remoteId =>
      intro c hc
      rcases List.mem_cons.mp hc with rfl | hc
      · exact Session.consumes_opened agent remoteId
      · exact h c hc
  | moves pre post hmoves => exact replaced h fun hc => hc.moves hmoves
  | dispatched pre post order hreads _ => exact replaced h fun hc => hc.take hreads
  | ran pre post => exact replaced h fun hc => hc
  | panicked pre post => exact replaced h fun hc => hc
  | finished pre post => exact replaced h fun hc => hc
  | own => exact h

theorem Reachable.consumes (h : n.Reachable agent) : ∀ c ∈ n.sessions, c.Consumes agent := by
  obtain ⟨s, -, hsteps⟩ := h
  induction hsteps with
  | refl => simp
  | tail _ hstep ih => exact consumes_step ih hstep

end Net

/-! ## In step -/

/-- What a controller relies on: what the calls have returned answers their requests, and the
agent has taken these requests, in this order, and at most that of the call in progress;
between two calls nothing is under way. A call that has returned an error has asked nothing. -/
structure Session.InStep (agent : FabricAgent) (c : Session W) : Prop where
  answered : ∀ pair ∈ c.calls, pair.2.Answers pair.1
  refused : ∀ pair ∈ c.errors, writeFrame agent.requests pair.1 = .error pair.2
  taken : c.taken = c.calls.map Prod.fst ∨
    ∃ request, c.waiting = some request ∧ c.taken = c.calls.map Prod.fst ++ [request]
  between : c.waiting = none → c.taken = c.calls.map Prod.fst ∧ c.up.bytes = [] ∧
    c.down.bytes = [] ∧ c.serving = none ∧ c.reply = none

theorem Session.Orderly.inStep {agent : FabricAgent} {c : Session W} (h : c.Orderly agent) :
    c.InStep agent := by
  obtain ⟨remoteId, up, down, waiting, calls, errors, lapsed, sent, taken, serving, reply,
    alive⟩ := c
  have hphase : Phase agent (calls.map Prod.fst) alive waiting up.bytes down.bytes serving reply
    taken := h.phase
  generalize hup : up.bytes = upBytes at hphase
  generalize hdown : down.bytes = downBytes at hphase
  refine ⟨h.answered, h.refused, ?_, ?_⟩
  · cases hphase with
    | idle => exact Or.inl rfl
    | asked => exact Or.inl rfl
    | served => exact Or.inr ⟨_, rfl, rfl⟩
    | answered => exact Or.inr ⟨_, rfl, rfl⟩
    | written => exact Or.inr ⟨_, rfl, rfl⟩
    | stuck => exact Or.inr ⟨_, rfl, rfl⟩
  · intro hidle
    obtain rfl : waiting = none := hidle
    cases hphase with
    | idle => exact ⟨rfl, hup, hdown, rfl, rfl⟩

/-- However many controllers there are, and however their bytes and the sections of their
calls interleave, every session stays in step until one of its calls lapses; and whatever
becomes of its calls, the agent takes each request once. -/
theorem sessions_in_step {agent : FabricAgent} (hrequests : agent.requests.Inverts)
    (hresponses : agent.responses.Inverts) {n : Net W} (h : n.Reachable agent) :
    ∀ c ∈ n.sessions, (c.lapsed = false → c.InStep agent) ∧ c.TakesEach agent := fun c hc =>
  ⟨fun hkept => (h.orderly hrequests hresponses c hc hkept).inStep, (h.consumes c hc).takesEach⟩

/-! ## A call over the network is a dispatch -/

namespace Net

variable {agent : FabricAgent}

/-- A dispatch that is not interrupted runs to its end. -/
theorem steps_of_dispatch {s s' : Shared W} {pre post : List (Session W)} {c : Session W}
    {own : List (Call W Unit)} {p : Call W RpcResponse} {response : RpcResponse}
    (hserving : c.serving = some p) (hrun : p.run Section.act s = (some response, s')) :
    Relation.ReflTransGen (Step agent) ⟨s, pre ++ c :: post, own⟩
      ⟨s', pre ++ { c with serving := none, reply := some response } :: post, own⟩ := by
  induction p generalizing s c with
  | done a =>
      obtain ⟨ha, rfl⟩ := Prod.mk.inj hrun
      obtain rfl := Option.some.inj ha
      exact .single (.finished pre post hserving)
  | atomic sec next ih =>
      rcases hact : sec.act s with ⟨_ | r, s₁⟩
      · rw [Prog.run_atomic_none hact] at hrun
        cases hrun
      · rw [Prog.run_atomic_some hact] at hrun
        have hrest := ih r (s := s₁) (c := { c with serving := some (next r) }) rfl hrun
        exact .head (.ran pre post hserving hact) hrest

end Net

theorem Pipe.empty_of_bytes {p : Pipe} (h : p.bytes = []) : p = Pipe.empty := by
  obtain ⟨inFlight, arrived⟩ := p
  obtain ⟨rfl, rfl⟩ := List.append_eq_nil_iff.mp h
  rfl

/-- All that was written on an empty pipe arrives. -/
theorem Pipe.arrived_deliver (frame : List UInt8) :
    (Pipe.empty.write frame).deliver frame.length = ⟨[], frame⟩ := by
  simp [Pipe.deliver, Pipe.write, Pipe.empty]

/-- A frame that was written is read, and nothing is left. -/
theorem firstFrame_of_written {T : Type} {codec : Codec T} (hinverts : codec.Inverts) {value : T}
    (hfits : codec.Fits value) {frame : List UInt8} (hframe : writeFrame codec value = .ok frame) :
    firstFrame codec frame = some (value, []) := by
  obtain ⟨written, hwritten, hfirst⟩ := firstFrame_writeFrame hinverts hfits
  rw [hframe] at hwritten
  obtain rfl := Except.ok.inj hwritten
  simpa using hfirst []

section OneCall

variable {agent : FabricAgent} {s s' : Shared W} {pre post : List (Session W)}
  {own : List (Call W Unit)} {request : RpcRequest} {response : RpcResponse}

/-- A call on an idle stream, up to the response that the agent writes. -/
theorem steps_to_response (hrequests : agent.requests.Inverts) {remoteId : String}
    {calls : List (RpcRequest × RpcResponse)} {errors : List (RpcRequest × RpcTransportError)}
    {lapsed : Bool} {sent asked answer : List UInt8} {taken : List RpcRequest} (order : IterOrder)
    (hauth : agent.auth.authorize ⟨remoteId, agent.localEndpointId⟩ request = .ok ())
    (hrun : (dispatch order request).run Section.act s = (some response, s'))
    (hfits : agent.requests.Fits request) (hasked : writeFrame agent.requests request = .ok asked)
    (hanswer : writeFrame agent.responses response = .ok answer) :
    Relation.ReflTransGen (Net.Step agent)
      ⟨s, pre ++ ⟨remoteId, .empty, .empty, none, calls, errors, lapsed, sent, taken, none, none,
        true⟩ :: post, own⟩
      ⟨s', pre ++ ⟨remoteId, .empty, Pipe.empty.write answer, some request, calls, errors, lapsed,
        sent ++ asked, taken ++ [request], none, none, true⟩ :: post, own⟩ := by
  have hfirst := firstFrame_of_written hrequests hfits hasked
  -- the session, at each stage of its call
  let at_ (up down : Pipe) (taken : List RpcRequest) (serving : Option (Call W RpcResponse))
      (reply : Option RpcResponse) : Session W :=
    ⟨remoteId, up, down, some request, calls, errors, lapsed, sent ++ asked, taken, serving, reply,
      true⟩
  have hcall : Net.Step agent
      ⟨s, pre ++ ⟨remoteId, .empty, .empty, none, calls, errors, lapsed, sent, taken, none, none,
        true⟩ :: post, own⟩
      ⟨s, pre ++ at_ (Pipe.empty.write asked) .empty taken none none :: post, own⟩ :=
    .moves pre post (.call rfl rfl hasked)
  have harrives : Net.Step agent
      ⟨s, pre ++ at_ (Pipe.empty.write asked) .empty taken none none :: post, own⟩
      ⟨s, pre ++ at_ ⟨[], asked⟩ .empty taken none none :: post, own⟩ := by
    rw [← Pipe.arrived_deliver asked]
    exact .moves pre post (.deliverUp asked.length rfl)
  have htaken : Net.Step agent ⟨s, pre ++ at_ ⟨[], asked⟩ .empty taken none none :: post, own⟩
      ⟨s, pre ++ at_ .empty .empty (taken ++ [request]) (some (dispatch order request)) none ::
        post, own⟩ :=
    .dispatched pre post order ⟨rfl, rfl, rfl, hfirst⟩ hauth
  have hserved : Relation.ReflTransGen (Net.Step agent)
      ⟨s, pre ++ at_ .empty .empty (taken ++ [request]) (some (dispatch order request)) none ::
        post, own⟩
      ⟨s', pre ++ at_ .empty .empty (taken ++ [request]) none (some response) :: post, own⟩ :=
    Net.steps_of_dispatch rfl hrun
  have hreplied : Net.Step agent
      ⟨s', pre ++ at_ .empty .empty (taken ++ [request]) none (some response) :: post, own⟩
      ⟨s', pre ++ at_ .empty (Pipe.empty.write answer) (taken ++ [request]) none none :: post,
        own⟩ :=
    .moves pre post (.replied rfl rfl hanswer)
  exact (((Relation.ReflTransGen.single hcall).tail harrives).tail htaken).trans
    (hserved.tail hreplied)

/-- The response arrives, and the call that waits returns it: the call that asked for it, or a
later one. -/
theorem steps_of_response (hresponses : agent.responses.Inverts) {remoteId : String} {up : Pipe}
    {waiting : RpcRequest} {calls : List (RpcRequest × RpcResponse)}
    {errors : List (RpcRequest × RpcTransportError)} {lapsed : Bool} {sent answer : List UInt8}
    {taken : List RpcRequest} (hfits : agent.responses.Fits response)
    (hanswer : writeFrame agent.responses response = .ok answer) :
    Relation.ReflTransGen (Net.Step agent)
      ⟨s, pre ++ ⟨remoteId, up, Pipe.empty.write answer, some waiting, calls, errors, lapsed, sent,
        taken, none, none, true⟩ :: post, own⟩
      ⟨s, pre ++ ⟨remoteId, up, .empty, none, calls ++ [(waiting, response)], errors, lapsed, sent,
        taken, none, none, true⟩ :: post, own⟩ := by
  have hfirst := firstFrame_of_written hresponses hfits hanswer
  have hback : Net.Step agent
      ⟨s, pre ++ ⟨remoteId, up, Pipe.empty.write answer, some waiting, calls, errors, lapsed, sent,
        taken, none, none, true⟩ :: post, own⟩
      ⟨s, pre ++ ⟨remoteId, up, ⟨[], answer⟩, some waiting, calls, errors, lapsed, sent,
        taken, none, none, true⟩ :: post, own⟩ := by
    rw [← Pipe.arrived_deliver answer]
    exact .moves pre post (.deliverDown answer.length rfl)
  exact (Relation.ReflTransGen.single hback).tail (.moves pre post (.returned rfl rfl hfirst))

/-- Between two calls, none of which has lapsed, nothing of a session is under way. -/
theorem Net.Reachable.idle (hrequests : agent.requests.Inverts)
    (hresponses : agent.responses.Inverts) {c : Session W}
    (h : Net.Reachable agent ⟨s, pre ++ c :: post, own⟩) (halive : c.alive = true)
    (hidle : c.waiting = none) (hkept : c.lapsed = false) :
    ∃ remoteId calls errors sent taken,
      c = ⟨remoteId, .empty, .empty, none, calls, errors, false, sent, taken, none, none, true⟩ := by
  obtain ⟨-, -, -, hbetween⟩ := (h.orderly hrequests hresponses c (by simp) hkept).inStep
  obtain ⟨-, hup, hdown, hserving, hreply⟩ := hbetween hidle
  obtain ⟨remoteId, up, down, waiting, calls, errors, lapsed, sent, taken, serving, reply,
    alive⟩ := c
  dsimp only at *
  obtain rfl := Pipe.empty_of_bytes hup
  obtain rfl := Pipe.empty_of_bytes hdown
  subst halive hidle hkept hserving hreply
  exact ⟨remoteId, calls, errors, sent, taken, rfl⟩

/-- In every state that is reached, a controller between two calls, none of which has lapsed,
can make its next one: if the agent accepts the request, and dispatching it now returns, the
call returns the same response and leaves the fabric in the same state. -/
theorem call_dispatches (hrequests : agent.requests.Inverts) (hresponses : agent.responses.Inverts)
    {c : Session W} (h : Net.Reachable agent ⟨s, pre ++ c :: post, own⟩) (halive : c.alive = true)
    (hidle : c.waiting = none) (hkept : c.lapsed = false) (order : IterOrder)
    (hauth : agent.auth.authorize ⟨c.remoteId, agent.localEndpointId⟩ request = .ok ())
    (hrun : (dispatch order request).run Section.act s = (some response, s'))
    (hasked : agent.requests.Fits request) (hwritten : agent.responses.Fits response) :
    ∃ frame, writeFrame agent.requests request = .ok frame ∧
      Relation.ReflTransGen (Net.Step agent) ⟨s, pre ++ c :: post, own⟩
        ⟨s', pre ++ { c with
          calls := c.calls ++ [(request, response)], sent := c.sent ++ frame
          taken := c.taken ++ [request] } :: post, own⟩ := by
  obtain ⟨frame, hframe, -⟩ := firstFrame_writeFrame hrequests hasked
  obtain ⟨answer, hanswer, -⟩ := firstFrame_writeFrame hresponses hwritten
  refine ⟨frame, hframe, ?_⟩
  obtain ⟨remoteId, calls, errors, sent, taken, rfl⟩ :=
    h.idle hrequests hresponses halive hidle hkept
  exact (steps_to_response hrequests order hauth hrun hasked hframe hanswer).trans
    (steps_of_response hresponses hwritten hanswer)

/-- After a lapse this is lost: where the call is dropped before its response is there, the next
call can return that response as its own. -/
theorem late_response (hrequests : agent.requests.Inverts) (hresponses : agent.responses.Inverts)
    {c : Session W} (h : Net.Reachable agent ⟨s, pre ++ c :: post, own⟩) (halive : c.alive = true)
    (hidle : c.waiting = none) (hkept : c.lapsed = false) (order : IterOrder)
    (hauth : agent.auth.authorize ⟨c.remoteId, agent.localEndpointId⟩ request = .ok ())
    (hrun : (dispatch order request).run Section.act s = (some response, s'))
    (hasked : agent.requests.Fits request) (hwritten : agent.responses.Fits response)
    {next : RpcRequest} (hnext : agent.requests.Fits next) :
    ∃ c', Relation.ReflTransGen (Net.Step agent) ⟨s, pre ++ c :: post, own⟩
        ⟨s', pre ++ c' :: post, own⟩ ∧
      c'.calls = c.calls ++ [(next, response)] ∧ c'.lapsed = true := by
  obtain ⟨frame, hframe, -⟩ := firstFrame_writeFrame hrequests hasked
  obtain ⟨later, hlater, -⟩ := firstFrame_writeFrame hrequests hnext
  obtain ⟨answer, hanswer, -⟩ := firstFrame_writeFrame hresponses hwritten
  obtain ⟨remoteId, calls, errors, sent, taken, rfl⟩ :=
    h.idle hrequests hresponses halive hidle hkept
  -- the response is under way when the call is dropped and the next one asks
  have hresponse : Relation.ReflTransGen (Net.Step agent)
      ⟨s, pre ++ ⟨remoteId, .empty, .empty, none, calls, errors, false, sent, taken, none, none,
        true⟩ :: post, own⟩
      ⟨s', pre ++ ⟨remoteId, .empty, Pipe.empty.write answer, some request, calls, errors, false,
        sent ++ frame, taken ++ [request], none, none, true⟩ :: post, own⟩ :=
    steps_to_response hrequests order hauth hrun hasked hframe hanswer
  have hdropped := hresponse.tail (.moves pre post (.abandoned 0 rfl (by omega)))
  have hasks := hdropped.tail (.moves pre post (.call rfl rfl hlater))
  exact ⟨_, hasks.trans (steps_of_response hresponses hwritten hanswer), rfl, rfl⟩

end OneCall

namespace Scenario

theorem openAgent_requests_invert : openAgent.requests.Inverts := by
  intro request bytes h
  have hother : leaseForeverText ≠ pingText := by decide +kernel
  simp only [openAgent] at h ⊢
  split at h
  · obtain rfl := Except.ok.inj h
    rw [if_pos rfl]
  · obtain rfl := Except.ok.inj h
    rw [if_neg hother, if_pos rfl]
    rfl
  · cases h

theorem openAgent_responses_invert : openAgent.responses.Inverts := by
  intro response bytes h
  simp only [openAgent] at h ⊢
  split at h
  · obtain rfl := Except.ok.inj h
    rw [if_pos rfl]
  · cases h

theorem ping_fits : openAgent.requests.Fits .ping := ⟨pingText, rfl, by decide +kernel⟩

theorem pong_fits : openAgent.responses.Fits .pong := ⟨ascii "\"Pong\"", rfl, by decide +kernel⟩

/-- A controller has connected. -/
def connected : Net Unit := ⟨start (), [] ++ .opened "controller" :: [], []⟩

def pingFrame : List UInt8 := toLeBytes (.ofNat pingText.length) ++ pingText

theorem writeFrame_ping : writeFrame openAgent.requests .ping = .ok pingFrame :=
  writeFrame_eq_ok_iff.mpr ⟨pingText, rfl, by decide +kernel, rfl⟩

/-- The controller has made one call. -/
def pinged : Net Unit :=
  ⟨start (),
    [] ++ { Session.opened "controller" with
      calls := [(.ping, .pong)], sent := pingFrame, taken := [.ping] } :: [],
    []⟩

theorem reachable_connected : connected.Reachable openAgent :=
  ⟨start (), ⟨rfl, rfl⟩, .single (.connect "controller")⟩

end Scenario

open Scenario in
theorem call_dispatches_ping :
    Relation.ReflTransGen (Net.Step openAgent) connected pinged := by
  obtain ⟨frame, hframe, hsteps⟩ := call_dispatches openAgent_requests_invert
    openAgent_responses_invert reachable_connected rfl rfl rfl .sorted rfl rfl ping_fits pong_fits
  rw [writeFrame_ping] at hframe
  obtain rfl := Except.ok.inj hframe
  exact hsteps

namespace Scenario

theorem reachable_pinged : pinged.Reachable openAgent := by
  obtain ⟨s, hfresh, hsteps⟩ := reachable_connected
  obtain ⟨answer, hanswer, -⟩ := firstFrame_writeFrame openAgent_responses_invert pong_fits
  have hcall : Relation.ReflTransGen (Net.Step openAgent) connected pinged :=
    (steps_to_response openAgent_requests_invert .sorted rfl rfl ping_fits writeFrame_ping
      hanswer).trans (steps_of_response openAgent_responses_invert pong_fits hanswer)
  exact ⟨s, hfresh, hsteps.trans hcall⟩

end Scenario

open Scenario in
theorem sessions_in_step_pinged :
    ∃ c ∈ pinged.sessions, c.calls = [(.ping, .pong)] ∧ c.InStep openAgent ∧
      c.TakesEach openAgent := by
  have hinStep := sessions_in_step openAgent_requests_invert openAgent_responses_invert
    reachable_pinged
  have hmem : { Session.opened "controller" with
      calls := [(.ping, .pong)], sent := pingFrame, taken := [.ping] } ∈ pinged.sessions :=
    List.mem_cons_self
  exact ⟨_, hmem, rfl, (hinStep _ hmem).1 rfl, (hinStep _ hmem).2⟩

/-! ## The fabric behind the streams -/

namespace Net

variable {agent : FabricAgent}

/-- The calls of all sessions but one. -/
def others (pre post : List (Session W)) (own : List (Call W Unit)) : List (Call W Unit) :=
  (pre ++ post).filterMap (fun c => c.serving.map Prog.ignore) ++ own

theorem pending_perm (s : Shared W) (pre post : List (Session W)) (c : Session W)
    (own : List (Call W Unit)) :
    (pending ⟨s, pre ++ c :: post, own⟩).Perm
      ((c.serving.map Prog.ignore).toList ++ others pre post own) := by
  unfold pending others
  rw [List.filterMap_append, List.filterMap_append, List.filterMap_cons]
  rcases c.serving with _ | p
  · exact .refl _
  · dsimp only [Option.map_some, Option.toList_some]
    rw [List.append_assoc, List.cons_append]
    refine List.perm_middle.trans ?_
    rw [← List.append_assoc]
    exact .refl _

theorem moves_serving {c c' : Session W} (h : c.Moves agent c') :
    c'.serving = c.serving := by
  cases h <;> rfl

/-- The agent's own calls are calls of the agent. -/
theorem agent_step {s s' : Shared W} {own own' : List (Call W Unit)}
    (h : (fabricSystem anySection).Step ⟨s, own⟩ ⟨s', own'⟩) :
    (agentSystem anySection).Step ⟨s, own⟩ ⟨s', own'⟩ := by
  cases h with
  | invoke p hp => exact .invoke p (Or.inl hp)
  | exec pre post hg ha => exact .exec pre post hg ha
  | panic pre post hg ha => exact .panic pre post hg ha
  | finish pre post => exact .finish pre post
  | env he => exact .env he

/-- A step of the dispatch of one session, among all calls in progress. -/
theorem refined_step {s s' : Shared W} {pre post : List (Session W)} {c c' : Session W}
    {own calls : List (Call W Unit)}
    (hreachable : (agentSystem anySection).Reachable ⟨s, calls⟩)
    (hperm : calls.Perm (pending ⟨s, pre ++ c :: post, own⟩))
    (hstep : (agentSystem anySection).Step ⟨s, (c.serving.map Prog.ignore).toList⟩
      ⟨s', (c'.serving.map Prog.ignore).toList⟩) :
    ∃ calls', (agentSystem anySection).Reachable ⟨s', calls'⟩ ∧
      calls'.Perm (pending ⟨s', pre ++ c' :: post, own⟩) := by
  obtain ⟨calls', hcalls', hperm'⟩ := hstep.among (hperm.trans (pending_perm s pre post c own))
  exact ⟨calls', hreachable.step hcalls',
    hperm'.trans (pending_perm s' pre post c' own).symm⟩

theorem refined {n n' : Net W} {calls : List (Call W Unit)}
    (hreachable : (agentSystem anySection).Reachable ⟨n.shared, calls⟩)
    (hperm : calls.Perm n.pending) (hstep : Step agent n n') :
    ∃ calls', (agentSystem anySection).Reachable ⟨n'.shared, calls'⟩ ∧
      calls'.Perm n'.pending := by
  cases hstep with
  | connect remoteId => exact ⟨calls, hreachable, hperm⟩
  | @moves s own pre post c c' hmoves =>
      refine ⟨calls, hreachable, hperm.trans ((pending_perm s pre post c own).trans ?_)⟩
      rw [← moves_serving hmoves]
      exact (pending_perm s pre post c' own).symm
  | @dispatched s own pre post c order request rest hreads _ =>
      refine refined_step hreachable hperm ?_
      rw [hreads.serving]
      exact .invoke _ (Or.inr ⟨order, request, rfl⟩)
  | @ran s s' own pre post c sec next r hserving hact =>
      refine refined_step hreachable hperm ?_
      rw [hserving]
      exact .exec [] [] trivial hact
  | @panicked s s' own pre post c sec next hserving hact =>
      refine refined_step hreachable hperm ?_
      rw [hserving]
      exact .panic [] [] trivial hact
  | @finished s own pre post c response hserving =>
      refine refined_step hreachable hperm ?_
      rw [hserving]
      exact .finish [] []
  | @own s s' sessions own own' hown =>
      have hmine : calls.Perm
          (own ++ sessions.filterMap (fun c => c.serving.map Prog.ignore)) :=
        hperm.trans List.perm_append_comm
      obtain ⟨calls', hcalls', hperm'⟩ := (agent_step hown).among hmine
      exact ⟨calls', hreachable.step hcalls', hperm'.trans List.perm_append_comm⟩


end Net

/-- The fabric behind the streams is in no state but those that the agent's own calls and the
dispatches of requests lead to, with the dispatches of the sessions in progress. -/
theorem sessions_refine {agent : FabricAgent} {n : Net W} (h : n.Reachable agent) :
    ∃ calls, (agentSystem anySection).Reachable ⟨n.shared, calls⟩ ∧ calls.Perm n.pending := by
  obtain ⟨s, hfresh, hsteps⟩ := h
  induction hsteps with
  | refl => exact ⟨[], .init _ hfresh, .refl _⟩
  | tail _ hstep ih =>
      obtain ⟨calls, hreachable, hperm⟩ := ih
      exact Net.refined hreachable hperm hstep

open Scenario in
theorem sessions_refine_pinged :
    ∃ calls, (agentSystem anySection).Reachable ⟨pinged.shared, calls⟩ ∧
      calls.Perm pinged.pending :=
  sessions_refine reachable_pinged

end NautiFabric
