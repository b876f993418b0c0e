import NautiFabric.Rpc.Auth
import NautiFabric.Rpc.Frame

/-!
# NautiFabric.Rpc.Agent — the serve loop of an agent

`serveLoop` reads frames off a stream, authorizes and dispatches each request, and
writes a frame for each response. It has five ways out, and a sixth one that the
code does not name: a panic in a dispatch. Without it the loop is a fold over the
requests of the stream (`requestsOf`): the longest prefix of good frames decides
what is answered and what becomes of the fabric (`serves_exactly_iff`).
-/

namespace NautiFabric

open Interleave

variable {W : Type}

/-! ## The requests of a stream -/

section Requests

variable {T : Type} {codec : Codec T}

/-- A good frame does not look at what follows it. -/
theorem firstFrame_append {bytes rest : List UInt8} {value : T}
    (h : firstFrame codec bytes = some (value, rest)) :
    ∃ frame, frame ≠ [] ∧ bytes = frame ++ rest ∧ ∀ more : List UInt8,
      firstFrame codec (frame ++ more) = some (value, more) := by
  unfold firstFrame at h
  dsimp only at h
  split at h
  · cases h
  rename_i hcomplete
  rcases hdecode : codec.fromSlice ((bytes.drop 4).take (fromLeBytes (bytes.take 4)).toNat)
    with e | decoded
  · rw [hdecode] at h
    cases h
  rw [hdecode] at h
  obtain ⟨rfl, rfl⟩ := Prod.mk.inj (Option.some.inj h)
  -- the frame is the header and the payload, and all checks of it look at these bytes
  generalize hlen : fromLeBytes (bytes.take 4) = len at hcomplete hdecode
  have hlength : (bytes.take (4 + len.toNat)).length = 4 + len.toNat := by
    rw [List.length_take]
    omega
  refine ⟨bytes.take (4 + len.toNat), ?_, (List.take_append_drop _ _).symm, ?_⟩
  · intro hnil
    rw [hnil] at hlength
    simp at hlength
    omega
  · intro more
    have hheader : (bytes.take (4 + len.toNat) ++ more).take 4 = bytes.take 4 := by
      rw [List.take_append_of_le_length (by omega), List.take_take]
      congr 1
      omega
    have hbody : ((bytes.take (4 + len.toNat) ++ more).drop 4).take len.toNat =
        (bytes.drop 4).take len.toNat := by
      rw [List.drop_append_of_le_length (by omega), List.drop_take, Nat.add_sub_cancel_left,
        List.take_append_of_le_length (by simp; omega), List.take_take, Nat.min_self]
    have hcomplete' : ¬ ((bytes.take (4 + len.toNat) ++ more).length < 4 ∨ len > maxFrameBytes ∨
        (bytes.take (4 + len.toNat) ++ more).length < 4 + len.toNat) := by
      rw [List.length_append, hlength]
      rw [not_or, not_or] at hcomplete ⊢
      exact ⟨by omega, hcomplete.2.1, by omega⟩
    unfold firstFrame
    dsimp only
    rw [hheader, hlen, if_neg hcomplete', hbody, hdecode, List.drop_left' hlength]

theorem length_lt_of_firstFrame {bytes rest : List UInt8} {value : T}
    (h : firstFrame codec bytes = some (value, rest)) : rest.length < bytes.length := by
  obtain ⟨frame, hframe, hbytes, -⟩ := firstFrame_append h
  rw [hbytes, List.length_append]
  have hpos := List.length_pos_iff.mpr hframe
  omega

/-- A read that succeeds takes a good frame off the stream. -/
theorem readFrame_ok {recv recv' : RecvStream} {value : T}
    (h : readFrame codec recv = (.ok value, recv')) :
    firstFrame codec recv.rest = some (value, recv'.rest) := by
  rcases hfirst : firstFrame codec recv.rest with _ | ⟨value', rest⟩
  · obtain ⟨e, recv'', herror⟩ := readFrame_of_none hfirst
    rw [herror] at h
    cases h
  · obtain ⟨recv'', hok, hrest, -⟩ := readFrame_of_firstFrame hfirst
    rw [hok] at h
    obtain ⟨hvalue, rfl⟩ := Prod.mk.inj h
    rw [Except.ok.inj hvalue, hrest]

/-- The values of the longest prefix that is made of good frames. -/
def requestsOf (codec : Codec T) (bytes : List UInt8) : List T :=
  match _h : firstFrame codec bytes with
  | none => []
  | some (value, rest) => value :: requestsOf codec rest
termination_by bytes.length
decreasing_by exact length_lt_of_firstFrame _h

theorem requestsOf_of_none {bytes : List UInt8} (h : firstFrame codec bytes = none) :
    requestsOf codec bytes = [] := by
  rw [requestsOf]
  split
  · rfl
  · rename_i value rest hsome
    rw [h] at hsome
    cases hsome

theorem requestsOf_of_some {bytes rest : List UInt8} {value : T}
    (h : firstFrame codec bytes = some (value, rest)) :
    requestsOf codec bytes = value :: requestsOf codec rest := by
  rw [requestsOf]
  split
  · rename_i hnone
    rw [h] at hnone
    cases hnone
  · rename_i value' rest' hsome
    rw [h] at hsome
    obtain ⟨rfl, rfl⟩ := Prod.mk.inj (Option.some.inj hsome)
    rfl

/-- The bytes of one request can be cut out, and then that request is gone. -/
theorem requestsOf_split {bytes : List UInt8} {i : ℕ} {value : T}
    (h : (requestsOf codec bytes)[i]? = some value) :
    ∃ before frame after, bytes = before ++ frame ++ after ∧
      requestsOf codec before = (requestsOf codec bytes).take i ∧
      requestsOf codec frame = [value] ∧
      requestsOf codec (before ++ after) = (requestsOf codec bytes).eraseIdx i := by
  -- on the position, one good frame after the other
  induction i generalizing bytes with
  | zero =>
      rcases hfirst : firstFrame codec bytes with _ | ⟨first, rest⟩
      · rw [requestsOf_of_none hfirst] at h
        cases h
      · rw [requestsOf_of_some hfirst] at h ⊢
        obtain rfl := Option.some.inj h
        obtain ⟨frame, -, hbytes, happend⟩ := firstFrame_append hfirst
        have hempty : requestsOf codec [] = [] := requestsOf_of_none (by simp [firstFrame])
        have hframe := happend []
        rw [List.append_nil] at hframe
        refine ⟨[], frame, rest, by rw [hbytes]; rfl, hempty, ?_, rfl⟩
        rw [requestsOf_of_some hframe, hempty]
  | succ i ih =>
      rcases hfirst : firstFrame codec bytes with _ | ⟨first, rest⟩
      · rw [requestsOf_of_none hfirst] at h
        cases h
      · rw [requestsOf_of_some hfirst] at h ⊢
        obtain ⟨lead, -, hbytes, happend⟩ := firstFrame_append hfirst
        obtain ⟨before, frame, after, hrest, hbefore, hframe, herase⟩ := ih h
        refine ⟨lead ++ before, frame, after, ?_, ?_, hframe, ?_⟩
        · rw [hbytes, hrest]
          simp
        · rw [requestsOf_of_some (happend before), hbefore]
          rfl
        · rw [List.append_assoc, requestsOf_of_some (happend (before ++ after)), herase]
          rfl

end Requests

/-! ## The loop -/

/-- An agent, and the JSON codecs of the protocol. -/
structure FabricAgent where
  auth : AuthProvider
  localEndpointId : String
  requests : Codec RpcRequest
  responses : Codec RpcResponse

/-- What the agent does not decide, for each dispatch: the order in which it iterates
over a `HashMap`, and what happened since the dispatch before. -/
structure Surroundings (W : Type) where
  order : ℕ → IterOrder
  elapse : ℕ → Shared W → Shared W
  elapses : ∀ n s, Shared.Elapse s (elapse n s)

/-- The ways out of the loop. -/
inductive Exit where
  /-- the peer finished its side between two frames -/
  | finished
  /-- the peer closed the connection -/
  | clientClosed
  | failed (error : RpcTransportError)
  /-- a dispatch panicked -/
  | panicked

/-- What became of a connection: the frames written, the fabric, and the way out. -/
structure Served (W : Type) where
  frames : List (List UInt8)
  state : Shared W
  exit : Exit

namespace FabricAgent

/-- Authorize and dispatch, after `n` dispatches. -/
def answer (agent : FabricAgent) (ctx : RequestContext) (around : Surroundings W) (n : ℕ)
    (request : RpcRequest) (s : Shared W) : Option RpcResponse × ℕ × Shared W :=
  match agent.auth.authorize ctx request with
  | .ok () =>
    let (reply, s) := (dispatch (around.order n) request).run Section.act (around.elapse n s)
    (reply, n + 1, s)
  | .error rejection => (some (.error (.ofAuth rejection)), n, s)

/-- What a failed read leads to; `closed` says whether the connection was closed by
the peer's application. -/
def exitOf (closed : Bool) : RpcTransportError → Exit
  | .connectionClosed => .finished
  | error => if closed then .clientClosed else .failed error

def serveLoop (agent : FabricAgent) (ctx : RequestContext) (around : Surroundings W)
    (closed : Bool) (n : ℕ) (recv : RecvStream) (s : Shared W) : Served W :=
  match _h : readFrame agent.requests recv with
  | (.error error, _) => ⟨[], s, exitOf closed error⟩
  | (.ok request, recv') =>
    match agent.answer ctx around n request s with
    | (none, _, s') => ⟨[], s', .panicked⟩
    | (some response, n', s') =>
      match writeFrame agent.responses response with
      | .error error => ⟨[], s', .failed error⟩
      | .ok frame =>
        let served := agent.serveLoop ctx around closed n' recv' s'
        { served with frames := frame :: served.frames }
termination_by recv.rest.length
decreasing_by exact length_lt_of_firstFrame (readFrame_ok _h)

/-- `accept`, from the endpoint id of the peer. -/
def accept (agent : FabricAgent) (remoteId : String) (around : Surroundings W) (closed : Bool)
    (recv : RecvStream) (s : Shared W) : Served W :=
  agent.serveLoop ⟨remoteId, agent.localEndpointId⟩ around closed 0 recv s

/-! ## The fold -/

/-- The answers to some requests; `none` where the dispatch panics. -/
def answers (agent : FabricAgent) (ctx : RequestContext) (around : Surroundings W) :
    ℕ → List RpcRequest → Shared W → List (Option RpcResponse)
  | _, [], _ => []
  | n, request :: requests, s =>
    let (reply, n, s) := agent.answer ctx around n request s
    reply :: agent.answers ctx around n requests s

/-- The requests that the provider lets through. -/
def authorized (agent : FabricAgent) (ctx : RequestContext) (requests : List RpcRequest) :
    List RpcRequest :=
  requests.filter fun request => (agent.auth.authorize ctx request).isOk

end FabricAgent

/-- The fabric after some dispatches. -/
def foldDispatch (around : Surroundings W) : ℕ → List RpcRequest → Shared W → Shared W
  | _, [], s => s
  | n, request :: requests, s =>
    foldDispatch around (n + 1) requests
      ((dispatch (around.order n) request).run Section.act (around.elapse n s)).2

/-- Every dispatch keeps to the range of the clock. -/
def DispatchInRange (around : Surroundings W) : ℕ → List RpcRequest → Shared W → Prop
  | _, [], _ => True
  | n, request :: requests, s =>
    (dispatch (around.order n) request).Guarded Section.act TtlGuard (around.elapse n s) ∧
      DispatchInRange around (n + 1) requests
        ((dispatch (around.order n) request).run Section.act (around.elapse n s)).2

namespace FabricAgent

variable {agent : FabricAgent} {ctx : RequestContext} {around : Surroundings W} {closed : Bool}
  {n : ℕ} {recv : RecvStream} {s : Shared W}

variable (agent ctx around closed n s) in
theorem serveLoop_of_none (h : firstFrame agent.requests recv.rest = none) :
    ∃ exit, agent.serveLoop ctx around closed n recv s = ⟨[], s, exit⟩ := by
  obtain ⟨error, recv', hread⟩ := readFrame_of_none h
  rw [serveLoop]
  split
  · exact ⟨_, rfl⟩
  · rename_i request recv'' hok
    rw [hread] at hok
    cases hok

variable (agent ctx around closed n s) in
/-- One round of the loop. -/
theorem serveLoop_of_some {request : RpcRequest} {rest : List UInt8}
    (h : firstFrame agent.requests recv.rest = some (request, rest)) :
    ∃ recv' : RecvStream, recv'.rest = rest ∧ agent.serveLoop ctx around closed n recv s =
      match agent.answer ctx around n request s with
      | (none, _, s') => ⟨[], s', .panicked⟩
      | (some response, n', s') =>
        match writeFrame agent.responses response with
        | .error error => ⟨[], s', .failed error⟩
        | .ok frame =>
          let served := agent.serveLoop ctx around closed n' recv' s'
          { served with frames := frame :: served.frames } := by
  obtain ⟨recv', hread, hrest, -⟩ := readFrame_of_firstFrame h
  refine ⟨recv', hrest, ?_⟩
  rw [serveLoop]
  split
  · rename_i error recv'' herror
    rw [hread] at herror
    cases herror
  · rename_i request' recv'' hok
    rw [hread] at hok
    obtain ⟨hrequest, rfl⟩ := Prod.mk.inj hok
    obtain rfl := Except.ok.inj hrequest
    rfl

/-! ## Panics -/

theorem leaves_unpoisoned {α : Type} (p : Call W α) {s : Shared W}
    (hp : s.fabric.leases.poisoned = false) :
    p.Leaves Section.act TtlGuard (fun s => s.fabric.leases.poisoned = false) s := by
  induction p generalizing s with
  | done a => exact Prog.leaves_done hp
  | atomic sec next ih =>
      refine Prog.leaves_atomic ?_ ?_
      · intro s' hg ha
        have hkept := act_unpoisoned hp hg
        rwa [ha] at hkept
      · intro r s' hg ha
        have hkept := act_unpoisoned hp hg
        rw [ha] at hkept
        exact ih r hkept

theorem unpoisoned_elapse (hp : s.fabric.leases.poisoned = false) :
    (around.elapse n s).fabric.leases.poisoned = false := by
  have helapse := (around.elapses n s).2
  rw [helapse]
  exact hp

theorem answer_authorized {request : RpcRequest} (h : agent.auth.authorize ctx request = .ok ()) :
    agent.answer ctx around n request s =
      (((dispatch (around.order n) request).run Section.act (around.elapse n s)).1, n + 1,
        ((dispatch (around.order n) request).run Section.act (around.elapse n s)).2) := by
  simp only [answer, h]

theorem answer_rejected {request : RpcRequest} {rejection : AuthError}
    (h : agent.auth.authorize ctx request = .error rejection) :
    agent.answer ctx around n request s = (some (.error (.ofAuth rejection)), n, s) := by
  simp only [answer, h]

theorem authorized_cons_ok {request : RpcRequest} {requests : List RpcRequest}
    (h : agent.auth.authorize ctx request = .ok ()) :
    agent.authorized ctx (request :: requests) = request :: agent.authorized ctx requests := by
  simp [authorized, h, Except.isOk, Except.toBool]

theorem authorized_cons_error {request : RpcRequest} {requests : List RpcRequest}
    {rejection : AuthError} (h : agent.auth.authorize ctx request = .error rejection) :
    agent.authorized ctx (request :: requests) = agent.authorized ctx requests := by
  simp [authorized, h, Except.isOk, Except.toBool]

/-- A dispatch that keeps to the range of the clock is one that returns. -/
theorem dispatch_returns_iff (order : IterOrder) (request : RpcRequest)
    (hp : s.fabric.leases.poisoned = false) :
    (∃ response, ((dispatch order request).run Section.act s).1 = some response) ↔
      (dispatch order request).Guarded Section.act TtlGuard s :=
  run_returns_iff (dispatch_sound (fun _ hsec _ => hsec) (fun _ _ _ _ => trivial) order) hp

/-- Every request is answered exactly when every dispatch keeps to the range. -/
theorem answers_returned_iff {requests : List RpcRequest}
    (hp : s.fabric.leases.poisoned = false) :
    (∀ reply ∈ agent.answers ctx around n requests s, ∃ response, reply = some response) ↔
      DispatchInRange around n (agent.authorized ctx requests) s := by
  induction requests generalizing n s with
  | nil => simp [answers, authorized, DispatchInRange]
  | cons request requests ih =>
      rcases hauth : agent.auth.authorize ctx request with rejection | ⟨⟩
      · rw [authorized_cons_error hauth, ← ih hp, answers, answer_rejected hauth]
        simp
      · rw [authorized_cons_ok hauth, answers, answer_authorized hauth, DispatchInRange]
        have hp' : (around.elapse n s).fabric.leases.poisoned = false := unpoisoned_elapse hp
        have hreturns := dispatch_returns_iff (around.order n) request hp'
        rw [List.forall_mem_cons, hreturns]
        constructor
        · rintro ⟨hg, hrest⟩
          exact ⟨hg, (ih (leaves_unpoisoned _ hp' hg)).mp hrest⟩
        · rintro ⟨hg, hrest⟩
          exact ⟨hg, (ih (leaves_unpoisoned _ hp' hg)).mpr hrest⟩

/-! ## The loop is the fold -/

/-- The frame of an answer. -/
def written (agent : FabricAgent) (reply : Option RpcResponse) : Option (List UInt8) :=
  reply.bind fun response => (writeFrame agent.responses response).toOption

theorem firstFrame_of_requestsOf {T : Type} {codec : Codec T} {bytes : List UInt8} {value : T}
    {values : List T} (h : requestsOf codec bytes = value :: values) :
    ∃ rest, firstFrame codec bytes = some (value, rest) ∧ requestsOf codec rest = values := by
  rcases hfirst : firstFrame codec bytes with _ | ⟨value', rest⟩
  · rw [requestsOf_of_none hfirst] at h
    cases h
  · rw [requestsOf_of_some hfirst] at h
    obtain ⟨rfl, rfl⟩ := List.cons.inj h
    exact ⟨rest, rfl, rfl⟩

theorem firstFrame_of_requestsOf_nil {T : Type} {codec : Codec T} {bytes : List UInt8}
    (h : requestsOf codec bytes = []) : firstFrame codec bytes = none := by
  rcases hfirst : firstFrame codec bytes with _ | ⟨value, rest⟩
  · rfl
  · rw [requestsOf_of_some hfirst] at h
    cases h

theorem answers_cons (request : RpcRequest) (requests : List RpcRequest) :
    agent.answers ctx around n (request :: requests) s =
      (agent.answer ctx around n request s).1 ::
        agent.answers ctx around (agent.answer ctx around n request s).2.1 requests
          (agent.answer ctx around n request s).2.2 := rfl

theorem length_answers {requests : List RpcRequest} :
    (agent.answers ctx around n requests s).length = requests.length := by
  induction requests generalizing n s with
  | nil => rfl
  | cons request requests ih => rw [answers, List.length_cons, List.length_cons, ih]

variable (closed) in
/-- Without a panic the loop writes the answers and leaves the fold. -/
theorem serveLoop_eq {requests : List RpcRequest}
    (hrequests : requestsOf agent.requests recv.rest = requests)
    (hwrites : ∀ reply ∈ agent.answers ctx around n requests s,
      ∃ frame, agent.written reply = some frame) :
    (agent.serveLoop ctx around closed n recv s).frames.map some =
        (agent.answers ctx around n requests s).map agent.written ∧
      (agent.serveLoop ctx around closed n recv s).state =
        foldDispatch around n (agent.authorized ctx requests) s := by
  -- on the requests, one round of the loop for each
  induction requests generalizing n recv s with
  | nil =>
      have hnone := firstFrame_of_requestsOf_nil hrequests
      obtain ⟨exit, hserve⟩ := serveLoop_of_none agent ctx around closed n s hnone
      rw [hserve]
      exact ⟨rfl, rfl⟩
  | cons request requests ih =>
      obtain ⟨rest, hfirst, hrest⟩ := firstFrame_of_requestsOf hrequests
      obtain ⟨recv', hrecv', hserve⟩ := serveLoop_of_some agent ctx around closed n s hfirst
      rw [← hrecv'] at hrest
      have hstate : foldDispatch around n (agent.authorized ctx (request :: requests)) s =
          foldDispatch around (agent.answer ctx around n request s).2.1
            (agent.authorized ctx requests) (agent.answer ctx around n request s).2.2 := by
        rcases hauth : agent.auth.authorize ctx request with rejection | ⟨⟩
        · rw [authorized_cons_error hauth, answer_rejected hauth]
        · rw [authorized_cons_ok hauth, answer_authorized hauth, foldDispatch]
      rw [hserve, hstate]
      rw [answers] at hwrites ⊢
      generalize agent.answer ctx around n request s = round at hwrites
      obtain ⟨reply, n', s'⟩ := round
      dsimp only at hwrites ⊢
      obtain ⟨frame, hframe⟩ := hwrites reply (by simp)
      have hlater : ∀ r ∈ agent.answers ctx around n' requests s',
          ∃ frame, agent.written r = some frame := fun r hr => hwrites r (by simp [hr])
      obtain ⟨hframes, hfold⟩ := ih hrest hlater
      rcases reply with _ | response
      · cases hframe
      · rcases hwrite : writeFrame agent.responses response with e | frame'
        · simp [written, hwrite, Except.toOption] at hframe
        · simp only [hwrite]
          rw [List.map_cons, List.map_cons, hframes]
          have hsame : agent.written (some response) = some frame' := by
            simp [written, hwrite, Except.toOption]
          rw [hsame]
          exact ⟨rfl, hfold⟩

/-- As many frames as requests: then every dispatch returned. -/
theorem returned_of_length {requests : List RpcRequest}
    (hrequests : requestsOf agent.requests recv.rest = requests)
    (hlength : (agent.serveLoop ctx around closed n recv s).frames.length = requests.length) :
    ∀ reply ∈ agent.answers ctx around n requests s, ∃ response, reply = some response := by
  induction requests generalizing n recv s with
  | nil => simp [answers]
  | cons request requests ih =>
      obtain ⟨rest, hfirst, hrest⟩ := firstFrame_of_requestsOf hrequests
      obtain ⟨recv', hrecv', hserve⟩ := serveLoop_of_some agent ctx around closed n s hfirst
      rw [← hrecv'] at hrest
      rw [hserve] at hlength
      rw [answers]
      generalize agent.answer ctx around n request s = round at hlength
      obtain ⟨reply, n', s'⟩ := round
      rcases reply with _ | response
      · simp at hlength
      · rcases hwrite : writeFrame agent.responses response with e | frame
        · simp [hwrite] at hlength
        · simp only [hwrite, List.length_cons, Nat.add_right_cancel_iff] at hlength
          intro reply hreply
          rcases List.mem_cons.mp hreply with rfl | hreply
          · exact ⟨response, rfl⟩
          · exact ih hrest hlength reply hreply

/-! ## Rejected requests -/

section Rejected

variable {requests : List RpcRequest} {i : ℕ} {request : RpcRequest} {rejection : AuthError}

theorem authorized_eraseIdx (hi : requests[i]? = some request)
    (hauth : agent.auth.authorize ctx request = .error rejection) :
    agent.authorized ctx (requests.eraseIdx i) = agent.authorized ctx requests := by
  induction requests generalizing i with
  | nil => rfl
  | cons first requests ih =>
      cases i with
      | zero =>
          obtain rfl := Option.some.inj hi
          rw [authorized_cons_error hauth]
          rfl
      | succ i =>
          have hrest := ih hi
          unfold authorized at hrest ⊢
          rw [List.eraseIdx_cons_succ, List.filter_cons, List.filter_cons, hrest]

theorem answers_rejected (hi : requests[i]? = some request)
    (hauth : agent.auth.authorize ctx request = .error rejection) :
    (agent.answers ctx around n requests s)[i]? = some (some (.error (.ofAuth rejection))) ∧
      agent.answers ctx around n (requests.eraseIdx i) s =
        (agent.answers ctx around n requests s).eraseIdx i := by
  induction requests generalizing i n s with
  | nil => cases hi
  | cons first requests ih =>
      cases i with
      | zero =>
          obtain rfl := Option.some.inj hi
          rw [answers, answer_rejected hauth]
          exact ⟨rfl, rfl⟩
      | succ i =>
          obtain ⟨hreply, herase⟩ := ih (n := (agent.answer ctx around n first s).2.1)
            (s := (agent.answer ctx around n first s).2.2) hi
          rw [List.eraseIdx_cons_succ, answers_cons, answers_cons, herase]
          exact ⟨hreply, rfl⟩

end Rejected

/-! ## Two streams -/

section TwoStreams

variable {requests : List RpcRequest} {recv' : RecvStream} {closed' : Bool}

theorem map_some_injective : Function.Injective
    (List.map (some : List UInt8 → Option (List UInt8))) :=
  List.map_injective_iff.mpr (Option.some_injective _)

/-- Streams of the same requests are served alike. -/
theorem serveLoop_same (hrequests : requestsOf agent.requests recv.rest = requests)
    (hrequests' : requestsOf agent.requests recv'.rest = requests)
    (hwrites : ∀ reply ∈ agent.answers ctx around n requests s,
      ∃ frame, agent.written reply = some frame) :
    (agent.serveLoop ctx around closed' n recv' s).state =
        (agent.serveLoop ctx around closed n recv s).state ∧
      (agent.serveLoop ctx around closed' n recv' s).frames =
        (agent.serveLoop ctx around closed n recv s).frames := by
  obtain ⟨hframes, hstate⟩ := serveLoop_eq closed hrequests hwrites
  obtain ⟨hframes', hstate'⟩ := serveLoop_eq closed' hrequests' hwrites
  constructor
  · rw [hstate', hstate]
  · apply map_some_injective
    rw [hframes', hframes]

variable {i : ℕ} {request : RpcRequest} {rejection : AuthError}

/-- The frame that answers a rejected request. -/
theorem serveLoop_rejected (hrequests : requestsOf agent.requests recv.rest = requests)
    (hwrites : ∀ reply ∈ agent.answers ctx around n requests s,
      ∃ frame, agent.written reply = some frame)
    (hi : requests[i]? = some request)
    (hauth : agent.auth.authorize ctx request = .error rejection) :
    (agent.serveLoop ctx around closed n recv s).frames[i]? =
      agent.written (some (.error (.ofAuth rejection))) := by
  obtain ⟨hreply, -⟩ := answers_rejected (n := n) (s := s) hi hauth
  obtain ⟨frame, hframe⟩ := hwrites _ (List.mem_of_getElem? hreply)
  have hith : ((agent.serveLoop ctx around closed n recv s).frames.map some)[i]? =
      some (some frame) := by
    rw [(serveLoop_eq closed hrequests hwrites).1, List.getElem?_map, hreply, Option.map_some,
      hframe]
  rw [List.getElem?_map] at hith
  obtain ⟨frame', hframe', hsame⟩ := Option.map_eq_some_iff.mp hith
  rw [hframe', hframe, hsame]

/-- Without a rejected request the stream is served as before, but for the answer to it. -/
theorem serveLoop_eraseIdx (hrequests : requestsOf agent.requests recv.rest = requests)
    (hrequests' : requestsOf agent.requests recv'.rest = requests.eraseIdx i)
    (hwrites : ∀ reply ∈ agent.answers ctx around n requests s,
      ∃ frame, agent.written reply = some frame)
    (hi : requests[i]? = some request)
    (hauth : agent.auth.authorize ctx request = .error rejection) :
    (agent.serveLoop ctx around closed' n recv' s).state =
        (agent.serveLoop ctx around closed n recv s).state ∧
      (agent.serveLoop ctx around closed' n recv' s).frames =
        (agent.serveLoop ctx around closed n recv s).frames.eraseIdx i := by
  obtain ⟨-, herase⟩ := answers_rejected (n := n) (s := s) hi hauth
  have hwrites' : ∀ reply ∈ agent.answers ctx around n (requests.eraseIdx i) s,
      ∃ frame, agent.written reply = some frame := by
    intro reply hreply
    rw [herase] at hreply
    exact hwrites reply (List.mem_of_mem_eraseIdx hreply)
  obtain ⟨hframes, hstate⟩ := serveLoop_eq closed hrequests hwrites
  obtain ⟨hframes', hstate'⟩ := serveLoop_eq closed' hrequests' hwrites'
  constructor
  · rw [hstate', hstate, authorized_eraseIdx hi hauth]
  · apply map_some_injective
    rw [hframes', herase, ← List.eraseIdx_map, ← List.eraseIdx_map, hframes]

end TwoStreams

/-! ## What a connection comes to -/

/-- The requests of the stream decide what the loop does: one answer for each, in
their order, and the fold of the authorized ones; a rejected request, or what follows
the last good frame, might as well not be there. -/
structure ServesExactly (agent : FabricAgent) (remoteId : String) (around : Surroundings W)
    (closed : Bool) (recv : RecvStream) (s : Shared W) : Prop where
  count : (agent.accept remoteId around closed recv s).frames.length =
    (requestsOf agent.requests recv.rest).length
  answered : (agent.accept remoteId around closed recv s).frames.map some =
    (agent.answers ⟨remoteId, agent.localEndpointId⟩ around 0
      (requestsOf agent.requests recv.rest) s).map agent.written
  state : (agent.accept remoteId around closed recv s).state =
    foldDispatch around 0 (agent.authorized ⟨remoteId, agent.localEndpointId⟩
      (requestsOf agent.requests recv.rest)) s
  rejected : ∀ (i : ℕ) (request : RpcRequest) (rejection : AuthError),
    (requestsOf agent.requests recv.rest)[i]? = some request →
    agent.auth.authorize ⟨remoteId, agent.localEndpointId⟩ request = .error rejection →
    (agent.accept remoteId around closed recv s).frames[i]? =
        agent.written (some (.error (.ofAuth rejection))) ∧
      ∃ before frame after : List UInt8, recv.rest = before ++ frame ++ after ∧
        requestsOf agent.requests before = (requestsOf agent.requests recv.rest).take i ∧
        requestsOf agent.requests frame = [request] ∧
        ∀ (closed' : Bool) (recv' : RecvStream), recv'.rest = before ++ after →
          (agent.accept remoteId around closed' recv' s).state =
              (agent.accept remoteId around closed recv s).state ∧
            (agent.accept remoteId around closed' recv' s).frames =
              (agent.accept remoteId around closed recv s).frames.eraseIdx i
  suffix : ∀ (closed' : Bool) (recv' : RecvStream),
    requestsOf agent.requests recv'.rest = requestsOf agent.requests recv.rest →
    (agent.accept remoteId around closed' recv' s).state =
        (agent.accept remoteId around closed recv s).state ∧
      (agent.accept remoteId around closed' recv' s).frames =
        (agent.accept remoteId around closed recv s).frames

/-- If its answers can be written, a connection to an agent on which nothing panicked
before is served exactly when every dispatch of an authorized request keeps to the
range of the clock. -/
theorem serves_exactly_iff (agent : FabricAgent) (remoteId : String) (around : Surroundings W)
    (closed : Bool) (recv : RecvStream) (s : Shared W)
    (hp : s.fabric.leases.poisoned = false)
    (hwrites : ∀ response, some response ∈ agent.answers ⟨remoteId, agent.localEndpointId⟩ around 0
        (requestsOf agent.requests recv.rest) s →
      ∃ frame, writeFrame agent.responses response = .ok frame) :
    agent.ServesExactly remoteId around closed recv s ↔
      DispatchInRange around 0 (agent.authorized ⟨remoteId, agent.localEndpointId⟩
        (requestsOf agent.requests recv.rest)) s := by
  -- by then nothing can fail but a dispatch
  rw [← answers_returned_iff hp]
  constructor
  · intro h
    exact returned_of_length rfl h.count
  · intro hreturned
    have hall : ∀ reply ∈ agent.answers ⟨remoteId, agent.localEndpointId⟩ around 0
        (requestsOf agent.requests recv.rest) s, ∃ frame, agent.written reply = some frame := by
      intro reply hreply
      obtain ⟨response, rfl⟩ := hreturned reply hreply
      obtain ⟨frame, hframe⟩ := hwrites response hreply
      exact ⟨frame, by simp [written, hframe, Except.toOption]⟩
    obtain ⟨hframes, hstate⟩ := serveLoop_eq closed rfl hall
    constructor
    · have hlength := congrArg List.length hframes
      rw [List.length_map, List.length_map, length_answers] at hlength
      exact hlength
    · exact hframes
    · exact hstate
    · intro i request rejection hi hauth
      constructor
      · exact serveLoop_rejected rfl hall hi hauth
      · obtain ⟨before, frame, after, hbytes, hbefore, hframe, hcut⟩ := requestsOf_split hi
        refine ⟨before, frame, after, hbytes, hbefore, hframe, ?_⟩
        intro closed' recv' hrecv'
        rw [← hrecv'] at hcut
        exact serveLoop_eraseIdx rfl hcut hall hi hauth
    · intro closed' recv' hrecv'
      exact serveLoop_same rfl hrecv' hall

end FabricAgent

/-! ## A request that is answered, and one that is not -/

namespace Scenario

def ascii (text : String) : List UInt8 := text.toList.map fun c => .ofNat c.toNat

def pingText : List UInt8 := ascii "\"Ping\""

def leaseForeverText : List UInt8 :=
  ascii ("\x7b\"LeaseExclusive\":\x7b\"resource_id\":\"device.0\",\"owner\":\"mission-a\"," ++
    "\"ttl_secs\":18446744073709551615\x7d\x7d")

/-- An agent that accepts every request, with the JSON of two requests and of `Pong`. -/
def openAgent : FabricAgent where
  auth := noAuth
  localEndpointId := "agent"
  requests :=
    { toVec := fun
        | .ping => .ok pingText
        | .leaseExclusive "device.0" "mission-a" 0xFFFFFFFFFFFFFFFF => .ok leaseForeverText
        | _ => .error "not sent"
      fromSlice := fun bytes =>
        if bytes = pingText then .ok .ping
        else if bytes = leaseForeverText then .ok leaseForever
        else .error "not JSON" }
  responses :=
    { toVec := fun
        | .pong => .ok (ascii "\"Pong\"")
        | _ => .error "not sent"
      fromSlice := fun bytes =>
        if bytes = ascii "\"Pong\"" then .ok .pong else .error "not JSON" }

/-- Nothing happens between the dispatches. -/
def quiet : Surroundings Unit where
  order _ := .sorted
  elapse _ s := s
  elapses _ _ := ⟨le_rfl, rfl⟩

/-- A frame for each payload, and then the peer finishes. -/
def streamOf (payloads : List (List UInt8)) : RecvStream :=
  ⟨payloads.flatMap fun payload => toLeBytes (.ofNat payload.length) ++ payload,
    fun _ => 0, 0, none⟩

theorem requestsOf_streamOf {codec : Codec RpcRequest} {payloads : List (List UInt8)}
    {requests : List RpcRequest}
    (h : List.Forall₂ (fun payload request => payload.length ≤ maxFrameBytes.toNat ∧
      codec.fromSlice payload = .ok request) payloads requests) :
    requestsOf codec (streamOf payloads).rest = requests := by
  induction h with
  | nil => exact requestsOf_of_none (by simp [streamOf, firstFrame])
  | @cons payload request payloads requests hframe _ ih =>
      have hfirst := firstFrame_of_payload hframe.1 hframe.2 (streamOf payloads).rest
      have hrest : (streamOf (payload :: payloads)).rest =
          toLeBytes (.ofNat payload.length) ++ payload ++ (streamOf payloads).rest := by
        rw [streamOf, List.flatMap_cons]
        rfl
      rw [hrest, requestsOf_of_some hfirst, ih]

/-- The JSON of a text without control characters. -/
def jsonText (text : String) : String :=
  "\"" ++ .ofList (text.toList.flatMap fun c => if c = '"' then ['\\', '"'] else [c]) ++ "\""

def errorText (e : RpcError) : List UInt8 :=
  ascii ("\x7b\"Error\":\x7b\"message\":" ++ jsonText e.message ++ "\x7d\x7d")

/-- An agent that keeps leases to an hour, and renders its rejections. -/
def boundedAgent : FabricAgent where
  auth := TtlBound.default.provider jsonText
  localEndpointId := "agent"
  requests := openAgent.requests
  responses :=
    { toVec := fun
        | .pong => .ok (ascii "\"Pong\"")
        | .error e => .ok (errorText e)
        | _ => .error "not sent"
      fromSlice := openAgent.responses.fromSlice }

def tooLong : RpcError :=
  ⟨"policy violation: lease ttl 18446744073709551615s for owner \"mission-a\" " ++
    "exceeds maximum 3600s"⟩

theorem openAgent_reads_ping :
    pingText.length ≤ maxFrameBytes.toNat ∧ openAgent.requests.fromSlice pingText = .ok .ping :=
  ⟨by decide +kernel, by simp [openAgent]⟩

theorem openAgent_reads_leaseForever : leaseForeverText.length ≤ maxFrameBytes.toNat ∧
    openAgent.requests.fromSlice leaseForeverText = .ok leaseForever := by
  have hother : leaseForeverText ≠ pingText := by decide +kernel
  exact ⟨by decide +kernel, by simp [openAgent, hother]⟩

end Scenario

open Scenario in
/-- A lease without end is asked for between two pings, and rejected. -/
theorem serves_exactly_between_pings :
    requestsOf boundedAgent.requests
        (streamOf [pingText, leaseForeverText, pingText]).rest = [.ping, leaseForever, .ping] ∧
      boundedAgent.ServesExactly "controller" quiet false
        (streamOf [pingText, leaseForeverText, pingText]) deviceOnly := by
  have hrequests : requestsOf boundedAgent.requests
      (streamOf [pingText, leaseForeverText, pingText]).rest = [.ping, leaseForever, .ping] :=
    requestsOf_streamOf (.cons openAgent_reads_ping (.cons openAgent_reads_leaseForever
      (.cons openAgent_reads_ping .nil)))
  refine ⟨hrequests, ?_⟩
  refine (FabricAgent.serves_exactly_iff boundedAgent "controller" quiet false _ deviceOnly rfl
    ?_).mpr ?_
  · rw [hrequests]
    intro response hresponse
    have hanswers : boundedAgent.answers ⟨"controller", boundedAgent.localEndpointId⟩ quiet 0
        [.ping, leaseForever, .ping] deviceOnly =
          [some .pong, some (.error tooLong), some .pong] := by
      decide +kernel
    have hpong : ∃ frame, writeFrame boundedAgent.responses .pong = .ok frame := ⟨_, rfl⟩
    have herror : ∃ frame, writeFrame boundedAgent.responses (.error tooLong) = .ok frame := by
      have hsmall : (errorText tooLong).length < 2 ^ 32 := by decide +kernel
      have hvec : boundedAgent.responses.toVec (.error tooLong) = .ok (errorText tooLong) := rfl
      unfold writeFrame
      rw [hvec]
      exact ⟨_, if_pos hsmall⟩
    rw [hanswers] at hresponse
    simp only [List.mem_cons, Option.some.injEq, List.not_mem_nil, or_false] at hresponse
    rcases hresponse with rfl | rfl | rfl
    · exact hpong
    · exact herror
    · exact hpong
  · -- only the pings come to a dispatch
    rw [hrequests]
    exact ⟨trivial, trivial, trivial⟩

open Scenario in
/-- A TTL that leaves the range of the clock: a good frame is not answered. -/
theorem frame_not_answered :
    ¬ ∀ (agent : FabricAgent) (remoteId : String) (around : Surroundings Unit) (closed : Bool)
        (recv : RecvStream) (s : Shared Unit), s.fabric.leases.poisoned = false →
      (∀ response, some response ∈ agent.answers ⟨remoteId, agent.localEndpointId⟩ around 0
          (requestsOf agent.requests recv.rest) s →
        ∃ frame, writeFrame agent.responses response = .ok frame) →
      agent.ServesExactly remoteId around closed recv s := by
  intro hall
  have hrequests : requestsOf openAgent.requests (streamOf [leaseForeverText]).rest =
      [leaseForever] :=
    requestsOf_streamOf (.cons openAgent_reads_leaseForever .nil)
  have hpanic : openAgent.answers ⟨"controller", openAgent.localEndpointId⟩ quiet 0 [leaseForever]
      deviceOnly = [none] := by
    decide +kernel
  have hserves := hall openAgent "controller" quiet false (streamOf [leaseForeverText])
    deviceOnly rfl
    (by
      rw [hrequests, hpanic]
      intro response hresponse
      simp at hresponse)
  have hanswered := FabricAgent.returned_of_length hrequests
    (hserves.count.trans (congrArg List.length hrequests))
  rw [hpanic] at hanswered
  obtain ⟨response, hresponse⟩ := hanswered none (by simp)
  cases hresponse

end NautiFabric
