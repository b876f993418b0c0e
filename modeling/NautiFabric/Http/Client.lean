import NautiFabric.Http.Response
import NautiFabric.Json
import NautiFabric.Plan.Types

/-!
# NautiFabric.Http.Client — asking a head over HTTP

One ask is one POST over a connection of its own, and the answer is all that arrives
before the connection is closed. The timeout shows only in what the socket calls
return, so it is left out here.
-/

namespace NautiFabric

/-! ## Where the head is -/

def defaultHeadPort : UInt16 := 8080

/-- Host and port of an `http://` authority. -/
def parseHeadUrl {N : Type} (std : Platform N) (base : String) :
    Except PlanReject (String × UInt16) :=
  match stripStart "http://" base with
  | none =>
    .error (.badHeadUrl (std.debug base ++ " is not an http:// authority (no TLS here)"))
  | some rest =>
    let authority := trim ((split '/' rest).headD "")
    if authority.isEmpty then .error (.badHeadUrl (std.debug base ++ " has no host"))
    else
      let hostPort : Except PlanReject (String × UInt16) :=
        match rsplitOnce ':' authority with
        | some (h, p) =>
          match parseU16 p with
          | none =>
            .error (.badHeadUrl (std.debug base ++ " has a non-numeric port " ++ std.debug p))
          | some port => .ok (h, port)
        | none => .ok (authority, defaultHeadPort)
      match hostPort with
      | .error reject => .error reject
      | .ok (host, port) =>
        if (trimMatches (fun c => c == '[' || c == ']') host).isEmpty then
          .error (.badHeadUrl (std.debug base ++ " has an empty host"))
        else .ok (host, port)

/-! ## One exchange -/

/-- What the calls of one connection return; an error is the text it is shown as. -/
structure Socket where
  connect : (authority : String) → Except String Unit
  writeAll : List UInt8 → Except String Unit
  flush : Except String Unit
  /-- all that arrives after these bytes were sent, up to the close -/
  readToEnd : List UInt8 → Except String (List UInt8)

def postText (path authority body : String) : String :=
  "POST " ++ path ++ " HTTP/1.1\r\n" ++
  "Host: " ++ authority ++ "\r\n" ++
  "Content-Type: application/json\r\n" ++
  "Content-Length: " ++ toString (asBytes body).length ++ "\r\n" ++
  "Accept: application/json\r\n" ++
  "Connection: close\r\n" ++
  "\r\n" ++
  body

def httpPost (socket : Socket) (host : String) (port : UInt16) (path body : String) :
    Except PlanReject (UInt16 × StringMap String × String) :=
  let authority := host ++ ":" ++ toString port
  let request := asBytes (postText path authority body)
  match socket.connect authority with
  | .error e => .error (.headUnreachable ("connect " ++ authority ++ ": " ++ e))
  | .ok () =>
    match socket.writeAll request with
    | .error e => .error (.headUnreachable ("write to " ++ authority ++ ": " ++ e))
    | .ok () =>
      match socket.flush with
      | .error e => .error (.headUnreachable ("flush to " ++ authority ++ ": " ++ e))
      | .ok () =>
        match socket.readToEnd request with
        | .error e => .error (.headUnreachable ("read from " ++ authority ++ ": " ++ e))
        | .ok raw =>
          match parseHttpResponse raw with
          | none =>
            .error (.headUnreachable (authority ++ " closed with no complete HTTP response"))
          | some response => .ok response

/-! ## The answer -/

/-- The JSON texts of an ask and of its answers; an error is the text it is shown as.
The text of an ask has the snapshot of the asking node in it, which no planner reads. -/
structure PlanJson (N : Type) where
  toString : PlanRequest → Except String String
  fragment : String → Except String (PlanFragment N)
  value : String → Except String (Json N)

def planEndpointPath : String := "/v1/plan"

def jsonDetail {N : Type} (json : PlanJson N) (body : String) : Option String :=
  match json.value body with
  | .error _ => none
  | .ok value => (value.index "detail").asStr

def truncate (s : String) (max : ℕ) : String :=
  let trimmed := trim s
  if trimmed.toList.length ≤ max then trimmed
  else .ofList (trimmed.toList.take max) ++ "…"

/-- What a status and a body mean to the ask. -/
def readAnswer {N : Type} (json : PlanJson N) (req : PlanRequest) (status : UInt16)
    (headers : StringMap String) (resp : String) : Except PlanReject (PlanFragment N) :=
  if 200 ≤ status ∧ status ≤ 299 then
    -- whatever fragment the body holds
    match json.fragment resp with
    | .error e => .error (.badResponse status "missing-field" ("body is not a PlanFragment: " ++ e))
    | .ok fragment => .ok fragment
  else if status = 403 then
    -- the header goes before the body
    .error (.escalateNowhere
      (((headers["x-escalate-constraint"]?).filter fun s => !(trim s).isEmpty).or
        (jsonDetail json resp)))
  else if status = 404 then .error (.unknownRole req.role)
  else
    .error (.badResponse status (if status ≥ 500 then "backend-down" else "executor-error")
      (truncate resp 200))

def askHead {N : Type} (std : Platform N) (json : PlanJson N) (socket : Socket)
    (baseUrl : String) (req : PlanRequest) : Except PlanReject (PlanFragment N) :=
  match parseHeadUrl std baseUrl with
  | .error reject => .error reject
  | .ok (host, port) =>
    match json.toString req with
    | .error e =>
      .error (.badResponse 0 "executor-error" ("cannot encode PlanRequest: " ++ e))
    | .ok body =>
      match httpPost socket host port planEndpointPath body with
      | .error reject => .error reject
      | .ok (status, headers, resp) => readAnswer json req status headers resp

/-! ## What an answer comes from -/

/-- The connection is made, takes the request, and these bytes arrive. -/
structure Socket.Delivers (socket : Socket) (authority : String) (request raw : List UInt8) :
    Prop where
  connect : socket.connect authority = .ok ()
  write : socket.writeAll request = .ok ()
  flush : socket.flush = .ok ()
  read : socket.readToEnd request = .ok raw

/-- A post returns the response that arrives. -/
theorem httpPost_of_delivers {socket : Socket} {host path body : String} {port : UInt16}
    {raw : List UInt8} {response : UInt16 × StringMap String × String}
    (h : socket.Delivers (host ++ ":" ++ toString port)
      (asBytes (postText path (host ++ ":" ++ toString port) body)) raw)
    (hparse : parseHttpResponse raw = some response) :
    httpPost socket host port path body = .ok response := by
  unfold httpPost
  dsimp only
  rw [h.connect]
  dsimp only
  rw [h.write]
  dsimp only
  rw [h.flush]
  dsimp only
  rw [h.read]
  dsimp only
  rw [hparse]

/-- A post that returns has read a whole response. -/
theorem httpPost_ok {socket : Socket} {host path body : String} {port : UInt16}
    {response : UInt16 × StringMap String × String}
    (h : httpPost socket host port path body = .ok response) :
    ∃ raw, socket.Delivers (host ++ ":" ++ toString port)
      (asBytes (postText path (host ++ ":" ++ toString port) body)) raw ∧
        parseHttpResponse raw = some response := by
  unfold httpPost at h
  dsimp only at h
  rcases hconnect : socket.connect (host ++ ":" ++ toString port) with e | ⟨⟩
  · simp [hconnect] at h
  · rcases hwrite : socket.writeAll (asBytes (postText path (host ++ ":" ++ toString port) body))
      with e | ⟨⟩
    · simp [hconnect, hwrite] at h
    · rcases hflush : socket.flush with e | ⟨⟩
      · simp [hconnect, hwrite, hflush] at h
      · rcases hread : socket.readToEnd
          (asBytes (postText path (host ++ ":" ++ toString port) body)) with e | raw
        · simp [hconnect, hwrite, hflush, hread] at h
        · rcases hparse : parseHttpResponse raw with _ | response'
          · simp [hconnect, hwrite, hflush, hread, hparse] at h
          · simp only [hconnect, hwrite, hflush, hread, hparse] at h
            exact ⟨raw, ⟨hconnect, hwrite, hflush, hread⟩,
              hparse.trans (congrArg some (Except.ok.inj h))⟩

theorem readAnswer_ok {N : Type} {json : PlanJson N} {req : PlanRequest} {status : UInt16}
    {headers : StringMap String} {resp : String} {fragment : PlanFragment N}
    (h : readAnswer json req status headers resp = .ok fragment) :
    (200 ≤ status ∧ status ≤ 299) ∧ json.fragment resp = .ok fragment := by
  unfold readAnswer at h
  split_ifs at h with hstatus
  rcases hfragment : json.fragment resp with e | fragment'
  · simp [hfragment] at h
  · simp only [hfragment] at h
    exact ⟨hstatus, congrArg _ (Except.ok.inj h)⟩

/-- The ask is sent, and these bytes arrive in answer. -/
def Receives {N : Type} (std : Platform N) (json : PlanJson N) (socket : Socket)
    (baseUrl : String) (req : PlanRequest) (raw : List UInt8) : Prop :=
  ∃ host port body, parseHeadUrl std baseUrl = .ok (host, port) ∧ json.toString req = .ok body ∧
    socket.Delivers (host ++ ":" ++ toString port)
      (asBytes (postText planEndpointPath (host ++ ":" ++ toString port) body)) raw

theorem askHead_of_receives {N : Type} {std : Platform N} {json : PlanJson N} {socket : Socket}
    {baseUrl : String} {req : PlanRequest} {raw : List UInt8} {status : UInt16}
    {headers : StringMap String} {resp : String} (h : Receives std json socket baseUrl req raw)
    (hparse : parseHttpResponse raw = some (status, headers, resp)) :
    askHead std json socket baseUrl req = readAnswer json req status headers resp := by
  obtain ⟨host, port, body, hurl, hbody, hdelivers⟩ := h
  unfold askHead
  rw [hurl]
  dsimp only
  rw [hbody]
  dsimp only
  rw [httpPost_of_delivers hdelivers hparse]

/-- An answer is the fragment in the body of a response that arrived, with a 2xx status. -/
theorem askHead_ok {N : Type} {std : Platform N} {json : PlanJson N} {socket : Socket}
    {baseUrl : String} {req : PlanRequest} {fragment : PlanFragment N}
    (h : askHead std json socket baseUrl req = .ok fragment) :
    ∃ host port body raw status headers resp,
      parseHeadUrl std baseUrl = .ok (host, port) ∧ json.toString req = .ok body ∧
      socket.Delivers (host ++ ":" ++ toString port)
          (asBytes (postText planEndpointPath (host ++ ":" ++ toString port) body)) raw ∧
      parseHttpResponse raw = some (status, headers, resp) ∧
      (200 ≤ status ∧ status ≤ 299) ∧ json.fragment resp = .ok fragment := by
  unfold askHead at h
  rcases hurl : parseHeadUrl std baseUrl with reject | ⟨host, port⟩
  · simp [hurl] at h
  · rcases hbody : json.toString req with e | body
    · simp [hurl, hbody] at h
    · rcases hpost : httpPost socket host port planEndpointPath body
        with reject | ⟨status, headers, resp⟩
      · simp [hurl, hbody, hpost] at h
      · simp only [hurl, hbody, hpost] at h
        obtain ⟨raw, hdelivers, hparse⟩ := httpPost_ok hpost
        obtain ⟨hstatus, hfragment⟩ := readAnswer_ok h
        exact ⟨host, port, body, raw, status, headers, resp, rfl, rfl, hdelivers, hparse,
          hstatus, hfragment⟩

end NautiFabric
