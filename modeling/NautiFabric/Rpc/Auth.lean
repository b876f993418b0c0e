import NautiFabric.Rpc.Dispatch

/-!
# NautiFabric.Rpc.Auth — authorization in front of dispatch

Every request an agent serves passes its `AuthProvider` before it is dispatched.
`TtlBound` looks at the TTL of `LeaseExclusive` and accepts every other request,
renewals included; `ttl_bound_kept` says what this keeps of its maximum.
-/

namespace NautiFabric

open Interleave

variable {W : Type}

/-! ## Providers -/

structure RequestContext where
  remoteEndpointId : String
  localEndpointId : String
deriving DecidableEq, Repr

inductive AuthRejection where
  | policyViolation (reason : String)
  | notConfigured (adapter hint : String)
  | invalidCredential (reason : String)
deriving DecidableEq, Repr

/-- The `Display` text of a rejection. -/
def AuthRejection.toString : AuthRejection → String
  | .policyViolation reason => "policy violation: " ++ reason
  | .notConfigured adapter hint => adapter ++ " not configured: " ++ hint
  | .invalidCredential reason => "invalid credential: " ++ reason

structure AuthError where
  rejection : AuthRejection
deriving DecidableEq, Repr

def AuthError.policy (reason : String) : AuthError := ⟨.policyViolation reason⟩

structure AuthProvider where
  name : String
  authorize : RequestContext → RpcRequest → Except AuthError Unit

def noAuth : AuthProvider := ⟨"none", fun _ _ => .ok ()⟩

/-! ## The TTL bound -/

/-- The decimals of `fraction / (10 * divisor)`, without trailing zeros. -/
def fractionDigits : ℕ → ℕ → ℕ → List Char
  | 0, _, _ => []
  | places + 1, fraction, divisor =>
    if fraction = 0 then []
    else (fraction / divisor).digitChar ::
      fractionDigits places (fraction % divisor) (divisor / 10)

def fmtDecimal (integer fraction divisor : ℕ) (unit : String) : String :=
  integer.repr ++
    (if fraction = 0 then "" else "." ++ String.ofList (fractionDigits 9 fraction divisor)) ++ unit

/-- The `Debug` text of a duration. -/
def Duration.debug (d : Duration) : String :=
  let nanos := d % nanosPerSec
  if d / nanosPerSec > 0 then fmtDecimal (d / nanosPerSec) nanos 100000000 "s"
  else if nanos ≥ 1000000 then fmtDecimal (nanos / 1000000) (nanos % 1000000) 100000 "ms"
  else if nanos ≥ 1000 then fmtDecimal (nanos / 1000) (nanos % 1000) 100 "µs"
  else fmtDecimal nanos 0 1 "ns"

structure TtlBound where
  min : Duration
  max : Duration
deriving DecidableEq, Repr

def TtlBound.default : TtlBound := ⟨.fromSecs 1, .fromSecs 3600⟩

/-- `debug` is the standard library's `Debug` text of a string. -/
def TtlBound.authorize (debug : String → String) (bound : TtlBound) :
    RequestContext → RpcRequest → Except AuthError Unit
  | _, .leaseExclusive _ owner ttlSecs =>
    let ttl := Duration.fromSecs ttlSecs
    if ttl < bound.min then
      .error (.policy ("lease ttl " ++ ttl.debug ++ " for owner " ++ debug owner ++
        " is below minimum " ++ bound.min.debug))
    else if ttl > bound.max then
      .error (.policy ("lease ttl " ++ ttl.debug ++ " for owner " ++ debug owner ++
        " exceeds maximum " ++ bound.max.debug))
    else .ok ()
  | _, _ => .ok ()

def TtlBound.provider (debug : String → String) (bound : TtlBound) : AuthProvider :=
  ⟨"ttl-bound", bound.authorize debug⟩

/-! ## Serving -/

/-- The wire form of an authorization error. -/
def RpcError.ofAuth (error : AuthError) : RpcError := ⟨error.rejection.toString⟩

/-- One round of the accept loop: authorize, then dispatch. -/
def serveRequest (auth : AuthProvider) (order : IterOrder) (ctx : RequestContext)
    (request : RpcRequest) : Call W RpcResponse :=
  match auth.authorize ctx request with
  | .ok () => dispatch order request
  | .error rejection => return .error (.ofAuth rejection)

/-- All interleavings of served requests, on a fabric without leases. -/
def servedSystem (auth : AuthProvider) (guard : Section W → Shared W → Prop) :
    Interleave.System (@Section.Reply W) (Shared W) Unit where
  act := Section.act
  init s := s.fabric.leases.val = ∅ ∧ s.log = []
  invocable p := ∃ order ctx request, p = (serveRequest auth order ctx request).ignore
  env := Shared.Elapse
  guard := guard

/-! ## What the bound keeps -/

/-- A grant of at most `max`. -/
def Section.TtlAtMost (max : Duration) : Section W → Prop
  | .leaseExclusive _ _ ttl => ttl ≤ max
  | _ => True

/-- The expiry of a recorded lease is at most `max` away, or a renewal by more
than `max` set it. -/
def ExpiryBounded (max : Duration) (s : Shared W) : Prop :=
  ∀ (k : String) (active : ActiveLease), s.fabric.leases.val[k]? = some active →
    active.expiresAt ≤ s.now + max ∨
      ∃ presented ttl t, .renewed presented active.lease ttl t ∈ s.log ∧ max < ttl ∧
        active.expiresAt = t + ttl

theorem ttl_le_of_authorize (debug : String → String) (bound : TtlBound) (ctx : RequestContext)
    (resourceId owner : String) (ttlSecs : UInt64)
    (h : bound.authorize debug ctx (.leaseExclusive resourceId owner ttlSecs) = .ok ()) :
    Duration.fromSecs ttlSecs ≤ bound.max := by
  unfold TtlBound.authorize at h
  dsimp only at h
  split at h
  · cases h
  · split at h
    · cases h
    · rename_i hmax
      exact not_lt.mp hmax

theorem serveRequest_sound {I : Shared W → Prop} (debug : String → String) (bound : TtlBound)
    (order : IterOrder) (ctx : RequestContext) (request : RpcRequest) :
    (serveRequest (bound.provider debug) order ctx request : Call W _).Sound Section.act
      I (Section.TtlAtMost bound.max) := by
  unfold serveRequest
  split
  · rename_i hok
    refine dispatch_sound ?_ ?_ order
    · intro sec _ hsec
      cases sec with
      | leaseExclusive resourceId owner ttl => exact absurd rfl (hsec resourceId owner ttl)
      | _ => trivial
    · rintro resourceId owner ttlSecs rfl
      exact ttl_le_of_authorize debug bound ctx resourceId owner ttlSecs hok
  · trivial

theorem add_le_add_right_of_ttl (t : Instant) {ttl max : Duration} (h : ttl ≤ max) :
    t + ttl ≤ t + max :=
  add_le_add le_rfl (Nat.cast_le.mpr h)

theorem ExpiryBounded.act {max : Duration} {s : Shared W} (h : ExpiryBounded max s)
    {sec : Section W} (hsec : sec.TtlAtMost max) : ExpiryBounded max (sec.act s).2 := by
  have hnow := act_now sec s
  have hstep := act_leaseStep sec s
  generalize (sec.act s).2 = s' at hnow hstep
  intro k active hk
  rw [hnow]
  -- an entry that was there before keeps its reason, since the history only grows
  have hold : (∃ evs, s'.log = evs ++ s.log) → s.fabric.leases.val[k]? = some active →
      active.expiresAt ≤ s.now + max ∨
        ∃ presented ttl t, .renewed presented active.lease ttl t ∈ s'.log ∧ max < ttl ∧
          active.expiresAt = t + ttl := by
    rintro ⟨evs, hlog⟩ hk
    rcases h k active hk with hle | ⟨presented, ttl, t, hm, hlt, hexp⟩
    · exact Or.inl hle
    · refine Or.inr ⟨presented, ttl, t, ?_, hlt, hexp⟩
      rw [hlog]
      exact List.mem_append_right _ hm
  have hretain : (retainUnexpired s.now s.fabric.leases.val)[k]? = some active →
      s.fabric.leases.val[k]? = some active := by
    intro hr
    rw [getElem?_retainUnexpired] at hr
    exact Option.eq_some_of_filter_eq_some hr
  cases hstep with
  | idle hleases _ hlog =>
      obtain ⟨evs, hlog, -⟩ := hlog
      exact hold ⟨evs, hlog⟩ (hleases ▸ hk)
  | prune hleases _ hlog =>
      rw [hleases] at hk
      exact hold ⟨[], hlog⟩ (hretain hk)
  | @grant _ _ ttl lease _ _ _ hleases _ hlog =>
      rw [hleases, Std.ExtTreeMap.getElem?_insert] at hk
      split at hk
      · -- the new lease: its TTL was authorized
        left
        obtain rfl := Option.some.inj hk
        exact add_le_add_right_of_ttl s.now hsec
      · exact hold ⟨[_], hlog⟩ (hretain hk)
  | @renew lease ttl active' _ _ _ _ hleases _ hlog =>
      rw [hleases, Std.ExtTreeMap.getElem?_insert] at hk
      split at hk
      · -- the renewed lease: nobody looked at its TTL
        obtain rfl := Option.some.inj hk
        by_cases hle : ttl ≤ max
        · exact Or.inl (add_le_add_right_of_ttl s.now hle)
        · right
          refine ⟨lease, ttl, s.now, ?_, not_le.mp hle, rfl⟩
          rw [hlog]
          exact List.mem_cons_self
      · exact hold ⟨[_], hlog⟩ (hretain hk)
  | attach _ _ _ _ hleases _ hlog =>
      obtain ⟨evs, hlog, -⟩ := hlog
      exact hold ⟨evs ++ [_], by simpa using hlog⟩ (hleases ▸ hk)
  | release _ _ hleases _ hlog =>
      rw [hleases, Std.ExtTreeMap.getElem?_erase] at hk
      split at hk
      · cases hk
      · exact hold ⟨[_], hlog⟩ hk

/-- Behind a `TtlBound` every recorded lease expires no later than `max` from now,
unless a renewal by more than `max` set its expiry. -/
theorem ttl_bound_kept (debug : String → String) (bound : TtlBound)
    {c : Config (@Section.Reply W) (Shared W) Unit}
    (h : (servedSystem (bound.provider debug) anySection).Reachable c) :
    ExpiryBounded bound.max c.state := by
  refine (h.sound (ExpiryBounded bound.max) (Section.TtlAtMost bound.max) ?_ ?_ ?_ ?_).1
  · intro s hs k active hk
    rw [hs.1] at hk
    simp at hk
  · rintro p ⟨order, ctx, request, rfl⟩
    exact (serveRequest_sound debug bound order ctx request).bind fun _ => trivial
  · intro sec s hsec _ hs
    exact hs.act hsec
  · intro s s' he hs k active hk
    rw [he.2] at hk ⊢
    rcases hs k active hk with hle | hrenewed
    · left
      have hlater : s.now + (bound.max : ℤ) ≤ s'.now + (bound.max : ℤ) :=
        add_le_add he.1 le_rfl
      exact hle.trans hlater
    · exact Or.inr hrenewed

namespace Scenario

/-- A fabric with the device registered and nothing leased. -/
def deviceOnly : Shared Unit :=
  { start () with fabric.resources := (∅ : StringMap Resource).insert device.id device }

def controller : RequestContext := ⟨"controller", "agent"⟩

/-- A request served behind the default bound. -/
def served (request : RpcRequest) : Call Unit Unit :=
  (serveRequest (TtlBound.default.provider id) .sorted controller request).ignore

/-- A lease of ten seconds. -/
def leaseTenSecs : Schedule Unit :=
  [.invoke (served (.leaseExclusive "device.0" "mission-a" 10)), .advance 0, .advance 0]

/-- A lease of ten seconds, renewed for two hours. -/
def renewTwoHours : Schedule Unit :=
  leaseTenSecs ++
  [.invoke (served (.leaseRenew ⟨1, "device.0", "mission-a"⟩ 7200)), .advance 0]

theorem reachable_served (moves : Schedule Unit)
    (hm : (servedSystem (TtlBound.default.provider id) anySection).Admits moves) :
    (servedSystem (TtlBound.default.provider id) anySection).Reachable
      (after deviceOnly moves) := by
  have hinit : (servedSystem (TtlBound.default.provider id) anySection).Reachable
      ⟨deviceOnly, []⟩ := .init _ ⟨rfl, rfl⟩
  exact hinit.schedule (System.schedule_of_admits (fun _ _ => trivial) hm _)

end Scenario

open Scenario in
theorem ttl_bound_kept_ten_secs :
    ((after deviceOnly leaseTenSecs).state.fabric.leases.val["device.0"]?).map
        ActiveLease.expiresAt = some 10000000000 ∧
      ExpiryBounded TtlBound.default.max (after deviceOnly leaseTenSecs).state := by
  have hr := reachable_served leaseTenSecs ⟨⟨.sorted, controller, _, rfl⟩, trivial⟩
  exact ⟨by decide +kernel, ttl_bound_kept id TtlBound.default hr⟩

open Scenario in
/-- A renewal is not held to the bound. -/
theorem ttl_bound_not_kept :
    ¬ ∀ (debug : String → String) (bound : TtlBound)
        (c : Config (@Section.Reply Unit) (Shared Unit) Unit),
      (servedSystem (bound.provider debug) anySection).Reachable c →
      ∀ (k : String) (active : ActiveLease), c.state.fabric.leases.val[k]? = some active →
        active.expiresAt ≤ c.state.now + bound.max := by
  intro h
  have hr := reachable_served renewTwoHours
    ⟨⟨.sorted, controller, _, rfl⟩, ⟨.sorted, controller, _, rfl⟩, trivial⟩
  have hlease : (after deviceOnly renewTwoHours).state.fabric.leases.val["device.0"]? =
      some ⟨⟨1, "device.0", "mission-a"⟩, 7200000000000⟩ := by decide +kernel
  have hle := h id TtlBound.default _ hr "device.0" _ hlease
  have hgt : ¬ ((7200000000000 : ℤ) ≤ (after deviceOnly renewTwoHours).state.now +
      (TtlBound.default.max : ℤ)) := by decide +kernel
  exact hgt hle

end NautiFabric
