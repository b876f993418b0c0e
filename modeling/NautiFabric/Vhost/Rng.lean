import NautiFabric.Lib.Quota

/-!
# NautiFabric.Vhost.Rng — entropy for a guest, by the period

`process_requests` serves the descriptors of one notification, one after the other. The
clock, the sleep, the entropy source with its lock, guest memory and the used ring are a
`RngHost`; what it has to do for the limit to hold is `RngHost.Timely`.

The limit is that of `Quota`: `history` is not in the code, it has an event for each
assignment to `period_start` and for each read. What the two halves of a request can do is
said once, by `checkTimer_cases` and `serve_cases`; the limit and the completions of the
guest are both read off them.
-/

namespace NautiFabric

open Quota

/-! ## The backend -/

inductive RngError where
  | unexpectedDescriptorCount (count : ℕ)
  | unexpectedReadDescriptor
  | sourceAccess
  | sourceRead
  | sourceOpen (detail : String)
  | unexpectedTimerValue
deriving DecidableEq, Repr

/-- `MAX_PERIOD_MS` -/
def maxPeriodMs : ℕ := 65536

structure RngConfig where
  periodMs : ℕ
  maxBytes : ℕ
deriving DecidableEq, Repr

def RngConfig.validate (config : RngConfig) : Except RngError Unit :=
  if config.periodMs = 0 ∨ maxPeriodMs < config.periodMs then
    .error (.sourceOpen s!"period {config.periodMs}ms outside 1..={maxPeriodMs}")
  else .ok ()

/-- The times are in nanoseconds of a monotonic clock. -/
structure TimerConfig where
  periodMs : ℕ
  periodStart : ℕ
  maxBytes : ℕ
  quotaRemaining : ℕ
deriving DecidableEq, Repr

def TimerConfig.new (periodMs maxBytes now : ℕ) : TimerConfig := ⟨periodMs, now, maxBytes, maxBytes⟩

structure RngDescriptor where
  addr : UInt64
  len : UInt32
  isWriteOnly : Bool
deriving DecidableEq, Repr

structure RngDescriptorChain where
  headIndex : UInt16
  descriptors : List RngDescriptor
deriving DecidableEq, Repr

/-- An entry of the used ring. -/
structure UsedElem where
  id : UInt16
  len : UInt32
deriving DecidableEq, Repr

/-- What the backend calls, on worlds `W`. -/
structure RngHost (W : Type) where
  now : W → ℕ × W
  sleep : (millis : ℕ) → W → W
  /-- whether the source could be locked -/
  lock : W → Bool × W
  /-- `None` where the read fails -/
  readVolatileFrom : (addr : UInt64) → (count : ℕ) → W → Option ℕ × W
  /-- whether the entry could be added -/
  addUsed : UsedElem → W → Bool × W
  /-- what may become of the world until the next notification -/
  later : W → W → Prop

structure RngBackend (W : Type) where
  timer : TimerConfig
  world : W
  used : List UsedElem
  history : List (Quota.Event ℕ)

/-- How a request ends that is not served; a checked subtraction may go below zero. -/
inductive RngStop where
  | error (e : RngError)
  | underflow
deriving DecidableEq, Repr

variable {W : Type} {host : RngHost W} {config : RngConfig} {first : ℕ} {s s' : RngBackend W}

def RngBackend.new (config : RngConfig) (first : ℕ) (world : W) : RngBackend W :=
  ⟨.new config.periodMs config.maxBytes first, world, [], []⟩

def RngBackend.startPeriod (s : RngBackend W) (now : ℕ) : RngBackend W :=
  { s with
    timer := { s.timer with periodStart := now, quotaRemaining := s.timer.maxBytes }
    history := .opening now :: s.history }

/-- The clock's part of a request. -/
def RngHost.checkTimer (host : RngHost W) (s : RngBackend W) :
    Except RngStop Unit × RngBackend W :=
  let (now, world) := host.now s.world
  if now < s.timer.periodStart then (.error (.error .unexpectedTimerValue), { s with world })
  else
    let elapsed := (now - s.timer.periodStart) / 1000000
    if s.timer.periodMs ≤ elapsed then (.ok (), { s with world }.startPeriod now)
    else if s.timer.quotaRemaining = 0 then
      let toSleep := s.timer.periodMs - elapsed
      let (now, world) := host.now (host.sleep (toSleep % 2 ^ 64) world)
      (.ok (), { s with world }.startPeriod now)
    else (.ok (), { s with world })

/-- The descriptor's length, or the quota where that is less. -/
def RngBackend.toRead (s : RngBackend W) (descriptor : RngDescriptor) : ℕ :=
  if s.timer.quotaRemaining < descriptor.len.toNat then s.timer.quotaRemaining
  else descriptor.len.toNat

/-- The read, and the entry of the used ring. -/
def RngHost.serve (host : RngHost W) (headIndex : UInt16) (descriptor : RngDescriptor)
    (s : RngBackend W) : Except RngStop Unit × RngBackend W :=
  match host.lock s.world with
  | (false, world) => (.error (.error .sourceAccess), { s with world })
  | (true, world) =>
    match host.readVolatileFrom descriptor.addr (s.toRead descriptor) world with
    | (none, world) => (.error (.error .sourceRead), { s with world })
    | (some len, world) =>
      if s.timer.quotaRemaining < len then (.error .underflow, { s with world })
      else
        let entry : UsedElem := ⟨headIndex, .ofNat len⟩
        let (added, world) := host.addUsed entry world
        (.ok (),
          { timer := { s.timer with quotaRemaining := s.timer.quotaRemaining - len }
            world
            used := if added then s.used ++ [entry] else s.used
            history := .spend len :: s.history })

def RngHost.processRequest (host : RngHost W) (chain : RngDescriptorChain) (s : RngBackend W) :
    Except RngStop Unit × RngBackend W :=
  match chain.descriptors with
  | [descriptor] =>
    if !descriptor.isWriteOnly then (.error (.error .unexpectedReadDescriptor), s)
    else
      match host.checkTimer s with
      | (.error stop, s) => (.error stop, s)
      | (.ok (), s) => host.serve chain.headIndex descriptor s
  | descriptors => (.error (.error (.unexpectedDescriptorCount descriptors.length)), s)

/-- The first request that is not served ends the batch. -/
def RngHost.processRequests (host : RngHost W) :
    List RngDescriptorChain → RngBackend W → Except RngStop Bool × RngBackend W
  | [], s => (.ok true, s)
  | chain :: requests, s =>
    match host.processRequest chain s with
    | (.error stop, s) => (.error stop, s)
    | (.ok (), s) => host.processRequests requests s

/-- What a backend comes to, made at `first`. -/
inductive RngReaches (host : RngHost W) (config : RngConfig) (first : ℕ) : RngBackend W → Prop
  | new (world : W) : RngReaches host config first (.new config first world)
  | batch {s : RngBackend W} (h : RngReaches host config first s)
      (requests : List RngDescriptorChain) :
      RngReaches host config first (host.processRequests requests s).2
  | idle {s : RngBackend W} (h : RngReaches host config first s) {world : W}
      (hlater : host.later s.world world) :
      RngReaches host config first { s with world }

/-! ## What the host has to do -/

/-- The clock never goes back, a sleep lasts as long as asked, and a read is no longer than
asked; `time` is the clock at a world. -/
structure RngHost.Timely (host : RngHost W) (time : W → ℕ) : Prop where
  now_ge : ∀ w, time w ≤ (host.now w).1
  now_le : ∀ w, (host.now w).1 ≤ time (host.now w).2
  sleep : ∀ millis w, time w + millis * 1000000 ≤ time (host.sleep millis w)
  lock : ∀ w, time w ≤ time (host.lock w).2
  read : ∀ addr count w, time w ≤ time (host.readVolatileFrom addr count w).2
  addUsed : ∀ entry w, time w ≤ time (host.addUsed entry w).2
  later : ∀ w w', host.later w w' → time w ≤ time w'
  read_le : ∀ addr count w n, (host.readVolatileFrom addr count w).1 = some n → n ≤ count

/-! ## The limit -/

/-- A period of `config` that began at `a` has ended at `b`. -/
def PeriodEnded (config : RngConfig) (a b : ℕ) : Prop := a + config.periodMs * 1000000 ≤ b

/-- Everything that the clock's part of a request can do. -/
theorem RngHost.checkTimer_cases (host : RngHost W) (s : RngBackend W) :
    (∃ world, host.checkTimer s = (.error (.error .unexpectedTimerValue), { s with world })) ∨
    (∃ world, host.checkTimer s = (.ok (), { s with world }) ∧ s.timer.quotaRemaining ≠ 0) ∨
    ∃ t world, host.checkTimer s = (.ok (), { s with world }.startPeriod t) ∧
      ∀ time, host.Timely time → s.timer.periodMs ≤ maxPeriodMs →
        s.timer.periodStart + s.timer.periodMs * 1000000 ≤ t := by
  unfold RngHost.checkTimer
  rcases hnow : host.now s.world with ⟨now, world⟩
  dsimp only
  split_ifs with hpast hended hquota
  · exact .inl ⟨world, rfl⟩
  · refine .inr (.inr ⟨now, world, rfl, ?_⟩)
    intro time _ _
    omega
  · refine .inr (.inr ⟨_, _, rfl, ?_⟩)
    intro time htimely hperiod
    have hfits : s.timer.periodMs - (now - s.timer.periodStart) / 1000000 < 2 ^ 64 := by
      unfold maxPeriodMs at hperiod
      omega
    rw [Nat.mod_eq_of_lt hfits]
    -- the clock, then the sleep, then the clock again
    have hbefore := htimely.now_le s.world
    rw [hnow] at hbefore
    have hasleep := htimely.sleep
      (s.timer.periodMs - (now - s.timer.periodStart) / 1000000) world
    have hafter := htimely.now_ge (host.sleep
      (s.timer.periodMs - (now - s.timer.periodStart) / 1000000) world)
    dsimp only at hbefore
    show _ ≤ (host.now _).1
    omega
  · exact .inr (.inl ⟨world, rfl, hquota⟩)

/-- Everything that serving a descriptor can do. -/
theorem RngHost.serve_cases (host : RngHost W) (headIndex : UInt16) (descriptor : RngDescriptor)
    (s : RngBackend W) :
    (∃ e world, host.serve headIndex descriptor s = (.error (.error e), { s with world })) ∨
    ∃ w world len,
      (host.readVolatileFrom descriptor.addr (s.toRead descriptor) w).1 = some len ∧
      ((s.timer.quotaRemaining < len ∧
          host.serve headIndex descriptor s = (.error .underflow, { s with world })) ∨
        (len ≤ s.timer.quotaRemaining ∧ ∃ added, (added = [] ∨ added = [⟨headIndex, .ofNat len⟩]) ∧
          host.serve headIndex descriptor s =
            (.ok (), ⟨{ s.timer with quotaRemaining := s.timer.quotaRemaining - len }, world,
              s.used ++ added, .spend len :: s.history⟩))) := by
  unfold RngHost.serve
  -- the lock may fail, the read may fail, and it may be longer than the quota
  rcases host.lock s.world with ⟨_ | _, w⟩
  · exact .inl ⟨_, _, rfl⟩
  · dsimp only
    rcases hread : host.readVolatileFrom descriptor.addr (s.toRead descriptor) w with
      ⟨_ | len, world⟩
    · exact .inl ⟨_, _, rfl⟩
    · refine .inr ⟨w, ?_⟩
      dsimp only
      by_cases hunder : s.timer.quotaRemaining < len
      · rw [if_pos hunder]
        exact ⟨world, len, by rw [hread], .inl ⟨hunder, rfl⟩⟩
      · rw [if_neg hunder]
        refine ⟨(host.addUsed ⟨headIndex, .ofNat len⟩ world).2, len, by rw [hread],
          .inr ⟨Nat.le_of_not_lt hunder, ?_⟩⟩
        by_cases hadded : (host.addUsed ⟨headIndex, .ofNat len⟩ world).1 = true
        · refine ⟨_, .inr rfl, ?_⟩
          rw [if_pos hadded]
        · refine ⟨_, .inl rfl, ?_⟩
          rw [if_neg hadded, List.append_nil]

theorem RngBackend.toRead_le_len (s : RngBackend W) (descriptor : RngDescriptor) :
    s.toRead descriptor ≤ descriptor.len.toNat := by
  unfold RngBackend.toRead
  split <;> omega

theorem RngBackend.toRead_pos (s : RngBackend W) (descriptor : RngDescriptor)
    (hquota : 0 < s.timer.quotaRemaining) (hlen : 0 < descriptor.len.toNat) :
    0 < s.toRead descriptor := by
  unfold RngBackend.toRead
  split
  · exact hquota
  · exact hlen

theorem RngBackend.toRead_le_quota (s : RngBackend W) (descriptor : RngDescriptor) :
    s.toRead descriptor ≤ s.timer.quotaRemaining := by
  unfold RngBackend.toRead
  split <;> omega

/-- The timer is that of `config`, and its quota tracks the history. -/
structure RngLimited (config : RngConfig) (first : ℕ) (s : RngBackend W) : Prop where
  periodMs : s.timer.periodMs = config.periodMs
  maxBytes : s.timer.maxBytes = config.maxBytes
  tracks : Tracks (PeriodEnded config) config.maxBytes first s.history s.timer.periodStart
    s.timer.quotaRemaining

section Limit

variable {time : W → ℕ} (htimely : host.Timely time) (hvalid : config.validate = .ok ())

include htimely hvalid

theorem checkTimer_limited (hs : RngLimited config first s) :
    RngLimited config first (host.checkTimer s).2 ∧
      (host.checkTimer s).1 ≠ .error .underflow := by
  have hperiod : s.timer.periodMs ≤ maxPeriodMs := by
    unfold RngConfig.validate at hvalid
    split at hvalid
    · cases hvalid
    · rw [hs.periodMs]
      omega
  rcases host.checkTimer_cases s with ⟨world, h⟩ | ⟨world, h, -⟩ | ⟨t, world, h, hended⟩
  · rw [h]
    exact ⟨⟨hs.periodMs, hs.maxBytes, hs.tracks⟩, by simp⟩
  · rw [h]
    exact ⟨⟨hs.periodMs, hs.maxBytes, hs.tracks⟩, by simp⟩
  · have hopen : PeriodEnded config s.timer.periodStart t := by
      unfold PeriodEnded
      rw [← hs.periodMs]
      exact hended time htimely hperiod
    have htracks := hs.tracks.opening hopen
    rw [h]
    refine ⟨⟨hs.periodMs, hs.maxBytes, ?_⟩, by simp⟩
    rw [← hs.maxBytes] at htracks ⊢
    exact htracks

omit hvalid in
theorem serve_limited (headIndex : UInt16) (descriptor : RngDescriptor)
    (hs : RngLimited config first s) :
    RngLimited config first (host.serve headIndex descriptor s).2 ∧
      (host.serve headIndex descriptor s).1 ≠ .error .underflow := by
  rcases host.serve_cases headIndex descriptor s with
    ⟨e, world, h⟩ | ⟨w, world, len, hread, ⟨hunder, -⟩ | ⟨hlen, added, -, h⟩⟩
  · rw [h]
    exact ⟨⟨hs.periodMs, hs.maxBytes, hs.tracks⟩, by simp⟩
  · have hle := htimely.read_le _ _ _ _ hread
    have hquota := s.toRead_le_quota descriptor
    omega
  · rw [h]
    exact ⟨⟨hs.periodMs, hs.maxBytes, hs.tracks.spend hlen⟩, by simp⟩

theorem processRequest_limited (chain : RngDescriptorChain) (hs : RngLimited config first s) :
    RngLimited config first (host.processRequest chain s).2 ∧
      (host.processRequest chain s).1 ≠ .error .underflow := by
  unfold RngHost.processRequest
  split
  case h_1 descriptor _ =>
    split
    · exact ⟨hs, by simp⟩
    · have htimer := checkTimer_limited htimely hvalid hs
      rcases hcheck : host.checkTimer s with ⟨stop | _, s'⟩
      · rw [hcheck] at htimer
        exact ⟨htimer.1, htimer.2⟩
      · rw [hcheck] at htimer
        exact serve_limited htimely chain.headIndex descriptor htimer.1
  case h_2 => exact ⟨hs, by simp⟩

theorem processRequests_limited (requests : List RngDescriptorChain)
    (hs : RngLimited config first s) :
    RngLimited config first (host.processRequests requests s).2 ∧
      (host.processRequests requests s).1 ≠ .error .underflow := by
  -- induction on the batch, which the first request that fails ends
  induction requests generalizing s with
  | nil => exact ⟨hs, by simp [RngHost.processRequests]⟩
  | cons chain requests ih =>
    have hrequest := processRequest_limited htimely hvalid chain hs
    unfold RngHost.processRequests
    rcases hprocess : host.processRequest chain s with ⟨stop | _, s'⟩
    · rw [hprocess] at hrequest
      refine ⟨hrequest.1, ?_⟩
      intro hstop
      cases hstop
      exact hrequest.2 rfl
    · rw [hprocess] at hrequest
      exact ih hrequest.1

theorem RngReaches.limited (h : RngReaches host config first s) :
    RngLimited config first s := by
  induction h with
  | new world => exact ⟨rfl, rfl, Tracks.init _ _ _⟩
  | batch _ requests ih => exact (processRequests_limited htimely hvalid requests ih).1
  | idle _ _ ih => exact ⟨ih.periodMs, ih.maxBytes, ih.tracks⟩

end Limit

/-- In every run the quota is kept in each period, the periods are long enough, and no
subtraction goes below zero. -/
theorem entropy_rate_limited {time : W → ℕ} (htimely : host.Timely time)
    (hvalid : config.validate = .ok ()) (h : RngReaches host config first s) :
    Tracks (PeriodEnded config) config.maxBytes first s.history s.timer.periodStart
        s.timer.quotaRemaining ∧
      ∀ requests, (host.processRequests requests s).1 ≠ .error .underflow := by
  have hlimited := h.limited htimely hvalid
  constructor
  · exact hlimited.tracks
  · intro requests
    exact (processRequests_limited htimely hvalid requests hlimited).2

namespace RngScenario

/-- The clock is the world; every read is as long as asked. -/
def clockHost : RngHost ℕ where
  now w := (w, w)
  sleep millis w := w + millis * 1000000
  lock w := (true, w)
  readVolatileFrom _ count w := (some count, w)
  addUsed _ w := (true, w)
  later w w' := w ≤ w'

theorem clockHost_sleep (millis w : ℕ) : clockHost.sleep millis w = w + millis * 1000000 := rfl

theorem clockHost_timely : clockHost.Timely id where
  now_ge _ := le_rfl
  now_le _ := le_rfl
  sleep millis w := by
    -- by rewriting: with `id` left in it the kernel would count to a million
    rw [clockHost_sleep, id_eq, id_eq]
  lock _ := le_rfl
  read _ _ _ := le_rfl
  addUsed _ _ := le_rfl
  later _ _ h := h
  read_le addr count w n h := by
    cases h
    exact le_rfl

def fourASecond : RngConfig := ⟨1000, 4⟩

/-- Two requests of eight bytes. -/
def eightTwice : List RngDescriptorChain :=
  [⟨0, [⟨0x1000, 8, true⟩]⟩, ⟨1, [⟨0x2000, 8, true⟩]⟩]

end RngScenario

open RngScenario in
theorem entropy_rate_limited_fourASecond :
    Tracks (PeriodEnded fourASecond) 4 7 [.spend 4, .opening 1000000007, .spend 4] 1000000007 0 ∧
      ∀ requests, (clockHost.processRequests requests
        ⟨⟨1000, 1000000007, 4, 0⟩, 1000000007, [⟨0, 4⟩, ⟨1, 4⟩],
          [.spend 4, .opening 1000000007, .spend 4]⟩).1 ≠ .error .underflow :=
  entropy_rate_limited clockHost_timely (by decide)
    (.batch (.new 7) eightTwice)

/-! ## The completions -/

/-- Write-only, alone in its chain, and not empty. -/
def AsksBytes (chain : RngDescriptorChain) : Prop :=
  ∃ descriptor, chain.descriptors = [descriptor] ∧ descriptor.isWriteOnly ∧ 1 ≤ descriptor.len

/-- A read delivers a byte at least where one is asked, and no more than asked. -/
def RngHost.Delivers (host : RngHost W) : Prop :=
  ∀ addr count w n, (host.readVolatileFrom addr count w).1 = some n →
    n ≤ count ∧ (1 ≤ count → 1 ≤ n)

/-- The entry is for this chain, and it is neither empty nor too long. -/
structure Completes (chain : RngDescriptorChain) (entry : UsedElem) : Prop where
  id : entry.id = chain.headIndex
  nonempty : 1 ≤ entry.len
  fits : ∃ descriptor, chain.descriptors = [descriptor] ∧ entry.len ≤ descriptor.len

/-- Every entry that the batch adds completes a request of the batch, in their order. -/
def CompletesBatch (host : RngHost W) (requests : List RngDescriptorChain) (s : RngBackend W) :
    Prop :=
  ∃ served added, (host.processRequests requests s).2.used = s.used ++ added ∧
    served.Sublist requests ∧ List.Forall₂ Completes served added

theorem checkTimer_keeps (host : RngHost W) (s : RngBackend W) :
    (host.checkTimer s).2.used = s.used ∧
      (host.checkTimer s).2.timer.maxBytes = s.timer.maxBytes := by
  rcases host.checkTimer_cases s with ⟨_, h⟩ | ⟨_, h, _⟩ | ⟨_, _, h, -⟩
  all_goals
    rw [h]
    exact ⟨rfl, rfl⟩

theorem processRequest_maxBytes (host : RngHost W) (chain : RngDescriptorChain)
    (s : RngBackend W) :
    (host.processRequest chain s).2.timer.maxBytes = s.timer.maxBytes := by
  have hserve (headIndex : UInt16) (descriptor : RngDescriptor) (s : RngBackend W) :
      (host.serve headIndex descriptor s).2.timer.maxBytes = s.timer.maxBytes := by
    rcases host.serve_cases headIndex descriptor s with
      ⟨_, _, h⟩ | ⟨_, _, _, -, ⟨-, h⟩ | ⟨-, _, -, h⟩⟩
    all_goals rw [h]
  have htimer := (checkTimer_keeps host s).2
  unfold RngHost.processRequest
  split
  · split
    · rfl
    · rcases hcheck : host.checkTimer s with ⟨stop | _, s'⟩
      · rw [hcheck] at htimer
        exact htimer
      · rw [hcheck] at htimer
        exact (hserve _ _ s').trans htimer
  · rfl

theorem processRequests_maxBytes (host : RngHost W) (requests : List RngDescriptorChain)
    (s : RngBackend W) :
    (host.processRequests requests s).2.timer.maxBytes = s.timer.maxBytes := by
  induction requests generalizing s with
  | nil => rfl
  | cons chain requests ih =>
    have hrequest := processRequest_maxBytes host chain s
    unfold RngHost.processRequests
    rcases hprocess : host.processRequest chain s with ⟨stop | _, s'⟩
    · rw [hprocess] at hrequest
      exact hrequest
    · rw [hprocess] at hrequest
      exact (ih s').trans hrequest

theorem RngReaches.maxBytes_eq (h : RngReaches host config first s) :
    s.timer.maxBytes = config.maxBytes := by
  induction h with
  | new world => rfl
  | batch _ requests ih => exact (processRequests_maxBytes host requests _).trans ih
  | idle _ _ ih => exact ih

/-- A request is only served with something left of the quota. -/
theorem checkTimer_quota (hmost : 0 < s.timer.maxBytes)
    (h : (host.checkTimer s).1 = .ok ()) : 0 < (host.checkTimer s).2.timer.quotaRemaining := by
  rcases host.checkTimer_cases s with ⟨_, hcase⟩ | ⟨_, hcase, hquota⟩ | ⟨_, _, hcase, -⟩
  · rw [hcase] at h
    cases h
  · rw [hcase]
    exact Nat.pos_of_ne_zero hquota
  · rw [hcase]
    exact hmost

/-- What one request does to the used ring. -/
def CompletesRequest (chain : RngDescriptorChain) (s s' : RngBackend W) : Prop :=
  s'.used = s.used ∨ ∃ entry, s'.used = s.used ++ [entry] ∧ Completes chain entry

section Completions

variable (hdelivers : host.Delivers)

include hdelivers

theorem serve_completes {chain : RngDescriptorChain} {descriptor : RngDescriptor}
    (hchain : chain.descriptors = [descriptor]) (hlen : 1 ≤ descriptor.len)
    (hquota : 0 < s.timer.quotaRemaining) :
    CompletesRequest chain s (host.serve chain.headIndex descriptor s).2 := by
  rcases host.serve_cases chain.headIndex descriptor s with
    ⟨_, _, h⟩ | ⟨w, world, n, hread, ⟨-, h⟩ | ⟨-, added, hadded, h⟩⟩
  · rw [h]
    exact .inl rfl
  · rw [h]
    exact .inl rfl
  · rw [h]
    rcases hadded with rfl | rfl
    · exact .inl (List.append_nil _)
    · have hread_le : n ≤ descriptor.len.toNat :=
        (hdelivers _ _ _ _ hread).1.trans (s.toRead_le_len descriptor)
      have hread_pos : 1 ≤ n := (hdelivers _ _ _ _ hread).2
        (s.toRead_pos descriptor hquota (UInt32.le_iff_toNat_le.mp hlen))
      -- a length of 32 bits is not cut
      have hentry : (UInt32.ofNat n).toNat = n :=
        UInt32.toNat_ofNat_of_lt' (hread_le.trans_lt descriptor.len.toNat_lt)
      refine .inr ⟨_, rfl, rfl, ?_, descriptor, hchain, ?_⟩
      · rw [UInt32.le_iff_toNat_le, hentry]
        exact hread_pos
      · rw [UInt32.le_iff_toNat_le, hentry]
        exact hread_le

theorem processRequest_completes {chain : RngDescriptorChain} (hchain : AsksBytes chain)
    (hmost : 0 < s.timer.maxBytes) :
    CompletesRequest chain s (host.processRequest chain s).2 := by
  obtain ⟨descriptor, hdescriptors, hwrite, hlen⟩ := hchain
  have hused := (checkTimer_keeps host s).1
  unfold RngHost.processRequest
  rw [hdescriptors]
  dsimp only
  rw [hwrite, if_neg (by simp)]
  rcases hcheck : host.checkTimer s with ⟨stop | _, s'⟩
  · rw [hcheck] at hused
    exact .inl hused
  · have hquota := checkTimer_quota hmost (by rw [hcheck])
    rw [hcheck] at hused hquota
    have hserve := serve_completes hdelivers hdescriptors hlen hquota
    unfold CompletesRequest at hserve
    rw [hused] at hserve
    exact hserve

theorem completesBatch {requests : List RngDescriptorChain}
    (hrequests : ∀ chain ∈ requests, AsksBytes chain) (hmost : 0 < s.timer.maxBytes) :
    CompletesBatch host requests s := by
  -- induction on the batch: a request adds one entry at most, and one that fails ends it
  induction requests generalizing s with
  | nil => exact ⟨[], [], (List.append_nil _).symm, .slnil, .nil⟩
  | cons chain requests ih =>
    have hchain := hrequests chain List.mem_cons_self
    have hmax := processRequest_maxBytes host chain s
    have hcompletes := processRequest_completes hdelivers hchain hmost
    unfold CompletesBatch RngHost.processRequests
    rcases hprocess : host.processRequest chain s with ⟨stop | _, s'⟩
    · rw [hprocess] at hcompletes
      rcases hcompletes with hsame | ⟨entry, hentry, hfits⟩
      · exact ⟨[], [], by simpa using hsame, List.nil_sublist _, .nil⟩
      · exact ⟨[chain], [entry], hentry, (List.nil_sublist requests).cons_cons chain,
          .cons hfits .nil⟩
    · rw [hprocess] at hmax hcompletes
      obtain ⟨served, added, hadded, hserved, hall⟩ :=
        ih (fun c hc => hrequests c (List.mem_cons_of_mem _ hc)) (s := s') (hmax ▸ hmost)
      rcases hcompletes with hsame | ⟨entry, hentry, hfits⟩
      · refine ⟨served, added, ?_, hserved.cons chain, hall⟩
        rw [← hsame]
        exact hadded
      · refine ⟨chain :: served, entry :: added, ?_, hserved.cons_cons chain, .cons hfits hall⟩
        rw [List.append_cons, ← hentry]
        exact hadded

end Completions

theorem RngScenario.clockHost_delivers : clockHost.Delivers := by
  intro addr count w n hread
  cases hread
  exact ⟨le_rfl, id⟩

open RngScenario in
/-- With no quota at all a request sleeps, and is then completed with nothing. -/
theorem zero_quota_completion (hperiod : config.periodMs ≠ 0) (hmost : config.maxBytes = 0) :
    (clockHost.processRequests [⟨0, [⟨0x1000, 1, true⟩]⟩] (.new config 0 0)).2.used = [⟨0, 0⟩] := by
  simp [RngHost.processRequests, RngHost.processRequest, RngHost.checkTimer, RngHost.serve,
    RngBackend.new, TimerConfig.new, RngBackend.startPeriod, RngBackend.toRead, clockHost, hmost,
    hperiod]

open RngScenario in
/-- With a quota, and only then, the guest gets no empty completion in any run. -/
theorem completions_nonempty_iff (hvalid : config.validate = .ok ()) :
    (∀ (W : Type) (host : RngHost W), host.Delivers → ∀ first s,
      RngReaches host config first s → ∀ requests, (∀ chain ∈ requests, AsksBytes chain) →
        CompletesBatch host requests s) ↔ 1 ≤ config.maxBytes := by
  constructor
  · intro hall
    by_contra hmost
    have hperiod : config.periodMs ≠ 0 := by
      intro hzero
      unfold RngConfig.validate at hvalid
      rw [if_pos (.inl hzero)] at hvalid
      cases hvalid
    obtain ⟨served, added, hadded, -, hcompletes⟩ := hall ℕ clockHost clockHost_delivers 0 _
      (.new 0) [⟨0, [⟨0x1000, 1, true⟩]⟩]
      (List.forall_mem_singleton.mpr ⟨_, rfl, rfl, by decide⟩)
    rw [zero_quota_completion hperiod (by omega)] at hadded
    have hone : [⟨0, 0⟩] = added := hadded
    subst hone
    cases hcompletes with
    | cons hfits _ => exact absurd hfits.nonempty (by decide)
  · intro hmost W host hdelivers first s hreach requests hrequests
    refine completesBatch hdelivers hrequests ?_
    rw [hreach.maxBytes_eq]
    exact hmost

open RngScenario in
theorem completions_nonempty_iff_fourASecond :
    (∀ (W : Type) (host : RngHost W), host.Delivers → ∀ first s,
      RngReaches host fourASecond first s → ∀ requests, (∀ chain ∈ requests, AsksBytes chain) →
        CompletesBatch host requests s) ↔ 1 ≤ fourASecond.maxBytes :=
  completions_nonempty_iff (by decide)

open RngScenario in
theorem no_quota_empty_completion :
    RngConfig.validate ⟨1000, 0⟩ = .ok () ∧ clockHost.Delivers ∧ clockHost.Timely id ∧
      RngReaches clockHost ⟨1000, 0⟩ 0 (.new ⟨1000, 0⟩ 0 0) ∧
      AsksBytes ⟨0, [⟨0x1000, 16, true⟩]⟩ ∧
      ¬ CompletesBatch clockHost [⟨0, [⟨0x1000, 16, true⟩]⟩] (.new ⟨1000, 0⟩ 0 0) := by
  refine ⟨by decide, clockHost_delivers, clockHost_timely, .new 0, ⟨_, rfl, rfl, by decide⟩, ?_⟩
  have hused : (clockHost.processRequests [⟨0, [⟨0x1000, 16, true⟩]⟩]
      (.new ⟨1000, 0⟩ 0 0)).2.used = [⟨0, 0⟩] := by decide
  rintro ⟨served, added, hadded, -, hcompletes⟩
  rw [hused] at hadded
  have hone : [⟨0, 0⟩] = added := hadded
  subst hone
  cases hcompletes with
  | cons hfits _ => exact absurd hfits.nonempty (by decide)

end NautiFabric
