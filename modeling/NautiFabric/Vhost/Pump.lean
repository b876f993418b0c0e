import NautiFabric.Vhost.Entropy
import NautiFabric.Vhost.Rng

/-!
# NautiFabric.Vhost.Pump — from a remote server to the guest

`entropy_pump` fetches one chunk after the other and writes it into a FIFO, out of which the
backend serves the guest. The two run side by side: between any two calls of the backend the
pump may fetch, write a part of its chunk, or give up. What the backend's host has to be for
that is `Pumped`, in terms of the pump's steps and of what a FIFO does when it is read.

`Conserved` says that nothing is lost, repeated or reordered on the way: what the guest got,
what is in the FIFO and what the pump holds are together the chunks that were fetched.
-/

namespace NautiFabric

/-! ## The pump -/

inductive Pump where
  | fetching
  | writing (rest : List UInt8)
  /-- it has returned, and what it had not written is gone -/
  | ended (error : EntropyError) (lost : List UInt8)

/-- What the pump has fetched and not written. -/
def Pump.held : Pump → List UInt8
  | fetching => []
  | writing rest => rest
  | ended _ lost => lost

/-- The pump, the FIFO, and the memory of the guest as far as it was filled. -/
structure PumpState where
  pump : Pump
  fifo : List UInt8
  guest : List UInt8
  /-- the chunks fetched so far -/
  fetched : List (List UInt8)

namespace PumpState

/-- The pump has opened the FIFO. -/
def start : PumpState := ⟨.fetching, [], [], []⟩

/-- The guest gets `n` bytes from the FIFO. -/
def read (n : ℕ) (s : PumpState) : PumpState :=
  { s with fifo := s.fifo.drop n, guest := s.guest ++ s.fifo.take n }

end PumpState

/-- What the pump asks of its host before its loop. -/
structure PumpHost where
  present : Bool
  /-- whether `mkfifo` succeeded, and its status -/
  mkfifo : Except String (Bool × String)
  openFile : Except String Unit

/-- `entropy_pump`, up to its loop. -/
def entropyPump (host : PumpHost) (out : String) (chunk : UInt32) :
    Except EntropyError PumpState :=
  if chunk = 0 ∨ maxRequestBytes < chunk then
    .error (.protocol s!"pump chunk {chunk} outside 1..={maxRequestBytes}")
  else
    let made : Except EntropyError Unit :=
      if host.present then .ok ()
      else
        match host.mkfifo with
        | .error e => .error (.protocol ("mkfifo unavailable: " ++ e))
        | .ok (success, status) =>
          if success then .ok ()
          else .error (.protocol ("mkfifo " ++ out ++ " failed with " ++ status))
    match made with
    | .error e => .error e
    | .ok () =>
      match host.openFile with
      | .error e => .error (.io e)
      | .ok () => .ok .start

/-- The loop, over a network of which nothing is known. A chunk is written in parts. -/
inductive PumpStep (addr : String) (chunk : UInt32) (s : PumpState) : PumpState → Prop
  | fetched {dial : EntropyDial} {bytes out : List UInt8} (hidle : s.pump = .fetching)
      (hfetch : entropyFetch dial addr chunk 30 = (.ok bytes, out)) :
      PumpStep addr chunk s { s with pump := .writing bytes, fetched := s.fetched ++ [bytes] }
  | fetchFailed {dial : EntropyDial} {e : EntropyError} {out : List UInt8}
      (hidle : s.pump = .fetching) (hfetch : entropyFetch dial addr chunk 30 = (.error e, out)) :
      PumpStep addr chunk s { s with pump := .ended e [] }
  | wrote {rest : List UInt8} (n : ℕ) (hwriting : s.pump = .writing rest) :
      PumpStep addr chunk s
        { s with fifo := s.fifo ++ rest.take n, pump := .writing (rest.drop n) }
  | written (hwriting : s.pump = .writing []) : PumpStep addr chunk s { s with pump := .fetching }
  | writeFailed {rest : List UInt8} {e : String} (hwriting : s.pump = .writing rest) :
      PumpStep addr chunk s { s with pump := .ended (.io e) rest }

/-- Some steps of the pump. -/
abbrev Pumps (addr : String) (chunk : UInt32) : PumpState → PumpState → Prop :=
  Relation.ReflTransGen (PumpStep addr chunk)

/-! ## A backend on the FIFO -/

variable {W : Type}

/-- The source of the backend is the FIFO. Whatever the backend does, the pump goes on in the
meantime; a read waits until there is something, and takes it off the front. -/
structure Pumped (host : RngHost W) (addr : String) (chunk : UInt32) (pipe : W → PumpState) :
    Prop where
  now : ∀ w, Pumps addr chunk (pipe w) (pipe (host.now w).2)
  sleep : ∀ millis w, Pumps addr chunk (pipe w) (pipe (host.sleep millis w))
  lock : ∀ w, Pumps addr chunk (pipe w) (pipe (host.lock w).2)
  addUsed : ∀ entry w, Pumps addr chunk (pipe w) (pipe (host.addUsed entry w).2)
  later : ∀ w w', host.later w w' → Pumps addr chunk (pipe w) (pipe w')
  read : ∀ target count w n, (host.readVolatileFrom target count w).1 = some n → n ≤ count ∧
    ∃ mid, Pumps addr chunk (pipe w) mid ∧ n ≤ mid.fifo.length ∧
      Pumps addr chunk (mid.read n) (pipe (host.readVolatileFrom target count w).2)
  unread : ∀ target count w, (host.readVolatileFrom target count w).1 = none →
    Pumps addr chunk (pipe w) (pipe (host.readVolatileFrom target count w).2)

/-- What a backend comes to, made at `first` in the world `world`. -/
inductive RngRun (host : RngHost W) (config : RngConfig) (first : ℕ) (world : W) :
    RngBackend W → Prop
  | new : RngRun host config first world (.new config first world)
  | batch {s : RngBackend W} (h : RngRun host config first world s)
      (requests : List RngDescriptorChain) :
      RngRun host config first world (host.processRequests requests s).2
  | idle {s : RngBackend W} (h : RngRun host config first world s) {later : W}
      (hlater : host.later s.world later) :
      RngRun host config first world { s with world := later }

/-- How much the backend has let through. -/
def spent (history : List (Quota.Event ℕ)) : ℕ :=
  (history.map fun
    | .opening _ => 0
    | .spend n => n).sum

/-! ## Nothing is lost on the way -/

/-- The chunks that were fetched, on their way. -/
structure Conserved (chunk : UInt32) (s : PumpState) : Prop where
  bytes : s.guest ++ s.fifo ++ s.pump.held = s.fetched.flatten
  whole : ∀ bytes ∈ s.fetched, bytes.length = chunk.toNat

theorem conserved_start (chunk : UInt32) : Conserved chunk .start :=
  ⟨rfl, by simp [PumpState.start]⟩

/-- A fetch that succeeds has got a whole chunk. -/
theorem length_of_fetch {dial : EntropyDial} {addr : String} {len : UInt32} {deadline : ℕ}
    {bytes out : List UInt8} (h : entropyFetch dial addr len deadline = (.ok bytes, out)) :
    bytes.length = len.toNat := by
  unfold entropyFetch at h
  split at h
  · cases h
  · split at h
    · cases h
    · split at h
      · cases h
      · split at h
        · cases h
        · split at h
          · cases h
          · rename_i out' hwrite
            split at h
            · cases h
            · rename_i buf hread
              obtain ⟨hbuf, -⟩ := Prod.mk.inj h
              obtain rfl := Except.ok.inj hbuf
              by_cases henough : len.toNat ≤ (dial.reply out').rest.length
              · obtain ⟨recv, hok, -, -⟩ := (dial.reply out').readExact_of_le henough
                rw [hok] at hread
                obtain rfl := Except.ok.inj hread
                exact List.length_take_of_le henough
              · obtain ⟨recv, herror⟩ :=
                  (dial.reply out').readExact_of_lt (Nat.lt_of_not_le henough)
                rw [herror] at hread
                cases hread

section Conserved

variable {addr : String} {chunk : UInt32} {s s' : PumpState}

theorem Conserved.step (h : Conserved chunk s) (hstep : PumpStep addr chunk s s') :
    Conserved chunk s' := by
  have hbytes := h.bytes
  cases hstep with
  | @fetched dial bytes out hidle hfetch =>
      rw [hidle, Pump.held, List.append_nil] at hbytes
      constructor
      · dsimp only [Pump.held]
        rw [hbytes, List.flatten_append]
        simp
      · intro chunk' hmem
        rcases List.mem_append.mp hmem with hmem | hmem
        · exact h.whole chunk' hmem
        · obtain rfl := List.mem_singleton.mp hmem
          exact length_of_fetch hfetch
  | fetchFailed hidle _ =>
      rw [hidle] at hbytes
      exact ⟨hbytes, h.whole⟩
  | @wrote rest n hwriting =>
      rw [hwriting] at hbytes
      refine ⟨?_, h.whole⟩
      dsimp only [Pump.held] at hbytes ⊢
      rw [← hbytes]
      simp
  | written hwriting =>
      rw [hwriting] at hbytes
      exact ⟨hbytes, h.whole⟩
  | writeFailed hwriting =>
      rw [hwriting] at hbytes
      exact ⟨hbytes, h.whole⟩

theorem Conserved.pumps (h : Conserved chunk s) (hsteps : Pumps addr chunk s s') :
    Conserved chunk s' := by
  induction hsteps with
  | refl => exact h
  | tail _ hstep ih => exact ih.step hstep

/-- The pump itself gives the guest nothing. -/
theorem guest_of_pumps (hsteps : Pumps addr chunk s s') : s'.guest = s.guest := by
  induction hsteps with
  | refl => rfl
  | tail _ hstep ih =>
      rw [← ih]
      cases hstep <;> rfl

theorem Conserved.read (h : Conserved chunk s) (n : ℕ) : Conserved chunk (s.read n) := by
  refine ⟨?_, h.whole⟩
  dsimp only [PumpState.read]
  rw [← h.bytes, List.append_assoc s.guest, List.take_append_drop]

end Conserved

/-! ## The backend -/

/-- What the backend has let through is in the guest, and the rest is on its way. -/
structure Delivered (chunk : UInt32) (pipe : W → PumpState) (s : RngBackend W) : Prop where
  conserved : Conserved chunk (pipe s.world)
  guest : (pipe s.world).guest.length = spent s.history

section Backend

variable {host : RngHost W} {addr : String} {chunk : UInt32} {pipe : W → PumpState}
  {s : RngBackend W}

/-- The pump goes on, and the backend lets nothing through. -/
theorem Delivered.later (h : Delivered chunk pipe s) {s' : RngBackend W}
    (hpumps : Pumps addr chunk (pipe s.world) (pipe s'.world))
    (hspent : spent s'.history = spent s.history) : Delivered chunk pipe s' := by
  refine ⟨h.conserved.pumps hpumps, ?_⟩
  rw [guest_of_pumps hpumps, hspent]
  exact h.guest

variable (hpumped : Pumped host addr chunk pipe)

include hpumped

theorem checkTimer_delivered (h : Delivered chunk pipe s) :
    Delivered chunk pipe (host.checkTimer s).2 := by
  have hnow := hpumped.now s.world
  unfold RngHost.checkTimer
  dsimp only
  split
  · exact h.later hnow rfl
  · split
    · exact h.later hnow (Nat.zero_add _)
    · split
      · have hslept : ∀ millis, Pumps addr chunk (pipe s.world)
            (pipe (host.now (host.sleep millis (host.now s.world).2)).2) :=
          fun millis => (hnow.trans (hpumped.sleep _ _)).trans (hpumped.now _)
        exact h.later (hslept _) (Nat.zero_add _)
      · exact h.later hnow rfl

theorem serve_delivered (headIndex : UInt16) (descriptor : RngDescriptor)
    (h : Delivered chunk pipe s) :
    Delivered chunk pipe (host.serve headIndex descriptor s).2 := by
  have hlock := hpumped.lock s.world
  unfold RngHost.serve
  rcases hlocked : host.lock s.world with ⟨_ | _, w⟩
  · rw [hlocked] at hlock
    exact h.later hlock rfl
  · rw [hlocked] at hlock
    dsimp only at hlock ⊢
    rcases hread : host.readVolatileFrom descriptor.addr (s.toRead descriptor) w with
      ⟨_ | len, world⟩
    · have hunread := hpumped.unread descriptor.addr (s.toRead descriptor) w (by rw [hread])
      rw [hread] at hunread
      exact h.later (hlock.trans hunread) rfl
    · obtain ⟨hle, mid, hbefore, henough, hafter⟩ :=
        hpumped.read descriptor.addr (s.toRead descriptor) w len (by rw [hread])
      rw [hread] at hafter
      have hquota := s.toRead_le_quota descriptor
      dsimp only at hafter ⊢
      rw [if_neg (by omega)]
      -- the bytes of the FIFO, and then what the pump does until the entry is added
      have hadded := hafter.trans (hpumped.addUsed ⟨headIndex, .ofNat len⟩ world)
      have hwaited := hlock.trans hbefore
      refine ⟨((h.conserved.pumps hwaited).read len).pumps hadded, ?_⟩
      dsimp only
      rw [guest_of_pumps hadded]
      dsimp only [PumpState.read]
      rw [List.length_append, List.length_take_of_le henough, guest_of_pumps hwaited, h.guest]
      simp only [spent, List.map_cons, List.sum_cons]
      omega

theorem processRequest_delivered (chain : RngDescriptorChain) (h : Delivered chunk pipe s) :
    Delivered chunk pipe (host.processRequest chain s).2 := by
  unfold RngHost.processRequest
  split
  · split
    · exact h
    · have htimer := checkTimer_delivered hpumped h
      rcases hcheck : host.checkTimer s with ⟨stop | ⟨⟩, s₁⟩
      · rw [hcheck] at htimer
        exact htimer
      · rw [hcheck] at htimer
        exact serve_delivered hpumped _ _ htimer
  · exact h

theorem processRequests_delivered (requests : List RngDescriptorChain)
    (h : Delivered chunk pipe s) :
    Delivered chunk pipe (host.processRequests requests s).2 := by
  induction requests generalizing s with
  | nil => exact h
  | cons chain requests ih =>
      have hone := processRequest_delivered hpumped chain h
      unfold RngHost.processRequests
      rcases hrequest : host.processRequest chain s with ⟨stop | ⟨⟩, s₁⟩
      · rw [hrequest] at hone
        exact hone
      · rw [hrequest] at hone
        exact ih hone

end Backend

/-- From a pump that has just opened its FIFO: the guest gets the bytes of the chunks in the
order in which they were fetched, whole chunks within the limits, none twice and none left
out; what it got is what the backend let through. -/
theorem entropy_end_to_end {host : RngHost W} {addr out : String} {chunk : UInt32}
    {pipe : W → PumpState} (hpumped : Pumped host addr chunk pipe) {config : RngConfig}
    {first : ℕ} {world : W} {pumpHost : PumpHost}
    (hopened : entropyPump pumpHost out chunk = .ok (pipe world)) {s : RngBackend W}
    (h : RngRun host config first world s) :
    InLimits chunk ∧ (pipe s.world).guest ++ (pipe s.world).fifo ++ (pipe s.world).pump.held =
        (pipe s.world).fetched.flatten ∧
      (∀ bytes ∈ (pipe s.world).fetched, bytes.length = chunk.toNat) ∧
      (pipe s.world).guest.length = spent s.history := by
  obtain ⟨hlimits, hstart⟩ : InLimits chunk ∧ pipe world = .start := by
    unfold entropyPump at hopened
    split at hopened
    · cases hopened
    · rename_i hlimits
      dsimp only at hopened
      split at hopened
      · cases hopened
      · split at hopened
        · cases hopened
        · exact ⟨inLimits_iff.mpr hlimits, (Except.ok.inj hopened).symm⟩
  have hdelivered : Delivered chunk pipe s := by
    induction h with
    | new =>
        refine ⟨?_, ?_⟩
        · rw [RngBackend.new, hstart]
          exact conserved_start chunk
        · rw [RngBackend.new, hstart]
          rfl
    | batch _ requests ih => exact processRequests_delivered hpumped requests ih
    | idle _ hlater ih => exact ih.later (hpumped.later _ _ hlater) rfl
  exact ⟨hlimits, hdelivered.conserved.bytes, hdelivered.conserved.whole, hdelivered.guest⟩

namespace PumpScenario

open EntropyScenario RngScenario

/-- The world is the FIFO with its pump, at time zero. -/
def fifoHost : RngHost PumpState where
  now w := (0, w)
  sleep _ w := w
  lock w := (true, w)
  readVolatileFrom _ count w :=
    (some (min count w.fifo.length), w.read (min count w.fifo.length))
  addUsed _ w := (true, w)
  later := Pumps "rig:7" 3

theorem fifoHost_pumped : Pumped fifoHost "rig:7" 3 id where
  now _ := .refl
  sleep _ _ := .refl
  lock _ := .refl
  addUsed _ _ := .refl
  later _ _ h := h
  read target count w n h := by
    obtain rfl : min count w.fifo.length = n := Option.some.inj h
    exact ⟨Nat.min_le_left _ _, w, .refl, Nat.min_le_right _ _, .refl⟩
  unread target count w h := by cases h

/-- The pump has written two of the three bytes of its first chunk. -/
def twoOfThree : PumpState := ⟨.writing [2], [0, 1], [], [[0, 1, 2]]⟩

theorem pumps_twoOfThree : Pumps "rig:7" 3 .start twoOfThree := by
  have hfetch : entropyFetch dial "rig:7" 3 30 = (.ok [0, 1, 2], toBeBytes 3) := by
    decide +kernel
  have hfetched : PumpStep "rig:7" 3 .start ⟨.writing [0, 1, 2], [], [], [[0, 1, 2]]⟩ :=
    .fetched rfl hfetch
  have hwrote : PumpStep "rig:7" 3 ⟨.writing [0, 1, 2], [], [], [[0, 1, 2]]⟩ twoOfThree :=
    @PumpStep.wrote _ _ _ [0, 1, 2] 2 rfl
  exact .tail (.single hfetched) hwrote

/-- The guest asks for one byte. -/
def oneByte : List RngDescriptorChain := [⟨0, [⟨0x1000, 1, true⟩]⟩]

/-- The backend was set up before the pump started. -/
def setUp : RngBackend PumpState := RngBackend.new fourASecond 0 PumpState.start

end PumpScenario

open PumpScenario RngScenario in
theorem entropy_end_to_end_oneByte :
    (fifoHost.processRequests oneByte { setUp with world := twoOfThree }).2.world.guest = [0] ∧
      InLimits 3 := by
  have hrun : RngRun fifoHost fourASecond 0 PumpState.start
      (fifoHost.processRequests oneByte { setUp with world := twoOfThree }).2 :=
    .batch (.idle .new pumps_twoOfThree) oneByte
  have hopened : entropyPump ⟨true, .ok (true, ""), .ok ()⟩ "/run/rng" 3 = .ok PumpState.start :=
    rfl
  exact ⟨by decide +kernel, (entropy_end_to_end fifoHost_pumped hopened hrun).1⟩

end NautiFabric
