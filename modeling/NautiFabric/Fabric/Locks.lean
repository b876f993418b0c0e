import NautiFabric.Fabric.Calls
import NautiFabric.Lib.Locks

/-!
# NautiFabric.Fabric.Locks — the locks beneath the sections

Which locks each section takes, nested as the code nests its guards: a guard that
is bound is held to the end of its block, and a temporary one to the end of its
statement. So `attach` holds the lease guard while the adapter's `attach` runs,
and `release` the read guard of the adapter registry while `detach` runs. Adapters
take a lock of their own and do not call back into the fabric.

`calls_no_deadlock`: every section takes its locks in one order, `FabricLock.rank`,
so no set of concurrent calls comes to a standstill.
-/

namespace NautiFabric

open Interleave
open Locks (Block Takes Thread)

variable {W : Type}

/-! ## The locks -/

/-- The locks of a fabric, and the own lock of each adapter. -/
inductive FabricLock (A : Type) where
  | leases
  | resources
  | adapters
  | attachments
  | heartbeats
  | own (adapter : A)
deriving DecidableEq

variable {A : Type}

/-- The order in which the locks are taken. -/
def FabricLock.rank : FabricLock A → ℕ
  | .leases => 0
  | .adapters => 1
  | .own _ => 2
  | .resources => 3
  | .attachments => 4
  | .heartbeats => 5

/-- `lock()` of a mutex or `write()`, with no lock taken under the guard. -/
def locked (l : FabricLock A) : Block (FabricLock A) := .guard l .write .skip .skip

/-- `read()`, with no lock taken under the guard. -/
def reading (l : FabricLock A) : Block (FabricLock A) := .guard l .read .skip .skip

/-- Code of the adapters in `own`: each takes its own lock, any number of times. -/
inductive AdapterCode (own : A → Prop) : Block (FabricLock A) → Prop
  | done : AdapterCode own .skip
  | lock {a : A} {rest : Block (FabricLock A)} (ha : own a) (m : Locks.Mode)
      (hrest : AdapterCode own rest) : AdapterCode own (.guard (.own a) m .skip rest)

/-- What `attach` takes under the lease guard. The guard of the adapter registry is
dropped before the adapter is called. -/
inductive AttachLocks : Block (FabricLock A) → Prop
  | refused : AttachLocks .skip
  | missing : AttachLocks (reading .adapters)
  | failed {a : A} {code : Block (FabricLock A)} (hcode : AdapterCode (· = a) code) :
      AttachLocks ((reading .adapters).seq code)
  | attached {a : A} {code : Block (FabricLock A)} (hcode : AdapterCode (· = a) code) :
      AttachLocks ((reading .adapters).seq (code.seq (locked .attachments)))

/-- What a section may take. A mutex that is found poisoned has been locked too. -/
def Section.locks : Section W → Block (FabricLock A) → Prop
  | .register _, b => b = locked .resources
  | .unregisterCheck _, b => b = locked .leases
  | .unregisterRemove _, b => b = locked .resources
  | .resource _, b => b = reading .resources
  | .resources, b => b = reading .resources
  | .resourceIds, b => b = reading .resources
  -- the adapter's name is asked for, and a replaced adapter dropped, under the guard
  | .registerAdapter _, b =>
    ∃ code, AdapterCode (fun _ => True) code ∧ b = .guard .adapters .write code .skip
  | .adapterReports _, b =>
    ∃ code, AdapterCode (fun _ => True) code ∧ b = .guard .adapters .read code .skip
  | .findAvailable _ _, b =>
    b = locked .leases ∨ b = .guard .leases .write (reading .resources) .skip
  | .leaseExclusive _ _ _, b => b = locked .leases
  | .renewLease _ _, b => b = locked .leases
  | .attach _ _ _, b => ∃ body, AttachLocks body ∧ b = .guard .leases .write body .skip
  | .releaseCheck _, b => b = locked .leases
  | .releaseTake _, b => b = locked .attachments
  -- the temporary guard of the lookup lives as long as the block that detaches
  | .releaseDetach _ _ _, b =>
    b = reading .adapters ∨
      ∃ a code, AdapterCode (· = a) code ∧ b = .guard .adapters .read code .skip
  | .releaseRemove _, b => b = locked .leases
  | .heartbeat _, b => b = locked .heartbeats
  | .cutoff _, b => b = .skip
  | .evictStale _ _, b => b = locked .heartbeats
  | .evictOwned _ _, b => b = reading .resources

/-! ## One order for all -/

/-- A guard taken under nothing, or under locks of a lower rank. -/
theorem ordered_guard {held : List (FabricLock A × Locks.Mode)} {l : FabricLock A}
    {m : Locks.Mode} {body : Block (FabricLock A)} (habove : ∀ g ∈ held, g.1.rank < l.rank)
    (hbody : body.Ordered FabricLock.rank ((l, m) :: held)) :
    (Block.guard l m body .skip).Ordered FabricLock.rank held := ⟨habove, hbody, trivial⟩

theorem AdapterCode.ordered {own : A → Prop} {code : Block (FabricLock A)}
    (h : AdapterCode own code) {held : List (FabricLock A × Locks.Mode)}
    (hheld : ∀ g ∈ held, g.1.rank < 2) : code.Ordered FabricLock.rank held := by
  induction h with
  | done => trivial
  | lock ha m _ ih => exact ⟨hheld, trivial, ih⟩

theorem AttachLocks.ordered {body : Block (FabricLock A)} (h : AttachLocks body) :
    body.Ordered FabricLock.rank [(.leases, .write)] := by
  have hadapters : (reading .adapters : Block (FabricLock A)).Ordered FabricLock.rank
      [(.leases, .write)] := ordered_guard (by simp [FabricLock.rank]) trivial
  have hattachments : (locked .attachments : Block (FabricLock A)).Ordered FabricLock.rank
      [(.leases, .write)] := ordered_guard (by simp [FabricLock.rank]) trivial
  have hcode : ∀ {own : A → Prop} {code : Block (FabricLock A)}, AdapterCode own code →
      code.Ordered FabricLock.rank [(.leases, .write)] :=
    fun h => h.ordered (by simp [FabricLock.rank])
  cases h with
  | refused => trivial
  | missing => exact hadapters
  | failed h => exact hadapters.seq (hcode h)
  | attached h => exact hadapters.seq ((hcode h).seq hattachments)

/-- Whatever a section takes, it takes in the order of the ranks. -/
theorem locks_ordered (sec : Section W) (b : Block (FabricLock A)) (h : sec.locks b) :
    b.Ordered FabricLock.rank [] := by
  have hone : ∀ (l : FabricLock A) (m : Locks.Mode),
      (Block.guard l m .skip .skip).Ordered FabricLock.rank [] :=
    fun l m => ordered_guard (by simp) trivial
  have hcalls : ∀ {own : A → Prop} {code : Block (FabricLock A)} (m : Locks.Mode),
      AdapterCode own code →
        (Block.guard .adapters m code .skip).Ordered FabricLock.rank [] := by
    intro own code m hcode
    exact ordered_guard (by simp) (hcode.ordered (by simp [FabricLock.rank]))
  cases sec with
  | registerAdapter =>
      obtain ⟨code, hcode, rfl⟩ := h
      exact hcalls .write hcode
  | adapterReports =>
      obtain ⟨code, hcode, rfl⟩ := h
      exact hcalls .read hcode
  | findAvailable =>
      rcases h with rfl | rfl
      · exact hone _ _
      · exact ordered_guard (by simp) (ordered_guard (by simp [FabricLock.rank]) trivial)
  | attach =>
      obtain ⟨body, hbody, rfl⟩ := h
      exact ordered_guard (by simp) hbody.ordered
  | releaseDetach =>
      rcases h with rfl | ⟨a, code, hcode, rfl⟩
      · exact hone _ _
      · exact hcalls .read hcode
  -- the others take one lock, and call nothing under it
  | cutoff => exact h ▸ trivial
  | register => exact h ▸ hone _ _
  | unregisterCheck => exact h ▸ hone _ _
  | unregisterRemove => exact h ▸ hone _ _
  | resource => exact h ▸ hone _ _
  | resources => exact h ▸ hone _ _
  | resourceIds => exact h ▸ hone _ _
  | leaseExclusive => exact h ▸ hone _ _
  | renewLease => exact h ▸ hone _ _
  | releaseCheck => exact h ▸ hone _ _
  | releaseTake => exact h ▸ hone _ _
  | releaseRemove => exact h ▸ hone _ _
  | heartbeat => exact h ▸ hone _ _
  | evictStale => exact h ▸ hone _ _
  | evictOwned => exact h ▸ hone _ _

/-! ## Concurrent calls -/

variable {ι : Type}

/-- Any number of calls at once, each on one of its ways through its sections. -/
def Calling (ops : ι → Op W) (start : Locks.Threads ι (FabricLock A)) : Prop :=
  ∀ i, ∃ b, Takes Section.locks (ops i).call b ∧ start i = .start b.events

theorem Calling.ordered {ops : ι → Op W} {start : Locks.Threads ι (FabricLock A)}
    (h : Calling ops start) (i : ι) : (start i).Ordered FabricLock.rank := by
  obtain ⟨b, htakes, hstart⟩ := h i
  rw [hstart]
  exact (htakes.ordered locks_ordered).thread

/-- In no interleaving of any calls is every unfinished call blocked. -/
theorem calls_no_deadlock [Finite ι] [DecidableEq ι] {ops : ι → Op W}
    {start c : Locks.Threads ι (FabricLock A)} (hcalling : Calling ops start)
    (hreach : Locks.Reachable start c) (hunfinished : ∃ i, ¬ (c i).Finished) :
    ∃ i, ¬ (c i).Finished ∧ ¬ Locks.Blocked c i :=
  Locks.no_deadlock hcalling.ordered hreach hunfinished

namespace Scenario

/-- `attach` and `release` of one lease, at once. -/
def attachBesideRelease : Fin 2 → Op Unit :=
  ![.attach "local-proof" ⟨1, "device.0", "mission-a"⟩,
    .release ⟨1, "device.0", "mission-a"⟩]

/-- An `attach` that succeeds, with an adapter that takes its lock once. -/
def attachWay : Block (FabricLock Unit) :=
  (reading .resources).seq
    ((Block.guard .leases .write ((reading .adapters).seq
      ((locked (.own ())).seq (locked .attachments))) .skip).seq .skip)

/-- A `release` that detaches. -/
def releaseWay : Block (FabricLock Unit) :=
  (locked .leases).seq ((locked .attachments).seq ((reading .resources).seq
    ((Block.guard .adapters .read (locked (.own ())) .skip).seq ((locked .leases).seq .skip))))

theorem code_own : AdapterCode (· = ()) (locked (.own ())) := by
  refine .lock ?_ .write .done
  rfl

theorem takes_attachWay : Takes Section.locks (attachBesideRelease 0).call attachWay := by
  refine .atomic rfl (some device) ?_
  refine .atomic ⟨_, .attached code_own, rfl⟩
    (.ok ⟨"device.0", 1, "local-proof", ∅⟩) ?_
  exact .done ()

theorem takes_releaseWay : Takes Section.locks (attachBesideRelease 1).call releaseWay := by
  refine .atomic rfl (.ok ()) ?_
  refine .atomic rfl (some "local-proof") ?_
  refine .atomic rfl (some device) ?_
  refine .atomic (Or.inr ⟨(), _, code_own, rfl⟩) (.ok ()) ?_
  refine .atomic rfl (.ok ()) ?_
  exact .done ()

/-- Both calls are about to start. -/
def bothWays : Locks.Threads (Fin 2) (FabricLock Unit) :=
  ![.start attachWay.events, .start releaseWay.events]

end Scenario

open Scenario in
theorem calls_no_deadlock_both :
    ∃ i, ¬ (bothWays i).Finished ∧ ¬ Locks.Blocked bothWays i := by
  have hcalling : Calling attachBesideRelease bothWays := by
    intro i
    match i with
    | 0 => exact ⟨attachWay, takes_attachWay, rfl⟩
    | 1 => exact ⟨releaseWay, takes_releaseWay, rfl⟩
  have hunfinished : ¬ (bothWays 0).Finished := by
    intro hnil
    cases hnil
  exact calls_no_deadlock hcalling .refl ⟨0, hunfinished⟩

/-- From wherever they have come to, the calls can all return. -/
theorem calls_return [Finite ι] [DecidableEq ι] {ops : ι → Op W}
    {start c : Locks.Threads ι (FabricLock A)} (hcalling : Calling ops start)
    (hreach : Locks.Reachable start c) :
    ∃ c', Locks.Reachable c c' ∧ ∀ i, (c' i).Finished :=
  Locks.finishes (hreach.ordered hcalling.ordered)

end NautiFabric
