import Mathlib
import NautiFabric.Lib.Interleave

/-!
# Locks taken in the order of their ranks

Threads, as far as their locks go: a thread is the sequence of its acquisitions
and releases. A lock is taken shared (`read`) or exclusively (`write`); a mutex
is a lock that is only taken exclusively. A grant looks at the holders alone,
and a wait at the waiting writers too: a reader may be kept waiting by a writer
that waits itself. So every schedule of a real lock is among the runs, and
every wait of a real lock is a wait here.

`no_deadlock`: when each thread takes a lock only above the locks it holds,
some unfinished thread can always go on, and so all can be run to their ends
(`finishes`). `Block` is code whose guards are held
to the end of a block, and `Prog.Takes` the locks of a call made of sections.
-/

namespace Locks

open Interleave

universe u v w

/-! ## Threads and locks -/

inductive Mode where
  | read
  | write
deriving DecidableEq, Repr

/-- Two guards of one lock cannot be held together. -/
def Mode.Excludes (m m' : Mode) : Prop := m = .write ∨ m' = .write

inductive Event (L : Type u) where
  | acquire (l : L) (m : Mode)
  | release (l : L)

/-- The guards held, the latest first, and what is still to be done. -/
structure Thread (L : Type u) where
  held : List (L × Mode)
  rest : List (Event L)

variable {L : Type u} {ι : Type v}

def Thread.start (events : List (Event L)) : Thread L := ⟨[], events⟩

def Thread.Finished (t : Thread L) : Prop := t.rest = []

/-- The next thing to do is to acquire `l`. -/
def Thread.Wants (t : Thread L) (l : L) (m : Mode) : Prop :=
  ∃ rest, t.rest = .acquire l m :: rest

/-- A guard of the thread excludes the mode `m`. -/
def Thread.Denies (t : Thread L) (l : L) (m : Mode) : Prop :=
  ∃ m', (l, m') ∈ t.held ∧ m.Excludes m'

/-- The threads that run at once. -/
abbrev Threads (ι : Type v) (L : Type u) := ι → Thread L

/-- A thread cannot take the lock it wants: it is held, or a writer waits for it. -/
def Blocked (c : Threads ι L) (i : ι) : Prop :=
  ∃ l m, (c i).Wants l m ∧
    ((∃ j, (c j).Denies l m) ∨ (m = .read ∧ ∃ j, (c j).Wants l .write))

section Steps

variable [DecidableEq ι]

/-- One thread takes a lock that nobody denies it, or drops its latest guard. -/
inductive Step (c : Threads ι L) : Threads ι L → Prop
  | acquire (i : ι) {held : List (L × Mode)} {l : L} {m : Mode} {rest : List (Event L)}
      (hi : c i = ⟨held, .acquire l m :: rest⟩) (hfree : ∀ j, ¬ (c j).Denies l m) :
      Step c (Function.update c i ⟨(l, m) :: held, rest⟩)
  | release (i : ι) {held : List (L × Mode)} {l : L} {m : Mode} {rest : List (Event L)}
      (hi : c i = ⟨(l, m) :: held, .release l :: rest⟩) :
      Step c (Function.update c i ⟨held, rest⟩)

/-- Reached by some interleaving of the threads. -/
def Reachable (start c : Threads ι L) : Prop := Relation.ReflTransGen Step start c

end Steps

/-! ## The order of the locks -/

section Order

variable {R : Type w} [LinearOrder R] (rank : L → R)

/-- Every lock is taken above the locks held, every release drops the latest
guard, and nothing is held at the end. -/
def Ordered : List (L × Mode) → List (Event L) → Prop
  | held, [] => held = []
  | held, .acquire l m :: rest =>
    (∀ g ∈ held, rank g.1 < rank l) ∧ Ordered ((l, m) :: held) rest
  | [], .release _ :: _ => False
  | g :: held, .release l :: rest => g.1 = l ∧ Ordered held rest

def Thread.Ordered (t : Thread L) : Prop := Locks.Ordered rank t.held t.rest

variable {rank}

theorem Thread.Ordered.lt_wanted {t : Thread L} (h : t.Ordered rank) {l : L} {m : Mode}
    (hwants : t.Wants l m) {g : L × Mode} (hg : g ∈ t.held) : rank g.1 < rank l := by
  obtain ⟨rest, hrest⟩ := hwants
  rw [Thread.Ordered, hrest] at h
  exact h.1 g hg

/-- A thread that holds a lock is not finished. -/
theorem Thread.Ordered.unfinished {t : Thread L} (h : t.Ordered rank) {g : L × Mode}
    (hg : g ∈ t.held) : ¬ t.Finished := by
  intro hfinished
  rw [Thread.Ordered, hfinished] at h
  have hnone : t.held = [] := h
  rw [hnone] at hg
  cases hg

/-- A step keeps the order of every thread. -/
theorem Step.ordered [DecidableEq ι] {c c' : Threads ι L} (hstep : Step c c')
    (h : ∀ i, (c i).Ordered rank) : ∀ i, (c' i).Ordered rank := by
  intro j
  cases hstep with
  | @acquire i held l m rest hi hfree =>
      by_cases hj : j = i
      · subst hj
        have hc := h j
        rw [Thread.Ordered, hi] at hc
        rw [Function.update_self]
        exact hc.2
      · rw [Function.update_of_ne hj]
        exact h j
  | @release i held l m rest hi =>
      by_cases hj : j = i
      · subst hj
        have hc := h j
        rw [Thread.Ordered, hi] at hc
        rw [Function.update_self]
        exact hc.2
      · rw [Function.update_of_ne hj]
        exact h j

theorem Reachable.ordered [DecidableEq ι] {start c : Threads ι L} (hreach : Reachable start c)
    (h : ∀ i, (start i).Ordered rank) : ∀ i, (c i).Ordered rank := by
  induction hreach with
  | refl => exact h
  | tail _ hstep ih => exact hstep.ordered ih

/-! ## Freedom from deadlock -/

theorem Thread.Wants.unique {t : Thread L} {l l' : L} {m m' : Mode} (h : t.Wants l m)
    (h' : t.Wants l' m') : l = l' ∧ m = m' := by
  obtain ⟨rest, hrest⟩ := h
  obtain ⟨rest', hrest'⟩ := h'
  have heq := hrest.symm.trans hrest'
  injection heq with hevent
  injection hevent with hl hm
  exact ⟨hl, hm⟩

/-- The locks that are wanted, one at most for each thread. -/
theorem finite_wanted [Finite ι] (c : Threads ι L) : {l | ∃ i m, (c i).Wants l m}.Finite := by
  have hunion : {l | ∃ i m, (c i).Wants l m} = ⋃ i, {l | ∃ m, (c i).Wants l m} := by
    ext l
    simp
  rw [hunion]
  refine Set.finite_iUnion fun i => ?_
  apply Set.Subsingleton.finite
  intro l hl l' hl'
  obtain ⟨m, hm⟩ := hl
  obtain ⟨m', hm'⟩ := hl'
  exact (hm.unique hm').1

/-- Where every unfinished thread is blocked, all are finished: the wanted lock of
the highest rank is held by nobody, since its holder would want a higher one. -/
theorem all_finished_of_blocked [Finite ι] {c : Threads ι L} (h : ∀ i, (c i).Ordered rank)
    (hblocked : ∀ i, ¬ (c i).Finished → Blocked c i) : ∀ i, (c i).Finished := by
  by_contra hnot
  obtain ⟨i₀, hi₀⟩ := not_forall.mp hnot
  have hwanted : {l | ∃ i m, (c i).Wants l m}.Nonempty := by
    obtain ⟨l, m, hwants, -⟩ := hblocked i₀ hi₀
    exact ⟨l, i₀, m, hwants⟩
  obtain ⟨l, ⟨i, m, hwants⟩, hmax⟩ := Set.exists_max_image _ rank (finite_wanted c) hwanted
  have hfree : ∀ j m', ¬ (c j).Denies l m' := by
    rintro j m' ⟨m'', hheld, -⟩
    obtain ⟨l', k, hwants', -⟩ := hblocked j ((h j).unfinished hheld)
    have hlt : rank l < rank l' := (h j).lt_wanted hwants' hheld
    exact absurd (hmax l' ⟨j, k, hwants'⟩) (not_le.mpr hlt)
  have hunfinished : ∀ {j m'}, (c j).Wants l m' → ¬ (c j).Finished := by
    rintro j m' ⟨rest, hrest⟩ hfinished
    rw [Thread.Finished, hrest] at hfinished
    cases hfinished
  obtain ⟨l', m', hwants', hwait⟩ := hblocked i (hunfinished hwants)
  obtain ⟨rfl, rfl⟩ := hwants.unique hwants'
  rcases hwait with ⟨j, hdenies⟩ | ⟨-, j, hwriter⟩
  · exact hfree j _ hdenies
  · -- the writer that `i` waits for is blocked too, and only by a holder
    obtain ⟨l', m', hwants', hwait⟩ := hblocked j (hunfinished hwriter)
    obtain ⟨rfl, rfl⟩ := hwriter.unique hwants'
    rcases hwait with ⟨k, hdenies⟩ | ⟨hread, -⟩
    · exact hfree k _ hdenies
    · cases hread

/-- Threads that take their locks in the order of the ranks never come to wait for
each other. -/
theorem no_deadlock [Finite ι] [DecidableEq ι] {start c : Threads ι L}
    (hstart : ∀ i, (start i).Ordered rank) (hreach : Reachable start c)
    (hunfinished : ∃ i, ¬ (c i).Finished) : ∃ i, ¬ (c i).Finished ∧ ¬ Blocked c i := by
  by_contra hnot
  have hblocked : ∀ i, ¬ (c i).Finished → Blocked c i := by
    intro i hi
    by_contra hfree
    exact hnot ⟨i, hi, hfree⟩
  obtain ⟨i, hi⟩ := hunfinished
  exact hi (all_finished_of_blocked (hreach.ordered hstart) hblocked i)

/-- An unfinished thread that is not blocked can take its next step. -/
theorem exists_step [DecidableEq ι] {c : Threads ι L} {i : ι} (h : (c i).Ordered rank)
    (hi : ¬ (c i).Finished) (hfree : ¬ Blocked c i) : ∃ c', Step c c' := by
  rcases hc : c i with ⟨held, _ | ⟨_ | l, rest⟩⟩
  · rw [hc] at hi
    exact absurd rfl hi
  · refine ⟨_, .acquire i hc fun j hdenies => hfree ⟨_, _, ⟨rest, ?_⟩, Or.inl ⟨j, hdenies⟩⟩⟩
    rw [hc]
  · rw [Thread.Ordered, hc] at h
    rcases held with _ | ⟨⟨l', m⟩, held⟩
    · exact h.elim
    · obtain ⟨rfl, -⟩ := h
      exact ⟨_, .release i hc⟩

/-! ## Runs to the end -/

/-- What is still to be done by all threads together. -/
noncomputable def remaining [Fintype ι] (c : Threads ι L) : ℕ := ∑ i, (c i).rest.length

theorem remaining_update [Fintype ι] [DecidableEq ι] {c : Threads ι L} {i : ι} {t : Thread L}
    (h : t.rest.length < (c i).rest.length) : remaining (Function.update c i t) < remaining c := by
  apply Finset.sum_lt_sum
  · intro j _
    by_cases hj : j = i
    · subst hj
      rw [Function.update_self]
      exact h.le
    · rw [Function.update_of_ne hj]
  · refine ⟨i, Finset.mem_univ i, ?_⟩
    rw [Function.update_self]
    exact h

theorem Step.remaining_lt [Fintype ι] [DecidableEq ι] {c c' : Threads ι L} (hstep : Step c c') :
    remaining c' < remaining c := by
  cases hstep with
  | acquire i hi =>
      apply remaining_update
      rw [hi]
      exact Nat.lt_succ_self _
  | release i hi =>
      apply remaining_update
      rw [hi]
      exact Nat.lt_succ_self _

/-- Whatever has happened, the threads can all be run to their ends. -/
theorem finishes [Finite ι] [DecidableEq ι] {c : Threads ι L} (h : ∀ i, (c i).Ordered rank) :
    ∃ c', Relation.ReflTransGen Step c c' ∧ ∀ i, (c' i).Finished := by
  have := Fintype.ofFinite ι
  -- on what is still to be done, which every step makes less
  induction hn : remaining c using Nat.strong_induction_on generalizing c with
  | h n ih =>
      by_cases hall : ∀ i, (c i).Finished
      · exact ⟨c, .refl, hall⟩
      obtain ⟨i, hi, hfree⟩ := no_deadlock h .refl (not_forall.mp hall)
      obtain ⟨c₁, hstep⟩ := exists_step (h i) hi hfree
      have hless : remaining c₁ < n := hn ▸ hstep.remaining_lt
      obtain ⟨c', hsteps, hfinished⟩ := ih _ hless (hstep.ordered h) rfl
      exact ⟨c', .head hstep hsteps, hfinished⟩

end Order

/-! ## Guards held to the end of a block -/

/-- Code, as far as its locks go: under a guard runs `body`, and `rest` once the
guard is dropped. -/
inductive Block (L : Type u) where
  | skip
  | guard (l : L) (m : Mode) (body rest : Block L)

namespace Block

def events : Block L → List (Event L)
  | skip => []
  | guard l m body rest => .acquire l m :: (body.events ++ .release l :: rest.events)

/-- One block after the other. -/
def seq : Block L → Block L → Block L
  | skip, b => b
  | guard l m body rest, b => guard l m body (rest.seq b)

variable {R : Type w} [LinearOrder R] (rank : L → R)

/-- Under the guards held, every guard of the block is taken above all that are held. -/
def Ordered : List (L × Mode) → Block L → Prop
  | _, skip => True
  | held, guard l m body rest =>
    (∀ g ∈ held, rank g.1 < rank l) ∧ Ordered ((l, m) :: held) body ∧ Ordered held rest

variable {rank}

theorem Ordered.seq {held : List (L × Mode)} {a b : Block L} (ha : Ordered rank held a)
    (hb : Ordered rank held b) : Ordered rank held (a.seq b) := by
  induction a with
  | skip => exact hb
  | guard l m body rest _ ih =>
      obtain ⟨habove, hbody, hrest⟩ := ha
      exact ⟨habove, hbody, ih hrest⟩

theorem Ordered.events {held : List (L × Mode)} {b : Block L} (h : Ordered rank held b)
    {after : List (Event L)} (hafter : Locks.Ordered rank held after) :
    Locks.Ordered rank held (b.events ++ after) := by
  -- on the block; what comes after the body is the release of its guard
  induction b generalizing held after with
  | skip => exact hafter
  | guard l m body rest ihbody ihrest =>
      obtain ⟨habove, hbody, hrest⟩ := h
      have hreleased : Locks.Ordered rank ((l, m) :: held)
          (.release l :: (rest.events ++ after)) := ⟨rfl, ihrest hrest hafter⟩
      have htaken := ihbody hbody hreleased
      rw [Block.events, List.cons_append, List.append_assoc]
      exact ⟨habove, htaken⟩

/-- A thread that runs an ordered block is ordered. -/
theorem Ordered.thread {b : Block L} (h : Ordered rank [] b) :
    (Thread.start b.events).Ordered rank := by
  have hthread : Locks.Ordered rank [] (b.events ++ []) := h.events rfl
  rwa [List.append_nil] at hthread

end Block

/-! ## Calls made of sections -/

section Calls

variable {ℓ : Type u} {ρ : ℓ → Type u} {α : Type v} {L : Type w}

/-- A block of locks that the call may take: for each section that it asks for, one of the
section's ways; then the call goes on with any reply, or ends there in a panic. -/
inductive Takes (locks : ℓ → Block L → Prop) : Prog ρ α → Block L → Prop
  | done (a : α) : Takes locks (.done a) .skip
  | atomic {l : ℓ} {next : ρ l → Prog ρ α} {b rest : Block L} (hb : locks l b) (r : ρ l)
      (hrest : Takes locks (next r) rest) : Takes locks (.atomic l next) (b.seq rest)
  | panic {l : ℓ} {next : ρ l → Prog ρ α} {b : Block L} (hb : locks l b) :
      Takes locks (.atomic l next) b

/-- Sections in order make ordered calls. -/
theorem Takes.ordered {R : Type*} [LinearOrder R] {rank : L → R} {locks : ℓ → Block L → Prop}
    (hlocks : ∀ l b, locks l b → b.Ordered rank []) {p : Prog ρ α} {b : Block L}
    (h : Takes locks p b) : b.Ordered rank [] := by
  induction h with
  | done a => trivial
  | atomic hb r _ ih => exact (hlocks _ _ hb).seq ih
  | panic hb => exact hlocks _ _ hb

end Calls

end Locks
