import Mathlib.Logic.Relation
import Mathlib.Tactic.Common

/-!
# Interleaving of calls made of atomic sections

A call is a tree of atomic sections: it asks for one section, reads that
section's reply, and goes on. The sections are a signature `ρ : ℓ → Type` (a
label and the type of its reply); a handler gives them their meaning on a
shared state, and may answer `none`, which stands for a panic inside the
section. Two semantics are read off the same tree:

* `Prog.run` executes one call to its end, with nothing in between;
* `System.Step` interleaves the sections of any number of calls with each
  other and with steps of the environment.

`System.Reachable.invariant` reduces an invariant of every interleaving to one
obligation for each section; `System.Reachable.sound` adds what a call knows
locally about the replies it has read. `System.SeqReachable.reachable` says
that the sequential runs are among the interleavings, and
`System.Reachable.schedule` turns an explicit schedule into a reachable
configuration.
-/

namespace Interleave

universe u v w x

/-! ## Calls -/

/-- A call in progress: finished, or about to run the section `l` and to go on
with the reply. -/
inductive Prog {ℓ : Type u} (ρ : ℓ → Type u) (α : Type v) where
  | done (a : α)
  | atomic (l : ℓ) (next : ρ l → Prog ρ α)

/-- What a section does: a reply (`none` is a panic) and the new state. -/
abbrev Handler {ℓ : Type u} (ρ : ℓ → Type u) (σ : Type w) := (l : ℓ) → σ → Option (ρ l) × σ

variable {ℓ : Type u} {ρ : ℓ → Type u} {σ : Type w} {α β : Type v}

namespace Prog

def bind {γ : Type x} : Prog ρ α → (α → Prog ρ γ) → Prog ρ γ
  | done a, f => f a
  | atomic l next, f => atomic l fun r => (next r).bind f

instance : Monad (Prog ρ) where
  pure := done
  bind := bind

/-- Run the single section `l`. -/
def perform (l : ℓ) : Prog ρ (ρ l) := atomic l done

@[simp] theorem perform_bind {γ : Type u} (l : ℓ) (f : ρ l → Prog ρ γ) :
    perform l >>= f = atomic l f := rfl

/-- The call, with its result dropped. -/
def ignore (p : Prog ρ α) : Prog ρ Unit := p.bind fun _ => done ()

/-! ## Running one call alone -/

/-- Execute a call to its end; `none` when one of its sections panics. -/
def run (act : Handler ρ σ) : Prog ρ α → σ → Option α × σ
  | done a, s => (some a, s)
  | atomic l next, s =>
    match act l s with
    | (none, s') => (none, s')
    | (some r, s') => (next r).run act s'

/-- Every section that `p` runs from `s` meets the guard in the state it meets. -/
def Guarded (act : Handler ρ σ) (guard : ℓ → σ → Prop) : Prog ρ α → σ → Prop
  | done _, _ => True
  | atomic l next, s =>
    guard l s ∧ (act l s).1.elim True fun r => (next r).Guarded act guard (act l s).2

theorem run_atomic_some {act : Handler ρ σ} {l : ℓ} {next : ρ l → Prog ρ α} {s s' : σ}
    {r : ρ l} (h : act l s = (some r, s')) :
    (atomic l next).run act s = (next r).run act s' := by
  simp [run, h]

theorem run_atomic_none {act : Handler ρ σ} {l : ℓ} {next : ρ l → Prog ρ α} {s s' : σ}
    (h : act l s = (none, s')) : (atomic l next).run act s = (none, s') := by
  simp [run, h]

/-- A call of one section is that section. -/
theorem run_perform (act : Handler ρ σ) (l : ℓ) (s : σ) :
    (perform l : Prog ρ (ρ l)).run act s = act l s := by
  rcases ha : act l s with ⟨_ | r, s'⟩
  · exact run_atomic_none ha
  · exact run_atomic_some ha

theorem run_bind_some {γ : Type x} {act : Handler ρ σ} {p : Prog ρ α} {f : α → Prog ρ γ} {s s' : σ}
    {a : α} (h : p.run act s = (some a, s')) : (p.bind f).run act s = (f a).run act s' := by
  induction p generalizing s with
  | done b =>
      obtain ⟨hb, rfl⟩ := Prod.mk.inj h
      obtain rfl := Option.some.inj hb
      rfl
  | atomic l next ih =>
      rcases ha : act l s with ⟨_ | r, s₁⟩
      · rw [run_atomic_none ha] at h
        cases h
      · rw [run_atomic_some ha] at h
        exact (run_atomic_some ha).trans (ih r h)

theorem run_bind_none {γ : Type x} {act : Handler ρ σ} {p : Prog ρ α} {f : α → Prog ρ γ} {s s' : σ}
    (h : p.run act s = (none, s')) : (p.bind f).run act s = (none, s') := by
  induction p generalizing s with
  | done b => cases h
  | atomic l next ih =>
      rcases ha : act l s with ⟨_ | r, s₁⟩
      · rw [run_atomic_none ha] at h
        obtain ⟨-, rfl⟩ := Prod.mk.inj h
        exact run_atomic_none ha
      · rw [run_atomic_some ha] at h
        exact (run_atomic_some ha).trans (ih r h)

/-- Work on the result alone changes no state. -/
theorem run_bind_done {γ : Type x} (act : Handler ρ σ) (p : Prog ρ α) (f : α → γ) (s : σ) :
    ((p.bind fun a => done (f a)).run act s).2 = (p.run act s).2 := by
  rcases hp : p.run act s with ⟨_ | a, s'⟩
  · rw [run_bind_none hp]
  · rw [run_bind_some hp]
    rfl

/-- The guard that holds everywhere is met by every call. -/
theorem guarded_of_forall {act : Handler ρ σ} {guard : ℓ → σ → Prop}
    (h : ∀ l s, guard l s) (p : Prog ρ α) (s : σ) : p.Guarded act guard s := by
  induction p generalizing s with
  | done a => trivial
  | atomic l next ih =>
      refine ⟨h l s, ?_⟩
      rcases (act l s).1 with _ | r
      · trivial
      · exact ih r _

theorem Guarded.mono {act : Handler ρ σ} {guard guard' : ℓ → σ → Prop}
    (h : ∀ l s, guard l s → guard' l s) {p : Prog ρ α} {s : σ} (hp : p.Guarded act guard s) :
    p.Guarded act guard' s := by
  induction p generalizing s with
  | done a => trivial
  | atomic l next ih =>
      refine ⟨h l s hp.1, ?_⟩
      have hnext := hp.2
      rcases hreply : (act l s).1 with _ | r
      · trivial
      · rw [hreply] at hnext
        exact ih r hnext

theorem guarded_atomic_some {act : Handler ρ σ} {guard : ℓ → σ → Prop} {l : ℓ}
    {next : ρ l → Prog ρ α} {s s' : σ} {r : ρ l} (ha : act l s = (some r, s')) :
    (atomic l next).Guarded act guard s ↔ guard l s ∧ (next r).Guarded act guard s' := by
  simp [Guarded, ha]

theorem guarded_atomic_none {act : Handler ρ σ} {guard : ℓ → σ → Prop} {l : ℓ}
    {next : ρ l → Prog ρ α} {s s' : σ} (ha : act l s = (none, s')) :
    (atomic l next).Guarded act guard s ↔ guard l s := by
  simp [Guarded, ha]

/-- What `p` asks for is well formed, whatever the sections reply in a state
that satisfies `I`. -/
def Sound (act : Handler ρ σ) (I : σ → Prop) (wf : ℓ → Prop) : Prog ρ α → Prop
  | done _ => True
  | atomic l next =>
    wf l ∧ ∀ s r, I s → (act l s).1 = some r → (next r).Sound act I wf

theorem sound_of_forall {act : Handler ρ σ} {I : σ → Prop} {wf : ℓ → Prop}
    (h : ∀ l, wf l) (p : Prog ρ α) : p.Sound act I wf := by
  induction p with
  | done a => trivial
  | atomic l next ih => exact ⟨h l, fun _ r _ _ => ih r⟩

theorem Sound.bind {act : Handler ρ σ} {I : σ → Prop} {wf : ℓ → Prop} {p : Prog ρ α}
    {f : α → Prog ρ β} (hp : p.Sound act I wf) (hf : ∀ a, (f a).Sound act I wf) :
    (p >>= f).Sound act I wf := by
  induction p with
  | done a => exact hf a
  | atomic l next ih => exact ⟨hp.1, fun s r hI hr => ih r (hp.2 s r hI hr)⟩

/-- Where the well-formed sections keep `I` and meet the guard, so does a call that keeps
to them. -/
theorem Sound.guarded_of_keeps {act : Handler ρ σ} {guard : ℓ → σ → Prop} {I : σ → Prop}
    {wf : ℓ → Prop} {p : Prog ρ α} (hp : p.Sound act (fun _ => True) wf)
    (hact : ∀ l s, wf l → I s → I (act l s).2) (hg : ∀ l s, wf l → I s → guard l s) {s : σ}
    (hs : I s) : p.Guarded act guard s := by
  induction p generalizing s with
  | done a => trivial
  | atomic l next ih =>
      have hkeep : I (act l s).2 := hact l s hp.1 hs
      rcases ha : act l s with ⟨_ | r, s'⟩
      · exact (guarded_atomic_none ha).mpr (hg l s hp.1 hs)
      · rw [ha] at hkeep
        have hnext := hp.2 s r trivial (by rw [ha])
        exact (guarded_atomic_some ha).mpr ⟨hg l s hp.1 hs, ih r hnext hkeep⟩

/-- Where the well-formed sections meet the guard, so does a call that keeps to them. -/
theorem Sound.guarded {act : Handler ρ σ} {guard : ℓ → σ → Prop} {wf : ℓ → Prop}
    {p : Prog ρ α} (hp : p.Sound act (fun _ => True) wf) (hg : ∀ l s, wf l → guard l s) (s : σ) :
    p.Guarded act guard s :=
  hp.guarded_of_keeps (I := fun _ => True) (fun _ _ _ _ => trivial) (fun l s hl _ => hg l s hl)
    trivial

/-! ## Rules for one call run alone

`Leaves I p s` is the weakest precondition of `I` for the final state, over the
runs whose sections meet the guard; a panic leaves the state it left. -/

section Leaves

variable {act : Handler ρ σ} {guard : ℓ → σ → Prop} {I J : σ → Prop}

/-- Run alone from `s` with its sections meeting the guard, `p` ends in `I`. -/
def Leaves (act : Handler ρ σ) (guard : ℓ → σ → Prop) (I : σ → Prop) (p : Prog ρ α) (s : σ) :
    Prop := p.Guarded act guard s → I (p.run act s).2

theorem leaves_done {a : α} {s : σ} (h : I s) : (done a : Prog ρ α).Leaves act guard I s :=
  fun _ => h

theorem leaves_atomic {l : ℓ} {next : ρ l → Prog ρ α} {s : σ}
    (hpanic : ∀ s', guard l s → act l s = (none, s') → I s')
    (hreply : ∀ r s', guard l s → act l s = (some r, s') → (next r).Leaves act guard I s') :
    (atomic l next).Leaves act guard I s := by
  intro hguarded
  rcases ha : act l s with ⟨_ | r, s'⟩
  · rw [run_atomic_none ha]
    exact hpanic s' ((guarded_atomic_none ha).mp hguarded) ha
  · rw [run_atomic_some ha]
    obtain ⟨hg, hnext⟩ := (guarded_atomic_some ha).mp hguarded
    exact hreply r s' hg ha hnext

theorem leaves_perform {l : ℓ} {s : σ} (h : guard l s → I (act l s).2) :
    (perform l : Prog ρ (ρ l)).Leaves act guard I s := by
  refine leaves_atomic ?_ ?_
  · intro s' hg ha
    simpa [ha] using h hg
  · intro r s' hg ha
    refine leaves_done ?_
    simpa [ha] using h hg

/-- Sequencing, through an assertion `J` that also holds after a panic. -/
theorem Leaves.bind {γ : Type x} {p : Prog ρ α} {f : α → Prog ρ γ} {s : σ}
    (hp : p.Leaves act guard J s) (hpanic : ∀ s, J s → I s)
    (hf : ∀ a s, J s → (f a).Leaves act guard I s) : (p.bind f).Leaves act guard I s := by
  induction p generalizing s with
  | done a =>
      have hJ : J s := hp trivial
      exact hf a s hJ
  | atomic l next ih =>
      refine leaves_atomic ?_ ?_
      · intro s' hg ha
        have hJ := hp ((guarded_atomic_none ha).mpr hg)
        rw [run_atomic_none ha] at hJ
        exact hpanic s' hJ
      · intro r s' hg ha
        apply ih
        intro hnext
        have hJ := hp ((guarded_atomic_some ha).mpr ⟨hg, hnext⟩)
        rwa [run_atomic_some ha] at hJ

/-- What every section that `p` can ask for keeps, `p` keeps. -/
theorem Sound.leaves {wf : ℓ → Prop} {p : Prog ρ α} (hp : p.Sound act J wf)
    (hact : ∀ l s, wf l → I s → I (act l s).2) (hJ : ∀ s, I s → J s) {s : σ} (hs : I s) :
    p.Leaves act guard I s := by
  induction p generalizing s with
  | done a => exact leaves_done hs
  | atomic l next ih =>
      have hkeep : I (act l s).2 := hact l s hp.1 hs
      refine leaves_atomic ?_ ?_
      · intro s' _ ha
        simpa [ha] using hkeep
      · intro r s' _ ha
        exact ih r (hp.2 s r (hJ s hs) (by rw [ha])) (by simpa [ha] using hkeep)

theorem Leaves.ignore {p : Prog ρ α} {s : σ} (h : p.Leaves act guard I s) :
    p.ignore.Leaves act guard I s :=
  h.bind (fun _ hI => hI) fun _ _ hI => leaves_done hI

end Leaves

end Prog

/-! ## Any number of calls at once -/

/-- The shared state and the calls in progress. -/
structure Config (ρ : ℓ → Type u) (σ : Type w) (α : Type v) where
  state : σ
  calls : List (Prog ρ α)

/-- A system: the meaning of the sections, the initial states, the calls that
may be made, the moves of the environment, and a guard that restricts the runs
under consideration to those whose sections all meet it. -/
structure System (ρ : ℓ → Type u) (σ : Type w) (α : Type v) where
  act : Handler ρ σ
  init : σ → Prop
  invocable : Prog ρ α → Prop
  env : σ → σ → Prop
  guard : ℓ → σ → Prop

namespace System

variable (S : System ρ σ α)

/-- One move: a call starts, a call runs its next section (and ends when that
section panics), a finished call returns, or the environment moves. -/
inductive Step : Config ρ σ α → Config ρ σ α → Prop
  | invoke {c : Config ρ σ α} (p : Prog ρ α) (hp : S.invocable p) :
      Step c ⟨c.state, p :: c.calls⟩
  | exec {s s' : σ} (pre post : List (Prog ρ α)) {l : ℓ} {next : ρ l → Prog ρ α} {r : ρ l}
      (hg : S.guard l s) (h : S.act l s = (some r, s')) :
      Step ⟨s, pre ++ .atomic l next :: post⟩ ⟨s', pre ++ next r :: post⟩
  | panic {s s' : σ} (pre post : List (Prog ρ α)) {l : ℓ} {next : ρ l → Prog ρ α}
      (hg : S.guard l s) (h : S.act l s = (none, s')) :
      Step ⟨s, pre ++ .atomic l next :: post⟩ ⟨s', pre ++ post⟩
  | finish {s : σ} (pre post : List (Prog ρ α)) {a : α} :
      Step ⟨s, pre ++ .done a :: post⟩ ⟨s, pre ++ post⟩
  | env {s s' : σ} {calls : List (Prog ρ α)} (h : S.env s s') :
      Step ⟨s, calls⟩ ⟨s', calls⟩

/-- Reached from an initial state with no call in progress. -/
def Reachable (c : Config ρ σ α) : Prop :=
  ∃ s, S.init s ∧ Relation.ReflTransGen S.Step ⟨s, []⟩ c

theorem Reachable.init {s : σ} (h : S.init s) : S.Reachable ⟨s, []⟩ := ⟨s, h, .refl⟩

variable {S}

theorem Reachable.step {c c' : Config ρ σ α} (h : S.Reachable c) (hs : S.Step c c') :
    S.Reachable c' := by
  obtain ⟨s, hs0, hr⟩ := h
  exact ⟨s, hs0, hr.tail hs⟩

theorem Reachable.steps {c c' : Config ρ σ α} (h : S.Reachable c)
    (hs : Relation.ReflTransGen S.Step c c') : S.Reachable c' := by
  obtain ⟨s, hs0, hr⟩ := h
  exact ⟨s, hs0, hr.trans hs⟩

/-- What every section and every move of the environment relates, a run relates. -/
theorem rel_of_steps (R : σ → σ → Prop) (hrefl : ∀ s, R s s)
    (htrans : ∀ s₁ s₂ s₃, R s₁ s₂ → R s₂ s₃ → R s₁ s₃)
    (hact : ∀ l s, S.guard l s → R s (S.act l s).2) (henv : ∀ s s', S.env s s' → R s s')
    {c c' : Config ρ σ α} (hs : Relation.ReflTransGen S.Step c c') : R c.state c'.state := by
  induction hs with
  | refl => exact hrefl _
  | tail _ hstep ih =>
      refine htrans _ _ _ ih ?_
      cases hstep with
      | invoke p hp => exact hrefl _
      | exec pre post hg ha => simpa [ha] using hact _ _ hg
      | panic pre post hg ha => simpa [ha] using hact _ _ hg
      | finish pre post => exact hrefl _
      | env he => exact henv _ _ he

/-- Invariance with local knowledge: the calls in progress stay sound, and each
sound section keeps the invariant. -/
theorem Reachable.sound (I : σ → Prop) (wf : ℓ → Prop)
    (hinit : ∀ s, S.init s → I s)
    (hcalls : ∀ p, S.invocable p → p.Sound S.act I wf)
    (hact : ∀ l s, wf l → S.guard l s → I s → I (S.act l s).2)
    (henv : ∀ s s', S.env s s' → I s → I s')
    {c : Config ρ σ α} (h : S.Reachable c) :
    I c.state ∧ ∀ p ∈ c.calls, p.Sound S.act I wf := by
  obtain ⟨s, hs, hr⟩ := h
  -- on the steps of the run; a call that moves is found again in the pool
  induction hr with
  | refl => exact ⟨hinit s hs, by simp⟩
  | tail _ hstep ih =>
      obtain ⟨hI, hp⟩ := ih
      cases hstep with
      | invoke p hi =>
          refine ⟨hI, fun q hq => ?_⟩
          rcases List.mem_cons.mp hq with rfl | hq
          · exact hcalls _ hi
          · exact hp q hq
      | @exec s s' pre post l next r hg ha =>
          have hl : (Prog.atomic l next).Sound S.act I wf := hp _ (by simp)
          refine ⟨by simpa [ha] using hact l s hl.1 hg hI, fun q hq => ?_⟩
          rcases List.mem_append.mp hq with hq | hq
          · exact hp q (by simp [hq])
          · rcases List.mem_cons.mp hq with rfl | hq
            · exact hl.2 s r hI (by simp [ha])
            · exact hp q (by simp [hq])
      | @panic s s' pre post l next hg ha =>
          have hl : (Prog.atomic l next).Sound S.act I wf := hp _ (by simp)
          refine ⟨by simpa [ha] using hact l s hl.1 hg hI, fun q hq => ?_⟩
          rcases List.mem_append.mp hq with hq | hq
          · exact hp q (by simp [hq])
          · exact hp q (by simp [hq])
      | finish =>
          refine ⟨hI, fun q hq => ?_⟩
          rcases List.mem_append.mp hq with hq | hq
          · exact hp q (by simp [hq])
          · exact hp q (by simp [hq])
      | env he => exact ⟨henv _ _ he hI, hp⟩

/-- Invariance: what the environment and every section keep holds in every
reachable configuration. -/
theorem Reachable.invariant (I : σ → Prop)
    (hinit : ∀ s, S.init s → I s)
    (hact : ∀ l s, S.guard l s → I s → I (S.act l s).2)
    (henv : ∀ s s', S.env s s' → I s → I s')
    {c : Config ρ σ α} (h : S.Reachable c) : I c.state :=
  (h.sound I (fun _ => True) hinit (fun p _ => p.sound_of_forall fun _ => trivial)
    (fun l s _ => hact l s) henv).1

/-! ## Sequential runs -/

variable (S) in
/-- One call run alone, or one move of the environment. -/
inductive SeqStep : σ → σ → Prop
  | call {s : σ} (p : Prog ρ α) (hp : S.invocable p) (hg : p.Guarded S.act S.guard s) :
      SeqStep s (p.run S.act s).2
  | env {s s' : σ} (h : S.env s s') : SeqStep s s'

variable (S) in
/-- Reached by calls made one after the other. -/
def SeqReachable (s : σ) : Prop := ∃ s₀, S.init s₀ ∧ Relation.ReflTransGen S.SeqStep s₀ s

variable (S) in
theorem SeqReachable.init {s : σ} (h : S.init s) : S.SeqReachable s := ⟨s, h, .refl⟩

theorem SeqReachable.step {s s' : σ} (h : S.SeqReachable s) (hs : S.SeqStep s s') :
    S.SeqReachable s' := by
  obtain ⟨s₀, hs0, hr⟩ := h
  exact ⟨s₀, hs0, hr.tail hs⟩

/-- The sequential runs of a system that allows less. -/
theorem SeqReachable.mono {T : System ρ σ α} (hact : T.act = S.act)
    (hinit : ∀ s, S.init s → T.init s) (hcalls : ∀ p, S.invocable p → T.invocable p)
    (henv : ∀ s s', S.env s s' → T.env s s') (hguard : ∀ l s, S.guard l s → T.guard l s) {s : σ}
    (h : S.SeqReachable s) : T.SeqReachable s := by
  obtain ⟨s₀, hs₀, hr⟩ := h
  induction hr with
  | refl => exact .init _ (hinit _ hs₀)
  | @tail s' _ _ hstep ih =>
      cases hstep with
      | call p hp hg =>
          have hg' : p.Guarded T.act T.guard s' := by
            rw [hact]
            exact hg.mono hguard
          rw [← hact]
          exact ih.step (.call p (hcalls p hp) hg')
      | env he => exact ih.step (.env (henv _ _ he))

/-- Invariance over sequential runs, one obligation for each whole call. -/
theorem SeqReachable.invariant (I : σ → Prop)
    (hinit : ∀ s, S.init s → I s)
    (hcall : ∀ p s, S.invocable p → I s → p.Leaves S.act S.guard I s)
    (henv : ∀ s s', S.env s s' → I s → I s')
    {s : σ} (h : S.SeqReachable s) : I s := by
  obtain ⟨s₀, hs0, hr⟩ := h
  induction hr with
  | refl => exact hinit s₀ hs0
  | tail _ hstep ih =>
      cases hstep with
      | call p hp hg => exact hcall p _ hp ih hg
      | env he => exact henv _ _ he ih

/-- A call in progress can be run to its end without interruption. -/
theorem steps_of_run (p : Prog ρ α) (s : σ) (hg : p.Guarded S.act S.guard s)
    (calls : List (Prog ρ α)) :
    Relation.ReflTransGen S.Step ⟨s, p :: calls⟩ ⟨(p.run S.act s).2, calls⟩ := by
  induction p generalizing s with
  | done a => exact .single (.finish [] calls)
  | atomic l next ih =>
      rcases ha : S.act l s with ⟨_ | r, s'⟩
      · rw [Prog.run_atomic_none ha]
        exact .single (.panic [] calls ((Prog.guarded_atomic_none ha).mp hg) ha)
      · obtain ⟨hl, hrest⟩ := (Prog.guarded_atomic_some ha).mp hg
        rw [Prog.run_atomic_some ha]
        exact .head (.exec [] calls hl ha) (ih r s' hrest)

/-- Calls made one after the other are an interleaving in which no two overlap. -/
theorem steps_of_seqSteps {s s' : σ} (h : Relation.ReflTransGen S.SeqStep s s') :
    Relation.ReflTransGen S.Step ⟨s, []⟩ ⟨s', []⟩ := by
  induction h with
  | refl => exact .refl
  | tail _ hstep ih =>
      cases hstep with
      | call p hp hg => exact (ih.tail (.invoke p hp)).trans (steps_of_run p _ hg [])
      | env he => exact ih.tail (.env he)

theorem SeqReachable.reachable {s : σ} (h : S.SeqReachable s) : S.Reachable ⟨s, []⟩ := by
  obtain ⟨s₀, hs0, hr⟩ := h
  exact ⟨s₀, hs0, steps_of_seqSteps hr⟩

/-! ## Explicit schedules -/

variable (ρ σ α) in
/-- A move of a scheduler: start a call, run the next section of the `i`-th
call in progress, or let the environment act. -/
inductive Move where
  | invoke (p : Prog ρ α)
  | advance (i : ℕ)
  | env (f : σ → σ)

/-- Carry out one move; a move that names no call in progress does nothing. -/
def exec (act : Handler ρ σ) (c : Config ρ σ α) : Move ρ σ α → Config ρ σ α
  | .invoke p => ⟨c.state, p :: c.calls⟩
  | .advance i =>
    match c.calls[i]? with
    | none => c
    | some (.done _) => ⟨c.state, c.calls.take i ++ c.calls.drop (i + 1)⟩
    | some (.atomic l next) =>
      match act l c.state with
      | (none, s') => ⟨s', c.calls.take i ++ c.calls.drop (i + 1)⟩
      | (some r, s') => ⟨s', c.calls.take i ++ next r :: c.calls.drop (i + 1)⟩
  | .env f => ⟨f c.state, c.calls⟩

variable (S) in
/-- The move is one of the system: an invocable call, a section that meets the
guard, or a move of the environment. -/
def Allows (c : Config ρ σ α) : Move ρ σ α → Prop
  | .invoke p => S.invocable p
  | .advance i =>
    match c.calls[i]? with
    | some (.atomic l _) => S.guard l c.state
    | _ => True
  | .env f => S.env c.state (f c.state)

variable (S) in
/-- Every move of the schedule is allowed where it is made. -/
def Schedule : Config ρ σ α → List (Move ρ σ α) → Prop
  | _, [] => True
  | c, m :: moves => S.Allows c m ∧ Schedule (exec S.act c m) moves

/-- An allowed move is made of steps of the system (of none, when it names no call). -/
theorem steps_exec {c : Config ρ σ α} {m : Move ρ σ α} (hm : S.Allows c m) :
    Relation.ReflTransGen S.Step c (exec S.act c m) := by
  cases m with
  | invoke p => exact .single (.invoke p hm)
  | env f => exact .single (.env hm)
  | advance i =>
      rcases hi : c.calls[i]? with _ | p
      · -- the move names no call
        simpa [System.exec, hi] using Relation.ReflTransGen.refl
      have hsplit : c = ⟨c.state, c.calls.take i ++ p :: c.calls.drop (i + 1)⟩ := by
        obtain ⟨hlt, rfl⟩ := List.getElem?_eq_some_iff.mp hi
        simp
      cases p with
      | done a =>
          simp only [System.exec, hi]
          have hstep : S.Step ⟨c.state, c.calls.take i ++ .done a :: c.calls.drop (i + 1)⟩ _ :=
            .finish _ _
          rw [← hsplit] at hstep
          exact .single hstep
      | atomic l next =>
          have hg : S.guard l c.state := by simpa [Allows, hi] using hm
          simp only [System.exec, hi]
          rcases ha : S.act l c.state with ⟨_ | r, s'⟩
          · have hstep : S.Step
                ⟨c.state, c.calls.take i ++ .atomic l next :: c.calls.drop (i + 1)⟩ _ :=
              .panic _ _ hg ha
            rw [← hsplit] at hstep
            exact .single hstep
          · have hstep : S.Step
                ⟨c.state, c.calls.take i ++ .atomic l next :: c.calls.drop (i + 1)⟩ _ :=
              .exec _ _ hg ha
            rw [← hsplit] at hstep
            exact .single hstep

theorem steps_schedule {c : Config ρ σ α} {moves : List (Move ρ σ α)} (hm : S.Schedule c moves) :
    Relation.ReflTransGen S.Step c (moves.foldl (System.exec S.act) c) := by
  induction moves generalizing c with
  | nil => exact .refl
  | cons m moves ih => exact (steps_exec hm.1).trans (ih hm.2)

/-- An explicit schedule leads to a reachable configuration. -/
theorem Reachable.schedule {c : Config ρ σ α} (h : S.Reachable c) {moves : List (Move ρ σ α)}
    (hm : S.Schedule c moves) : S.Reachable (moves.foldl (System.exec S.act) c) :=
  h.steps (steps_schedule hm)

/-- Carry out the moves of a schedule one whole call after the other. -/
def seqExec (act : Handler ρ σ) (s : σ) : Move ρ σ α → σ
  | .invoke p => (p.run act s).2
  | .advance _ => s
  | .env f => f s

variable (S) in
/-- Every call of the schedule is invocable, and every move of the environment
is one from any state. -/
def Admits : List (Move ρ σ α) → Prop
  | [] => True
  | .invoke p :: moves => S.invocable p ∧ Admits moves
  | .advance _ :: moves => Admits moves
  | .env f :: moves => (∀ s, S.env s (f s)) ∧ Admits moves

/-- Where the guard holds everywhere, no move needs a look at the state. -/
theorem schedule_of_admits (hg : ∀ l s, S.guard l s) {moves : List (Move ρ σ α)}
    (hm : S.Admits moves) (c : Config ρ σ α) : S.Schedule c moves := by
  induction moves generalizing c with
  | nil => trivial
  | cons m moves ih =>
      cases m with
      | invoke p => exact ⟨hm.1, ih hm.2 _⟩
      | env f => exact ⟨hm.1 _, ih hm.2 _⟩
      | advance i =>
          refine ⟨?_, ih hm _⟩
          simp only [Allows]
          split
          · exact hg _ _
          · trivial

variable (S) in
/-- Every move of the schedule is allowed where it is made, one whole call after the other. -/
def SeqSchedule : σ → List (Move ρ σ α) → Prop
  | _, [] => True
  | s, .invoke p :: moves =>
    S.invocable p ∧ p.Guarded S.act S.guard s ∧ SeqSchedule (p.run S.act s).2 moves
  | s, .advance _ :: moves => SeqSchedule s moves
  | s, .env f :: moves => S.env s (f s) ∧ SeqSchedule (f s) moves

theorem SeqReachable.schedule {s : σ} (h : S.SeqReachable s) {moves : List (Move ρ σ α)}
    (hm : S.SeqSchedule s moves) : S.SeqReachable (moves.foldl (seqExec S.act) s) := by
  induction moves generalizing s with
  | nil => exact h
  | cons m moves ih =>
      cases m with
      | invoke p => exact ih (h.step (.call p hm.1 hm.2.1)) hm.2.2
      | env f => exact ih (h.step (.env hm.1)) hm.2
      | advance i => exact ih h hm

theorem seqSchedule_of_admits (hg : ∀ l s, S.guard l s) {moves : List (Move ρ σ α)}
    (hm : S.Admits moves) (s : σ) : S.SeqSchedule s moves := by
  induction moves generalizing s with
  | nil => trivial
  | cons m moves ih =>
      cases m with
      | invoke p => exact ⟨hm.1, Prog.guarded_of_forall hg p s, ih hm.2 _⟩
      | env f => exact ⟨hm.1 s, ih hm.2 _⟩
      | advance i => exact ih hm s

end System

end Interleave
