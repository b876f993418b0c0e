import Mathlib.Data.List.Basic
import NautiFabric.Lib.Interleave

/-!
# Rely and guarantee

Calls run side by side on one state, section by section, and each keeps its place when it
has ended. A call that has stopped for good is one that is never advanced again, so a run
may leave any call behind between two of its sections.

* `Safe` is what one call owes: whatever the others do between its sections, as long as
  they keep to what it relies on, each of its sections keeps the invariant and does what
  it guarantees, and its result meets the postcondition from then on.
* `Safe.bind` is the rule for one call after another within a call.
* `Sound.of_reachable` is the rule for calls side by side: where every guarantee is one to
  rely on, the calls of every run are safe.
* `Reachable.schedule` turns an explicit schedule into a run.
-/

namespace RelyGuarantee

open Interleave

universe u v w x

variable {ℓ : Type u} {ρ : ℓ → Type u} {σ : Type w} {α : Type v}

/-- What a section replies, and the state it leaves. -/
abbrev Effect (ρ : ℓ → Type u) (σ : Type w) := (l : ℓ) → σ → ρ l × σ

/-- A call, with the state that it began in. -/
structure Call (ρ : ℓ → Type u) (σ : Type w) (α : Type v) where
  began : σ
  prog : Prog ρ α

structure Pool (ρ : ℓ → Type u) (σ : Type w) (α : Type v) where
  state : σ
  calls : List (Call ρ σ α)

/-- One move: a call begins, or the `i`-th call runs its next section. -/
inductive Step (act : Effect ρ σ) (invocable : Prog ρ α → Prop) :
    Pool ρ σ α → Pool ρ σ α → Prop
  | begin {c : Pool ρ σ α} (p : Prog ρ α) (hp : invocable p) :
      Step act invocable c ⟨c.state, c.calls ++ [⟨c.state, p⟩]⟩
  | advance {c : Pool ρ σ α} (i : ℕ) {began : σ} {l : ℓ} {next : ρ l → Prog ρ α}
      (h : c.calls[i]? = some ⟨began, .atomic l next⟩) :
      Step act invocable c
        ⟨(act l c.state).2, c.calls.set i ⟨began, next (act l c.state).1⟩⟩

/-- Reached from an initial state with no call. -/
def Reachable (act : Effect ρ σ) (invocable : Prog ρ α → Prop) (init : σ → Prop)
    (c : Pool ρ σ α) : Prop :=
  ∃ s, init s ∧ Relation.ReflTransGen (Step act invocable) ⟨s, []⟩ c

/-- What a call relies on: an invariant, and what the others may do. -/
structure Rely (σ : Type w) where
  inv : σ → Prop
  rel : σ → σ → Prop
  refl : ∀ s, rel s s
  trans : ∀ {s₁ s₂ s₃}, rel s₁ s₂ → rel s₂ s₃ → rel s₁ s₃

/-! ## One call -/

section Safe

variable {act : Effect ρ σ} {R : Rely σ} {guar : σ → σ → Prop} {s s' : σ}

/-- The call does its part from `s` on, whatever is done between its sections. -/
def Safe (act : Effect ρ σ) (R : Rely σ) (guar : σ → σ → Prop) (post : α → σ → Prop) :
    Prog ρ α → σ → Prop
  | .done a, s => ∀ s', R.rel s s' → R.inv s' → post a s'
  | .atomic l next, s =>
    ∀ s', R.rel s s' → R.inv s' →
      guar s' (act l s').2 ∧ R.inv (act l s').2 ∧
        Safe act R guar post (next (act l s').1) (act l s').2

variable {post : α → σ → Prop} {p : Prog ρ α}

/-- What the others do leaves a call safe. -/
theorem Safe.stable (h : Safe act R guar post p s) (hrel : R.rel s s') :
    Safe act R guar post p s' := by
  cases p with
  | done a =>
      intro s'' hrel' hinv
      exact h s'' (R.trans hrel hrel') hinv
  | atomic l next =>
      intro s'' hrel' hinv
      exact h s'' (R.trans hrel hrel') hinv

/-- A result is safe if what it promises is not undone. -/
theorem safe_done {a : α} (h : ∀ s', R.rel s s' → R.inv s' → post a s') :
    Safe act R guar post (.done a : Prog ρ α) s := h

theorem safe_atomic {l : ℓ} {next : ρ l → Prog ρ α}
    (h : ∀ s', R.rel s s' → R.inv s' → guar s' (act l s').2 ∧ R.inv (act l s').2 ∧
      Safe act R guar post (next (act l s').1) (act l s').2) :
    Safe act R guar post (.atomic l next) s := h

/-- A section that changes nothing. -/
theorem safe_query {l : ℓ} {next : ρ l → Prog ρ α} (hguar : ∀ s, guar s s)
    (hsame : ∀ s, (act l s).2 = s)
    (h : ∀ s', R.rel s s' → R.inv s' → Safe act R guar post (next (act l s').1) s') :
    Safe act R guar post (.atomic l next) s := by
  intro s' hrel hinv
  rw [hsame]
  exact ⟨hguar s', hinv, h s' hrel hinv⟩

/-- Sequencing, through the postcondition of the first part. -/
theorem Safe.bind {β : Type x} {post' : β → σ → Prop} {f : α → Prog ρ β}
    (hp : Safe act R guar post p s)
    (hf : ∀ a s, R.inv s → post a s → Safe act R guar post' (f a) s) (hinv : R.inv s) :
    Safe act R guar post' (p.bind f) s := by
  induction p generalizing s with
  | done a => exact hf a s hinv (hp s (R.refl s) hinv)
  | atomic l next ih =>
      intro s' hrel hinv'
      obtain ⟨hguar, hkeep, hnext⟩ := hp s' hrel hinv'
      exact ⟨hguar, hkeep, ih _ hnext hkeep⟩

end Safe

/-! ## Side by side -/

/-- Every call that may be made is safe, and what it guarantees the others may rely on.
What a call guarantees depends on the state that it began in. -/
structure Sound (act : Effect ρ σ) (invocable : Prog ρ α → Prop) (R : Rely σ)
    (guar : σ → σ → σ → Prop) (post : α → σ → Prop) : Prop where
  safe : ∀ p, invocable p → ∀ s, R.inv s → Safe act R (guar s) post p s
  keeps : ∀ {began s s'}, guar began s s' → R.rel s s'

namespace Sound

variable {act : Effect ρ σ} {invocable : Prog ρ α → Prop} {R : Rely σ} {guar : σ → σ → σ → Prop}
  {post : α → σ → Prop} {init : σ → Prop} {c : Pool ρ σ α}

theorem of_reachable (h : Sound act invocable R guar post) (hinit : ∀ s, init s → R.inv s)
    (hreach : Reachable act invocable init c) :
    R.inv c.state ∧ ∀ call ∈ c.calls,
      Safe act R (guar call.began) post call.prog c.state := by
  obtain ⟨s, hs, hsteps⟩ := hreach
  -- on the steps of the run; the call that moves is safe by its own, the others by reliance
  induction hsteps with
  | refl => exact ⟨hinit s hs, List.forall_mem_nil _⟩
  | tail _ hstep ih =>
      obtain ⟨hinv, hcalls⟩ := ih
      cases hstep with
      | begin p hp =>
          refine ⟨hinv, ?_⟩
          intro call hcall
          rcases List.mem_append.mp hcall with hcall | hcall
          · exact hcalls call hcall
          · rw [List.mem_singleton.mp hcall]
            exact h.safe p hp _ hinv
      | advance i hi =>
          obtain ⟨hguar, hkeep, hnext⟩ := hcalls _ (List.mem_of_getElem? hi) _ (R.refl _) hinv
          refine ⟨hkeep, ?_⟩
          intro call hcall
          rcases List.mem_or_eq_of_mem_set hcall with hcall | rfl
          · exact (hcalls call hcall).stable (h.keeps hguar)
          · exact hnext

/-- What a call has returned is still so. -/
theorem post_of_done (h : Sound act invocable R guar post) (hinit : ∀ s, init s → R.inv s)
    (hreach : Reachable act invocable init c) {call : Call ρ σ α} (hcall : call ∈ c.calls) {a : α}
    (ha : call.prog = .done a) : post a c.state := by
  obtain ⟨hinv, hcalls⟩ := h.of_reachable hinit hreach
  have hsafe := hcalls call hcall
  rw [ha] at hsafe
  exact hsafe c.state (R.refl _) hinv

/-- What a call does next is what it guarantees. -/
theorem guar_of_atomic (h : Sound act invocable R guar post) (hinit : ∀ s, init s → R.inv s)
    (hreach : Reachable act invocable init c) {call : Call ρ σ α} (hcall : call ∈ c.calls) {l : ℓ}
    {next : ρ l → Prog ρ α} (hl : call.prog = .atomic l next) :
    guar call.began c.state (act l c.state).2 := by
  obtain ⟨hinv, hcalls⟩ := h.of_reachable hinit hreach
  have hsafe := hcalls call hcall
  rw [hl] at hsafe
  exact (hsafe c.state (R.refl _) hinv).1

end Sound

/-! ## Explicit schedules -/

variable (ρ α) in
/-- A move of a scheduler. -/
inductive Move where
  | begin (p : Prog ρ α)
  | advance (i : ℕ)

/-- Carry out one move; one that names no call that goes on does nothing. -/
def exec (act : Effect ρ σ) (c : Pool ρ σ α) : Move ρ α → Pool ρ σ α
  | .begin p => ⟨c.state, c.calls ++ [⟨c.state, p⟩]⟩
  | .advance i =>
    match c.calls[i]? with
    | some ⟨began, .atomic l next⟩ =>
      ⟨(act l c.state).2, c.calls.set i ⟨began, next (act l c.state).1⟩⟩
    | _ => c

/-- Every call that begins is one that may be made. -/
def Admits (invocable : Prog ρ α → Prop) (moves : List (Move ρ α)) : Prop :=
  ∀ p, .begin p ∈ moves → invocable p

theorem Reachable.schedule {act : Effect ρ σ} {invocable : Prog ρ α → Prop} {init : σ → Prop}
    {c : Pool ρ σ α} (h : Reachable act invocable init c) {moves : List (Move ρ α)}
    (hmoves : Admits invocable moves) :
    Reachable act invocable init (moves.foldl (exec act) c) := by
  induction moves generalizing c with
  | nil => exact h
  | cons move moves ih =>
      refine ih ?_ fun p hp => hmoves p (List.mem_cons_of_mem _ hp)
      obtain ⟨s, hs, hsteps⟩ := h
      cases move with
      | begin p => exact ⟨s, hs, hsteps.tail (.begin p (hmoves p List.mem_cons_self))⟩
      | advance i =>
          unfold exec
          dsimp only
          split
          · rename_i hi
            exact ⟨s, hs, hsteps.tail (.advance i hi)⟩
          · exact ⟨s, hs, hsteps⟩

end RelyGuarantee
