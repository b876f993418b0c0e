import NautiFabric.Lib.Interleave

/-!
# What a call comes to, and in what company it runs

`Yields` is the postcondition of a call over all replies that its sections can give, so it
holds however the call is interleaved. `System.Step.among` says that the steps of a pool of
calls are steps of every larger pool, in whatever order the calls stand in it.
-/

universe u v w x

namespace Interleave

variable {ℓ : Type u} {ρ : ℓ → Type u} {σ : Type w}

namespace Prog

variable {α : Type v} {β : Type x} {act : Handler ρ σ} {P Q : α → Prop}

/-- Whatever the sections reply, the result is as `P` says. -/
def Yields (act : Handler ρ σ) (P : α → Prop) : Prog ρ α → Prop
  | done a => P a
  | atomic l next => ∀ s r, (act l s).1 = some r → (next r).Yields act P

theorem Yields.mono {p : Prog ρ α} (h : p.Yields act P) (hPQ : ∀ a, P a → Q a) :
    p.Yields act Q := by
  induction p with
  | done a => exact hPQ a h
  | atomic l next ih => exact fun s r hr => ih r (h s r hr)

theorem Yields.bind {R : β → Prop} {p : Prog ρ α} {f : α → Prog ρ β} (hp : p.Yields act P)
    (hf : ∀ a, P a → (f a).Yields act R) : (p.bind f).Yields act R := by
  induction p with
  | done a => exact hf a hp
  | atomic l next ih => exact fun s r hr => ih r (hp s r hr)

end Prog

namespace System

variable {α : Type v} {S : System ρ σ α}

/-- A step of some calls is a step of a pool in which they stand. -/
theorem Step.among {s s' : σ} {calls calls' pool others : List (Prog ρ α)}
    (h : S.Step ⟨s, calls⟩ ⟨s', calls'⟩) (hpool : pool.Perm (calls ++ others)) :
    ∃ pool', S.Step ⟨s, pool⟩ ⟨s', pool'⟩ ∧ pool'.Perm (calls' ++ others) := by
  -- a call that moves is found in the pool, and the rest stays as it is
  have hfind : ∀ (p : Prog ρ α) (before after : List (Prog ρ α)),
      pool.Perm (before ++ p :: after ++ others) →
      ∃ pre post, pool = pre ++ p :: post ∧ (pre ++ post).Perm (before ++ after ++ others) := by
    intro p before after hperm
    have hmem : p ∈ pool := hperm.mem_iff.mpr (by simp)
    obtain ⟨pre, post, rfl⟩ := List.append_of_mem hmem
    refine ⟨pre, post, rfl, ?_⟩
    have hfront : (p :: (pre ++ post)).Perm (p :: (before ++ after ++ others)) := by
      refine List.perm_middle.symm.trans (hperm.trans ?_)
      rw [List.append_assoc, List.append_assoc, List.cons_append]
      exact List.perm_middle
    exact hfront.cons_inv
  cases h with
  | invoke p hp => exact ⟨p :: pool, .invoke p hp, hpool.cons p⟩
  | @exec _ _ before after l next r hg ha =>
      obtain ⟨pre, post, rfl, hrest⟩ := hfind _ _ _ hpool
      refine ⟨pre ++ next r :: post, .exec pre post hg ha, List.perm_middle.trans ?_⟩
      refine (hrest.cons (next r)).trans ?_
      rw [List.append_assoc, List.append_assoc, List.cons_append]
      exact List.perm_middle.symm
  | @panic _ _ before after l next hg ha =>
      obtain ⟨pre, post, rfl, hrest⟩ := hfind _ _ _ hpool
      exact ⟨pre ++ post, .panic pre post hg ha, hrest⟩
  | finish before after =>
      obtain ⟨pre, post, rfl, hrest⟩ := hfind _ _ _ hpool
      exact ⟨pre ++ post, .finish pre post, hrest⟩
  | env he => exact ⟨pool, .env he, hpool⟩

end System

end Interleave
