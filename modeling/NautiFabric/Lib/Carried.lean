import NautiFabric.Lib.Interleave

/-!
# What a call carries from one section to the next

Between two sections of a call the others run, so what the call saw may no longer hold. What
it can carry on are facts that later states keep. `Carries` says that a call only asks for
sections that are wanted in the states it comes to ask for them, however far the state has
moved on along `later` in the meantime; `Reachable.carried` proves an invariant with that
knowledge.
-/

universe u v w

namespace Interleave

variable {ℓ : Type u} {ρ : ℓ → Type u} {σ : Type w} {α β : Type v}

namespace Prog

/-- From `s` on, each section of the call is wanted where it comes to run. -/
def Carries (act : Handler ρ σ) (I : σ → Prop) (later : σ → σ → Prop) (want : ℓ → σ → Prop) :
    Prog ρ α → σ → Prop
  | done _, _ => True
  | atomic l next, s => ∀ s₁, later s s₁ → I s₁ →
    want l s₁ ∧ ∀ r s₂, act l s₁ = (some r, s₂) → (next r).Carries act I later want s₂

variable {act : Handler ρ σ} {I : σ → Prop} {later : σ → σ → Prop} {want : ℓ → σ → Prop}

theorem Carries.mono (htrans : ∀ s₁ s₂ s₃, later s₁ s₂ → later s₂ s₃ → later s₁ s₃)
    {p : Prog ρ α} {s s' : σ} (h : p.Carries act I later want s) (hlater : later s s') :
    p.Carries act I later want s' := by
  cases p with
  | done a => trivial
  | atomic l next => exact fun s₁ hs₁ hI => h s₁ (htrans _ _ _ hlater hs₁) hI

/-- A call whose well-formed sections are wanted everywhere. -/
theorem carries_of_sound {wf : ℓ → Prop} {p : Prog ρ α} (h : p.Sound act I wf)
    (hwant : ∀ l s, wf l → want l s) (s : σ) : p.Carries act I later want s := by
  induction p generalizing s with
  | done a => trivial
  | atomic l next ih =>
      intro s₁ _ hI
      refine ⟨hwant l s₁ h.1, ?_⟩
      intro r s₂ hact
      exact ih r (h.2 s₁ r hI (by rw [hact])) s₂

theorem Carries.bind {p : Prog ρ α} {f : α → Prog ρ β} {s : σ}
    (hp : p.Carries act I later want s) (hf : ∀ a s, (f a).Carries act I later want s) :
    (p.bind f).Carries act I later want s := by
  induction p generalizing s with
  | done a => exact hf a s
  | atomic l next ih =>
      intro s₁ hs₁ hI
      obtain ⟨hl, hnext⟩ := hp s₁ hs₁ hI
      exact ⟨hl, fun r s₂ hact => ih r (hnext r s₂ hact)⟩

end Prog

variable {S : System ρ σ α}

/-- Invariance with what the calls carry: a section that is wanted keeps the invariant, and
everything moves the state on along `later`. -/
theorem System.Reachable.carried (I : σ → Prop) (later : σ → σ → Prop) (want : ℓ → σ → Prop)
    (hrefl : ∀ s, later s s)
    (htrans : ∀ s₁ s₂ s₃, later s₁ s₂ → later s₂ s₃ → later s₁ s₃)
    (hinit : ∀ s, S.init s → I s)
    (hcalls : ∀ p s, S.invocable p → p.Carries S.act I later want s)
    (hact : ∀ l s, want l s → S.guard l s → I s → I (S.act l s).2 ∧ later s (S.act l s).2)
    (henv : ∀ s s', S.env s s' → I s → I s' ∧ later s s')
    {c : Config ρ σ α} (h : S.Reachable c) :
    I c.state ∧ ∀ p ∈ c.calls, p.Carries S.act I later want c.state := by
  obtain ⟨s, hs, hr⟩ := h
  induction hr with
  | refl => exact ⟨hinit s hs, by simp⟩
  | tail _ hstep ih =>
      obtain ⟨hI, hp⟩ := ih
      cases hstep with
      | @invoke c p hi =>
          refine ⟨hI, fun q hq => ?_⟩
          rcases List.mem_cons.mp hq with rfl | hq
          · exact hcalls _ _ hi
          · exact hp q hq
      | @exec s s' pre post l next r hg ha =>
          have hl : (Prog.atomic l next).Carries S.act I later want s := hp _ (by simp)
          obtain ⟨hwant, hnext⟩ := hl s (hrefl s) hI
          have hmoved := hact l s hwant hg hI
          rw [ha] at hmoved
          refine ⟨hmoved.1, fun q hq => ?_⟩
          rcases List.mem_append.mp hq with hq | hq
          · exact (hp q (by simp [hq])).mono htrans hmoved.2
          · rcases List.mem_cons.mp hq with rfl | hq
            · exact hnext r s' ha
            · exact (hp q (by simp [hq])).mono htrans hmoved.2
      | @panic s s' pre post l next hg ha =>
          have hl : (Prog.atomic l next).Carries S.act I later want s := hp _ (by simp)
          have hmoved := hact l s (hl s (hrefl s) hI).1 hg hI
          rw [ha] at hmoved
          refine ⟨hmoved.1, fun q hq => ?_⟩
          have hmem : q ∈ pre ++ .atomic l next :: post := by
            rcases List.mem_append.mp hq with hq | hq
            · simp [hq]
            · simp [hq]
          exact (hp q hmem).mono htrans hmoved.2
      | finish =>
          refine ⟨hI, fun q hq => hp q ?_⟩
          rcases List.mem_append.mp hq with hq | hq
          · simp [hq]
          · simp [hq]
      | env he =>
          obtain ⟨hI', hlater⟩ := henv _ _ he hI
          exact ⟨hI', fun q hq => (hp q hq).mono htrans hlater⟩

end Interleave
