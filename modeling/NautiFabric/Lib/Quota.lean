import Mathlib

/-!
# Quotas by the period

What a limiter with periods of its own promises, said about its history alone: when it
began a period, and how much it let through. A history has its newest event first, and
`first` is the start of the period that it began with.

* `windows` reads off a history how much was let through in each period.
* `Limits` is the promise: never more than `most` in one period, and no period begun
  before the one before it had ended.
* `Tracks` connects the state of a limiter, which is the start of its period and what is
  left of the quota, to its history. Beginning a period and letting something through keep
  it, so a limiter that does nothing else keeps the promise.
-/

namespace Quota

inductive Event (τ : Type*) where
  | opening (t : τ)
  | spend (n : ℕ)

/-- One period. -/
structure Window (τ : Type*) where
  start : τ
  spent : ℕ

variable {τ : Type*} {ended : τ → τ → Prop} {most : ℕ} {first start t : τ} {left n : ℕ}
  {h : List (Event τ)}

/-- The periods of a history, the current one first. -/
def windows (first : τ) : List (Event τ) → List (Window τ)
  | [] => [⟨first, 0⟩]
  | .opening t :: h => ⟨t, 0⟩ :: windows first h
  | .spend n :: h => (windows first h).modifyHead fun w => { w with spent := w.spent + n }

/-- `ended a b` says that at `b` a period has ended that began at `a`. -/
structure Limits (ended : τ → τ → Prop) (most : ℕ) (first : τ) (h : List (Event τ)) :
    Prop where
  spent_le : ∀ w ∈ windows first h, w.spent ≤ most
  ended : (windows first h).IsChain fun later earlier => ended earlier.start later.start

/-- The period in `start` is the current one, and `left` is what its quota has left. -/
structure Tracks (ended : τ → τ → Prop) (most : ℕ) (first : τ) (h : List (Event τ)) (start : τ)
    (left : ℕ) : Prop where
  limits : Limits ended most first h
  left_le : left ≤ most
  current : ∃ older, windows first h = ⟨start, most - left⟩ :: older

namespace Tracks

theorem init (ended : τ → τ → Prop) (most : ℕ) (first : τ) :
    Tracks ended most first [] first most where
  limits := by
    constructor
    · intro w hw
      rw [List.mem_singleton.mp hw]
      exact Nat.zero_le most
    · exact List.isChain_singleton _
  left_le := le_rfl
  current := ⟨[], by rw [Nat.sub_self]; rfl⟩

/-- A new period, with all of the quota. -/
theorem opening (htracks : Tracks ended most first h start left) (hended : ended start t) :
    Tracks ended most first (.opening t :: h) t most := by
  obtain ⟨older, hcurrent⟩ := htracks.current
  have hwindows : windows first (.opening t :: h) = ⟨t, 0⟩ :: windows first h := rfl
  constructor
  case limits =>
    constructor
    · rw [hwindows]
      intro w hw
      rcases List.mem_cons.mp hw with rfl | hw
      · exact Nat.zero_le most
      · exact htracks.limits.spent_le w hw
    · have hchain := htracks.limits.ended
      rw [hwindows]
      rw [hcurrent] at hchain ⊢
      exact List.isChain_cons_cons.mpr ⟨hended, hchain⟩
  case left_le => exact le_rfl
  case current =>
    rw [Nat.sub_self]
    exact ⟨windows first h, hwindows⟩

/-- No more is let through than is left. -/
theorem spend (htracks : Tracks ended most first h start left) (hn : n ≤ left) :
    Tracks ended most first (.spend n :: h) start (left - n) := by
  obtain ⟨older, hcurrent⟩ := htracks.current
  have hle := htracks.left_le
  have hspent : most - left + n = most - (left - n) := by omega
  have hwindows : windows first (.spend n :: h) = ⟨start, most - (left - n)⟩ :: older := by
    unfold windows
    rw [hcurrent, List.modifyHead_cons, hspent]
  constructor
  case limits =>
    constructor
    · rw [hwindows]
      intro w hw
      rcases List.mem_cons.mp hw with rfl | hw
      · exact Nat.sub_le most (left - n)
      · refine htracks.limits.spent_le w ?_
        rw [hcurrent]
        exact List.mem_cons_of_mem _ hw
    · have hchain := htracks.limits.ended
      rw [hcurrent] at hchain
      rw [hwindows]
      -- only the start of a period counts for the chain
      rcases older with _ | ⟨w, older⟩
      · exact List.isChain_singleton _
      · rw [List.isChain_cons_cons] at hchain ⊢
        exact hchain
  case left_le => omega
  case current => exact ⟨older, hwindows⟩

end Tracks

end Quota
