import Mathlib

/-!
# Arithmetic and slices that are checked

The operations of a program whose additions may not overflow and whose slices may not
reach over the end, in `Except Panic`, and a loop made of rounds that may panic.

* `Progress` is what to prove of a round: an invariant under which it does not panic, and
  a measure that falls in every round that goes on.
* `Progress.of_reached` says from it that the invariant holds between any two rounds, and
  `Progress.loop_eq_ok` that the loop ends, without a panic, in fewer rounds than any
  fuel above the measure.
-/

universe u

namespace Checked

inductive Panic where
  | overflow
  | outOfBounds

variable {α : Type u} {σ : Type*}

/-- `a + b` on integers of `w` bits. -/
def add (w a b : ℕ) : Except Panic ℕ :=
  if a + b < 2 ^ w then .ok (a + b) else .error .overflow

/-- `l[start..stop]`, which is a panic unless `start ≤ stop ≤ l.length`. -/
def slice (l : List α) (start stop : ℕ) : Except Panic (List α) :=
  if start ≤ stop ∧ stop ≤ l.length then .ok ((l.take stop).drop start)
  else .error .outOfBounds

theorem add_eq_ok_iff {w a b c : ℕ} : add w a b = .ok c ↔ a + b < 2 ^ w ∧ c = a + b := by
  unfold add
  split_ifs with hfits
  · rw [Except.ok.injEq, eq_comm]
    exact (and_iff_right hfits).symm
  · constructor
    · intro h
      cases h
    · rintro ⟨h, -⟩
      exact absurd h hfits

theorem slice_eq_ok_iff {l part : List α} {start stop : ℕ} :
    slice l start stop = .ok part ↔
      start ≤ stop ∧ stop ≤ l.length ∧ part = (l.take stop).drop start := by
  unfold slice
  split_ifs with hbounds
  · rw [Except.ok.injEq, ← and_assoc, eq_comm]
    exact (and_iff_right hbounds).symm
  · constructor
    · intro h
      cases h
    · rintro ⟨hstart, hstop, -⟩
      exact absurd ⟨hstart, hstop⟩ hbounds

theorem slice_zero {l : List α} {stop : ℕ} (h : stop ≤ l.length) :
    slice l 0 stop = .ok (l.take stop) :=
  slice_eq_ok_iff.mpr ⟨Nat.zero_le stop, h, rfl⟩

theorem slice_length {l : List α} {start : ℕ} (h : start ≤ l.length) :
    slice l start l.length = .ok (l.drop start) :=
  slice_eq_ok_iff.mpr ⟨h, Nat.le_refl _, by rw [List.take_length]⟩

@[simp] theorem ok_bind {β : Type u} (a : α) (f : α → Except Panic β) :
    (Except.ok a >>= f) = f a := rfl

/-! ## Loops -/

/-- A loop of rounds, which ends where a round gives `none`. `none` is the answer where
`fuel` rounds do not end it. -/
def loop (round : σ → Except Panic (Option σ)) : ℕ → σ → Except Panic (Option σ)
  | 0, _ => .ok none
  | fuel + 1, s =>
    match round s with
    | .error e => .error e
    | .ok none => .ok (some s)
    | .ok (some s') => loop round fuel s'

/-- The states that a loop is in before its rounds. -/
inductive Reached (round : σ → Except Panic (Option σ)) (first : σ) : σ → Prop
  | first : Reached round first first
  | next {s s' : σ} : Reached round first s → round s = .ok (some s') → Reached round first s'

/-- Under `inv` a round does not panic, and one that goes on keeps `inv` and lowers
`measure`. -/
structure Progress (round : σ → Except Panic (Option σ)) (inv : σ → Prop) (measure : σ → ℕ) :
    Prop where
  safe : ∀ s, inv s → ∃ next, round s = .ok next
  keeps : ∀ s s', inv s → round s = .ok (some s') → inv s'
  falls : ∀ s s', inv s → round s = .ok (some s') → measure s' < measure s

namespace Progress

variable {round : σ → Except Panic (Option σ)} {inv : σ → Prop} {measure : σ → ℕ} {first s : σ}

theorem of_reached (h : Progress round inv measure) (hfirst : inv first)
    (hreached : Reached round first s) : inv s := by
  induction hreached with
  | first => exact hfirst
  | next _ hround ih => exact h.keeps _ _ ih hround

theorem loop_eq_ok (h : Progress round inv measure) {fuel : ℕ} (hfirst : inv first)
    (hfuel : measure first < fuel) :
    ∃ s, loop round fuel first = .ok (some s) ∧ inv s ∧ round s = .ok none := by
  induction fuel generalizing first with
  | zero => exact absurd hfuel (Nat.not_lt_zero _)
  | succ fuel ih =>
      unfold loop
      obtain ⟨next, hround⟩ := h.safe first hfirst
      rw [hround]
      cases next with
      | none => exact ⟨first, rfl, hfirst, hround⟩
      | some s' =>
          -- one unit of fuel for one step down
          have hfalls := h.falls first s' hfirst hround
          exact ih (h.keeps first s' hfirst hround) (by omega)

end Progress

end Checked
