import Mathlib

/-!
# Digits in columns of a fixed width

`Digits.fixed b k n` are the `k` lowest digits of `n` in base `b`, the highest
first. Printed numbers, padded with zeros or not, are digits in columns
(`leftpad_toDigits`), and cutting the front off takes the number modulo a power
of the base (`drop_fixed`, `fixed_mod`).
-/

namespace Digits

variable {b : ℕ}

def fixed (b : ℕ) : ℕ → ℕ → List Char
  | 0, _ => []
  | k + 1, n => fixed b k (n / b) ++ [Nat.digitChar (n % b)]

@[simp] theorem length_fixed (b k n : ℕ) : (fixed b k n).length = k := by
  induction k generalizing n with
  | zero => rfl
  | succ k ih => simp [fixed, ih]

/-- Every column is the digit of a number below the base. -/
theorem of_mem_fixed (hb : 0 < b) {k n : ℕ} {c : Char} (h : c ∈ fixed b k n) :
    ∃ d < b, c = Nat.digitChar d := by
  induction k generalizing n with
  | zero => cases h
  | succ k ih =>
      rcases List.mem_append.mp h with hfront | hlast
      · exact ih hfront
      · exact ⟨n % b, Nat.mod_lt n hb, List.mem_singleton.mp hlast⟩

/-- The columns do not see what is above them. -/
theorem fixed_mod (b k n : ℕ) : fixed b k (n % b ^ k) = fixed b k n := by
  induction k generalizing n with
  | zero => rfl
  | succ k ih =>
      have hfront : n % b ^ (k + 1) / b = n / b % b ^ k := by
        rw [pow_succ', Nat.mod_mul_right_div_self]
      have hlast : n % b ^ (k + 1) % b = n % b :=
        Nat.mod_mod_of_dvd n (dvd_pow_self b (Nat.succ_ne_zero k))
      rw [fixed, fixed, hfront, hlast, ih]

/-- The lowest columns. -/
theorem drop_fixed (b j k n : ℕ) : (fixed b (j + k) n).drop j = fixed b k n := by
  induction k generalizing n with
  | zero =>
      apply List.drop_eq_nil_of_le
      rw [length_fixed, Nat.add_zero]
  | succ k ih =>
      rw [← Nat.add_assoc, fixed, fixed]
      rw [List.drop_append_of_le_length (by rw [length_fixed]; omega), ih]

theorem fixed_zero (b k : ℕ) : fixed b k 0 = List.replicate k '0' := by
  induction k with
  | zero => rfl
  | succ k ih =>
      rw [fixed, Nat.zero_div, Nat.zero_mod, ih, List.replicate_succ']
      rfl

/-- A number that fits has zeros in the columns above. -/
theorem fixed_add (hb : 0 < b) (j : ℕ) {k n : ℕ} (hn : n < b ^ k) :
    fixed b (j + k) n = List.replicate j '0' ++ fixed b k n := by
  induction k generalizing n with
  | zero =>
      have hzero : n = 0 := by simpa using hn
      rw [hzero, Nat.add_zero, fixed_zero, fixed, List.append_nil]
  | succ k ih =>
      have hfront : n / b < b ^ k := by
        rw [Nat.div_lt_iff_lt_mul hb, ← pow_succ]
        exact hn
      rw [← Nat.add_assoc, fixed, fixed, ih hfront, List.append_assoc]

/-- A number printed without padding fills as many columns as it has digits. -/
theorem toDigits_eq_fixed (hb : 1 < b) (n : ℕ) :
    n < b ^ (Nat.toDigits b n).length ∧
      Nat.toDigits b n = fixed b (Nat.toDigits b n).length n := by
  induction n using Nat.strong_induction_on with
  | h n ih =>
      by_cases hlt : n < b
      · rw [Nat.toDigits_of_lt_base hlt]
        refine ⟨by simpa using hlt, ?_⟩
        simp [fixed, Nat.mod_eq_of_lt hlt]
      · have hless : n / b < n := Nat.div_lt_self (by omega) hb
        obtain ⟨hfits, hdigits⟩ := ih (n / b) hless
        rw [Nat.toDigits_of_base_le hb (by omega), List.length_append]
        constructor
        · rw [List.length_singleton, pow_succ]
          exact (Nat.div_lt_iff_lt_mul (by omega)).mp hfits
        · rw [List.length_singleton, fixed, ← hdigits]

/-- A number printed in at least `w` columns, with zeros in front. -/
theorem leftpad_toDigits (hb : 1 < b) (w n : ℕ) :
    ∃ k, w ≤ k ∧ n < b ^ k ∧ (Nat.toDigits b n).leftpad w '0' = fixed b k n := by
  obtain ⟨hfits, hdigits⟩ := toDigits_eq_fixed hb n
  refine ⟨w - (Nat.toDigits b n).length + (Nat.toDigits b n).length, by omega, ?_, ?_⟩
  · exact hfits.trans_le (Nat.pow_le_pow_right (by omega) (by omega))
  · rw [fixed_add (by omega) _ hfits, ← hdigits]
    rfl

/-- A number that fits into `w` columns is printed in just these. -/
theorem leftpad_toDigits_of_lt (hb : 1 < b) {w n : ℕ} (hw : 0 < w) (hn : n < b ^ w) :
    (Nat.toDigits b n).leftpad w '0' = fixed b w n := by
  obtain ⟨hfits, hdigits⟩ := toDigits_eq_fixed hb n
  have hlength := (Nat.length_toDigits_le_iff hb hw).mpr hn
  have hcolumns : w = w - (Nat.toDigits b n).length + (Nat.toDigits b n).length := by omega
  calc (Nat.toDigits b n).leftpad w '0'
      = List.replicate (w - (Nat.toDigits b n).length) '0' ++ Nat.toDigits b n := rfl
    _ = fixed b (w - (Nat.toDigits b n).length + (Nat.toDigits b n).length) n := by
        rw [fixed_add (by omega) _ hfits, ← hdigits]
    _ = fixed b w n := by rw [← hcolumns]

end Digits
