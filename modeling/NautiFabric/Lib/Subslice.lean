import Mathlib.Tactic.Common
import Mathlib.Data.List.Basic

/-!
# Searching a list for a sublist of neighbours

`find needle l` looks at every window of `l` that is as long as `needle`, from the
left, and returns where the first one starts that is equal to it. `find_eq_some_iff`
says the same without windows: it is the first place from which `needle` is a prefix
of the rest.
-/

universe u

namespace Subslice

variable {α : Type u}

/-- Every `n` neighbours of a list, from the left. -/
def windows (n : ℕ) (l : List α) : List (List α) :=
  (List.range (l.length + 1 - n)).map fun i => (l.drop i).take n

/-- The place of the first window that is equal to `needle`. -/
def find [DecidableEq α] (needle l : List α) : Option ℕ :=
  (windows needle.length l).findIdx? fun window => window == needle

/-- `needle` starts at `i`, and nowhere before. -/
structure FirstAt (needle l : List α) (i : ℕ) : Prop where
  starts : needle <+: l.drop i
  earlier : ∀ j < i, ¬ needle <+: l.drop j

/-- At `i` starts one of `needles`, and nowhere before does any of them. -/
structure FirstOf (needles : List (List α)) (l : List α) (i : ℕ) : Prop where
  starts : ∃ needle ∈ needles, needle <+: l.drop i
  earlier : ∀ needle ∈ needles, ∀ j < i, ¬ needle <+: l.drop j

variable {needle l l' : List α} {needles : List (List α)} {i : ℕ}

theorem add_length_le_of_starts (hneedle : needle ≠ []) (h : needle <+: l.drop i) :
    i + needle.length ≤ l.length := by
  have hle := h.length_le
  have hpos := List.length_pos_iff.mpr hneedle
  rw [List.length_drop] at hle
  omega

/-- A start in a list stays one when the list goes on. -/
theorem starts_append (l' : List α) (h : needle <+: l.drop i) : needle <+: (l ++ l').drop i := by
  rw [List.drop_append]
  exact h.trans (List.prefix_append _ _)

/-- A start that ends within the first part is one there. -/
theorem starts_of_append (hle : i + needle.length ≤ l.length)
    (h : needle <+: (l ++ l').drop i) : needle <+: l.drop i := by
  rw [List.drop_append_of_le_length (by omega)] at h
  refine List.prefix_of_prefix_length_le h (List.prefix_append _ _) ?_
  rw [List.length_drop]
  omega

theorem window_eq_iff :
    (i < l.length + 1 - needle.length ∧ (l.drop i).take needle.length = needle) ↔
      i ≤ l.length ∧ needle <+: l.drop i := by
  constructor
  · rintro ⟨hi, heq⟩
    refine ⟨by omega, ?_⟩
    rw [← heq]
    exact List.take_prefix _ _
  · rintro ⟨hi, h⟩
    have hle := h.length_le
    rw [List.length_drop] at hle
    exact ⟨by omega, (List.prefix_iff_eq_take.mp h).symm⟩

theorem isInfix_iff_starts : needle <:+: l ↔ ∃ i, needle <+: l.drop i := by
  constructor
  · rintro ⟨before, after, rfl⟩
    refine ⟨before.length, ?_⟩
    rw [List.append_assoc, List.drop_left]
    exact List.prefix_append _ _
  · rintro ⟨i, hstarts⟩
    exact hstarts.isInfix.trans (List.drop_suffix i l).isInfix

theorem FirstOf.unique {j : ℕ} (h : FirstOf needles l i) (h' : FirstOf needles l j) : i = j := by
  obtain ⟨needle, hmem, hstarts⟩ := h.starts
  obtain ⟨needle', hmem', hstarts'⟩ := h'.starts
  have hle : ¬ j < i := fun hlt => h.earlier needle' hmem' j hlt hstarts'
  have hge : ¬ i < j := fun hlt => h'.earlier needle hmem i hlt hstarts
  omega

/-- Two needles of which neither is a prefix of the other do not start at one place. -/
theorem starts_unique {needle' : List α} (h : needle <+: l) (h' : needle' <+: l)
    (hnot : ¬ needle <+: needle') (hnot' : ¬ needle' <+: needle) : False := by
  rcases Nat.le_total needle.length needle'.length with hle | hle
  · exact hnot (List.prefix_of_prefix_length_le h h' hle)
  · exact hnot' (List.prefix_of_prefix_length_le h' h hle)

section Find

variable [DecidableEq α]

theorem find_eq_some_iff (hneedle : needle ≠ []) :
    find needle l = some i ↔ FirstAt needle l i := by
  have hstart (j : ℕ) (h : needle <+: l.drop j) :
      j < l.length + 1 - needle.length ∧ (l.drop j).take needle.length = needle :=
    window_eq_iff.mpr ⟨by have := add_length_le_of_starts hneedle h; omega, h⟩
  unfold find windows
  rw [List.findIdx?_eq_some_iff_getElem]
  simp only [List.length_map, List.length_range, List.getElem_map, List.getElem_range, beq_iff_eq]
  constructor
  · -- a start before `i` would be an equal window before the first one
    rintro ⟨hi, heq, hearlier⟩
    refine ⟨(window_eq_iff.mp ⟨hi, heq⟩).2, ?_⟩
    intro j hj hstarts
    exact hearlier j hj (hstart j hstarts).2
  · rintro ⟨hstarts, hearlier⟩
    obtain ⟨hi, heq⟩ := hstart i hstarts
    refine ⟨hi, heq, ?_⟩
    intro j hj hwindow
    exact hearlier j hj (window_eq_iff.mp ⟨by omega, hwindow⟩).2

theorem find_eq_none_iff (hneedle : needle ≠ []) :
    find needle l = none ↔ ∀ i, ¬ needle <+: l.drop i := by
  constructor
  · intro h i hstarts
    -- a start is a window that the search has seen
    have hwindow := window_eq_iff.mpr
      ⟨by have := add_length_le_of_starts hneedle hstarts; omega, hstarts⟩
    unfold find at h
    rw [List.findIdx?_eq_none_iff] at h
    have hmem : (l.drop i).take needle.length ∈ windows needle.length l :=
      List.mem_map.mpr ⟨i, List.mem_range.mpr hwindow.1, rfl⟩
    have hne := h _ hmem
    rw [hwindow.2, beq_self_eq_true] at hne
    cases hne
  · intro h
    -- what is found is a start
    rcases hfind : find needle l with _ | i
    · rfl
    · exact absurd ((find_eq_some_iff hneedle).mp hfind).starts (h i)

/-- What is found in a list is found in every longer one. -/
theorem find_append (hneedle : needle ≠ []) (h : find needle l = some i) (l' : List α) :
    find needle (l ++ l') = some i := by
  rw [find_eq_some_iff hneedle] at h ⊢
  have hle := add_length_le_of_starts hneedle h.starts
  refine ⟨starts_append l' h.starts, ?_⟩
  intro j hj hstarts
  exact h.earlier j hj (starts_of_append (by omega) hstarts)

/-- A part before the list, from which `needle` does not start, is passed over. -/
theorem find_append_left (hneedle : needle ≠ [])
    (hbefore : ∀ j < l.length, ¬ needle <+: (l ++ l').drop j) :
    find needle (l ++ l') = (find needle l').map (l.length + ·) := by
  have hdrop (j : ℕ) : (l ++ l').drop (l.length + j) = l'.drop j := by
    rw [← List.drop_drop, List.drop_left]
  rcases hfind : find needle l' with _ | i
  · rw [Option.map_none]
    rw [find_eq_none_iff hneedle] at hfind ⊢
    intro j hstarts
    by_cases hj : j < l.length
    · exact hbefore j hj hstarts
    · obtain ⟨k, rfl⟩ : ∃ k, j = l.length + k := ⟨j - l.length, by omega⟩
      exact hfind k (hdrop k ▸ hstarts)
  · rw [Option.map_some]
    rw [find_eq_some_iff hneedle] at hfind ⊢
    refine ⟨by rw [hdrop]; exact hfind.starts, ?_⟩
    intro j hj hstarts
    by_cases hlt : j < l.length
    · exact hbefore j hlt hstarts
    · obtain ⟨k, rfl⟩ : ∃ k, j = l.length + k := ⟨j - l.length, by omega⟩
      exact hfind.earlier k (by omega) (hdrop k ▸ hstarts)

/-- Elements other than its first one are passed over. -/
theorem find_append_of_not_mem {a : α} (hmem : a ∉ l) :
    find (a :: needle) (l ++ l') = (find (a :: needle) l').map (l.length + ·) := by
  refine find_append_left (by simp) ?_
  intro j hj hstarts
  rw [List.drop_append_of_le_length (by omega), List.drop_eq_getElem_cons hj,
    List.cons_append] at hstarts
  exact hmem ((List.cons_prefix_cons.mp hstarts).1 ▸ List.getElem_mem hj)

theorem find_self_append (hneedle : needle ≠ []) (l : List α) :
    find needle (needle ++ l) = some 0 := by
  rw [find_eq_some_iff hneedle]
  exact ⟨List.prefix_append _ _, fun j hj => absurd hj (Nat.not_lt_zero j)⟩

/-- A needle behind a part that it is not in. -/
theorem find_append_self {a : α} (ha : a ∉ needle) (hl : ¬ (a :: needle) <:+: l) (rest : List α) :
    find (a :: needle) (l ++ (a :: needle ++ rest)) = some l.length := by
  have hbefore : ∀ j < l.length, ¬ (a :: needle) <+: (l ++ (a :: needle ++ rest)).drop j := by
    intro j hj hstarts
    by_cases hwithin : j + (a :: needle).length ≤ l.length
    · exact hl (isInfix_iff_starts.mpr ⟨j, starts_of_append hwithin hstarts⟩)
    · -- a start that reaches over the end would have another `a` inside
      rw [List.length_cons] at hwithin
      rw [List.drop_append_of_le_length (Nat.le_of_lt hj), List.drop_eq_getElem_cons hj,
        List.cons_append, List.cons_prefix_cons] at hstarts
      obtain ⟨-, hneedle⟩ := hstarts
      have hpart : l.drop (j + 1) ++ [a] <+: needle := by
        refine List.prefix_of_prefix_length_le ?_ hneedle ?_
        · refine (List.prefix_append_right_inj _).mpr ?_
          exact ⟨needle ++ rest, rfl⟩
        · rw [List.length_append, List.length_drop, List.length_singleton]
          omega
      exact ha (hpart.subset (by simp))
  rw [find_append_left (by simp) hbefore, find_self_append (by simp)]
  rfl

/-- What is found, with what stands before it and behind it. -/
theorem of_find_eq_some (hneedle : needle ≠ []) (h : find needle l = some i) :
    ∃ before rest, l = before ++ (needle ++ rest) ∧ before.length = i ∧ ¬ needle <:+: before := by
  have hfirst := (find_eq_some_iff hneedle).mp h
  have hle := add_length_le_of_starts hneedle hfirst.starts
  have hlength : (l.take i).length = i := by
    rw [List.length_take]
    omega
  obtain ⟨rest, hrest⟩ := hfirst.starts
  refine ⟨l.take i, rest, ?_, hlength, ?_⟩
  · rw [hrest, List.take_append_drop]
  · intro hpart
    obtain ⟨j, hstarts⟩ := isInfix_iff_starts.mp hpart
    have hj := add_length_le_of_starts hneedle hstarts
    have hpos := List.length_pos_iff.mpr hneedle
    rw [hlength] at hj
    refine hfirst.earlier j (by omega) ?_
    rw [← List.take_append_drop i l]
    exact starts_append _ hstarts

end Find

end Subslice
