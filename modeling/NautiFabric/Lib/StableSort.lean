import Mathlib

/-!
# Sorting by a key

Two lists that correspond are sorted alike (`forall₂_sortByKey`), and so are two lists of the
same elements when a key belongs to one element only (`sortByKey_eq_of_perm`). What is found
first in a sorted list is the least that there is to find (`find?_sort`).
-/

namespace StableSort

variable {α β κ : Type*} [LinearOrder κ] {key : α → κ} {l l' : List α}

def sortByKey (key : α → κ) (l : List α) : List α :=
  l.mergeSort fun a b => decide (key a ≤ key b)

theorem sortByKey_perm (key : α → κ) (l : List α) : (sortByKey key l).Perm l :=
  List.mergeSort_perm l _

theorem key_trans (key : α → κ) (a b c : α) (hab : decide (key a ≤ key b))
    (hbc : decide (key b ≤ key c)) : decide (key a ≤ key c) :=
  decide_eq_true (le_trans (of_decide_eq_true hab) (of_decide_eq_true hbc))

theorem key_total (key : α → κ) (a b : α) : decide (key a ≤ key b) || decide (key b ≤ key a) := by
  rcases le_total (key a) (key b) with h | h
  · simp [h]
  · simp [h]

theorem pairwise_sortByKey (key : α → κ) (l : List α) :
    (sortByKey key l).Pairwise fun a b => key a ≤ key b :=
  (List.pairwise_mergeSort (key_trans key) (key_total key) l).imp of_decide_eq_true

theorem sortByKey_map (key : α → κ) (f : β → α) (l : List β) :
    sortByKey key (l.map f) = (sortByKey (fun b => key (f b)) l).map f := by
  refine (List.map_mergeSort ?_).symm
  intro a _ b _
  rfl

/-- Two lists whose elements correspond are sorted in the same way, if what corresponds has
the same key. -/
theorem forall₂_sortByKey {key' : β → κ} {R : α → β → Prop} (hkey : ∀ a b, R a b → key a = key' b)
    {l : List α} {l' : List β} (h : List.Forall₂ R l l') :
    List.Forall₂ R (sortByKey key l) (sortByKey key' l') := by
  -- the pairs that correspond are sorted by either key
  obtain ⟨pairs, rfl, rfl⟩ : ∃ pairs : List { p : α × β // R p.1 p.2 },
      pairs.map (fun p => p.1.1) = l ∧ pairs.map (fun p => p.1.2) = l' := by
    induction h with
    | nil => exact ⟨[], rfl, rfl⟩
    | @cons a b _ _ hab _ ih =>
        obtain ⟨pairs, rfl, rfl⟩ := ih
        exact ⟨⟨(a, b), hab⟩ :: pairs, rfl, rfl⟩
  have hsame : (fun p : { p : α × β // R p.1 p.2 } => key p.1.1) = fun p => key' p.1.2 := by
    funext p
    exact hkey _ _ p.2
  rw [sortByKey_map, sortByKey_map, hsame, List.forall₂_map_left_iff, List.forall₂_map_right_iff,
    List.forall₂_same]
  exact fun p _ => p.2

/-- Sorted lists of the same elements, in which elements have keys of their own, are equal. -/
theorem sortByKey_eq_of_perm (hperm : l'.Perm l)
    (hdistinct : ∀ a ∈ l, ∀ b ∈ l, key a = key b → a = b) : sortByKey key l' = sortByKey key l := by
  have hsame : (sortByKey key l').Perm (sortByKey key l) :=
    ((sortByKey_perm key l').trans hperm).trans (sortByKey_perm key l).symm
  refine hsame.eq_of_pairwise ?_ (pairwise_sortByKey key l') (pairwise_sortByKey key l)
  intro a b ha hb hab hba
  have hal : a ∈ l := hperm.subset ((sortByKey_perm key l').subset ha)
  exact hdistinct a hal b ((sortByKey_perm key l).subset hb) (le_antisymm hab hba)

/-- The first element of a sorted list with a property is the least one that has it. -/
theorem find?_sort {l : List κ} {p : κ → Bool} {a : κ} :
    (sortByKey id l).find? p = some a ↔ a ∈ l ∧ p a = true ∧ ∀ b ∈ l, p b = true → a ≤ b := by
  have hmem : ∀ b, b ∈ sortByKey id l ↔ b ∈ l := fun b => (sortByKey_perm id l).mem_iff
  have hleast : ∀ a, (sortByKey id l).find? p = some a → ∀ b ∈ l, p b = true → a ≤ b := by
    intro a h b hb hpb
    obtain ⟨-, before, after, heq, hbefore⟩ := List.find?_eq_some_iff_append.mp h
    have hsorted := pairwise_sortByKey id l
    rw [heq, List.pairwise_append, List.pairwise_cons] at hsorted
    have hb' := (hmem b).mpr hb
    rw [heq] at hb'
    rcases List.mem_append.mp hb' with hfirst | hrest
    · have hnot := hbefore b hfirst
      rw [hpb] at hnot
      cases hnot
    · rcases List.mem_cons.mp hrest with rfl | hlater
      · exact le_rfl
      · exact hsorted.2.1.1 b hlater
  constructor
  · intro h
    exact ⟨(hmem a).mp (List.mem_of_find?_eq_some h), List.find?_some h, hleast a h⟩
  · rintro ⟨ha, hpa, hall⟩
    rcases hfind : (sortByKey id l).find? p with _ | b
    · exact absurd hpa (List.find?_eq_none.mp hfind a ((hmem a).mpr ha))
    · have hb := (hmem b).mp (List.mem_of_find?_eq_some hfind)
      rw [le_antisymm (hleast b hfind a ha hpa) (hall b hb (List.find?_some hfind))]

end StableSort
