import Mathlib

/-!
# Numbers given before and after a filter

A pass over a list that keeps some of the elements, and a report with notes on each of
those. The number that a note stands under can be given before the filter or after it.

* `tally` says of each kept element how many before it were not kept;
  `zipIdx_filter_eq` says that the two numbers differ by that.
* `noted_eq_iff` says when two reports on the same elements are the same: where an element
  has a note, its two numbers are.
-/

namespace Numbering

variable {α β : Type*} {keep : α → Bool} {notes : α → List β}

/-- The elements that are kept, each with the number of those before it that are not;
`d` of them have been passed. -/
def tally (keep : α → Bool) (d : ℕ) : List α → List (α × ℕ)
  | [] => []
  | a :: l => if keep a then (a, d) :: tally keep d l else tally keep (d + 1) l

/-- The notes on every element, under the element's number. -/
def noted (notes : α → List β) (numbered : List (α × ℕ)) : List (ℕ × β) :=
  numbered.flatMap fun entry => (notes entry.1).map fun note => (entry.2, note)

theorem map_fst_tally (d : ℕ) (l : List α) : (tally keep d l).map Prod.fst = l.filter keep := by
  induction l generalizing d with
  | nil => rfl
  | cons a l ih =>
      unfold tally
      split_ifs with ha
      · rw [List.map_cons, ih, List.filter_cons_of_pos ha]
      · rw [ih, List.filter_cons_of_neg ha]

/-- The number given before the filter is the one given after it and what was passed. -/
theorem zipIdx_filter_eq (keep : α → Bool) (n d : ℕ) (l : List α) :
    (l.zipIdx (n + d)).filter (fun entry => keep entry.1) =
      ((tally keep d l).zipIdx n).map fun entry => (entry.1.1, entry.2 + entry.1.2) := by
  induction l generalizing n d with
  | nil => rfl
  | cons a l ih =>
      unfold tally
      rw [List.zipIdx_cons, List.filter_cons]
      split_ifs with ha
      · rw [List.zipIdx_cons, List.map_cons, show n + d + 1 = n + 1 + d by omega, ih]
      · rw [show n + d + 1 = n + (d + 1) by omega, ih]

/-- What is passed before a kept element is what is not kept before it. -/
theorem mem_tally_iff {a : α} {d k : ℕ} {l : List α} :
    (a, k) ∈ tally keep d l ↔
      ∃ before after, l = before ++ a :: after ∧ keep a ∧
        k = d + (before.filter fun b => !keep b).length := by
  induction l generalizing d with
  | nil =>
      unfold tally
      constructor
      · intro h
        cases h
      · rintro ⟨before, after, hl, -⟩
        exact absurd hl (by simp)
  | cons b l ih =>
      unfold tally
      constructor
      · intro h
        split_ifs at h with hb
        · rcases List.mem_cons.mp h with heq | h
          · obtain ⟨rfl, rfl⟩ := Prod.mk.inj heq
            exact ⟨[], l, rfl, hb, rfl⟩
          · obtain ⟨before, after, rfl, ha, hk⟩ := ih.mp h
            refine ⟨b :: before, after, rfl, ha, ?_⟩
            rw [List.filter_cons_of_neg (by simp [hb])]
            exact hk
        · obtain ⟨before, after, rfl, ha, hk⟩ := ih.mp h
          refine ⟨b :: before, after, rfl, ha, ?_⟩
          rw [List.filter_cons_of_pos (by simp [hb]), List.length_cons]
          omega
      · rintro ⟨before, after, hl, ha, hk⟩
        -- the element is the first one, or it stands behind `b`
        rcases before with _ | ⟨c, before⟩
        · obtain ⟨rfl, rfl⟩ := List.cons.inj hl
          rw [if_pos ha, hk]
          exact List.mem_cons_self
        · obtain ⟨rfl, rfl⟩ := List.cons.inj hl
          split_ifs with hb
          · rw [List.filter_cons_of_neg (by simp [hb])] at hk
            exact List.mem_cons_of_mem _ (ih.mpr ⟨before, after, rfl, ha, hk⟩)
          · rw [List.filter_cons_of_pos (by simp [hb]), List.length_cons] at hk
            exact ih.mpr ⟨before, after, rfl, ha, by omega⟩

/-! ## Reports -/

/-- Two reports on the same elements agree where their numbers do, and only there. -/
theorem noted_eq_iff {numbered numbered' : List (α × ℕ)}
    (h : numbered.map Prod.fst = numbered'.map Prod.fst) :
    noted notes numbered = noted notes numbered' ↔
      List.Forall₂ (fun entry entry' => notes entry.1 ≠ [] → entry.2 = entry'.2)
        numbered numbered' := by
  induction numbered generalizing numbered' with
  | nil =>
      rw [List.map_nil, eq_comm, List.map_eq_nil_iff] at h
      subst h
      exact iff_of_true rfl .nil
  | cons entry numbered ih =>
      obtain ⟨entry', numbered', rfl, hentry, hrest⟩ := List.map_eq_cons_iff.mp h.symm
      obtain ⟨a, n⟩ := entry
      obtain ⟨a', n'⟩ := entry'
      have ha : a = a' := hentry.symm
      subst ha
      unfold noted at ih ⊢
      rw [List.flatMap_cons, List.flatMap_cons, List.forall₂_cons, ← ih hrest.symm]
      -- both blocks are as long as the notes on the element
      rw [List.append_eq_append_iff_of_size_eq_left (by simp), List.map_inj_left]
      refine and_congr_left' ?_
      constructor
      · intro hmap hnotes
        obtain ⟨note, hnote⟩ := List.exists_mem_of_ne_nil _ hnotes
        exact (Prod.mk.inj (hmap note hnote)).1
      · intro hn note hnote
        rw [hn (List.ne_nil_of_mem hnote)]

/-- A relation of two lists that are numbered alike. -/
theorem forall₂_zipIdx_iff {R : α → β → Prop} {S : α × ℕ → β × ℕ → Prop}
    (h : ∀ a b k, S (a, k) (b, k) ↔ R a b) (n : ℕ) {l : List α} {l' : List β} :
    List.Forall₂ S (l.zipIdx n) (l'.zipIdx n) ↔ List.Forall₂ R l l' := by
  induction l generalizing n l' with
  | nil => rw [List.zipIdx_nil, List.forall₂_nil_left_iff, List.forall₂_nil_left_iff,
      List.zipIdx_eq_nil_iff]
  | cons a l ih =>
      cases l' with
      | nil =>
          constructor
          · intro hforall
            cases hforall
          · intro hforall
            cases hforall
      | cons b l' =>
          rw [List.zipIdx_cons, List.zipIdx_cons, List.forall₂_cons, List.forall₂_cons, h, ih]

/-- The numbers given before the filter are those given after it exactly if nothing has
been passed before an element with a note. -/
theorem noted_filter_zipIdx_iff (l : List α) :
    noted notes (l.zipIdx.filter fun entry => keep entry.1) =
        noted notes (l.filter keep).zipIdx ↔
      ∀ entry ∈ tally keep 0 l, notes entry.1 ≠ [] → entry.2 = 0 := by
  have hbefore := zipIdx_filter_eq keep 0 0 l
  have hafter : (l.filter keep).zipIdx =
      ((tally keep 0 l).zipIdx).map fun entry => (entry.1.1, entry.2) := by
    rw [← map_fst_tally 0 l, List.zipIdx_map]
    rfl
  rw [hbefore, hafter, noted_eq_iff (by simp), List.forall₂_map_left_iff,
    List.forall₂_map_right_iff]
  have hsame : List.Forall₂ (fun entry _ => notes entry.1 ≠ [] → entry.2 = 0)
      (tally keep 0 l) (tally keep 0 l) ↔ _ := List.forall₂_same
  rw [← hsame]
  apply forall₂_zipIdx_iff
  intro entry entry' k
  dsimp only
  rw [Nat.add_eq_left]

/-- Two lists that keep the same elements get the same numbers, given before the filter,
exactly if before an element with a note as many have been passed in both. -/
theorem noted_filter_zipIdx_eq_iff {l l' : List α} (h : l.filter keep = l'.filter keep) :
    noted notes (l.zipIdx.filter fun entry => keep entry.1) =
        noted notes (l'.zipIdx.filter fun entry => keep entry.1) ↔
      List.Forall₂ (fun entry entry' => notes entry.1 ≠ [] → entry.2 = entry'.2)
        (tally keep 0 l) (tally keep 0 l') := by
  have hfst (l : List α) : ((l.zipIdx.filter fun entry => keep entry.1).map Prod.fst) =
      l.filter keep := by
    have hmap : (l.zipIdx.map Prod.fst).filter keep = _ := List.filter_map
    rw [List.zipIdx_map_fst] at hmap
    exact hmap.symm
  have hbefore := zipIdx_filter_eq keep 0 0
  rw [noted_eq_iff (by rw [hfst, hfst, h]), hbefore, hbefore, List.forall₂_map_left_iff,
    List.forall₂_map_right_iff]
  apply forall₂_zipIdx_iff
  intro entry entry' k
  dsimp only
  rw [Nat.add_left_cancel_iff]

theorem mem_noted_iff {numbered : List (α × ℕ)} {n : ℕ} {note : β} :
    (n, note) ∈ noted notes numbered ↔ ∃ a, (a, n) ∈ numbered ∧ note ∈ notes a := by
  unfold noted
  rw [List.mem_flatMap]
  constructor
  · rintro ⟨⟨a, k⟩, hmem, hnote⟩
    obtain ⟨note', hnote', heq⟩ := List.mem_map.mp hnote
    obtain ⟨rfl, rfl⟩ := Prod.mk.inj heq
    exact ⟨a, hmem, hnote'⟩
  · rintro ⟨a, hmem, hnote⟩
    exact ⟨(a, n), hmem, List.mem_map.mpr ⟨note, hnote, rfl⟩⟩

/-- Numbers that do not fall do not fall in the report. -/
theorem pairwise_noted {numbered : List (α × ℕ)}
    (h : numbered.Pairwise fun entry entry' => entry.2 ≤ entry'.2) :
    (noted notes numbered).Pairwise fun entry entry' => entry.1 ≤ entry'.1 := by
  induction h with
  | nil => exact .nil
  | @cons entry numbered hle _ ih =>
      unfold noted at ih ⊢
      rw [List.flatMap_cons, List.pairwise_append]
      refine ⟨?_, ih, ?_⟩
      · rw [List.pairwise_map]
        exact List.pairwise_of_forall fun _ _ => le_rfl
      · intro first hfirst second hsecond
        obtain ⟨note, -, rfl⟩ := List.mem_map.mp hfirst
        obtain ⟨a, hmem, -⟩ := mem_noted_iff.mp hsecond
        exact hle _ hmem

theorem pairwise_zipIdx (n : ℕ) (l : List α) :
    (l.zipIdx n).Pairwise fun entry entry' => entry.2 ≤ entry'.2 := by
  induction l generalizing n with
  | nil => exact .nil
  | cons a l ih =>
      rw [List.zipIdx_cons, List.pairwise_cons]
      refine ⟨?_, ih (n + 1)⟩
      intro entry hmem
      have hle := List.le_snd_of_mem_zipIdx hmem
      exact Nat.le_of_succ_le hle

end Numbering
