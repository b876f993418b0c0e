import Mathlib

/-!
# Selecting from a list

Two ways to pick a best element. `maxBy` goes by a three-way comparison and
keeps the last of several greatest elements; `scan` goes by a strict comparison
and keeps the first of several best ones. Neither asks anything of its
comparison: what is picked is always in the list, and something is picked
whenever the list has an element.

For a comparison by a key in a linear order, `maxBy` gives `LastMax`. `FirstBest`
leads `scan` to its element under every comparison, and under a strict weak
order it says exactly what `scan` picks; so what `scan` picks it still picks
when others leave the list.
-/

namespace Select

universe u v

variable {α : Type u} {β : Type v}

/-! ## The last of the greatest -/

/-- One turn of `maxBy`. -/
def keepMax (cmp : α → α → Ordering) (best next : α) : α :=
  if cmp best next = .gt then best else next

def maxBy (cmp : α → α → Ordering) : List α → Option α
  | [] => none
  | a :: l => some (l.foldl (keepMax cmp) a)

theorem maxBy_eq_none_iff {cmp : α → α → Ordering} {l : List α} : maxBy cmp l = none ↔ l = [] := by
  cases l with
  | nil => simp [maxBy]
  | cons a l => simp [maxBy]

theorem foldl_keepMax_mem (cmp : α → α → Ordering) (a : α) (l : List α) :
    l.foldl (keepMax cmp) a ∈ a :: l := by
  induction l generalizing a with
  | nil => simp
  | cons b l ih =>
      have hmem := ih (keepMax cmp a b)
      rw [List.foldl_cons]
      rcases List.mem_cons.mp hmem with heq | htail
      · rw [heq]
        unfold keepMax
        split
        · simp
        · simp
      · exact List.mem_cons_of_mem a (List.mem_cons_of_mem b htail)

theorem mem_of_maxBy {cmp : α → α → Ordering} {l : List α} {b : α} (h : maxBy cmp l = some b) :
    b ∈ l := by
  cases l with
  | nil => simp [maxBy] at h
  | cons a l =>
      rw [← Option.some.inj h]
      exact foldl_keepMax_mem cmp a l

/-- The comparison may as well be made before the elements are mapped. -/
theorem maxBy_map (cmp : β → β → Ordering) (f : α → β) (l : List α) :
    maxBy cmp (l.map f) = (maxBy (fun a b => cmp (f a) (f b)) l).map f := by
  cases l with
  | nil => rfl
  | cons a l =>
      rw [List.map_cons, maxBy, maxBy, Option.map_some, Option.some.injEq]
      induction l generalizing a with
      | nil => rfl
      | cons b l ih =>
          have hturn : keepMax cmp (f a) (f b) = f (keepMax (fun a b => cmp (f a) (f b)) a b) := by
            unfold keepMax
            split
            · rfl
            · rfl
          rw [List.map_cons, List.foldl_cons, List.foldl_cons, hturn]
          exact ih _

/-- `b` is the last element of the list with the greatest key. -/
def LastMax {κ : Type v} [LinearOrder κ] (key : α → κ) (l : List α) (b : α) : Prop :=
  ∃ before after, l = before ++ b :: after ∧ (∀ x ∈ before, key x ≤ key b) ∧
    ∀ x ∈ after, key x < key b

section Key

variable {κ : Type v} [LinearOrder κ] {key : α → κ} {l : List α} {a b : α}

theorem LastMax.bound (h : LastMax key l b) : ∀ x ∈ l, key x ≤ key b := by
  obtain ⟨before, after, rfl, hbefore, hafter⟩ := h
  intro x hx
  rcases List.mem_append.mp hx with hx | hx
  · exact hbefore x hx
  · rcases List.mem_cons.mp hx with rfl | hx
    · exact le_rfl
    · exact (hafter x hx).le

theorem LastMax.cons (h : LastMax key l b) (hab : key a ≤ key b) : LastMax key (a :: l) b := by
  obtain ⟨before, after, rfl, hbefore, hafter⟩ := h
  refine ⟨a :: before, after, rfl, ?_, hafter⟩
  intro x hx
  rcases List.mem_cons.mp hx with rfl | hx
  · exact hab
  · exact hbefore x hx

/-- An element below the head may go in behind it. -/
theorem LastMax.insert {c : α} (h : LastMax key (a :: l) b) (hca : key c < key a) :
    LastMax key (a :: c :: l) b := by
  have hcb : key c < key b := hca.trans_le (h.bound a (by simp))
  obtain ⟨before, after, hl, hbefore, hafter⟩ := h
  cases before with
  | nil =>
      obtain ⟨rfl, rfl⟩ := List.cons.inj hl
      refine ⟨[], c :: l, rfl, by simp, ?_⟩
      intro x hx
      rcases List.mem_cons.mp hx with rfl | hx
      · exact hcb
      · exact hafter x hx
  | cons a' before =>
      obtain ⟨rfl, rfl⟩ := List.cons.inj hl
      refine ⟨a :: c :: before, after, rfl, ?_, hafter⟩
      intro x hx
      rcases List.mem_cons.mp hx with rfl | hx
      · exact hbefore x (by simp)
      · rcases List.mem_cons.mp hx with rfl | hx
        · exact hcb.le
        · exact hbefore x (by simp [hx])

theorem lastMax_maxBy (h : maxBy (fun a b => compare (key a) (key b)) l = some b) :
    LastMax key l b := by
  cases l with
  | nil => simp [maxBy] at h
  | cons a l =>
      rw [← Option.some.inj h]
      clear h
      -- on the rest of the list, with the best element so far at its head
      induction l generalizing a with
      | nil => exact ⟨[], [], rfl, by simp, by simp⟩
      | cons c l ih =>
          rw [List.foldl_cons]
          unfold keepMax
          split
          · rename_i hgt
            have hlt : key c < key a := compare_gt_iff_gt.mp hgt
            exact (ih a).insert hlt
          · rename_i hgt
            have hle : key a ≤ key c := not_lt.mp fun hlt => hgt (compare_gt_iff_gt.mpr hlt)
            have hrest := ih c
            exact hrest.cons (hle.trans (hrest.bound c (by simp)))

end Key

/-! ## The first of the best -/

/-- One turn of `scan`. -/
def improve (better : α → α → Bool) (best : Option α) (next : α) : Option α :=
  match best with
  | none => some next
  | some prev => if better next prev then some next else some prev

def scan (better : α → α → Bool) (l : List α) : Option α := l.foldl (improve better) none

variable {better : α → α → Bool}

theorem improve_ne_none (best : Option α) (next : α) : improve better best next ≠ none := by
  unfold improve
  cases best with
  | none => simp
  | some prev =>
      dsimp only
      split
      · simp
      · simp

theorem foldl_improve_eq_none_iff {best : Option α} {l : List α} :
    l.foldl (improve better) best = none ↔ best = none ∧ l = [] := by
  induction l generalizing best with
  | nil => simp
  | cons a l ih =>
      rw [List.foldl_cons, ih]
      simp [improve_ne_none]

theorem scan_eq_none_iff {l : List α} : scan better l = none ↔ l = [] := by
  simp [scan, foldl_improve_eq_none_iff]

theorem foldl_improve_mem {best : Option α} {l : List α} {b : α}
    (h : l.foldl (improve better) best = some b) : best = some b ∨ b ∈ l := by
  induction l generalizing best with
  | nil => exact Or.inl h
  | cons a l ih =>
      rw [List.foldl_cons] at h
      rcases ih h with hturn | hmem
      · unfold improve at hturn
        cases best with
        | none =>
            right
            simp [Option.some.inj hturn]
        | some prev =>
            dsimp only at hturn
            split at hturn
            · right
              simp [Option.some.inj hturn]
            · exact Or.inl hturn
      · exact Or.inr (List.mem_cons_of_mem a hmem)

theorem mem_of_scan {l : List α} {b : α} (h : scan better l = some b) : b ∈ l := by
  rcases foldl_improve_mem h with hnone | hmem
  · cases hnone
  · exact hmem

/-- `b` is better than all before it, and none after it is better than `b`. -/
def FirstBest (better : α → α → Bool) (l : List α) (b : α) : Prop :=
  ∃ before after, l = before ++ b :: after ∧ (∀ x ∈ before, better b x = true) ∧
    ∀ x ∈ after, better x b = false

theorem foldl_improve_kept {b : α} {l : List α} (h : ∀ x ∈ l, better x b = false) :
    l.foldl (improve better) (some b) = some b := by
  induction l with
  | nil => rfl
  | cons a l ih =>
      have hturn : improve better (some b) a = some b := by simp [improve, h a (by simp)]
      rw [List.foldl_cons, hturn]
      exact ih fun x hx => h x (by simp [hx])

/-- No law is needed for this direction: what stands before `b` when it comes up
is one of the elements before it. -/
theorem scan_of_firstBest {l : List α} {b : α} (h : FirstBest better l b) :
    scan better l = some b := by
  obtain ⟨before, after, rfl, hbefore, hafter⟩ := h
  rw [scan, List.foldl_append, List.foldl_cons]
  have hturn : improve better (before.foldl (improve better) none) b = some b := by
    rcases hprev : before.foldl (improve better) none with _ | prev
    · rfl
    · have hmem : prev ∈ before := mem_of_scan hprev
      simp [improve, hbefore prev hmem]
  rw [hturn]
  exact foldl_improve_kept hafter

/-- A strict weak order. -/
structure StrictWeak (better : α → α → Bool) : Prop where
  asymm : ∀ a b, better a b = true → better b a = false
  cotrans : ∀ a b c, better a b = true → better a c = true ∨ better c b = true

theorem StrictWeak.trans (h : StrictWeak better) {a b c : α} (hab : better a b = true)
    (hbc : better b c = true) : better a c = true := by
  rcases h.cotrans b c a hbc with hba | hac
  · have hba' := h.asymm a b hab
    rw [hba] at hba'
    cases hba'
  · exact hac

theorem firstBest_of_scan (hlaw : StrictWeak better) {l : List α} {b : α}
    (h : scan better l = some b) : FirstBest better l b := by
  -- from the end of the list: what it adds is either picked or not
  induction l using List.reverseRecOn generalizing b with
  | nil => cases h
  | append_singleton l a ih =>
      rw [scan, List.foldl_append, List.foldl_cons, List.foldl_nil] at h
      change improve better (scan better l) a = some b at h
      rcases hprev : scan better l with _ | prev
      · have hl : l = [] := scan_eq_none_iff.mp hprev
        rw [hprev] at h
        obtain rfl := Option.some.inj h
        exact ⟨[], [], by simp [hl], by simp, by simp⟩
      · obtain ⟨before, after, hl, hbefore, hafter⟩ := ih hprev
        rw [hprev] at h
        unfold improve at h
        dsimp only at h
        split at h
        · -- the new element is better than the best so far, so than all so far
          rename_i hbetter
          obtain rfl := Option.some.inj h
          refine ⟨l, [], rfl, ?_, by simp⟩
          intro x hx
          rw [hl] at hx
          rcases List.mem_append.mp hx with hx | hx
          · exact hlaw.trans hbetter (hbefore x hx)
          · rcases List.mem_cons.mp hx with rfl | hx
            · exact hbetter
            · rcases hlaw.cotrans a prev x hbetter with hax | hxprev
              · exact hax
              · rw [hafter x hx] at hxprev
                cases hxprev
        · rename_i hbetter
          obtain rfl := Option.some.inj h
          refine ⟨before, after ++ [a], by simp [hl], hbefore, ?_⟩
          intro x hx
          rcases List.mem_append.mp hx with hx | hx
          · exact hafter x hx
          · rw [List.mem_singleton.mp hx]
            simpa using hbetter

theorem FirstBest.filter {l : List α} {b : α} (h : FirstBest better l b) {p : α → Bool}
    (hb : p b = true) : FirstBest better (l.filter p) b := by
  obtain ⟨before, after, rfl, hbefore, hafter⟩ := h
  refine ⟨before.filter p, after.filter p, by simp [hb], ?_, ?_⟩
  · intro x hx
    exact hbefore x (List.mem_filter.mp hx).1
  · intro x hx
    exact hafter x (List.mem_filter.mp hx).1

/-- What is picked is still picked when others leave the list. -/
theorem scan_filter (hlaw : StrictWeak better) {l : List α} {b : α} (h : scan better l = some b)
    {p : α → Bool} (hb : p b = true) : scan better (l.filter p) = some b :=
  scan_of_firstBest ((firstBest_of_scan hlaw h).filter hb)

end Select
