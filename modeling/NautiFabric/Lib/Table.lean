import Mathlib

/-!
# Tables changed key by key

What a table holds at one key after a list of keys was erased, after a list of
entries was inserted, and after all but some keys were dropped; and the values of a
table in which each value is under its own key. An operation on
a table is specified by such equations, and two tables are equal when they agree
at every key.
-/

namespace Table

open Std

variable {κ V ε : Type*} {cmp : κ → κ → Ordering} [TransCmp cmp] [LawfulEqCmp cmp]

section

variable [DecidableEq κ]

theorem getElem?_erase (m : ExtTreeMap κ V cmp) (k' k : κ) :
    (m.erase k')[k]? = if k' = k then none else m[k]? := by
  rw [ExtTreeMap.getElem?_erase]
  simp only [LawfulEqCmp.compare_eq_iff_eq]

theorem getElem?_insert (m : ExtTreeMap κ V cmp) (k' k : κ) (v : V) :
    (m.insert k' v)[k]? = if k' = k then some v else m[k]? := by
  rw [ExtTreeMap.getElem?_insert]
  simp only [LawfulEqCmp.compare_eq_iff_eq]

/-- A table made of entries with different keys. -/
theorem getElem?_ofList {entries : List (κ × V)} (hnodup : (entries.map Prod.fst).Nodup) (k : κ) :
    (ExtTreeMap.ofList entries cmp)[k]? = entries.lookup k := by
  have hdistinct : entries.Pairwise fun a b => ¬ cmp a.1 b.1 = .eq := by
    refine (List.pairwise_map.mp hnodup).imp ?_
    intro a b hne heq
    exact hne (LawfulEqCmp.eq_of_compare heq)
  rcases hlookup : entries.lookup k with _ | v
  · apply ExtTreeMap.getElem?_eq_none
    rw [ExtTreeMap.mem_ofList]
    intro hmem
    obtain ⟨p, hp, hk⟩ := List.mem_map.mp (List.contains_iff_mem.mp hmem)
    have hne := List.lookup_eq_none_iff.mp hlookup p hp
    simp [hk] at hne
  · obtain ⟨before, after, hsplit, -⟩ := List.lookup_eq_some_iff.mp hlookup
    have hmem : (k, v) ∈ entries := by
      rw [hsplit]
      exact List.mem_append_right before List.mem_cons_self
    exact ExtTreeMap.getElem?_ofList_of_mem ReflCmp.compare_self hdistinct hmem

omit [LawfulEqCmp cmp] [DecidableEq κ] in
theorem values_eq (m : ExtTreeMap κ V cmp) : m.values = m.toList.map Prod.snd := by
  have hfold : m.values = m.foldr (fun _ v l => v :: l) [] := rfl
  rw [hfold, ExtTreeMap.foldr_eq_foldr_toList]
  induction m.toList with
  | nil => rfl
  | cons a l ih => rw [List.foldr_cons, List.map_cons, ih]

/-- An element is found by its key. -/
theorem find?_keyed {key : V → κ} {l : List V} (hnodup : (l.map key).Nodup) {k : κ} {v : V} :
    (l.find? fun v => key v = k) = some v ↔ v ∈ l ∧ key v = k := by
  constructor
  · intro h
    exact ⟨List.mem_of_find?_eq_some h, by simpa using List.find?_some h⟩
  · rintro ⟨hv, rfl⟩
    obtain ⟨w, hw⟩ : ∃ w, (l.find? fun w => key w = key v) = some w := by
      rw [← Option.isSome_iff_exists, List.find?_isSome]
      exact ⟨v, hv, by simp⟩
    have hkey : key w = key v := by simpa using List.find?_some hw
    rw [hw, List.inj_on_of_nodup_map hnodup (List.mem_of_find?_eq_some hw) hv hkey]

omit [DecidableEq κ] in
/-- The values of a table that holds some elements, each under a key of its own. -/
theorem values_perm {m : ExtTreeMap κ V cmp} {key : V → κ} {l : List V}
    (hnodup : (l.map key).Nodup) (h : ∀ k v, m[k]? = some v ↔ v ∈ l ∧ key v = k) :
    m.values.Perm l := by
  rw [values_eq]
  have hkey : ∀ entry ∈ m.toList, entry.2 ∈ l ∧ key entry.2 = entry.1 := by
    intro entry hentry
    exact (h entry.1 entry.2).mp (ExtTreeMap.mem_toList_iff_getElem?_eq_some.mp hentry)
  have htoList : m.toList.Nodup := by
    refine ExtTreeMap.distinct_keys_toList.imp ?_
    rintro a b hne rfl
    exact hne ReflCmp.compare_self
  have hvalues : (m.toList.map Prod.snd).Nodup := by
    refine htoList.map_on ?_
    intro a ha b hb heq
    refine Prod.ext ?_ heq
    rw [← (hkey a ha).2, ← (hkey b hb).2, heq]
  rw [List.perm_ext_iff_of_nodup hvalues (List.Nodup.of_map key hnodup)]
  intro v
  rw [List.mem_map]
  constructor
  · rintro ⟨entry, hentry, rfl⟩
    exact (hkey entry hentry).1
  · intro hv
    exact ⟨(key v, v), ExtTreeMap.mem_toList_iff_getElem?_eq_some.mpr ((h _ v).mpr ⟨hv, rfl⟩), rfl⟩

/-- Erasing a list of keys, one after the other. -/
theorem getElem?_foldl_erase (keys : List κ) (m : ExtTreeMap κ V cmp) (k : κ) :
    (keys.foldl (fun m k' => m.erase k') m)[k]? = if k ∈ keys then none else m[k]? := by
  induction keys generalizing m with
  | nil => simp
  | cons k' keys ih =>
      rw [List.foldl_cons, ih, getElem?_erase]
      by_cases hmem : k ∈ keys
      · simp [hmem]
      · by_cases hk : k' = k
        · simp [hk]
        · have hne : k ≠ k' := fun h => hk h.symm
          simp [hmem, hk, hne]

/-- Inserting a list of entries, one after the other: the last one at a key stands. -/
theorem getElem?_foldl_insert (key : ε → κ) (value : ε → V) (entries : List ε)
    (m : ExtTreeMap κ V cmp) (k : κ) :
    (entries.foldl (fun m e => m.insert (key e) (value e)) m)[k]? =
      ((entries.reverse.find? fun e => key e = k).map value).or m[k]? := by
  induction entries generalizing m with
  | nil => simp
  | cons e entries ih =>
      rw [List.foldl_cons, ih, getElem?_insert, List.reverse_cons, List.find?_append]
      rcases entries.reverse.find? (fun e => key e = k) with _ | last
      · by_cases hk : key e = k
        · simp [hk]
        · simp [hk]
      · simp

end

/-- Keys come in order, so two selections of keys with the same members are the same list. -/
theorem filter_keys_congr {V' : Type*} {m : ExtTreeMap κ V cmp} {m' : ExtTreeMap κ V' cmp}
    {p q : κ → Bool} (h : ∀ k, (k ∈ m ∧ p k = true) ↔ (k ∈ m' ∧ q k = true)) :
    m.keys.filter p = m'.keys.filter q := by
  have hperm : (m.keys.filter p).Perm (m'.keys.filter q) := by
    rw [List.perm_ext_iff_of_nodup (ExtTreeMap.nodup_keys.filter p)
      (ExtTreeMap.nodup_keys.filter q)]
    intro k
    rw [List.mem_filter, List.mem_filter, ExtTreeMap.mem_keys, ExtTreeMap.mem_keys]
    exact h k
  refine hperm.eq_of_pairwise ?_ (ExtTreeMap.ordered_keys.filter p)
    (ExtTreeMap.ordered_keys.filter q)
  intro a b _ _ hab hba
  have hgt : cmp b a = .gt := OrientedCmp.gt_of_lt hab
  rw [hgt] at hba
  cases hba

/-- Keeping the entries at some keys. -/
theorem getElem?_keep (p : κ → Bool) (m : ExtTreeMap κ V cmp) (k : κ) :
    (m.filter fun k' _ => p k')[k]? = if p k then m[k]? else none := by
  rw [ExtTreeMap.getElem?_filter']
  rcases m[k]? with _ | v
  · simp
  · by_cases hp : p k
    · simp [hp]
    · simp [hp]

end Table
