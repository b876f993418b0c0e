import NautiFabric.Lib.Entries

/-!
# Items collected by key

A table with a list of values for each key, to which items are added one by one and from
which whole lists are taken out. An item may have no key; it is then in no list.

* `Holds` says which items a table holds; `Holds.push`, `Holds.skip` and `Holds.erase` are
  what the operations make of it.
* `Holds.contents_perm`: nothing that a table holds is missing from its lists, and nothing is
  in two of them.
-/

namespace Buckets

open Std

variable {ι κ α : Type*} {cmp : κ → κ → Ordering} [TransCmp cmp] [LawfulEqCmp cmp]

/-- The list of a key; one that is not in the table has the empty one. -/
def bucket (m : ExtTreeMap κ (List α) cmp) (k : κ) : List α := m[k]?.getD []

def push (m : ExtTreeMap κ (List α) cmp) (k : κ) (a : α) : ExtTreeMap κ (List α) cmp :=
  m.insert k (bucket m k ++ [a])

/-- All the lists, one after the other. -/
def contents (m : ExtTreeMap κ (List α) cmp) : List α := m.toList.flatMap Prod.snd

variable [DecidableEq κ] {key : ι → Option κ} {value : ι → α} {m : ExtTreeMap κ (List α) cmp}
  {items : List ι} {i : ι} {k : κ}

/-- The list of each key has the values of its items, in their order. -/
def Holds (key : ι → Option κ) (value : ι → α) (m : ExtTreeMap κ (List α) cmp)
    (items : List ι) : Prop :=
  ∀ k, bucket m k = (items.filter fun i => key i = some k).map value

omit [LawfulEqCmp cmp] in
theorem holds_empty : Holds key value (∅ : ExtTreeMap κ (List α) cmp) [] := by
  intro k
  unfold bucket
  rw [ExtTreeMap.getElem?_empty]
  rfl

theorem Holds.push (h : Holds key value m items) (hkey : key i = some k) :
    Holds key value (push m k (value i)) (items ++ [i]) := by
  intro k'
  have hlist := h k'
  unfold bucket at hlist ⊢
  unfold Buckets.push bucket
  rw [Table.getElem?_insert, List.filter_append, List.map_append]
  by_cases hk : k = k'
  · subst hk
    rw [if_pos rfl, hlist, List.filter_singleton, decide_eq_true hkey]
    rfl
  · rw [if_neg hk, hlist, List.filter_singleton, decide_eq_false (by simp [hkey, hk])]
    exact (List.append_nil _).symm

omit [LawfulEqCmp cmp] in
theorem Holds.skip (h : Holds key value m items) (hkey : key i = none) :
    Holds key value m (items ++ [i]) := by
  intro k
  rw [h k, List.filter_append, List.filter_singleton, decide_eq_false (by simp [hkey])]
  simp

/-- What is left behind the list of `k`. -/
theorem Holds.erase (h : Holds key value m items) (k : κ) :
    Holds key value (m.erase k) (items.filter fun i => key i ≠ some k) := by
  intro k'
  have hlist := h k'
  unfold bucket at hlist ⊢
  rw [Table.getElem?_erase, List.filter_filter]
  by_cases hk : k = k'
  · subst hk
    simp
  · rw [if_neg hk, hlist]
    congr 1
    refine List.filter_congr fun i _ => ?_
    by_cases hkey : key i = some k'
    · simp [hkey, Ne.symm hk]
    · simp [hkey]

/-- Items that are picked for one of two reasons, never for both. -/
theorem filter_or_perm {p q r : ι → Bool} (hor : ∀ i ∈ items, r i = (p i || q i))
    (hdisjoint : ∀ i ∈ items, p i → q i = false) :
    (items.filter r).Perm (items.filter p ++ items.filter q) := by
  have hperm := List.filter_append_perm p (items.filter r)
  have hleft : (items.filter r).filter p = items.filter p := by
    rw [List.filter_filter]
    refine List.filter_congr fun i hi => ?_
    rw [hor i hi]
    cases p i
    · rfl
    · rfl
  have hright : (items.filter r).filter (fun i => !p i) = items.filter q := by
    rw [List.filter_filter]
    refine List.filter_congr fun i hi => ?_
    have hother := hdisjoint i hi
    rw [hor i hi]
    cases hp : p i
    · rfl
    · exact (hother hp).symm
  rw [hleft, hright] at hperm
  exact hperm.symm

/-- One key after the other, every item with one of the keys once. -/
theorem perm_by_key (key : ι → Option κ) (value : ι → α) (items : List ι) {keys : List κ}
    (hnodup : keys.Nodup) :
    (keys.flatMap fun k => (items.filter fun i => key i = some k).map value).Perm
      ((items.filter fun i => keys.any fun k => key i = some k).map value) := by
  induction keys with
  | nil => simp
  | cons k keys ih =>
    rw [List.nodup_cons] at hnodup
    have hdisjoint : ∀ i ∈ items, decide (key i = some k) →
        (keys.any fun k => key i = some k) = false := by
      intro i _ hkey
      rw [List.any_eq_false]
      intro k' hk' hkey'
      rw [of_decide_eq_true hkey] at hkey'
      exact hnodup.1 (Option.some.inj (of_decide_eq_true hkey') ▸ hk')
    have hor : ∀ i ∈ items, ((k :: keys).any fun k => key i = some k) =
        (decide (key i = some k) || keys.any fun k => key i = some k) := by
      intro i _
      exact List.any_cons
    have hsplit := (filter_or_perm hor hdisjoint).map value
    rw [List.map_append] at hsplit
    rw [List.flatMap_cons]
    exact ((ih hnodup.2).append_left _).trans hsplit.symm

omit [DecidableEq κ] in
theorem contents_eq (m : ExtTreeMap κ (List α) cmp) : contents m = m.keys.flatMap (bucket m) := by
  unfold contents
  rw [← ExtTreeMap.map_fst_toList_eq_keys, List.flatMap_map]
  refine List.flatMap_congr fun entry hentry => ?_
  obtain ⟨k, values⟩ := entry
  have hvalues := ExtTreeMap.mem_toList_iff_getElem?_eq_some.mp hentry
  unfold bucket
  rw [hvalues]
  rfl

theorem Holds.contents_perm (h : Holds key value m items) :
    (contents m).Perm ((items.filter fun i => (key i).isSome).map value) := by
  have hlists : m.keys.flatMap (bucket m) =
      m.keys.flatMap fun k => (items.filter fun i => key i = some k).map value :=
    List.flatMap_congr fun k _ => h k
  -- the list of an item's key is not empty, so the key is in the table
  have hkeys : items.filter (fun i => (key i).isSome) =
      items.filter fun i => m.keys.any fun k => key i = some k := by
    refine List.filter_congr fun i hi => ?_
    rcases hkey : key i with _ | k
    · simp
    · have hmem : value i ∈ bucket m k := by
        rw [h k]
        exact List.mem_map_of_mem (List.mem_filter.mpr ⟨hi, decide_eq_true hkey⟩)
      have hin : k ∈ m := by
        by_contra hout
        unfold bucket at hmem
        rw [ExtTreeMap.getElem?_eq_none hout] at hmem
        cases hmem
      symm
      rw [Option.isSome_some, List.any_eq_true]
      exact ⟨k, ExtTreeMap.mem_keys.mpr hin, decide_eq_true rfl⟩
  rw [contents_eq, hlists, hkeys]
  exact perm_by_key key value items ExtTreeMap.nodup_keys

/-! ## Items that all have a key -/

/-- Every item in the list of its key. -/
def collect (key : ι → κ) (items : List ι) : ExtTreeMap κ (List ι) cmp :=
  items.foldl (fun m i => push m (key i) i) ∅

/-- A key has a list only where it has items, and then all of them. -/
theorem getElem?_collect (key : ι → κ) (items : List ι) (k : κ) :
    (collect key items : ExtTreeMap κ (List ι) cmp)[k]? =
      if (items.filter fun i => key i = k) = [] then none
      else some (items.filter fun i => key i = k) := by
  have hpushed (m : ExtTreeMap κ (List ι) cmp) :
      (items.foldl (fun m i => push m (key i) i) m)[k]? =
        if (items.filter fun i => key i = k) = [] then m[k]?
        else some (bucket m k ++ items.filter fun i => key i = k) := by
    induction items generalizing m with
    | nil => simp
    | cons i items ih =>
        rw [List.foldl_cons, ih]
        have hget : (push m (key i) i)[k]? =
            if key i = k then some (bucket m k ++ [i]) else m[k]? := by
          unfold push
          rw [Table.getElem?_insert]
          split
          · rename_i hk
            rw [hk]
          · rfl
        unfold bucket at hget ⊢
        rw [hget]
        by_cases hk : key i = k
        · by_cases hrest : (items.filter fun i => key i = k) = []
          · simp [hk, hrest]
          · simp [hk, hrest]
        · simp [hk]
  have hempty := hpushed ∅
  unfold bucket at hempty
  rw [ExtTreeMap.getElem?_empty, Option.getD_none, List.nil_append] at hempty
  exact hempty

end Buckets
