import NautiFabric.Lib.Table

/-!
# Filling a table

Items are put into a table one after the other, each under a key of its own choice or not
at all. As long as no two items choose the same key, it does not matter which goes first
(`fill_perm`).
-/

namespace Table

open Std

variable {ι κ V : Type*} {cmp : κ → κ → Ordering} [TransCmp cmp] [LawfulEqCmp cmp]

/-- The entry of an item is put into the table. -/
def put (entry : ι → Option (κ × V)) (m : ExtTreeMap κ V cmp) (i : ι) : ExtTreeMap κ V cmp :=
  match entry i with
  | none => m
  | some (k, v) => m.insert k v

def fill (entry : ι → Option (κ × V)) (m : ExtTreeMap κ V cmp) (items : List ι) :
    ExtTreeMap κ V cmp :=
  items.foldl (put entry) m

variable {entry : ι → Option (κ × V)} {items items' : List ι}

/-- No two items have a key in common. -/
def DistinctKeys (entry : ι → Option (κ × V)) (items : List ι) : Prop :=
  ∀ i ∈ items, ∀ j ∈ items, ∀ k, (entry i).map Prod.fst = some k →
    (entry j).map Prod.fst = some k → i = j

theorem insert_comm {k k' : κ} (hne : k ≠ k') (m : ExtTreeMap κ V cmp) (v v' : V) :
    (m.insert k v).insert k' v' = (m.insert k' v').insert k v := by
  classical
  apply ExtTreeMap.ext_getElem?
  intro x
  rw [getElem?_insert, getElem?_insert, getElem?_insert, getElem?_insert]
  by_cases hk : k = x
  · have hk' : ¬ k' = x := fun h => hne (hk.trans h.symm)
    rw [if_neg hk', if_pos hk, if_pos hk]
  · rw [if_neg hk, if_neg hk]

theorem fill_perm (hperm : items'.Perm items) (hdistinct : DistinctKeys entry items)
    (m : ExtTreeMap κ V cmp) : fill entry m items' = fill entry m items := by
  refine (hperm.symm.foldl_eq' ?_ m).symm
  intro i hi j hj m
  rcases hei : entry i with _ | ⟨k, v⟩
  · simp only [put, hei]
  · rcases hej : entry j with _ | ⟨k', v'⟩
    · simp only [put, hei, hej]
    · by_cases hk : k = k'
      · subst hk
        have hij : i = j := hdistinct i hi j hj k (by rw [hei]; rfl) (by rw [hej]; rfl)
        rw [hij]
      · simp only [put, hei, hej]
        exact insert_comm hk m v v'

end Table
