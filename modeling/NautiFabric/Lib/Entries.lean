import NautiFabric.Lib.Table

/-!
# Optional entries

A list of keys with values that may be missing stands for the entries that are
there. Which entries were there can be told from them when the keys are different
(`present_inj`), and a table filled with them holds the value of each key
(`getElem?_insertPresent`).

A list of pairs written word after word, with one more word at most behind it, can be
read back (`words_append_inj`).
-/

namespace Entries

variable {κ V : Type*}

/-- The entries that have a value. -/
def present (entries : List (κ × Option V)) : List (κ × V) :=
  entries.filterMap fun (k, v) => v.map fun v => (k, v)

@[simp] theorem present_nil : present ([] : List (κ × Option V)) = [] := rfl

@[simp] theorem present_none (k : κ) (entries : List (κ × Option V)) :
    present ((k, none) :: entries) = present entries := rfl

@[simp] theorem present_some (k : κ) (v : V) (entries : List (κ × Option V)) :
    present ((k, some v) :: entries) = (k, v) :: present entries := rfl

theorem present_cons_cons (entry entry' : κ × Option V) (entries : List (κ × Option V)) :
    present (entry :: entry' :: entries) = present [entry] ++ present (entry' :: entries) :=
  List.filterMap_append (l := [entry])

/-- The keys of the entries that have a value. -/
theorem keys_present (entries : List (κ × Option V)) : (present entries).map Prod.fst =
    ((entries.map fun (k, v) => (k, v.isSome)).filter Prod.snd).map Prod.fst := by
  induction entries with
  | nil => rfl
  | cons entry entries ih =>
      obtain ⟨k, v⟩ := entry
      rcases v with _ | v
      · exact ih
      · exact congrArg (k :: ·) ih

theorem mem_keys_of_present {entries : List (κ × Option V)} {k : κ} {v : V}
    (h : (k, v) ∈ present entries) : k ∈ entries.map Prod.fst := by
  obtain ⟨⟨k', v'⟩, hmem, hmap⟩ := List.mem_filterMap.mp h
  rcases v' with _ | v'
  · cases hmap
  · obtain ⟨rfl, rfl⟩ := Prod.mk.inj (Option.some.inj hmap)
    exact List.mem_map_of_mem hmem

/-! ## Looking a key up -/

section Lookup

variable [DecidableEq κ]

theorem lookup_entry (name : κ) (v : V) (entries : List (κ × V)) (k : κ) :
    ((name, v) :: entries).lookup k = if k = name then some v else entries.lookup k := by
  rw [List.lookup_cons]
  by_cases hk : k = name
  · rw [if_pos hk, beq_iff_eq.mpr hk]
  · rw [if_neg hk, beq_eq_false_iff_ne.mpr hk]

theorem lookup_of_not_mem {k : κ} {entries : List (κ × V)} (h : k ∉ entries.map Prod.fst) :
    entries.lookup k = none := by
  rw [List.lookup_eq_none_iff]
  intro p hp
  rw [bne_iff_ne]
  intro heq
  exact h (List.mem_map.mpr ⟨p, hp, heq.symm⟩)

theorem lookup_of_mem {k : κ} {v : V} {entries : List (κ × V)}
    (hnodup : (entries.map Prod.fst).Nodup) (hmem : (k, v) ∈ entries) :
    entries.lookup k = some v := by
  induction entries with
  | nil => cases hmem
  | cons entry entries ih =>
      obtain ⟨name, w⟩ := entry
      rw [List.map_cons, List.nodup_cons] at hnodup
      rw [lookup_entry]
      rcases List.mem_cons.mp hmem with heq | hrest
      · obtain ⟨rfl, rfl⟩ := Prod.mk.inj heq
        exact if_pos rfl
      · have hne : k ≠ name := by
          rintro rfl
          exact hnodup.1 (List.mem_map.mpr ⟨(k, v), hrest, rfl⟩)
        rw [if_neg hne]
        exact ih hnodup.2 hrest

/-- The entries with another value at a key. -/
def set (k : κ) (v : V) : List (κ × V) → List (κ × V)
  | [] => [(k, v)]
  | entry :: entries => if entry.1 = k then (k, v) :: entries else entry :: set k v entries

theorem lookup_set (k : κ) (v : V) (entries : List (κ × V)) (k' : κ) :
    (set k v entries).lookup k' = if k' = k then some v else entries.lookup k' := by
  induction entries with
  | nil => exact lookup_entry k v [] k'
  | cons entry entries ih =>
      obtain ⟨name, old⟩ := entry
      rw [set]
      by_cases hname : name = k
      · subst hname
        rw [if_pos rfl, lookup_entry, lookup_entry]
        by_cases hk : k' = name
        · rw [if_pos hk, if_pos hk]
        · rw [if_neg hk, if_neg hk, if_neg hk]
      · rw [if_neg hname, lookup_entry, lookup_entry, ih]
        by_cases hk : k' = name
        · have hne : k' ≠ k := fun h => hname (hk.symm.trans h)
          rw [if_pos hk, if_neg hne, if_pos hk]
        · rw [if_neg hk, if_neg hk]

end Lookup

/-- Lists over the same different keys have the same entries only if they are the same. -/
theorem present_inj {entries entries' : List (κ × Option V)}
    (hkeys : entries.map Prod.fst = entries'.map Prod.fst)
    (hnodup : (entries.map Prod.fst).Nodup) (h : present entries = present entries') :
    entries = entries' := by
  induction entries generalizing entries' with
  | nil => exact (List.map_eq_nil_iff.mp hkeys.symm).symm
  | cons entry entries ih =>
      rcases entries' with _ | ⟨⟨k', v'⟩, entries'⟩
      · cases hkeys
      obtain ⟨k, v⟩ := entry
      rw [List.map_cons, List.map_cons] at hkeys
      obtain ⟨hkey, htail⟩ := List.cons.inj hkeys
      dsimp only at hkey
      subst hkey
      rw [List.map_cons, List.nodup_cons] at hnodup
      obtain ⟨hnew, hnodup⟩ := hnodup
      -- a key with a value on one side only would come up again behind it
      rcases v with _ | v
      · rcases v' with _ | v'
        · rw [ih htail hnodup h]
        · have hmem : (k, v') ∈ present entries := by
            rw [show present entries = (k, v') :: present entries' from h]
            exact List.mem_cons_self
          exact absurd (mem_keys_of_present hmem) hnew
      · rcases v' with _ | v'
        · have hmem : (k, v) ∈ present entries' := by
            rw [← show (k, v) :: present entries = present entries' from h]
            exact List.mem_cons_self
          rw [htail] at hnew
          exact absurd (mem_keys_of_present hmem) hnew
        · rw [present_some, present_some] at h
          obtain ⟨hfirst, hrest⟩ := List.cons.inj h
          obtain ⟨-, rfl⟩ := Prod.mk.inj hfirst
          rw [ih htail hnodup hrest]

/-! ## Tables -/

section Tables

open Std

variable {cmp : κ → κ → Ordering} [TransCmp cmp] [LawfulEqCmp cmp] [DecidableEq κ]

/-- Insert the value of a key, if it has one. -/
def insertSome (m : ExtTreeMap κ V cmp) (entry : κ × Option V) : ExtTreeMap κ V cmp :=
  match entry.2 with
  | none => m
  | some v => m.insert entry.1 v

theorem getElem?_insertSome (m : ExtTreeMap κ V cmp) (entry : κ × Option V) (k : κ) :
    (insertSome m entry)[k]? = if entry.1 = k then entry.2.or m[k]? else m[k]? := by
  obtain ⟨k', v⟩ := entry
  rcases v with _ | v
  · simp [insertSome]
  · simp [insertSome, Table.getElem?_insert]

/-- Inserting the entries one after the other. -/
theorem getElem?_insertPresent {entries : List (κ × Option V)}
    (hnodup : (entries.map Prod.fst).Nodup) (m : ExtTreeMap κ V cmp) (k : κ) :
    (entries.foldl insertSome m)[k]? = ((entries.lookup k).join).or m[k]? := by
  induction entries generalizing m with
  | nil => rfl
  | cons entry entries ih =>
      obtain ⟨k', v⟩ := entry
      rw [List.map_cons, List.nodup_cons] at hnodup
      rw [List.foldl_cons, ih hnodup.2, getElem?_insertSome, List.lookup_cons]
      by_cases hk : k' = k
      · subst hk
        have hnone : entries.lookup k' = none := lookup_of_not_mem hnodup.1
        simp [hnone]
      · have hne : (k == k') = false := beq_eq_false_iff_ne.mpr fun h => hk h.symm
        rw [if_neg hk, hne]

/-- A table made of entries that are always there, and of some that may be. -/
theorem getElem?_build {always : List (κ × V)} {optional : List (κ × Option V)}
    (halways : (always.map Prod.fst).Nodup) (hoptional : (optional.map Prod.fst).Nodup) (k : κ) :
    (optional.foldl insertSome (ExtTreeMap.ofList always cmp))[k]? =
      ((optional.lookup k).join).or (always.lookup k) := by
  rw [getElem?_insertPresent hoptional, Table.getElem?_ofList halways]

end Tables

/-! ## Pairs as words -/

/-- Pairs, word after word. -/
def words (pairs : List (V × V)) : List V := pairs.flatMap fun (a, b) => [a, b]

@[simp] theorem words_nil : words ([] : List (V × V)) = [] := rfl

@[simp] theorem words_cons (p : V × V) (pairs : List (V × V)) :
    words (p :: pairs) = p.1 :: p.2 :: words pairs := rfl

theorem words_append (pairs pairs' : List (V × V)) :
    words (pairs ++ pairs') = words pairs ++ words pairs' :=
  List.flatMap_append

theorem words_append_inj {pairs pairs' : List (V × V)} {more more' : List V}
    (hmore : more.length ≤ 1) (hmore' : more'.length ≤ 1)
    (h : words pairs ++ more = words pairs' ++ more') : pairs = pairs' ∧ more = more' := by
  induction pairs generalizing pairs' with
  | nil =>
      rcases pairs' with _ | ⟨p', pairs'⟩
      · exact ⟨rfl, h⟩
      · have hlength := congrArg List.length h
        simp at hlength
        omega
  | cons p pairs ih =>
      rcases pairs' with _ | ⟨p', pairs'⟩
      · have hlength := congrArg List.length h
        simp at hlength
        omega
      · rw [words_cons, words_cons, List.cons_append, List.cons_append, List.cons_append,
          List.cons_append] at h
        obtain ⟨hfirst, h⟩ := List.cons.inj h
        obtain ⟨hsecond, h⟩ := List.cons.inj h
        obtain ⟨rfl, hrest⟩ := ih h
        exact ⟨by rw [Prod.ext hfirst hsecond], hrest⟩

end Entries
