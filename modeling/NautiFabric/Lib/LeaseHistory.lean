import Mathlib

/-!
# Histories of a lease service

What an exclusive lease service promises, said about its history alone. A
history (newest event first) records the grants, renewals, uses and releases
of leases on keys `κ`, with ids `ι` and times `τ`.

* `Lawful` is the promise: a granted id is fresh and every earlier lease on its
  key has ended, and only the live lease of a key is renewed or used.
* `Lawful.ended_append` says that an ended lease never comes back.
* `Tracks` connects a lease table to the history it stands for; each operation
  of a table-based service (prune, grant, renew, use, release) keeps it, so a
  service whose table tracks its history has a lawful history.
-/

namespace LeaseHistory

/-- An event of the service. `t` is the time of the event and `e` the expiry
that a grant or a renewal sets. -/
inductive Event (κ ι τ : Type*) where
  | grant (k : κ) (i : ι) (t e : τ)
  | renew (k : κ) (i : ι) (t e : τ)
  | use (k : κ) (i : ι) (t : τ)
  | release (k : κ) (i : ι) (t : τ)

variable {κ ι τ : Type*}

def Event.time : Event κ ι τ → τ
  | .grant _ _ t _ => t
  | .renew _ _ t _ => t
  | .use _ _ t => t
  | .release _ _ t => t

/-! ## What a history says about a lease -/

def Granted (h : List (Event κ ι τ)) (k : κ) (i : ι) : Prop := ∃ t e, .grant k i t e ∈ h

def Released (h : List (Event κ ι τ)) (k : κ) (i : ι) : Prop := ∃ t, .release k i t ∈ h

section

variable [DecidableEq κ] [DecidableEq ι]

/-- The latest lease granted on `k`. -/
def holder : List (Event κ ι τ) → κ → Option ι
  | [], _ => none
  | .grant k' i _ _ :: h, k => if k' = k then some i else holder h k
  | .renew _ _ _ _ :: h, k => holder h k
  | .use _ _ _ :: h, k => holder h k
  | .release _ _ _ :: h, k => holder h k

/-- The current expiry of `i`: what its grant or its last renewal set. -/
def expiry : List (Event κ ι τ) → ι → Option τ
  | [], _ => none
  | .grant _ j _ e :: h, i => if j = i then some e else expiry h i
  | .renew _ j _ e :: h, i => if j = i then some e else expiry h i
  | .use _ _ _ :: h, i => expiry h i
  | .release _ _ _ :: h, i => expiry h i

variable [LinearOrder τ]

/-- Lease `i` on `k` was released, or its expiry is not after `t`. -/
def Ended (h : List (Event κ ι τ)) (k : κ) (i : ι) (t : τ) : Prop :=
  Released h k i ∨ ∃ e, expiry h i = some e ∧ e ≤ t

/-- Lease `i` is the latest granted on `k`, is not released, and expires
strictly after `t`. -/
def Live (h : List (Event κ ι τ)) (k : κ) (i : ι) (t : τ) : Prop :=
  holder h k = some i ∧ ¬ Released h k i ∧ ∃ e, expiry h i = some e ∧ t < e

/-- What the past must say for the service to allow an event. -/
def Allowed (h : List (Event κ ι τ)) : Event κ ι τ → Prop
  | .grant k i t _ => (∀ k', ¬ Granted h k' i) ∧ ∀ j, Granted h k j → Ended h k j t
  | .renew k i t _ => Live h k i t
  | .use k i t => Live h k i t
  | .release k i _ => holder h k = some i ∧ ¬ Released h k i

/-- Every event was allowed by its past, and time never went backwards. -/
def Lawful : List (Event κ ι τ) → Prop
  | [] => True
  | ev :: h => Allowed h ev ∧ (∀ ev' ∈ h, ev'.time ≤ ev.time) ∧ Lawful h

end

@[simp] theorem granted_cons_grant {h : List (Event κ ι τ)} {k k' : κ} {i i' : ι} {t e : τ} :
    Granted (.grant k i t e :: h) k' i' ↔ (k = k' ∧ i = i') ∨ Granted h k' i' := by
  simp only [Granted, List.mem_cons, Event.grant.injEq]
  constructor
  · rintro ⟨t', e', ⟨rfl, rfl, -, -⟩ | hm⟩
    · exact Or.inl ⟨rfl, rfl⟩
    · exact Or.inr ⟨t', e', hm⟩
  · rintro (⟨rfl, rfl⟩ | ⟨t', e', hm⟩)
    · exact ⟨t, e, Or.inl ⟨rfl, rfl, rfl, rfl⟩⟩
    · exact ⟨t', e', Or.inr hm⟩

@[simp] theorem granted_cons_renew {h : List (Event κ ι τ)} {k k' : κ} {i i' : ι} {t e : τ} :
    Granted (.renew k i t e :: h) k' i' ↔ Granted h k' i' := by simp [Granted]

@[simp] theorem granted_cons_use {h : List (Event κ ι τ)} {k k' : κ} {i i' : ι} {t : τ} :
    Granted (.use k i t :: h) k' i' ↔ Granted h k' i' := by simp [Granted]

@[simp] theorem granted_cons_release {h : List (Event κ ι τ)} {k k' : κ} {i i' : ι} {t : τ} :
    Granted (.release k i t :: h) k' i' ↔ Granted h k' i' := by simp [Granted]

@[simp] theorem released_cons_release {h : List (Event κ ι τ)} {k k' : κ} {i i' : ι} {t : τ} :
    Released (.release k i t :: h) k' i' ↔ (k = k' ∧ i = i') ∨ Released h k' i' := by
  simp only [Released, List.mem_cons, Event.release.injEq]
  constructor
  · rintro ⟨t', ⟨rfl, rfl, -⟩ | hm⟩
    · exact Or.inl ⟨rfl, rfl⟩
    · exact Or.inr ⟨t', hm⟩
  · rintro (⟨rfl, rfl⟩ | ⟨t', hm⟩)
    · exact ⟨t, Or.inl ⟨rfl, rfl, rfl⟩⟩
    · exact ⟨t', Or.inr hm⟩

@[simp] theorem released_cons_grant {h : List (Event κ ι τ)} {k k' : κ} {i i' : ι} {t e : τ} :
    Released (.grant k i t e :: h) k' i' ↔ Released h k' i' := by simp [Released]

@[simp] theorem released_cons_renew {h : List (Event κ ι τ)} {k k' : κ} {i i' : ι} {t e : τ} :
    Released (.renew k i t e :: h) k' i' ↔ Released h k' i' := by simp [Released]

@[simp] theorem released_cons_use {h : List (Event κ ι τ)} {k k' : κ} {i i' : ι} {t : τ} :
    Released (.use k i t :: h) k' i' ↔ Released h k' i' := by simp [Released]

theorem Granted.append {h : List (Event κ ι τ)} {k : κ} {i : ι} (hg : Granted h k i)
    (later : List (Event κ ι τ)) : Granted (later ++ h) k i := by
  obtain ⟨t, e, hm⟩ := hg
  exact ⟨t, e, List.mem_append_right later hm⟩

/-! ## Lawful histories -/

variable [DecidableEq κ] [DecidableEq ι] [LinearOrder τ]

omit [DecidableEq κ] in
theorem Ended.mono {h : List (Event κ ι τ)} {k : κ} {i : ι} {t t' : τ} (he : Ended h k i t)
    (htt : t ≤ t') : Ended h k i t' := by
  rcases he with hr | ⟨e, hexp, het⟩
  · exact Or.inl hr
  · exact Or.inr ⟨e, hexp, het.trans htt⟩

omit [DecidableEq κ] in
/-- A release ends no lease but its own. -/
theorem Ended.cons_release {h : List (Event κ ι τ)} {k k' : κ} {i i' : ι} {t t' : τ}
    (he : Ended h k i t) : Ended (.release k' i' t' :: h) k i t := by
  rcases he with hr | ⟨e, hexp, hle⟩
  · exact Or.inl (released_cons_release.mpr (Or.inr hr))
  · exact Or.inr ⟨e, hexp, hle⟩

theorem Live.not_ended {h : List (Event κ ι τ)} {k : κ} {i : ι} {t : τ} (hl : Live h k i t) :
    ¬ Ended h k i t := by
  obtain ⟨-, hnr, e, hexp, hlt⟩ := hl
  rintro (hr | ⟨e', hexp', hle⟩)
  · exact hnr hr
  · rw [hexp] at hexp'
    cases hexp'
    exact absurd hlt (not_lt.mpr hle)

theorem Lawful.of_append {later h : List (Event κ ι τ)} (hl : Lawful (later ++ h)) : Lawful h := by
  induction later with
  | nil => exact hl
  | cons ev later ih => exact ih hl.2.2

/-- Each event of a lawful history was allowed by what came before it. -/
theorem Lawful.allowed {later h : List (Event κ ι τ)} {ev : Event κ ι τ}
    (hl : Lawful (later ++ ev :: h)) : Allowed h ev := hl.of_append.1

omit [DecidableEq ι] [LinearOrder τ] in
theorem granted_of_holder {h : List (Event κ ι τ)} {k : κ} {i : ι}
    (hh : holder h k = some i) : Granted h k i := by
  induction h with
  | nil => cases hh
  | cons ev h ih =>
      cases ev with
      | grant k' i' t e =>
          rw [granted_cons_grant]
          by_cases hk : k' = k
          · simp only [holder, if_pos hk, Option.some.injEq] at hh
            exact Or.inl ⟨hk, hh⟩
          · exact Or.inr (ih (by simpa [holder, hk] using hh))
      | renew k' i' t e => exact granted_cons_renew.mpr (ih hh)
      | use k' i' t => exact granted_cons_use.mpr (ih hh)
      | release k' i' t => exact granted_cons_release.mpr (ih hh)

theorem Lawful.granted_of_released {h : List (Event κ ι τ)} (hl : Lawful h) {k : κ} {i : ι}
    (hr : Released h k i) : Granted h k i := by
  induction h with
  | nil => simp [Released] at hr
  | cons ev h ih =>
      cases ev with
      | grant k' i' t e =>
          exact granted_cons_grant.mpr (Or.inr (ih hl.2.2 (released_cons_grant.mp hr)))
      | renew k' i' t e => exact granted_cons_renew.mpr (ih hl.2.2 (released_cons_renew.mp hr))
      | use k' i' t => exact granted_cons_use.mpr (ih hl.2.2 (released_cons_use.mp hr))
      | release k' i' t =>
          rw [granted_cons_release]
          rcases released_cons_release.mp hr with ⟨rfl, rfl⟩ | hr
          · exact granted_of_holder hl.1.1
          · exact ih hl.2.2 hr

/-- An id is granted on one key only. -/
theorem Lawful.key_unique {h : List (Event κ ι τ)} (hl : Lawful h) {k k' : κ} {i : ι}
    (hk : Granted h k i) (hk' : Granted h k' i) : k = k' := by
  induction h with
  | nil => simp [Granted] at hk
  | cons ev h ih =>
      cases ev with
      | grant k₀ i₀ t e =>
          rcases granted_cons_grant.mp hk with ⟨rfl, rfl⟩ | hk1
          · rcases granted_cons_grant.mp hk' with ⟨rfl, -⟩ | hk2
            · rfl
            · exact absurd hk2 (hl.1.1 k')
          · rcases granted_cons_grant.mp hk' with ⟨rfl, rfl⟩ | hk2
            · exact absurd hk1 (hl.1.1 k)
            · exact ih hl.2.2 hk1 hk2
      | renew k₀ i₀ t e =>
          exact ih hl.2.2 (granted_cons_renew.mp hk) (granted_cons_renew.mp hk')
      | use k₀ i₀ t => exact ih hl.2.2 (granted_cons_use.mp hk) (granted_cons_use.mp hk')
      | release k₀ i₀ t =>
          exact ih hl.2.2 (granted_cons_release.mp hk) (granted_cons_release.mp hk')

/-- A lease that has ended stays ended, whatever the service does next. -/
theorem Lawful.ended_append {later h : List (Event κ ι τ)} {k : κ} {i : ι} {t : τ}
    (hl : Lawful (later ++ h)) (hg : Granted h k i) (he : Ended h k i t)
    (ht : ∀ ev ∈ later, t ≤ ev.time) : Ended (later ++ h) k i t := by
  induction later with
  | nil => exact he
  | cons ev later ih =>
      obtain ⟨hallow, -, hrest⟩ := hl
      have hend : Ended (later ++ h) k i t := ih hrest fun ev' hm => ht ev' (by simp [hm])
      have hgr : Granted (later ++ h) k i := hg.append later
      have htime : t ≤ ev.time := ht ev (by simp)
      rcases hend with hr | ⟨e, hexp, hle⟩
      · -- a release is never undone
        left
        obtain ⟨t', hm⟩ := hr
        exact ⟨t', by simp [hm]⟩
      · right
        refine ⟨e, ?_, hle⟩
        cases ev with
        | grant k' j t' e' =>
            -- the new id is fresh, so it is not `i`
            have hne : j ≠ i := fun hj => hallow.1 k (hj ▸ hgr)
            simpa [expiry, hne] using hexp
        | renew k' j t' e' =>
            -- a renewal of `i` needs it live, but it has ended
            have hne : j ≠ i := by
              rintro rfl
              have hkk : k' = k :=
                hrest.key_unique (granted_of_holder hallow.1) hgr
              subst hkk
              exact hallow.not_ended (Or.inr ⟨e, hexp, hle.trans htime⟩)
            simpa [expiry, hne] using hexp
        | use k' j t' => exact hexp
        | release k' j t' => exact hexp

/-- Once a lease has ended, it is neither renewed nor used again. -/
theorem Lawful.not_live_of_ended {later h : List (Event κ ι τ)} {k : κ} {i : ι} {t t' : τ}
    (hl : Lawful (later ++ h)) (hg : Granted h k i) (he : Ended h k i t)
    (ht : ∀ ev ∈ later, t ≤ ev.time) (htt : t ≤ t') : ¬ Live (later ++ h) k i t' :=
  fun hlive => hlive.not_ended ((hl.ended_append hg he ht).mono htt)

/-! ## Lease tables -/

/-- The table (id and expiry of the lease recorded on a key) stands for the
history at time `now`: a recorded lease is the latest grant of its key, not
released, under its current expiry; and a lease that has not ended is
recorded. Ended leases may stay in the table until they are pruned. -/
structure Tracks (h : List (Event κ ι τ)) (table : κ → Option (ι × τ)) (now : τ) : Prop where
  lawful : Lawful h
  past : ∀ ev ∈ h, ev.time ≤ now
  recorded : ∀ k i e, table k = some (i, e) →
    holder h k = some i ∧ ¬ Released h k i ∧ expiry h i = some e
  kept : ∀ k i, Granted h k i → Ended h k i now ∨ ∃ e, table k = some (i, e)

variable {h : List (Event κ ι τ)} {table : κ → Option (ι × τ)} {now : τ}

theorem Tracks.nil : Tracks ([] : List (Event κ ι τ)) (fun _ => none) now where
  lawful := trivial
  past := by simp
  recorded := by simp
  kept := by simp [Granted]

theorem Tracks.past_cons (ht : Tracks h table now) {ev : Event κ ι τ} (hev : ev.time = now) :
    ∀ ev' ∈ ev :: h, ev'.time ≤ now := by
  intro ev' hm
  rcases List.mem_cons.mp hm with rfl | hm
  · exact hev.le
  · exact ht.past ev' hm

theorem Tracks.granted (ht : Tracks h table now) {k : κ} {i : ι} {e : τ}
    (hk : table k = some (i, e)) : Granted h k i :=
  granted_of_holder (ht.recorded k i e hk).1

theorem Tracks.live (ht : Tracks h table now) {k : κ} {i : ι} {e : τ}
    (hk : table k = some (i, e)) (he : now < e) : Live h k i now := by
  obtain ⟨hh, hr, hexp⟩ := ht.recorded k i e hk
  exact ⟨hh, hr, e, hexp, he⟩

theorem Tracks.advance (ht : Tracks h table now) {now' : τ} (hn : now ≤ now') :
    Tracks h table now' where
  lawful := ht.lawful
  past ev hm := (ht.past ev hm).trans hn
  recorded := ht.recorded
  kept k i hg := by
    rcases ht.kept k i hg with he | hrec
    · exact Or.inl (he.mono hn)
    · exact Or.inr hrec

/-- Dropping expired entries. -/
theorem Tracks.prune (ht : Tracks h table now) :
    Tracks h (fun k => (table k).filter fun p => now < p.2) now where
  lawful := ht.lawful
  past := ht.past
  recorded k i e hk := ht.recorded k i e (Option.eq_some_of_filter_eq_some hk)
  kept k i hg := by
    rcases ht.kept k i hg with he | ⟨e, hk⟩
    · exact Or.inl he
    · by_cases hlt : now < e
      · exact Or.inr ⟨e, by simp [hk, hlt]⟩
      · -- pruned, and so past its expiry
        exact Or.inl (Or.inr ⟨e, (ht.recorded k i e hk).2.2, not_lt.mp hlt⟩)

/-- Granting a fresh id on a key with no entry. -/
theorem Tracks.grant (ht : Tracks h table now) {k : κ} {i : ι} (e : τ)
    (hfresh : ∀ k', ¬ Granted h k' i) (hfree : table k = none) :
    Tracks (.grant k i now e :: h) (Function.update table k (some (i, e))) now where
  lawful := by
    refine ⟨⟨hfresh, fun j hj => ?_⟩, ht.past, ht.lawful⟩
    -- a former lease of the key that had not ended would still be recorded
    rcases ht.kept k j hj with he | ⟨e', hk⟩
    · exact he
    · rw [hfree] at hk
      cases hk
  past := ht.past_cons rfl
  recorded k' j e' hk' := by
    rw [released_cons_grant]
    by_cases hkk : k' = k
    · subst hkk
      simp only [Function.update_self, Option.some.injEq, Prod.mk.injEq] at hk'
      obtain ⟨rfl, rfl⟩ := hk'
      refine ⟨by simp [holder], fun hr => ?_, by simp [expiry]⟩
      exact hfresh k' (ht.lawful.granted_of_released hr)
    · rw [Function.update_of_ne hkk] at hk'
      obtain ⟨hh, hr, hexp⟩ := ht.recorded k' j e' hk'
      have hne : i ≠ j := fun hij => hfresh k' (hij ▸ ht.granted hk')
      exact ⟨by simpa [holder, Ne.symm hkk] using hh, hr, by simpa [expiry, hne] using hexp⟩
  kept k' j hg := by
    rcases granted_cons_grant.mp hg with ⟨rfl, rfl⟩ | hg
    · exact Or.inr ⟨e, by simp⟩
    · have hne : i ≠ j := fun hij => hfresh k' (hij ▸ hg)
      rcases ht.kept k' j hg with hr | ⟨e', hk'⟩
      · left
        simpa [Ended, expiry, hne] using hr
      · right
        have hkk : k' ≠ k := by
          rintro rfl
          rw [hfree] at hk'
          cases hk'
        exact ⟨e', by rwa [Function.update_of_ne hkk]⟩

/-- Renewing the live lease of a key. -/
theorem Tracks.renew (ht : Tracks h table now) {k : κ} {i : ι} {e : τ} (e' : τ)
    (hk : table k = some (i, e)) (he : now < e) :
    Tracks (.renew k i now e' :: h) (Function.update table k (some (i, e'))) now where
  lawful := ⟨ht.live hk he, ht.past, ht.lawful⟩
  past := ht.past_cons rfl
  recorded k' j e₀ hk' := by
    rw [released_cons_renew]
    by_cases hkk : k' = k
    · subst hkk
      simp only [Function.update_self, Option.some.injEq, Prod.mk.injEq] at hk'
      obtain ⟨rfl, rfl⟩ := hk'
      obtain ⟨hh, hr, -⟩ := ht.recorded k' i e hk
      exact ⟨hh, hr, by simp [expiry]⟩
    · rw [Function.update_of_ne hkk] at hk'
      obtain ⟨hh, hr, hexp⟩ := ht.recorded k' j e₀ hk'
      have hne : i ≠ j := by
        rintro rfl
        exact hkk (ht.lawful.key_unique (ht.granted hk') (ht.granted hk))
      exact ⟨hh, hr, by simpa [expiry, hne] using hexp⟩
  kept k' j hg := by
    have hg := granted_cons_renew.mp hg
    by_cases hij : i = j
    · -- the renewed lease itself, on the one key it was granted on
      subst hij
      have hkk : k' = k := ht.lawful.key_unique hg (ht.granted hk)
      subst hkk
      exact Or.inr ⟨e', by simp⟩
    · rcases ht.kept k' j hg with hr | ⟨e₀, hk'⟩
      · left
        simpa [Ended, expiry, hij] using hr
      · right
        have hkk : k' ≠ k := by
          rintro rfl
          rw [hk] at hk'
          cases hk'
          exact hij rfl
        exact ⟨e₀, by rwa [Function.update_of_ne hkk]⟩

/-- Acting under the live lease of a key. -/
theorem Tracks.use (ht : Tracks h table now) {k : κ} {i : ι} {e : τ}
    (hk : table k = some (i, e)) (he : now < e) : Tracks (.use k i now :: h) table now where
  lawful := ⟨ht.live hk he, ht.past, ht.lawful⟩
  past := ht.past_cons rfl
  recorded k' j e' hk' := by
    rw [released_cons_use]
    exact ht.recorded k' j e' hk'
  kept k' j hg := by
    rcases ht.kept k' j (granted_cons_use.mp hg) with hr | hrec
    · left
      simpa [Ended, expiry] using hr
    · exact Or.inr hrec

/-- Releasing the recorded lease of a key, expired or not. -/
theorem Tracks.release (ht : Tracks h table now) {k : κ} {i : ι} {e : τ}
    (hk : table k = some (i, e)) :
    Tracks (.release k i now :: h) (Function.update table k none) now where
  lawful := by
    obtain ⟨hh, hr, -⟩ := ht.recorded k i e hk
    exact ⟨⟨hh, hr⟩, ht.past, ht.lawful⟩
  past := ht.past_cons rfl
  recorded k' j e' hk' := by
    have hkk : k' ≠ k := by
      rintro rfl
      simp at hk'
    rw [Function.update_of_ne hkk] at hk'
    obtain ⟨hh, hr, hexp⟩ := ht.recorded k' j e' hk'
    refine ⟨hh, fun hrel => ?_, hexp⟩
    rcases released_cons_release.mp hrel with ⟨hkk', -⟩ | hrel
    · exact hkk hkk'.symm
    · exact hr hrel
  kept k' j hg := by
    rcases ht.kept k' j (granted_cons_release.mp hg) with he | ⟨e', hk'⟩
    · exact Or.inl he.cons_release
    · by_cases hkk : k' = k
      · -- what the key recorded is what was released
        subst hkk
        rw [hk] at hk'
        cases hk'
        exact Or.inl (Or.inl (released_cons_release.mpr (Or.inl ⟨rfl, rfl⟩)))
      · exact Or.inr ⟨e', by rwa [Function.update_of_ne hkk]⟩

end LeaseHistory
