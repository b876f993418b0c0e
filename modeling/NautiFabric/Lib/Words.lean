import Mathlib

/-!
# The words of a text

`words isWord l` cuts `l` at every element that stands in no word. `edge` is what a
pattern's `\b` asks for: of the two neighbours at a place, one is in a word and the other
is not. By `mem_words_iff_edge` the words are what stands between two edges and holds
nothing but elements of words, so a search for such a pattern finds no part of a word and
leaves no word out.
-/

namespace Words

variable {α : Type*} {isWord : α → Bool} {l w before after : List α}

def words (isWord : α → Bool) (l : List α) : List (List α) := l.splitOnP fun c => !isWord c

/-- The place between `before` and `after` is the end of a word. -/
def edge (isWord : α → Bool) (before after : List α) : Bool :=
  before.getLast?.any isWord != after.head?.any isWord

theorem words_of_forall (h : ∀ c ∈ l, isWord c) : words isWord l = [l] := by
  apply List.splitOnP_eq_singleton
  intro c hc
  rw [h c hc]
  rfl

theorem words_append_cons {c : α} (hc : isWord c = false) (l l' : List α) :
    words isWord (l ++ c :: l') = words isWord l ++ words isWord l' := by
  apply List.splitOnP_append_cons
  rw [hc]
  rfl

/-- A text is one word, or has a first element that is in none. -/
theorem forall_or_exists (isWord : α → Bool) (l : List α) :
    (∀ c ∈ l, isWord c) ∨
      ∃ word c rest, l = word ++ c :: rest ∧ (∀ c ∈ word, isWord c) ∧ isWord c = false := by
  rcases hrest : l.dropWhile isWord with _ | ⟨c, rest⟩
  · exact .inl (List.dropWhile_eq_nil_iff.mp hrest)
  · refine .inr ⟨l.takeWhile isWord, c, rest, ?_, ?_, ?_⟩
    · rw [← hrest, List.takeWhile_append_dropWhile]
    · intro c hc
      exact List.mem_takeWhile_imp hc
    · have hhead := List.head_dropWhile_not isWord (l := l) (by rw [hrest]; simp)
      simpa only [hrest, List.head_cons] using hhead

/-- The words of a text are its longest parts that have no other elements. -/
theorem mem_words_iff :
    w ∈ words isWord l ↔
      ∃ before after, l = before ++ (w ++ after) ∧ (∀ c ∈ w, isWord c) ∧
        before.getLast?.any isWord = false ∧ after.head?.any isWord = false := by
  constructor
  · intro hw
    -- on the length: behind the first element that is in no word the text is shorter
    induction hn : l.length using Nat.strong_induction_on generalizing l with
    | h n ih =>
        subst hn
        rcases forall_or_exists isWord l with hall | ⟨word, c, rest, rfl, hword, hc⟩
        · rw [words_of_forall hall, List.mem_singleton] at hw
          subst hw
          exact ⟨[], [], by simp, hall, rfl, rfl⟩
        · rw [words_append_cons hc, words_of_forall hword, List.mem_append,
            List.mem_singleton] at hw
          rcases hw with rfl | hw
          · exact ⟨[], c :: rest, rfl, hword, rfl, hc⟩
          · have hlt : rest.length < (word ++ c :: rest).length := by
              rw [List.length_append, List.length_cons]
              omega
            obtain ⟨before, after, rfl, hall, hbefore, hafter⟩ := ih _ hlt hw rfl
            refine ⟨word ++ c :: before, after, by simp, hall, ?_, hafter⟩
            rw [List.getLast?_append]
            rcases before with _ | ⟨d, before⟩
            · exact hc
            · rw [List.getLast?_cons_cons, Option.or_of_isSome (by simp)]
              exact hbefore
  · rintro ⟨before, after, rfl, hall, hbefore, hafter⟩
    -- the word stands alone once the text is cut at its two neighbours
    have hend : w ∈ words isWord (w ++ after) := by
      rcases after with _ | ⟨c, after⟩
      · rw [List.append_nil, words_of_forall hall]
        exact List.mem_singleton_self w
      · have hc : isWord c = false := hafter
        rw [words_append_cons hc, words_of_forall hall]
        exact List.mem_append_left _ (List.mem_singleton_self w)
    rcases List.eq_nil_or_concat before with rfl | ⟨before, c, rfl⟩
    · exact hend
    · rw [List.concat_eq_append, List.getLast?_concat] at hbefore
      have hc : isWord c = false := hbefore
      rw [List.concat_eq_append, List.append_assoc, List.singleton_append, words_append_cons hc]
      exact List.mem_append_right _ hend

theorem edge_left_iff (hw : w ≠ []) (hall : ∀ c ∈ w, isWord c) :
    edge isWord before (w ++ after) ↔ before.getLast?.any isWord = false := by
  obtain ⟨c, w, rfl⟩ := List.exists_cons_of_ne_nil hw
  have hc : isWord c = true := hall c List.mem_cons_self
  unfold edge
  rw [List.cons_append, List.head?_cons, Option.any_some, hc, bne_iff_ne]
  exact (Bool.not_eq_true _).to_iff

theorem edge_right_iff (hw : w ≠ []) (hall : ∀ c ∈ w, isWord c) :
    edge isWord (before ++ w) after ↔ after.head?.any isWord = false := by
  have hlast : isWord (w.getLast hw) = true := hall _ (List.getLast_mem hw)
  unfold edge
  rw [List.getLast?_append, List.getLast?_eq_getLast_of_ne_nil hw, Option.some_or,
    Option.any_some, hlast, bne_iff_ne, ne_comm]
  exact (Bool.not_eq_true _).to_iff

theorem mem_words_iff_edge (hw : w ≠ []) :
    w ∈ words isWord l ↔
      ∃ before after, l = before ++ (w ++ after) ∧ (∀ c ∈ w, isWord c) ∧
        edge isWord before (w ++ after) ∧ edge isWord (before ++ w) after := by
  rw [mem_words_iff]
  constructor
  · rintro ⟨before, after, hl, hall, hbefore, hafter⟩
    exact ⟨before, after, hl, hall, (edge_left_iff hw hall).mpr hbefore,
      (edge_right_iff hw hall).mpr hafter⟩
  · rintro ⟨before, after, hl, hall, hbefore, hafter⟩
    exact ⟨before, after, hl, hall, (edge_left_iff hw hall).mp hbefore,
      (edge_right_iff hw hall).mp hafter⟩

end Words
