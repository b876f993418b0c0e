import Mathlib.Tactic.Common

/-!
# Streams that are read in pieces

A source delivers a list of elements in pieces that it chooses: the `i`-th read
gets at most `piece i + 1` of what it asks for, and at least one element while
there is one. At the end of the list a source either ends, so that a read gets
nothing, or fails. `readExact` asks again until it has all it wants.

What `readExact` returns and leaves does not depend on the pieces:
`readExact_of_le` where the stream is long enough, `readExact_of_lt` where it is
not.
-/

universe u v

structure Source (α : Type u) (ε : Type v) where
  /-- what was not read yet -/
  rest : List α
  piece : ℕ → ℕ
  reads : ℕ
  /-- the error in which the stream ends, if it ends in one -/
  ending : Option ε

namespace Source

variable {α : Type u} {ε : Type v}

inductive ReadError (ε : Type v) where
  | unexpectedEof
  | failed (error : ε)
deriving DecidableEq

/-- One read of at most `want` elements; nothing at the end of the stream. -/
def read (want : ℕ) (src : Source α ε) : Except ε (List α) × Source α ε :=
  match src.rest, src.ending with
  | [], some error => (.error error, src)
  | [], none => (.ok [], src)
  | _ :: _, _ =>
    let size := min want (src.piece src.reads + 1)
    (.ok (src.rest.take size), { src with rest := src.rest.drop size, reads := src.reads + 1 })

/-- The loop of `readExact`. A read that gets anything gets an element at least, so
`want` turns are enough. -/
def readLoop : (turns want : ℕ) → Source α ε → Except (ReadError ε) (List α) × Source α ε
  | _, 0, src => (.ok [], src)
  | 0, _ + 1, src => (.error .unexpectedEof, src)
  | turns + 1, want + 1, src =>
    match src.read (want + 1) with
    | (.error error, src) => (.error (.failed error), src)
    | (.ok [], src) => (.error .unexpectedEof, src)
    | (.ok (a :: l), src) =>
      match readLoop turns (want - l.length) src with
      | (.error error, src) => (.error error, src)
      | (.ok more, src) => (.ok (a :: l ++ more), src)

/-- Read `want` elements. -/
def readExact (want : ℕ) (src : Source α ε) : Except (ReadError ε) (List α) × Source α ε :=
  readLoop want want src

/-- What a read beyond the end of the stream says. -/
def endError (src : Source α ε) : ReadError ε :=
  match src.ending with
  | none => .unexpectedEof
  | some error => .failed error

/-- Before the end a read gets some elements from the front. -/
theorem read_of_ne_nil {src : Source α ε} (want : ℕ) (h : src.rest ≠ []) :
    ∃ (a : α) (l : List α) (src' : Source α ε), src.read (want + 1) = (.ok (a :: l), src') ∧
      l.length ≤ want ∧ src.rest = a :: l ++ src'.rest ∧ src'.ending = src.ending := by
  rcases hrest : src.rest with _ | ⟨a, l⟩
  · exact absurd hrest h
  · obtain ⟨size, hsize, hwant⟩ :
        ∃ size, min (want + 1) (src.piece src.reads + 1) = size + 1 ∧ size ≤ want :=
      ⟨min want (src.piece src.reads), by omega, by omega⟩
    refine ⟨a, l.take size, { src with rest := l.drop size, reads := src.reads + 1 }, ?_, ?_, ?_,
      rfl⟩
    · unfold read
      rw [hrest]
      dsimp only
      rw [hsize, List.take_succ_cons, List.drop_succ_cons]
    · rw [List.length_take]
      omega
    · simp

theorem read_of_nil {src : Source α ε} (want : ℕ) (h : src.rest = []) :
    src.read want =
      (match src.ending with
        | none => .ok []
        | some error => .error error, src) := by
  unfold read
  rw [h]
  rcases src.ending with _ | error
  · rfl
  · rfl

/-- A loop with enough turns gets what it wants from the front of the stream, or
all of the stream and the error at its end. -/
theorem readLoop_spec {turns want : ℕ} (src : Source α ε) (hturns : want ≤ turns) :
    ((readLoop turns want src).1 =
      if want ≤ src.rest.length then .ok (src.rest.take want) else .error src.endError) ∧
    (readLoop turns want src).2.rest = src.rest.drop want ∧
    (readLoop turns want src).2.ending = src.ending := by
  -- on the turns; a turn takes at least one element off what is wanted
  induction turns generalizing want src with
  | zero =>
      have hwant : want = 0 := by omega
      subst hwant
      simp [readLoop]
  | succ turns ih =>
      cases want with
      | zero => simp [readLoop]
      | succ want =>
          by_cases hnil : src.rest = []
          · unfold readLoop
            rw [read_of_nil (want + 1) hnil]
            rcases hending : src.ending with _ | error
            · simp [endError, hending, hnil]
            · simp [endError, hending, hnil]
          · obtain ⟨a, l, src', hread, hlen, hrest, hending⟩ := read_of_ne_nil want hnil
            have hloop := ih src' (show want - l.length ≤ turns by omega)
            obtain ⟨hreply, hleft, hend⟩ := hloop
            have hlength : src.rest.length = l.length + 1 + src'.rest.length := by
              rw [hrest, List.length_append, List.length_cons]
            have htake : src.rest.take (want + 1) = a :: l ++ src'.rest.take (want - l.length) := by
              rw [hrest, List.take_append, List.length_cons]
              rw [List.take_of_length_le (by simp; omega)]
              congr 2
              omega
            have hdrop : src.rest.drop (want + 1) = src'.rest.drop (want - l.length) := by
              rw [hrest, List.drop_append, List.length_cons]
              rw [List.drop_eq_nil_of_le (by simp; omega), List.nil_append]
              congr 1
              omega
            have herror : src'.endError = src.endError := by
              unfold endError
              rw [hending]
            unfold readLoop
            rw [hread, hdrop, htake, ← hending]
            dsimp only
            generalize readLoop turns (want - l.length) src' = result at hreply hleft hend
            obtain ⟨reply, src''⟩ := result
            dsimp only at hreply hleft hend
            subst hreply
            by_cases henough : want + 1 ≤ src.rest.length
            · rw [if_pos henough, if_pos (show want - l.length ≤ src'.rest.length by omega)]
              exact ⟨rfl, hleft, hend⟩
            · rw [if_neg henough, if_neg (show ¬ want - l.length ≤ src'.rest.length by omega)]
              rw [herror]
              exact ⟨rfl, hleft, hend⟩

section ReadExact

variable {want : ℕ} (src : Source α ε)

theorem readExact_of_le (h : want ≤ src.rest.length) :
    ∃ src' : Source α ε, src.readExact want = (.ok (src.rest.take want), src') ∧
      src'.rest = src.rest.drop want ∧ src'.ending = src.ending := by
  obtain ⟨hreply, hleft, hend⟩ := readLoop_spec src (Nat.le_refl want)
  rw [if_pos h] at hreply
  exact ⟨_, Prod.ext hreply rfl, hleft, hend⟩

theorem readExact_of_lt (h : src.rest.length < want) :
    ∃ src' : Source α ε, src.readExact want = (.error src.endError, src') := by
  obtain ⟨hreply, -, -⟩ := readLoop_spec src (Nat.le_refl want)
  rw [if_neg (by omega)] at hreply
  exact ⟨_, Prod.ext hreply rfl⟩

end ReadExact

end Source
