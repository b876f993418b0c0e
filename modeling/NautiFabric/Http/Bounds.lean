import NautiFabric.Http.Response
import NautiFabric.Lib.Checked

/-!
# NautiFabric.Http.Bounds — where the head stops, and what the loop may touch

* A head ends with CR LF CR LF or with LF LF, whichever comes first. `findHeaderEnd` looks
  for CR LF CR LF in all of the response before it looks for LF LF, so it is right exactly
  if no LF LF stands before a CR LF CR LF; else a part of the body is taken for the head.
* `Decoding.round` is a round of the loop of `dechunk` with its addition and its slices
  checked. It never panics and it is a round of `dechunkLoop`, so the loop ends after no
  more rounds than there are bytes.
-/

namespace NautiFabric

open Subslice
open Checked (Progress Reached)

/-! ## The end of the head -/

/-- What ends a head. -/
def terminators : List (List UInt8) := [crlf ++ crlf, [0x0A, 0x0A]]

/-- `stop` is just past the terminator that starts earliest. -/
def HeaderEnd (raw : List UInt8) (stop : ℕ) : Prop :=
  ∃ terminator ∈ terminators, ∃ i, FirstOf terminators raw i ∧ terminator <+: raw.drop i ∧
    stop = i + terminator.length

/-- `findHeaderEnd` finds the first terminator. -/
structure FindsFirst (raw : List UInt8) : Prop where
  isSome_iff : (findHeaderEnd raw).isSome ↔ ∃ terminator ∈ terminators, terminator <:+: raw
  first : ∀ n, findHeaderEnd raw = some n → HeaderEnd raw n
  no_body : ∀ n stop, findHeaderEnd raw = some n → HeaderEnd raw stop → n ≤ stop

theorem mem_terminators {terminator : List UInt8} :
    terminator ∈ terminators ↔ terminator = crlf ++ crlf ∨ terminator = [0x0A, 0x0A] := by
  unfold terminators
  rw [List.mem_cons, List.mem_singleton]

/-- Each of the two begins with another byte, or goes on with one. -/
theorem terminator_eq {terminator terminator' rest : List UInt8}
    (hmem : terminator ∈ terminators) (hmem' : terminator' ∈ terminators)
    (h : terminator <+: rest) (h' : terminator' <+: rest) : terminator = terminator' := by
  rcases mem_terminators.mp hmem with rfl | rfl <;> rcases mem_terminators.mp hmem' with rfl | rfl
  · rfl
  · exact (starts_unique h h' (by decide) (by decide)).elim
  · exact (starts_unique h h' (by decide) (by decide)).elim
  · rfl

theorem HeaderEnd.unique {raw : List UInt8} {stop stop' : ℕ} (h : HeaderEnd raw stop)
    (h' : HeaderEnd raw stop') : stop = stop' := by
  obtain ⟨terminator, hmem, i, hfirst, hstarts, rfl⟩ := h
  obtain ⟨terminator', hmem', j, hfirst', hstarts', rfl⟩ := h'
  have hij := hfirst.unique hfirst'
  subst hij
  rw [terminator_eq hmem hmem' hstarts hstarts']

/-- What `findHeaderEnd` looks for, and in which order. -/
theorem findHeaderEnd_eq_some_iff {raw : List UInt8} {n : ℕ} :
    findHeaderEnd raw = some n ↔
      (∃ i, FirstAt (crlf ++ crlf) raw i ∧ n = i + 4) ∨
        (∀ i, ¬ (crlf ++ crlf) <+: raw.drop i) ∧ ∃ i, FirstAt [0x0A, 0x0A] raw i ∧ n = i + 2 := by
  unfold findHeaderEnd findSubslice
  rcases hfind : find (crlf ++ crlf) raw with _ | i
  · have hnone := (find_eq_none_iff (by decide)).mp hfind
    dsimp only
    rw [Option.map_eq_some_iff]
    constructor
    · rintro ⟨i, hi, rfl⟩
      exact .inr ⟨hnone, i, (find_eq_some_iff (by decide)).mp hi, rfl⟩
    · -- where there is no CR LF CR LF, the first case is empty
      rintro (⟨i, hi, -⟩ | ⟨-, i, hi, rfl⟩)
      · exact absurd hi.starts (hnone i)
      · exact ⟨i, (find_eq_some_iff (by decide)).mpr hi, rfl⟩
  · have hfirst := (find_eq_some_iff (by decide)).mp hfind
    dsimp only
    rw [Option.some.injEq]
    constructor
    · intro h
      exact .inl ⟨i, hfirst, h.symm⟩
    · rintro (⟨j, hj, rfl⟩ | ⟨hnone, -⟩)
      · have hfind' := (find_eq_some_iff (by decide)).mpr hj
        rw [hfind, Option.some.injEq] at hfind'
        rw [hfind']
      · exact absurd hfirst.starts (hnone i)

/-- Something is found exactly if there is a terminator, whichever comes first. -/
theorem isSome_findHeaderEnd_iff (raw : List UInt8) :
    (findHeaderEnd raw).isSome ↔ ∃ terminator ∈ terminators, terminator <:+: raw := by
  constructor
  · intro h
    obtain ⟨n, hn⟩ := Option.isSome_iff_exists.mp h
    rcases findHeaderEnd_eq_some_iff.mp hn with ⟨i, hi, -⟩ | ⟨-, i, hi, -⟩
    · exact ⟨_, mem_terminators.mpr (.inl rfl), isInfix_iff_starts.mpr ⟨i, hi.starts⟩⟩
    · exact ⟨_, mem_terminators.mpr (.inr rfl), isInfix_iff_starts.mpr ⟨i, hi.starts⟩⟩
  · rintro ⟨terminator, hmem, hinfix⟩
    obtain ⟨i, hstarts⟩ := isInfix_iff_starts.mp hinfix
    unfold findHeaderEnd findSubslice
    rcases hcrlf : find (crlf ++ crlf) raw with _ | j
    · rcases mem_terminators.mp hmem with rfl | rfl
      · exact absurd hstarts ((find_eq_none_iff (by decide)).mp hcrlf i)
      · rcases hlf : find [0x0A, 0x0A] raw with _ | j
        · exact absurd hstarts ((find_eq_none_iff (by decide)).mp hlf i)
        · rfl
    · rfl

/-- The answer is the first terminator exactly if no LF LF stands before the first
CR LF CR LF. -/
theorem findsFirst_iff (raw : List UInt8) :
    FindsFirst raw ↔
      ∀ i, FirstAt (crlf ++ crlf) raw i → ∀ j < i, ¬ [0x0A, 0x0A] <+: raw.drop j := by
  have hcrlf : crlf ++ crlf ∈ terminators := mem_terminators.mpr (.inl rfl)
  have hlf : [0x0A, 0x0A] ∈ terminators := mem_terminators.mpr (.inr rfl)
  constructor
  · intro h i hi j hj hstarts
    have hend := h.first (i + 4) (findHeaderEnd_eq_some_iff.mpr (.inl ⟨i, hi, rfl⟩))
    obtain ⟨terminator, hmem, k, hfirst, hk, hstop⟩ := hend
    rcases mem_terminators.mp hmem with rfl | rfl
    · have hik : i + 4 = k + 4 := hstop
      exact hfirst.earlier _ hlf j (by omega) hstarts
    · -- the LF LF that ends there is the tail of the CR LF CR LF
      have hik : i + 4 = k + 2 := hstop
      exact hfirst.earlier _ hcrlf i (by omega) hi.starts
  · intro h
    have hfirst : ∀ n, findHeaderEnd raw = some n → HeaderEnd raw n := by
      intro n hn
      rcases findHeaderEnd_eq_some_iff.mp hn with ⟨i, hi, rfl⟩ | ⟨hnone, i, hi, rfl⟩
      · refine ⟨_, hcrlf, i, ⟨⟨_, hcrlf, hi.starts⟩, ?_⟩, hi.starts, rfl⟩
        intro terminator hmem j hj
        rcases mem_terminators.mp hmem with rfl | rfl
        · exact hi.earlier j hj
        · exact h i hi j hj
      · refine ⟨_, hlf, i, ⟨⟨_, hlf, hi.starts⟩, ?_⟩, hi.starts, rfl⟩
        intro terminator hmem j hj
        rcases mem_terminators.mp hmem with rfl | rfl
        · exact hnone j
        · exact hi.earlier j hj
    refine ⟨isSome_findHeaderEnd_iff raw, hfirst, ?_⟩
    intro n stop hn hstop
    exact ((hfirst n hn).unique hstop).le

/-- The lines of this head end with LF, and in its body there is a blank line of CR LF. -/
def mixedResponse : List UInt8 := asBytes "HTTP/1.1 200 OK\n\na\r\n\r\nb"

theorem not_findsFirst_mixedResponse : ¬ FindsFirst mixedResponse := by
  intro h
  have hend : HeaderEnd mixedResponse 17 := by
    refine ⟨[0x0A, 0x0A], by decide, 15, ⟨⟨[0x0A, 0x0A], by decide, ?_⟩, ?_⟩, ?_, rfl⟩
    · decide +kernel
    · decide +kernel
    · decide +kernel
  have hle := h.no_body 22 17 (by decide +kernel) hend
  omega

/-! ## The loop of `dechunk` -/

/-- A byte slice. Nothing in memory is larger than `isize::MAX` bytes. -/
structure ByteSlice where
  bytes : List UInt8
  length_le : bytes.length ≤ 2 ^ 63 - 1

/-- What the loop has written, and what it has not read yet. -/
structure Decoding where
  out : List UInt8
  rest : List UInt8

namespace Decoding

def first (body : List UInt8) : Decoding := ⟨[], body⟩

/-- A round, with every addition and every slice as the program does it. `none` is a
`break`. -/
def round (s : Decoding) : Except Checked.Panic (Option Decoding) := do
  let lineEnd := (findSubslice s.rest crlf).getD s.rest.length
  let line ← Checked.slice s.rest 0 lineEnd
  match chunkSize line with
  | none => .ok none
  | some len =>
    if len = 0 then .ok none
    else do
      let start ← Checked.add 64 lineEnd 2
      match (checkedAdd start len).filter fun stop => stop ≤ s.rest.length with
      | none => .ok none
      | some stop => do
        let data ← Checked.slice s.rest start stop
        let rest' ← Checked.slice s.rest
          (min (saturatingAdd (min stop s.rest.length) 2) s.rest.length) s.rest.length
        .ok (some ⟨s.out ++ data, rest'⟩)

/-- A round of the loop that nothing is checked in. -/
def next (s : Decoding) : Option Decoding :=
  (nextChunk s.rest).map fun chunk => ⟨s.out ++ chunk.1, chunk.2⟩

variable {s s' : Decoding}

theorem next_eq_some_iff :
    s.next = some s' ↔
      ∃ data, nextChunk s.rest = some (data, s'.rest) ∧ s'.out = s.out ++ data := by
  unfold next
  rw [Option.map_eq_some_iff]
  constructor
  · rintro ⟨⟨data, rest'⟩, hnext, rfl⟩
    exact ⟨data, hnext, rfl⟩
  · rintro ⟨data, hnext, hout⟩
    refine ⟨_, hnext, ?_⟩
    rw [← hout]

theorem lineEnd_le (rest : List UInt8) :
    (findSubslice rest crlf).getD rest.length ≤ rest.length := by
  rcases hline : findSubslice rest crlf with _ | lineEnd
  · exact Nat.le_refl _
  · have hfirst := (find_eq_some_iff (by decide)).mp hline
    have hle := add_length_le_of_starts (by decide) hfirst.starts
    rw [Option.getD_some]
    omega

/-- On what can be in memory a round does not panic. -/
theorem round_eq (h : s.rest.length ≤ 2 ^ 63 - 1) : s.round = .ok s.next := by
  have hline := lineEnd_le s.rest
  unfold round next nextChunk
  dsimp only
  generalize (findSubslice s.rest crlf).getD s.rest.length = lineEnd at hline
  rw [Checked.slice_zero hline, Checked.ok_bind]
  rcases chunkSize (s.rest.take lineEnd) with _ | len
  · rfl
  · dsimp only
    by_cases hlen : len = 0
    · rw [if_pos hlen, if_pos hlen]
      rfl
    · rw [if_neg hlen, if_neg hlen]
      -- the one plain addition: `lineEnd` is a length
      have hstart : Checked.add 64 lineEnd 2 = .ok (lineEnd + 2) :=
        Checked.add_eq_ok_iff.mpr ⟨by omega, rfl⟩
      rw [hstart, Checked.ok_bind]
      rcases hstop : (checkedAdd (lineEnd + 2) len).filter fun stop => stop ≤ s.rest.length
        with _ | stop
      · rfl
      · -- the filter has let through only what is in the slice
        obtain ⟨-, hwhole, rfl⟩ := checkedAdd_filter_eq_some_iff.mp hstop
        have hdata : Checked.slice s.rest (lineEnd + 2) (lineEnd + 2 + len) =
            .ok ((s.rest.take (lineEnd + 2 + len)).drop (lineEnd + 2)) :=
          Checked.slice_eq_ok_iff.mpr ⟨by omega, hwhole, rfl⟩
        dsimp only
        rw [hdata, Checked.ok_bind, Checked.slice_length (Nat.min_le_right _ _), Checked.ok_bind]
        rfl

/-- What is left fits in memory, and decoding it ends as decoding the body does. -/
structure Inv (body : List UInt8) (s : Decoding) : Prop where
  length_le : s.rest.length ≤ 2 ^ 63 - 1
  decodes : dechunkLoop s.out s.rest = dechunkLoop [] body

theorem progress (body : List UInt8) :
    Progress round (Inv body) fun s => s.rest.length where
  safe := by
    intro s hs
    exact ⟨s.next, round_eq hs.length_le⟩
  keeps := by
    intro s s' hs hround
    rw [round_eq hs.length_le, Except.ok.injEq, next_eq_some_iff] at hround
    obtain ⟨data, hnext, hout⟩ := hround
    constructor
    · have hlt := length_lt_of_nextChunk hnext
      have hle := hs.length_le
      omega
    · rw [hout, ← dechunkLoop_of_some hnext]
      exact hs.decodes
  falls := by
    intro s s' hs hround
    rw [round_eq hs.length_le, Except.ok.injEq, next_eq_some_iff] at hround
    obtain ⟨data, hnext, -⟩ := hround
    exact length_lt_of_nextChunk hnext

end Decoding

/-- Whatever the bytes are: no round panics, every round that goes on leaves less than
there was, and so the loop ends, with what `dechunk` decodes. -/
theorem dechunk_in_bounds (body : ByteSlice) :
    (∀ s, Reached Decoding.round (.first body.bytes) s →
      ∃ next, s.round = .ok next ∧ ∀ s', next = some s' → s'.rest.length < s.rest.length) ∧
    ∃ s, Checked.loop Decoding.round (body.bytes.length + 1) (.first body.bytes) = .ok (some s) ∧
      s.out = dechunkLoop [] body.bytes := by
  have hprogress := Decoding.progress body.bytes
  have hfirst : Decoding.Inv body.bytes (.first body.bytes) := ⟨body.length_le, rfl⟩
  constructor
  · intro s hreached
    have hs := hprogress.of_reached hfirst hreached
    obtain ⟨next, hround⟩ := hprogress.safe s hs
    refine ⟨next, hround, ?_⟩
    rintro s' rfl
    exact hprogress.falls s s' hs hround
  · obtain ⟨s, hloop, hs, hround⟩ := hprogress.loop_eq_ok hfirst (Nat.lt_succ_self _)
    refine ⟨s, hloop, ?_⟩
    -- the loop has stopped where no chunk is left
    rw [Decoding.round_eq hs.length_le, Except.ok.injEq] at hround
    unfold Decoding.next at hround
    rw [← hs.decodes, dechunkLoop_of_none (Option.map_eq_none_iff.mp hround)]

end NautiFabric
