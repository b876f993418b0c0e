import NautiFabric.Http.Response

/-!
# NautiFabric.Http.Head — heads whose lines end with CR LF

`findHeaderEnd` finds the blank line of such a head, whatever the body is, and it
finds none in a part of the head.
-/

namespace NautiFabric

/-- A line of a head. -/
structure HeadLine where
  bytes : List UInt8
  nonempty : bytes ≠ []
  plain : ∀ b ∈ bytes, b ≠ 0x0D ∧ b ≠ 0x0A

/-- The lines, and then a blank one. -/
def renderHead (lines : List HeadLine) : List UInt8 :=
  (lines.flatMap fun line => line.bytes ++ crlf) ++ crlf

theorem renderHead_nil : renderHead [] = crlf := rfl

theorem renderHead_cons (line : HeadLine) (lines : List HeadLine) :
    renderHead (line :: lines) = line.bytes ++ crlf ++ renderHead lines := by
  simp [renderHead, List.append_assoc]

/-- What begins with a line does not begin with CR or LF. -/
theorem HeadLine.bytes_eq_cons (line : HeadLine) :
    ∃ b rest, line.bytes = b :: rest ∧ b ≠ 0x0D ∧ b ≠ 0x0A := by
  rcases hbytes : line.bytes with _ | ⟨b, rest⟩
  · exact absurd hbytes line.nonempty
  · obtain ⟨hcr, hlf⟩ := line.plain b (by simp [hbytes])
    exact ⟨b, rest, rfl, hcr, hlf⟩

theorem renderHead_eq_cons (lines : List HeadLine) :
    ∃ b rest, renderHead lines = b :: rest ∧ b ≠ 0x0A := by
  cases lines with
  | nil => exact ⟨0x0D, [0x0A], rfl, by decide⟩
  | cons line lines =>
      obtain ⟨b, rest, hbytes, -, hlf⟩ := line.bytes_eq_cons
      exact ⟨b, _, by rw [renderHead_cons, hbytes]; rfl, hlf⟩

/-! ## The blank line -/

/-- The search passes over a line up to its CR LF. -/
theorem findSubslice_line (line : HeadLine) (rest : List UInt8) :
    findSubslice (line.bytes ++ (crlf ++ rest)) (crlf ++ crlf) =
      (findSubslice (crlf ++ rest) (crlf ++ crlf)).map (line.bytes.length + ·) := by
  have hmem : (0x0D : UInt8) ∉ line.bytes := fun h => (line.plain _ h).1 rfl
  exact Subslice.find_append_of_not_mem hmem

/-- A CR LF in front of a line is not the beginning of a blank one. -/
theorem findSubslice_crlf (line : HeadLine) (lines : List HeadLine) (body : List UInt8) :
    findSubslice (crlf ++ (renderHead (line :: lines) ++ body)) (crlf ++ crlf) =
      (findSubslice (renderHead (line :: lines) ++ body) (crlf ++ crlf)).map (2 + ·) := by
  obtain ⟨b, rest, hbytes, hcr, -⟩ := line.bytes_eq_cons
  refine Subslice.find_append_left (by decide) ?_
  intro j hj hstarts
  rw [renderHead_cons, hbytes] at hstarts
  have hlt : j < 2 := hj
  obtain rfl | rfl : j = 0 ∨ j = 1 := by omega
  · -- behind the CR LF there is the line, and no CR
    simp [crlf] at hstarts
    exact hcr hstarts.1.symm
  · simp [crlf] at hstarts

theorem findSubslice_renderHead (line : HeadLine) (lines : List HeadLine) (body : List UInt8) :
    ∃ i, findSubslice (renderHead (line :: lines) ++ body) (crlf ++ crlf) = some i ∧
      i + 4 = (renderHead (line :: lines)).length := by
  induction lines generalizing line with
  | nil =>
      have hfound : findSubslice (crlf ++ crlf ++ body) (crlf ++ crlf) = some 0 :=
        Subslice.find_self_append (by decide) body
      refine ⟨line.bytes.length, ?_, ?_⟩
      · rw [List.append_assoc] at hfound
        rw [renderHead_cons, renderHead_nil, List.append_assoc, List.append_assoc,
          findSubslice_line, hfound]
        rfl
      · simp [renderHead, crlf]
  | cons line' lines ih =>
      obtain ⟨i, hfind, hi⟩ := ih line'
      refine ⟨line.bytes.length + (2 + i), ?_, ?_⟩
      · rw [renderHead_cons, List.append_assoc, List.append_assoc, findSubslice_line,
          findSubslice_crlf, hfind]
        rfl
      · rw [renderHead_cons, List.length_append, List.length_append, ← hi]
        show line.bytes.length + (2 + i) + 4 = line.bytes.length + 2 + (i + 4)
        omega

/-- Two LFs are never neighbours in a head. -/
theorem findSubslice_lf_renderHead (lines : List HeadLine) :
    findSubslice (renderHead lines) [0x0A, 0x0A] = none := by
  induction lines with
  | nil => decide
  | cons line lines ih =>
      have hmem : (0x0A : UInt8) ∉ line.bytes ++ [0x0D] := by
        intro h
        rcases List.mem_append.mp h with hline | hcr
        · exact (line.plain _ hline).2 rfl
        · simp at hcr
      obtain ⟨b, rest, hrender, hlf⟩ := renderHead_eq_cons lines
      have hmismatch : Subslice.find [0x0A, 0x0A] ([0x0A] ++ renderHead lines) =
          (Subslice.find [0x0A, 0x0A] (renderHead lines)).map (1 + ·) := by
        refine Subslice.find_append_left (by decide) ?_
        intro j hj hstarts
        have hzero : j = 0 := Nat.lt_one_iff.mp hj
        rw [hzero, hrender] at hstarts
        simp at hstarts
        exact hlf hstarts.symm
      have hsplit : renderHead (line :: lines) =
          line.bytes ++ [0x0D] ++ ([0x0A] ++ renderHead lines) := by
        simp [renderHead_cons, crlf]
      unfold findSubslice at ih ⊢
      rw [hsplit, Subslice.find_append_of_not_mem hmem, hmismatch, ih]
      rfl

theorem findHeaderEnd_renderHead (line : HeadLine) (lines : List HeadLine) (body : List UInt8) :
    findHeaderEnd (renderHead (line :: lines) ++ body) =
      some (renderHead (line :: lines)).length := by
  obtain ⟨i, hfind, hi⟩ := findSubslice_renderHead line lines body
  rw [findHeaderEnd, hfind, ← hi]

/-- In a part of a head there is no blank line. -/
theorem findHeaderEnd_of_cut {line : HeadLine} {lines : List HeadLine} {received : List UInt8}
    (hpre : received <+: renderHead (line :: lines))
    (hcut : received.length < (renderHead (line :: lines)).length) :
    findHeaderEnd received = none := by
  obtain ⟨rest, hrest⟩ := hpre
  have hcrlf : findSubslice received (crlf ++ crlf) = none := by
    rcases hfind : findSubslice received (crlf ++ crlf) with _ | i
    · rfl
    · -- it would be the blank line of the whole head
      obtain ⟨k, hk, hlength⟩ := findSubslice_renderHead line lines []
      have hsame := Subslice.find_append (by decide) hfind rest
      rw [hrest] at hsame
      rw [List.append_nil] at hk
      have hik : i = k := Option.some.inj (hsame.symm.trans hk)
      have hle := Subslice.add_length_le_of_starts (by decide)
        ((Subslice.find_eq_some_iff (by decide)).mp hfind).starts
      have hfour : (crlf ++ crlf).length = 4 := rfl
      omega
  have hlf : findSubslice received [0x0A, 0x0A] = none := by
    have hnone := findSubslice_lf_renderHead (line :: lines)
    unfold findSubslice at hnone ⊢
    rw [Subslice.find_eq_none_iff (by decide)] at hnone ⊢
    intro j hstarts
    apply hnone j
    rw [← hrest]
    exact Subslice.starts_append rest hstarts
  rw [findHeaderEnd, hcrlf, hlf]
  rfl

/-- A response is read as its head and its body. -/
theorem parseHttpResponse_renderHead (line : HeadLine) (lines : List HeadLine)
    (body : List UInt8) :
    parseHttpResponse (renderHead (line :: lines) ++ body) =
      ((fromUtf8 (renderHead (line :: lines))).bind parseHead).map fun head =>
        (head.1, head.2, readBody head.2 body) := by
  unfold parseHttpResponse
  rw [findHeaderEnd_renderHead]
  dsimp only
  rw [List.take_left, List.drop_left]
  rcases (fromUtf8 (renderHead (line :: lines))).bind parseHead with _ | head
  · rfl
  · rfl

theorem parseHttpResponse_of_cut {line : HeadLine} {lines : List HeadLine} {received : List UInt8}
    (hpre : received <+: renderHead (line :: lines))
    (hcut : received.length < (renderHead (line :: lines)).length) :
    parseHttpResponse received = none := by
  unfold parseHttpResponse
  rw [findHeaderEnd_of_cut hpre hcut]

end NautiFabric
