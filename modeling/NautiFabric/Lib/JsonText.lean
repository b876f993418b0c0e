import Mathlib.Tactic.Common
import Mathlib.Data.List.DropRight

/-!
# Where the text of a JSON object or array ends

A scan of the text keeps the depth of its brackets, except inside strings. The text
is closed once the bracket that opened it is, and then only whitespace may follow.

A decoder of structs reads closed texts only, and does not look at the whitespace
behind them (`Decodes`). Then a cut text decodes to nothing else than the whole one
(`Decodes.eq_of_isPrefix`).
-/

universe u v

namespace JsonText

inductive Scan where
  | before
  | inside (depth : ℕ)
  | quoted (depth : ℕ)
  | escaped (depth : ℕ)
  | closed
  | bad
deriving DecidableEq

def isSpace (c : Char) : Bool := c == ' ' || c == '\t' || c == '\n' || c == '\r'

/-- `depth` counts the brackets that are open inside the outermost ones. -/
def step : Scan → Char → Scan
  | .before, c =>
    if isSpace c then .before else if c == '\x7b' || c == '[' then .inside 0 else .bad
  | .inside depth, c =>
    if c == '"' then .quoted depth
    else if c == '\x7b' || c == '[' then .inside (depth + 1)
    else if c == '\x7d' || c == ']' then
      match depth with
      | 0 => .closed
      | depth + 1 => .inside depth
    else .inside depth
  | .quoted depth, c =>
    if c == '\\' then .escaped depth else if c == '"' then .inside depth else .quoted depth
  | .escaped depth, _ => .quoted depth
  | .closed, c => if isSpace c then .closed else .bad
  | .bad, _ => .bad

def scan (text : List Char) : Scan := text.foldl step .before

/-- An object or an array, and whitespace around it. -/
def Closed (text : List Char) : Prop := scan text = .closed

instance (text : List Char) : Decidable (Closed text) := inferInstanceAs (Decidable (_ = _))

theorem foldl_step_bad (text : List Char) : text.foldl step .bad = .bad := by
  induction text with
  | nil => rfl
  | cons c text ih => exact ih

theorem foldl_step_closed {text : List Char} :
    text.foldl step .closed = .closed ↔ ∀ c ∈ text, isSpace c = true := by
  induction text with
  | nil => simp
  | cons c text ih =>
      rw [List.foldl_cons, List.forall_mem_cons]
      by_cases hspace : isSpace c = true
      · have hstep : step .closed c = .closed := if_pos hspace
        rw [hstep, ih]
        exact (and_iff_right hspace).symm
      · have hstep : step .closed c = .bad := if_neg hspace
        rw [hstep, foldl_step_bad]
        constructor
        · intro h
          cases h
        · intro h
          exact absurd h.1 hspace

/-- After a closed text there is only whitespace. -/
theorem closed_append_iff {text more : List Char} (h : Closed text) :
    Closed (text ++ more) ↔ ∀ c ∈ more, isSpace c = true := by
  unfold Closed scan at h ⊢
  rw [List.foldl_append, h]
  exact foldl_step_closed

/-- A closed text ends with whitespace or with a bracket. -/
theorem not_closed_concat {c : Char} (text : List Char) (hspace : isSpace c = false)
    (hbracket : c ≠ '\x7d' ∧ c ≠ ']') : ¬ Closed (text ++ [c]) := by
  unfold Closed scan
  rw [List.foldl_append]
  show step (text.foldl step .before) c ≠ .closed
  rcases text.foldl step .before with _ | depth | depth | depth | _ | _
  · simp only [step, hspace]
    split_ifs <;> simp
  · have hclose : (c == '\x7d' || c == ']') = false := by simp [hbracket]
    simp only [step, hclose, Bool.false_eq_true, if_false]
    split_ifs <;> simp
  · simp only [step]
    split_ifs <;> simp
  · simp [step]
  · simp [step, hspace]
  · simp [step]

/-! ## Decoders of structs -/

/-- A decoder fails on a text that is not closed, and it ignores the whitespace behind
one that is. -/
structure Decodes {T : Type u} {ε : Type v} (decode : String → Except ε T) : Prop where
  closed : ∀ {text : String} {value : T}, decode text = .ok value → Closed text.toList
  trailing : ∀ {text space : String} {value : T}, decode text = .ok value →
    (∀ c ∈ space.toList, isSpace c = true) → decode (text ++ space) = .ok value

namespace Decodes

variable {T : Type u} {ε : Type v} {decode : String → Except ε T}

/-- The beginning of a text decodes to what the text decodes to, if to anything. -/
theorem eq_of_isPrefix (hd : Decodes decode) {text text' : String} {value value' : T}
    (h : decode text = .ok value) (h' : decode text' = .ok value')
    (hpre : text'.toList <+: text.toList) : value' = value := by
  obtain ⟨rest, hrest⟩ := hpre
  have htext : text = text' ++ .ofList rest := by
    rw [← String.toList_inj, String.toList_append, String.toList_ofList, hrest]
  have hspace : ∀ c ∈ (String.ofList rest).toList, isSpace c = true := by
    have hclosed := hd.closed h
    rw [← hrest, closed_append_iff (hd.closed h')] at hclosed
    rw [String.toList_ofList]
    exact hclosed
  rw [htext, hd.trailing h' hspace] at h
  exact Except.ok.inj h

/-- A decoder that knows one document. -/
theorem single {document : String} {value : T} {error : ε} (h : Closed document.toList) :
    Decodes fun text =>
      if text.toList.rdropWhile isSpace = document.toList then .ok value else .error error := by
  have hdrop (l space : List Char) (hspace : ∀ c ∈ space, isSpace c = true) :
      (l ++ space).rdropWhile isSpace = l.rdropWhile isSpace := by
    unfold List.rdropWhile
    rw [List.reverse_append, List.dropWhile_append_of_pos]
    intro c hc
    exact hspace c (List.mem_reverse.mp hc)
  constructor
  · intro text value' hdecode
    split_ifs at hdecode with hdocument
    have hsplit : text.toList.rdropWhile isSpace ++ text.toList.rtakeWhile isSpace =
        text.toList := List.rdropWhile_append_rtakeWhile
    rw [hdocument] at hsplit
    rw [← hsplit, closed_append_iff h]
    intro c hc
    exact List.mem_rtakeWhile_imp hc
  · intro text space value' hdecode hspace
    rw [String.toList_append, hdrop _ _ hspace]
    exact hdecode

end Decodes

end JsonText
