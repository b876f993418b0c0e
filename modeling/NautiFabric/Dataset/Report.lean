import NautiFabric.Dataset.Record
import NautiFabric.Lib.Numbering

/-!
# NautiFabric.Dataset.Report — which record an issue is reported on

The report counts the records, which are the lines that are not blank. The issues have
numbers too, but those count all lines: a number is the position of the record only if no
blank line stands before it. So the numbers are right, and blank lines do not matter,
exactly as far as no blank line comes before a line with an issue.
-/

namespace NautiFabric

open Numbering

variable {N : Type} (lib : ValidatorLib N) (fs : FileSystem)

def records (text : String) : List String := (lines text).filter isRecord

/-- Each record with the number of blank lines before it. -/
def blanksBefore (text : String) : List (String × ℕ) := tally isRecord 0 (lines text)

def HasIssue (line : String) : Prop := lineIssues lib fs 0 line ≠ []

/-- The issues of each record, under its position among the records. -/
def numberedIssues (text : String) : List DatasetIssue :=
  (records text).zipIdx.flatMap fun entry => lineIssues lib fs (entry.2 + 1) entry.1

/-- Count and numbers are those of the records. -/
structure RightNumbers (text : String) : Prop where
  count : (validateDatasetText lib fs text).recordCount = (records text).length
  numbers : (validateDatasetText lib fs text).issues = numberedIssues lib fs text
  bounds : ∀ issue ∈ (validateDatasetText lib fs text).issues,
    1 ≤ issue.record ∧ issue.record ≤ (validateDatasetText lib fs text).recordCount
  sorted : (validateDatasetText lib fs text).issues.Pairwise fun issue later =>
    issue.record ≤ later.record

/-! ## The issues of a line -/

/-- The texts of the issues of a line, which do not depend on its number. -/
def lineNotes (line : String) : List String :=
  (lineIssues lib fs 0 line).map DatasetIssue.message

theorem lineIssues_eq (record : ℕ) (line : String) :
    lineIssues lib fs record line =
      (lineNotes lib fs line).map fun message => ⟨record, message⟩ := by
  unfold lineNotes lineIssues
  rcases lib.fromStr line with error | value
  · rfl
  · dsimp only
    rcases value.asObject with _ | object
    · rfl
    · unfold checkRecord
      dsimp only
      rw [List.map_map, List.map_map]
      rfl

theorem hasIssue_iff {line : String} : HasIssue lib fs line ↔ lineNotes lib fs line ≠ [] := by
  unfold HasIssue lineNotes
  rw [ne_eq, ne_eq, List.map_eq_nil_iff]

def issueOf (entry : ℕ × String) : DatasetIssue := ⟨entry.1 + 1, entry.2⟩

theorem issueOf_injective : Function.Injective issueOf := by
  intro entry entry' h
  obtain ⟨hrecord, hmessage⟩ := DatasetIssue.mk.inj h
  exact Prod.ext (Nat.succ_injective hrecord) hmessage

/-- Issues under numbers, as a report of the library. -/
theorem flatMap_lineIssues (numbered : List (String × ℕ)) :
    (numbered.flatMap fun entry => lineIssues lib fs (entry.2 + 1) entry.1) =
      (noted (lineNotes lib fs) numbered).map issueOf := by
  unfold noted
  rw [List.map_flatMap]
  congr 1
  funext entry
  rw [lineIssues_eq, List.map_map]
  rfl

theorem mem_issues_iff {text : String} {issue : DatasetIssue} :
    issue ∈ (validateDatasetText lib fs text).issues ↔
      ∃ line number, (line, number) ∈ recordLines text ∧
        issue ∈ lineIssues lib fs (number + 1) line := by
  unfold validateDatasetText
  rw [List.mem_flatMap, Prod.exists]

theorem record_of_mem_lineIssues {record : ℕ} {line : String} {issue : DatasetIssue}
    (h : issue ∈ lineIssues lib fs record line) : issue.record = record := by
  rw [lineIssues_eq] at h
  obtain ⟨message, -, rfl⟩ := List.mem_map.mp h
  rfl

/-! ## The numbers -/

theorem issues_pairwise (text : String) :
    (validateDatasetText lib fs text).issues.Pairwise fun issue later =>
      issue.record ≤ later.record := by
  have hlines : (recordLines text).Pairwise fun entry later => entry.2 ≤ later.2 :=
    (pairwise_zipIdx 0 (lines text)).filter _
  unfold validateDatasetText
  rw [flatMap_lineIssues, List.pairwise_map]
  refine (pairwise_noted hlines).imp ?_
  intro entry later hle
  exact Nat.succ_le_succ hle

theorem bounds_numberedIssues {text : String} {issue : DatasetIssue}
    (h : issue ∈ numberedIssues lib fs text) :
    1 ≤ issue.record ∧ issue.record ≤ (records text).length := by
  obtain ⟨⟨line, k⟩, hmem, hissue⟩ := List.mem_flatMap.mp h
  have hk := List.snd_lt_of_mem_zipIdx hmem
  rw [record_of_mem_lineIssues lib fs hissue]
  dsimp only at hk ⊢
  omega

/-- The issues are numbered as the records are exactly if every record with an issue has
no blank line before it. -/
theorem issues_eq_numberedIssues_iff (text : String) :
    (validateDatasetText lib fs text).issues = numberedIssues lib fs text ↔
      ∀ entry ∈ blanksBefore text, HasIssue lib fs entry.1 → entry.2 = 0 := by
  unfold validateDatasetText numberedIssues recordLines records blanksBefore
  rw [flatMap_lineIssues, flatMap_lineIssues, issueOf_injective.list_map.eq_iff,
    noted_filter_zipIdx_iff]
  simp only [hasIssue_iff]

theorem rightNumbers_iff (text : String) :
    RightNumbers lib fs text ↔
      ∀ before line after, lines text = before ++ line :: after → isRecord line →
        HasIssue lib fs line → ∀ blank ∈ before, isRecord blank := by
  have hnumbers : RightNumbers lib fs text ↔
      (validateDatasetText lib fs text).issues = numberedIssues lib fs text := by
    constructor
    · exact RightNumbers.numbers
    · intro h
      refine ⟨rfl, h, ?_, issues_pairwise lib fs text⟩
      intro issue hissue
      rw [h] at hissue
      exact bounds_numberedIssues lib fs hissue
  rw [hnumbers, issues_eq_numberedIssues_iff]
  constructor
  · intro h before line after hlines hrecord hissue
    have hmem : (line, 0 + (before.filter fun b => !isRecord b).length) ∈ blanksBefore text :=
      mem_tally_iff.mpr ⟨before, after, hlines, hrecord, rfl⟩
    have hzero := h _ hmem hissue
    dsimp only at hzero
    -- nothing before the line is blank
    rw [Nat.zero_add, List.length_eq_zero_iff, List.filter_eq_nil_iff] at hzero
    intro blank hblank
    simpa using hzero blank hblank
  · rintro h ⟨line, k⟩ hmem hissue
    obtain ⟨before, after, hlines, hrecord, rfl⟩ := mem_tally_iff.mp hmem
    have hbefore := h before line after hlines hrecord hissue
    dsimp only
    rw [Nat.zero_add, List.length_eq_zero_iff, List.filter_eq_nil_iff]
    intro blank hblank
    simpa using hbefore blank hblank

/-- Two texts of the same records have the same report exactly if before each record with
an issue there are as many blank lines in one as in the other. -/
theorem report_eq_iff {text text' : String} (h : records text = records text') :
    validateDatasetText lib fs text = validateDatasetText lib fs text' ↔
      List.Forall₂ (fun entry entry' => HasIssue lib fs entry.1 → entry.2 = entry'.2)
        (blanksBefore text) (blanksBefore text') := by
  have hcount : (validateDatasetText lib fs text).recordCount =
      (validateDatasetText lib fs text').recordCount := congrArg List.length h
  have hissues : validateDatasetText lib fs text = validateDatasetText lib fs text' ↔
      (validateDatasetText lib fs text).issues = (validateDatasetText lib fs text').issues := by
    rw [DatasetReport.mk.injEq]
    exact and_iff_right hcount
  rw [hissues]
  unfold validateDatasetText recordLines blanksBefore
  rw [flatMap_lineIssues, flatMap_lineIssues, issueOf_injective.list_map.eq_iff,
    noted_filter_zipIdx_eq_iff h]
  simp only [hasIssue_iff]

/-- The numbers are right exactly if no blank line stands before a line with an issue, and
blank lines that come or go leave the report as it is exactly if they do not come or go
before such a line. -/
theorem record_numbers_iff (lib : ValidatorLib N) (fs : FileSystem) :
    (∀ text, RightNumbers lib fs text ↔
      ∀ before line after, lines text = before ++ line :: after → isRecord line →
        HasIssue lib fs line → ∀ blank ∈ before, isRecord blank) ∧
    ∀ text text', records text = records text' →
      (validateDatasetText lib fs text = validateDatasetText lib fs text' ↔
        List.Forall₂ (fun entry entry' => HasIssue lib fs entry.1 → entry.2 = entry'.2)
          (blanksBefore text) (blanksBefore text')) :=
  ⟨rightNumbers_iff lib fs, fun _ _ h => report_eq_iff lib fs h⟩

/-! ## A blank line in front -/

namespace DatasetScenario

theorem lowercase_ascii (s : String) (_ : ∀ c ∈ s.toList, c.toNat < 0x80) :
    toAsciiLowercase s = toAsciiLowercase s := rfl

/-- Of one line, which is no JSON. -/
def noJson : ValidatorLib ℕ where
  fromStr := fun _ => .error "expected ident at line 1 column 2"
  render := fun _ => "null"
  debug := fun s => "\"" ++ s ++ "\""
  lowercase := ⟨toAsciiLowercase, lowercase_ascii⟩
  wordChars := ⟨fun c => c.isAlphanum || c = '_', fun _ _ => rfl⟩
  secretMarker := fun _ => false

def noFiles : FileSystem where
  metadata := fun _ => none
  readToString := fun _ => .error "No such file or directory (os error 2)"

end DatasetScenario

open DatasetScenario in
/-- The only record is reported on as the second one. -/
theorem not_rightNumbers_blank_line :
    ¬ RightNumbers noJson noFiles "\nnot json" ∧
      records "\nnot json" = records "not json" ∧
      validateDatasetText noJson noFiles "\nnot json" ≠
        validateDatasetText noJson noFiles "not json" := by
  have hreport : validateDatasetText noJson noFiles "\nnot json" =
      ⟨1, [⟨2, "invalid JSON (expected ident at line 1 column 2)"⟩]⟩ := by decide +kernel
  refine ⟨?_, by decide +kernel, by decide +kernel⟩
  intro h
  have hbounds := h.bounds
  rw [hreport] at hbounds
  have hle := (hbounds _ (List.mem_singleton_self _)).2
  exact absurd hle (by decide)

open DatasetScenario in
theorem record_numbers_iff_blank_line :
    ¬ validateDatasetText noJson noFiles "\nnot json" =
      validateDatasetText noJson noFiles "not json" := by
  rw [(record_numbers_iff noJson noFiles).2 _ _ (by decide +kernel)]
  intro h
  have hblanks : blanksBefore "\nnot json" = [("not json", 1)] := by decide +kernel
  have hblanks' : blanksBefore "not json" = [("not json", 0)] := by decide +kernel
  rw [hblanks, hblanks', List.forall₂_cons] at h
  exact absurd (h.1 (List.cons_ne_nil _ _)) (by decide)

end NautiFabric
