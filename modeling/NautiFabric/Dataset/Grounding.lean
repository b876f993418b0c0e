import NautiFabric.Dataset.Report

/-!
# NautiFabric.Dataset.Grounding — what a record without an issue is grounded in

Nothing is reported on a record exactly if its messages are in order, its answer has no
forbidden marker and its grounding is passed. What is passed is `legacy`, a file that the
answer shares a token with, and anything else that exists: a directory is neither missing
nor read. So every record without an issue is grounded if and only if no record of the
text that keeps the other rules names such a thing.
-/

namespace NautiFabric

variable {N : Type} {lib : ValidatorLib N} {fs : FileSystem} {object : List (String × Json N)}

/-- The content of the third message. -/
def answer (object : List (String × Json N)) : String :=
  assistantContent ((messagesArray object).getD [])

/-- The file is there, it is read, and the answer shares a token with it. -/
structure GroundedIn (lib : ValidatorLib N) (fs : FileSystem) (content path : String) : Prop where
  inside : hasParentDir path = false
  file : fs.metadata path = some .file
  shares : ∃ fileText token, fs.readToString path = .ok fileText ∧
    IsToken lib.wordChars token fileText ∧ IsToken lib.wordChars token content

/-- A name of something that is there and is no regular file. -/
structure NamesNoFile (fs : FileSystem) (path : String) : Prop where
  not_legacy : path ≠ "legacy"
  nonempty : path ≠ ""
  inside : hasParentDir path = false
  there : ∃ fileType, fs.metadata path = some fileType ∧ fileType ≠ .file

/-- None of the patterns of rule 4 is in the answer. -/
structure Unmarked (lib : ValidatorLib N) (content : String) : Prop where
  markers : ∀ marker ∈ forbiddenMarkers,
    containsStr (lib.lowercase.apply content) (lib.lowercase.apply marker) = false
  hosts : ∀ marker ∈ forbiddenHostMarkers, containsStr content marker = false
  secret : lib.secretMarker content = false

/-- The rules that are not about the grounding. -/
structure KeepsOtherRules (lib : ValidatorLib N) (object : List (String × Json N)) : Prop where
  messages : ∃ system user assistant,
    object.lookup "messages" = some (.arr [system, user, assistant]) ∧
      IsMessage "system" system ∧ IsMessage "user" user ∧ IsMessage "assistant" assistant
  unmarked : Unmarked lib (answer object)

/-! ## Rule by rule -/

theorem asStr_eq_some_iff {value : Json N} {s : String} :
    value.asStr = some s ↔ value = .str s := by
  cases value with
  | str t => exact ⟨fun h => congrArg Json.str (Option.some.inj h), fun h => congrArg Json.asStr h⟩
  | _ => simp [Json.asStr]

theorem bind_asStr_eq_some_iff {value : Option (Json N)} {s : String} :
    value.bind Json.asStr = some s ↔ value = some (.str s) := by
  rw [Option.bind_eq_some_iff]
  constructor
  · rintro ⟨value, rfl, hs⟩
    rw [asStr_eq_some_iff.mp hs]
  · rintro rfl
    exact ⟨_, rfl, rfl⟩

theorem messageIssues_eq_nil_iff {offset : ℕ} {message : Json N} {role : String} :
    messageIssues lib offset message role = [] ↔ IsMessage role message := by
  have hcontent (content : Option String) :
      (content.map String.isEmpty).getD true = false ↔ ∃ s, s ≠ "" ∧ content = some s := by
    rcases content with _ | s
    · simp
    · simp [String.isEmpty_eq_false_iff]
  unfold messageIssues IsMessage
  dsimp only
  rw [List.append_eq_nil_iff, ← bind_asStr_eq_some_iff]
  refine and_congr ?_ ?_
  · by_cases hrole : (message.get "role").bind Json.asStr = some role
    · rw [if_pos hrole]
      exact iff_of_true rfl hrole
    · rw [if_neg hrole]
      exact iff_of_false (List.cons_ne_nil _ _) hrole
  · simp only [← bind_asStr_eq_some_iff]
    rw [← hcontent]
    cases (((message.get "content").bind Json.asStr).map String.isEmpty).getD true with
    | true => exact iff_of_false (List.cons_ne_nil _ _) (by decide)
    | false => exact iff_of_true rfl rfl

theorem markerIssues_eq_nil_iff {content : String} :
    markerIssues lib content = [] ↔ Unmarked lib content := by
  have hnone (markers : List String) (p : String → Bool) (text : String → String) :
      (markers.filter p).map text = [] ↔ ∀ marker ∈ markers, p marker = false := by
    rw [List.map_eq_nil_iff, List.filter_eq_nil_iff]
    simp only [Bool.not_eq_true]
  have hsecret (issues : List String) (hne : issues ≠ []) :
      (if lib.secretMarker content then issues else []) = [] ↔
        lib.secretMarker content = false := by
    cases lib.secretMarker content with
    | false => exact iff_of_true rfl rfl
    | true => exact iff_of_false hne (by simp)
  unfold markerIssues
  rw [List.append_eq_nil_iff, List.append_eq_nil_iff, hnone, hnone,
    hsecret _ (List.cons_ne_nil _ _)]
  constructor
  · rintro ⟨⟨hmarkers, hhosts⟩, hsecret⟩
    exact ⟨hmarkers, hhosts, hsecret⟩
  · intro h
    exact ⟨⟨h.markers, h.hosts⟩, h.secret⟩

/-- The two lists of tokens are not found empty and have one in common. -/
theorem shared_token_iff (tokens tokens' : List String) :
    (tokens.isEmpty || tokens'.isEmpty) = false ∧
        (tokens.all fun token => !tokens'.contains token) = false ↔
      ∃ token, token ∈ tokens ∧ token ∈ tokens' := by
  rw [Bool.or_eq_false_iff, List.isEmpty_eq_false_iff, List.isEmpty_eq_false_iff,
    List.all_eq_false]
  simp only [Bool.not_eq_true, Bool.not_eq_false', List.contains_iff_mem]
  constructor
  · rintro ⟨-, token, hmem, hmem'⟩
    exact ⟨token, hmem, hmem'⟩
  · rintro ⟨token, hmem, hmem'⟩
    exact ⟨⟨List.ne_nil_of_mem hmem, List.ne_nil_of_mem hmem'⟩, token, hmem, hmem'⟩

/-- What is passed of a file. -/
theorem tokenIssues_eq_nil_iff {content path : String} :
    tokenIssues lib fs content path = [] ↔
      ∃ fileText token, fs.readToString path = .ok fileText ∧
        IsToken lib.wordChars token fileText ∧ IsToken lib.wordChars token content := by
  unfold tokenIssues
  rcases hread : fs.readToString path with error | fileText
  · refine iff_of_false (List.cons_ne_nil _ _) ?_
    rintro ⟨fileText, token, hok, -⟩
    cases hok
  · have hshared := shared_token_iff (identifierTokens lib.wordChars fileText)
      (identifierTokens lib.wordChars content)
    dsimp only
    constructor
    · intro h
      split_ifs at h with hempty hall
      · obtain ⟨token, hmem, hmem'⟩ := hshared.mp
          ⟨(Bool.not_eq_true _).to_iff.mp hempty, (Bool.not_eq_true _).to_iff.mp hall⟩
        exact ⟨fileText, token, rfl, mem_identifierTokens_iff.mp hmem,
          mem_identifierTokens_iff.mp hmem'⟩
    · rintro ⟨_, token, hok, htoken, htoken'⟩
      obtain rfl := Except.ok.inj hok
      obtain ⟨hempty, hall⟩ := hshared.mpr ⟨token, mem_identifierTokens_iff.mpr htoken,
        mem_identifierTokens_iff.mpr htoken'⟩
      rw [hempty, hall]
      rfl

/-- What is passed as a grounding, if there is one. -/
theorem groundingIssues_eq_nil_iff {content path : String} :
    groundingIssues lib fs content (some path) = [] ↔
      path = "legacy" ∨ (path ≠ "" ∧ GroundedIn lib fs content path) ∨ NamesNoFile fs path := by
  unfold groundingIssues
  dsimp only
  by_cases hlegacy : path = "legacy"
  · rw [if_pos hlegacy]
    exact iff_of_true rfl (.inl hlegacy)
  rw [if_neg hlegacy, or_iff_right hlegacy]
  by_cases hempty : path = ""
  · rw [if_pos (String.isEmpty_iff.mpr hempty)]
    refine iff_of_false (List.cons_ne_nil _ _) ?_
    rintro (⟨hne, -⟩ | h)
    · exact hne hempty
    · exact h.nonempty hempty
  rw [if_neg (fun h => hempty (String.isEmpty_iff.mp h)), and_iff_right hempty]
  cases hparent : hasParentDir path with
  | true =>
      rw [if_pos rfl]
      refine iff_of_false (List.cons_ne_nil _ _) ?_
      rintro (h | h)
      · exact absurd (hparent.symm.trans h.inside) (by decide)
      · exact absurd (hparent.symm.trans h.inside) (by decide)
  | false =>
      rw [if_neg (by decide)]
      unfold FileSystem.exists FileSystem.isFile
      rcases hmetadata : fs.metadata path with _ | fileType
      · refine iff_of_false (List.cons_ne_nil _ _) ?_
        rintro (h | h)
        · exact absurd (hmetadata.symm.trans h.file) (by simp)
        · obtain ⟨fileType, hthere, -⟩ := h.there
          exact absurd (hmetadata.symm.trans hthere) (by simp)
      · rw [if_neg (by simp)]
        by_cases hfile : fileType = .file
        · -- the one case in which something is read
          subst hfile
          rw [if_pos (by simp)]
          have hno : ¬ NamesNoFile fs path := by
            intro h
            obtain ⟨fileType, hthere, hne⟩ := h.there
            exact hne (Option.some.inj (hthere.symm.trans hmetadata))
          rw [or_iff_left hno]
          rw [tokenIssues_eq_nil_iff]
          constructor
          · intro h
            exact ⟨hparent, hmetadata, h⟩
          · intro h
            exact h.shares
        · rw [if_neg (by simpa using hfile)]
          exact iff_of_true rfl (.inr ⟨hlegacy, hempty, hparent, fileType, hmetadata, hfile⟩)

/-! ## A record -/

theorem messagesArray_eq_some_iff {array : List (Json N)} :
    messagesArray object = some array ↔
      object.lookup "messages" = some (.arr array) ∧ array.length = 3 := by
  have hasArray (value : Json N) : value.asArray = some array ↔ value = .arr array := by
    cases value with
    | arr items => simp [Json.asArray]
    | _ => simp [Json.asArray]
  unfold messagesArray
  rw [Option.filter_eq_some_iff, Option.bind_eq_some_iff, decide_eq_true_iff]
  refine and_congr ?_ Iff.rfl
  constructor
  · rintro ⟨value, hlookup, harray⟩
    rw [hlookup, (hasArray value).mp harray]
  · intro hlookup
    exact ⟨_, hlookup, rfl⟩

theorem messagesIssues_eq_nil_iff {system user assistant : Json N} :
    (([system, user, assistant].zip expectedRoles).zipIdx.flatMap fun entry =>
        messageIssues lib entry.2 entry.1.1 entry.1.2) = [] ↔
      IsMessage "system" system ∧ IsMessage "user" user ∧ IsMessage "assistant" assistant := by
  have hzip : ([system, user, assistant].zip expectedRoles).zipIdx =
      [((system, "system"), 0), ((user, "user"), 1), ((assistant, "assistant"), 2)] := rfl
  rw [hzip, List.flatMap_eq_nil_iff]
  simp only [List.forall_mem_cons, messageIssues_eq_nil_iff, List.not_mem_nil, false_imp_iff,
    implies_true, and_true]

/-- Nothing is reported on a record that keeps every rule, and its grounding is passed. -/
theorem recordIssues_eq_nil_iff :
    recordIssues lib fs object = [] ↔
      KeepsOtherRules lib object ∧
        groundingIssues lib fs (answer object) (grounding object) = [] := by
  unfold recordIssues
  rcases harray : messagesArray object with _ | array
  · refine iff_of_false (List.cons_ne_nil _ _) ?_
    rintro ⟨⟨⟨system, user, assistant, hlookup, -⟩, -⟩, -⟩
    have hsome := messagesArray_eq_some_iff.mpr ⟨hlookup, rfl⟩
    rw [harray] at hsome
    cases hsome
  · -- there are three messages, and the rules look at them
    obtain ⟨hlookup, hlength⟩ := messagesArray_eq_some_iff.mp harray
    obtain ⟨system, user, assistant, rfl⟩ := List.length_eq_three.mp hlength
    have hanswer : answer object = assistantContent [system, user, assistant] := by
      unfold answer
      rw [harray, Option.getD_some]
    dsimp only
    rw [List.append_eq_nil_iff, List.append_eq_nil_iff, messagesIssues_eq_nil_iff,
      markerIssues_eq_nil_iff, ← hanswer]
    constructor
    · rintro ⟨⟨hmessages, hgrounding⟩, hunmarked⟩
      exact ⟨⟨⟨system, user, assistant, hlookup, hmessages⟩, hunmarked⟩, hgrounding⟩
    · rintro ⟨⟨⟨system', user', assistant', hlookup', hmessages⟩, hunmarked⟩, hgrounding⟩
      rw [hlookup, Option.some.injEq, Json.arr.injEq] at hlookup'
      obtain ⟨rfl, rfl, rfl⟩ : system = system' ∧ user = user' ∧ assistant = assistant' := by
        simpa using hlookup'
      exact ⟨⟨hmessages, hgrounding⟩, hunmarked⟩

/-- The grounding is `legacy`, or one that the answer is really grounded in. -/
def Grounded (lib : ValidatorLib N) (fs : FileSystem) (object : List (String × Json N)) : Prop :=
  ∃ path, grounding object = some path ∧
    (path = "legacy" ∨ GroundedIn lib fs (answer object) path)

/-- A record that no rule but the missing one would stop. -/
def Slips (lib : ValidatorLib N) (fs : FileSystem) (object : List (String × Json N)) : Prop :=
  KeepsOtherRules lib object ∧ ∃ path, grounding object = some path ∧ NamesNoFile fs path

theorem not_groundedIn_of_namesNoFile {content path : String} (h : NamesNoFile fs path) :
    ¬ GroundedIn lib fs content path := by
  intro hgrounded
  obtain ⟨fileType, hthere, hne⟩ := h.there
  rw [hgrounded.file, Option.some.injEq] at hthere
  exact hne hthere.symm

/-- A record without an issue is grounded, unless it slips. -/
theorem grounded_or_slips (h : recordIssues lib fs object = []) :
    Grounded lib fs object ∨ Slips lib fs object := by
  obtain ⟨hrules, hissues⟩ := recordIssues_eq_nil_iff.mp h
  rcases hgrounding : grounding object with _ | path
  · rw [hgrounding] at hissues
    cases hissues
  · rw [hgrounding] at hissues
    rcases groundingIssues_eq_nil_iff.mp hissues with hlegacy | ⟨-, hgrounded⟩ | hno
    · exact .inl ⟨path, hgrounding, .inl hlegacy⟩
    · exact .inl ⟨path, hgrounding, .inr hgrounded⟩
    · exact .inr ⟨hrules, path, hgrounding, hno⟩

/-- A record that slips has no issue, and is not grounded. -/
theorem Slips.passed (h : Slips lib fs object) :
    recordIssues lib fs object = [] ∧ ¬ Grounded lib fs object := by
  obtain ⟨hrules, path, hgrounding, hno⟩ := h
  constructor
  · refine recordIssues_eq_nil_iff.mpr ⟨hrules, ?_⟩
    rw [hgrounding]
    exact groundingIssues_eq_nil_iff.mpr (.inr (.inr hno))
  · rintro ⟨path', hgrounding', hcases⟩
    rw [hgrounding, Option.some.injEq] at hgrounding'
    subst hgrounding'
    rcases hcases with hlegacy | hgrounded
    · exact hno.not_legacy hlegacy
    · exact not_groundedIn_of_namesNoFile hno hgrounded

/-! ## A text -/

/-- No issue is reported under the number of the line. -/
def Clean (lib : ValidatorLib N) (fs : FileSystem) (text : String) (number : ℕ) : Prop :=
  ∀ issue ∈ (validateDatasetText lib fs text).issues, issue.record ≠ number + 1

/-- Every record that no issue is reported on is grounded. -/
def CleanAreGrounded (lib : ValidatorLib N) (fs : FileSystem) (text : String) : Prop :=
  ∀ line number, (line, number) ∈ recordLines text → Clean lib fs text number →
    ∃ object, lib.fromStr line = .ok (.obj object) ∧ Grounded lib fs object

theorem lineIssues_eq_nil_iff {record : ℕ} {line : String} :
    lineIssues lib fs record line = [] ↔
      ∃ object, lib.fromStr line = .ok (.obj object) ∧ recordIssues lib fs object = [] := by
  unfold lineIssues
  rcases lib.fromStr line with error | value
  · refine iff_of_false (List.cons_ne_nil _ _) ?_
    rintro ⟨object, hparse, -⟩
    cases hparse
  · cases value with
    | obj object =>
        have hcheck : checkRecord lib fs record object = [] ↔ recordIssues lib fs object = [] :=
          List.map_eq_nil_iff
        constructor
        · intro h
          exact ⟨object, rfl, hcheck.mp h⟩
        · rintro ⟨object', hparse, h⟩
          obtain rfl := Json.obj.inj (Except.ok.inj hparse)
          exact hcheck.mpr h
    | _ =>
        refine iff_of_false (List.cons_ne_nil _ _) ?_
        rintro ⟨object, hparse, -⟩
        cases hparse

/-- Lines have different numbers, so an issue under the number of a line is one of that
line. -/
theorem clean_iff {text line : String} {number : ℕ} (h : (line, number) ∈ recordLines text) :
    Clean lib fs text number ↔ lineIssues lib fs (number + 1) line = [] := by
  constructor
  · intro hclean
    by_contra hne
    obtain ⟨issue, hissue⟩ := List.exists_mem_of_ne_nil _ hne
    exact hclean issue ((mem_issues_iff lib fs).mpr ⟨line, number, h, hissue⟩)
      (record_of_mem_lineIssues lib fs hissue)
  · intro hnil issue hissue heq
    obtain ⟨line', number', hmem, hissue'⟩ := (mem_issues_iff lib fs).mp hissue
    rw [record_of_mem_lineIssues lib fs hissue', Nat.succ_inj] at heq
    subst heq
    have hline := List.mem_zipIdx_iff_getElem?.mp (List.mem_of_mem_filter h)
    have hline' := List.mem_zipIdx_iff_getElem?.mp (List.mem_of_mem_filter hmem)
    rw [hline, Option.some.injEq] at hline'
    dsimp only at hline'
    rw [← hline', hnil] at hissue'
    cases hissue'

theorem mem_records_iff {text line : String} :
    line ∈ records text ↔ ∃ number, (line, number) ∈ recordLines text := by
  unfold records recordLines
  rw [List.mem_filter, List.mem_iff_getElem?]
  simp only [List.mem_filter, List.mem_zipIdx_iff_getElem?, exists_and_right]

/-- Whatever the files are: every clean record is grounded exactly if none of the records
slips. -/
theorem cleanAreGrounded_iff (lib : ValidatorLib N) (fs : FileSystem) (text : String) :
    CleanAreGrounded lib fs text ↔
      ∀ line ∈ records text, ∀ object, lib.fromStr line = .ok (.obj object) →
        ¬ Slips lib fs object := by
  constructor
  · intro h line hline object hparse hslips
    obtain ⟨number, hmem⟩ := mem_records_iff.mp hline
    obtain ⟨hnil, hnot⟩ := hslips.passed
    have hclean := (clean_iff hmem).mpr (lineIssues_eq_nil_iff.mpr ⟨object, hparse, hnil⟩)
    obtain ⟨object', hparse', hgrounded⟩ := h line number hmem hclean
    obtain rfl := Json.obj.inj (Except.ok.inj (hparse.symm.trans hparse'))
    exact hnot hgrounded
  · intro h line number hmem hclean
    obtain ⟨object, hparse, hnil⟩ := lineIssues_eq_nil_iff.mp ((clean_iff hmem).mp hclean)
    refine ⟨object, hparse, ?_⟩
    rcases grounded_or_slips hnil with hgrounded | hslips
    · exact hgrounded
    · exact absurd hslips (h line (mem_records_iff.mpr ⟨number, hmem⟩) object hparse)

namespace DatasetScenario

/-- A record that is grounded in a directory. -/
def inDirectory : List (String × Json ℕ) :=
  [("messages", .arr [
      .obj [("role", .str "system"), ("content", .str "x")],
      .obj [("role", .str "user"), ("content", .str "x")],
      .obj [("role", .str "assistant"), ("content", .str "x")]]),
    ("grounding", .str "src")]

@[irreducible] def inDirectoryLine : String :=
  "\x7b\"messages\":[\x7b\"role\":\"system\",\"content\":\"x\"\x7d," ++
    "\x7b\"role\":\"user\",\"content\":\"x\"\x7d," ++
    "\x7b\"role\":\"assistant\",\"content\":\"x\"\x7d],\"grounding\":\"src\"\x7d"

def oneRecord : ValidatorLib ℕ :=
  { noJson with
    fromStr := fun line =>
      if line = inDirectoryLine then .ok (.obj inDirectory)
      else .error "expected value at line 1 column 1" }

def srcDirectory : FileSystem where
  metadata := fun path => if path = "src" then some .dir else none
  readToString := fun path =>
    .error (if path = "src" then "Is a directory (os error 21)"
      else "No such file or directory (os error 2)")

theorem slips_inDirectory : Slips oneRecord srcDirectory inDirectory := by
  have hanswer : answer inDirectory = "x" := by decide +kernel
  refine ⟨⟨⟨_, _, _, rfl, ?_, ?_, ?_⟩, ?_⟩, "src", by decide +kernel, ?_⟩
  · exact ⟨rfl, "x", by decide, rfl⟩
  · exact ⟨rfl, "x", by decide, rfl⟩
  · exact ⟨rfl, "x", by decide, rfl⟩
  · rw [hanswer]
    exact ⟨by decide +kernel, by decide +kernel, rfl⟩
  · exact ⟨by decide, by decide, by decide +kernel, .dir, rfl, by decide⟩

end DatasetScenario

open DatasetScenario in
/-- Nothing is reported, and there is no file. -/
theorem not_cleanAreGrounded_directory :
    (validateDatasetText oneRecord srcDirectory inDirectoryLine).issues = [] ∧
      ¬ CleanAreGrounded oneRecord srcDirectory inDirectoryLine := by
  have hlines : recordLines inDirectoryLine = [(inDirectoryLine, 0)] := by decide +kernel
  have hline : oneRecord.fromStr inDirectoryLine = .ok (.obj inDirectory) := by
    unfold oneRecord
    exact if_pos rfl
  obtain ⟨hnil, hnot⟩ := slips_inDirectory.passed
  have hissues : (validateDatasetText oneRecord srcDirectory inDirectoryLine).issues = [] := by
    unfold validateDatasetText
    rw [hlines, List.flatMap_singleton]
    exact lineIssues_eq_nil_iff.mpr ⟨inDirectory, hline, hnil⟩
  refine ⟨hissues, ?_⟩
  intro h
  have hclean : Clean oneRecord srcDirectory inDirectoryLine 0 := by
    unfold Clean
    rw [hissues]
    exact List.forall_mem_nil _
  have hmem : (inDirectoryLine, 0) ∈ recordLines inDirectoryLine := by
    rw [hlines]
    exact List.mem_singleton_self _
  obtain ⟨object, hparse, hgrounded⟩ := h inDirectoryLine 0 hmem hclean
  rw [hline] at hparse
  obtain rfl := Json.obj.inj (Except.ok.inj hparse)
  exact hnot hgrounded

end NautiFabric
