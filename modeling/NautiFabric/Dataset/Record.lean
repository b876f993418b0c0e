import NautiFabric.Json
import NautiFabric.Lib.Words
import NautiFabric.Text

/-!
# NautiFabric.Dataset.Record — the rules for a record of a training corpus

A corpus is a text of JSON records, one on each line that is not blank. A record has
three messages and names the file that its answer is grounded in. What breaks a rule is
reported, with the number of the line.

* `recordIssues` are the rules, in the order in which they are checked: the messages and
  their roles, the grounding, the forbidden markers.
* `mem_identifierTokens_iff` says what the tokens are that an answer has to share with its
  file: identifiers that stand between two ends of words.
-/

namespace NautiFabric

structure DatasetIssue where
  record : ℕ
  message : String
  deriving DecidableEq

structure DatasetReport where
  recordCount : ℕ
  issues : List DatasetIssue
  deriving DecidableEq

/-! ## What the validator is given -/

inductive FileType where
  | file
  | dir
  /-- A device, a socket or a pipe. -/
  | other
  deriving DecidableEq

/-- The files as the validator sees them. A link is what it leads to. -/
structure FileSystem where
  metadata : String → Option FileType
  readToString : String → Except String String

def FileSystem.exists (fs : FileSystem) (path : String) : Bool := (fs.metadata path).isSome

def FileSystem.isFile (fs : FileSystem) (path : String) : Bool := fs.metadata path = some .file

/-- The characters of a word, `\w` of Unicode, given by those of ASCII. -/
structure WordChars where
  apply : Char → Bool
  ascii : ∀ c, c.toNat < 0x80 → apply c = (c.isAlphanum || c = '_')

/-- The other crates, and the tables of Unicode. -/
structure ValidatorLib (N : Type) where
  /-- `serde_json::from_str`, with the text of its error. -/
  fromStr : String → Except String (Json N)
  /-- `Value::to_string`. -/
  render : Json N → String
  /-- A text as `{:?}` shows it. -/
  debug : String → String
  lowercase : Lowercase
  wordChars : WordChars
  /-- `SECRET_MARKER_REGEX`. -/
  secretMarker : String → Bool

/-! ## The rules -/

/-- `[a-z][a-z0-9_]{2,}` on the whole of a word. -/
def isIdent : List Char → Bool
  | [] => false
  | c :: rest =>
    c.isLower && rest.all (fun d => d.isLower || d.isDigit || d = '_') && 2 ≤ rest.length

/-- `IDENT_TOKEN_REGEX` asks for the two ends of a word, so what it finds are words. -/
def identifierTokens (wordChars : WordChars) (text : String) : List String :=
  ((Words.words wordChars.apply text.toList).filter isIdent).map .ofList

def expectedRoles : List String := ["system", "user", "assistant"]

def forbiddenMarkers : List String := ["TBD", "TODO", "FIXME", "unverified", "placeholder"]

def forbiddenHostMarkers : List String := ["127.0.0.1", "192.168.", "10.0.0."]

/-- One of the components of a path is `..`. -/
def hasParentDir (path : String) : Bool := (split '/' path).any fun component => component = ".."

def debugOption (debug : String → String) : Option String → String
  | none => "None"
  | some s => s!"Some({debug s})"

variable {N : Type}

/-- What is wrong with a message. -/
def messageIssues (lib : ValidatorLib N) (offset : ℕ) (message : Json N) (expectedRole : String) :
    List String :=
  let actualRole := (message.get "role").bind Json.asStr
  let content := (message.get "content").bind Json.asStr
  (if actualRole = some expectedRole then []
    else [s!"message[{offset}]: expected role {lib.debug expectedRole}, " ++
      s!"got {debugOption lib.debug actualRole}"]) ++
  if (content.map String.isEmpty).getD true then
    [s!"message[{offset}]: empty or non-string content"]
  else []

def assistantContent (messages : List (Json N)) : String :=
  ((messages[2]?.bind (Json.get "content")).bind Json.asStr).getD ""

/-- What is wrong with a grounding that is a regular file: the answer has to share a token
with it. -/
def tokenIssues (lib : ValidatorLib N) (fs : FileSystem) (content path : String) : List String :=
  match fs.readToString path with
  | .ok fileText =>
    let fileTokens := identifierTokens lib.wordChars fileText
    let contentTokens := identifierTokens lib.wordChars content
    if fileTokens.isEmpty || contentTokens.isEmpty then
      [s!"either the grounding file {lib.debug path} or the assistant content is empty; " ++
        "the soft grounding check is vacuous"]
    else if fileTokens.all fun token => !contentTokens.contains token then
      [s!"assistant content shares no identifier tokens with `{path}`; " ++
        "the answer may be ungrounded"]
    else []
  | .error error => [s!"cannot read grounding file {lib.debug path}: {error}"]

/-- What is wrong with a grounding, for the answer that is grounded in it. -/
def groundingIssues (lib : ValidatorLib N) (fs : FileSystem) (content : String) :
    Option String → List String
  | none => ["missing required `grounding` field"]
  | some path =>
    if path = "legacy" then []
    else if path.isEmpty then ["empty `grounding` value"]
    else if hasParentDir path then
      [s!"`grounding` {lib.debug path} escapes the repository root"]
    else if !fs.exists path then [s!"`grounding` file {lib.debug path} does not exist"]
    else if fs.isFile path then tokenIssues lib fs content path
    else
      -- what exists and is no file
      []

def markerIssues (lib : ValidatorLib N) (content : String) : List String :=
  (forbiddenMarkers.filter fun marker =>
      containsStr (lib.lowercase.apply content) (lib.lowercase.apply marker)).map
    (fun marker => s!"assistant content contains forbidden marker {lib.debug marker}") ++
  (forbiddenHostMarkers.filter fun marker => containsStr content marker).map
    (fun marker => s!"assistant content contains forbidden host marker {lib.debug marker}") ++
  if lib.secretMarker content then
    ["assistant content references a secret/password/token keyword"]
  else []

/-- The messages of a record, if it has as many as there are roles. -/
def messagesArray (object : List (String × Json N)) : Option (List (Json N)) :=
  ((object.lookup "messages").bind Json.asArray).filter fun array =>
    array.length = expectedRoles.length

def grounding (object : List (String × Json N)) : Option String :=
  (object.lookup "grounding").bind Json.asStr

/-- The texts of the issues of a record. Without messages nothing else is looked at. -/
def recordIssues (lib : ValidatorLib N) (fs : FileSystem) (object : List (String × Json N)) :
    List String :=
  match messagesArray object with
  | none =>
    let got := ((object.lookup "messages").map lib.render).getD "missing"
    [s!"expected exactly {expectedRoles.length} messages, got {got}"]
  | some array =>
    ((array.zip expectedRoles).zipIdx.flatMap fun entry =>
      messageIssues lib entry.2 entry.1.1 entry.1.2) ++
    groundingIssues lib fs (assistantContent array) (grounding object) ++
    markerIssues lib (assistantContent array)

def checkRecord (lib : ValidatorLib N) (fs : FileSystem) (record : ℕ)
    (object : List (String × Json N)) : List DatasetIssue :=
  (recordIssues lib fs object).map fun message => ⟨record, message⟩

/-! ## The text -/

/-- The issues of a line. -/
def lineIssues (lib : ValidatorLib N) (fs : FileSystem) (record : ℕ) (line : String) :
    List DatasetIssue :=
  match lib.fromStr line with
  | .error error => [⟨record, s!"invalid JSON ({error})"⟩]
  | .ok value =>
    match value.asObject with
    | none => [⟨record, "top-level value is not a JSON object"⟩]
    | some object => checkRecord lib fs record object

/-- A line that holds a record. -/
def isRecord (line : String) : Bool := !(trim line).isEmpty

/-- The records, each with the number of lines before it. -/
def recordLines (text : String) : List (String × ℕ) :=
  (lines text).zipIdx.filter fun entry => isRecord entry.1

def validateDatasetText (lib : ValidatorLib N) (fs : FileSystem) (text : String) :
    DatasetReport where
  recordCount := ((lines text).filter isRecord).length
  issues := (recordLines text).flatMap fun entry => lineIssues lib fs (entry.2 + 1) entry.1

/-! ## What a rule asks for -/

variable {lib : ValidatorLib N} {fs : FileSystem}

/-- A token in a text: an identifier between two ends of words. -/
structure IsToken (wordChars : WordChars) (token text : String) : Prop where
  ident : isIdent token.toList
  occurs : ∃ before after, text.toList = before ++ (token.toList ++ after) ∧
    Words.edge wordChars.apply before (token.toList ++ after) ∧
    Words.edge wordChars.apply (before ++ token.toList) after

/-- An identifier is a word. -/
theorem isWord_of_isIdent (wordChars : WordChars) {token : List Char} (h : isIdent token) :
    token ≠ [] ∧ ∀ c ∈ token, wordChars.apply c := by
  have hword {c : Char} (hc : c.isLower || c.isDigit || c = '_') : wordChars.apply c := by
    have hsmall : c.toNat < 0x80 := by
      simp only [Bool.or_eq_true, decide_eq_true_eq, Char.isLower, Char.isDigit,
        Bool.and_eq_true] at hc
      rcases hc with (⟨-, hle⟩ | ⟨-, hle⟩) | rfl
      · exact lt_of_le_of_lt (UInt32.le_iff_toNat_le.mp hle) (by decide)
      · exact lt_of_le_of_lt (UInt32.le_iff_toNat_le.mp hle) (by decide)
      · decide
    rw [wordChars.ascii c hsmall]
    unfold Char.isAlphanum Char.isAlpha
    simp only [Bool.or_eq_true] at hc ⊢
    tauto
  unfold isIdent at h
  rcases token with _ | ⟨c, rest⟩
  · cases h
  · simp only [Bool.and_eq_true, List.all_eq_true] at h
    obtain ⟨⟨hc, hrest⟩, -⟩ := h
    refine ⟨by simp, ?_⟩
    intro d hd
    rcases List.mem_cons.mp hd with rfl | hd
    · exact hword (by rw [hc]; rfl)
    · exact hword (hrest d hd)

theorem mem_identifierTokens_iff {wordChars : WordChars} {token text : String} :
    token ∈ identifierTokens wordChars text ↔ IsToken wordChars token text := by
  unfold identifierTokens
  rw [List.mem_map]
  constructor
  · rintro ⟨word, hword, rfl⟩
    obtain ⟨hmem, hident⟩ := List.mem_filter.mp hword
    have hne := (isWord_of_isIdent wordChars hident).1
    obtain ⟨before, after, htext, -, hleft, hright⟩ := (Words.mem_words_iff_edge hne).mp hmem
    constructor
    · rw [String.toList_ofList]
      exact hident
    · rw [String.toList_ofList]
      exact ⟨before, after, htext, hleft, hright⟩
  · rintro ⟨hident, before, after, htext, hleft, hright⟩
    obtain ⟨hne, hall⟩ := isWord_of_isIdent wordChars hident
    refine ⟨token.toList, List.mem_filter.mpr ⟨?_, hident⟩, String.ofList_toList⟩
    exact (Words.mem_words_iff_edge hne).mpr ⟨before, after, htext, hall, hleft, hright⟩

/-- A message of a role, with something in it. -/
def IsMessage (role : String) (message : Json N) : Prop :=
  message.get "role" = some (.str role) ∧
    ∃ content, content ≠ "" ∧ message.get "content" = some (.str content)

end NautiFabric
