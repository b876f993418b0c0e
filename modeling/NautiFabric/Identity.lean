import Mathlib
import NautiFabric.Lib.Rely

/-!
# NautiFabric.Identity — the key of an agent

`loadOrCreateKeyAt` reads the key from a file, and where it can read none it makes a key
and creates the file, if there is none yet. Any number of calls do so at once, on one
path, and each may stop between two of its file operations; a write may stop half way.

Only a call that has created the file writes to it, and what it writes is the key that it
made: `FileGrows` says what any call may do to the file and `Whole` what is in it. So a
file of 32 bytes does not change any more, every key that was returned is the one that the
file holds, and a call that began with a file there leaves the file as it is.
-/

namespace NautiFabric

open Interleave RelyGuarantee

/-- Thirty-two bytes, `[u8; 32]`. -/
abbrev Bytes32 := {bytes : List UInt8 // bytes.length = 32}

/-- A `SecretKey`, and the functions of the path that the errors name. -/
structure KeyLib (Key : Type) where
  toBytes : Key → Bytes32
  fromBytes : Bytes32 → Key
  fromBytes_toBytes : ∀ key, fromBytes (toBytes key) = key
  /-- `Path::parent`. -/
  parent : String → Option String

/-! ## The file -/

/-- The file at the path. `creator` is the key that the call that has created the file
writes to it; the program does not see it. -/
structure KeyFile (Key : Type) where
  file : Option (List UInt8)
  creator : Option Key

/-- An operation on the file. What the system decides about it is given with it: whether
and with which error it fails, and how much is read. -/
inductive FileOp (Key : Type) where
  | openRead (refused : Bool)
  /-- At most `size` bytes from an offset, or all that is left. -/
  | readAt (start : ℕ) (size : Option ℕ)
  | createDirAll (error : Option String)
  /-- `create_new(true)`; the key is that of the call. -/
  | createNew (key : Key) (error : Option String)
  | writeAt (start : ℕ) (bytes : List UInt8)

variable {Key : Type}

@[reducible] def FileOp.Reply : FileOp Key → Type
  | openRead _ => Bool
  | readAt _ _ => List UInt8
  | createDirAll _ => Except String Unit
  | createNew _ _ => Except String Unit
  | writeAt _ _ => Unit

/-- Bytes written over a content from an offset on. -/
def overwrite (start : ℕ) (bytes content : List UInt8) : List UInt8 :=
  content.take start ++ (bytes ++ content.drop (start + bytes.length))

def FileOp.act : Effect (@FileOp.Reply Key) (KeyFile Key)
  | .openRead refused, d => (!refused && d.file.isSome, d)
  | .readAt start size, d =>
    let rest := (d.file.getD []).drop start
    (size.elim rest fun n => rest.take n, d)
  | .createDirAll error, d => (error.elim (.ok ()) .error, d)
  | .createNew key error, d =>
    match error, d.file with
    | some e, _ => (.error e, d)
    | none, some _ => (.error "File exists (os error 17)", d)
    | none, none => (.ok (), ⟨some [], some key⟩)
  | .writeAt start bytes, d => ((), { d with file := d.file.map (overwrite start bytes) })

/-! ## The call -/

/-- What the system decides for one call. A read or a write takes as many pieces as there
are sizes for it, before the last piece or the error. -/
structure Chance (Key : Type) where
  refused : Bool
  reads : List ℕ
  readError : Bool
  /-- `SecretKey::generate`. -/
  key : Key
  dirError : Option String
  createError : Option String
  writes : List ℕ
  writeError : Option String

abbrev FileProg (Key α : Type) := Prog (@FileOp.Reply Key) α

def readToEnd (chance : Chance Key) (bytes : List UInt8) :
    List ℕ → FileProg Key (Option (List UInt8))
  | [] =>
    if chance.readError then .done none
    else .atomic (.readAt bytes.length none) fun rest => .done (some (bytes ++ rest))
  | n :: sizes =>
    .atomic (.readAt bytes.length (some n)) fun piece => readToEnd chance (bytes ++ piece) sizes

/-- `fs::read`, without its error. -/
def readFile (chance : Chance Key) : FileProg Key (Option (List UInt8)) :=
  .atomic (.openRead chance.refused) fun opened =>
    match opened with
    | true => readToEnd chance [] chance.reads
    | false => .done none

/-- `write_all`, with `written` bytes of it done. -/
def writeAll (bytes : List UInt8) (error : Option String) (written : ℕ) :
    List ℕ → FileProg Key (Except String Unit)
  | [] =>
    match error with
    | some e => .done (.error e)
    | none => .atomic (.writeAt written (bytes.drop written)) fun _ => .done (.ok ())
  | n :: sizes =>
    .atomic (.writeAt written ((bytes.drop written).take n)) fun _ =>
      writeAll bytes error (min (written + n) bytes.length) sizes

/-- `create_dir_all` of the directory of the file, if it has one. -/
def createParent (lib : KeyLib Key) (path : String) (error : Option String) :
    FileProg Key (Except String Unit) :=
  match lib.parent path with
  | none => .done (.ok ())
  | some parent =>
    .atomic (.createDirAll error) fun made =>
      .done (made.mapError fun e => s!"{parent}: {e}")

def createKey (lib : KeyLib Key) (path : String) (chance : Chance Key) :
    FileProg Key (Except String Key) :=
  (createParent lib path chance.dirError).bind fun
    | .error e => .done (.error e)
    | .ok () =>
      .atomic (.createNew chance.key chance.createError) fun
        | .error e => .done (.error s!"{path}: {e}")
        | .ok () =>
          (writeAll (lib.toBytes chance.key).val chance.writeError 0 chance.writes).bind fun
            | .error e => .done (.error s!"{path}: {e}")
            | .ok () => .done (.ok chance.key)

def keyOfBytes (lib : KeyLib Key) (path : String) (bytes : List UInt8) : Except String Key :=
  if h : bytes.length = 32 then .ok (lib.fromBytes ⟨bytes, h⟩)
  else .error s!"{path}: expected 32 bytes, found {bytes.length}"

def loadOrCreateKeyAt (lib : KeyLib Key) (path : String) (chance : Chance Key) :
    FileProg Key (Except String Key) :=
  (readFile chance).bind fun
    | some bytes => .done (keyOfBytes lib path bytes)
    | none => createKey lib path chance

/-! ## What a call may do to the file -/

variable {lib : KeyLib Key} {key key' : Key} {began d d' d'' : KeyFile Key}

/-- A file that is there goes on with the same creator, it only grows, and without a
creator it does not change. -/
structure FileGrows (d d' : KeyFile Key) : Prop where
  grows : ∀ content, d.file = some content →
    ∃ content', d'.file = some content' ∧ content <+: content'
  creator : d.file.isSome → d'.creator = d.creator
  kept : d.creator = none → ∀ content, d.file = some content → d'.file = some content

/-- A file that a call has created holds a part of the key of that call. -/
def Whole (lib : KeyLib Key) (d : KeyFile Key) : Prop :=
  ∀ key, d.creator = some key →
    ∃ content, d.file = some content ∧ content <+: (lib.toBytes key).val

/-- The file holds the key. -/
def HoldsKey (lib : KeyLib Key) (key : Key) (d : KeyFile Key) : Prop :=
  ∃ bytes, d.file = some bytes.val ∧ lib.fromBytes bytes = key

/-- What a section of a call does that began in `began`. -/
structure Guarantees (began d d' : KeyFile Key) : Prop where
  later : FileGrows d d'
  leaves : began.file.isSome → d'.file = d.file

theorem FileGrows.refl (d : KeyFile Key) : FileGrows d d where
  grows := fun content h => ⟨content, h, List.prefix_rfl⟩
  creator := fun _ => rfl
  kept := fun _ _ h => h

theorem FileGrows.isSome (h : FileGrows d d') (hfile : d.file.isSome) : d'.file.isSome := by
  obtain ⟨content, hcontent⟩ := Option.isSome_iff_exists.mp hfile
  obtain ⟨content', hcontent', -⟩ := h.grows content hcontent
  rw [hcontent']
  rfl

theorem FileGrows.trans (h : FileGrows d d') (h' : FileGrows d' d'') : FileGrows d d'' where
  grows := by
    intro content hcontent
    obtain ⟨content', hcontent', hgrows⟩ := h.grows content hcontent
    obtain ⟨content'', hcontent'', hgrows'⟩ := h'.grows content' hcontent'
    exact ⟨content'', hcontent'', hgrows.trans hgrows'⟩
  creator := by
    intro hfile
    rw [h'.creator (h.isSome hfile), h.creator hfile]
  kept := by
    intro hnone content hcontent
    have hfile : d.file.isSome := by
      rw [hcontent]
      rfl
    exact h'.kept ((h.creator hfile).trans hnone) content (h.kept hnone content hcontent)

/-- What becomes of a content. -/
theorem FileGrows.of_file (h : FileGrows d d') {content : List UInt8}
    (hfile : d.file = some content) :
    ∃ content', d'.file = some content' ∧ content <+: content' ∧ d'.creator = d.creator ∧
      (d'.creator = none → content' = content) := by
  obtain ⟨content', hfile', hgrows⟩ := h.grows content hfile
  have hcreator : d'.creator = d.creator := h.creator (by rw [hfile]; rfl)
  refine ⟨content', hfile', hgrows, hcreator, ?_⟩
  intro hnone
  have hkept := h.kept (hcreator.symm.trans hnone) content hfile
  rw [hfile', Option.some.injEq] at hkept
  exact hkept

theorem Guarantees.refl (began d : KeyFile Key) : Guarantees began d d := ⟨.refl d, fun _ => rfl⟩

theorem Whole.part (h : Whole lib d) (hcreator : d.creator = some key) {content : List UInt8}
    (hfile : d.file = some content) : content <+: (lib.toBytes key).val := by
  obtain ⟨content', hfile', hpart⟩ := h key hcreator
  rw [hfile, Option.some.injEq] at hfile'
  rw [hfile']
  exact hpart

/-- Thirty-two bytes that are read are all of the file, whoever writes it. -/
theorem eq_of_length {bytes content : List UInt8} (hwhole : Whole lib d)
    (hfile : d.file = some content) (hread : bytes <+: content)
    (hnone : d.creator = none → content = bytes) (hlength : bytes.length = 32) :
    content = bytes := by
  rcases hcreator : d.creator with _ | creator
  · exact hnone hcreator
  · have hle := (hwhole.part hcreator hfile).length_le
    rw [(lib.toBytes creator).property] at hle
    exact (hread.eq_of_length_le (by omega)).symm

/-- A file that holds a key goes on holding it. -/
theorem HoldsKey.later (h : HoldsKey lib key d) (hgrew : FileGrows d d') (hwhole : Whole lib d') :
    HoldsKey lib key d' := by
  obtain ⟨bytes, hfile, hkey⟩ := h
  obtain ⟨content', hfile', hgrows, -, hnone⟩ := hgrew.of_file hfile
  have heq := eq_of_length hwhole hfile' hgrows hnone bytes.property
  exact ⟨bytes, by rw [hfile', heq], hkey⟩

theorem HoldsKey.unique (h : HoldsKey lib key d) (h' : HoldsKey lib key' d) : key = key' := by
  obtain ⟨bytes, hfile, hkey⟩ := h
  obtain ⟨bytes', hfile', hkey'⟩ := h'
  rw [hfile, Option.some.injEq] at hfile'
  rw [← hkey, ← hkey', Subtype.ext hfile']

/-- What the calls on one path rely on. -/
def keyFileRely (lib : KeyLib Key) : Rely (KeyFile Key) where
  inv := Whole lib
  rel := FileGrows
  refl := .refl
  trans := .trans

/-! ## Reading -/

/-- What was read is a part of the file, and all of it if nobody has created it. -/
def WasRead (began : KeyFile Key) (bytes : Option (List UInt8)) (d : KeyFile Key) : Prop :=
  FileGrows began d ∧ ∀ read, bytes = some read →
    ∃ content, d.file = some content ∧ read <+: content ∧ (d.creator = none → content = read)

theorem WasRead.later {bytes : Option (List UInt8)} (h : WasRead began bytes d)
    (hgrew : FileGrows d d') : WasRead began bytes d' := by
  obtain ⟨hbegan, hread⟩ := h
  refine ⟨hbegan.trans hgrew, ?_⟩
  intro read hsome
  obtain ⟨content, hfile, hpart, hnone⟩ := hread read hsome
  obtain ⟨content', hfile', hgrows, hcreator, hkept⟩ := hgrew.of_file hfile
  refine ⟨content', hfile', hpart.trans hgrows, ?_⟩
  intro hnone'
  rw [hkept hnone', hnone (hcreator.symm.trans hnone')]

/-- Nothing was read. -/
theorem safe_notRead (hbegan : FileGrows began d) :
    Safe FileOp.act (keyFileRely lib) (Guarantees began) (WasRead began)
      (.done none : FileProg Key (Option (List UInt8))) d := by
  refine safe_done ?_
  intro d' hgrew _
  refine ⟨hbegan.trans hgrew, ?_⟩
  intro read hsome
  cases hsome

/-- Behind a part of the file, all that is left is the rest of it. -/
theorem readAt_rest {bytes content : List UInt8} (hfile : d.file = some content)
    (hpart : bytes <+: content) :
    bytes ++ (FileOp.act (.readAt bytes.length none) d).1 = content := by
  obtain ⟨rest, rfl⟩ := hpart
  show bytes ++ (d.file.getD []).drop bytes.length = bytes ++ rest
  rw [hfile, Option.getD_some, List.drop_left]

/-- A part of the file and the piece that is read behind it are a part of the file. -/
theorem readAt_piece {bytes content : List UInt8} (hfile : d.file = some content)
    (hpart : bytes <+: content) (n : ℕ) :
    bytes ++ (FileOp.act (.readAt bytes.length (some n)) d).1 <+: content := by
  obtain ⟨rest, rfl⟩ := hpart
  show bytes ++ ((d.file.getD []).drop bytes.length).take n <+: bytes ++ rest
  rw [hfile, Option.getD_some, List.drop_left]
  exact (List.prefix_append_right_inj _).mpr (List.take_prefix _ _)

theorem safe_readToEnd (chance : Chance Key) (bytes : List UInt8) (sizes : List ℕ)
    (hbegan : FileGrows began d) (hread : ∃ content, d.file = some content ∧ bytes <+: content) :
    Safe FileOp.act (keyFileRely lib) (Guarantees began) (WasRead began)
      (readToEnd chance bytes sizes) d := by
  -- on the pieces: what was read stays a part of the file, which only grows
  induction sizes generalizing bytes d with
  | nil =>
      unfold readToEnd
      split
      · exact safe_notRead hbegan
      · refine safe_query (Guarantees.refl began) (fun _ => rfl) ?_
        intro d' hgrew hwhole
        obtain ⟨content, hfile, hpart⟩ := hread
        obtain ⟨content', hfile', hgrows⟩ := hgrew.grows content hfile
        have hall := readAt_rest hfile' (hpart.trans hgrows)
        refine safe_done ?_
        intro d'' hgrew' _
        refine WasRead.later ⟨hbegan.trans hgrew, ?_⟩ hgrew'
        intro read hsome
        rw [← Option.some.inj hsome, hall]
        exact ⟨content', hfile', List.prefix_rfl, fun _ => rfl⟩
  | cons n sizes ih =>
      unfold readToEnd
      refine safe_query (Guarantees.refl began) (fun _ => rfl) ?_
      intro d' hgrew _
      obtain ⟨content, hfile, hpart⟩ := hread
      obtain ⟨content', hfile', hgrows⟩ := hgrew.grows content hfile
      have hpiece := readAt_piece hfile' (hpart.trans hgrows) n
      exact ih _ (hbegan.trans hgrew) ⟨content', hfile', hpiece⟩

theorem safe_readFile (chance : Chance Key) (d : KeyFile Key) :
    Safe FileOp.act (keyFileRely lib) (Guarantees d) (WasRead d) (readFile chance) d := by
  unfold readFile
  refine safe_query (Guarantees.refl d) (fun _ => rfl) ?_
  intro d' hgrew _
  rcases hopened : (FileOp.act (.openRead chance.refused) d').1 with _ | _
  · exact safe_notRead hgrew
  · have hopened' : (!chance.refused && d'.file.isSome) = true := hopened
    obtain ⟨content, hfile⟩ := Option.isSome_iff_exists.mp (Bool.and_eq_true_iff.mp hopened').2
    exact safe_readToEnd chance [] chance.reads hgrew ⟨content, hfile, List.nil_prefix⟩

/-! ## Writing -/

/-- A piece of a text written over a part of the same text. -/
theorem overwrite_prefix {whole content : List UInt8} {start : ℕ} (hcontent : content <+: whole)
    (hstart : start ≤ content.length) (n : ℕ) :
    overwrite start ((whole.drop start).take n) content =
      whole.take (max content.length (start + n)) := by
  obtain ⟨m, hm, rfl⟩ : ∃ m ≤ whole.length, content = whole.take m :=
    ⟨content.length, hcontent.length_le, List.prefix_iff_eq_take.mp hcontent⟩
  rw [List.length_take, min_eq_left hm] at hstart ⊢
  unfold overwrite
  rw [List.take_take, min_eq_left hstart, List.length_take, List.length_drop, ← List.append_assoc,
    ← List.take_add]
  rcases Nat.le_total (start + n) m with hle | hle
  · -- the piece ends within what is there
    have hpiece : whole.take (start + n) = (whole.take m).take (start + n) := by
      rw [List.take_take, min_eq_left hle]
    rw [min_eq_left (by omega), max_eq_left hle, hpiece, List.take_append_drop]
  · have hnil : (whole.take m).drop (start + min n (whole.length - start)) = [] := by
      apply List.drop_eq_nil_of_le
      rw [List.length_take]
      omega
    rw [hnil, List.append_nil, max_eq_right hle]

/-- The call that has created the file has written so much of its key. -/
def Written (lib : KeyLib Key) (key : Key) (written : ℕ) (d : KeyFile Key) : Prop :=
  d.creator = some key ∧
    ∃ content, d.file = some content ∧ content <+: (lib.toBytes key).val ∧
      written ≤ content.length

theorem Written.later {written : ℕ} (h : Written lib key written d) (hgrew : FileGrows d d')
    (hwhole : Whole lib d') : Written lib key written d' := by
  obtain ⟨hcreator, content, hfile, -, hle⟩ := h
  obtain ⟨content', hfile', hgrows, hsame, -⟩ := hgrew.of_file hfile
  have hcreator' : d'.creator = some key := hsame.trans hcreator
  exact ⟨hcreator', content', hfile', hwhole.part hcreator' hfile', hle.trans hgrows.length_le⟩

/-- A piece of the key is written where the piece before it ends. -/
theorem Written.writeAt {written : ℕ} (h : Written lib key written d) (n : ℕ) :
    let d' := (FileOp.act (.writeAt written (((lib.toBytes key).val.drop written).take n)) d).2
    FileGrows d d' ∧ Whole lib d' ∧
      Written lib key (min (written + n) (lib.toBytes key).val.length) d' := by
  obtain ⟨hcreator, content, hfile, hpart, hle⟩ := h
  intro d'
  -- the file is a longer part of the key now
  have hfile' : d'.file =
      some ((lib.toBytes key).val.take (max content.length (written + n))) := by
    rw [← overwrite_prefix hpart hle n]
    show d.file.map _ = _
    rw [hfile]
    rfl
  have hcreator' : d'.creator = some key := hcreator
  have hgrows : content <+: (lib.toBytes key).val.take (max content.length (written + n)) := by
    refine List.prefix_of_prefix_length_le hpart (List.take_prefix _ _) ?_
    have hpartLength := hpart.length_le
    rw [List.length_take]
    omega
  refine ⟨⟨?_, fun _ => rfl, ?_⟩, ?_, hcreator', _, hfile', List.take_prefix _ _, ?_⟩
  · intro content' hcontent'
    rw [hfile, Option.some.injEq] at hcontent'
    subst hcontent'
    exact ⟨_, hfile', hgrows⟩
  · intro hnone
    rw [hcreator] at hnone
    cases hnone
  · intro key' hkey'
    rw [hcreator', Option.some.injEq] at hkey'
    subst hkey'
    exact ⟨_, hfile', List.take_prefix _ _⟩
  · rw [List.length_take]
    omega

/-- Where the file was not there when the call began, the call may write its key. -/
theorem safe_writeAll (hbegan : began.file = none) (error : Option String) (sizes : List ℕ)
    {written : ℕ} (h : Written lib key written d) :
    Safe FileOp.act (keyFileRely lib) (Guarantees began)
      (fun result d => result = .ok () → HoldsKey lib key d)
      (writeAll (lib.toBytes key).val error written sizes) d := by
  have hguar {d d' : KeyFile Key} (hgrew : FileGrows d d') : Guarantees began d d' := by
    refine ⟨hgrew, ?_⟩
    rw [hbegan]
    intro hsome
    cases hsome
  induction sizes generalizing written d with
  | nil =>
      unfold writeAll
      cases error with
      | some e =>
          refine safe_done ?_
          intro d' _ _ hok
          cases hok
      | none =>
          refine safe_atomic ?_
          intro d' hgrew hwhole
          have hpiece := (h.later hgrew hwhole).writeAt (lib.toBytes key).val.length
          rw [List.take_of_length_le (by rw [List.length_drop]; omega)] at hpiece
          obtain ⟨hgrew', hwhole', hcreator, content, hfile, hpart, hle⟩ := hpiece
          refine ⟨hguar hgrew', hwhole', safe_done ?_⟩
          intro d'' hgrew'' hwhole'' _
          -- all of the key is there
          have hall : content = (lib.toBytes key).val := hpart.eq_of_length_le (by omega)
          have hholds : HoldsKey lib key
              (FileOp.act (.writeAt written ((lib.toBytes key).val.drop written)) d').2 :=
            ⟨lib.toBytes key, by rw [hfile, hall], lib.fromBytes_toBytes key⟩
          exact hholds.later hgrew'' hwhole''
  | cons n sizes ih =>
      unfold writeAll
      refine safe_atomic ?_
      intro d' hgrew hwhole
      obtain ⟨hgrew', hwhole', hwritten⟩ := (h.later hgrew hwhole).writeAt n
      exact ⟨hguar hgrew', hwhole', ih hwritten⟩

/-! ## The whole call -/

theorem safe_createParent (path : String) (error : Option String) (hbegan : FileGrows began d) :
    Safe FileOp.act (keyFileRely lib) (Guarantees began) (fun _ d => FileGrows began d)
      (createParent lib path error) d := by
  unfold createParent
  split
  · refine safe_done ?_
    intro d' hgrew _
    exact hbegan.trans hgrew
  · refine safe_query (Guarantees.refl began) (fun _ => rfl) ?_
    intro d' hgrew _
    refine safe_done ?_
    intro d'' hgrew' _
    exact (hbegan.trans hgrew).trans hgrew'

/-- The file is created only if it is not there, and then not by a call that began with it
there. -/
theorem createNew_cases (chanceKey : Key) (error : Option String) (d : KeyFile Key) :
    (∃ e, FileOp.act (.createNew chanceKey error) d = (.error e, d)) ∨
      d.file = none ∧
        FileOp.act (.createNew chanceKey error) d = (.ok (), ⟨some [], some chanceKey⟩) := by
  obtain ⟨file, creator⟩ := d
  cases error with
  | some e => exact .inl ⟨e, rfl⟩
  | none =>
      cases file with
      | none => exact .inr ⟨rfl, rfl⟩
      | some content => exact .inl ⟨"File exists (os error 17)", rfl⟩

/-- What a call returns is a key that the file holds. -/
def Returned (lib : KeyLib Key) (result : Except String Key) (d : KeyFile Key) : Prop :=
  ∀ key, result = .ok key → HoldsKey lib key d

theorem safe_error (e : String) :
    Safe FileOp.act (keyFileRely lib) (Guarantees began) (Returned lib)
      (.done (.error e) : FileProg Key (Except String Key)) d := by
  refine safe_done ?_
  intro d' _ _ key hok
  cases hok

/-- A file that was not there is created with nothing in it. -/
theorem of_created (lib : KeyLib Key) (hnone : d.file = none) (hbegan : began.file = none)
    (key : Key) :
    let made : KeyFile Key := ⟨some [], some key⟩
    Guarantees began d made ∧ Whole lib made ∧ Written lib key 0 made := by
  intro made
  have habsent {content : List UInt8} (hcontent : d.file = some content) : False := by
    rw [hnone] at hcontent
    cases hcontent
  refine ⟨⟨⟨?_, ?_, ?_⟩, ?_⟩, ?_, rfl, [], rfl, List.nil_prefix, le_rfl⟩
  · intro content hcontent
    exact (habsent hcontent).elim
  · intro hsome
    obtain ⟨content, hcontent⟩ := Option.isSome_iff_exists.mp hsome
    exact (habsent hcontent).elim
  · intro _ content hcontent
    exact (habsent hcontent).elim
  · rw [hbegan]
    intro hsome
    cases hsome
  · intro key' _
    exact ⟨[], rfl, List.nil_prefix⟩

theorem safe_createKey (path : String) (chance : Chance Key) (hbegan : FileGrows began d)
    (hwhole : Whole lib d) :
    Safe FileOp.act (keyFileRely lib) (Guarantees began) (Returned lib)
      (createKey lib path chance) d := by
  refine Safe.bind (safe_createParent path chance.dirError hbegan) ?_ hwhole
  rintro (e | ⟨⟩) d _ hbegan
  · exact safe_error e
  · refine safe_atomic ?_
    intro d' hgrew hwhole'
    rcases createNew_cases chance.key chance.createError d' with ⟨e, hfails⟩ | ⟨hnone, hmade⟩
    · rw [hfails]
      exact ⟨.refl _ _, hwhole', safe_error _⟩
    · rw [hmade]
      -- a file that was there when the call began would still be there
      have hbeganNone : began.file = none := by
        by_contra hsome
        have hthere := (hbegan.trans hgrew).isSome (Option.isSome_iff_ne_none.mpr hsome)
        rw [hnone] at hthere
        cases hthere
      obtain ⟨hguar, hempty, hwritten⟩ := of_created lib hnone hbeganNone chance.key
      refine ⟨hguar, hempty, ?_⟩
      have hwrites := safe_writeAll hbeganNone chance.writeError chance.writes hwritten
      refine Safe.bind hwrites ?_ hempty
      rintro (e | ⟨⟩) d'' _ hholds
      · exact safe_error _
      · refine safe_done ?_
        intro d''' hgrew' hwhole'' key hok
        rw [← Except.ok.inj hok]
        exact (hholds rfl).later hgrew' hwhole''

theorem safe_loadOrCreateKeyAt (path : String) (chance : Chance Key) (hwhole : Whole lib d) :
    Safe FileOp.act (keyFileRely lib) (Guarantees d) (Returned lib)
      (loadOrCreateKeyAt lib path chance) d := by
  refine Safe.bind (safe_readFile chance d) ?_ hwhole
  rintro (_ | bytes) d' hwhole' ⟨hbegan, hread⟩
  · exact safe_createKey path chance hbegan hwhole'
  · refine safe_done ?_
    intro d'' hgrew hwhole'' key hok
    unfold keyOfBytes at hok
    split at hok
    · rename_i hlength
      obtain ⟨content, hfile, hpart, hnone⟩ := hread bytes rfl
      have hall := eq_of_length hwhole' hfile hpart hnone hlength
      have hholds : HoldsKey lib key d' :=
        ⟨⟨bytes, hlength⟩, by rw [hfile, hall], Except.ok.inj hok⟩
      exact hholds.later hgrew hwhole''
    · cases hok

/-! ## Any number of calls -/

/-- A call of `loadOrCreateKeyAt` on the path. -/
def Loads (lib : KeyLib Key) (path : String) (p : FileProg Key (Except String Key)) : Prop :=
  ∃ chance, p = loadOrCreateKeyAt lib path chance

/-- At first no call has created the file, which may be there or not. -/
def Untouched (d : KeyFile Key) : Prop := d.creator = none

theorem sound_loads (lib : KeyLib Key) (path : String) :
    Sound FileOp.act (Loads lib path) (keyFileRely lib) Guarantees (Returned lib) where
  safe := by
    rintro p ⟨chance, rfl⟩ d hwhole
    exact safe_loadOrCreateKeyAt path chance hwhole
  keeps := Guarantees.later

theorem whole_of_untouched (lib : KeyLib Key) (d : KeyFile Key) (h : Untouched d) :
    Whole lib d := by
  intro key hkey
  have hnone : d.creator = none := h
  rw [hnone] at hkey
  cases hkey

/-- In every run of calls on one path: all the keys that were returned are one key, and no
call changes the content of a file that was there when it began. -/
theorem identity_stable (lib : KeyLib Key) (path : String)
    {c : Pool (@FileOp.Reply Key) (KeyFile Key) (Except String Key)}
    (h : Reachable FileOp.act (Loads lib path) Untouched c) :
    (∀ call ∈ c.calls, ∀ call' ∈ c.calls, ∀ key key',
      call.prog = .done (.ok key) → call'.prog = .done (.ok key') → key = key') ∧
    ∀ call ∈ c.calls, ∀ content, call.began.file = some content →
      ∀ l next, call.prog = .atomic l next → (FileOp.act l c.state).2.file = c.state.file := by
  have hsound := sound_loads lib path
  have hinit : ∀ d, Untouched d → (keyFileRely lib).inv d := whole_of_untouched lib
  constructor
  · intro call hcall call' hcall' key key' hdone hdone'
    have hholds := hsound.post_of_done hinit h hcall hdone
    have hholds' := hsound.post_of_done hinit h hcall' hdone'
    exact (hholds key rfl).unique (hholds' key' rfl)
  · intro call hcall content hbegan l next hatomic
    apply (hsound.guar_of_atomic hinit h hcall hatomic).leaves
    rw [hbegan]
    rfl

namespace IdentityScenario

/-- Keys that are their bytes. -/
def rawKeys : KeyLib Bytes32 where
  toBytes := id
  fromBytes := id
  fromBytes_toBytes := fun _ => rfl
  parent := fun _ => some "/var/lib/nauti"

/-- Of a call that would make a key of one byte, and writes it in two pieces. -/
def chance (b : UInt8) : Chance Bytes32 where
  refused := false
  reads := []
  readError := false
  key := ⟨List.replicate 32 b, List.length_replicate⟩
  dirError := none
  createError := none
  writes := [10]
  writeError := none

def load (b : UInt8) : FileProg Bytes32 (Except String Bytes32) :=
  loadOrCreateKeyAt rawKeys "/var/lib/nauti/n-secret.key" (chance b)

/-- The second call reads while the first one writes, the third one when it is done. -/
def moves : List (Move (@FileOp.Reply Bytes32) (Except String Bytes32)) :=
  [.begin (load 7), .advance 0, .advance 0, .advance 0, .advance 0,
    .begin (load 8), .advance 1, .advance 1, .advance 0,
    .begin (load 9), .advance 2, .advance 2]

def raced : Pool (@FileOp.Reply Bytes32) (KeyFile Bytes32) (Except String Bytes32) :=
  moves.foldl (exec FileOp.act) ⟨⟨none, none⟩, []⟩

end IdentityScenario

open IdentityScenario in
/-- The third call would have made another key, and returns that of the first. -/
theorem identity_stable_raced :
    (raced.calls.map fun call => call.prog matches .done (.ok _)) = [true, false, true] ∧
      ∀ call ∈ raced.calls, ∀ call' ∈ raced.calls, ∀ key key',
        call.prog = .done (.ok key) → call'.prog = .done (.ok key') → key = key' := by
  have hinit : Reachable FileOp.act (Loads rawKeys "/var/lib/nauti/n-secret.key") Untouched
      ⟨⟨none, none⟩, []⟩ := ⟨⟨none, none⟩, rfl, .refl⟩
  have hadmits : Admits (Loads rawKeys "/var/lib/nauti/n-secret.key") moves := by
    intro p hp
    simp only [moves, List.mem_cons, Move.begin.injEq, reduceCtorEq, List.not_mem_nil, or_false,
      false_or] at hp
    rcases hp with rfl | rfl | rfl
    · exact ⟨chance 7, rfl⟩
    · exact ⟨chance 8, rfl⟩
    · exact ⟨chance 9, rfl⟩
  refine ⟨by decide +kernel, ?_⟩
  exact (identity_stable rawKeys "/var/lib/nauti/n-secret.key" (hinit.schedule hadmits)).1

end NautiFabric
