import NautiFabric.Lib.Entries

/-!
# Records read field by field

How a derived reader makes a record of a value: from a table, in which each field is looked
up by its key, or from a list, in which it stands at its position. A field says what it is
where the table has no such key, and where the list ends before it.

* `Field.read_set` is what another value at one key does to each field.
* `Field.EmptyIsMissing` says of a field that leaving it out and writing it empty is the
  same to it; `Field.read_set_empty` is what follows.
-/

namespace Record

variable {κ V α : Type*} [DecidableEq κ]

/-- What the fields are read from. -/
inductive Fields (κ V : Type*) where
  | named (entries : List (κ × V))
  | listed (items : List V)

structure Field (κ V α : Type*) where
  key : κ
  decode : V → Option α
  /-- its value in a table without the key; none where that is an error -/
  missing : Option α
  /-- its value in a list that ends before it -/
  short : Option α

namespace Field

/-- A field with a default. -/
def defaulted (key : κ) (default : α) (decode : V → Option α) : Field κ V α :=
  ⟨key, decode, some default, some default⟩

/-- An optional field, which has no default. -/
def optional (key : κ) (decode : V → Option α) : Field κ V (Option α) :=
  ⟨key, fun v => (decode v).map some, some none, none⟩

/-- The field at a key, or at a position. -/
def read (field : Field κ V α) (position : ℕ) : Fields κ V → Option α
  | .named entries =>
    match entries.lookup field.key with
    | none => field.missing
    | some v => field.decode v
  | .listed items =>
    match items[position]? with
    | none => field.short
    | some v => field.decode v

variable {field : Field κ V α} {entries : List (κ × V)} {empty : V}

/-- Only the field of that key is read from the new value. -/
theorem read_set (field : Field κ V α) (position : ℕ) (k : κ) (v : V)
    (entries : List (κ × V)) :
    field.read position (.named (Entries.set k v entries)) =
      if field.key = k then field.decode v else field.read position (.named entries) := by
  unfold read
  dsimp only
  rw [Entries.lookup_set]
  by_cases hkey : field.key = k
  · rw [if_pos hkey, if_pos hkey]
  · rw [if_neg hkey, if_neg hkey]

theorem read_set_of_ne {k : κ} (hne : field.key ≠ k) (position : ℕ) (v : V)
    (entries : List (κ × V)) :
    field.read position (.named (Entries.set k v entries)) =
      field.read position (.named entries) := by
  rw [read_set, if_neg hne]

/-- Leaving the field out is the same to it as writing `empty`. -/
def EmptyIsMissing (field : Field κ V α) (empty : V) : Prop := field.decode empty = field.missing

/-- Writing `empty` where nothing was. -/
theorem read_set_empty {k : κ} (h : field.key = k → field.EmptyIsMissing empty) (position : ℕ)
    (habsent : entries.lookup k = none) :
    field.read position (.named (Entries.set k empty entries)) =
      field.read position (.named entries) := by
  by_cases hkey : field.key = k
  · rw [read_set, if_pos hkey, h hkey]
    unfold read
    dsimp only
    rw [hkey, habsent]
  · exact read_set_of_ne hkey position empty entries

end Field

end Record
