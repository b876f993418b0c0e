import NautiFabric.Lib.Entries

/-!
# NautiFabric.Json — JSON values and how they are read

A `serde_json::Value`. A number is the `f64` that it reads as, of a type `N`; an
object is the list of its entries, with different keys. Reading a key that is
not there, or any key of a value that is not an object, gives `null`.
-/

namespace NautiFabric

inductive Json (N : Type) where
  | null
  | bool (value : Bool)
  | num (value : N)
  | str (value : String)
  | arr (items : List (Json N))
  | obj (entries : List (String × Json N))

namespace Json

variable {N : Type}

/-- `value[key]` -/
def index (key : String) : Json N → Json N
  | .obj entries => (entries.lookup key).getD .null
  | _ => .null

/-- `Value::get` with a key. -/
def get (key : String) : Json N → Option (Json N)
  | .obj entries => entries.lookup key
  | _ => none

def asStr : Json N → Option String
  | .str value => some value
  | _ => none

def asF64 : Json N → Option N
  | .num value => some value
  | _ => none

def asArray : Json N → Option (List (Json N))
  | .arr items => some items
  | _ => none

def asBool : Json N → Option Bool
  | .bool value => some value
  | _ => none

def asObject : Json N → Option (List (String × Json N))
  | .obj entries => some entries
  | _ => none

/-! ## Changing an object -/

/-- The entries of an object with another value at `key`. -/
def setEntry (key : String) (value : Json N) :
    List (String × Json N) → List (String × Json N)
  | [] => [(key, value)]
  | entry :: entries =>
    if entry.1 = key then (key, value) :: entries else entry :: setEntry key value entries

theorem setEntry_eq_set (key : String) (value : Json N) (entries : List (String × Json N)) :
    setEntry key value entries = Entries.set key value entries := by
  induction entries with
  | nil => rfl
  | cons entry entries ih => rw [setEntry, Entries.set, ih]

theorem lookup_setEntry (key : String) (value : Json N) (entries : List (String × Json N))
    (k : String) :
    (setEntry key value entries).lookup k = if k = key then some value else entries.lookup k := by
  rw [setEntry_eq_set]
  exact Entries.lookup_set key value entries k

theorem keys_setEntry {key : String} {entries : List (String × Json N)}
    (h : key ∈ entries.map Prod.fst) (value : Json N) :
    (setEntry key value entries).map Prod.fst = entries.map Prod.fst := by
  induction entries with
  | nil => cases h
  | cons entry entries ih =>
      rw [setEntry]
      by_cases hname : entry.1 = key
      · rw [if_pos hname, List.map_cons, List.map_cons, hname]
      · rw [if_neg hname, List.map_cons, List.map_cons, ih]
        rw [List.map_cons, List.mem_cons] at h
        rcases h with h | h
        · exact absurd h.symm hname
        · exact h

end Json

end NautiFabric
