import OnfiFlash.Toml.Value

/-! Building tables from dotted keys and headers. No table is defined twice, and what is written
in braces stays as it is. -/
namespace OnfiFlash.Toml

abbrev Change : Type := Origin → Entries → Option Entries

/-- Change the value of one key in place, or add the key at the end. -/
def alter (key : String) (change : Option Value → Option Value) : Entries → Option Entries
  | [] => (change none).map fun value => [(key, value)]
  | (other, value) :: rest =>
    if other = key then (change (some value)).map fun value => (key, value) :: rest
    else (alter key change rest).map fun rest => (other, value) :: rest

/-- Change the table at the end of a path. Tables that are missing on the way are made. A dotted
key does not run through a table that a header names; an array of tables stands for its last. -/
def changeAt (dotted : Bool) (change : Change) : (path : List String) → Change
  | [] => change
  | key :: path => fun _ entries =>
    let inner := changeAt dotted change path
    entries |> alter key fun found =>
      match found with
      | none =>
        let origin := if dotted then .dotted else .implied
        (inner origin []).map (.table origin)
      | some (.table .closed _) => none
      | some (.table .header entries) =>
        if dotted then none else (inner .header entries).map (.table .header)
      | some (.table origin entries) => (inner origin entries).map (.table origin)
      | some (.tables elements) => do
        let last ← elements.getLast?
        let last ← inner .header last
        return .tables (elements.dropLast ++ [last])
      | some _ => none

def addKey (key : String) (value : Value) (entries : Entries) : Option Entries :=
  entries |> alter key fun found =>
    match found with
    | none => some value
    | some _ => none

/-- Add the value of a key, which may be dotted: then its last table must be of dotted keys. -/
def addPair (entries : Entries) (pair : (List String × String) × Value) : Option Entries :=
  let ((path, key), value) := pair
  let add : Change := fun origin entries =>
    if path.isEmpty || origin = .dotted then addKey key value entries else none
  changeAt true add path .header entries

def addPairs (entries : Entries) (pairs : List ((List String × String) × Value)) :
    Option Entries :=
  pairs.foldlM addPair entries

/-- Add the table of a header with its keys, after all others. It may have been implied before. -/
def addTable (path : List String) (key : String)
    (pairs : List ((List String × String) × Value)) (entries : Entries) : Option Entries :=
  let add : Change := fun _ entries => do
    let others := entries.filter fun entry => entry.1 ≠ key
    let begun ← match entries.lookup key with
      | none => some []
      | some (.table .implied begun) => some begun
      | some _ => none
    let finished ← addPairs begun pairs
    return others ++ [(key, .table .header finished)]
  changeAt false add path .header entries

/-- Add a table with its keys to the array that a header names. -/
def addElement (path : List String) (key : String)
    (pairs : List ((List String × String) × Value)) (entries : Entries) : Option Entries :=
  let add : Change := fun _ entries => do
    let element ← addPairs [] pairs
    entries |> alter key fun found =>
      match found with
      | none => some (.tables [element])
      | some (.tables elements) => some (.tables (elements ++ [element]))
      | some _ => none
  changeAt false add path .header entries

end OnfiFlash.Toml
