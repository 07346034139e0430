import OnfiFlash.Toml.Number
import OnfiFlash.Toml.Table

/-! Whole TOML documents. -/
namespace OnfiFlash.Toml

/-- The value of a key, as written. -/
abbrev Pair : Type := (List String × String) × Value

namespace Scanner

mutual

def value (depth : Nat) : (steps : Nat) → Scanner Value
  | 0 => failure
  | steps + 1 => do
    match ← peek with
    | some '"' | some '\'' => return .string (← text steps)
    | some 't' =>
      expectAll ['t', 'r', 'u', 'e']
      return .boolean true
    | some 'f' =>
      expectAll ['f', 'a', 'l', 's', 'e']
      return .boolean false
    | some '[' =>
      expect '['
      if nestingLimit ≤ depth + 1 then
        failure
      return .array (← elements (depth + 1) steps)
    | some '\x7b' =>
      expect '\x7b'
      if nestingLimit ≤ depth + 1 then
        failure
      spaces
      let pairs ← if (← peek) = some '\x7d' then
          expect '\x7d'
          pure []
        else
          members (depth + 1) steps
      match addPairs [] pairs with
      | some entries => return .table .closed entries
      | none => failure
    | _ => number

def elements (depth : Nat) : (steps : Nat) → Scanner (List Value)
  | 0 => failure
  | steps + 1 => do
    gap
    if (← peek) = some ']' then
      expect ']'
      return []
    let first ← value depth steps
    gap
    match ← next with
    | ',' => return first :: (← elements depth steps)
    | ']' => return [first]
    | _ => failure

/-- Take the rest of a table in braces that is not empty. -/
def members (depth : Nat) : (steps : Nat) → Scanner (List Pair)
  | 0 => failure
  | steps + 1 => do
    let name ← key steps
    expect '='
    spaces
    let first := (name, ← value depth steps)
    spaces
    match ← next with
    | ',' => return first :: (← members depth steps)
    | '\x7d' => return [first]
    | _ => failure

end

def pair (steps : Nat) : Scanner Pair := do
  let name ← key steps
  expect '='
  spaces
  let found ← value 0 steps
  restOfLine
  return (name, found)

end Scanner

inductive Line where
  | pair (pair : Pair)
  /-- The header of a table. -/
  | table (path : List String) (key : String)
  /-- The header of one more table of an array. -/
  | element (path : List String) (key : String)

namespace Scanner

def header (steps : Nat) : Scanner Line := do
  expect '['
  if (← peek) = some '[' then
    expect '['
    let (path, name) ← key steps
    expectAll [']', ']']
    restOfLine
    return .element path name
  else
    let (path, name) ← key steps
    expect ']'
    restOfLine
    return .table path name

def lines : (steps : Nat) → Scanner (List Line)
  | 0 => failure
  | steps + 1 => do
    spaces
    match ← peek with
    | none => return []
    | some '#' =>
      comment
      lineEnd
      lines steps
    | some '\n' | some '\r' =>
      newline
      lines steps
    | some '[' =>
      let line ← header steps
      return line :: (← lines steps)
    | some _ =>
      let line ← pair steps
      return .pair line :: (← lines steps)

end Scanner

/-- A header with the keys that follow it; the first keys of a document follow none. -/
structure Section where
  header : Option Line
  pairs : List Pair

/-- The sections of a document; `current` is the one that lines are being added to, its keys
latest first. -/
def sectionsFrom (current : Section) : List Line → List Section
  | [] => [{ current with pairs := current.pairs.reverse }]
  | .pair pair :: rest => sectionsFrom { current with pairs := pair :: current.pairs } rest
  | header :: rest =>
    { current with pairs := current.pairs.reverse } :: sectionsFrom ⟨some header, []⟩ rest

def addSection (entries : Entries) (part : Section) : Option Entries :=
  match part.header with
  | some (.table path key) => addTable path key part.pairs entries
  | some (.element path key) => addElement path key part.pairs entries
  | _ => addPairs entries part.pairs

def byteOrderMark : Char := '\uFEFF'

/-- The top-level entries of a document, if it is one. -/
def parse? (text : String) : Option Entries := do
  let cs := match text.toList with
    | c :: rest => if c = byteOrderMark then rest else c :: rest
    | [] => []
  let (lines, _) ← (Scanner.bounded Scanner.lines).run cs
  (sectionsFrom ⟨none, []⟩ lines).foldlM addSection []

end OnfiFlash.Toml
