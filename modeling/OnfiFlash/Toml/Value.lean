/-! Values of TOML documents. -/
namespace OnfiFlash.Toml

/-- How a table came about, which decides what may still be added to it. -/
inductive Origin where
  /-- Named by a header. -/
  | header
  /-- Only implied, by a header of a table inside it. -/
  | implied
  /-- Made by a dotted key. -/
  | dotted
  /-- Written in braces; nothing may be added. -/
  | closed
deriving DecidableEq, Repr

/-- A TOML value. Of fractional numbers and dates it is not kept which ones they are: no setting is
one of them. -/
inductive Value where
  | string (text : String)
  | integer (number : Int)
  | boolean (truth : Bool)
  | float
  | datetime
  | array (elements : List Value)
  /-- A table. Its keys are in the order of the document. -/
  | table (origin : Origin) (entries : List (String × Value))
  /-- An array whose tables are added by headers, oldest first. -/
  | tables (elements : List (List (String × Value)))
deriving Repr

abbrev Entries : Type := List (String × Value)

end OnfiFlash.Toml
