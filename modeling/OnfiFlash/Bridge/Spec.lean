import OnfiFlash.Text.Diagnostic
import OnfiFlash.Text.Numeral
import OnfiFlash.Text.Quoted
import OnfiFlash.Text.Split

/-! Bridge strings: the name of a bridge, then optionally a colon and parameters, written
`name:key=value,key=value`. -/
namespace OnfiFlash.Bridge

inductive Kind where
  /-- A USB bridge. -/
  | usb
  /-- An emulated chip in memory. -/
  | emulator
deriving DecidableEq, Repr

namespace Kind

/-- All bridges, in the order they are listed. -/
def all : List Kind := [usb, emulator]

/-- The name a bridge is known by first. -/
def name : Kind → String
  | usb => "usb"
  | emulator => "dummy"

def aliases : Kind → List String
  | usb => ["bridge"]
  | emulator => ["emulator"]

def description : Kind → String
  | usb => "USB bulk bridge (vid=<id>,pid=<id>,index=<n>,interface=<n>,timeout=<ms>)"
  | emulator => "In-memory NAND emulator (blocks=<n>,bad=<a+b+..>,wp=<0|1>,busy=<polls>)"

def ofName? (name : String) : Option Kind :=
  all.find? fun kind => kind.name = name || kind.aliases.contains name

def names : String := ", ".intercalate (all.map Kind.name)

end Kind

inductive SpecError where
  /-- No bridge has this name. -/
  | unknown (name available : String)
  /-- A parameter is not of the form `key=value`. -/
  | format (piece : String)
  /-- The bridge has no such parameter. -/
  | unknownParameter (bridge key : String)
  /-- The value of a parameter is no acceptable number. -/
  | invalidValue (key value reason : String)
deriving DecidableEq, Repr

namespace SpecError

def message : SpecError → String
  | unknown name available => s!"unknown bridge '{name}' (available: {available})"
  | format piece => s!"invalid parameter format: '{piece}' (expected key=value)"
  | unknownParameter bridge key => s!"bridge '{bridge}' has no parameter '{key}'"
  | invalidValue key value reason => s!"invalid value '{value}' for '{key}': {reason}"

/-- The name of the cause, without its details. -/
def name : SpecError → String
  | unknown _ _ => "Unknown"
  | format _ => "Format"
  | unknownParameter _ _ => "UnknownParameter"
  | invalidValue _ _ _ => "InvalidValue"

/-- The structural spelling printed by a failing command. -/
def diagnostic (e : SpecError) : String :=
  match e with
  | unknown name available => Diagnostic.tuple e.name [quoted name, quoted available]
  | format piece => Diagnostic.tuple e.name [quoted piece]
  | unknownParameter bridge key =>
    Diagnostic.record e.name [("bridge", quoted bridge), ("key", quoted key)]
  | invalidValue key value reason =>
    Diagnostic.record e.name
      [("key", quoted key), ("value", quoted value), ("reason", quoted reason)]

end SpecError

/-- A bridge string taken apart. Each key occurs once, where it was given first. -/
structure Spec where
  name : String
  parameters : List (String × String)
deriving DecidableEq, Repr

/-- Set a parameter; a later value replaces an earlier one. -/
def setParameter (key value : String) : List (String × String) → List (String × String)
  | [] => [(key, value)]
  | (other, kept) :: rest =>
    if other = key then (key, value) :: rest else (other, kept) :: setParameter key value rest

/-- Read the pieces between commas, each a key and a value with the white space around them
ignored. -/
def readParameters :
    List (List Char) → List (String × String) → Except SpecError (List (String × String))
  | [], parameters => .ok parameters
  | piece :: rest, parameters =>
    match splitFirst '=' piece with
    | none => .error (.format (String.ofList piece))
    | some (key, value) =>
      readParameters rest <|
        setParameter (String.ofList (trimBlanks key)) (String.ofList (trimBlanks value)) parameters

def Spec.parse (text : String) : Except SpecError Spec :=
  let (name, options) := (splitFirst ':' text.toList).getD (text.toList, [])
  let pieces := if options.isEmpty then [] else splitAll ',' options
  (readParameters pieces []).map fun parameters => ⟨String.ofList name, parameters⟩

namespace Spec

def parameter? (spec : Spec) (key : String) : Option String := spec.parameters.lookup key

/-- Read the value of a parameter as a number below `limit`. -/
def readNumber (limit : Nat) (key value text : String) : Except SpecError Nat :=
  match parseNumber text with
  | .error e => .error (.invalidValue key value e.text)
  | .ok number =>
    if number < limit then .ok number else .error (.invalidValue key value "out of range")

def number? (spec : Spec) (limit : Nat) (key : String) : Except SpecError (Option Nat) :=
  match spec.parameter? key with
  | none => .ok none
  | some value => (readNumber limit key value value).map some

/-- Refuse parameters that a bridge does not have. -/
def checkKeys (spec : Spec) (kind : Kind) (known : List String) : Except SpecError Unit :=
  match spec.parameters.find? fun entry => !known.contains entry.1 with
  | some (key, _) => .error (.unknownParameter kind.name key)
  | none => .ok ()

def kind (spec : Spec) : Except SpecError Kind :=
  match Kind.ofName? spec.name with
  | some kind => .ok kind
  | none => .error (.unknown spec.name Kind.names)

end Spec
end OnfiFlash.Bridge
