import OnfiFlash.CommandLine.Verb
import OnfiFlash.Text.Split

/-! Reading the options of a command line. An option has a long form `--name` and often a short
one `-n`. Its value is attached (`--name=value`, `-nvalue`, `-n=value`) or the next argument, and
is looked at when the following option is met or the arguments end. -/
namespace OnfiFlash.CommandLine

/-- Why a command line leads to no action. -/
inductive Stop where
  /-- Help is asked for, on one verb or on all. -/
  | help (verb? : Option Verb)
  | version
  /-- There are no arguments at all. -/
  | nothingGiven
  | verbMissing
  | verbUnknown (word : String)
  | argumentUnknown (argument : String)
  | optionMissing (option : String)
  | optionRepeated (option : String)
  | valueMissing (option : String)
  | valueUnexpected (option : String)
  | valueRefused (option value reason : String)
deriving DecidableEq, Repr

namespace Stop

def message : Stop → String
  | help _ => "help is wanted"
  | version => "the version is wanted"
  | nothingGiven | verbMissing => "a command is required"
  | verbUnknown word => s!"unrecognized command '{word}'"
  | argumentUnknown argument => s!"unexpected argument '{argument}'"
  | optionMissing option => s!"the option '--{option}' is required"
  | optionRepeated option => s!"the option '--{option}' cannot be used multiple times"
  | valueMissing option => s!"a value is required for '--{option}'"
  | valueUnexpected option => s!"the option '--{option}' takes no value"
  | valueRefused option value reason => s!"invalid value '{value}' for '--{option}': {reason}"

end Stop

inductive ValueFault where
  /-- An empty value stands for none. -/
  | empty
  | unreadable (reason : String)
deriving DecidableEq, Repr

/-- Put the value of an option among what is gathered. -/
abbrev Store (σ : Type) : Type := String → σ → Except ValueFault σ

/-- What an option does to what is gathered. -/
inductive Effect (σ : Type) where
  | help
  | version
  /-- It stands alone and is given at most once. -/
  | flag (set : σ → σ)
  /-- It stands alone and may be given again. -/
  | count (add : σ → σ)
  /-- It has a value and is given at most once. -/
  | value (placeholder : String) (store : Store σ)

structure Opt (σ : Type) where
  long : String
  short? : Option Char := none
  about : String
  /-- Is the option shown as one that must be given? -/
  required : Bool := false
  effect : Effect σ

/-- An option with a value that is not stored yet, or still to come. -/
structure Pending (σ : Type) where
  option : String
  store : Store σ
  value? : Option String := none

/-- The options of one level, partly read. -/
structure Reading (σ : Type) where
  gathered : σ
  /-- The options met so far, the latest first. -/
  met : List String := []
  pending? : Option (Pending σ) := none

/-- A level of the command line: before the verb, or after it. -/
structure Level (σ : Type) where
  /-- The verb that the level belongs to. -/
  verb? : Option Verb := none
  options : List (Opt σ)
  /-- The words that end the level. -/
  words : List String := []

namespace Reading

def awaitsValue (reading : Reading σ) : Bool :=
  match reading.pending? with
  | some pending => pending.value?.isNone
  | none => false

/-- Note an option that is given at most once. -/
def once (option : String) (reading : Reading σ) : Except Stop (Reading σ) :=
  if reading.met.contains option then .error (.optionRepeated option)
  else .ok { reading with met := option :: reading.met }

def assign (option : String) (store : Store σ) (value : String) (reading : Reading σ) :
    Except Stop (Reading σ) := do
  let reading ← reading.once option
  match store value reading.gathered with
  | .ok gathered => .ok { reading with gathered }
  | .error .empty => .error (.valueMissing option)
  | .error (.unreadable reason) => .error (.valueRefused option value reason)

def settle (reading : Reading σ) : Except Stop (Reading σ) :=
  match reading.pending? with
  | none => .ok reading
  | some pending =>
    match pending.value? with
    | none => .error (.valueMissing pending.option)
    | some value => assign pending.option pending.store value { reading with pending? := none }

def supply (value : String) (reading : Reading σ) : Reading σ :=
  { reading with pending? := reading.pending?.map fun pending => { pending with value? := value } }

end Reading

namespace Level

/-- Refuse a value attached to an option that stands alone. -/
def standAlone (option : String) : (attached? : Option String) → Except Stop Unit
  | none => .ok ()
  | some _ => .error (.valueUnexpected option)

/-- Meet an option, perhaps with a value attached. The value that was pending is stored first. -/
def meet (level : Level σ) (option : Opt σ) (attached? : Option String) (reading : Reading σ) :
    Except Stop (Reading σ) :=
  match option.effect with
  | .value _ store => do
    let reading ← reading.settle
    match attached? with
    | some value => reading.assign option.long store value
    | none => return { reading with pending? := some { option := option.long, store } }
  | .help => do
    standAlone option.long attached?
    let _ ← reading.settle
    throw (.help level.verb?)
  | .version => do
    standAlone option.long attached?
    let _ ← reading.settle
    throw .version
  | .flag set => do
    standAlone option.long attached?
    let reading ← (← reading.settle).once option.long
    return { reading with gathered := set reading.gathered }
  | .count add => do
    standAlone option.long attached?
    let reading ← reading.settle
    return { reading with
      gathered := add reading.gathered
      met := option.long :: reading.met }

/-- Read what follows the two dashes of a long option. -/
def readLong (level : Level σ) (argument : String) (body : List Char) (reading : Reading σ) :
    Except Stop (Reading σ) :=
  let (name, attached?) := match splitFirst '=' body with
    | some (name, value) => (name, some (String.ofList value))
    | none => (body, none)
  match level.options.find? fun option => option.long.toList = name with
  | some option => level.meet option attached? reading
  | none => .error (.argumentUnknown argument)

/-- The value attached to a short option. -/
def attachedValue : List Char → Option String
  | [] => none
  | '=' :: value => some (String.ofList value)
  | value => some (String.ofList value)

/-- Read short options run together. One with a value takes the rest as its value. -/
def readShort (level : Level σ) (argument : String) :
    List Char → Reading σ → Except Stop (Reading σ)
  | [], reading => .ok reading
  | c :: rest, reading =>
    match level.options.find? fun option => option.short? = some c with
    | none => .error (.argumentUnknown argument)
    | some option =>
      match option.effect with
      | .value _ _ => level.meet option (attachedValue rest) reading
      | _ => do level.readShort argument rest (← level.meet option none reading)

/-- What is wrong with an argument that is neither an option nor the value of one. -/
def stray (level : Level σ) (afterDashes : Bool) (argument : String) : Stop :=
  if level.words.isEmpty || (afterDashes && level.words.contains argument) then
    .argumentUnknown argument
  else
    .verbUnknown argument

/-- Read an argument that is not a word of the level and not two dashes. -/
def readArgument (level : Level σ) (argument : String) (reading : Reading σ) :
    Except Stop (Reading σ) :=
  match argument.toList with
  | '-' :: '-' :: body => level.readLong argument body reading
  | '-' :: c :: rest => level.readShort argument (c :: rest) reading
  | _ =>
    if reading.awaitsValue then .ok (reading.supply argument)
    else .error (level.stray false argument)

/-- Read arguments up to a word of the level. Give that word and the arguments after it too. No
argument may follow two dashes that stand alone. -/
def readArguments (level : Level σ) :
    List String → Reading σ → Except Stop (Reading σ × Option (String × List String))
  | [], reading => .ok (reading, none)
  | argument :: rest, reading =>
    if !reading.awaitsValue && level.words.contains argument then
      .ok (reading, some (argument, rest))
    else if argument = "--" then
      match rest with
      | [] => .ok (reading, none)
      | next :: _ => .error (level.stray true next)
    else do
      level.readArguments rest (← level.readArgument argument reading)

end Level
end OnfiFlash.CommandLine
