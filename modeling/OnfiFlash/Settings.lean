import OnfiFlash.Session.Basic
import OnfiFlash.Text.Numeral
import OnfiFlash.Toml.Document

/-! The settings file, a TOML document. Every key is optional. The identifiers of USB devices, the
index page and the bound on polls may be written as numerals in quotes as well. -/
namespace OnfiFlash

inductive SettingsError where
  /-- It is no TOML document. -/
  | syntactic
  /-- It has a key that is not known, or a value of the wrong kind. -/
  | shape
  /-- A number in quotes is no numeral. -/
  | numeral (cause : NumeralError)
  /-- A number does not fit its key. -/
  | outOfRange (number : Nat)
deriving DecidableEq, Repr

/-- What is said about a refused value, where there is something particular to say. -/
def SettingsError.detail? : SettingsError → Option String
  | syntactic | shape => none
  | numeral cause => some cause.text
  | outOfRange number => some s!"value {number} out of range"

namespace Settings

/-- A reader of the value of one key. -/
abbrev Reader (α : Type) : Type := Toml.Value → Except SettingsError α

def plainNumber (limit : Nat) : Reader Nat
  | .integer number =>
    if 0 ≤ number ∧ number.toNat < limit then .ok number.toNat else .error .shape
  | _ => .error .shape

/-- A number below `limit`, itself or as a numeral in quotes. -/
def flexibleNumber (limit : Nat) (value : Toml.Value) : Except SettingsError Nat := do
  let number ← match value with
    | .integer number => if 0 ≤ number then .ok number.toNat else .error .shape
    | .string text => (parseNumber text).mapError .numeral
    | _ => .error .shape
  if number < limit then .ok number else .error (.outOfRange number)

def truth : Reader Bool
  | .boolean truth => .ok truth
  | _ => .error .shape

/-- A key of a section, and how its value changes the section. -/
structure Slot (σ : Type) where
  key : String
  store : Toml.Value → σ → Except SettingsError σ

/-- A key whose value is read and then put in place. -/
def Slot.of (key : String) (read : Reader α) (put : σ → α → σ) : Slot σ where
  key := key
  store value whole := (read value).map (put whole)

/-- Store the value of a key that must be among the fields. -/
def storeEntry (fields : List (Slot σ)) (whole : σ) (entry : String × Toml.Value) :
    Except SettingsError σ :=
  match fields.find? (·.key = entry.1) with
  | some field => field.store entry.2 whole
  | none => .error .shape

/-- Store a value in the field of the same position. -/
def storeElement (whole : σ) (entry : Slot σ × Toml.Value) : Except SettingsError σ :=
  entry.1.store entry.2 whole

/-- Read a section: a table of its keys, or an array of their values in order. -/
def readSection (fields : List (Slot σ)) (empty : σ) : Reader σ
  | .table _ entries => entries.foldlM (storeEntry fields) empty
  | .array elements => (fields.zip elements).foldlM storeElement empty
  | _ => .error .shape

end Settings

structure SessionSettings where
  maxWriteRetries : Option Nat := none
  /-- Zero stands for no bound. -/
  maxStatusPolls : Option Nat := none
  checkSignature : Option Bool := none
  resetFirst : Option Bool := none
  enableEcc : Option Bool := none
deriving DecidableEq, Repr

open Settings in
def SessionSettings.fields : List (Slot SessionSettings) :=
  [ .of "max_write_retries" (plainNumber limit32) fun s n => { s with maxWriteRetries := some n },
    .of "max_status_polls" (flexibleNumber limit32) fun s n => { s with maxStatusPolls := some n },
    .of "check_onfi_signature" truth fun s b => { s with checkSignature := some b },
    .of "reset_on_open" truth fun s b => { s with resetFirst := some b },
    .of "enable_internal_ecc" truth fun s b => { s with enableEcc := some b } ]

structure ImageSettings where
  indexPage : Option Nat := none
deriving DecidableEq, Repr

open Settings in
def ImageSettings.fields : List (Slot ImageSettings) :=
  [.of "index_page" (flexibleNumber limit32) fun s n => { s with indexPage := some n }]

structure UsbSettings where
  vendorId : Option Nat := none
  productId : Option Nat := none
  interface : Option Nat := none
  /-- In milliseconds. -/
  timeout : Option Nat := none
deriving DecidableEq, Repr

open Settings in
def UsbSettings.fields : List (Slot UsbSettings) :=
  [ .of "vendor_id" (flexibleNumber limit16) fun s n => { s with vendorId := some n },
    .of "product_id" (flexibleNumber limit16) fun s n => { s with productId := some n },
    .of "interface" (plainNumber limit8) fun s n => { s with interface := some n },
    .of "timeout_ms" (plainNumber limit64) fun s n => { s with timeout := some n } ]

structure Settings where
  session : SessionSettings := {}
  image : ImageSettings := {}
  usb : UsbSettings := {}
deriving DecidableEq, Repr

namespace Settings

def fields : List (Slot Settings) :=
  [ .of "session" (readSection SessionSettings.fields {}) fun s part => { s with session := part },
    .of "image" (readSection ImageSettings.fields {}) fun s part => { s with image := part },
    .of "usb" (readSection UsbSettings.fields {}) fun s part => { s with usb := part } ]

def ofEntries (entries : Toml.Entries) : Except SettingsError Settings :=
  entries.foldlM (storeEntry fields) {}

def parse (text : String) : Except SettingsError Settings :=
  match Toml.parse? text with
  | some entries => ofEntries entries
  | none => .error .syntactic

/-- The settings of a session, defaults where the file is silent. -/
def sessionConfig (settings : Settings) : SessionConfig :=
  let base : SessionConfig := {}
  let s := settings.session
  { maxWriteRetries := s.maxWriteRetries.getD base.maxWriteRetries
    polling := match s.maxStatusPolls with
      | some 0 => .forever
      | some polls => .atMost polls
      | none => base.polling
    checkSignature := s.checkSignature.getD base.checkSignature
    resetFirst := s.resetFirst.getD base.resetFirst
    enableEcc := s.enableEcc.getD base.enableEcc }

/-- The index page, the first page where the file is silent. -/
def indexPage (settings : Settings) : Nat := settings.image.indexPage.getD 0

end Settings
end OnfiFlash
