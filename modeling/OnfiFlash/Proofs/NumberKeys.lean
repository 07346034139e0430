import OnfiFlash.Proofs.InUse
import OnfiFlash.Proofs.Numerals
import OnfiFlash.Text.Hex

/-! The keys of the settings file that hold numbers, and the ways to spell a number there. For some
keys a numeral in quotes is as good as the number itself; the other keys take the number only. -/
namespace OnfiFlash

section Digits

variable {radix : Radix}

/-- One more digit at the end. -/
theorem Radix.Denotes.snoc {cs : List Char} {n digit : Nat} {c : Char}
    (denotes : radix.Denotes cs n) (spells : radix.Spells c digit) :
    radix.Denotes (cs ++ [c]) (n * radix.base + digit) := by
  induction denotes with
  | nil => simpa using Radix.Denotes.cons spells .nil
  | @cons first value rest cs firstSpells _ ih =>
    have moved : (value * radix.base ^ cs.length + rest) * radix.base + digit
        = value * radix.base ^ (cs ++ [c]).length + (rest * radix.base + digit) := by
      rw [List.length_append, List.length_singleton, Nat.pow_succ, ← Nat.mul_assoc, Nat.add_mul,
        Nat.add_assoc]
    rw [List.cons_append, moved]
    exact .cons firstSpells ih

theorem Radix.spells_digitChar {digit : Nat} (small : digit < radix.base) :
    radix.Spells digit.digitChar digit :=
  ⟨small, .inl rfl⟩

/-- By strong induction: without its last digit a number is smaller. -/
theorem Radix.denotes_toDigits (radix : Radix) (n : Nat) :
    radix.Denotes (Nat.toDigits radix.base n) n := by
  have positive := radix.one_lt_base
  induction n using Nat.strongRecOn with
  | ind n ih =>
    rw [Nat.toDigits_eq_if positive]
    split
    · next small => simpa using Radix.Denotes.nil.snoc (Radix.spells_digitChar small)
    · next large =>
      have smaller : n / radix.base < n := Nat.div_lt_self (by omega) positive
      have last : n % radix.base < radix.base := Nat.mod_lt n (by omega)
      have whole := (ih _ smaller).snoc (Radix.spells_digitChar last)
      rwa [Nat.div_add_mod'] at whole

theorem Radix.Spells.toUpper {c : Char} {digit : Nat} (spells : radix.Spells c digit) :
    radix.Spells c.toUpper digit := by
  have small := spells.lt
  obtain ⟨inBase, spelled⟩ := spells
  refine ⟨inBase, .inr ?_⟩
  rcases spelled with rfl | rfl
  · rfl
  · interval_cases digit <;> rfl

/-- Capital letters denote the same. -/
theorem Radix.Denotes.toUpper {cs : List Char} {n : Nat} (denotes : radix.Denotes cs n) :
    radix.Denotes (cs.map Char.toUpper) n := by
  induction denotes with
  | nil => exact .nil
  | cons first _ ih => simpa using Radix.Denotes.cons first.toUpper ih

end Digits

inductive Spelling where
  | integer
  | decimal
  | lowerHexadecimal
  | upperHexadecimal
deriving DecidableEq, Repr

namespace Spelling

def value (n : Nat) : Spelling → Toml.Value
  | integer => .integer n
  | decimal => .string (toString n)
  | lowerHexadecimal => .string ("0x" ++ lowerHex 1 n)
  | upperHexadecimal => .string ("0x" ++ upperHex 1 n)

theorem numeral_decimal (n : Nat) : Numeral (toString n).toList n := by
  have digits := Radix.denotes_toDigits .decimal n
  rw [Nat.toString_eq_repr, Nat.toList_repr]
  exact .intro (.head _) (.inl rfl) Nat.toDigits_ne_nil digits

theorem toList_padLeft_digits {digits : List Char} (some : digits ≠ []) :
    (padLeft 1 '0' (String.ofList digits)).toList = digits := by
  have filled : 1 - digits.length = 0 := by
    have := List.length_pos_iff.mpr some
    omega
  simp [padLeft, filled]

theorem numeral_lowerHex (n : Nat) : Numeral ("0x" ++ lowerHex 1 n).toList n := by
  have digits := Radix.denotes_toDigits .hexadecimal n
  rw [String.toList_append, lowerHex, toList_padLeft_digits Nat.toDigits_ne_nil]
  exact .intro (.head _) (.inl rfl) Nat.toDigits_ne_nil digits

theorem numeral_upperHex (n : Nat) : Numeral ("0x" ++ upperHex 1 n).toList n := by
  have digits := (Radix.denotes_toDigits .hexadecimal n).toUpper
  have some : (Nat.toDigits 16 n).map Char.toUpper ≠ [] := by simp
  rw [String.toList_append, upperHex, toList_padLeft_digits some]
  exact .intro (.head _) (.inl rfl) some digits

/-- A numeral in quotes is checked against the limit of its key in the end. -/
theorem flexibleNumber_numeral {text : String} {n : Nat} (numeral : Numeral text.toList n)
    (small : n < limit64) (limit : Nat) :
    Settings.flexibleNumber limit (.string text)
      = Settings.flexibleNumber limit (.integer n) := by
  have read : parseNumber text = .ok n := parseNumber_eq_ok_iff.mpr
    ⟨text.toList, numeral.trimmed, numeral, small⟩
  simp [Settings.flexibleNumber, read, Except.mapError, bind, Except.bind]

end Spelling

inductive NumberKey where
  | maxWriteRetries
  | maxStatusPolls
  | indexPage
  | vendorId
  | productId
  | interface
  | timeout
deriving DecidableEq, Repr

namespace NumberKey

def part : NumberKey → String
  | maxWriteRetries | maxStatusPolls => "session"
  | indexPage => "image"
  | vendorId | productId | interface | timeout => "usb"

def name : NumberKey → String
  | maxWriteRetries => "max_write_retries"
  | maxStatusPolls => "max_status_polls"
  | indexPage => "index_page"
  | vendorId => "vendor_id"
  | productId => "product_id"
  | interface => "interface"
  | timeout => "timeout_ms"

/-- The least number that is too large for the key. -/
def limit : NumberKey → Nat
  | maxWriteRetries | maxStatusPolls | indexPage => limit32
  | vendorId | productId => limit16
  | interface => limit8
  | timeout => limit64

/-- Is a numeral in quotes read as well? -/
def readsQuoted : NumberKey → Bool
  | maxStatusPolls | indexPage | vendorId | productId => true
  | maxWriteRetries | interface | timeout => false

def read (key : NumberKey) : Settings.Reader Nat :=
  if key.readsQuoted then Settings.flexibleNumber key.limit else Settings.plainNumber key.limit

def put (key : NumberKey) (n : Nat) (settings : Settings) : Settings :=
  match key with
  | maxWriteRetries =>
    { settings with session := { settings.session with maxWriteRetries := some n } }
  | maxStatusPolls =>
    { settings with session := { settings.session with maxStatusPolls := some n } }
  | indexPage => { settings with image := { settings.image with indexPage := some n } }
  | vendorId => { settings with usb := { settings.usb with vendorId := some n } }
  | productId => { settings with usb := { settings.usb with productId := some n } }
  | interface => { settings with usb := { settings.usb with interface := some n } }
  | timeout => { settings with usb := { settings.usb with timeout := some n } }

end NumberKey

/-- What a settings file says besides the value of one key. -/
structure Surroundings where
  before : Toml.Entries := []
  after : Toml.Entries := []
  /-- How the section of the key came about. -/
  origin : Toml.Origin := .header
  keysBefore : Toml.Entries := []
  keysAfter : Toml.Entries := []

/-- A settings file that sets the key. -/
def Surroundings.file (around : Surroundings) (key : NumberKey) (value : Toml.Value) :
    Toml.Entries :=
  around.before ++ (key.part, .table around.origin
    (around.keysBefore ++ (key.name, value) :: around.keysAfter)) :: around.after

/-- The entries before, the entry and the entries after are stored one after the other. -/
theorem Settings.foldlM_storeEntry {σ α : Type} {fields : List (Slot σ)} {name : String}
    {read : Reader α} {put : σ → α → σ}
    (stored : ∀ whole value, storeEntry fields whole (name, value) = (read value).map (put whole))
    (before after : Toml.Entries) (value : Toml.Value) (whole : σ) :
    (before ++ (name, value) :: after).foldlM (storeEntry fields) whole
      = before.foldlM (storeEntry fields) whole >>= fun whole =>
        read value >>= fun found => after.foldlM (storeEntry fields) (put whole found) := by
  rw [List.foldlM_append]
  congr 1
  funext whole
  rw [List.foldlM_cons, stored]
  cases read value <;> rfl

namespace NumberKey

/-- The section of a key among the fields of the file, and the key among those of the section. -/
structure Place (key : NumberKey) where
  Part : Type
  fields : List (Settings.Slot Part)
  empty : Part
  putPart : Settings → Part → Settings
  putNumber : Part → Nat → Part
  storesPart : ∀ whole value, Settings.storeEntry Settings.fields whole (key.part, value)
    = (Settings.readSection fields empty value).map (putPart whole) := by exact fun _ _ => rfl
  storesNumber : ∀ part value, Settings.storeEntry fields part (key.name, value)
    = (key.read value).map (putNumber part) := by exact fun _ _ => rfl
  alone : ∀ n, putPart {} (putNumber empty n) = key.put n {} := by exact fun _ => rfl

def place : (key : NumberKey) → key.Place
  | maxWriteRetries =>
    { Part := SessionSettings, fields := SessionSettings.fields, empty := {}
      putPart := fun whole part => { whole with session := part }
      putNumber := fun part n => { part with maxWriteRetries := some n } }
  | maxStatusPolls =>
    { Part := SessionSettings, fields := SessionSettings.fields, empty := {}
      putPart := fun whole part => { whole with session := part }
      putNumber := fun part n => { part with maxStatusPolls := some n } }
  | indexPage =>
    { Part := ImageSettings, fields := ImageSettings.fields, empty := {}
      putPart := fun whole part => { whole with image := part }
      putNumber := fun part n => { part with indexPage := some n } }
  | vendorId =>
    { Part := UsbSettings, fields := UsbSettings.fields, empty := {}
      putPart := fun whole part => { whole with usb := part }
      putNumber := fun part n => { part with vendorId := some n } }
  | productId =>
    { Part := UsbSettings, fields := UsbSettings.fields, empty := {}
      putPart := fun whole part => { whole with usb := part }
      putNumber := fun part n => { part with productId := some n } }
  | interface =>
    { Part := UsbSettings, fields := UsbSettings.fields, empty := {}
      putPart := fun whole part => { whole with usb := part }
      putNumber := fun part n => { part with interface := some n } }
  | timeout =>
    { Part := UsbSettings, fields := UsbSettings.fields, empty := {}
      putPart := fun whole part => { whole with usb := part }
      putNumber := fun part n => { part with timeout := some n } }

end NumberKey

namespace Surroundings

variable (around : Surroundings) (key : NumberKey)

/-- What is read before the value of the key. -/
def begun : Except SettingsError (Settings × key.place.Part) := do
  let whole ← around.before.foldlM (Settings.storeEntry Settings.fields) {}
  let part ← around.keysBefore.foldlM (Settings.storeEntry key.place.fields) key.place.empty
  return (whole, part)

/-- What is read once the value of the key has been. -/
def finished (begun : Settings × key.place.Part) (n : Nat) : Except SettingsError Settings := do
  let part ← around.keysAfter.foldlM (Settings.storeEntry key.place.fields)
    (key.place.putNumber begun.2 n)
  around.after.foldlM (Settings.storeEntry Settings.fields) (key.place.putPart begun.1 part)

theorem ofEntries_file (value : Toml.Value) :
    Settings.ofEntries (around.file key value)
      = around.begun key >>= fun begun => key.read value >>= around.finished key begun := by
  have inner := Settings.foldlM_storeEntry key.place.storesNumber around.keysBefore
    around.keysAfter value key.place.empty
  rw [Settings.ofEntries, file, Settings.foldlM_storeEntry key.place.storesPart]
  simp only [Settings.readSection, inner, begun, bind_assoc, pure_bind]
  rfl

/-- A file that sets nothing but the key. -/
theorem ofEntries_alone (value : Toml.Value) :
    Settings.ofEntries (({} : Surroundings).file key value)
      = (key.read value).map fun n => key.put n {} := by
  rw [ofEntries_file]
  cases key.read value with
  | error e => rfl
  | ok n => exact congrArg Except.ok (key.place.alone n)

end Surroundings

namespace NumberKey

/-- The number is read in every spelling that the key takes, if it is below the limit. -/
theorem read_spelling (key : NumberKey) {n : Nat} (small : n < limit64) (spelling : Spelling) :
    key.read (spelling.value n)
      = if n < key.limit ∧ (key.readsQuoted ∨ spelling = .integer) then .ok n
        else .error (if key.readsQuoted then .outOfRange n else .shape) := by
  have flexible (limit : Nat) : Settings.flexibleNumber limit (spelling.value n)
      = if n < limit then .ok n else .error (.outOfRange n) := by
    have plain : Settings.flexibleNumber limit (.integer n)
        = if n < limit then .ok n else .error (.outOfRange n) := by
      simp [Settings.flexibleNumber, bind, Except.bind]
    rw [← plain]
    cases spelling with
    | integer => rfl
    | decimal => exact Spelling.flexibleNumber_numeral (Spelling.numeral_decimal n) small _
    | lowerHexadecimal => exact Spelling.flexibleNumber_numeral (Spelling.numeral_lowerHex n) small _
    | upperHexadecimal => exact Spelling.flexibleNumber_numeral (Spelling.numeral_upperHex n) small _
  by_cases quoted : key.readsQuoted
  · simp [read, quoted, flexible]
  · cases spelling <;> simp [read, quoted, Spelling.value, Settings.plainNumber]

end NumberKey

/-- A number below 2^63 as the value of a key, in each of its spellings. If it is below the limit of
the key and the key takes the spelling, the file says what it says with the number itself, and alone
it sets just the key. Otherwise the file is refused. -/
theorem Settings.number_spellings (key : NumberKey) {n : Nat} (small : n < limit63)
    (spelling : Spelling) (around : Surroundings) :
    (n < key.limit ∧ (key.readsQuoted ∨ spelling = .integer) →
      ofEntries (around.file key (spelling.value n)) = ofEntries (around.file key (.integer n)) ∧
      ofEntries (({} : Surroundings).file key (spelling.value n)) = .ok (key.put n {})) ∧
    (¬ (n < key.limit ∧ (key.readsQuoted ∨ spelling = .integer)) →
      ∃ e, ofEntries (around.file key (spelling.value n)) = .error e) := by
  have below : n < limit64 := Nat.lt_trans small (by decide)
  have reads := key.read_spelling below spelling
  constructor
  · intro taken
    have plain : key.read (.integer n) = .ok n :=
      (key.read_spelling below .integer).trans (if_pos ⟨taken.1, .inr rfl⟩)
    rw [if_pos taken] at reads
    constructor
    · rw [Surroundings.ofEntries_file, Surroundings.ofEntries_file, reads, plain]
    · rw [Surroundings.ofEntries_alone, reads]
      rfl
  · intro refused
    rw [if_neg refused] at reads
    rw [Surroundings.ofEntries_file, reads]
    cases around.begun key with
    | error e => exact ⟨e, rfl⟩
    | ok begun => exact ⟨_, rfl⟩

/-- A vendor in hexadecimal digits before another key, and a timeout in quotes. -/
theorem Settings.number_spellings_vendor :
    let around : Surroundings := { keysAfter := [("interface", .integer 0)] }
    let vendor := Spelling.lowerHexadecimal.value 0x1209
    0x1209 < limit63 ∧ 0x1209 < limit16 ∧ 250 < limit63 ∧
    ofEntries (around.file .vendorId vendor) = ofEntries (around.file .vendorId (.integer 0x1209)) ∧
    ofEntries (({} : Surroundings).file .vendorId vendor)
      = .ok { usb := { vendorId := some 0x1209 } } ∧
    ∃ e, ofEntries (around.file .timeout (Spelling.decimal.value 250)) = .error e := by
  intro around vendor
  have small : 0x1209 < limit63 := by decide
  have smallTimeout : 250 < limit63 := by decide
  obtain ⟨same, alone⟩ :=
    (number_spellings .vendorId small .lowerHexadecimal around).1 ⟨by decide, .inl rfl⟩
  exact ⟨small, by decide, smallTimeout, same, alone,
    (number_spellings .timeout smallTimeout .decimal around).2 (by decide)⟩

/-- Three attempts are read as a number and refused in quotes. -/
theorem Settings.number_spellings_differ :
    3 < NumberKey.maxWriteRetries.limit ∧
    parse "[session]\nmax_write_retries = 3\n"
      = .ok { session := { maxWriteRetries := some 3 } } ∧
    parse "[session]\nmax_write_retries = \"3\"\n" = .error .shape ∧
    parse "[session]\nmax_write_retries = \"0x3\"\n" = .error .shape := by
  decide +kernel

end OnfiFlash
