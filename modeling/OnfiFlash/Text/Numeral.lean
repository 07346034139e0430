import OnfiFlash.Bytes.Limit
import OnfiFlash.Text.Blank

/-! Reading natural numbers below a limit. A numeral is an optional `0x` or `0X`, an optional
plus sign and one or more digits, hexadecimal after the lead and decimal without. -/
namespace OnfiFlash

/-- Why digits denote no number below the limit. -/
inductive DigitsError where
  | empty
  | invalidDigit
  | overflow
  /-- The number is negative and too far from zero. -/
  | underflow
deriving DecidableEq, Repr

def DigitsError.text : DigitsError → String
  | empty => "cannot parse integer from empty string"
  | invalidDigit => "invalid digit found in string"
  | overflow => "number too large to fit in target type"
  | underflow => "number too small to fit in target type"

inductive Radix where
  | decimal
  | hexadecimal
deriving DecidableEq, Repr

def Radix.base : Radix → Nat
  | decimal => 10
  | hexadecimal => 16

/-- The value of a digit in either case, if it is a digit of the base. -/
def digitValue? (radix : Radix) (c : Char) : Option Nat :=
  let code := c.toNat
  let value? :=
    if 48 ≤ code ∧ code ≤ 57 then some (code - 48)
    else if 97 ≤ code ∧ code ≤ 102 then some (code - 87)
    else if 65 ≤ code ∧ code ≤ 70 then some (code - 55)
    else none
  value?.filter (· < radix.base)

/-- Continue a number with more digits. What is wrong at an earlier digit counts. -/
def readDigits (radix : Radix) (limit : Nat) : List Char → (value : Nat) → Except DigitsError Nat
  | [], value => .ok value
  | c :: rest, value =>
    match digitValue? radix c with
    | none => .error .invalidDigit
    | some digit =>
      let value := value * radix.base + digit
      if value < limit then readDigits radix limit rest value else .error .overflow

/-- A number below `limit`: an optional plus sign and one or more digits. -/
def readUnsigned (radix : Radix) (limit : Nat) : List Char → Except DigitsError Nat
  | [] => .error .empty
  | ['+'] => .error .invalidDigit
  | '+' :: digits => readDigits radix limit digits 0
  | digits => readDigits radix limit digits 0

/-- A decimal integer from `-limit` to `limit - 1`: an optional sign and one or more digits. -/
def readSigned (limit : Nat) : List Char → Except DigitsError Int
  | ['-'] => .error .invalidDigit
  | '-' :: digits =>
    match readDigits .decimal (limit + 1) digits 0 with
    | .ok value => .ok (-value)
    | .error .overflow => .error .underflow
    | .error e => .error e
  | digits => (readUnsigned .decimal limit digits).map Int.ofNat

/-- Why text is no numeral: what is wrong with the digits, read in some base. -/
structure NumeralError where
  radix : Radix
  cause : DigitsError
deriving DecidableEq, Repr

/-- The base of a numeral, and what follows its lead. -/
def numeralParts : List Char → Radix × List Char
  | '0' :: 'x' :: digits => (.hexadecimal, digits)
  | '0' :: 'X' :: digits => (.hexadecimal, digits)
  | digits => (.decimal, digits)

def readNumeral (limit : Nat) (cs : List Char) : Except NumeralError Nat :=
  let (radix, digits) := numeralParts cs
  (readUnsigned radix limit digits).mapError fun cause => ⟨radix, cause⟩

/-- A numeral of the settings file and of bridge parameters: white space around it is ignored,
and it is below 2^64. -/
def parseNumber (text : String) : Except NumeralError Nat :=
  readNumeral limit64 (trimBlanks text.toList)

/-- Why a setting is no number, in words. -/
def NumeralError.text (e : NumeralError) : String :=
  match e.radix with
  | .hexadecimal => "invalid hex: " ++ e.cause.text
  | .decimal => "invalid number: " ++ e.cause.text

end OnfiFlash
