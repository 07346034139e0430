import OnfiFlash.Bytes.Limit
import OnfiFlash.Toml.Text
import OnfiFlash.Toml.Value

/-! Numbers and dates of TOML documents. -/
namespace OnfiFlash.Toml
namespace Scanner

/-- The rest of a run of digits, in which single underscores may stand between digits. -/
def moreDigits (isDigit : Char → Bool) : List Char → List Char × List Char
  | '_' :: c :: rest =>
    if isDigit c then
      let (digits, rest) := moreDigits isDigit rest
      (c :: digits, rest)
    else
      ([], '_' :: c :: rest)
  | c :: rest =>
    if isDigit c then
      let (digits, rest) := moreDigits isDigit rest
      (c :: digits, rest)
    else
      ([], c :: rest)
  | [] => ([], [])

/-- Take digits, in which single underscores may stand between digits. -/
def digits (isDigit : Char → Bool) : Scanner (List Char) := do
  let first ← satisfying isDigit
  let (more, rest) := moreDigits isDigit (← get)
  set rest
  return first :: more

/-- Take a sign, if there is one: is it a minus? -/
def sign : Scanner Bool := do
  match ← peek with
  | some '-' =>
    expect '-'
    return true
  | some '+' =>
    expect '+'
    return false
  | _ => return false

/-- Take decimal digits that do not begin with a needless zero. -/
def wholeDigits : Scanner (List Char) := do
  if (← peek) = some '0' then
    expect '0'
    return ['0']
  else
    digits Char.isDigit

/-- The number that digits denote in a base. -/
def digitsValue (base : Nat) (cs : List Char) : Nat :=
  cs.foldl (fun n c => n * base + hexDigitValue c) 0

/-- The number that digits denote in a base, if it is below the limit. Digits after those that reach
the limit do not count. -/
def cappedValue (limit base : Nat) (cs : List Char) : Nat :=
  cs.foldl (fun n c => if n < limit then n * base + hexDigitValue c else n) 0

/-- Take a number of a base other than ten, after its lead. -/
def basedNumber (lead : Char) (base : Nat) (isDigit : Char → Bool) : Scanner Int := do
  expectAll ['0', lead]
  return (cappedValue limit64 base (← digits isDigit) : Int)

/-- Take an integer; it must fit 64 bits, sign included. -/
def integer : Scanner Value := do
  let number ← match (← get).take 2 with
    | ['0', 'x'] => basedNumber 'x' 16 isHexDigit
    | ['0', 'o'] => basedNumber 'o' 8 fun c => '0' ≤ c && c ≤ '7'
    | ['0', 'b'] => basedNumber 'b' 2 fun c => c = '0' || c = '1'
    | _ => do
      let negative ← sign
      let magnitude : Int := cappedValue limit64 10 (← wholeDigits)
      pure (if negative then -magnitude else magnitude)
  if -limit63 ≤ number ∧ number < limit63 then
    return .integer number
  else
    failure

/-- An exponent that is at least this takes no more digits. -/
def exponentLimit : Nat := 65536

def exponent : Scanner Int := do
  let _ ← satisfying fun c => c = 'e' || c = 'E'
  let negative ← sign
  let magnitude : Int := cappedValue exponentLimit 10 (← digits Char.isDigit)
  return if negative then -magnitude else magnitude

def fraction : Scanner (List Char) := do
  expect '.'
  digits Char.isDigit

/-- The middle between the largest double, `2^1024 - 2^971`, and the next power of two. -/
def doubleLimit : Nat := Nat.pow 2 1024 - Nat.pow 2 970

/-- The number of digits of the limit. -/
def doubleLimitWidth : Nat := 309

/-- Does the number of these digits, times ten to the exponent, round to a finite double? It does
below the limit, and as the limit is whole, the digits before the point decide. -/
def isFiniteDouble (digits : List Char) (exponent : Int) : Bool :=
  let significant := digits.dropWhile (· = '0')
  let width := (significant.length + exponent).toNat
  if significant.isEmpty then true
  else if doubleLimitWidth < width then false
  else digitsValue 10 ((significant ++ List.replicate width '0').take width) < doubleLimit

/-- Take a number with a fraction or an exponent. A positive one must be finite. -/
def decimal : Scanner Unit := do
  let negative ← sign
  let whole ← wholeDigits
  let fraction? ← optional fraction
  let exponent? ← optional exponent
  if fraction?.isNone ∧ exponent?.isNone then
    failure
  let places := fraction?.getD []
  if !negative ∧ !isFiniteDouble (whole ++ places) (exponent?.getD 0 - places.length) then
    failure

/-- Take a spelled-out infinity or indeterminate number. -/
def namedNumber : Scanner Unit := do
  let _ ← sign
  expectAll ['i', 'n', 'f'] <|> expectAll ['n', 'a', 'n']

def float : Scanner Value := do
  decimal <|> namedNumber
  return .float

/-- Take a number of exactly `count` decimal digits between two bounds. -/
def field (count low high : Nat) : Scanner Nat := do
  let number := digitsValue 10 (← takeExactly Char.isDigit count)
  if low ≤ number ∧ number ≤ high then
    return number
  else
    failure

def daysOfMonth (year month : Nat) : Nat :=
  if month = 2 then
    if year % 4 = 0 ∧ (year % 100 ≠ 0 ∨ year % 400 = 0) then 29 else 28
  else if month ∈ [4, 6, 9, 11] then 30
  else 31

def date : Scanner Unit := do
  let year ← field 4 0 9999
  expect '-'
  let month ← field 2 1 12
  expect '-'
  discard (field 2 1 (daysOfMonth year month))

def time : Scanner Unit := do
  let _ ← field 2 0 23
  expect ':'
  let _ ← field 2 0 59
  expect ':'
  let _ ← field 2 0 60
  if (← peek) = some '.' then
    expect '.'
    discard (takeSome Char.isDigit)

def offset : Scanner Unit := do
  match ← next with
  | 'Z' | 'z' => return ()
  | '+' | '-' =>
    let _ ← field 2 0 23
    expect ':'
    discard (field 2 0 59)
  | _ => failure

/-- Take a time of day after a date, and the distance from universal time if it is given. -/
def timeOfDate : Scanner Unit := do
  let _ ← satisfying fun c => c = 'T' || c = 't' || c = ' '
  time
  discard (optional offset)

def datetime : Scanner Value := do
  let dated : Scanner Unit := do
    date
    discard (optional timeOfDate)
  dated <|> time
  return .datetime

def number : Scanner Value := datetime <|> float <|> integer

end Scanner
end OnfiFlash.Toml
