/-! Reading characters one after the other. A scanner yields a value and the characters it leaves,
or nothing if the characters are not of its form. -/
namespace OnfiFlash.Toml

/-- A reader of characters. -/
abbrev Scanner (α : Type) : Type := StateT (List Char) Option α

namespace Scanner

def next : Scanner Char := do
  match ← get with
  | [] => failure
  | c :: rest =>
    set rest
    return c

/-- The next character, if there is one. It is not taken. -/
def peek : Scanner (Option Char) := return (← get).head?

def expect (wanted : Char) : Scanner Unit := do
  if (← next) ≠ wanted then
    failure

def satisfying (belongs : Char → Bool) : Scanner Char := do
  let c ← next
  if belongs c then
    return c
  else
    failure

def expectAll : List Char → Scanner Unit
  | [] => return ()
  | c :: rest => do
    expect c
    expectAll rest

/-- Take the longest run of characters of a class. -/
def takeWhile (belongs : Char → Bool) : Scanner (List Char) := do
  let cs ← get
  set (cs.dropWhile belongs)
  return cs.takeWhile belongs

/-- Take the longest run of characters of a class, at least one. -/
def takeSome (belongs : Char → Bool) : Scanner (List Char) := do
  match ← takeWhile belongs with
  | [] => failure
  | taken => return taken

def takeExactly (belongs : Char → Bool) : (count : Nat) → Scanner (List Char)
  | 0 => return []
  | count + 1 => do
    let c ← satisfying belongs
    return c :: (← takeExactly belongs count)

def optional (scanner : Scanner α) : Scanner (Option α) :=
  (some <$> scanner) <|> pure none

/-- Run a scanner that may take as many steps as there are characters left, and one more. -/
def bounded (scanner : Nat → Scanner α) : Scanner α := do
  scanner ((← get).length + 1)

end Scanner
end OnfiFlash.Toml
