import OnfiFlash.Toml.Layout

/-! Strings and keys of TOML documents. -/
namespace OnfiFlash.Toml
namespace Scanner

def hexDigitValue (c : Char) : Nat :=
  if c.isDigit then c.toNat - 48 else c.toLower.toNat - 87

def isHexDigit (c : Char) : Bool :=
  c.isDigit || ('a' ≤ c && c ≤ 'f') || ('A' ≤ c && c ≤ 'F')

/-- Take the character given by the hexadecimal digits of its code point. -/
def codePoint (digits : Nat) : Scanner Char := do
  let code := (← takeExactly isHexDigit digits).foldl (fun n c => n * 16 + hexDigitValue c) 0
  if code.isValidChar then
    return Char.ofNat code
  else
    failure

def escaped : Scanner Char := do
  match ← next with
  | 'b' => return '\x08'
  | 't' => return '\t'
  | 'n' => return '\n'
  | 'f' => return '\x0c'
  | 'r' => return '\r'
  | '"' => return '"'
  | '\\' => return '\\'
  | 'u' => codePoint 4
  | 'U' => codePoint 8
  | _ => failure

/-- Take the rest of a string in double quotes. -/
def basicBody : (steps : Nat) → Scanner (List Char)
  | 0 => failure
  | steps + 1 => do
    match ← next with
    | '"' => return []
    | '\\' => return (← escaped) :: (← basicBody steps)
    | c => if isPrintable c then return c :: (← basicBody steps) else failure

/-- Take the rest of a string in single quotes. -/
def literalBody : Scanner (List Char) := do
  let text ← takeWhile fun c => isPrintable c && c ≠ '\''
  expect '\''
  return text

/-- Having met one quote in a text that three quotes end: the quotes that belong to the text, if
the text ends here. Up to two quotes may stand before the three that end it. -/
def closingQuotes (quote : Char) : Scanner (Option (List Char)) := do
  let following := (← get).takeWhile (· = quote)
  let count := min 4 following.length
  if count < 2 then
    return none
  else
    set ((← get).drop count)
    return some (following.take (count - 2))

/-- Characters without the blanks and line ends they begin with. -/
def dropGap : List Char → List Char
  | '\r' :: '\n' :: rest => dropGap rest
  | c :: rest => if isSpace c || c = '\n' then dropGap rest else c :: rest
  | [] => []

/-- Do only blanks follow up to the end of the line? -/
def endsLine (cs : List Char) : Bool :=
  match cs.dropWhile isSpace with
  | '\n' :: _ | '\r' :: '\n' :: _ => true
  | _ => false

/-- Take the rest of a text in three double quotes. -/
def basicLines : (steps : Nat) → Scanner (List Char)
  | 0 => failure
  | steps + 1 => do
    match ← next with
    | '"' =>
      match ← closingQuotes '"' with
      | some quotes => return quotes
      | none => return '"' :: (← basicLines steps)
    | '\\' =>
      if endsLine (← get) then
        set (dropGap (← get))
        basicLines steps
      else
        return (← escaped) :: (← basicLines steps)
    | '\n' => return '\n' :: (← basicLines steps)
    | '\r' =>
      expect '\n'
      return '\n' :: (← basicLines steps)
    | c => if isPrintable c then return c :: (← basicLines steps) else failure

/-- Take the rest of a text in three single quotes. -/
def literalLines : (steps : Nat) → Scanner (List Char)
  | 0 => failure
  | steps + 1 => do
    match ← next with
    | '\'' =>
      match ← closingQuotes '\'' with
      | some quotes => return quotes
      | none => return '\'' :: (← literalLines steps)
    | '\n' => return '\n' :: (← literalLines steps)
    | '\r' =>
      expect '\n'
      return '\n' :: (← literalLines steps)
    | c => if isPrintable c then return c :: (← literalLines steps) else failure

/-- Take a string of any kind. A line end right after three quotes is no part of the text. -/
def text (steps : Nat) : Scanner String := do
  match ← get with
  | '"' :: '"' :: '"' :: rest =>
    set rest
    let _ ← optional newline
    return String.ofList (← basicLines steps)
  | '\'' :: '\'' :: '\'' :: rest =>
    set rest
    let _ ← optional newline
    return String.ofList (← literalLines steps)
  | '"' :: rest =>
    set rest
    return String.ofList (← basicBody steps)
  | '\'' :: rest =>
    set rest
    return String.ofList (← literalBody)
  | _ => failure

/-- A character of a key without quotes. -/
def isBareKey (c : Char) : Bool := c.isAlphanum || c = '_' || c = '-'

def keyPart (steps : Nat) : Scanner String := do
  match ← peek with
  | some '"' =>
    expect '"'
    return String.ofList (← basicBody steps)
  | some '\'' =>
    expect '\''
    return String.ofList (← literalBody)
  | _ => return String.ofList (← takeSome isBareKey)

/-- Take the parts of a key between dots, with blanks around each. -/
def keyParts : (steps : Nat) → Scanner (List String)
  | 0 => failure
  | steps + 1 => do
    spaces
    let part ← keyPart steps
    spaces
    if (← peek) = some '.' then
      expect '.'
      return part :: (← keyParts steps)
    else
      return [part]

/-- Nothing is nested this deep or deeper. -/
def nestingLimit : Nat := 80

/-- Take a key: the tables it runs through, and the name in the last of them. -/
def key (steps : Nat) : Scanner (List String × String) := do
  let parts ← keyParts steps
  if parts.length < nestingLimit then
    return (parts.dropLast, parts.getLastD "")
  else
    failure

end Scanner
end OnfiFlash.Toml
