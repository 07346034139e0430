import OnfiFlash.Toml.Scanner

/-! Spaces, comments and line ends of TOML documents. -/
namespace OnfiFlash.Toml
namespace Scanner

def isSpace (c : Char) : Bool := c = ' ' || c = '\t'

/-- A character of a comment or a quoted text: no control but the tab. -/
def isPrintable (c : Char) : Bool := c = '\t' || (0x20 ≤ c.toNat && c.toNat ≠ 0x7F)

def spaces : Scanner Unit := discard (takeWhile isSpace)

/-- Take a line feed, or a carriage return and a line feed. -/
def newline : Scanner Unit := do
  match ← next with
  | '\n' => return ()
  | '\r' => expect '\n'
  | _ => failure

def comment : Scanner Unit := do
  expect '#'
  discard (takeWhile isPrintable)

/-- Take the end of a line, or find the end of the document. -/
def lineEnd : Scanner Unit := do
  if (← peek).isSome then
    newline

/-- Take the rest of a line that holds nothing but blanks and a comment. -/
def restOfLine : Scanner Unit := do
  spaces
  let _ ← optional comment
  lineEnd

/-- What follows blanks, comments and line ends. A comment that has begun must end with its line. -/
def afterGap (inComment : Bool) : List Char → Option (List Char)
  | '\n' :: rest | '\r' :: '\n' :: rest => afterGap false rest
  | c :: rest =>
    if inComment then
      if isPrintable c then afterGap true rest else none
    else if c = '#' then afterGap true rest
    else if isSpace c then afterGap false rest
    else if c = '\r' then none
    else some (c :: rest)
  | [] => if inComment then none else some []

/-- Take blanks, comments and line ends, as they may stand between the elements of an array. -/
def gap : Scanner Unit := do
  match afterGap false (← get) with
  | some rest => set rest
  | none => failure

end Scanner
end OnfiFlash.Toml
