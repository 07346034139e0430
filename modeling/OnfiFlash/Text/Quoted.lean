import OnfiFlash.Text.Hex
import OnfiFlash.Text.Unprintable

/-! Quoted text, in which characters without a visible form are escaped. -/
namespace OnfiFlash

/-- Quoted spelling of one character. -/
def quoteChar (c : Char) : String :=
  if c = '\x00' then "\\0"
  else if c = '\t' then "\\t"
  else if c = '\r' then "\\r"
  else if c = '\n' then "\\n"
  else if c = '\\' ∨ c = '"' then String.ofList ['\\', c]
  else if c.toNat < 0x20 ∨ c.toNat = 0x7F ∨ (0x80 ≤ c.toNat ∧ isUnprintable c) then
    "\\u\x7b" ++ lowerHex 1 c.toNat ++ "\x7d"
  else
    String.singleton c

/-- Text in double quotes. Single quotes in it stand as they are. -/
def quoted (text : String) : String :=
  "\"" ++ String.join (text.toList.map quoteChar) ++ "\""

end OnfiFlash
