import OnfiFlash.Text.Pad

/-! Hexadecimal spellings of bytes and numbers. -/
namespace OnfiFlash

def upperHexDigit (value : Nat) : Char :=
  if value < 10 then Char.ofNat (48 + value) else Char.ofNat (55 + value)

/-- A byte as two upper-case hexadecimal digits. -/
def byteHex (byte : UInt8) : String :=
  String.ofList [upperHexDigit (byte.toNat / 16), upperHexDigit (byte.toNat % 16)]

/-- Bytes as a bracketed list of two-digit hexadecimal numbers. -/
def bytesHex (bytes : List UInt8) : String :=
  "[" ++ ", ".intercalate (bytes.map byteHex) ++ "]"

/-- A number in lower-case hexadecimal, with at least `width` digits. -/
def lowerHex (width value : Nat) : String :=
  padLeft width '0' (String.ofList (Nat.toDigits 16 value))

/-- A number in upper-case hexadecimal, with at least `width` digits. -/
def upperHex (width value : Nat) : String :=
  padLeft width '0' (String.ofList ((Nat.toDigits 16 value).map Char.toUpper))

end OnfiFlash
