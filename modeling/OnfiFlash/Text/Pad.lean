/-! Filling text up to a width. Text that is wider is left as it is. -/
namespace OnfiFlash

/-- Put `filler` before the text until it has `width` characters. -/
def padLeft (width : Nat) (filler : Char) (text : String) : String :=
  String.ofList (List.replicate (width - text.length) filler) ++ text

/-- Put spaces after the text until it has `width` characters. -/
def padRight (width : Nat) (text : String) : String :=
  text ++ String.ofList (List.replicate (width - text.length) ' ')

end OnfiFlash
