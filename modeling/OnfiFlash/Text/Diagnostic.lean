/-! The structural spelling of values used when a failing command reports its cause. -/
namespace OnfiFlash.Diagnostic

/-- A value with named fields: the name, then the fields in braces. -/
def record (name : String) (fields : List (String × String)) : String :=
  let body := ", ".intercalate (fields.map fun field => field.1 ++ ": " ++ field.2)
  name ++ " \x7b " ++ body ++ " \x7d"

/-- A value with positional fields: the name, then the fields in parentheses. -/
def tuple (name : String) (fields : List String) : String :=
  name ++ "(" ++ ", ".intercalate fields ++ ")"

end OnfiFlash.Diagnostic
