import GatewayAdmission.Text.Quoted

/-!
# Values shown in log lines

How a value with parts is shown where a person reads it: the name of its type, then the parts with
their names between braces, as in `Point \x7b x: 1, y: 2 \x7d`.
-/

namespace GatewayAdmission

namespace Text

/-- A value of named parts, the parts being shown already. -/
def shownRecord (name : String) (parts : List (String × String)) : String :=
  name ++ " \x7b " ++ ", ".intercalate (parts.map fun (part, shown) => part ++ ": " ++ shown)
    ++ " \x7d"

/-- A value that may be missing. -/
def shownOption {α : Type} (shown : α → String) : Option α → String
  | none => "None"
  | some a => "Some(" ++ shown a ++ ")"

def shownFlag (b : Bool) : String := if b then "true" else "false"

end Text

end GatewayAdmission
