/-!
Texts of structured values: lists in brackets, constructors with their argument in parentheses,
records in braces.
-/
namespace OpcodeRecovery.Structured

def list (items : List String) : String := "[" ++ ", ".intercalate items ++ "]"

def apply (name argument : String) : String := name ++ "(" ++ argument ++ ")"

def fields (named : List (String × String)) : String :=
  ", ".intercalate (named.map fun (name, value) => name ++ ": " ++ value)

def record (name : String) (named : List (String × String)) : String :=
  name ++ " \x7b " ++ fields named ++ " \x7d"

/-- A record of which not every field is shown. -/
def openRecord (name : String) (named : List (String × String)) : String :=
  name ++ " \x7b " ++ fields named ++ ", .. \x7d"

def truth : Bool → String
  | true => "true"
  | false => "false"

end OpcodeRecovery.Structured
