import AccountManager.Text.Quoted

/-!
# Describing values

How a value with parts appears in a description: its name, the parts it shows, and two dots for
those it keeps to itself.
-/

namespace AccountManager.Text

def describedPartly (name : String) (parts : List (String × String)) : String :=
  let shown := parts.map fun (label, content) => label ++ ": " ++ content ++ ", "
  name ++ " \x7b " ++ String.join shown ++ ".. \x7d"

def described (name : String) (parts : List (String × String)) : String :=
  let shown := parts.map fun (label, content) => label ++ ": " ++ content
  name ++ " \x7b " ++ ", ".intercalate shown ++ " \x7d"

def describedOption : Option String → String
  | none => "None"
  | some content => "Some(" ++ content ++ ")"

end AccountManager.Text
