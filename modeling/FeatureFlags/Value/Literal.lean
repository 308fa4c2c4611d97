import FeatureFlags.Double.Text
import FeatureFlags.Text.Quoted
import FeatureFlags.Value.Basic

/-!
# Values inside messages

A message shows a value as a literal: text in quotes, lists in brackets and objects in braces.
`plain` shows text as it is.
-/

set_option autoImplicit false

namespace FeatureFlags.Value

mutual

def literal : Value → String
  | .null => "None"
  | .bool value => if value then "True" else "False"
  | .int value => toString value
  | .double value => value.text
  | .string text => Text.quoted text
  | .list items => "[" ++ ", ".intercalate (itemLiterals items) ++ "]"
  | .object members => "\x7b" ++ ", ".intercalate (memberLiterals members) ++ "\x7d"

def itemLiterals : List Value → List String
  | [] => []
  | item :: items => literal item :: itemLiterals items

def memberLiterals : List (String × Value) → List String
  | [] => []
  | (name, value) :: members =>
      (Text.quoted name ++ ": " ++ literal value) :: memberLiterals members

end

/-- Text as it is, anything else as a literal. -/
def plain : Value → String
  | .string text => text
  | value => value.literal

end FeatureFlags.Value
