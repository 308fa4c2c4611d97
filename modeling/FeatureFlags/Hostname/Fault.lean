import FeatureFlags.Text.Quoted

/-!
# Why a name is no host name

Names with characters beyond ASCII follow rules that plain names do not.  A fault says which rule a
name breaks and where; positions count from one.
-/

set_option autoImplicit false

namespace FeatureFlags.Hostname

inductive Fault where
  | emptyName
  | nameTooLong
  | labelTooLong
  | emptyLabel
  | notComposed
  /-- Hyphens where the mark of an encoded label stands. -/
  | reservedHyphens
  | edgeHyphen
  | leadingMark
  | character (c : Char) (position : Nat) (label : String)
  | joiner (c : Char) (position : Nat) (label : String)
  | context (c : Char) (position : Nat) (label : String)
  | unknownDirection (position : Nat) (label : String)
  | firstDirection (label : String)
  | direction (position : Nat) (rightToLeft : Bool)
  | mixedDigits
  | lastDirection
  /-- An encoded label of nothing. -/
  | nothingEncoded
  | finalHyphen
  | undecodable
  deriving DecidableEq, Repr

namespace Fault

/-- A code point in the usual notation: at least four capital hexadecimal digits. -/
def codeName (c : Char) : String :=
  "U+" ++ String.ofList ((Text.hexDigits 4 c.toNat).map Char.toUpper)

def place (position : Nat) (label : String) : String :=
  "at position " ++ toString position ++ " in " ++ Text.quoted label

def message : Fault → String
  | .emptyName => "Empty domain"
  | .nameTooLong => "Domain too long"
  | .labelTooLong => "Label too long"
  | .emptyLabel => "Empty Label"
  | .notComposed => "Label must be in Normalization Form C"
  | .reservedHyphens => "Label has disallowed hyphens in 3rd and 4th position"
  | .edgeHyphen => "Label must not start or end with a hyphen"
  | .leadingMark => "Label begins with an illegal combining character"
  | .character c position label =>
      "Codepoint " ++ codeName c ++ " at position " ++ toString position ++ " of " ++
        Text.quoted label ++ " not allowed"
  | .joiner c position label =>
      "Unknown codepoint adjacent to joiner " ++ codeName c ++ " " ++ place position label
  | .context c position label =>
      "Codepoint " ++ codeName c ++ " not allowed " ++ place position label
  | .unknownDirection position label =>
      "Unknown directionality in label " ++ Text.quoted label ++ " at position " ++
        toString position
  | .firstDirection label =>
      "First codepoint in label " ++ Text.quoted label ++ " must be directionality L, R or AL"
  | .direction position rightToLeft =>
      "Invalid direction for codepoint at position " ++ toString position ++ " in a " ++
        (if rightToLeft then "right-to-left" else "left-to-right") ++ " label"
  | .mixedDigits => "Can not mix numeral types in a right-to-left label"
  | .lastDirection => "Label ends with illegal codepoint directionality"
  | .nothingEncoded => "Malformed A-label, no Punycode eligible content found"
  | .finalHyphen => "A-label must not end with a hyphen"
  | .undecodable => "Invalid A-label"

end Fault

end FeatureFlags.Hostname
