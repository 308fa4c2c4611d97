import FeatureFlags.Hostname.Basic
import FeatureFlags.Settings.Basic
import FeatureFlags.Text.Blank
import FeatureFlags.Text.Digit

/-!
# Ports of URLs

A port is any integer.  Blanks around it, a sign, digits of every script and single separators
between digits are read; the usual port of a protocol is left out.
-/

set_option autoImplicit false

namespace FeatureFlags.Http.Port

def maxDigits : Nat := 4300

/-- The digits of a numeral between single separators. -/
def digits? (text : List Char) : Option (List Nat) :=
  let groups := Hostname.splitOn (· == '_') text
  if groups.all (!·.isEmpty) then groups.flatten.mapM Text.decimalDigit? else none

def read? (text : List Char) : Option Int :=
  let (negative, unsigned) := match Text.trimBy Text.isSpace text with
    | '-' :: rest => (true, rest)
    | '+' :: rest => (false, rest)
    | rest => (false, rest)
  match digits? unsigned with
  | some digits =>
      if digits.length ≤ maxDigits then
        some (if negative then -Text.digitsValue digits else Text.digitsValue digits)
      else none
  | none => none

def usual : Protocol → Int
  | .http => 80
  | .https => 443

/-- The port that is written behind a host, if any is; fails with what cannot be read. -/
def normal (protocol : Protocol) (text : List Char) : Except String (Option Int) :=
  if text.isEmpty then .ok none
  else
    match read? text with
    | some number => .ok (if number = usual protocol then none else some number)
    | none => .error (String.ofList text)

end FeatureFlags.Http.Port
