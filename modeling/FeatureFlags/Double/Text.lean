import FeatureFlags.Double.Decimal

/-!
# Written form of a double

`Double.text` writes the shortest decimal, positionally while the leading digit's exponent lies in
`-4 ≤ e < 16` and otherwise with an exponent of at least two digits.  Integral values keep a `.0`.
-/

set_option autoImplicit false

namespace FeatureFlags

namespace Double

/-- Digits without an exponent: zeros fill the places up to the units and after the point. -/
def positional (digits : List Char) (leading : Int) : List Char :=
  if leading < 0 then
    '0' :: '.' :: (List.replicate ((-leading).toNat - 1) '0' ++ digits)
  else
    let whole := digits.take (leading.toNat + 1)
    let part := digits.drop (leading.toNat + 1)
    whole ++ List.replicate (leading.toNat + 1 - whole.length) '0' ++
      '.' :: (if part.isEmpty then ['0'] else part)

/-- One digit, the others after a point, and a signed exponent of two digits or more. -/
def scientific (digits : List Char) (leading : Int) : List Char :=
  let magnitude := Nat.toDigits 10 leading.natAbs
  let mantissa := match digits with
    | first :: second :: rest => first :: '.' :: second :: rest
    | short => short
  mantissa ++ 'e' :: (if leading < 0 then '-' else '+') ::
    (List.replicate (2 - magnitude.length) '0' ++ magnitude)

def magnitudeText (units : Nat) : List Char :=
  let decimal := shortest units
  let digits := Nat.toDigits 10 decimal.coefficient
  let leading := decimal.exponent + (digits.length : Int) - 1
  if -4 ≤ leading ∧ leading < 16 then positional digits leading else scientific digits leading

def text : Double → String
  | .nan => "nan"
  | .infinite negative => if negative then "-inf" else "inf"
  | .finite negative units _ =>
      let magnitude := if units = 0 then ['0', '.', '0'] else magnitudeText units
      String.ofList (if negative then '-' :: magnitude else magnitude)

end Double

end FeatureFlags
