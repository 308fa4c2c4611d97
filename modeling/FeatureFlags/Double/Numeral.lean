import FeatureFlags.Double.Decimal
import FeatureFlags.Text.Digit
import FeatureFlags.Text.Blank

/-!
# Reading a double from text

A numeral is an optional sign, digits of any script with at most one point, and an optional decimal
exponent; a single `_` may stand between two digits.  The words `inf`, `infinity` and `nan` are read
in any case.  Blanks around the numeral do not count.
-/

set_option autoImplicit false

namespace FeatureFlags

namespace Double

/-- A character of a numeral: digits of all scripts become digit values. -/
inductive NumeralSign where
  | digit (value : Nat)
  | separator
  | other (c : Char)
  deriving DecidableEq

def NumeralSign.ofChar (c : Char) : NumeralSign :=
  if c = '_' then .separator
  else match Text.decimalDigit? c with
    | some value => .digit value
    | none => .other c

/-- Removes the separators, each of which has to stand between two digits. -/
def dropSeparators? : (afterDigit : Bool) → List NumeralSign → Option (List NumeralSign)
  | _, [] => some []
  | true, .separator :: .digit value :: rest =>
      (dropSeparators? true rest).map (.digit value :: ·)
  | _, .separator :: _ => none
  | _, .digit value :: rest => (dropSeparators? true rest).map (.digit value :: ·)
  | _, .other c :: rest => (dropSeparators? false rest).map (.other c :: ·)

def takeDigits : List NumeralSign → List Nat × List NumeralSign
  | .digit value :: rest =>
      let (digits, after) := takeDigits rest
      (value :: digits, after)
  | rest => ([], rest)

/-- A sign, if there is one: whether it is a minus, and what follows. -/
def takeSign : List NumeralSign → Bool × List NumeralSign
  | .other '-' :: rest => (true, rest)
  | .other '+' :: rest => (false, rest)
  | rest => (false, rest)

/-- The exponent that ends a numeral: nothing, or `e` with a signed number. -/
def exponent? : List NumeralSign → Option Int
  | [] => some 0
  | .other mark :: rest =>
      if mark = 'e' ∨ mark = 'E' then
        let (negative, unsigned) := takeSign rest
        match takeDigits unsigned with
        | ([], _) => none
        | (digits, []) =>
            let value : Int := Text.digitsValue digits
            some (if negative then -value else value)
        | (_, _ :: _) => none
      else none
  | _ => none

def takeMantissa (signs : List NumeralSign) : List Nat × List Nat × List NumeralSign :=
  let (whole, rest) := takeDigits signs
  match rest with
  | .other '.' :: after =>
      let (part, final) := takeDigits after
      (whole, part, final)
  | _ => (whole, [], rest)

def namedValue? (negative : Bool) (signs : List NumeralSign) : Option Double :=
  let letters := signs.map fun
    | .other c => c.toLower
    | _ => ' '
  if letters = ['n', 'a', 'n'] then some .nan
  else if letters = ['i', 'n', 'f'] ∨ letters = ['i', 'n', 'f', 'i', 'n', 'i', 't', 'y'] then
    some (.infinite negative)
  else none

def ofUnsigned? (negative : Bool) (signs : List NumeralSign) : Option Double :=
  match namedValue? negative signs with
  | some value => some value
  | none =>
      let (whole, part, rest) := takeMantissa signs
      if whole.isEmpty && part.isEmpty then none
      else (exponent? rest).map fun exponent =>
        ofDecimal negative (Text.digitsValue (whole ++ part)) (exponent - part.length)

/-- The double nearest to the number that a text without blanks around it denotes. -/
def ofBareNumeral? (text : List Char) : Option Double := do
  let signs ← dropSeparators? false (text.map NumeralSign.ofChar)
  let (negative, unsigned) := takeSign signs
  ofUnsigned? negative unsigned

def ofNumeral? (text : List Char) : Option Double :=
  ofBareNumeral? (Text.trim text)

end Double

end FeatureFlags
