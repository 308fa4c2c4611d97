import FeatureFlags.Double.Numeral
import FeatureFlags.Text.Lowercase
import FeatureFlags.Yaml.Cursor

/-!
# Numbers in YAML scalars

Integers are binary, octal, decimal, hexadecimal or groups of base sixty, floats are decimals,
infinities, not-a-number or groups of base sixty; `_` separates digits and does not count.  A scalar
that is tagged as a number need not be spelled as one, so every reading can fail.
-/

set_option autoImplicit false

namespace FeatureFlags.Yaml.Numeral

-- Powers are those of the core library, whatever algebra is imported beside this module.
attribute [local instance (high)] instPowNat

def maxDigits : Nat := 4300

def digit? (base : Nat) (c : Char) : Option Nat :=
  let value :=
    match Text.decimalDigit? c with
    | some digit => some digit
    | none => Text.hexDigit? c
  value.bind fun digit => if digit < base then some digit else none

def baseMark? (base : Nat) (c : Char) : Bool :=
  (base == 2 && (c == 'b' || c == 'B')) || (base == 8 && (c == 'o' || c == 'O')) ||
    (base == 16 && (c == 'x' || c == 'X'))

/-- Drops `0` and a base mark in front of digits of that base. -/
def dropBase (base : Nat) : List Char → List Char
  | '0' :: mark :: rest => if baseMark? base mark then rest else '0' :: mark :: rest
  | text => text

def takeSign : List Char → Bool × List Char
  | '-' :: rest => (true, rest)
  | '+' :: rest => (false, rest)
  | text => (false, text)

def integer (base : Nat) (text : List Char) : Except ScalarFault Int :=
  let (negative, unsigned) := takeSign (Text.trimBy Text.isSpace text)
  let numeral := dropBase base unsigned
  let leading := numeral.takeWhile fun c => (digit? base c).isSome
  if base = 10 ∧ maxDigits < leading.length then .error (.integerDigits leading.length)
  else if numeral.isEmpty || leading.length < numeral.length then
    .error (.integerText base (String.ofList text))
  else
    let value : Nat :=
      (leading.filterMap (digit? base)).foldl (fun value digit => value * base + digit) 0
    .ok (if negative then -value else value)

def parts (text : List Char) : List (List Char) :=
  text.foldr (fun c groups =>
    match groups with
    | group :: rest => if c == ':' then [] :: group :: rest else (c :: group) :: rest
    | [] => [[c]]) [[]]

def ofIntegerText (text : List Char) : Except ScalarFault Int := do
  let (negative, unsigned) := takeSign (text.filter (· != '_'))
  let value ←
    match unsigned with
    | [] => .error .noText
    | ['0'] => .ok 0
    | '0' :: 'b' :: digits => integer 2 digits
    | '0' :: 'x' :: digits => integer 16 digits
    | '0' :: digits => integer 8 ('0' :: digits)
    | _ =>
        if unsigned.contains ':' then do
          let groups ← (parts unsigned).mapM (integer 10)
          pure (groups.foldl (fun value group => value * 60 + group) 0)
        else integer 10 unsigned
  return if negative then -value else value

def double (text : List Char) : Except ScalarFault Double :=
  match Double.ofBareNumeral? (Text.trimBy Text.isSpace text) with
  | some value => .ok value
  | none => .error (.floatText (String.ofList text))

/-- Groups of base sixty summed from the last to the first, every step rounded. -/
def sumSixtieths : (weight : Nat) → (sum : Double) → List Double → Except ScalarFault Double
  | _, sum, [] => .ok sum
  | weight, sum, group :: rest =>
      match Double.ofInt weight with
      | .finite _ units _ =>
          sumSixtieths (weight * 60) (sum.add (group.scale (units / 2 ^ Double.quantumBits))) rest
      | _ => .error .weightTooLarge

def ofFloatText (text : List Char) : Except ScalarFault Double := do
  let (negative, unsigned) := takeSign (Text.lowercase (text.filter (· != '_')))
  if (text.filter (· != '_')).isEmpty then .error .noText
  else
    let value ←
      if unsigned == ".inf".toList then .ok (.infinite false)
      else if unsigned == ".nan".toList then .ok .nan
      else if unsigned.contains ':' then do
        let groups ← (parts unsigned).mapM double
        sumSixtieths 1 (Double.zero false) groups.reverse
      else double unsigned
    return if negative then value.neg else value

end FeatureFlags.Yaml.Numeral
