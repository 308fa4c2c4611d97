import FeatureFlags.Double.Decimal
import FeatureFlags.Entries
import FeatureFlags.Json.Encoding
import FeatureFlags.Text.Digit
import FeatureFlags.Value.Basic

/-!
# Reading JSON

`Value.ofJson` reads the bytes of a JSON text.  A number with a point or an exponent is a double,
any other one an integer of limited length; `NaN` and the infinities are numbers too.  Of members of
one name the last one counts.
-/

set_option autoImplicit false

namespace FeatureFlags.Json

def isGap (c : Char) : Bool :=
  c == ' ' || c == '\t' || c == '\n' || c == '\r'

def dropGap (text : List Char) : List Char :=
  text.dropWhile isGap

def escapedUnit? (digits : List Char) : Option Nat :=
  (digits.mapM Text.hexDigit?).map (·.foldl (fun value digit => value * 16 + digit) 0)

/-- The characters that have an escape of one letter. -/
def escapes : List (Char × Char) :=
  [('"', '"'), ('\\', '\\'), ('/', '/'), ('b', '\x08'), ('f', '\x0c'), ('n', '\n'), ('r', '\r'),
    ('t', '\t')]

/-- The code units of a string behind its opening quote, and what follows the closing one. -/
def readUnits : List Char → Option (List Nat × List Char)
  | '"' :: rest => some ([], rest)
  | '\\' :: 'u' :: a :: b :: c :: d :: rest => do
      let unit ← escapedUnit? [a, b, c, d]
      let (units, after) ← readUnits rest
      return (unit :: units, after)
  | '\\' :: letter :: rest => do
      let escaped ← escapes.lookup letter
      let (units, after) ← readUnits rest
      return (escaped.toNat :: units, after)
  | c :: rest =>
      if c.toNat < 0x20 then none
      else (readUnits rest).map fun (units, after) => (c.toNat :: units, after)
  | [] => none

def readString (text : List Char) : Option (String × List Char) :=
  (readUnits text).map fun (units, after) => (String.ofList (joinPairs units), after)

def takeDigits : List Char → List Nat × List Char
  | c :: rest =>
      match Text.asciiDigit? c with
      | some digit =>
          let (digits, after) := takeDigits rest
          (digit :: digits, after)
      | none => ([], c :: rest)
  | [] => ([], [])

/-- The digits before a point: a leading zero stands alone. -/
def takeWhole? : List Char → Option (List Nat × List Char)
  | '0' :: rest => some ([0], rest)
  | text =>
      match takeDigits text with
      | ([], _) => none
      | taken => some taken

def takePart : List Char → List Nat × List Char
  | '.' :: rest =>
      match takeDigits rest with
      | ([], _) => ([], '.' :: rest)
      | taken => taken
  | text => ([], text)

def takeSign : List Char → Bool × List Char
  | '-' :: rest => (true, rest)
  | '+' :: rest => (false, rest)
  | text => (false, text)

def takeExponent? : List Char → Option (Int × List Char)
  | mark :: rest =>
      if mark == 'e' || mark == 'E' then
        let (negative, unsigned) := takeSign rest
        match takeDigits unsigned with
        | ([], _) => none
        | (digits, after) =>
            let value : Int := Text.digitsValue digits
            some (if negative then -value else value, after)
      else none
  | [] => none

def maxDigits : Nat := 4300

def readNumber (text : List Char) : Option (Value × List Char) := do
  let (negative, unsigned) :=
    match text with
    | '-' :: rest => (true, rest)
    | rest => (false, rest)
  let (whole, behindWhole) ← takeWhole? unsigned
  let (part, behindPart) := takePart behindWhole
  match takeExponent? behindPart with
  | some (exponent, after) =>
      let value :=
        Double.ofDecimal negative (Text.digitsValue (whole ++ part)) (exponent - part.length)
      return (.double value, after)
  | none =>
      if part.isEmpty then
        if maxDigits < whole.length then none
        else
          let value : Int := Text.digitsValue whole
          return (.int (if negative then -value else value), behindPart)
      else
        let value := Double.ofDecimal negative (Text.digitsValue (whole ++ part)) (-part.length)
        return (.double value, behindPart)

def names : List (List Char × Value) :=
  [("null".toList, .null), ("true".toList, .bool true), ("false".toList, .bool false),
    ("NaN".toList, .double .nan), ("Infinity".toList, .double (.infinite false)),
    ("-Infinity".toList, .double (.infinite true))]

def readScalar (text : List Char) : Option (Value × List Char) :=
  match names.find? fun (name, _) => name.isPrefixOf text with
  | some (name, value) => some (value, text.drop name.length)
  | none => readNumber text

inductive Fault where
  | malformed
  /-- An array, or an object, is nested too deep. -/
  | deepArray
  | deepObject
  deriving DecidableEq, Repr

/-- How deep the usual interpreter follows arrays and objects. -/
def usualNesting : Nat := 970

def orMalformed {Result : Type} : Option Result → Except Fault Result
  | some result => .ok result
  | none => .error .malformed

mutual

def readValue (nesting depth : Nat) : Nat → List Char → Except Fault (Value × List Char)
  | 0, _ => .error .malformed
  | fuel + 1, text =>
      match text with
      | '"' :: rest => do
          let (content, after) ← orMalformed (readString rest)
          return (.string content, after)
      | '[' :: rest =>
          if depth = nesting then .error .deepArray
          else
            match dropGap rest with
            | ']' :: after => return (.list [], after)
            | items => do
                let (values, after) ← readItems nesting (depth + 1) fuel items
                return (.list values, after)
      | '\x7b' :: rest =>
          if depth = nesting then .error .deepObject
          else
            match dropGap rest with
            | '\x7d' :: after => return (.object [], after)
            | members => do
                let (pairs, after) ← readMembers nesting (depth + 1) fuel members
                return (.object (Entries.ofPairs pairs), after)
      | _ => orMalformed (readScalar text)

/-- The items of a list up to its end; there is at least one. -/
def readItems (nesting depth : Nat) : Nat → List Char → Except Fault (List Value × List Char)
  | 0, _ => .error .malformed
  | fuel + 1, text => do
      let (value, behind) ← readValue nesting depth fuel text
      match dropGap behind with
      | ']' :: after => return ([value], after)
      | ',' :: rest =>
          let (values, after) ← readItems nesting depth fuel (dropGap rest)
          return (value :: values, after)
      | _ => throw .malformed

def readMembers (nesting depth : Nat) :
    Nat → List Char → Except Fault (List (String × Value) × List Char)
  | 0, _ => .error .malformed
  | fuel + 1, text =>
      match text with
      | '"' :: inside => do
          let (name, behindName) ← orMalformed (readString inside)
          match dropGap behindName with
          | ':' :: rest =>
              let (value, behind) ← readValue nesting depth fuel (dropGap rest)
              match dropGap behind with
              | '\x7d' :: after => return ([(name, value)], after)
              | ',' :: rest =>
                  let (pairs, after) ← readMembers nesting depth fuel (dropGap rest)
                  return ((name, value) :: pairs, after)
              | _ => throw .malformed
          | _ => throw .malformed
      | _ => throw .malformed

end

/-- The value that a whole text denotes.  Of two steps one passes a character, so the length of the
text bounds the steps. -/
def ofText (nesting : Nat) (text : List Char) : Except Fault Value := do
  let (value, after) ← readValue nesting 0 (2 * (text.length + 1)) (dropGap text)
  if dropGap after = [] then return value else throw .malformed

end FeatureFlags.Json

namespace FeatureFlags

/-- The value that the bytes of a JSON text denote, with arrays and objects nested up to a depth. -/
def Value.ofJson (nesting : Nat) (bytes : List UInt8) : Except Json.Fault Value := do
  Json.ofText nesting (← Json.orMalformed (Json.characters? bytes))

end FeatureFlags
