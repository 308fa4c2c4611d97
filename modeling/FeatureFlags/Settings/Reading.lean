import FeatureFlags.Error
import FeatureFlags.Settings.Basic
import FeatureFlags.Text.Blank
import FeatureFlags.Yaml.Data.Basic

/-!
# Reading one setting

A text is text or its UTF-8 bytes; only a host may be broken.  An integer may also be given as a
truth value, as a whole double or as a numeral; it then has to lie in the range of its setting.
-/

set_option autoImplicit false

namespace FeatureFlags.Settings

-- Powers are those of the core library, whatever algebra is imported beside this module.
attribute [local instance (high)] instPowNat

open Yaml (Data)

def readText : Data → Except Problem String
  | .text content => .ok content
  | .binary bytes =>
      match Text.Utf8.decode bytes with
      | .ok content => .ok (String.ofList content)
      | .error _ => .error .undecodableText
  | .broken _ => .error .undecodableText
  | _ => .error .notText

def readHost : Data → Except Problem Text.Raw
  | .broken content => .ok (.broken content)
  | data => (readText data).map .whole

def readProtocol : Data → Except Problem Protocol
  | .text content =>
      if content = Protocol.http.name then .ok .http
      else if content = Protocol.https.name then .ok .https
      else .error .notAnOption
  | .broken _ => .error .undecodableText
  | _ => .error .notAnOption

def maxLength : Nat := 4300

def isLeadingDigit (c : Char) : Bool :=
  '1' ≤ c && c ≤ '9'

/-- Digits without leading zeros, with a minus sign where the number is negative. -/
def integer? (text : List Char) : Option Int :=
  let (negative, unsigned) := match text with
    | '-' :: rest => (true, rest)
    | rest => (false, rest)
  let digits := unsigned.filterMap Text.asciiDigit?
  let isCanonical := unsigned == ['0'] || unsigned.head?.any isLeadingDigit
  if isCanonical && digits.length == unsigned.length && text.length ≤ maxLength then
    some (if negative then -Text.digitsValue digits else Text.digitsValue digits)
  else none

/-- Whether a text leads with more digits than are read. -/
def isOversized (text : List Char) : Bool :=
  let unsigned := if text.head? == some '-' then text.drop 1 else text
  let digits := unsigned.takeWhile fun c => (Text.asciiDigit? c).isSome
  unsigned.head?.any isLeadingDigit && maxLength < text.length - unsigned.length + digits.length

def dropFraction (text : List Char) : List Char :=
  let (whole, part) := (text.takeWhile (· != '.'), text.dropWhile (· != '.'))
  match part with
  | '.' :: '0' :: zeros => if zeros.all (· == '0') then whole else text
  | _ => text

/-- Drops the zeros and separators that lead a numeral; of nothing else the last one stays.  A minus
sign may stand behind them. -/
def dropLeading? : List Char → Option (List Char)
  | '0' :: rest =>
      match rest.dropWhile fun c => c == '0' || c == '_' with
      | [] => some [rest.getLast?.getD '0']
      | c :: more => if isLeadingDigit c || c == '-' then some (c :: more) else none
  | c :: rest => if isLeadingDigit c || c == '-' then some (c :: rest) else none
  | [] => none

/-- Whether each separator stands alone between two other characters. -/
def separatorsFit : List Char → Bool
  | [] => true
  | ['_'] => false
  | '_' :: '_' :: _ => false
  | _ :: rest => separatorsFit rest

def dropSeparators (text : List Char) : List Char :=
  if text.head? != some '_' && separatorsFit text then text.filter (· != '_') else text

/-- A numeral without what may surround its digits: blanks, a plus sign, leading zeros, a fraction
of zeros and separators. -/
def bare? (text : List Char) : Option (List Char) :=
  (match Text.trimBy Text.isSpace text with
    | '+' :: '-' :: _ => none
    | '+' :: rest => dropLeading? (dropFraction rest)
    | '-' :: rest => (dropLeading? (dropFraction rest)).map ('-' :: ·)
    | rest => dropLeading? (dropFraction rest)).map dropSeparators

def readNumeral (text : List Char) : Except Problem Int :=
  if isOversized text then .error .oversizedInteger
  else
    match integer? text <|> (bare? text).bind integer? with
    | some value => .ok value
    | none => .error .unreadableInteger

/-- Whole doubles below this magnitude are read as integers. -/
def wholeBound : Nat := 2 ^ (63 : Nat)

def readWhole : Double → Except Problem Int
  | .finite negative units fits =>
      match (Double.finite negative units fits).toInt? with
      | some value => if value.natAbs < wholeBound then .ok value else .error .oversizedInteger
      | none => .error .fractional
  | _ => .error .notFinite

def readInteger : Data → Except Problem Int
  | .bool value => .ok value.toInt
  | .int value => .ok value
  | .double value => readWhole value
  | .text content => readNumeral content.toList
  | .binary bytes =>
      match Text.Utf8.decode bytes with
      | .ok content => readNumeral content
      | .error _ => .error .unreadableInteger
  | .broken _ => .error .undecodableText
  | _ => .error .notInteger

def readPort (data : Data) : Except Problem Nat := do
  let value ← readInteger data
  if value < 1 then throw .belowMinimum
  if maxPort < value then throw .aboveMaximum
  return value.toNat

def readTimeout (data : Data) : Except Problem Nat := do
  let value ← readInteger data
  if value ≤ 0 then throw .notAboveMinimum
  return value.toNat

end FeatureFlags.Settings
