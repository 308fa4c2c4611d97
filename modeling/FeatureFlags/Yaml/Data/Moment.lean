import FeatureFlags.Yaml.Cursor
import FeatureFlags.Yaml.Data.Basic

/-!
# Dates and times in YAML scalars

A date is year, month and day; a time of day may follow, with a fraction of a second and a distance
from universal time.  The parts are read by position and then checked against the calendar, the
distance first.
-/

set_option autoImplicit false

namespace FeatureFlags.Yaml.Moment

/-- The number that one or two digits at the front denote, and what follows. -/
def takeShort? : List Char → Option (Nat × List Char)
  | a :: b :: rest =>
      (Text.asciiDigit? a).map fun tens =>
        match Text.asciiDigit? b with
        | some ones => (tens * 10 + ones, rest)
        | none => (tens, b :: rest)
  | [a] => (Text.asciiDigit? a).map fun ones => (ones, [])
  | [] => none

def takeDigits? (count : Nat) (text : List Char) : Option (Nat × List Char) :=
  let digits := (text.take count).filterMap Text.asciiDigit?
  if digits.length = count then some (Text.digitsValue digits, text.drop count) else none

def after? (mark : Char) : List Char → Option (List Char)
  | c :: rest => if c == mark then some rest else none
  | [] => none

def isGap (c : Char) : Bool :=
  c == ' ' || c == '\t'

/-- The digits behind a point as microseconds; further digits are cut off. -/
def microseconds (digits : List Char) : Nat :=
  let kept := (digits.filterMap Text.asciiDigit?).take 6
  Text.digitsValue (kept ++ List.replicate (6 - kept.length) 0)

/-- The distance from universal time in seconds that ends a timestamp, if one is given. -/
def zone? (text : List Char) : Option (Option Int) :=
  match text.dropWhile isGap with
  | [] => if text.isEmpty then some none else none
  | ['Z'] => some (some 0)
  | sign :: rest => do
      let direction : Int ← if sign == '+' then some 1 else if sign == '-' then some (-1) else none
      let (hours, behind) ← takeShort? rest
      let minutes ←
        match behind with
        | [] => some 0
        | mark :: digits =>
            match takeDigits? 2 digits with
            | some (minutes, []) => if mark == ':' then some minutes else none
            | _ => none
      return some (direction * (hours * 3600 + minutes * 60 : Nat))

def time? (date : Date) (text : List Char) : Option Timestamp := do
  let (hour, behindHour) ← takeShort? text
  let (minute, behindMinute) ← takeDigits? 2 (← after? ':' behindHour)
  let (second, behindSecond) ← takeDigits? 2 (← after? ':' behindMinute)
  let (fraction, behind) :=
    match behindSecond with
    | '.' :: digits =>
        (digits.takeWhile fun c => (Text.asciiDigit? c).isSome,
          digits.dropWhile fun c => (Text.asciiDigit? c).isSome)
    | rest => ([], rest)
  return ⟨date, hour, minute, second, microseconds fraction, ← zone? behind⟩

def parts? (text : List Char) : Option (Date ⊕ Timestamp) := do
  let (year, behindYear) ← takeDigits? 4 text
  let (month, behindMonth) ← takeShort? (← after? '-' behindYear)
  let (day, behind) ← takeShort? (← after? '-' behindMonth)
  let date : Date := ⟨year, month, day⟩
  match behind with
  | [] => return .inl date
  | mark :: rest =>
      if mark == 'T' || mark == 't' then return .inr (← time? date rest)
      else if isGap mark then return .inr (← time? date (rest.dropWhile isGap))
      else none

def isLeapYear (year : Nat) : Bool :=
  year % 4 == 0 && (year % 100 != 0 || year % 400 == 0)

def daysInMonth (year month : Nat) : Nat :=
  if month = 2 then (if isLeapYear year then 29 else 28)
  else if month = 4 ∨ month = 6 ∨ month = 9 ∨ month = 11 then 30
  else 31

def checkDate (date : Date) : Except ScalarFault Date :=
  if date.year = 0 then .error (.year date.year)
  else if date.month = 0 ∨ 12 < date.month then .error .month
  else if date.day = 0 ∨ daysInMonth date.year date.month < date.day then .error .day
  else .ok date

def checkTime (moment : Timestamp) : Except ScalarFault Timestamp := do
  if moment.offset.any fun offset => decide (86400 ≤ offset.natAbs) then
    throw (.timeZone (moment.offset.getD 0))
  let _ ← checkDate moment.date
  if 23 < moment.hour then throw .hour
  if 59 < moment.minute then throw .minute
  if 59 < moment.second then throw .second
  return moment

/-- The data that a text tagged as a timestamp stands for.  A line break at its very end does not
count. -/
def ofText (text : List Char) : Except ScalarFault Data :=
  let spelling := if text.getLast? == some '\n' then text.dropLast else text
  match parts? spelling with
  | none => .error .notTimestamp
  | some (.inl date) => (checkDate date).map .date
  | some (.inr moment) => (checkTime moment).map .timestamp

end FeatureFlags.Yaml.Moment
