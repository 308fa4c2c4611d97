import FeatureFlags.Text.Digit

/-!
# Tags

A tag says what a node is to become.  A plain scalar without a tag of its own gets one from its
spelling, the first that fits of `Tag.ofPlain`: truth value, float, integer, merge key, null,
timestamp, default key, and text otherwise.
-/

set_option autoImplicit false

namespace FeatureFlags.Yaml

inductive Tag where
  | null
  | bool
  | int
  | float
  | binary
  | timestamp
  | omap
  | pairs
  | set
  | str
  | seq
  | map
  | merge
  | default
  | unknown
  deriving DecidableEq, Repr

namespace Tag

def standard : List (String × Tag) :=
  [("null", .null), ("bool", .bool), ("int", .int), ("float", .float), ("binary", .binary),
    ("timestamp", .timestamp), ("omap", .omap), ("pairs", .pairs), ("set", .set), ("str", .str),
    ("seq", .seq), ("map", .map), ("merge", .merge), ("value", .default)]

/-- The namespace that all standard tags share. -/
def standardSpace : String := "tag:yaml.org,2002:"

def ofUri (uri : List Char) : Tag :=
  if standardSpace.toList.isPrefixOf uri then
    (standard.lookup (String.ofList (uri.drop standardSpace.length))).getD .unknown
  else .unknown

/-! ## Spellings of plain scalars -/

def isDigit (c : Char) : Bool :=
  (Text.asciiDigit? c).isSome

/-- A digit or the separator `_`. -/
def isSpacedDigit (c : Char) : Bool :=
  isDigit c || c == '_'

def dropSign : List Char → List Char
  | '+' :: rest => rest
  | '-' :: rest => rest
  | text => text

/-- Text of characters of a class, at least one of them. -/
def isRun (belongs : Char → Bool) (text : List Char) : Bool :=
  !text.isEmpty && text.all belongs

def isBool (text : List Char) : Bool :=
  ["yes", "Yes", "YES", "no", "No", "NO", "true", "True", "TRUE", "false", "False", "FALSE",
    "on", "On", "ON", "off", "Off", "OFF"].any (·.toList == text)

def isNull (text : List Char) : Bool :=
  ["", "~", "null", "Null", "NULL"].any (·.toList == text)

/-- Groups of up to two digits below sixty, each led by a colon; there is at least one. -/
def isSixtieths : List Char → Bool
  | [':', d] => isDigit d
  | ':' :: d :: e :: rest =>
      if e == ':' then isDigit d && isSixtieths (e :: rest)
      else ('0' ≤ d && d ≤ '5') && isDigit e && (rest.isEmpty || isSixtieths rest)
  | _ => false

def splitAtFirst (stops : Char → Bool) (text : List Char) : List Char × List Char :=
  (text.takeWhile (!stops ·), text.dropWhile (!stops ·))

def isExponent : List Char → Bool
  | mark :: sign :: digits =>
      (mark == 'e' || mark == 'E') && (sign == '+' || sign == '-') && isRun isDigit digits
  | _ => false

/-- Nothing or an exponent after digits and separators. -/
def isFraction (text : List Char) : Bool :=
  let rest := text.dropWhile isSpacedDigit
  rest.isEmpty || isExponent rest

/-- A digit and then digits and separators. -/
def isWhole : List Char → Bool
  | c :: rest => isDigit c && rest.all isSpacedDigit
  | [] => false

def isFloat (text : List Char) : Bool :=
  let unsigned := dropSign text
  let (whole, rest) := splitAtFirst (· == '.') unsigned
  let (hours, parts) := splitAtFirst (· == ':') whole
  match rest with
  | '.' :: part =>
      (isWhole whole && isFraction part) ||
        (text.head? == some '.' && part.head?.any isDigit && isFraction part) ||
        (isWhole hours && isSixtieths parts && part.all isSpacedDigit) ||
        ["inf", "Inf", "INF"].any (whole.isEmpty && ·.toList == part) ||
        (text.head? == some '.' && ["nan", "NaN", "NAN"].any (·.toList == part))
  | _ => false

def isInt (text : List Char) : Bool :=
  match dropSign text with
  | '0' :: 'b' :: digits => isRun (fun c => c == '0' || c == '1' || c == '_') digits
  | '0' :: 'x' :: digits => isRun (fun c => (Text.hexDigit? c).isSome || c == '_') digits
  | '0' :: digits => digits.all fun c => ('0' ≤ c && c ≤ '7') || c == '_'
  | whole =>
      let (first, parts) := splitAtFirst (· == ':') whole
      isWhole first && (parts.isEmpty || isSixtieths parts)

def dropShort : List Char → Option (List Char)
  | a :: b :: rest =>
      if isDigit a then some (if isDigit b then rest else b :: rest) else none
  | [a] => if isDigit a then some [] else none
  | [] => none

def dropDigits : Nat → List Char → Option (List Char)
  | 0, rest => some rest
  | count + 1, c :: rest => if isDigit c then dropDigits count rest else none
  | _ + 1, [] => none

def dropChar (c : Char) : List Char → Option (List Char)
  | first :: rest => if first == c then some rest else none
  | [] => none

def isGap (c : Char) : Bool :=
  c == ' ' || c == '\t'

def isZone (text : List Char) : Bool :=
  match text.dropWhile isGap with
  | [] => text.isEmpty
  | ['Z'] => true
  | sign :: rest =>
      (sign == '+' || sign == '-') &&
        match dropShort rest with
        | some [] => true
        | some (':' :: minutes) => dropDigits 2 minutes == some []
        | _ => false

def isTime (text : List Char) : Bool :=
  let seconds := do
    let minutes ← (dropShort text).bind (dropChar ':')
    let seconds ← (dropDigits 2 minutes).bind (dropChar ':')
    dropDigits 2 seconds
  match seconds with
  | none => false
  | some ('.' :: rest) => isZone (rest.dropWhile isDigit)
  | some rest => isZone rest

/-- A date of fixed width, or a date and a time. -/
def isTimestamp (text : List Char) : Bool :=
  let month := (dropDigits 4 text).bind (dropChar '-')
  let short := do
    let day ← (dropDigits 2 (← month)).bind (dropChar '-')
    dropDigits 2 day
  let long := do
    let day ← (dropShort (← month)).bind (dropChar '-')
    dropShort day
  short == some [] ||
    match long with
    | some (mark :: time) =>
        if mark == 'T' || mark == 't' then isTime time
        else isGap mark && isTime (time.dropWhile isGap)
    | _ => false

/-- The tag of a plain scalar.  A line break at its very end does not count. -/
def ofPlain (text : List Char) : Tag :=
  let spelling := if text.getLast? == some '\n' && text != ['\n'] then text.dropLast else text
  if isBool spelling then .bool
  else if isFloat spelling then .float
  else if isInt spelling then .int
  else if spelling == ['<', '<'] then .merge
  else if isNull spelling then .null
  else if isTimestamp spelling then .timestamp
  else if spelling == ['='] then .default
  else if spelling == ['!'] || spelling == ['&'] || spelling == ['*'] then .unknown
  else .str

end Tag

end FeatureFlags.Yaml
