import FeatureFlags.Yaml.Token.Basic

/-!
# Anchors, aliases, tags and directives

The parts of a text that describe nodes and documents.  Each reader starts at the indicator and
returns the token and the cursor behind it.
-/

set_option autoImplicit false

namespace FeatureFlags.Yaml

/-- A character that may follow the name of an anchor or alias. -/
def endsName (next : Option Char) : Bool :=
  endsToken next || (next.any fun c => "?:,]\x7d%@\x60".toList.contains c)

def readName (cursor : Cursor) : Except Fault (List Char × Cursor) :=
  let (name, after) := cursor.next.run isWordChar
  if name.isEmpty || !endsName after.peek then .error .malformed else .ok (name, after)

def isUriChar (c : Char) : Bool :=
  ('0' ≤ c && c ≤ '9') || ('A' ≤ c && c ≤ 'Z') || ('a' ≤ c && c ≤ 'z') ||
    "-;/?:@&=+$,_.!~*'()[]".toList.contains c

def readEscapes : List Char → Except Fault (List UInt8 × List Char)
  | '%' :: high :: low :: rest =>
      match Text.hexDigit? high, Text.hexDigit? low with
      | some upper, some lower => do
          let (bytes, after) ← readEscapes rest
          return ((upper * 16 + lower).toUInt8 :: bytes, after)
      | _, _ => .error .malformed
  | '%' :: _ => .error .malformed
  | rest => .ok ([], rest)

/-- The text of a URI; escapes stand for UTF-8 bytes. -/
def readUriText : Nat → List Char → Except Fault (List Char)
  | 0, _ => .error .malformed
  | fuel + 1, text =>
      match text with
      | '%' :: _ => do
          let (bytes, after) ← readEscapes text
          match Text.Utf8.decode bytes with
          | .error _ => .error .malformed
          | .ok chars => return chars ++ (← readUriText fuel after)
      | c :: rest => return c :: (← readUriText fuel rest)
      | [] => .ok []

def readUri (cursor : Cursor) : Except Fault (List Char × Cursor) := do
  let (raw, after) := cursor.run fun c => isUriChar c || c == '%'
  if raw.isEmpty then .error .malformed
  else return (← readUriText (raw.length + 1) raw, after)

/-- A tag handle: `!`, `!!` or a word between two `!`. -/
def readHandle (cursor : Cursor) : Except Fault (List Char × Cursor) :=
  if cursor.peek == some '!' then
    let after := cursor.next
    if after.peek == some ' ' then .ok (['!'], after)
    else
      let (word, behind) := after.run isWordChar
      if behind.peek == some '!' then .ok ('!' :: (word ++ ['!']), behind.next)
      else .error .malformed
  else .error .malformed

/-- A tag in one of its forms: in full between angle brackets, the bare `!`, or a handle and a
suffix. -/
def readTag (cursor : Cursor) : Except Fault (Token × Cursor) := do
  let second := cursor.peekAt 1
  let (token, after) ←
    if second == some '<' then do
      let (uri, after) ← readUri (cursor.forward 2)
      if after.peek == some '>' then pure (Token.tag none uri, after.next) else .error .malformed
    else if endsToken second then
      pure (Token.tag none ['!'], cursor.next)
    else do
      let word := (cursor.next.run fun c => !endsWord (some c)).1
      let (handle, behind) ←
        if word.contains '!' then readHandle cursor else pure (['!'], cursor.next)
      let (suffix, after) ← readUri behind
      pure (Token.tag (some handle) suffix, after)
  if endsWord after.peek then return (token, after) else .error .malformed

def maxVersionDigits : Nat := 4300

def readVersionNumber (cursor : Cursor) : Except Fault (Nat × Cursor) :=
  let (digits, after) := cursor.run fun c => (Text.asciiDigit? c).isSome
  if digits.isEmpty then .error .malformed
  else if maxVersionDigits < digits.length then
    .error (.scalar (.integerDigits digits.length))
  else .ok (Text.digitsValue (digits.filterMap Text.asciiDigit?), after)

def readDirective (cursor : Cursor) : Except Fault (Token × Cursor) := do
  let (name, behind) := cursor.next.run isWordChar
  if name.isEmpty || !endsWord behind.peek then .error .malformed
  else if name == "YAML".toList then do
    let (major, point) ← readVersionNumber behind.skipSpaces
    if point.peek != some '.' then .error .malformed
    else do
      let (_, after) ← readVersionNumber point.next
      if endsWord after.peek then return (.versionDirective major, ← after.endOfLine)
      else .error .malformed
  else if name == "TAG".toList then do
    let (handle, gap) ← readHandle behind.skipSpaces
    if gap.peek != some ' ' then .error .malformed
    else do
      let (head, after) ← readUri gap.skipSpaces
      if endsWord after.peek then return (.tagDirective handle head, ← after.endOfLine)
      else .error .malformed
  else return (.otherDirective, ← (behind.skip (!isBreak ·)).endOfLine)

end FeatureFlags.Yaml
