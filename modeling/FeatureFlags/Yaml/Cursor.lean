import FeatureFlags.Error

/-!
# A place in a YAML text

A cursor holds what is left of a text together with the line and column that it has reached.  Five
characters break lines; a byte-order mark takes no column.
-/

set_option autoImplicit false

namespace FeatureFlags.Yaml

/-- Why a text brings no data: it is malformed, a scalar cannot be built, or what it holds is nested
deeper than an interpreter follows. -/
inductive Fault where
  | malformed
  | scalar (fault : ScalarFault)
  | tooDeep
  deriving DecidableEq, Repr

def isBreak (c : Char) : Bool :=
  c == '\n' || c == '\r' || c == '\x85' || c == '\u2028' || c == '\u2029'

/-- A line break or the end of the text. -/
def endsLine : Option Char → Bool
  | none => true
  | some c => isBreak c

/-- A space, a line break or the end of the text. -/
def endsWord : Option Char → Bool
  | none => true
  | some c => c == ' ' || isBreak c

/-- A space, a tab, a line break or the end of the text. -/
def endsToken : Option Char → Bool
  | none => true
  | some c => c == ' ' || c == '\t' || isBreak c

def isAllowed (c : Char) : Bool :=
  let code := c.toNat
  code == 9 || code == 10 || code == 13 || (0x20 ≤ code && code ≤ 0x7E) || code == 0x85 ||
    (0xA0 ≤ code && code ≤ 0xD7FF) || (0xE000 ≤ code && code ≤ 0xFFFD) || 0x10000 ≤ code

/-- Letters, digits, `-` and `_`: the characters of anchor names and tag handles. -/
def isWordChar (c : Char) : Bool :=
  ('0' ≤ c && c ≤ '9') || ('A' ≤ c && c ≤ 'Z') || ('a' ≤ c && c ≤ 'z') || c == '-' || c == '_'

structure Cursor where
  rest : List Char
  index : Nat
  line : Nat
  column : Nat

namespace Cursor

def ofText (text : List Char) : Cursor :=
  ⟨text, 0, 0, 0⟩

def peek (cursor : Cursor) : Option Char :=
  cursor.rest.head?

def peekAt (cursor : Cursor) (offset : Nat) : Option Char :=
  cursor.rest[offset]?

def startsWith (cursor : Cursor) (text : List Char) : Bool :=
  text.isPrefixOf cursor.rest

def next (cursor : Cursor) : Cursor :=
  match cursor.rest with
  | [] => cursor
  | c :: rest =>
      let ends := isBreak c && !(c == '\r' && rest.head? == some '\n')
      if ends then ⟨rest, cursor.index + 1, cursor.line + 1, 0⟩
      else if c == '\uFEFF' then ⟨rest, cursor.index + 1, cursor.line, cursor.column⟩
      else ⟨rest, cursor.index + 1, cursor.line, cursor.column + 1⟩

def forward : Nat → Cursor → Cursor
  | 0, cursor => cursor
  | count + 1, cursor => forward count cursor.next

/-- The longest run of characters of a class, and the cursor behind it. -/
def run (cursor : Cursor) (belongs : Char → Bool) : List Char × Cursor :=
  let taken := cursor.rest.takeWhile belongs
  (taken, cursor.forward taken.length)

def skip (cursor : Cursor) (belongs : Char → Bool) : Cursor :=
  (cursor.run belongs).2

def skipSpaces (cursor : Cursor) : Cursor :=
  cursor.skip (· == ' ')

def skipComment (cursor : Cursor) : Cursor :=
  if cursor.peek == some '#' then cursor.skip (!isBreak ·) else cursor

/-- Passes a line break and gives its normal form; gives nothing where there is none. -/
def lineBreak? (cursor : Cursor) : Option (Char × Cursor) :=
  match cursor.rest with
  | '\r' :: '\n' :: _ => some ('\n', cursor.forward 2)
  | c :: _ =>
      if c == '\u2028' || c == '\u2029' then some (c, cursor.next)
      else if isBreak c then some ('\n', cursor.next)
      else none
  | [] => none

def skipBreak (cursor : Cursor) : Cursor :=
  match cursor.lineBreak? with
  | some (_, after) => after
  | none => cursor

def atSeparator (cursor : Cursor) : Bool :=
  (cursor.startsWith ['-', '-', '-'] || cursor.startsWith ['.', '.', '.']) &&
    endsToken (cursor.peekAt 3)

/-- Passes spaces and a comment up to the end of the line, where nothing else may stand. -/
def endOfLine (cursor : Cursor) : Except Fault Cursor :=
  let after := cursor.skipSpaces.skipComment
  if endsLine after.peek then .ok after.skipBreak else .error .malformed

end Cursor

end FeatureFlags.Yaml
