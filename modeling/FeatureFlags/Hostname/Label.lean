import FeatureFlags.Hostname.Direction
import FeatureFlags.Hostname.Joining
import FeatureFlags.Hostname.Script
import FeatureFlags.Text.Composition

/-!
# Labels

A label is one part of a host name.  Its characters are composed, permitted where they stand and run
one way; hyphens and marks do not stand at its edges.
-/

set_option autoImplicit false

namespace FeatureFlags.Hostname.Label

def maxChecked : Nat := 254

/-- Whether a virama is the last of what precedes, in reverse. -/
def behindVirama (before : List Char) : Bool :=
  before.head?.any fun c => Text.combiningClass c.toNat == Text.viramaClass

/-- Whether a character of the other kind of digits occurs. -/
def hasDigits (first last : Nat) (label : List Char) : Bool :=
  label.any (Text.inRanges [(first, last)])

/-- Whether a character stands where it may, between what precedes, in reverse, and what follows. -/
def fitsContext (before : List Char) (c : Char) (after : List Char) : Bool :=
  let others := before ++ after
  if c == '\xB7' then before.head? == some 'l' && after.head? == some 'l'
  else if c == '\u0375' then after.head?.any isGreek
  else if c == '\u05F3' || c == '\u05F4' then before.head?.any isHebrew
  else if c == '\u30FB' then others.any fun other => other != c && isJapanese other
  else if Text.inRanges [(0x660, 0x669)] c then !hasDigits 0x6F0 0x6F9 others
  else !hasDigits 0x660 0x669 others

/-- What is wrong with a character between what precedes, in reverse, and what follows. -/
def characterFault? (before : List Char) (c : Char) (after : List Char) : Option Fault :=
  let position := before.length + 1
  let label := String.ofList (before.reverse ++ c :: after)
  if isPermitted c then none
  else if isJoiner c then
    if behindVirama before || (c == nonJoiner && joinsAcross before after) then none
    else some (.joiner c position label)
  else if isInContext c then
    if fitsContext before c after then none else some (.context c position label)
  else some (.character c position label)

def checkCharacters : (before : List Char) → List Char → Except Fault Unit
  | _, [] => .ok ()
  | before, c :: rest =>
      match characterFault? before c rest with
      | some fault => .error fault
      | none => checkCharacters (c :: before) rest

def check (label : List Char) : Except Fault Unit := do
  if label.isEmpty then throw .emptyLabel
  if maxChecked < label.length then throw .labelTooLong
  if !Text.isComposed label then throw .notComposed
  if (label.drop 2).take 2 == ['-', '-'] then throw .reservedHyphens
  if label.head? == some '-' || label.getLast? == some '-' then throw .edgeHyphen
  if label.head?.any Text.isMark then throw .leadingMark
  checkCharacters [] label
  Direction.check label

end FeatureFlags.Hostname.Label
