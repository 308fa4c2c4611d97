import FeatureFlags.Hostname.Fault
import FeatureFlags.Hostname.Permitted
import FeatureFlags.Text.Mark

/-!
# The direction of labels

A label with letters or digits of a script that runs from right to left has to run one way as a
whole: its first letter says which, no letter of the other way occurs, and it ends in a letter or a
digit, with or without marks.
-/

set_option autoImplicit false

namespace FeatureFlags.Hostname

inductive Direction where
  | leftToRight
  | rightToLeft
  | europeanDigit
  | arabicDigit
  | neutral
  /-- Runs like the character that it is a mark of. -/
  | mark
  deriving DecidableEq, Repr

namespace Direction

def rightToLeftRanges : List (Nat × Nat) :=
  [(0x590, 0x8FF), (0xFB1D, 0xFDFF), (0xFE70, 0xFEFF), (0x10800, 0x10FFF), (0x1E800, 0x1EFFF)]

def arabicDigits : List (Nat × Nat) :=
  [(0x660, 0x669), (0x10D30, 0x10D39)]

def europeanDigits : List (Nat × Nat) :=
  [(0x30, 0x39), (0x6F0, 0x6F9)]

/-- Characters without a direction; the hyphen and the joiners are among them. -/
def neutralRanges : List (Nat × Nat) :=
  [(0x2D, 0x2D), (0xB7, 0xB7), (0x2B9, 0x2BA), (0x2C6, 0x2CF), (0x2EC, 0x2EC), (0x375, 0x375),
   (0x200C, 0x200D), (0x2E2F, 0x2E2F), (0x30FB, 0x30FB), (0xA67F, 0xA67F), (0xA717, 0xA71F),
   (0xA788, 0xA788)]

/-- The nonspacing marks that have a direction of their own. -/
def directedMarks : List (Nat × Nat) :=
  [(0xCBF, 0xCBF), (0xCC6, 0xCC6), (0x11A07, 0x11A08), (0x11C3F, 0x11C3F)]

/-- The direction of a character that may occur in a label; a character that is not assigned has
none. -/
def ofChar? (c : Char) : Option Direction :=
  if Text.isNonspacingMark c && !Text.inRanges directedMarks c then some .mark
  else if Text.inRanges neutralRanges c then some .neutral
  else if !Text.isPrintable c then none
  else if Text.inRanges arabicDigits c then some .arabicDigit
  else if Text.inRanges europeanDigits c then some .europeanDigit
  else if Text.inRanges rightToLeftRanges c then some .rightToLeft
  else some .leftToRight

/-- The directions of a label from a position on. -/
def ofLabel (label : String) : (position : Nat) → List Char → Except Fault (List Direction)
  | _, [] => .ok []
  | position, c :: rest =>
      match ofChar? c with
      | none => .error (.unknownDirection position label)
      | some direction => (ofLabel label (position + 1) rest).map (direction :: ·)

/-- Checks what runs from right to left.  `digits` is the kind of digits so far, `ends` says whether
the label could end here. -/
def checkRightToLeft :
    (position : Nat) → (digits : Option Direction) → (ends : Bool) → List Direction →
      Except Fault Unit
  | _, _, ends, [] => if ends then .ok () else .error .lastDirection
  | position, digits, ends, direction :: rest =>
      match direction with
      | .leftToRight => .error (.direction position true)
      | .mark => checkRightToLeft (position + 1) digits ends rest
      | .neutral => checkRightToLeft (position + 1) digits false rest
      | .rightToLeft => checkRightToLeft (position + 1) digits true rest
      | .arabicDigit | .europeanDigit =>
          if digits.all (· == direction) then
            checkRightToLeft (position + 1) (some direction) true rest
          else .error .mixedDigits

def checkLeftToRight :
    (position : Nat) → (ends : Bool) → List Direction → Except Fault Unit
  | _, ends, [] => if ends then .ok () else .error .lastDirection
  | position, ends, direction :: rest =>
      match direction with
      | .rightToLeft | .arabicDigit => .error (.direction position false)
      | .mark => checkLeftToRight (position + 1) ends rest
      | .neutral => checkLeftToRight (position + 1) false rest
      | .leftToRight | .europeanDigit => checkLeftToRight (position + 1) true rest

def check (label : List Char) : Except Fault Unit := do
  let text := String.ofList label
  let directions ← ofLabel text 1 label
  if directions.any fun direction => direction == .rightToLeft || direction == .arabicDigit then
    match directions.head? with
    | some .rightToLeft => checkRightToLeft 1 none false directions
    | some .leftToRight => checkLeftToRight 1 false directions
    | _ => .error (.firstDirection text)
  else return ()

end Direction

end FeatureFlags.Hostname
