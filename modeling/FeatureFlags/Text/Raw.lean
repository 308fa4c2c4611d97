import FeatureFlags.Text.Quoted

/-!
# Texts with surrogates

An escape can put a surrogate into a text.  It is no character and no encoding writes it, so such a
broken text is kept as its code points.
-/

set_option autoImplicit false

namespace FeatureFlags.Text

def isSurrogate (point : Nat) : Bool :=
  0xD800 ≤ point && point ≤ 0xDFFF

/-- The character of a code point; a surrogate is shown as the replacement character. -/
def character (point : Nat) : Char :=
  if isSurrogate point then '\uFFFD' else Char.ofNat point

structure Broken where
  points : List Nat
  isBroken : points.any isSurrogate = true
  deriving DecidableEq, Repr

def Broken.shown (text : Broken) : List Char :=
  text.points.map character

inductive Raw where
  | whole (text : String)
  | broken (text : Broken)
  deriving DecidableEq, Repr

namespace Raw

def ofPoints (points : List Nat) : Raw :=
  if isBroken : points.any isSurrogate then .broken ⟨points, isBroken⟩
  else .whole (String.ofList (points.map Char.ofNat))

def toList : Raw → List Char
  | .whole text => text.toList
  | .broken text => text.shown

instance : CoeHead Raw String :=
  ⟨fun raw => String.ofList raw.toList⟩

end Raw

end FeatureFlags.Text
