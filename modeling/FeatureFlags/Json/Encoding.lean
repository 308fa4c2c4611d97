import FeatureFlags.Text.Raw
import FeatureFlags.Text.Utf8

/-!
# The characters of a JSON text

A JSON text is UTF-8, UTF-16 or UTF-32, told by its byte-order mark or else by where its first bytes
are zero.  A surrogate without its partner is read as the replacement character.
-/

set_option autoImplicit false

namespace FeatureFlags.Json

inductive Encoding where
  | utf8
  | utf16 (bigEndian : Bool)
  | utf32 (bigEndian : Bool)
  deriving DecidableEq, Repr

/-- The encoding that a byte-order mark announces, and what follows the mark. -/
def marked? : List UInt8 → Option (Encoding × List UInt8)
  | 0x00 :: 0x00 :: 0xFE :: 0xFF :: rest => some (.utf32 true, rest)
  | 0xFF :: 0xFE :: 0x00 :: 0x00 :: rest => some (.utf32 false, rest)
  | 0xFE :: 0xFF :: rest => some (.utf16 true, rest)
  | 0xFF :: 0xFE :: rest => some (.utf16 false, rest)
  | 0xEF :: 0xBB :: 0xBF :: rest => some (.utf8, rest)
  | _ => none

/-- The encoding of bytes without a mark: the first character is ASCII, and no text starts with the
character zero. -/
def unmarked : List UInt8 → Encoding
  | a :: b :: c :: d :: _ =>
      if a = 0 then (if b = 0 then .utf32 true else .utf16 true)
      else if b = 0 then (if c = 0 ∧ d = 0 then .utf32 false else .utf16 false)
      else .utf8
  | [a, b] => if a = 0 then .utf16 true else if b = 0 then .utf16 false else .utf8
  | _ => .utf8

def isHighSurrogate (unit : Nat) : Bool :=
  0xD800 ≤ unit && unit ≤ 0xDBFF

def isLowSurrogate (unit : Nat) : Bool :=
  0xDC00 ≤ unit && unit ≤ 0xDFFF

def joinPairs : List Nat → List Char
  | high :: low :: rest =>
      if isHighSurrogate high && isLowSurrogate low then
        Char.ofNat (0x10000 + (high - 0xD800) * 0x400 + (low - 0xDC00)) :: joinPairs rest
      else Text.character high :: joinPairs (low :: rest)
  | [unit] => [Text.character unit]
  | [] => []

/-- The number that bytes make, the most significant one first or last. -/
def unit (bigEndian : Bool) (bytes : List UInt8) : Nat :=
  (if bigEndian then bytes else bytes.reverse).foldl (fun value byte => value * 256 + byte.toNat) 0

def units16? (bigEndian : Bool) : List UInt8 → Option (List Nat)
  | a :: b :: rest => (units16? bigEndian rest).map (unit bigEndian [a, b] :: ·)
  | [_] => none
  | [] => some []

def units32? (bigEndian : Bool) : List UInt8 → Option (List Nat)
  | a :: b :: c :: d :: rest =>
      let code := unit bigEndian [a, b, c, d]
      if 0x110000 ≤ code then none else (units32? bigEndian rest).map (code :: ·)
  | [] => some []
  | _ => none

/-- Replaces surrogates that are written as three bytes each. -/
def replaceSurrogates : List UInt8 → List UInt8
  | 0xED :: b :: c :: rest =>
      if 0xA0 ≤ b ∧ b ≤ 0xBF ∧ 0x80 ≤ c ∧ c ≤ 0xBF then
        0xEF :: 0xBF :: 0xBD :: replaceSurrogates rest
      else 0xED :: replaceSurrogates (b :: c :: rest)
  | byte :: rest => byte :: replaceSurrogates rest
  | [] => []

def characters? (bytes : List UInt8) : Option (List Char) :=
  let (encoding, content) := (marked? bytes).getD (unmarked bytes, bytes)
  match encoding with
  | .utf8 => (Text.Utf8.decode (replaceSurrogates content)).toOption
  | .utf16 bigEndian => (units16? bigEndian content).map joinPairs
  | .utf32 bigEndian => (units32? bigEndian content).map (·.map Text.character)

end FeatureFlags.Json
