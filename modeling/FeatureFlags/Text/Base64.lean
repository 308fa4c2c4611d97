/-!
# Base64

Three bytes are written as four characters of a 64-letter alphabet, and a shorter last group is
padded with `=`.  Reading skips characters outside the alphabet and stops at the padding that
completes a group.
-/

set_option autoImplicit false

namespace FeatureFlags.Text.Base64

def alphabet : List Char :=
  "ABCDEFGHIJKLMNOPQRSTUVWXYZabcdefghijklmnopqrstuvwxyz0123456789+/".toList

def letter (value : Nat) : Char :=
  alphabet.getD value '='

def sextet? (c : Char) : Option Nat :=
  alphabet.findIdx? (· == c)

def encode : List UInt8 → List Char
  | a :: b :: c :: rest =>
      let group := a.toNat * 65536 + b.toNat * 256 + c.toNat
      letter (group / 262144) :: letter (group / 4096 % 64) :: letter (group / 64 % 64) ::
        letter (group % 64) :: encode rest
  | [a, b] =>
      let group := a.toNat * 256 + b.toNat
      [letter (group / 1024), letter (group / 16 % 64), letter (group % 16 * 4), '=']
  | [a] => [letter (a.toNat / 4), letter (a.toNat % 4 * 16), '=', '=']
  | [] => []

/-- The bytes of one group of letters; a single letter has too few bits for a byte. -/
def groupBytes : List Nat → List UInt8
  | [a, b] => [(a * 4 + b / 16).toUInt8]
  | [a, b, c] => [(a * 4 + b / 16).toUInt8, (b % 16 * 16 + c / 4).toUInt8]
  | [a, b, c, d] =>
      [(a * 4 + b / 16).toUInt8, (b % 16 * 16 + c / 4).toUInt8, (c % 4 * 64 + d).toUInt8]
  | _ => []

/-- Reads on with the letters of the open group and the padding that directly precedes. -/
def decodeFrom? (group : List Nat) (padding : Nat) : List Char → Option (List UInt8)
  | [] => if group.isEmpty then some [] else none
  | '=' :: rest =>
      if group.length < 2 then decodeFrom? group padding rest
      else if 4 ≤ group.length + padding + 1 then some (groupBytes group)
      else decodeFrom? group (padding + 1) rest
  | c :: rest =>
      match sextet? c with
      | none => decodeFrom? group padding rest
      | some value =>
          let grown := group ++ [value]
          if grown.length = 4 then (decodeFrom? [] 0 rest).map (groupBytes grown ++ ·)
          else decodeFrom? grown 0 rest

/-- The bytes that a text stands for; none if its last group is incomplete. -/
def decode? (text : List Char) : Option (List UInt8) :=
  decodeFrom? [] 0 text

end FeatureFlags.Text.Base64
