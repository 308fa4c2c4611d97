import FeatureFlags.Text.Digit

/-!
# UTF-8

Decoding with the position and reason of the first fault, and encoding.  A sequence is checked
byte by byte in the ranges of well-formed sequences, so overlong forms, surrogates and code points
beyond the last plane never arise, and a truncated sequence is told from a broken one.
-/

set_option autoImplicit false

namespace FeatureFlags.Text.Utf8

inductive Reason where
  | invalidStart
  | invalidContinuation
  | unexpectedEnd
  deriving DecidableEq, Repr

/-- Where a byte string stops being UTF-8: the sequence that fails starts with `byte` at `position`
and keeps well-formed for `length` bytes. -/
structure Fault where
  byte : UInt8
  position : Nat
  length : Nat
  reason : Reason
  deriving DecidableEq, Repr

def Reason.text : Reason → String
  | .invalidStart => "invalid start byte"
  | .invalidContinuation => "invalid continuation byte"
  | .unexpectedEnd => "unexpected end of data"

/-- One byte is named by its value, several by the positions of the first and the last. -/
def Fault.text (fault : Fault) : String :=
  let place :=
    if fault.length = 1 then
      "byte 0x" ++ String.ofList (hexDigits 2 fault.byte.toNat) ++ " in position " ++
        toString fault.position
    else
      "bytes in position " ++ toString fault.position ++ "-" ++
        toString (fault.position + fault.length - 1)
  "'utf-8' codec can't decode " ++ place ++ ": " ++ fault.reason.text

/-- The shape of a sequence: how many bytes follow the first one, the range of the second byte, and
the bits of the first byte that belong to the code point. -/
structure Lead where
  following : Nat
  low : Nat
  high : Nat
  bits : Nat

/-- What the first byte of a sequence announces. -/
def lead? (byte : UInt8) : Option Lead :=
  let code := byte.toNat
  if code < 0x80 then some ⟨0, 0, 0, code⟩
  else if code < 0xC2 then none
  else if code < 0xE0 then some ⟨1, 0x80, 0xBF, code - 0xC0⟩
  else if code = 0xE0 then some ⟨2, 0xA0, 0xBF, 0⟩
  else if code = 0xED then some ⟨2, 0x80, 0x9F, 0xD⟩
  else if code < 0xF0 then some ⟨2, 0x80, 0xBF, code - 0xE0⟩
  else if code = 0xF0 then some ⟨3, 0x90, 0xBF, 0⟩
  else if code < 0xF4 then some ⟨3, 0x80, 0xBF, code - 0xF0⟩
  else if code = 0xF4 then some ⟨3, 0x80, 0x8F, 4⟩
  else none

/-- Reads the bytes that follow the first one of a sequence; a failure reports how many bytes of the
sequence were still well-formed. -/
def continue? : (length following low high bits : Nat) → List UInt8 →
    Except (Nat × Reason) (Nat × List UInt8)
  | _, 0, _, _, bits, rest => .ok (bits, rest)
  | length, _ + 1, _, _, _, [] => .error (length, .unexpectedEnd)
  | length, following + 1, low, high, bits, byte :: rest =>
      if low ≤ byte.toNat ∧ byte.toNat ≤ high then
        continue? (length + 1) following 0x80 0xBF (bits * 64 + (byte.toNat - 0x80)) rest
      else
        .error (length, .invalidContinuation)

theorem continue?_length {length following low high bits code : Nat} {bytes rest : List UInt8}
    (read : continue? length following low high bits bytes = .ok (code, rest)) :
    rest.length ≤ bytes.length := by
  induction following generalizing length low high bits bytes with
  | zero =>
      cases read
      exact Nat.le_refl _
  | succ following inductionHypothesis =>
      cases bytes with
      | nil => cases read
      | cons byte tail =>
          unfold continue? at read
          split at read
          · exact Nat.le_succ_of_le (inductionHypothesis read)
          · cases read

def decodeFrom (position : Nat) (bytes : List UInt8) : Except Fault (List Char) :=
  match bytes with
  | [] => .ok []
  | byte :: following =>
      match lead? byte with
      | none => .error ⟨byte, position, 1, .invalidStart⟩
      | some lead =>
          match _read : continue? 1 lead.following lead.low lead.high lead.bits following with
          | .error (length, reason) => .error ⟨byte, position, length, reason⟩
          | .ok (code, rest) =>
              match decodeFrom (position + lead.following + 1) rest with
              | .error fault => .error fault
              | .ok text => .ok (Char.ofNat code :: text)
termination_by bytes.length
decreasing_by
  exact Nat.lt_succ_of_le (continue?_length _read)

def decode (bytes : List UInt8) : Except Fault (List Char) :=
  decodeFrom 0 bytes

def encodeChar (c : Char) : List UInt8 :=
  let code := c.toNat
  if code < 0x80 then [code.toUInt8]
  else if code < 0x800 then [(0xC0 + code / 64).toUInt8, (0x80 + code % 64).toUInt8]
  else if code < 0x10000 then
    [(0xE0 + code / 4096).toUInt8, (0x80 + code / 64 % 64).toUInt8, (0x80 + code % 64).toUInt8]
  else
    [(0xF0 + code / 262144).toUInt8, (0x80 + code / 4096 % 64).toUInt8,
      (0x80 + code / 64 % 64).toUInt8, (0x80 + code % 64).toUInt8]

def encode (text : List Char) : List UInt8 :=
  text.flatMap encodeChar

end FeatureFlags.Text.Utf8
