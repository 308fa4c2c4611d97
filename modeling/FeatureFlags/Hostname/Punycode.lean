/-!
# Punycode

Writes a label with characters beyond ASCII in ASCII: first its ASCII characters, then for each
other character, from the least code point up, how far it is from the one before in code points and
places.  The distances are numerals of base 36 whose thresholds follow the sizes seen so far.
`decode?` reads such a label.
-/

set_option autoImplicit false

namespace FeatureFlags.Hostname.Punycode

def digit (value : Nat) : Char :=
  if value < 26 then Char.ofNat (97 + value) else Char.ofNat (22 + value)

def threshold (place bias : Nat) : Nat :=
  min 26 (max 1 (place - bias))

/-- A distance as digits, the least place first. -/
def digits (bias place distance : Nat) : List Char :=
  let least := threshold place bias
  if _small : distance < least then [digit distance]
  else
    digit (least + (distance - least) % (36 - least)) ::
      digits bias (place + 36) ((distance - least) / (36 - least))
termination_by distance
decreasing_by
  have positive : 1 ≤ threshold place bias := by unfold threshold; omega
  exact Nat.lt_of_le_of_lt (Nat.div_le_self _ _) (by omega)

/-- Scales a distance down for the next bias, counting the places that this takes. -/
def settle (places distance : Nat) : Nat :=
  if _large : 455 < distance then settle (places + 36) (distance / 35)
  else places + 36 * distance / (distance + 38)
termination_by distance
decreasing_by exact Nat.div_lt_self (by omega) (by omega)

def adapt (distance written : Nat) (first : Bool) : Nat :=
  let scaled := distance / (if first then 700 else 2)
  settle 0 (scaled + scaled / written)

structure State where
  output : List Char
  bias : Nat
  distance : Nat
  written : Nat
  first : Bool

/-- Passes one character of the label while the characters of one code point are written. -/
def pass (code : Nat) (state : State) (c : Char) : State :=
  if c.toNat < code then { state with distance := state.distance + 1 }
  else if c.toNat = code then
    ⟨state.output ++ digits state.bias 36 state.distance,
      adapt state.distance (state.written + 1) state.first, 0, state.written + 1, false⟩
  else state

/-- Writes the characters of the given code points, which increase from the one before. -/
def writeFrom (label : List Char) : (next : Nat) → List Nat → State → State
  | _, [], state => state
  | next, code :: rest, state =>
      let moved :=
        { state with distance := state.distance + (code - next) * (state.written + 1) }
      let passed := label.foldl (pass code) moved
      writeFrom label (code + 1) rest { passed with distance := passed.distance + 1 }

def encode (label : List Char) : List Char :=
  let basic := label.filter (·.toNat < 128)
  let codes := ((label.filter (128 ≤ ·.toNat)).map Char.toNat).mergeSort.eraseDups
  let start : State := ⟨basic, 72, 0, basic.length, true⟩
  let marked := if basic.isEmpty then start else { start with output := basic ++ ['-'] }
  (writeFrom label 128 codes marked).output

def digit? (c : Char) : Option Nat :=
  if c.isAlpha then some (c.toLower.toNat - 97)
  else if c.isDigit then some (c.toNat - 22)
  else none

def readDistance (bias : Nat) :
    (place weight value : Nat) → List Char → Option (Nat × List Char)
  | _, _, _, [] => none
  | place, weight, value, c :: rest =>
      match digit? c with
      | none => none
      | some digit =>
          let least := threshold place bias
          let next := value + digit * weight
          if digit < least then some (next, rest)
          else readDistance bias (place + 36) (weight * (36 - least)) next rest

theorem length_lt_of_readDistance {bias place weight value distance : Nat} {text rest : List Char}
    (read : readDistance bias place weight value text = some (distance, rest)) :
    rest.length < text.length := by
  induction text generalizing place weight value with
  | nil => simp [readDistance] at read
  | cons c tail inductionHypothesis =>
      unfold readDistance at read
      split at read
      · simp at read
      · dsimp only at read
        split at read
        · simp only [Option.some.injEq, Prod.mk.injEq] at read
          simp [← read.2]
        · have shorter := inductionHypothesis read
          simp only [List.length_cons]
          omega

/-- The character of a code point; the halves of surrogate pairs are none. -/
def character? (code : Nat) : Option Char :=
  if code.isValidChar then some (Char.ofNat code) else none

/-- Puts characters into a label, each at its distance from the place behind the one before. -/
def readFrom (bias code place : Nat) (label : List Char) (first : Bool) (text : List Char) :
    Option (List Char) :=
  if text.isEmpty then some label
  else
    match _read : readDistance bias 36 1 0 text with
    | none => none
    | some (distance, rest) =>
        let places := label.length + 1
        let next := code + (place + distance) / places
        let index := (place + distance) % places
        match character? next with
        | none => none
        | some c =>
            readFrom (adapt distance places first) next (index + 1) (label.insertIdx index c) false
              rest
termination_by text.length
decreasing_by exact length_lt_of_readDistance _read

/-- The label that a text writes; its ASCII characters stand before the last hyphen. -/
def decode? (text : List Char) : Option (List Char) :=
  let distances := (text.reverse.takeWhile (· != '-')).reverse
  let basic := text.take (text.length - distances.length - 1)
  readFrom 72 128 0 basic true distances

end FeatureFlags.Hostname.Punycode
