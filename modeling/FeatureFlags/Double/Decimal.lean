import FeatureFlags.Double.Basic

/-!
# Decimal numbers and doubles

A `Decimal` is `coefficient * 10 ^ exponent`.  `Double.ofDecimal` reads one with a single rounding.
`Double.shortest` goes back: among the decimals that read back to a magnitude it takes the fewest
digits, and of those the nearest.  It walks the grids of one digit, two digits and so on, and on
each grid only the two neighbours of the exact value can be nearest.
-/

set_option autoImplicit false

namespace FeatureFlags

-- Powers are those of the core library, whatever algebra is imported beside this module.
attribute [local instance (high)] instPowNat

structure Decimal where
  coefficient : Nat
  exponent : Int
  deriving DecidableEq, Repr

namespace Double

/-- Powers of ten past this exponent exceed every double, or vanish beside every double. -/
def decimalBound : Int := 400

def ofDecimal (negative : Bool) (coefficient : Nat) (exponent : Int) : Double :=
  if coefficient = 0 then zero negative
  else if decimalBound < exponent then .infinite negative
  else if exponent < -(decimalBound + coefficient.log2) then zero negative
  else if 0 ≤ exponent then
    ofRatio negative (coefficient * 10 ^ exponent.toNat * 2 ^ quantumBits) 1
  else
    ofRatio negative (coefficient * 2 ^ quantumBits) (10 ^ (-exponent).toNat)

/-- The magnitudes that round to one double, in quarters of a quantum. -/
structure Reach where
  low : Nat
  high : Nat
  /-- Whether the two ends themselves still round to it. -/
  closed : Bool

/-- A half gap on each side; the gap below a power of two is half as wide, and the ends belong to
an even significand. -/
def reach (units : Nat) : Reach :=
  let gap := 2 ^ droppedBits units
  let significand := units / gap
  let below := if significand = 2 ^ (precision - 1) ∧ 1 < gap then gap else 2 * gap
  ⟨4 * units - below, 4 * units + 2 * gap, significand % 2 == 0⟩

/-- Whether the point `multiple * 10 ^ exponent` reads back to the magnitude of this reach. -/
def Reach.contains (range : Reach) (multiple : Nat) (exponent : Int) : Bool :=
  let point := multiple * 4 * 2 ^ quantumBits * 10 ^ exponent.toNat
  let low := range.low * 10 ^ (-exponent).toNat
  let high := range.high * 10 ^ (-exponent).toNat
  if range.closed then decide (low ≤ point ∧ point ≤ high) else decide (low < point ∧ point < high)

/-- The point of the grid `10 ^ exponent` that reads back to the magnitude: of its two neighbours
the nearer one that is in reach, an exact tie going to the even multiple. -/
def gridPoint? (units : Nat) (exponent : Int) : Option Nat :=
  let numerator := units * 10 ^ (-exponent).toNat
  let denominator := 2 ^ quantumBits * 10 ^ exponent.toNat
  let floor := numerator / denominator
  let range := reach units
  match range.contains floor exponent, range.contains (floor + 1) exponent with
  | true, true => some (roundHalfEven numerator denominator)
  | true, false => some floor
  | false, true => some (floor + 1)
  | false, false => none

/-- The exponent of the leading decimal digit, found from the binary one and corrected upwards. -/
def leadingExponent (units : Nat) : Int :=
  let estimate : Int := Int.fdiv (((units.log2 : Int) - quantumBits) * 30103) 100000 - 1
  let reaches (exponent : Int) : Bool :=
    decide (2 ^ quantumBits * 10 ^ exponent.toNat ≤ units * 10 ^ (-exponent).toNat)
  if reaches (estimate + 2) then estimate + 2
  else if reaches (estimate + 1) then estimate + 1
  else estimate

/-- Moves trailing zeros of a coefficient into the exponent. -/
def stripZeros : Nat → Decimal → Decimal
  | 0, decimal => decimal
  | steps + 1, ⟨coefficient, exponent⟩ =>
      if coefficient % 10 = 0 then stripZeros steps ⟨coefficient / 10, exponent + 1⟩
      else ⟨coefficient, exponent⟩

def shortestFrom (units : Nat) (leading : Int) : (fuel digits : Nat) → Decimal
  | 0, _ => ⟨0, 0⟩
  | fuel + 1, digits =>
      let exponent := leading + 1 - (digits : Int)
      match gridPoint? units exponent with
      | some multiple => stripZeros (digits + 1) ⟨multiple, exponent⟩
      | none => shortestFrom units leading fuel (digits + 1)

/-- The shortest decimal that reads back to a positive magnitude; seventeen digits always do. -/
def shortest (units : Nat) : Decimal :=
  shortestFrom units (leadingExponent units) 17 1

end Double

end FeatureFlags
