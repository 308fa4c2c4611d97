import FeatureFlags.Double.Numeral
import FeatureFlags.Proofs.Double.Rounding

/-!
# The decimal text of an integer

Read as a numeral, the text of an integer denotes the double nearest to it.  The text is a minus or
nothing, and digits; so it has no blanks to trim and no separators to drop, it is no name, and all
of it is the whole part of the mantissa.
-/

set_option autoImplicit false

namespace FeatureFlags

-- Powers are those of the core library, whatever algebra is imported beside this module.
attribute [local instance (high)] instPowNat

namespace Text

def digitValue (c : Char) : Nat :=
  c.toNat - '0'.toNat

theorem decimalDigit?_of_isDigit {c : Char} (digit : c.isDigit = true) :
    decimalDigit? c = some (digitValue c) := by
  obtain ⟨low, high⟩ := Char.isDigit_iff_toNat.mp digit
  rw [decimalDigit?, asciiDigit?, if_pos ⟨low, high⟩]
  rfl

theorem isBlank_of_isDigit {c : Char} (digit : c.isDigit = true) : isBlank c = false := by
  obtain ⟨low, high⟩ := Char.isDigit_iff_toNat.mp digit
  have code : 48 ≤ c.toNat ∧ c.toNat ≤ 57 := ⟨low, high⟩
  simp only [isBlank, isSpace, Bool.or_eq_false_iff, Bool.and_eq_false_iff, decide_eq_false_iff_not,
    beq_eq_false_iff_ne]
  omega

theorem trimBy_eq_self {drops : Char → Bool} {text : List Char}
    (keeps : ∀ c ∈ text, drops c = false) : trimBy drops text = text := by
  have whole : ∀ kept : List Char, (∀ c ∈ kept, drops c = false) → kept.dropWhile drops = kept := by
    intro kept all
    cases kept with
    | nil => rfl
    | cons first rest => rw [List.dropWhile_cons, if_neg (by simp [all first List.mem_cons_self])]
  rw [trimBy, whole text keeps, whole text.reverse fun c member => keeps c (by simpa using member),
    List.reverse_reverse]

theorem digitsValue_map (text : List Char) :
    digitsValue (text.map digitValue) = Nat.ofDigitChars 10 text 0 := by
  rw [digitsValue, Nat.ofDigitChars_eq_foldl, List.foldl_map]
  simp only [Nat.mul_comm, digitValue]

/-! ## The text of an integer -/

theorem toString_of_nonneg {value : Int} (nonnegative : 0 ≤ value) :
    (toString value).toList = Nat.toDigits 10 value.natAbs := by
  rw [Int.toString_eq_repr, Int.repr_eq_if, if_pos nonnegative, Nat.repr_eq_ofList_toDigits,
    String.toList_ofList]
  congr 1
  omega

theorem toString_of_neg {value : Int} (negative : value < 0) :
    (toString value).toList = '-' :: Nat.toDigits 10 value.natAbs := by
  have minus : "-".toList = ['-'] := by decide
  rw [Int.toString_eq_repr, Int.repr_eq_if, if_neg (Int.not_le.mpr negative), String.toList_append,
    Nat.repr_eq_ofList_toDigits, minus]
  have magnitude : (-value).toNat = value.natAbs := by omega
  rw [magnitude, String.toList_ofList, List.singleton_append]

theorem trim_toString (value : Int) : trim (toString value).toList = (toString value).toList := by
  have digits : ∀ c ∈ Nat.toDigits 10 value.natAbs, isBlank c = false := fun c member =>
    isBlank_of_isDigit (Nat.isDigit_of_mem_toDigits (by decide) (by decide) member)
  apply trimBy_eq_self
  by_cases negative : value < 0
  · rw [toString_of_neg negative]
    intro c member
    rcases List.mem_cons.mp member with rfl | digit
    · decide
    · exact digits c digit
  · rw [toString_of_nonneg (Int.not_lt.mp negative)]
    exact digits

end Text

namespace Double

open Text

theorem signs_of_isDigit {text : List Char} (all : ∀ c ∈ text, c.isDigit = true) :
    text.map NumeralSign.ofChar = (text.map digitValue).map NumeralSign.digit := by
  rw [List.map_map, List.map_inj_left]
  intro c member
  have apart : c ≠ '_' := by
    rintro rfl
    exact absurd (all '_' member) (by decide)
  rw [NumeralSign.ofChar, if_neg apart, decimalDigit?_of_isDigit (all c member)]
  rfl

theorem dropSeparators?_digits (afterDigit : Bool) (digits : List Nat) :
    dropSeparators? afterDigit (digits.map .digit) = some (digits.map .digit) := by
  induction digits generalizing afterDigit with
  | nil => cases afterDigit <;> rfl
  | cons digit digits inductionHypothesis =>
      rw [List.map_cons, dropSeparators?, inductionHypothesis, Option.map_some]

theorem takeDigits_digits (digits : List Nat) : takeDigits (digits.map .digit) = (digits, []) := by
  induction digits with
  | nil => rfl
  | cons digit digits inductionHypothesis =>
      rw [List.map_cons, takeDigits, inductionHypothesis]

/-- A number without a point and an exponent is all whole part. -/
theorem ofUnsigned?_digits (negative : Bool) {digits : List Nat} (present : digits ≠ []) :
    ofUnsigned? negative (digits.map .digit) =
      some (ofDecimal negative (digitsValue digits) 0) := by
  have unnamed : namedValue? negative (digits.map .digit) = none := by
    cases digits with
    | nil => exact absurd rfl present
    | cons digit digits => simp [namedValue?]
  have mantissa : takeMantissa (digits.map .digit) = (digits, [], []) := by
    rw [takeMantissa, takeDigits_digits]
  have filled : digits.isEmpty = false := by simpa using present
  rw [ofUnsigned?, unnamed, mantissa]
  simp [filled, exponent?]

theorem ofBareNumeral?_digits {text : List Char} (all : ∀ c ∈ text, c.isDigit = true)
    (present : text ≠ []) :
    ofBareNumeral? text = some (ofDecimal false (Nat.ofDigitChars 10 text 0) 0) := by
  have unsigned : takeSign ((text.map digitValue).map NumeralSign.digit) =
      (false, (text.map digitValue).map NumeralSign.digit) := by
    cases text with
    | nil => exact absurd rfl present
    | cons first rest => rfl
  rw [ofBareNumeral?, signs_of_isDigit all, dropSeparators?_digits]
  simp only [Option.bind_eq_bind, Option.bind_some, unsigned]
  rw [ofUnsigned?_digits false (by simpa using present), digitsValue_map]

theorem ofBareNumeral?_minus {text : List Char} (all : ∀ c ∈ text, c.isDigit = true)
    (present : text ≠ []) :
    ofBareNumeral? ('-' :: text) = some (ofDecimal true (Nat.ofDigitChars 10 text 0) 0) := by
  have minus : NumeralSign.ofChar '-' = .other '-' := by decide
  rw [ofBareNumeral?, List.map_cons, minus, signs_of_isDigit all, dropSeparators?,
    dropSeparators?_digits]
  simp only [Option.map_some, Option.bind_eq_bind, Option.bind_some, takeSign]
  rw [ofUnsigned?_digits true (by simpa using present), digitsValue_map]

theorem ofDecimal_whole (negative : Bool) {coefficient : Nat} (positive : coefficient ≠ 0) :
    ofDecimal negative coefficient 0 = ofRatio negative (coefficient * 2 ^ quantumBits) 1 := by
  have inRange : ¬decimalBound < 0 := by decide
  have notTiny : ¬(0 : Int) < -(decimalBound + coefficient.log2) := by
    have bound : decimalBound = 400 := rfl
    omega
  rw [ofDecimal, if_neg positive, if_neg inRange, if_neg notTiny, if_pos (Int.le_refl 0),
    Int.toNat_zero, Nat.pow_zero, Nat.mul_one]

theorem ofDecimal_natAbs (value : Int) :
    ofDecimal (decide (value < 0)) value.natAbs 0 = ofInt value := by
  by_cases zero : value = 0
  · subst zero
    rw [ofInt, Int.zero_mul]
    rfl
  · have sign : value * 2 ^ quantumBits < 0 ↔ value < 0 := by
      rw [← Int.not_le, ← Int.not_le, Int.mul_nonneg_iff_of_pos_right quanta_pos]
    rw [ofDecimal_whole _ (Int.natAbs_ne_zero.mpr zero), ofInt, ofUnits,
      if_neg (Int.mul_ne_zero zero quanta_pos.ne'), natAbs_quanta, decide_eq_decide.mpr sign]

theorem ofNumeral?_toString (value : Int) :
    ofNumeral? (toString value).toList = some (ofInt value) := by
  have digits : ∀ c ∈ Nat.toDigits 10 value.natAbs, c.isDigit = true := fun c =>
    Nat.isDigit_of_mem_toDigits (by decide) (by decide)
  rw [← ofDecimal_natAbs, ofNumeral?, trim_toString]
  by_cases negative : value < 0
  · rw [toString_of_neg negative, ofBareNumeral?_minus digits Nat.toDigits_ne_nil,
      Nat.ofDigitChars_ten_toDigits, decide_eq_true negative]
  · rw [toString_of_nonneg (Int.not_lt.mp negative),
      ofBareNumeral?_digits digits Nat.toDigits_ne_nil, Nat.ofDigitChars_ten_toDigits,
      decide_eq_false negative]

end Double

end FeatureFlags
