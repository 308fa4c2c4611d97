import FeatureFlags.Proofs.Double.Numeral
import FeatureFlags.Settings.Reading

/-!
# Numerals of settings

`Spells` is the grammar of the numerals that a setting may be given as, with the integer that each
of them denotes.  The reader strips a numeral layer by layer; `readNumeral_of_spells` says that what
it is left with is that integer, and that only a numeral longer than the limit may be refused.
-/

set_option autoImplicit false

namespace FeatureFlags.Settings

open Text

/-! ## The grammar -/

/-- ASCII digits; a single separator may stand between two of them. -/
inductive Digits : List Char → List Nat → Prop where
  | last {c : Char} {digit : Nat} (read : asciiDigit? c = some digit) : Digits [c] [digit]
  | next {c : Char} {digit : Nat} {text : List Char} {digits : List Nat}
      (read : asciiDigit? c = some digit) (rest : Digits text digits) :
      Digits (c :: text) (digit :: digits)
  | separated {c : Char} {digit : Nat} {text : List Char} {digits : List Nat}
      (read : asciiDigit? c = some digit) (rest : Digits text digits) :
      Digits (c :: '_' :: text) (digit :: digits)

inductive Sign : List Char → Bool → Prop where
  | none : Sign [] false
  | plus : Sign ['+'] false
  | minus : Sign ['-'] true

inductive Fraction : List Char → Prop where
  | none : Fraction []
  | zeros (more : Nat) : Fraction ('.' :: '0' :: List.replicate more '0')

def signed (negative : Bool) (magnitude : Nat) : Int :=
  if negative then -magnitude else magnitude

/-- A numeral among blanks, and the integer that it denotes. -/
inductive Spells : List Char → Int → Prop where
  | intro {before sign body fraction after : List Char} {negative : Bool} {digits : List Nat}
      (leads : ∀ c ∈ before, isSpace c = true) (hasSign : Sign sign negative)
      (hasDigits : Digits body digits) (hasFraction : Fraction fraction)
      (trails : ∀ c ∈ after, isSpace c = true) :
      Spells (before ++ (sign ++ (body ++ fraction)) ++ after)
        (signed negative (digitsValue digits))

/-! ## Digits -/

theorem asciiDigit?_eq_some_iff {c : Char} {digit : Nat} :
    asciiDigit? c = some digit ↔ (48 ≤ c.toNat ∧ c.toNat ≤ 57) ∧ digit = c.toNat - 48 := by
  unfold asciiDigit?
  split
  · next inside => simp [inside, eq_comm]
  · next outside => simp [outside]

theorem asciiDigit?_of_isSpace {c : Char} (blank : isSpace c = true) : asciiDigit? c = none := by
  cases read : asciiDigit? c with
  | none => rfl
  | some digit =>
      have inside := (asciiDigit?_eq_some_iff.mp read).1
      simp only [isSpace, Bool.or_eq_true, Bool.and_eq_true, decide_eq_true_eq, beq_iff_eq] at blank
      omega

theorem ne_of_asciiDigit? {c other : Char} {digit : Nat} (read : asciiDigit? c = some digit)
    (noDigit : asciiDigit? other = none) : c ≠ other := by
  rintro rfl
  cases read.symm.trans noDigit

theorem isLeadingDigit_or_zero {c : Char} {digit : Nat} (read : asciiDigit? c = some digit) :
    isLeadingDigit c = true ∨ c = '0' ∧ digit = 0 := by
  obtain ⟨⟨low, high⟩, rfl⟩ := asciiDigit?_eq_some_iff.mp read
  by_cases zero : c.toNat = 48
  · exact .inr ⟨Char.toNat_inj.mp zero, by omega⟩
  · refine .inl ?_
    have above : 49 ≤ c.toNat := by omega
    simp only [isLeadingDigit, Bool.and_eq_true, decide_eq_true_eq]
    exact ⟨above, high⟩

theorem separatorsFit_cons {c : Char} (noSeparator : c ≠ '_') (rest : List Char) :
    separatorsFit (c :: rest) = separatorsFit rest := by
  rw [separatorsFit]
  · exact fun same _ => noSeparator same
  · exact fun _ same _ => noSeparator same

theorem separatorsFit_separator {c : Char} (noSeparator : c ≠ '_') (rest : List Char) :
    separatorsFit ('_' :: c :: rest) = separatorsFit (c :: rest) := by
  rw [separatorsFit]
  · exact nofun
  · intro more _ same
    exact noSeparator (List.cons.inj same).1

theorem dropLeading?_zero (rest : List Char) :
    dropLeading? ('0' :: rest) =
      match rest.dropWhile fun c => c == '0' || c == '_' with
      | [] => some [rest.getLast?.getD '0']
      | c :: more => if isLeadingDigit c || c == '-' then some (c :: more) else none := by
  unfold dropLeading?
  rfl

theorem dropLeading?_cons {c : Char} (noZero : c ≠ '0') (rest : List Char) :
    dropLeading? (c :: rest) =
      if isLeadingDigit c || c == '-' then some (c :: rest) else none := by
  rw [dropLeading?]
  exact noZero

namespace Digits

variable {text : List Char} {digits : List Nat}

theorem filterMap (isDigits : Digits text digits) : text.filterMap asciiDigit? = digits := by
  induction isDigits with
  | last read => rw [List.filterMap_cons_some read, List.filterMap_nil]
  | next read rest inductionHypothesis => rw [List.filterMap_cons_some read, inductionHypothesis]
  | separated read rest inductionHypothesis =>
      rw [List.filterMap_cons_some read, List.filterMap_cons_none (by decide), inductionHypothesis]

theorem exists_cons (isDigits : Digits text digits) :
    ∃ c digit rest, text = c :: rest ∧ asciiDigit? c = some digit := by
  cases isDigits with
  | last read | next read | separated read => exact ⟨_, _, _, rfl, read⟩

theorem digit_or_separator (isDigits : Digits text digits) :
    ∀ c ∈ text, (asciiDigit? c).isSome = true ∨ c = '_' := by
  induction isDigits with
  | last read => simp [read]
  | next read rest inductionHypothesis =>
      intro c member
      rcases List.mem_cons.mp member with rfl | member
      · exact .inl (Option.isSome_of_eq_some read)
      · exact inductionHypothesis c member
  | separated read rest inductionHypothesis =>
      intro c member
      rcases List.mem_cons.mp member with rfl | member
      · exact .inl (Option.isSome_of_eq_some read)
      · rcases List.mem_cons.mp member with rfl | member
        · exact .inr rfl
        · exact inductionHypothesis c member

theorem not_mem (isDigits : Digits text digits) {c : Char} (noDigit : asciiDigit? c = none)
    (noSeparator : c ≠ '_') : c ∉ text := by
  intro member
  rcases isDigits.digit_or_separator c member with digit | separator
  · rw [noDigit] at digit
    cases digit
  · exact noSeparator separator

theorem separatorsFit (isDigits : Digits text digits) : separatorsFit text = true := by
  induction isDigits with
  | last read =>
      rw [separatorsFit_cons (ne_of_asciiDigit? read (by decide))]
      rfl
  | next read rest inductionHypothesis =>
      rw [separatorsFit_cons (ne_of_asciiDigit? read (by decide)), inductionHypothesis]
  | separated read rest inductionHypothesis =>
      obtain ⟨c, digit, more, rfl, first⟩ := rest.exists_cons
      rw [separatorsFit_cons (ne_of_asciiDigit? read (by decide)),
        separatorsFit_separator (ne_of_asciiDigit? first (by decide)), inductionHypothesis]

theorem kept_of_leading {c : Char} {digit : Nat} {rest : List Char}
    (read : asciiDigit? c = some digit) (leading : isLeadingDigit c = true)
    (isDigits : Digits (c :: rest) digits) :
    ∃ kept left, ((c :: rest).dropWhile fun c => c == '0' || c == '_') = kept ∧
      Digits kept left ∧ kept.head?.any isLeadingDigit = true ∧
        digitsValue left = digitsValue digits := by
  have noZero : c ≠ '0' := by
    rintro rfl
    cases leading
  have noSeparator : c ≠ '_' := ne_of_asciiDigit? read (by decide)
  refine ⟨c :: rest, digits, ?_, isDigits, leading, rfl⟩
  rw [List.dropWhile_cons, if_neg]
  simp [noZero, noSeparator]

/-- What the leading zeros and separators of a numeral leave: nothing, or a numeral of the same
value. -/
theorem dropWhile_zeros (isDigits : Digits text digits) :
    (text.dropWhile fun c => c == '0' || c == '_') = [] ∧ text.getLast? = some '0' ∧
        digitsValue digits = 0 ∨
      ∃ kept left, (text.dropWhile fun c => c == '0' || c == '_') = kept ∧ Digits kept left ∧
        kept.head?.any isLeadingDigit = true ∧ digitsValue left = digitsValue digits := by
  induction isDigits with
  | last read =>
      rcases isLeadingDigit_or_zero read with leading | ⟨rfl, rfl⟩
      · exact .inr (kept_of_leading read leading (.last read))
      · exact .inl ⟨rfl, rfl, rfl⟩
  | next read rest inductionHypothesis =>
      rcases isLeadingDigit_or_zero read with leading | ⟨rfl, rfl⟩
      · exact .inr (kept_of_leading read leading (.next read rest))
      · obtain ⟨c, digit, more, rfl, first⟩ := rest.exists_cons
        rw [List.getLast?_cons_cons]
        exact inductionHypothesis
  | separated read rest inductionHypothesis =>
      rcases isLeadingDigit_or_zero read with leading | ⟨rfl, rfl⟩
      · exact .inr (kept_of_leading read leading (.separated read rest))
      · obtain ⟨c, digit, more, rfl, first⟩ := rest.exists_cons
        rw [List.getLast?_cons_cons, List.getLast?_cons_cons]
        exact inductionHypothesis

theorem dropLeading? (isDigits : Digits text digits) :
    ∃ kept left, dropLeading? text = some kept ∧ Digits kept left ∧
      (kept = ['0'] ∨ kept.head?.any isLeadingDigit = true) ∧
        digitsValue left = digitsValue digits ∧ kept.length ≤ text.length := by
  obtain ⟨c, digit, rest, rfl, read⟩ := isDigits.exists_cons
  rcases isLeadingDigit_or_zero read with leading | ⟨rfl, rfl⟩
  · have noZero : c ≠ '0' := by
      rintro rfl
      cases leading
    refine ⟨c :: rest, digits, ?_, isDigits, .inr leading, rfl, Nat.le_refl _⟩
    rw [dropLeading?_cons noZero, leading, Bool.true_or, if_pos rfl]
  · rcases isDigits.dropWhile_zeros with
      ⟨nothing, last, zero⟩ | ⟨kept, left, stays, isDigits, leads, same⟩
    · refine ⟨['0'], [0], ?_, .last rfl, .inl rfl, zero.symm, Nat.succ_le_succ (Nat.zero_le _)⟩
      have nothing : (rest.dropWhile fun c => c == '0' || c == '_') = [] := nothing
      rw [dropLeading?_zero, nothing]
      cases rest with
      | nil => rfl
      | cons other more =>
          rw [List.getLast?_cons_cons] at last
          rw [last]
          rfl
    · obtain ⟨c, digit, more, rfl, first⟩ := isDigits.exists_cons
      have stays : (rest.dropWhile fun c => c == '0' || c == '_') = c :: more := stays
      have shorter : (c :: more).length ≤ rest.length := by
        rw [← stays]
        exact List.length_dropWhile_le _ _
      refine ⟨c :: more, left, ?_, isDigits, .inr leads, same, Nat.le_succ_of_le shorter⟩
      have leads : isLeadingDigit c = true := leads
      rw [dropLeading?_zero, stays]
      simp only [leads, Bool.true_or, if_true]

/-! Without separators, the digits are left. -/

theorem digits_of_filter (isDigits : Digits text digits) :
    ∀ c ∈ text.filter (· != '_'), (asciiDigit? c).isSome = true := by
  intro c member
  obtain ⟨member, noSeparator⟩ := List.mem_filter.mp member
  rcases isDigits.digit_or_separator c member with digit | rfl
  · exact digit
  · cases noSeparator

theorem filterMap_filter (isDigits : Digits text digits) :
    (text.filter (· != '_')).filterMap asciiDigit? = digits := by
  have separator : asciiDigit? '_' = none := by decide
  rw [← isDigits.filterMap, List.filterMap_filter]
  refine congrArg (List.filterMap · text) (funext fun c => ?_)
  by_cases here : c = '_'
  · rw [here, separator, ite_self]
  · rw [if_pos (bne_iff_ne.mpr here)]

theorem canonical_filter (isDigits : Digits text digits)
    (canonical : text = ['0'] ∨ text.head?.any isLeadingDigit = true) :
    text.filter (· != '_') = ['0'] ∨
      (text.filter (· != '_')).head?.any isLeadingDigit = true := by
  rcases canonical with rfl | leads
  · exact .inl rfl
  · obtain ⟨c, digit, rest, rfl, read⟩ := isDigits.exists_cons
    have kept : c ≠ '_' := ne_of_asciiDigit? read (by decide)
    rw [List.filter_cons_of_pos (by simpa using kept)]
    exact .inr leads

end Digits

/-! ## Layer by layer -/

theorem trimBy_surrounded {drops : Char → Bool} {before middle after : List Char}
    (leads : ∀ c ∈ before, drops c = true) (keeps : ∀ c ∈ middle, drops c = false)
    (trails : ∀ c ∈ after, drops c = true) (present : middle ≠ []) :
    trimBy drops (before ++ middle ++ after) = middle := by
  have stops : ∀ {kept : List Char} (rest : List Char), kept ≠ [] →
      (∀ c ∈ kept, drops c = false) → (kept ++ rest).dropWhile drops = kept ++ rest := by
    intro kept rest present keeps
    cases kept with
    | nil => exact absurd rfl present
    | cons c more =>
        rw [List.cons_append, List.dropWhile_cons, keeps c List.mem_cons_self,
          if_neg Bool.false_ne_true]
  rw [trimBy, List.append_assoc, List.dropWhile_append_of_pos leads, stops after present keeps,
    List.reverse_append,
    List.dropWhile_append_of_pos fun c member => trails c (List.mem_reverse.mp member),
    ← List.append_nil middle.reverse,
    stops [] (by simpa using present) fun c member => keeps c (List.mem_reverse.mp member),
    List.append_nil, List.reverse_reverse]

theorem dropFraction_append {body fraction : List Char} {digits : List Nat}
    (isDigits : Digits body digits) (isFraction : Fraction fraction) :
    dropFraction (body ++ fraction) = body := by
  have noPoint : ∀ c ∈ body, (c != '.') = true := by
    intro c member
    rw [bne_iff_ne]
    rintro rfl
    exact isDigits.not_mem (by decide) (by decide) member
  rw [dropFraction, List.takeWhile_append_of_pos noPoint, List.dropWhile_append_of_pos noPoint]
  cases isFraction with
  | none => simp
  | zeros more => simp

def minus (negative : Bool) : List Char :=
  if negative then ['-'] else []

variable {body : List Char} {digits : List Nat}

theorem dropSeparators_minus (isDigits : Digits body digits) (negative : Bool) :
    dropSeparators (minus negative ++ body) = minus negative ++ body.filter (· != '_') := by
  obtain ⟨c, digit, rest, rfl, read⟩ := isDigits.exists_cons
  have apart : c ≠ '_' := ne_of_asciiDigit? read (by decide)
  have fits := isDigits.separatorsFit
  cases negative with
  | false => simp [dropSeparators, minus, fits, apart]
  | true =>
      have fits : separatorsFit ('-' :: c :: rest) = true := by
        rw [separatorsFit_cons (by decide), fits]
      simp [dropSeparators, minus, fits]

theorem isSpace_eq_false {sign fraction : List Char} {negative : Bool} (isSign : Sign sign negative)
    (isDigits : Digits body digits) (isFraction : Fraction fraction) :
    ∀ c ∈ sign ++ (body ++ fraction), isSpace c = false := by
  intro c member
  rcases List.mem_append.mp member with member | member
  · cases isSign with
    | none => cases member
    | plus | minus =>
        obtain rfl := List.mem_singleton.mp member
        decide
  · rcases List.mem_append.mp member with member | member
    · rcases isDigits.digit_or_separator c member with digit | rfl
      · rw [Bool.eq_false_iff]
        intro blank
        rw [asciiDigit?_of_isSpace blank] at digit
        cases digit
      · decide
    · cases isFraction with
      | none => cases member
      | zeros more =>
          rcases List.mem_cons.mp member with rfl | member
          · decide
          · rcases List.mem_cons.mp member with rfl | member
            · decide
            · obtain rfl := List.eq_of_mem_replicate member
              decide

theorem bare?_eq {before sign fraction after : List Char} {negative : Bool}
    (leads : ∀ c ∈ before, isSpace c = true) (isSign : Sign sign negative)
    (isDigits : Digits body digits) (isFraction : Fraction fraction)
    (trails : ∀ c ∈ after, isSpace c = true) :
    bare? (before ++ (sign ++ (body ++ fraction)) ++ after) =
      (dropLeading? body).map fun kept => dropSeparators (minus negative ++ kept) := by
  obtain ⟨c, digit, rest, same, read⟩ := isDigits.exists_cons
  have present : sign ++ (body ++ fraction) ≠ [] := by simp [same]
  have noMinus : c ≠ '-' := ne_of_asciiDigit? read (by decide)
  have noPlus : c ≠ '+' := ne_of_asciiDigit? read (by decide)
  have dropped := dropFraction_append isDigits isFraction
  rw [bare?, trimBy_surrounded leads (isSpace_eq_false isSign isDigits isFraction) trails present]
  rw [same, List.cons_append] at dropped
  cases isSign with
  | none =>
      rw [List.nil_append, same, List.cons_append]
      split
      · next here => exact absurd (List.cons.inj here).1 noPlus
      · next here => exact absurd (List.cons.inj here).1 noPlus
      · next here => exact absurd (List.cons.inj here).1 noMinus
      · rw [dropped]
        rfl
  | plus =>
      rw [same, List.cons_append, List.nil_append, List.cons_append]
      split
      · next here =>
          cases here
          exact absurd rfl noMinus
      · next here =>
          cases here
          rw [dropped]
          rfl
      · next here => cases here
      · next noPlus _ => exact absurd rfl (noPlus _)
  | minus =>
      rw [same, List.cons_append, List.nil_append, List.cons_append]
      split
      · next here => cases here
      · next here => cases here
      · next here =>
          cases here
          rw [dropped, Option.map_map]
          rfl
      · next noMinus => exact absurd rfl (noMinus _)

/-! ## The integer -/

variable {text : List Char} {negative : Bool} {value : Int}

theorem integer?_minus_eq_some_iff (plain : negative = false → ∀ rest, text ≠ '-' :: rest) :
    integer? (minus negative ++ text) = some value ↔
      ((text = ['0'] ∨ text.head?.any isLeadingDigit = true) ∧
        (∀ c ∈ text, (asciiDigit? c).isSome = true) ∧
          (minus negative ++ text).length ≤ maxLength) ∧
        signed negative (digitsValue (text.filterMap asciiDigit?)) = value := by
  have read : integer? (minus negative ++ text) =
      if (text == ['0'] || text.head?.any isLeadingDigit) &&
          (text.filterMap asciiDigit?).length == text.length &&
            (minus negative ++ text).length ≤ maxLength then
        some (signed negative (digitsValue (text.filterMap asciiDigit?)))
      else none := by
    cases negative with
    | true => rfl
    | false =>
        change integer? text = _
        rw [integer?]
        · rfl
        · exact fun rest same => plain rfl rest same
  rw [read, ← List.filterMap_length_eq_length]
  simp only [Option.ite_none_right_eq_some, Bool.and_eq_true, Bool.or_eq_true, beq_iff_eq,
    decide_eq_true_eq, Option.some.injEq, and_assoc]

theorem exists_minus (text : List Char) : ∃ negative unsigned, text = minus negative ++ unsigned ∧
    (negative = false → ∀ rest, unsigned ≠ '-' :: rest) := by
  by_cases negative : ∃ rest, text = '-' :: rest
  · obtain ⟨rest, rfl⟩ := negative
    exact ⟨true, rest, rfl, nofun⟩
  · exact ⟨false, text, rfl, fun _ => not_exists.mp negative⟩

theorem isOversized_of_short (short : text.length ≤ maxLength) : isOversized text = false := by
  rw [isOversized, Bool.and_eq_false_iff]
  refine .inr (decide_eq_false ?_)
  have within : ∀ unsigned : List Char, unsigned.length ≤ text.length →
      ¬maxLength < text.length - unsigned.length +
        (unsigned.takeWhile fun c => (asciiDigit? c).isSome).length := by
    intro unsigned shorter
    have leads : (unsigned.takeWhile fun c => (asciiDigit? c).isSome).length ≤ unsigned.length :=
      (List.takeWhile_prefix _).length_le
    omega
  split
  · exact within _ (by simp)
  · exact within _ (Nat.le_refl _)

/-- A text that is read as it stands is read for what it spells. -/
theorem eq_of_integer?_of_spells {other : Int} (spells : Spells text value)
    (read : integer? text = some other) : other = value := by
  obtain ⟨opposite, unsigned, same, plain⟩ := exists_minus text
  rw [same, integer?_minus_eq_some_iff plain] at read
  obtain ⟨⟨-, all, -⟩, rfl⟩ := read
  have bare : ∀ c ∈ text, c = '-' ∨ (asciiDigit? c).isSome = true := by
    rw [same]
    intro c member
    rcases List.mem_append.mp member with member | member
    · cases opposite with
      | false => cases member
      | true => exact .inl (List.mem_singleton.mp member)
    · exact .inr (all c member)
  have noBlank : ∀ c ∈ text, ¬isSpace c = true := by
    intro c member blank
    rcases bare c member with rfl | digit
    · cases blank
    · rw [asciiDigit?_of_isSpace blank] at digit
      cases digit
  cases spells with
  | @intro before sign body fraction after negative digits leads isSign isDigits isFraction
      trails =>
      obtain rfl : before = [] := List.eq_nil_iff_forall_not_mem.mpr fun c member =>
        noBlank c (by simp [member]) (leads c member)
      obtain rfl : after = [] := List.eq_nil_iff_forall_not_mem.mpr fun c member =>
        noBlank c (by simp [member]) (trails c member)
      obtain rfl : fraction = [] := by
        cases isFraction with
        | none => rfl
        | zeros more => exact absurd (bare '.' (by simp)) (by decide)
      obtain rfl : sign = minus negative := by
        cases isSign with
        | none | minus => rfl
        | plus => exact absurd (bare '+' (by simp)) (by decide)
      rw [List.nil_append, List.append_nil, List.append_nil] at same
      obtain ⟨c, digit, rest, rfl, first⟩ := isDigits.exists_cons
      have noMinus : c ≠ '-' := ne_of_asciiDigit? first (by decide)
      have opposites : opposite = negative ∧ unsigned = c :: rest := by
        cases opposite <;> cases negative
        · exact ⟨rfl, same.symm⟩
        · exact absurd same.symm (plain rfl _)
        · exact absurd (List.cons.inj same).1 noMinus
        · exact ⟨rfl, (List.cons.inj same).2.symm⟩
      obtain ⟨rfl, rfl⟩ := opposites
      rw [isDigits.filterMap]

/-- A numeral stripped of what surrounds its digits is read for what it spells, if it is short
enough then. -/
theorem bind_bare?_of_spells (spells : Spells text value) :
    ∃ kept : List Char, kept.length ≤ text.length ∧
      (bare? text).bind integer? = if kept.length ≤ maxLength then some value else none := by
  cases spells with
  | @intro before sign body fraction after negative digits leads isSign isDigits isFraction
      trails =>
      obtain ⟨kept, left, dropped, isKept, canonical, same, shorter⟩ := isDigits.dropLeading?
      refine ⟨minus negative ++ kept.filter (· != '_'), ?_, ?_⟩
      · have filtered := List.length_filter_le (· != '_') kept
        have signLength : (minus negative).length ≤ sign.length := by
          cases isSign <;> decide
        simp only [List.length_append]
        omega
      · rw [bare?_eq leads isSign isDigits isFraction trails, dropped, Option.map_some,
          Option.bind_some, dropSeparators_minus isKept]
        have all := isKept.digits_of_filter
        have plain : negative = false → ∀ rest, kept.filter (· != '_') ≠ '-' :: rest := by
          intro _ rest here
          cases all '-' (by rw [here]; exact List.mem_cons_self)
        have read : ∀ other, integer? (minus negative ++ kept.filter (· != '_')) = some other ↔
            (minus negative ++ kept.filter (· != '_')).length ≤ maxLength ∧
              signed negative (digitsValue digits) = other := by
          intro other
          rw [integer?_minus_eq_some_iff plain, isKept.filterMap_filter, same,
            and_iff_right (isKept.canonical_filter canonical), and_iff_right all]
        split
        · next short => exact (read _).mpr ⟨short, rfl⟩
        · next long =>
            rw [Option.eq_none_iff_forall_ne_some]
            exact fun other found => long ((read other).mp found).1

theorem readNumeral_of_spells (spells : Spells text value) :
    readNumeral text = .ok value ∨
      maxLength < text.length ∧ ∃ problem, readNumeral text = .error problem := by
  obtain ⟨kept, shorter, stripped⟩ := bind_bare?_of_spells spells
  rw [readNumeral, stripped]
  by_cases short : text.length ≤ maxLength
  · refine .inl ?_
    rw [isOversized_of_short short, if_neg Bool.false_ne_true, if_pos (Nat.le_trans shorter short)]
    cases read : integer? text with
    | none => rfl
    | some other =>
        obtain rfl := eq_of_integer?_of_spells spells read
        rfl
  · have long : maxLength < text.length := Nat.lt_of_not_le short
    split
    · exact .inr ⟨long, _, rfl⟩
    · cases read : integer? text with
      | some other =>
          obtain rfl := eq_of_integer?_of_spells spells read
          exact .inl rfl
      | none =>
          by_cases fits : kept.length ≤ maxLength
          · rw [if_pos fits]
            exact .inl rfl
          · rw [if_neg fits]
            exact .inr ⟨long, _, rfl⟩

end FeatureFlags.Settings
