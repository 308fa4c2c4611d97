import FeatureFlags.Text.Utf8

/-!
# Reading UTF-8 back

Decoding undoes encoding, and what it reads is an encoding (`decode_eq_ok_iff`).  The ranges of the
second byte are those that the encodings of characters stay in: shorter sequences come first, and
surrogates and numbers beyond the last plane are no characters.
-/

set_option autoImplicit false

namespace FeatureFlags.Text.Utf8

theorem toNat_toUInt8 {number : Nat} (small : number < 256) : number.toUInt8.toNat = number := by
  rw [Nat.toUInt8_eq, UInt8.toNat_ofNat']
  exact Nat.mod_eq_of_lt small

theorem isCharacter (c : Char) : c.toNat < 0xD800 ∨ 0xDFFF < c.toNat ∧ c.toNat < 0x110000 :=
  c.valid

/-! ## Sequences of each length -/

theorem lead?_two (top : Nat) (low : 2 ≤ top) (high : top < 32) :
    lead? (0xC0 + top).toUInt8 = some ⟨1, 0x80, 0xBF, top⟩ := by
  have value := toNat_toUInt8 (show 0xC0 + top < 256 by omega)
  simp only [lead?, value]
  rw [if_neg (by omega), if_neg (by omega), if_pos (by omega), Nat.add_sub_cancel_left]

/-- The second byte of three says which numbers are left out: short ones and surrogates. -/
theorem lead?_three {code : Nat} (low : 0x800 ≤ code) (high : code < 0x10000)
    (character : code < 0xD800 ∨ 0xDFFF < code) :
    ∃ least most, lead? (0xE0 + code / 4096).toUInt8 = some ⟨2, least, most, code / 4096⟩ ∧
      least ≤ 0x80 + code / 64 % 64 ∧ 0x80 + code / 64 % 64 ≤ most := by
  have value := toNat_toUInt8 (show 0xE0 + code / 4096 < 256 by omega)
  simp only [lead?, value]
  rw [if_neg (by omega), if_neg (by omega), if_neg (by omega)]
  by_cases first : code / 4096 = 0
  · refine ⟨0xA0, 0xBF, ?_, by omega, by omega⟩
    rw [if_pos (by omega), first]
  · rw [if_neg (by omega)]
    by_cases surrogates : code / 4096 = 0xD
    · refine ⟨0x80, 0x9F, ?_, by omega, by omega⟩
      rw [if_pos (by omega), surrogates]
    · refine ⟨0x80, 0xBF, ?_, by omega, by omega⟩
      rw [if_neg (by omega), if_pos (by omega), Nat.add_sub_cancel_left]

/-- The second byte of four says which numbers are left out: short ones and those too large. -/
theorem lead?_four {code : Nat} (low : 0x10000 ≤ code) (high : code < 0x110000) :
    ∃ least most, lead? (0xF0 + code / 262144).toUInt8 = some ⟨3, least, most, code / 262144⟩ ∧
      least ≤ 0x80 + code / 4096 % 64 ∧ 0x80 + code / 4096 % 64 ≤ most := by
  have value := toNat_toUInt8 (show 0xF0 + code / 262144 < 256 by omega)
  simp only [lead?, value]
  rw [if_neg (by omega), if_neg (by omega), if_neg (by omega), if_neg (by omega),
    if_neg (by omega), if_neg (by omega)]
  by_cases first : code / 262144 = 0
  · refine ⟨0x90, 0xBF, ?_, by omega, by omega⟩
    rw [if_pos (by omega), first]
  · rw [if_neg (by omega)]
    by_cases last : code / 262144 = 4
    · refine ⟨0x80, 0x8F, ?_, by omega, by omega⟩
      rw [if_neg (by omega), if_pos (by omega), last]
    · refine ⟨0x80, 0xBF, ?_, by omega, by omega⟩
      rw [if_pos (by omega), Nat.add_sub_cancel_left]

theorem continue?_tail {length following low high bits digit : Nat} (rest : List UInt8)
    (small : digit < 64) (least : low ≤ 0x80 + digit) (most : 0x80 + digit ≤ high) :
    continue? length (following + 1) low high bits ((0x80 + digit).toUInt8 :: rest) =
      continue? (length + 1) following 0x80 0xBF (bits * 64 + digit) rest := by
  have value := toNat_toUInt8 (show 0x80 + digit < 256 by omega)
  rw [continue?, value, if_pos ⟨least, most⟩, Nat.add_sub_cancel_left]

theorem decodeFrom_cons {position following low high bits code : Nat} {byte : UInt8}
    {tail rest : List UInt8} (starts : lead? byte = some ⟨following, low, high, bits⟩)
    (continues : continue? 1 following low high bits tail = .ok (code, rest)) :
    decodeFrom position (byte :: tail) =
      (decodeFrom (position + following + 1) rest).map (Char.ofNat code :: ·) := by
  rw [decodeFrom]
  simp only [starts]
  split
  · next failed => rw [continues] at failed; cases failed
  · next read =>
      rw [continues] at read
      cases read
      cases decodeFrom (position + following + 1) rest <;> rfl

/-! ## Characters and texts -/

theorem decodeFrom_encodeChar (c : Char) (position : Nat) (rest : List UInt8) :
    decodeFrom position (encodeChar c ++ rest) =
      (decodeFrom (position + (encodeChar c).length) rest).map (c :: ·) := by
  have character := isCharacter c
  have same : Char.ofNat c.toNat = c := Char.ofNat_toNat c
  unfold encodeChar
  generalize c.toNat = code at character same
  simp only
  split
  · -- one byte
    next small =>
      have value := toNat_toUInt8 (show code < 256 by omega)
      have starts : lead? code.toUInt8 = some ⟨0, 0, 0, code⟩ := by
        rw [lead?, value, if_pos small]
      have continues : continue? 1 0 0 0 code rest = .ok (code, rest) := rfl
      rw [List.cons_append, List.nil_append, decodeFrom_cons starts continues, same]
      rfl
  · split
    · -- two bytes
      next low high =>
        have starts := lead?_two (code / 64) (by omega) (by omega)
        have continues : continue? 1 1 0x80 0xBF (code / 64)
            ((0x80 + code % 64).toUInt8 :: rest) = .ok (code, rest) := by
          rw [continue?_tail rest (by omega) (by omega) (by omega), continue?,
            show code / 64 * 64 + code % 64 = code by omega]
        rw [List.cons_append, List.cons_append, List.nil_append,
          decodeFrom_cons starts continues, same]
        rfl
    · split
      · -- three bytes
        next low high =>
          obtain ⟨least, most, starts, above, below⟩ :=
            lead?_three (Nat.le_of_not_lt low) high (by omega)
          have continues : continue? 1 2 least most (code / 4096)
              ((0x80 + code / 64 % 64).toUInt8 :: (0x80 + code % 64).toUInt8 :: rest) =
                .ok (code, rest) := by
            rw [continue?_tail _ (by omega) above below,
              continue?_tail rest (by omega) (by omega) (by omega), continue?,
              show (code / 4096 * 64 + code / 64 % 64) * 64 + code % 64 = code by omega]
          rw [List.cons_append, List.cons_append, List.cons_append, List.nil_append,
            decodeFrom_cons starts continues, same]
          rfl
      · -- four bytes
        next low =>
          obtain ⟨least, most, starts, above, below⟩ :=
            lead?_four (Nat.le_of_not_lt low) (by omega)
          have continues : continue? 1 3 least most (code / 262144)
              ((0x80 + code / 4096 % 64).toUInt8 :: (0x80 + code / 64 % 64).toUInt8 ::
                (0x80 + code % 64).toUInt8 :: rest) = .ok (code, rest) := by
            rw [continue?_tail _ (by omega) above below,
              continue?_tail _ (by omega) (by omega) (by omega),
              continue?_tail rest (by omega) (by omega) (by omega), continue?,
              show ((code / 262144 * 64 + code / 4096 % 64) * 64 + code / 64 % 64) * 64 +
                code % 64 = code by omega]
          rw [List.cons_append, List.cons_append, List.cons_append, List.cons_append,
            List.nil_append, decodeFrom_cons starts continues, same]
          rfl

theorem decodeFrom_encode (position : Nat) (text : List Char) :
    decodeFrom position (encode text) = .ok text := by
  induction text generalizing position with
  | nil =>
      rw [encode, List.flatMap_nil, decodeFrom]
  | cons c text inductionHypothesis =>
      rw [encode, List.flatMap_cons, decodeFrom_encodeChar, ← encode, inductionHypothesis]
      rfl

theorem decode_encode (text : List Char) : decode (encode text) = .ok text :=
  decodeFrom_encode 0 text

/-! ## What is read is an encoding -/

/-- A byte that continues a sequence is six bits of its number. -/
theorem digit_of_continue? {length following low high bits code : Nat} {bytes rest : List UInt8}
    (least : 0x80 ≤ low)
    (read : continue? length (following + 1) low high bits bytes = .ok (code, rest)) :
    ∃ digit tail, bytes = (0x80 + digit).toUInt8 :: tail ∧ low ≤ 0x80 + digit ∧
      0x80 + digit ≤ high ∧
        continue? (length + 1) following 0x80 0xBF (bits * 64 + digit) tail = .ok (code, rest) := by
  cases bytes with
  | nil => cases read
  | cons byte tail =>
      rw [continue?] at read
      split at read
      · next within =>
          refine ⟨byte.toNat - 0x80, tail, ?_, by omega, by omega, read⟩
          rw [Nat.add_sub_cancel' (Nat.le_trans least within.1), Nat.toUInt8_eq, UInt8.ofNat_toNat]
      · cases read

theorem toNat_ofNat {code : Nat} (character : code < 0xD800 ∨ 0xDFFF < code ∧ code < 0x110000) :
    (Char.ofNat code).toNat = code := by
  have valid : code.isValidChar := character
  rw [Char.ofNat, dif_pos valid]
  rfl

theorem encodeChar_two {top digit : Nat} (low : 2 ≤ top) (high : top < 32) (small : digit < 64) :
    encodeChar (Char.ofNat (top * 64 + digit)) =
      [(0xC0 + top).toUInt8, (0x80 + digit).toUInt8] := by
  have character : (Char.ofNat (top * 64 + digit)).toNat = top * 64 + digit :=
    toNat_ofNat (by omega)
  have parts : (top * 64 + digit) / 64 = top ∧ (top * 64 + digit) % 64 = digit := by omega
  simp only [encodeChar, character, parts]
  rw [if_neg (by omega), if_pos (by omega)]

theorem encodeChar_three {top second third : Nat} (low : 0x800 ≤ (top * 64 + second) * 64 + third)
    (high : top < 16) (character : top = 0xD → second < 32) (small : second < 64 ∧ third < 64) :
    encodeChar (Char.ofNat ((top * 64 + second) * 64 + third)) =
      [(0xE0 + top).toUInt8, (0x80 + second).toUInt8, (0x80 + third).toUInt8] := by
  have code : (Char.ofNat ((top * 64 + second) * 64 + third)).toNat =
      (top * 64 + second) * 64 + third := toNat_ofNat (by omega)
  have parts : ((top * 64 + second) * 64 + third) / 4096 = top ∧
      ((top * 64 + second) * 64 + third) / 64 % 64 = second ∧
        ((top * 64 + second) * 64 + third) % 64 = third := by omega
  simp only [encodeChar, code, parts]
  rw [if_neg (by omega), if_neg (by omega), if_pos (by omega)]

theorem encodeChar_four {top second third fourth : Nat}
    (low : 0x10000 ≤ ((top * 64 + second) * 64 + third) * 64 + fourth)
    (high : ((top * 64 + second) * 64 + third) * 64 + fourth < 0x110000)
    (small : second < 64 ∧ third < 64 ∧ fourth < 64) :
    encodeChar (Char.ofNat (((top * 64 + second) * 64 + third) * 64 + fourth)) =
      [(0xF0 + top).toUInt8, (0x80 + second).toUInt8, (0x80 + third).toUInt8,
        (0x80 + fourth).toUInt8] := by
  have code : (Char.ofNat (((top * 64 + second) * 64 + third) * 64 + fourth)).toNat =
      ((top * 64 + second) * 64 + third) * 64 + fourth := toNat_ofNat (by omega)
  have parts : (((top * 64 + second) * 64 + third) * 64 + fourth) / 262144 = top ∧
      (((top * 64 + second) * 64 + third) * 64 + fourth) / 4096 % 64 = second ∧
        (((top * 64 + second) * 64 + third) * 64 + fourth) / 64 % 64 = third ∧
          (((top * 64 + second) * 64 + third) * 64 + fourth) % 64 = fourth := by omega
  simp only [encodeChar, code, parts]
  rw [if_neg (by omega), if_neg (by omega), if_neg (by omega)]

/-- What a byte announces: a sequence of one byte to four, and the numbers that it leaves out. -/
inductive Announces (byte : UInt8) : Lead → Prop where
  | one (code : Nat) (same : byte = code.toUInt8) (small : code < 0x80) :
      Announces byte ⟨0, 0, 0, code⟩
  | two (top : Nat) (same : byte = (0xC0 + top).toUInt8) (within : 2 ≤ top ∧ top < 32) :
      Announces byte ⟨1, 0x80, 0xBF, top⟩
  | three (top least most : Nat) (same : byte = (0xE0 + top).toUInt8) (high : top < 16)
      (second : 0x80 ≤ least ∧ most ≤ 0xBF) (long : top = 0 → 0xA0 ≤ least)
      (character : top = 0xD → most ≤ 0x9F) : Announces byte ⟨2, least, most, top⟩
  | four (top least most : Nat) (same : byte = (0xF0 + top).toUInt8) (high : top ≤ 4)
      (second : 0x80 ≤ least ∧ most ≤ 0xBF) (long : top = 0 → 0x90 ≤ least)
      (last : top = 4 → most ≤ 0x8F) : Announces byte ⟨3, least, most, top⟩

theorem announces_of_lead? {byte : UInt8} {lead : Lead} (starts : lead? byte = some lead) :
    Announces byte lead := by
  have size : byte.toNat < 256 := byte.toNat_lt
  have same : byte = byte.toNat.toUInt8 := by rw [Nat.toUInt8_eq, UInt8.ofNat_toNat]
  unfold lead? at starts
  generalize byte.toNat = value at *
  simp only at starts
  have back : ∀ first ≤ value, byte = (first + (value - first)).toUInt8 := by
    intro first below
    rw [Nat.add_sub_cancel' below]
    exact same
  split at starts
  · cases starts
    exact .one value same ‹_›
  split at starts
  · cases starts
  split at starts
  · cases starts
    exact .two _ (back 0xC0 (by omega)) (by omega)
  split at starts
  · cases starts
    exact .three 0 _ _ (by simp_all) (by omega) (by omega) (by omega) (by omega)
  split at starts
  · cases starts
    exact .three 0xD _ _ (by simp_all) (by omega) (by omega) (by omega) (by omega)
  split at starts
  · cases starts
    exact .three _ _ _ (back 0xE0 (by omega)) (by omega) (by omega) (by omega) (by omega)
  split at starts
  · cases starts
    exact .four 0 _ _ (by simp_all) (by omega) (by omega) (by omega) (by omega)
  split at starts
  · cases starts
    exact .four _ _ _ (back 0xF0 (by omega)) (by omega) (by omega) (by omega) (by omega)
  split at starts
  · cases starts
    exact .four 4 _ _ (by simp_all) (by omega) (by omega) (by omega) (by omega)
  · cases starts

/-- The sequence that a byte starts is that of a character. -/
theorem encodeChar_of_continue? {byte : UInt8} {lead : Lead} {code : Nat}
    {following rest : List UInt8} (starts : lead? byte = some lead)
    (read : continue? 1 lead.following lead.low lead.high lead.bits following = .ok (code, rest)) :
    byte :: following = encodeChar (Char.ofNat code) ++ rest := by
  cases announces_of_lead? starts with
  | one value same small =>
      cases read
      have character : (Char.ofNat value).toNat = value := toNat_ofNat (by omega)
      simp only [encodeChar, character, if_pos small, same]
      rfl
  | two top same within =>
      dsimp only at read
      obtain ⟨second, _, rfl, low, high, read⟩ := digit_of_continue? (Nat.le_refl _) read
      cases read
      rw [encodeChar_two within.1 within.2 (by omega), same]
      rfl
  | three top least most same high second long character =>
      dsimp only at read
      obtain ⟨_, _, rfl, _, _, read⟩ := digit_of_continue? second.1 read
      obtain ⟨_, _, rfl, _, _, read⟩ := digit_of_continue? (Nat.le_refl _) read
      cases read
      rw [encodeChar_three (by omega) high (by omega) (by omega), same]
      rfl
  | four top least most same high second long last =>
      dsimp only at read
      obtain ⟨_, _, rfl, _, _, read⟩ := digit_of_continue? second.1 read
      obtain ⟨_, _, rfl, _, _, read⟩ := digit_of_continue? (Nat.le_refl _) read
      obtain ⟨_, _, rfl, _, _, read⟩ := digit_of_continue? (Nat.le_refl _) read
      cases read
      rw [encodeChar_four (by omega) (by omega) (by omega), same]
      rfl

theorem encode_of_decodeFrom {position : Nat} {bytes : List UInt8} {text : List Char}
    (read : decodeFrom position bytes = .ok text) : encode text = bytes := by
  fun_induction decodeFrom position bytes generalizing text with
  | case1 =>
      cases read
      rfl
  | case2 => cases read
  | case3 => cases read
  | case4 => cases read
  | case5 position byte following lead starts code rest continues later _ inductionHypothesis =>
      cases read
      rw [encode, List.flatMap_cons, ← encode, inductionHypothesis ‹_›,
        ← encodeChar_of_continue? starts continues]

theorem encode_of_decode {bytes : List UInt8} {text : List Char} (read : decode bytes = .ok text) :
    encode text = bytes :=
  encode_of_decodeFrom read

theorem decode_eq_ok_iff {bytes : List UInt8} {text : List Char} :
    decode bytes = .ok text ↔ encode text = bytes :=
  ⟨encode_of_decode, fun same => same ▸ decode_encode text⟩

end FeatureFlags.Text.Utf8
