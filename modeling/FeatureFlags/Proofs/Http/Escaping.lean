import FeatureFlags.Http.Url
import FeatureFlags.Proofs.Text.Utf8

/-!
# Reading escapes back

An escaped text gives back the bytes of the text.  It consists of characters that a path and a query
keep as they are, and none of them ends a segment, a path or a query.
-/

set_option autoImplicit false

namespace FeatureFlags.Http

/-- The bytes that a text with escapes stands for; what is no escape stands for itself. -/
def unescape : List Char → List UInt8
  | '%' :: high :: low :: rest =>
      match Text.hexDigit? high, Text.hexDigit? low with
      | some upper, some lower => (16 * upper + lower).toUInt8 :: unescape rest
      | _, _ => Text.Utf8.encodeChar '%' ++ unescape (high :: low :: rest)
  | c :: rest => Text.Utf8.encodeChar c ++ unescape rest
  | [] => []

/-! ## Bytes -/

def capitalDigit (digit : Nat) : Char :=
  (Nat.digitChar digit).toUpper

theorem hexDigit?_capitalDigit :
    ∀ digit < 16, Text.hexDigit? (capitalDigit digit) = some digit := by
  decide

theorem isUnreserved_capitalDigit : ∀ digit < 16, isUnreserved (capitalDigit digit) = true := by
  decide

theorem capitalDigits : ∀ code < 256, (Text.hexDigits 2 code).map Char.toUpper =
    [capitalDigit (code / 16), capitalDigit (code % 16)] := by
  decide +kernel

theorem escapeByte_eq (byte : UInt8) :
    escapeByte byte =
      ['%', capitalDigit (byte.toNat / 16), capitalDigit (byte.toNat % 16)] := by
  rw [escapeByte, capitalDigits byte.toNat byte.toNat_lt]

theorem unescape_escapeByte (byte : UInt8) (rest : List Char) :
    unescape (escapeByte byte ++ rest) = byte :: unescape rest := by
  have bound := byte.toNat_lt
  have whole : 16 * (byte.toNat / 16) + byte.toNat % 16 = byte.toNat := Nat.div_add_mod _ _
  rw [escapeByte_eq]
  simp only [List.cons_append, List.nil_append, unescape,
    hexDigit?_capitalDigit (byte.toNat / 16) (by omega),
    hexDigit?_capitalDigit (byte.toNat % 16) (by omega), whole]
  rw [Nat.toUInt8_eq, UInt8.ofNat_toNat]

theorem unescape_escapeBytes (bytes : List UInt8) (rest : List Char) :
    unescape (bytes.flatMap escapeByte ++ rest) = bytes ++ unescape rest := by
  induction bytes with
  | nil => rfl
  | cons byte bytes inductionHypothesis =>
      rw [List.flatMap_cons, List.append_assoc, unescape_escapeByte, inductionHypothesis,
        List.cons_append]

/-! ## Texts -/

theorem unescape_cons {c : Char} (plain : c ≠ '%') (rest : List Char) :
    unescape (c :: rest) = Text.Utf8.encodeChar c ++ unescape rest := by
  rw [unescape]
  intro high low tail same
  exact absurd same plain

theorem unescape_escape {keeps : Char → Bool} (marks : keeps '%' = false) (text : List Char) :
    unescape (escape keeps text) = Text.Utf8.encode text := by
  induction text with
  | nil => rfl
  | cons c text inductionHypothesis =>
      rw [escape, List.flatMap_cons, ← escape, Text.Utf8.encode, List.flatMap_cons,
        ← Text.Utf8.encode, ← inductionHypothesis]
      by_cases kept : keeps c = true
      · have plain : c ≠ '%' := by
          rintro rfl
          rw [marks] at kept
          cases kept
        rw [if_pos kept, List.cons_append, List.nil_append, unescape_cons plain]
      · rw [if_neg kept, unescape_escapeBytes]

theorem escape_append (keeps : Char → Bool) (first second : List Char) :
    escape keeps (first ++ second) = escape keeps first ++ escape keeps second :=
  List.flatMap_append

theorem escape_of_kept {keeps : Char → Bool} {text : List Char}
    (kept : ∀ c ∈ text, keeps c = true) : escape keeps text = text := by
  induction text with
  | nil => rfl
  | cons c text inductionHypothesis =>
      rw [escape, List.flatMap_cons, ← escape, if_pos (kept c List.mem_cons_self),
        inductionHypothesis fun c member => kept c (List.mem_cons_of_mem _ member)]
      rfl

theorem mem_escape {text : List Char} {c : Char} (member : c ∈ escape isUnreserved text) :
    isUnreserved c = true ∨ c = '%' := by
  obtain ⟨origin, _, member⟩ := List.mem_flatMap.1 member
  split at member
  · next kept =>
      rw [List.mem_singleton] at member
      rw [member]
      exact .inl kept
  · obtain ⟨byte, _, member⟩ := List.mem_flatMap.1 member
    have bound := byte.toNat_lt
    rw [escapeByte_eq] at member
    simp only [List.mem_cons, List.not_mem_nil, or_false] at member
    rcases member with rfl | rfl | rfl
    · exact .inr rfl
    · exact .inl (isUnreserved_capitalDigit _ (by omega))
    · exact .inl (isUnreserved_capitalDigit _ (by omega))

/-! ## Characters that stay as they are -/

theorem forall_ascii (Holds : Char → Prop) (all : ∀ code < 128, Holds (Char.ofNat code)) {c : Char}
    (ascii : c.toNat < 128) : Holds c := by
  rw [← Char.ofNat_toNat c]
  exact all c.toNat ascii

theorem ascii_of_isUnreserved {c : Char} (unreserved : isUnreserved c = true) :
    c.toNat < 128 := by
  delta isUnreserved Char.isAlphanum Char.isAlpha Char.isUpper Char.isLower Char.isDigit
    at unreserved
  simp only [Bool.or_eq_true, Bool.and_eq_true, decide_eq_true_eq, beq_iff_eq,
    UInt32.le_iff_toNat_le] at unreserved
  rcases unreserved with ((((((⟨_, high⟩ | ⟨_, high⟩) | ⟨_, high⟩) | rfl) | rfl) | rfl) | rfl)
  · exact Nat.lt_of_le_of_lt high (by decide)
  · exact Nat.lt_of_le_of_lt high (by decide)
  · exact Nat.lt_of_le_of_lt high (by decide)
  all_goals decide

theorem ascii_of_hexDigit? {c : Char} (digit : (Text.hexDigit? c).isSome = true) :
    c.toNat < 128 := by
  unfold Text.hexDigit? Text.asciiDigit? at digit
  split at digit
  · omega
  · split at digit
    · omega
    · split at digit
      · omega
      · cases digit

theorem isUnreserved_of_hexDigit? {c : Char} (digit : (Text.hexDigit? c).isSome = true) :
    isUnreserved c = true :=
  forall_ascii (fun c => (Text.hexDigit? c).isSome = true → isUnreserved c = true)
    (by decide +kernel) (ascii_of_hexDigit? digit) digit

def isRequestChar (c : Char) : Bool :=
  isUnreserved c || c == '%' || c == '/'

theorem isRequestChar_of_isUnreserved {c : Char} (unreserved : isUnreserved c = true) :
    isRequestChar c = true := by
  rw [isRequestChar, unreserved]
  rfl

theorem ascii_of_isRequestChar {c : Char} (request : isRequestChar c = true) : c.toNat < 128 := by
  simp only [isRequestChar, Bool.or_eq_true, beq_iff_eq] at request
  rcases request with (unreserved | rfl) | rfl
  · exact ascii_of_isUnreserved unreserved
  · decide
  · decide

theorem isPathChar_of_isRequestChar {c : Char} (request : isRequestChar c = true) :
    Url.isPathChar c = true :=
  forall_ascii (fun c => isRequestChar c = true → Url.isPathChar c = true)
    (by decide +kernel) (ascii_of_isRequestChar request) request

theorem isQueryChar_of_isRequestChar {c : Char} (request : isRequestChar c = true) :
    Url.isQueryChar c = true :=
  forall_ascii (fun c => isRequestChar c = true → Url.isQueryChar c = true)
    (by decide +kernel) (ascii_of_isRequestChar request) request

theorem ne_query_of_isRequestChar {c : Char} (request : isRequestChar c = true) :
    c ≠ '?' ∧ c ≠ '#' :=
  forall_ascii (fun c => isRequestChar c = true → c ≠ '?' ∧ c ≠ '#')
    (by decide +kernel) (ascii_of_isRequestChar request) request

/-- A class that leaves request paths alone leaves escapes alone, wherever they stand. -/
theorem escapeRest_eq_escape {keeps : Char → Bool}
    (keepsRequests : ∀ c, isRequestChar c = true → keeps c = true) (text : List Char) :
    escapeRest keeps text = escape keeps text := by
  fun_induction escapeRest keeps text with
  | case1 high low rest digits inductionHypothesis =>
      rw [Bool.and_eq_true] at digits
      have upper := keepsRequests high
        (isRequestChar_of_isUnreserved (isUnreserved_of_hexDigit? digits.1))
      have lower := keepsRequests low
        (isRequestChar_of_isUnreserved (isUnreserved_of_hexDigit? digits.2))
      rw [inductionHypothesis]
      simp only [escape, List.flatMap_cons, keepsRequests '%' (by decide), upper, lower, if_true,
        List.cons_append, List.nil_append]
  | case2 high low rest digits inductionHypothesis =>
      rw [inductionHypothesis]
      exact (escape_append keeps ['%'] _).symm
  | case3 c rest _ inductionHypothesis =>
      rw [inductionHypothesis]
      exact (escape_append keeps [c] _).symm
  | case4 => rfl

/-! ## Segments of identifiers -/

/-- A segment of a path from which an identifier can be read back. -/
structure IsSegmentOf (identifier : String) (segment : List Char) : Prop where
  nonempty : identifier ≠ "" → segment ≠ []
  whole : ∀ c ∈ segment, c ≠ '/' ∧ c ≠ '?' ∧ c ≠ '#'
  reads : Text.Utf8.decode (unescape segment) = .ok identifier.toList

def segmentOf (identifier : String) : List Char :=
  escape isUnreserved identifier.toList

theorem isRequestChar_of_mem_segmentOf {identifier : String} {c : Char}
    (member : c ∈ segmentOf identifier) : isRequestChar c = true ∧ c ≠ '/' := by
  rcases mem_escape member with unreserved | rfl
  · refine ⟨isRequestChar_of_isUnreserved unreserved, ?_⟩
    rintro rfl
    exact absurd unreserved (by decide)
  · decide

theorem isSegmentOf_segmentOf (identifier : String) :
    IsSegmentOf identifier (segmentOf identifier) := by
  have reads : Text.Utf8.decode (unescape (segmentOf identifier)) = .ok identifier.toList := by
    rw [segmentOf, unescape_escape (by decide), Text.Utf8.decode_encode]
  refine ⟨fun named none => ?_, fun c member => ?_, reads⟩
  · rw [none] at reads
    have unnamed := Except.ok.inj (reads.symm.trans (Text.Utf8.decode_encode []))
    exact named (String.toList_eq_nil_iff.1 unnamed)
  · obtain ⟨request, slash⟩ := isRequestChar_of_mem_segmentOf member
    exact ⟨slash, ne_query_of_isRequestChar request⟩

theorem IsSegmentOf.unique {first second : String} {segment : List Char}
    (one : IsSegmentOf first segment) (other : IsSegmentOf second segment) : first = second :=
  String.toList_inj.1 (Except.ok.inj (one.reads.symm.trans other.reads))

theorem segmentOf_injective {first second : String}
    (same : segmentOf first = segmentOf second) : first = second :=
  (isSegmentOf_segmentOf first).unique (same ▸ isSegmentOf_segmentOf second)

end FeatureFlags.Http
