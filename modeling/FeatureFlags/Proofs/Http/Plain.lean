import FeatureFlags.Proofs.Double.Numeral
import FeatureFlags.Proofs.Http.Addressing

/-!
# Plain addresses

A name of letters, digits and the like is sent in small letters, and its port as a number, however
often the URL is read anew.  So a client with such a host can be opened and sends its requests.
-/

set_option autoImplicit false

namespace FeatureFlags

namespace Hostname

variable {separates : Char → Bool} {text : List Char}

theorem splitOn_cons {c : Char} {part : List Char} {parts : List (List Char)}
    (rest : splitOn separates text = part :: parts) :
    splitOn separates (c :: text) =
      if separates c then [] :: part :: parts else (c :: part) :: parts := by
  unfold splitOn at rest ⊢
  rw [List.foldr_cons, rest]

theorem exists_splitOn_eq (separates : Char → Bool) (text : List Char) :
    ∃ part parts, splitOn separates text = part :: parts := by
  induction text with
  | nil => exact ⟨[], [], rfl⟩
  | cons c text inductionHypothesis =>
      obtain ⟨part, parts, rest⟩ := inductionHypothesis
      rw [splitOn_cons rest]
      split
      · exact ⟨[], part :: parts, rfl⟩
      · exact ⟨c :: part, parts, rfl⟩

theorem splitOn_of_whole (whole : ∀ c ∈ text, separates c = false) :
    splitOn separates text = [text] := by
  induction text with
  | nil => rfl
  | cons c text inductionHypothesis =>
      have rest := inductionHypothesis fun d member => whole d (List.mem_cons_of_mem _ member)
      rw [splitOn_cons rest, whole c List.mem_cons_self]
      rfl

/-- What separates nothing stands in one of the parts. -/
theorem exists_part_of_mem {c : Char} (member : c ∈ text) (stays : separates c = false) :
    ∃ part ∈ splitOn separates text, c ∈ part := by
  induction text with
  | nil => cases member
  | cons d text inductionHypothesis =>
      obtain ⟨part, parts, rest⟩ := exists_splitOn_eq separates text
      rw [splitOn_cons rest]
      rcases List.mem_cons.mp member with rfl | later
      · rw [stays]
        exact ⟨c :: part, List.mem_cons_self, List.mem_cons_self⟩
      · obtain ⟨found, listed, within⟩ := inductionHypothesis later
        rw [rest] at listed
        split
        · exact ⟨found, List.mem_cons_of_mem _ listed, within⟩
        · rcases List.mem_cons.mp listed with rfl | listed
          · exact ⟨d :: found, List.mem_cons_self, List.mem_cons_of_mem _ within⟩
          · exact ⟨found, List.mem_cons_of_mem _ listed, within⟩

end Hostname

namespace Http

theorem escapeRest_of_kept {keeps : Char → Bool} {text : List Char}
    (kept : ∀ c ∈ text, keeps c = true) : escapeRest keeps text = text := by
  fun_induction escapeRest keeps text with
  | case1 high low rest digits inductionHypothesis =>
      rw [inductionHypothesis fun c member => kept c (by simp [member])]
  | case2 high low rest digits inductionHypothesis =>
      rw [inductionHypothesis fun c member => kept c (List.mem_cons_of_mem _ member),
        escape_of_kept fun c member => kept c (by simp_all)]
      rfl
  | case3 c rest _ inductionHypothesis =>
      rw [inductionHypothesis fun c member => kept c (List.mem_cons_of_mem _ member),
        escape_of_kept fun c member => kept c (by simp_all)]
      rfl
  | case4 => rfl

/-! ## Hosts -/

/-- A name of letters, digits, `-`, `.`, `_` and `~` that is no number and is not encoded. -/
structure IsPlainHost (host : List Char) : Prop where
  unreserved : ∀ c ∈ host, isUnreserved c = true
  letter : ∃ c ∈ host, c.isAlpha = true
  notEncoded : ¬Hostname.mark <+: host.map Char.toLower

namespace IsPlainHost

variable {host : List Char}

theorem toLower_unreserved {c : Char} (unreserved : isUnreserved c = true) :
    isUnreserved c.toLower = true ∧ c.toLower.toLower = c.toLower ∧
      (c.isAlpha = true → c.toLower.isAlpha = true) :=
  forall_ascii (fun c => isUnreserved c = true → isUnreserved c.toLower = true ∧
      c.toLower.toLower = c.toLower ∧ (c.isAlpha = true → c.toLower.isAlpha = true))
    (by decide +kernel) (ascii_of_isUnreserved unreserved) unreserved

theorem lowered_twice (plain : IsPlainHost host) :
    (host.map Char.toLower).map Char.toLower = host.map Char.toLower := by
  rw [List.map_map, List.map_inj_left]
  exact fun c member => (toLower_unreserved (plain.unreserved c member)).2.1

theorem lowered (plain : IsPlainHost host) : IsPlainHost (host.map Char.toLower) where
  unreserved c member := by
    obtain ⟨d, listed, rfl⟩ := List.mem_map.mp member
    exact (toLower_unreserved (plain.unreserved d listed)).1
  letter := by
    obtain ⟨c, member, letter⟩ := plain.letter
    exact ⟨c.toLower, List.mem_map_of_mem member,
      (toLower_unreserved (plain.unreserved c member)).2.2 letter⟩
  notEncoded := by
    rw [plain.lowered_twice]
    exact plain.notEncoded

/-- What is not unreserved does not stand in a plain host. -/
theorem not_mem (plain : IsPlainHost host) {c : Char} (reserved : isUnreserved c = false) :
    c ∉ host := by
  intro member
  rw [plain.unreserved c member] at reserved
  cases reserved

theorem letter_facts {c : Char} (letter : c.isAlpha = true) (unreserved : isUnreserved c = true) :
    (c == '.') = false ∧ Text.asciiDigit? c = none :=
  forall_ascii (fun c => c.isAlpha = true → (c == '.') = false ∧ Text.asciiDigit? c = none)
    (by decide +kernel) (ascii_of_isUnreserved unreserved) letter

theorem looksIpv4_eq_false (plain : IsPlainHost host) : Host.looksIpv4 host = false := by
  obtain ⟨c, member, letter⟩ := plain.letter
  obtain ⟨apart, noDigit⟩ := letter_facts letter (plain.unreserved c member)
  obtain ⟨part, listed, within⟩ : ∃ part ∈ Hostname.splitOn (· == '.') host, c ∈ part :=
    Hostname.exists_part_of_mem member apart
  rw [← Bool.not_eq_true]
  intro looks
  simp only [Host.looksIpv4, Bool.and_eq_true, List.all_eq_true] at looks
  have digit := (looks.2 part listed).2 c within
  rw [noDigit] at digit
  cases digit

theorem isNameChar_of_isUnreserved {c : Char} (unreserved : isUnreserved c = true) :
    Host.isNameChar c = true := by
  rw [Host.isNameChar, unreserved]
  rfl

theorem isAscii (plain : IsPlainHost host) : Hostname.isAscii host = true := by
  rw [Hostname.isAscii, List.all_eq_true]
  exact fun c member => decide_eq_true (ascii_of_isUnreserved (plain.unreserved c member))

/-- A plain host is sent in small letters. -/
theorem normal_eq (plain : IsPlainHost host) :
    Host.normal host = .ok (host.map Char.toLower) := by
  have noBracket : (host.head? == some '[') = false := by
    rw [beq_eq_false_iff_ne]
    intro bracket
    exact plain.not_mem (by decide) (List.mem_of_head? bracket)
  have kept : escapeRest Host.isNameChar (host.map Char.toLower) = host.map Char.toLower :=
    escapeRest_of_kept fun c member =>
      isNameChar_of_isUnreserved (plain.lowered.unreserved c member)
  simp only [Host.normal, plain.looksIpv4_eq_false, noBracket, plain.isAscii, kept,
    Bool.false_and, Bool.false_eq_true, if_false, if_true]

end IsPlainHost

/-! ## Ports -/

theorem mapM_decimalDigit? {text : List Char} (digits : ∀ c ∈ text, c.isDigit = true) :
    text.mapM Text.decimalDigit? = some (text.map Text.digitValue) := by
  induction text with
  | nil => rfl
  | cons c text inductionHypothesis =>
      rw [List.mapM_cons, Text.decimalDigit?_of_isDigit (digits c List.mem_cons_self),
        inductionHypothesis fun d member => digits d (List.mem_cons_of_mem _ member)]
      rfl

namespace Port

/-- The digits of a number are read as that number. -/
theorem read?_toDigits {number : Nat} (short : (Nat.toDigits 10 number).length ≤ maxDigits) :
    read? (Nat.toDigits 10 number) = some (number : Int) := by
  have digits : ∀ c ∈ Nat.toDigits 10 number, c.isDigit = true := fun c member =>
    Nat.isDigit_of_mem_toDigits (by decide) (by decide) member
  have unspaced : Text.trimBy Text.isSpace (Nat.toDigits 10 number) = Nat.toDigits 10 number :=
    Text.trimBy_eq_self fun c member => by
      have blank := Text.isBlank_of_isDigit (digits c member)
      rw [Text.isBlank, Bool.or_eq_false_iff] at blank
      exact blank.1
  have whole : Hostname.splitOn (· == '_') (Nat.toDigits 10 number) = [Nat.toDigits 10 number] :=
    Hostname.splitOn_of_whole fun c member => by
      rw [beq_eq_false_iff_ne]
      rintro rfl
      exact absurd (digits '_' member) (by decide)
  have value : Text.digitsValue ((Nat.toDigits 10 number).map Text.digitValue) = number := by
    rw [Text.digitsValue_map]
    exact Nat.ofDigitChars_toDigits (by decide) (by decide)
  have read : digits? (Nat.toDigits 10 number) =
      some ((Nat.toDigits 10 number).map Text.digitValue) := by
    have filled : (Nat.toDigits 10 number).isEmpty = false :=
      List.isEmpty_eq_false_iff.mpr Nat.toDigits_ne_nil
    simp [digits?, whole, filled, mapM_decimalDigit? digits]
  rw [read?, unspaced]
  split
  next negative unsigned parts =>
    split at parts
    · next rest minus => exact absurd (digits '-' (minus ▸ List.mem_cons_self)) (by decide)
    · next rest plus => exact absurd (digits '+' (plus ▸ List.mem_cons_self)) (by decide)
    · cases parts
      simp only [read, List.length_map, short, value, if_true, Bool.false_eq_true, if_false]

def unlessUsual (protocol : Protocol) (number : Nat) : Option Int :=
  if (number : Int) = usual protocol then none else some (number : Int)

theorem normal_toDigits (protocol : Protocol) {number : Nat}
    (short : (Nat.toDigits 10 number).length ≤ maxDigits) :
    normal protocol (Nat.toDigits 10 number) = .ok (unlessUsual protocol number) := by
  have filled : (Nat.toDigits 10 number).isEmpty = false :=
    List.isEmpty_eq_false_iff.mpr Nat.toDigits_ne_nil
  simp only [normal, filled, read?_toDigits short, unlessUsual, Bool.false_eq_true, if_false]

end Port

/-! ## Authorities -/

namespace Url

/-- An authority is a host up to its end or to a colon. -/
theorem splitAuthority_append {host rest : List Char} (noColon : ':' ∉ host)
    (ends : rest = [] ∨ ∃ text, rest = ':' :: text) (noUser : '@' ∉ host ++ rest)
    (noBracket : ']' ∉ host ++ rest) :
    splitAuthority (host ++ rest) = ([], host, rest.drop 1) := by
  have passes : ∀ {mark : Char} {text : List Char}, mark ∉ text →
      ∀ c ∈ text, (c != mark) = true := by
    intro mark text absent c member
    rw [bne_iff_ne]
    rintro rfl
    exact absent member
  have place : ((host ++ rest).reverse.takeWhile (· != '@')).reverse = host ++ rest := by
    rw [List.takeWhile_eq_self_iff.mpr (passes (mt List.mem_reverse.mp noUser)),
      List.reverse_reverse]
  have bracketed : ((host ++ rest).reverse.dropWhile (· != ']')).reverse = [] := by
    rw [List.dropWhile_eq_nil_iff.mpr (passes (mt List.mem_reverse.mp noBracket)), List.reverse_nil]
  have named : (host ++ rest).takeWhile (· != ':') = host := by
    rw [List.takeWhile_append_of_pos (passes noColon)]
    obtain rfl | ⟨text, rfl⟩ := ends
    · exact List.append_nil host
    · rw [List.takeWhile_cons_of_neg (by simp), List.append_nil]
  simp only [splitAuthority, place, bracketed, named, List.isEmpty_nil, Bool.not_true,
    Bool.and_false, Bool.false_eq_true, if_false, List.drop_left]
  obtain rfl | ⟨text, rfl⟩ := ends
  · simp
  · simp

section Plain

variable {host : List Char}

/-- What may stand behind the host of an authority, with the port that it means. -/
inductive IsTail (protocol : Protocol) : List Char → Option Int → Prop where
  | none : IsTail protocol [] none
  | port (number : Nat) (short : (Nat.toDigits 10 number).length ≤ Port.maxDigits) :
      IsTail protocol (':' :: Nat.toDigits 10 number) (Port.unlessUsual protocol number)

theorem isUnreserved_of_isDigit {c : Char} (digit : c.isDigit = true) : isUnreserved c = true := by
  simp [isUnreserved, Char.isAlphanum, digit]

section Tail

variable {protocol : Protocol} {tail : List Char} {port : Option Int}

theorem placeChar (plain : IsPlainHost host) (isTail : IsTail protocol tail port) :
    ∀ c ∈ host ++ tail, isUnreserved c = true ∨ c = ':' := by
  intro c member
  rcases List.mem_append.mp member with inHost | inTail
  · exact .inl (plain.unreserved c inHost)
  · cases isTail with
    | none => cases inTail
    | port number short =>
        rcases List.mem_cons.mp inTail with rfl | digit
        · exact .inr rfl
        · exact .inl (isUnreserved_of_isDigit
            (Nat.isDigit_of_mem_toDigits (by decide) (by decide) digit))

/-- What is not unreserved stands in no plain authority, but for the colon. -/
theorem not_mem_place (plain : IsPlainHost host) (isTail : IsTail protocol tail port) {c : Char}
    (reserved : isUnreserved c = false) (colon : c ≠ ':') : c ∉ host ++ tail := by
  intro member
  rcases placeChar plain isTail c member with unreserved | rfl
  · rw [unreserved] at reserved
    cases reserved
  · exact colon rfl

theorem ofParts_plain (plain : IsPlainHost host) (isTail : IsTail protocol tail port)
    (path : List Char) (query fragment : Option (List Char)) :
    ofParts protocol (host ++ tail) path query fragment =
      .ok ⟨protocol, [], host.map Char.toLower, port, escapeRest isPathChar (removeDots path),
        query.map (escapeRest isQueryChar), fragment.map (escapeRest isFragmentChar)⟩ := by
  have ends : tail = [] ∨ ∃ text, tail = ':' :: text := by
    cases isTail with
    | none => exact .inl rfl
    | port number short => exact .inr ⟨_, rfl⟩
  have read : Port.normal protocol (tail.drop 1) = .ok port := by
    cases isTail with
    | none => rfl
    | port number short => exact Port.normal_toDigits protocol short
  simp only [ofParts, splitAuthority_append (plain.not_mem (by decide)) ends
    (not_mem_place plain isTail (by decide) (by decide))
    (not_mem_place plain isTail (by decide) (by decide)), plain.normal_eq, read]
  rfl

end Tail

/-! ## URLs -/

theorem control?_eq_none {text : List Char}
    (visible : ∀ c ∈ text, 0x20 ≤ c.toNat ∧ c.toNat < 0x7F) : control? text = none := by
  rw [control?, List.find?_eq_none]
  rintro ⟨c, position⟩ member
  obtain ⟨low, high⟩ := visible c (List.fst_mem_of_mem_zipIdx member)
  simp
  omega

theorem visible_of_isUnreserved {c : Char} (unreserved : isUnreserved c = true) :
    0x20 ≤ c.toNat ∧ c.toNat < 0x7F :=
  forall_ascii (fun c => isUnreserved c = true → 0x20 ≤ c.toNat ∧ c.toNat < 0x7F)
    (by decide +kernel) (ascii_of_isUnreserved unreserved) unreserved

/-- The most that a URL without a path has around its host. -/
def frame : Nat := 14

theorem ofText_plain (plain : IsPlainHost host) (protocol : Protocol) {number : Nat}
    (short : (Nat.toDigits 10 number).length ≤ 5) (fits : host.length + frame ≤ maxLength) :
    ofText protocol (host ++ ':' :: Nat.toDigits 10 number) =
      .ok ⟨protocol, [], host.map Char.toLower, Port.unlessUsual protocol number, [], none,
        none⟩ := by
  have isTail : IsTail protocol (':' :: Nat.toDigits 10 number)
      (Port.unlessUsual protocol number) :=
    .port number (Nat.le_trans short (by simp [Port.maxDigits]))
  have opening : ∀ c ∈ (protocol.name ++ "://").toList, 0x20 ≤ c.toNat ∧ c.toNat < 0x7F := by
    cases protocol <;> simp [Protocol.name]
  have openingLength : (protocol.name ++ "://").toList.length ≤ 8 := by
    cases protocol <;> simp [Protocol.name]
  have visible : ∀ c ∈ (protocol.name ++ "://").toList ++ (host ++ ':' :: Nat.toDigits 10 number),
      0x20 ≤ c.toNat ∧ c.toNat < 0x7F := by
    intro c member
    rcases List.mem_append.mp member with inOpening | inPlace
    · exact opening c inOpening
    · rcases placeChar plain isTail c inPlace with unreserved | rfl
      · exact visible_of_isUnreserved unreserved
      · decide
  have length : ¬maxLength <
      ((protocol.name ++ "://").toList ++ (host ++ ':' :: Nat.toDigits 10 number)).length := by
    simp only [List.length_append, List.length_cons, frame] at fits ⊢
    omega
  have whole : ∀ c ∈ host ++ ':' :: Nat.toDigits 10 number, c ≠ '/' ∧ c ≠ '?' ∧ c ≠ '#' := by
    have absent : ∀ mark, isUnreserved mark = false → mark ≠ ':' →
        ∀ c ∈ host ++ ':' :: Nat.toDigits 10 number, c ≠ mark := by
      rintro mark reserved apart c member rfl
      exact not_mem_place plain isTail reserved apart member
    exact fun c member => ⟨absent '/' (by decide) (by decide) c member,
      absent '?' (by decide) (by decide) c member, absent '#' (by decide) (by decide) c member⟩
  have nothing : splitAt '#' [] = ([], none) ∧ splitAt '?' [] = ([], none) := ⟨rfl, rfl⟩
  simp only [ofText, control?_eq_none visible, if_neg length, takeAuthority_of_whole whole,
    List.drop_length, nothing]
  exact ofParts_plain plain isTail [] none none

def portText (port : Option Int) : List Char :=
  (port.map fun port => ':' :: (toString port).toList).getD []

structure IsPlain (url : Url) : Prop where
  host : IsPlainHost url.host
  small : url.host.map Char.toLower = url.host
  user : url.user = []
  fragment : url.fragment = none
  port : IsTail url.protocol (portText url.port) url.port
  short : url.host.length + (portText url.port).length ≤ maxLength

namespace IsPlain

variable {url : Url}

theorem place_eq (plain : IsPlain url) : url.place = url.host ++ portText url.port := by
  have noColon : url.host.contains ':' = false := by
    simpa using plain.host.not_mem (c := ':') (by decide)
  rw [Url.place, noColon]
  rfl

theorem authority_eq (plain : IsPlain url) : url.authority = url.host ++ portText url.port := by
  rw [Url.authority, plain.user, plain.place_eq]
  rfl

/-- A plain URL can be read anew with every target that is short enough. -/
theorem withTarget (plain : IsPlain url) {target : List Char} (fits : TargetFits target) :
    ∃ read, url.withTarget target = .ok read ∧ IsPlain read := by
  have made := ofParts_plain plain.host plain.port (splitAt '?' target).1 (splitAt '?' target).2
    none
  rw [plain.small] at made
  have short : url.authority.length ≤ maxLength := by
    rw [plain.authority_eq, List.length_append]
    exact plain.short
  have noFragment : (url.fragment.getD []).length ≤ maxLength := by
    rw [plain.fragment]
    exact Nat.zero_le _
  rw [← plain.authority_eq, ← plain.fragment] at made
  exact ⟨_, withTarget_eq_ok_iff.mpr ⟨⟨short, fits, noFragment⟩, made⟩,
    plain.host, plain.small, rfl, by rw [plain.fragment]; rfl, plain.port, plain.short⟩

/-- The host of a plain URL is sent with its port. -/
theorem sentHost (plain : IsPlain url) :
    Url.sentHost url = .ok (some (String.ofList url.place)) := by
  have named : url.host.isEmpty = false := by
    obtain ⟨c, member, _⟩ := plain.host.letter
    exact List.isEmpty_eq_false_iff.mpr (List.ne_nil_of_mem member)
  have notEncoded : Hostname.mark.isPrefixOf url.host = false := by
    have apart := plain.host.notEncoded
    rw [plain.small, ← List.isPrefixOf_iff_prefix] at apart
    exact Bool.eq_false_iff.mpr apart
  have ascii : ∀ c ∈ url.place, decide (c.toNat < 128) = true := by
    intro c member
    rw [plain.place_eq] at member
    rcases placeChar plain.host plain.port c member with unreserved | rfl
    · exact decide_eq_true (ascii_of_isUnreserved unreserved)
    · rfl
  have checked : checkAscii url.place = .ok () := by
    rw [checkAscii, List.takeWhile_eq_self_iff.mpr ascii, List.drop_length]
  simp only [Url.sentHost, named, notEncoded, checked, Bool.false_eq_true, if_false]
  rfl

end IsPlain

/-- What a plain host and a port are read as is plain. -/
theorem isPlain_made (plain : IsPlainHost host) (protocol : Protocol) {number : Nat}
    (short : (Nat.toDigits 10 number).length ≤ 5) (fits : host.length + frame ≤ maxLength)
    (path : List Char) (query : Option (List Char)) :
    IsPlain ⟨protocol, [], host.map Char.toLower, Port.unlessUsual protocol number, path, query,
      none⟩ := by
  have written : IsTail protocol (portText (Port.unlessUsual protocol number))
      (Port.unlessUsual protocol number) ∧
        (portText (Port.unlessUsual protocol number)).length ≤ 6 := by
    have text : (toString (number : Int)).toList = Nat.toDigits 10 number :=
      Text.toString_of_nonneg (Int.natCast_nonneg number)
    have isTail : IsTail protocol (':' :: Nat.toDigits 10 number)
        (Port.unlessUsual protocol number) :=
      .port number (Nat.le_trans short (by simp [Port.maxDigits]))
    rw [Port.unlessUsual] at isTail ⊢
    split at isTail
    · next usual =>
        rw [if_pos usual]
        exact ⟨.none, Nat.zero_le _⟩
    · next unusual =>
        rw [if_neg unusual, portText, Option.map_some, Option.getD_some, text]
        exact ⟨isTail, Nat.succ_le_succ short⟩
  refine ⟨plain.lowered, plain.lowered_twice, rfl, rfl, written.1, ?_⟩
  have length := written.2
  simp only [List.length_map, frame] at fits ⊢
  omega

end Plain

end Url

/-! ## Settings -/

structure IsPlain (settings : Settings) : Prop where
  host : IsPlainHost settings.host.toList
  short : settings.host.toList.length + Url.frame ≤ Url.maxLength
  port : settings.port ≤ Settings.maxPort

theorem replacement_mem_shown (text : Text.Broken) : '\uFFFD' ∈ text.shown := by
  obtain ⟨point, member, surrogate⟩ := List.any_eq_true.mp text.isBroken
  exact List.mem_map.mpr ⟨point, member, by rw [Text.character, if_pos surrogate]⟩

namespace IsPlain

variable {settings : Settings}

/-- The replacement character is not plain. -/
theorem exists_whole (plain : IsPlain settings) : ∃ text, settings.host = .whole text := by
  cases host : settings.host with
  | whole text => exact ⟨text, rfl⟩
  | broken text =>
      have unreserved := plain.host.unreserved
      rw [host] at unreserved
      cases unreserved _ (replacement_mem_shown text)

theorem ofSettings (plain : IsPlain settings) :
    ∃ url, Url.ofSettings settings = .ok url ∧ url.IsPlain ∧ url.target = ['/'] := by
  have digits : (Nat.toDigits 10 settings.port).length ≤ 5 := by
    have bound := plain.port
    rw [Settings.maxPort] at bound
    rw [Nat.length_toDigits_le_iff (by decide) (by decide)]
    omega
  have place : settings.place.toList =
      settings.host.toList ++ ':' :: Nat.toDigits 10 settings.port := by
    simp [Settings.place, Nat.toList_repr]
  have read := Url.ofText_plain plain.host settings.protocol digits plain.short
  rw [← place] at read
  refine ⟨_, ?_, Url.isPlain_made plain.host settings.protocol digits plain.short [] none, rfl⟩
  rw [Url.ofSettings, read]
  rfl

theorem base (plain : IsPlain settings) :
    ∃ url, Library.usual.base settings = .ok url ∧ url.IsPlain ∧ url.target = ['/'] := by
  obtain ⟨url, read, isPlain, target⟩ := plain.ofSettings
  obtain ⟨text, whole⟩ := plain.exists_whole
  refine ⟨url, ?_, isPlain, target⟩
  change Url.base settings = .ok url
  rw [Url.base, whole]
  exact mapError_eq_ok_iff.mpr read

end IsPlain

def Library.Reaches (library : Library) (base : Url) (resource : Resource) : Prop :=
  ∃ url host, library.append (Connection.path resource) base = .ok url ∧
    library.host url = .ok host

/-- Behind plain hosts there are base URLs, and behind these the paths that are short enough. -/
def Library.ReadsPlain (library : Library) : Prop :=
  ∀ settings, IsPlain settings → ∃ base, library.base settings = .ok base ∧
    ∀ resource, (Connection.path resource).length ≤ Url.maxLength → library.Reaches base resource

theorem Url.IsPlain.reaches {url : Url} (plain : url.IsPlain) {resource : Resource}
    (fits : url.target.length + (Connection.behindSlash resource).length ≤ Url.maxLength) :
    Library.usual.Reaches url resource := by
  have target : Url.TargetFits (url.target ++ Connection.behindSlash resource) :=
    Url.targetFits_of_length (by rw [List.length_append]; exact fits)
  obtain ⟨read, made, isPlain⟩ := plain.withTarget target
  have length : (Connection.path resource).length ≤ Url.maxLength := by
    have nonempty := Url.one_le_length_target url
    rw [Connection.path_eq, List.length_cons]
    omega
  have appended : url.append (Connection.path resource) = .ok read := by
    rw [Url.append_eq_ok_iff, Connection.dropWhile_path]
    exact ⟨length, made⟩
  exact ⟨read, _, mapError_eq_ok_iff.mpr appended, isPlain.sentHost⟩

theorem readsPlain_usual : Library.usual.ReadsPlain := by
  intro settings plain
  obtain ⟨base, read, isPlain, target⟩ := plain.base
  refine ⟨base, read, fun resource short => isPlain.reaches ?_⟩
  rw [Connection.path_eq, List.length_cons, Nat.add_comm] at short
  rwa [target]

end Http

end FeatureFlags
