import FeatureFlags.Proofs.Http.Path
import Mathlib.Data.List.TakeWhile

/-!
# Targets of URLs

A URL read anew with another target differs from the first reading in path and query only.  Behind
whatever target a base URL has, request paths come to one front and to endings of their own: in the
path if the base has no query, with dots carried out, and else in the query as they are.
-/

set_option autoImplicit false

namespace FeatureFlags.Http.Url

/-! ## Targets and their parts -/

theorem splitAt_of_not_mem {mark : Char} {text : List Char} (absent : mark ∉ text) :
    splitAt mark text = (text, none) := by
  have all : text.takeWhile (· != mark) = text := by
    rw [List.takeWhile_eq_self_iff]
    intro c member
    rw [bne_iff_ne]
    rintro rfl
    exact absent member
  rw [splitAt, all, if_neg (Nat.lt_irrefl _)]

theorem splitAt_of_mark {mark : Char} {head : List Char} (absent : mark ∉ head)
    (rest : List Char) : splitAt mark (head ++ mark :: rest) = (head, some rest) := by
  have taken : (head ++ mark :: rest).takeWhile (· != mark) = head := by
    rw [List.takeWhile_append_of_pos, List.takeWhile_cons_of_neg (by simp), List.append_nil]
    intro c member
    rw [bne_iff_ne]
    rintro rfl
    exact absent member
  rw [splitAt, taken, if_pos (by simp)]
  simp

def aimed (target : List Char) (url : Url) : Url :=
  { url with
    path := escapeRest isPathChar (removeDots (splitAt '?' target).1)
    query := (splitAt '?' target).2.map (escapeRest isQueryChar) }

def TargetFits (target : List Char) : Prop :=
  (splitAt '?' target).1.length ≤ maxLength ∧
    ((splitAt '?' target).2.getD []).length ≤ maxLength

theorem ofParts_aimed {protocol : Protocol} {authority path : List Char}
    {query fragment : Option (List Char)} {url : Url}
    (made : ofParts protocol authority path query fragment = .ok url) (target : List Char) :
    ofParts protocol authority (splitAt '?' target).1 (splitAt '?' target).2 fragment =
      .ok (url.aimed target) := by
  simp only [ofParts] at made ⊢
  cases readHost : Host.normal (splitAuthority authority).2.1 with
  | error fault =>
      rw [readHost] at made
      cases made
  | ok host =>
      rw [readHost] at made
      cases readPort : Port.normal protocol (splitAuthority authority).2.2 with
      | error text =>
          rw [readPort] at made
          cases made
      | ok port =>
          rw [readPort] at made
          cases made
          rfl

theorem withTarget_eq_ok_iff {url read : Url} {target : List Char} :
    url.withTarget target = .ok read ↔
      (url.authority.length ≤ maxLength ∧ TargetFits target ∧
        (url.fragment.getD []).length ≤ maxLength) ∧
          ofParts url.protocol url.authority (splitAt '?' target).1 (splitAt '?' target).2
            url.fragment = .ok read := by
  unfold withTarget
  simp only
  split
  · next part text found =>
      constructor
      · intro failed
        cases failed
      · intro ⟨⟨authority, ⟨path, query⟩, fragment⟩, _⟩
        have member := List.mem_of_find?_eq_some found
        have long := List.find?_some found
        simp only [List.mem_cons, List.not_mem_nil, or_false, Prod.mk.injEq] at member
        simp only [decide_eq_true_eq] at long
        rcases member with ⟨_, rfl⟩ | ⟨_, rfl⟩ | ⟨_, rfl⟩ | ⟨_, rfl⟩ <;> omega
  · next none =>
      have within := List.find?_eq_none.1 (Option.eq_none_iff_forall_ne_some.2 fun (part, text) =>
        none part text)
      simp only [List.mem_cons, List.not_mem_nil, or_false, decide_eq_true_eq, forall_eq_or_imp,
        forall_eq, Nat.not_lt] at within
      obtain ⟨authority, path, query, fragment⟩ := within
      exact ⟨fun ok => ⟨⟨authority, ⟨path, query⟩, fragment⟩, ok⟩, fun both => both.2⟩

theorem withTarget_aimed {url read : Url} {target other : List Char}
    (ok : url.withTarget target = .ok read) (fits : TargetFits other) :
    url.withTarget other = .ok (read.aimed other) := by
  obtain ⟨⟨authority, _, fragment⟩, made⟩ := withTarget_eq_ok_iff.1 ok
  exact withTarget_eq_ok_iff.2 ⟨⟨authority, fits, fragment⟩, ofParts_aimed made other⟩

theorem withTarget_self {url read : Url} {target : List Char}
    (ok : url.withTarget target = .ok read) : TargetFits target ∧ read = read.aimed target := by
  have fits := (withTarget_eq_ok_iff.1 ok).1.2.1
  exact ⟨fits, Except.ok.inj (ok.symm.trans (withTarget_aimed ok fits))⟩

/-! ## Request paths behind a target -/

def normalTarget (target : List Char) : List Char :=
  let path := escapeRest isPathChar (removeDots (splitAt '?' target).1)
  (if path.isEmpty then ['/'] else path) ++
    ((splitAt '?' target).2.map fun query => '?' :: escapeRest isQueryChar query).getD []

theorem target_aimed (target : List Char) (url : Url) :
    (url.aimed target).target = normalTarget target := by
  rw [Url.target, normalTarget, aimed, Option.map_map]
  rfl

/-- Behind a target without a query, a request path is carried out with the path. -/
theorem normalTarget_of_path {target front word : List Char} (pathOnly : '?' ∉ target)
    (comes : removeDots target = front ++ word) (request : ∀ c ∈ word, isRequestChar c = true)
    (nonempty : word ≠ []) : normalTarget target = escape isPathChar front ++ word := by
  have path : escapeRest isPathChar (removeDots target) = escape isPathChar front ++ word := by
    rw [comes, escapeRest_eq_escape fun c => isPathChar_of_isRequestChar, escape_append,
      escape_of_kept fun c member => isPathChar_of_isRequestChar (request c member)]
  rw [normalTarget, splitAt_of_not_mem pathOnly, path, if_neg (by simpa using fun _ => nonempty)]
  exact List.append_nil _

/-- Behind a target with a query, a request path goes on with the query. -/
theorem normalTarget_of_query {head : List Char} (pathOnly : '?' ∉ head) (rest : List Char)
    {word : List Char} (request : ∀ c ∈ word, isRequestChar c = true) :
    normalTarget (head ++ '?' :: rest ++ word) =
      normalTarget head ++ '?' :: escape isQueryChar rest ++ word := by
  have parts : splitAt '?' (head ++ '?' :: rest ++ word) = (head, some (rest ++ word)) := by
    rw [List.append_assoc, List.cons_append]
    exact splitAt_of_mark pathOnly (rest ++ word)
  simp only [normalTarget, parts, splitAt_of_not_mem pathOnly, Option.map_some, Option.map_none,
    Option.getD_some, Option.getD_none, List.append_nil]
  rw [escapeRest_eq_escape (fun c => isQueryChar_of_isRequestChar) (rest ++ word), escape_append,
    escape_of_kept fun c member => isQueryChar_of_isRequestChar (request c member)]
  simp only [List.append_assoc, List.cons_append]

theorem exists_front (target : List Char) :
    ∃ front ending, Endings ending ∧ ('?' ∉ target → ending = settled) ∧
      normalTarget (target ++ "sdk/initialize".toList) = front ++ "sdk/initialize".toList ∧
      ∀ identifier, normalTarget (target ++ ("sdk/identities/".toList ++ segmentOf identifier)) =
        front ++ ending (segmentOf identifier) := by
  have stateRequest : ∀ c ∈ "sdk/initialize".toList, isRequestChar c = true :=
    List.all_eq_true.1 (by decide)
  have segmentRequest : ∀ identifier, ∀ c ∈ segmentOf identifier, isRequestChar c = true :=
    fun identifier c member => (isRequestChar_of_mem_segmentOf member).1
  by_cases present : '?' ∈ target
  · obtain ⟨head, rest, rfl, pathOnly⟩ := List.eq_append_cons_of_mem present
    refine ⟨normalTarget head ++ '?' :: escape isQueryChar rest, ("sdk/identities/".toList ++ ·),
      endings_unsettled, fun absent => absurd present absent,
      normalTarget_of_query pathOnly rest stateRequest, fun identifier => ?_⟩
    exact normalTarget_of_query pathOnly rest
      (endings_unsettled.request _ (segmentRequest identifier))
  · obtain ⟨front, initialized, identified⟩ := removeDots_behind target
    have noQuery : ∀ word, (∀ c ∈ word, isRequestChar c = true) → '?' ∉ target ++ word := by
      intro word request member
      rcases List.mem_append.1 member with base | member
      · exact present base
      · exact (ne_query_of_isRequestChar (request _ member)).1 rfl
    refine ⟨escape isPathChar front, settled, endings_settled, fun _ => rfl, ?_,
      fun identifier => ?_⟩
    · exact normalTarget_of_path (noQuery _ stateRequest) initialized stateRequest (by decide)
    · have whole : '/' ∉ segmentOf identifier :=
        fun member => (isRequestChar_of_mem_segmentOf member).2 rfl
      have request := endings_settled.request _ (segmentRequest identifier)
      exact normalTarget_of_path
        (noQuery _ (endings_unsettled.request _ (segmentRequest identifier)))
        (identified _ whole) request (settled_ne_nil _)

/-! ## Appending -/

theorem append_eq_ok_iff {url read : Url} {path : List Char} :
    url.append path = .ok read ↔ path.length ≤ maxLength ∧
      url.withTarget (url.target ++ path.dropWhile (· == '/')) = .ok read := by
  unfold append
  split
  · next long =>
      constructor
      · intro failed
        cases failed
      · intro both
        exact absurd both.1 (Nat.not_le_of_lt long)
  · next short => exact ⟨fun ok => ⟨Nat.le_of_not_lt short, ok⟩, fun both => both.2⟩

theorem target_of_append {url read : Url} {path : List Char} (ok : url.append path = .ok read) :
    read.target = normalTarget (url.target ++ path.dropWhile (· == '/')) := by
  obtain ⟨_, same⟩ := withTarget_self (append_eq_ok_iff.1 ok).2
  rw [same]
  exact target_aimed _ read

theorem targetFits_of_length {target : List Char} (short : target.length ≤ maxLength) :
    TargetFits target := by
  have head : (target.takeWhile (· != '?')).length ≤ target.length :=
    (List.takeWhile_prefix _).length_le
  refine ⟨Nat.le_trans head short, ?_⟩
  simp only [splitAt]
  split
  · rw [Option.getD_some, List.length_drop]
    omega
  · exact Nat.zero_le _

theorem one_le_length_target (url : Url) : 1 ≤ url.target.length := by
  unfold target
  rw [List.length_append]
  split
  · exact Nat.le_add_right 1 _
  · next path =>
      have nonempty : url.path ≠ [] := by simpa using path
      exact Nat.le_trans (List.length_pos_iff.2 nonempty) (Nat.le_add_right _ _)

/-- What appends one path appends another one that is short enough. -/
theorem append_aimed {url read : Url} {path word : List Char} (ok : url.append path = .ok read)
    (bare : word.head? ≠ some '/') (short : url.target.length + word.length ≤ maxLength) :
    url.append ('/' :: word) = .ok (read.aimed (url.target ++ word)) := by
  have nonempty := one_le_length_target url
  have dropped : ('/' :: word).dropWhile (· == '/') = word := by
    rw [List.dropWhile_cons_of_pos (by decide)]
    cases word with
    | nil => rfl
    | cons c word => rw [List.dropWhile_cons_of_neg (by simpa using bare)]
  have fits : TargetFits (url.target ++ word) :=
    targetFits_of_length (by rw [List.length_append]; exact short)
  rw [append_eq_ok_iff, dropped]
  refine ⟨by rw [List.length_cons]; omega, withTarget_aimed (append_eq_ok_iff.1 ok).2 fits⟩

/-! ## Base URLs -/

theorem takeAuthority_of_whole {rest : List Char}
    (whole : ∀ c ∈ rest, c ≠ '/' ∧ c ≠ '?' ∧ c ≠ '#') : takeAuthority rest = rest := by
  rw [takeAuthority, List.takeWhile_eq_self_iff]
  intro c member
  simpa using whole c member

/-- A base URL that is all authority is followed by a slash. -/
theorem target_of_ofText {protocol : Protocol} {rest : List Char} {url : Url}
    (whole : ∀ c ∈ rest, c ≠ '/' ∧ c ≠ '?' ∧ c ≠ '#') (read : ofText protocol rest = .ok url) :
    url.target = ['/'] := by
  unfold ofText at read
  simp only [takeAuthority_of_whole whole, List.drop_length] at read
  split at read
  · cases read
  · split at read
    · cases read
    · have empty := Except.ok.inj (read.symm.trans (ofParts_aimed read []))
      rw [empty, target_aimed]
      decide

/-- A host that leaves path, query and fragment of its URL alone. -/
def HostOnly (settings : Settings) : Prop :=
  ∀ c ∈ settings.host.toList, c ≠ '/' ∧ c ≠ '?' ∧ c ≠ '#'

theorem whole_place {settings : Settings} (hostOnly : HostOnly settings) :
    ∀ c ∈ settings.place.toList, c ≠ '/' ∧ c ≠ '?' ∧ c ≠ '#' := by
  intro c member
  simp only [Settings.place, String.toList_append, String.toList_ofList, List.mem_append] at member
  rcases member with (host | colon) | port
  · exact hostOnly c host
  · have same : c = ':' := by simpa using colon
    rw [same]
    decide
  · have digit : c.isDigit = true :=
      Nat.isDigit_of_mem_toDigits (by decide) (by decide) (Nat.toList_repr ▸ port)
    refine ⟨?_, ?_, ?_⟩ <;> rintro rfl <;> exact absurd digit (by decide)

theorem target_of_ofSettings {settings : Settings} (hostOnly : HostOnly settings) {url : Url}
    (read : ofSettings settings = .ok url) : url.target = ['/'] := by
  unfold ofSettings at read
  cases text : ofText settings.protocol settings.place.toList with
  | error fault =>
      rw [text] at read
      cases read
  | ok made =>
      have slash := target_of_ofText (whole_place hostOnly) text
      rw [text] at read
      change (if (made.target.getLast? == some '/') = true then .ok made
        else made.withTarget (made.target ++ ['/'])) = .ok url at read
      rw [slash, if_pos (by decide)] at read
      cases read
      exact slash

end FeatureFlags.Http.Url
