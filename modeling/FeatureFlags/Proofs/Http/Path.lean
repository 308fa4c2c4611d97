import FeatureFlags.Proofs.Http.Escaping

/-!
# Request paths behind a base

Whatever a base path is, the request paths behind it come to one front and an ending of their own:
dots in the base are carried out before a request path is reached, and of the request paths only
those for the identifiers `.` and `..` hold dots.
-/

set_option autoImplicit false

namespace FeatureFlags.Http

/-! ## Segments -/

theorem segments_eq_splitOn (path : List Char) : segments path = path.splitOn '/' := by
  induction path with
  | nil => rfl
  | cons c path inductionHypothesis =>
      rw [List.splitOn_cons_eq_if_modifyHead, ← inductionHypothesis]
      cases parts : segments path with
      | nil =>
          rw [inductionHypothesis] at parts
          exact absurd parts (List.splitOn_ne_nil '/' path)
      | cons part rest =>
          rw [segments, List.foldr_cons, ← segments, parts]
          rfl

theorem segments_append_slash (first second : List Char) :
    segments (first ++ '/' :: second) = segments first ++ segments second := by
  rw [segments_eq_splitOn, segments_eq_splitOn, segments_eq_splitOn]
  exact List.splitOn_append_cons_self first second

theorem segments_of_whole {text : List Char} (whole : '/' ∉ text) : segments text = [text] := by
  rw [segments_eq_splitOn]
  exact List.splitOn_eq_singleton whole

/-- A word behind a path goes on with the last segment. -/
theorem segments_append_word (path : List Char) :
    ∃ before last, ∀ word, '/' ∉ word → segments (path ++ word) = before ++ [last ++ word] := by
  induction path with
  | nil => exact ⟨[], [], fun word whole => segments_of_whole whole⟩
  | cons c path inductionHypothesis =>
      obtain ⟨before, last, parts⟩ := inductionHypothesis
      by_cases slash : c = '/'
      · refine ⟨[] :: before, last, fun word whole => ?_⟩
        rw [slash, List.cons_append, List.cons_append, ← parts word whole]
        exact segments_append_slash [] (path ++ word)
      · have grown : ∀ word, segments (c :: path ++ word) =
            (segments (path ++ word)).modifyHead (List.cons c) := by
          intro word
          rw [segments_eq_splitOn, segments_eq_splitOn, List.cons_append,
            List.splitOn_cons_eq_if_modifyHead, if_neg (by simpa using slash)]
        cases before with
        | nil =>
            refine ⟨[], c :: last, fun word whole => ?_⟩
            rw [grown, parts word whole]
            rfl
        | cons first before =>
            refine ⟨(c :: first) :: before, last, fun word whole => ?_⟩
            rw [grown, parts word whole]
            rfl

theorem segments_append_words (path : List Char) :
    ∃ before last, ∀ word rest, '/' ∉ word → (∀ part ∈ rest, '/' ∉ part) →
      segments (path ++ ['/'].intercalate (word :: rest)) = before ++ (last ++ word) :: rest := by
  obtain ⟨before, last, parts⟩ := segments_append_word path
  refine ⟨before, last, fun word rest whole wholes => ?_⟩
  cases rest with
  | nil =>
      rw [List.intercalate_singleton]
      exact parts word whole
  | cons next rest =>
      have behind : segments (['/'].intercalate (next :: rest)) = next :: rest := by
        rw [segments_eq_splitOn]
        exact List.splitOn_intercalate '/' wholes (List.cons_ne_nil next rest)
      rw [List.intercalate_cons_cons, List.append_assoc, List.singleton_append, ← List.append_assoc,
        segments_append_slash, parts word whole, behind, List.append_assoc, List.singleton_append]

theorem intercalate_append_word (separator : List Char) (before rest : List (List Char))
    (last word : List Char) :
    separator.intercalate (before ++ (last ++ word) :: rest) =
      separator.intercalate (before ++ [last]) ++ separator.intercalate (word :: rest) := by
  induction before with
  | nil =>
      rw [List.nil_append, List.nil_append, List.intercalate_singleton]
      cases rest with
      | nil => rw [List.intercalate_singleton, List.intercalate_singleton]
      | cons next rest =>
          rw [List.intercalate_cons_cons, List.intercalate_cons_cons]
          simp only [List.append_assoc]
  | cons first before inductionHypothesis =>
      rw [List.cons_append, List.cons_append, List.intercalate_cons_of_ne_nil (by simp),
        List.intercalate_cons_of_ne_nil (by simp), inductionHypothesis]
      simp only [List.append_assoc]

/-! ## Dots -/

theorem removeDotsFrom_ordinary {segment : List Char} (one : segment ≠ ['.'])
    (two : segment ≠ ['.', '.']) (done rest : List (List Char)) :
    removeDotsFrom done (segment :: rest) = removeDotsFrom (segment :: done) rest := by
  rw [removeDotsFrom]
  · exact one
  · exact two

theorem removeDotsFrom_append (done first second : List (List Char)) :
    removeDotsFrom done (first ++ second) =
      removeDotsFrom (removeDotsFrom done first).reverse second := by
  fun_induction removeDotsFrom done first with
  | case1 done => rw [List.nil_append, List.reverse_reverse]
  | case2 done rest inductionHypothesis => exact inductionHypothesis
  | case3 done rest inductionHypothesis => exact inductionHypothesis
  | case4 done segment rest one two inductionHypothesis =>
      rw [List.cons_append, removeDotsFrom_ordinary one two, inductionHypothesis]

theorem ordinary_of_mem {segment : List Char} {c : Char} (member : c ∈ segment) (letter : c ≠ '.') :
    segment ≠ ['.'] ∧ segment ≠ ['.', '.'] := by
  constructor
  · rintro rfl
    exact letter (List.mem_singleton.1 member)
  · rintro rfl
    rcases List.mem_cons.1 member with same | member
    · exact letter same
    · exact letter (List.mem_singleton.1 member)

/-- With a word behind it that is no dots, a base path comes to one front for all that follows. -/
theorem removeDots_words (path word : List Char) {c : Char} (member : c ∈ word) (letter : c ≠ '.')
    (whole : '/' ∉ word) :
    ∃ front done,
      (∀ rest, (∀ part ∈ rest, '/' ∉ part) →
        removeDots (path ++ ['/'].intercalate (word :: rest)) =
          ['/'].intercalate (removeDotsFrom done rest)) ∧
      ∀ kept, ['/'].intercalate (done.reverse ++ kept) =
        front ++ ['/'].intercalate (word :: kept) := by
  obtain ⟨before, last, parts⟩ := segments_append_words path
  obtain ⟨one, two⟩ := ordinary_of_mem (List.mem_append_right last member) letter
  refine ⟨['/'].intercalate (removeDotsFrom [] before ++ [last]),
    (last ++ word) :: (removeDotsFrom [] before).reverse, fun rest wholes => ?_, fun kept => ?_⟩
  · rw [removeDots, parts word rest whole wholes, removeDotsFrom_append,
      removeDotsFrom_ordinary one two]
  · rw [List.reverse_cons, List.reverse_reverse, List.append_assoc]
    exact intercalate_append_word ['/'] (removeDotsFrom [] before) kept last word

/-! ## Endings of request paths -/

/-- How the paths for identifiers may end, given their segments: each in its own way, none as the
path of the state does, and all but dots with the segment behind the same words. -/
structure Endings (ending : List Char → List Char) : Prop where
  ordinary : ∀ segment, segment ≠ ['.'] → segment ≠ ['.', '.'] →
    ending segment = "sdk/identities/".toList ++ segment
  distinct : ∀ first second, ending first = ending second → first = second
  apart : ∀ segment, ending segment ≠ "sdk/initialize".toList
  request : ∀ segment : List Char, (∀ c ∈ segment, isRequestChar c = true) →
    ∀ c ∈ ending segment, isRequestChar c = true

theorem endings_unsettled : Endings ("sdk/identities/".toList ++ ·) := by
  refine ⟨fun _ _ _ => rfl, fun first second same => List.append_cancel_left same, ?_, ?_⟩
  · intro segment same
    exact absurd (congrArg (List.take 14) same) (by simp)
  · intro segment request c member
    rcases List.mem_append.1 member with word | segment
    · have all : "sdk/identities/".toList.all isRequestChar = true := by decide
      exact List.all_eq_true.1 all c word
    · exact request c segment

/-- What a path for an identifier's segment ends in once dots are carried out. -/
def settled (segment : List Char) : List Char :=
  if segment = ['.'] then "sdk/identities".toList
  else if segment = ['.', '.'] then "sdk".toList
  else "sdk/identities/".toList ++ segment

theorem settled_ordinary {segment : List Char} (one : segment ≠ ['.'])
    (two : segment ≠ ['.', '.']) : settled segment = "sdk/identities/".toList ++ segment := by
  rw [settled, if_neg one, if_neg two]

theorem settled_cases (segment : List Char) :
    (segment = ['.'] ∧ settled segment = "sdk/identities".toList) ∨
      (segment = ['.', '.'] ∧ settled segment = "sdk".toList) ∨
        settled segment = "sdk/identities/".toList ++ segment := by
  by_cases one : segment = ['.']
  · rw [one]
    exact .inl ⟨rfl, rfl⟩
  · by_cases two : segment = ['.', '.']
    · rw [two]
      exact .inr (.inl ⟨rfl, rfl⟩)
    · exact .inr (.inr (settled_ordinary one two))

theorem settled_ne_nil (segment : List Char) : settled segment ≠ [] := by
  rcases settled_cases segment with ⟨_, one⟩ | ⟨_, one⟩ | one <;> rw [one] <;> simp

theorem endings_settled : Endings settled := by
  refine ⟨fun segment one two => settled_ordinary one two, ?_, ?_, ?_⟩
  · intro first second same
    have lengths := congrArg List.length same
    rcases settled_cases first with ⟨dots, one⟩ | ⟨dots, one⟩ | one <;>
      rcases settled_cases second with ⟨others, other⟩ | ⟨others, other⟩ | other <;>
        rw [one, other] at same lengths
    · exact dots.trans others.symm
    · exact absurd lengths (by decide)
    · exact absurd lengths (by simp)
    · exact absurd lengths (by decide)
    · exact dots.trans others.symm
    · exact absurd lengths (by simp)
    · exact absurd lengths (by simp)
    · exact absurd lengths (by simp)
    · exact List.append_cancel_left same
  · intro segment same
    rcases settled_cases segment with ⟨_, one⟩ | ⟨_, one⟩ | one <;> rw [one] at same
    · exact absurd same (by decide)
    · exact absurd same (by decide)
    · exact absurd (congrArg List.length same) (by simp)
  · intro segment request c member
    rcases settled_cases segment with ⟨_, one⟩ | ⟨_, one⟩ | one <;> rw [one] at member
    · have all : "sdk/identities".toList.all isRequestChar = true := by decide
      exact List.all_eq_true.1 all c member
    · have all : "sdk".toList.all isRequestChar = true := by decide
      exact List.all_eq_true.1 all c member
    · exact endings_unsettled.request segment request c member

/-- The segments of request paths behind a base path, whose own segments are carried out first. -/
theorem removeDots_behind (target : List Char) :
    ∃ front,
      removeDots (target ++ "sdk/initialize".toList) = front ++ "sdk/initialize".toList ∧
      ∀ segment, '/' ∉ segment →
        removeDots (target ++ ("sdk/identities/".toList ++ segment)) =
          front ++ settled segment := by
  obtain ⟨front, done, removed, joined⟩ := removeDots_words target "sdk".toList
    (List.mem_cons_self ..) (by decide : 's' ≠ '.') (by decide)
  refine ⟨front, ?_, fun segment whole => ?_⟩
  · have spelled : "sdk/initialize".toList =
        ['/'].intercalate ["sdk".toList, "initialize".toList] := by decide
    rw [spelled, removed ["initialize".toList] (by decide), ← joined,
      removeDotsFrom_ordinary (by decide) (by decide), removeDotsFrom, List.reverse_cons]
  · have wholes : ∀ part ∈ ["identities".toList, segment], '/' ∉ part := by
      simpa using whole
    have spelled : "sdk/identities/".toList ++ segment =
        ['/'].intercalate ["sdk".toList, "identities".toList, segment] := by
      simp
    rw [spelled, removed _ wholes, removeDotsFrom_ordinary (by decide) (by decide), settled]
    split
    · next one =>
        rw [one, removeDotsFrom, removeDotsFrom, List.reverse_cons, joined]
        rfl
    · split
      · next two =>
          rw [two, removeDotsFrom, removeDotsFrom, if_neg (by simp), List.tail_cons,
            ← List.append_nil done.reverse, joined]
          rfl
      · next one two =>
          rw [removeDotsFrom_ordinary one two, removeDotsFrom, List.reverse_cons, List.reverse_cons,
            List.append_assoc, joined, spelled]
          rfl

end FeatureFlags.Http
