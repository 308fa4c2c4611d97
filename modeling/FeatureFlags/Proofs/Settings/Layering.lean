import FeatureFlags.Proofs.Settings.Building
import FeatureFlags.Proofs.Yaml.Document

/-!
# Layers of settings

Two files are laid over each other mapping by mapping, but settings come out as if each of them were
taken from the upper section where it stands there, and else from the lower one: `fieldwise`.  The
exception is two sections that lie over each other deeper than an interpreter lays mappings over
mappings, beside the settings or in them.  Of whatever reads YAML this asks one thing: a mapping has
each of its labels once.
-/

set_option autoImplicit false

namespace FeatureFlags.Settings

open Yaml (Data Label Distinct)

/-! ## Sections -/

/-- The files hold sections of settings under texts; a file that is not there holds nothing. -/
inductive Sections (loader : Loader) (base : File) (above : Option File) :
    (upper lower : List (Label × Data)) → Prop where
  | alone {lower : List (Label × Data)} (holds : base.Holds loader lower) (texts : ¬IsMixed lower)
      (alone : ∀ file, ¬IsAbove above file) : Sections loader base above [] lower
  | both {upper lower : List (Label × Data)} {file : File} (holds : base.Holds loader lower)
      (texts : ¬IsMixed lower) (isAbove : IsAbove above file)
      (upperHolds : file.Holds loader upper) (upperTexts : ¬IsMixed upper) :
      Sections loader base above upper lower

/-- Along some path that is too long both sections hold mappings. -/
def Entangled (loader : Loader) (upper lower : List (Label × Data)) : Prop :=
  ∃ path : List Label, path.length = loader.nesting + 1 ∧ Yaml.MeetAt upper lower path

def Loader.NamesOnce (loader : Loader) : Prop :=
  ∀ depth text entries, loader.read depth text = .ok (.map entries) → Distinct entries

theorem namesOnce_usual : Loader.usual.NamesOnce := by
  intro depth text entries read
  exact Yaml.distinct_of_ofText read

theorem File.Holds.distinct {loader : Loader} (names : loader.NamesOnce) {file : File}
    {entries : List (Label × Data)} (holds : file.Holds loader entries) : Distinct entries := by
  cases holds with
  | empty => exact Yaml.distinct_nil
  | whole holds noSection =>
      obtain ⟨text, -, read⟩ := holds
      exact names _ text _ read
  | inSection holds found =>
      obtain ⟨text, -, read⟩ := holds
      exact (names _ text _ read).inner found

variable {loader : Loader} {base : File} {above : Option File} {upper lower : List (Label × Data)}

theorem Sections.distinct (names : loader.NamesOnce)
    (sections : Sections loader base above upper lower) : Distinct upper := by
  cases sections with
  | alone => exact Yaml.distinct_nil
  | both holds texts isAbove upperHolds upperTexts => exact upperHolds.distinct names

theorem not_isMixed_iff {entries : List (Label × Data)} :
    ¬IsMixed entries ↔ entries.all (isText ·.1) = true := by
  rw [exists_mixed_iff, List.all_eq_true]
  constructor
  · rintro texts ⟨label, data⟩ member
    cases text : isText label with
    | true => rfl
    | false => exact absurd ⟨label, data, member, text⟩ texts
  · rintro texts ⟨label, data, member, noText⟩
    cases noText.symm.trans (texts _ member)

theorem settingsOf_of_texts {entries : List (Label × Data)} (texts : ¬IsMixed entries) :
    settingsOf entries = ofEntries entries := by
  rw [settingsOf, if_pos (not_isMixed_iff.mp texts)]

theorem not_entangled_nil : ¬Entangled loader [] lower := by
  rintro ⟨path, length, meet⟩
  cases path with
  | nil => cases length
  | cons label path =>
      obtain ⟨above, below, found, -⟩ := Yaml.meetAt_cons_iff.mp meet
      cases found

theorem load_of_entangled (names : loader.NamesOnce)
    (sections : Sections loader base above upper lower) (entangled : Entangled loader upper lower) :
    loader.load base above = .error (.foreign (.tooDeep .overlay)) := by
  have deep := (Yaml.reaches_iff (sections.distinct names) _).mpr entangled
  cases sections with
  | alone => exact absurd entangled not_entangled_nil
  | both holds texts isAbove upperHolds upperTexts =>
      exact load_eq_error_iff.mpr (.overlay holds isAbove upperHolds deep)

theorem load_of_not_entangled (names : loader.NamesOnce)
    (sections : Sections loader base above upper lower) (within : ¬Entangled loader upper lower) :
    loader.load base above = ofEntries (Yaml.overlay upper lower) := by
  have gathers : Gathers loader base above (Yaml.overlay upper lower) ∧
      ¬IsMixed (Yaml.overlay upper lower) := by
    have reaches : Yaml.reaches (loader.nesting + 1) upper lower = false := by
      rw [Bool.eq_false_iff]
      exact fun deep => within ((Yaml.reaches_iff (sections.distinct names) _).mp deep)
    cases sections with
    | alone holds texts alone =>
        rw [Yaml.overlay]
        exact ⟨.alone holds alone, texts⟩
    | both holds texts isAbove upperHolds upperTexts =>
        refine ⟨.both holds isAbove upperHolds reaches, ?_⟩
        rw [isMixed_overlay_iff]
        exact not_or.mpr ⟨upperTexts, texts⟩
  obtain ⟨gathers, texts⟩ := gathers
  rw [load_eq, layered_eq_ok_iff.mpr gathers, ← settingsOf_of_texts texts]
  rfl

/-! ## Setting by setting -/

def Field.all : List Field :=
  [.apiKey, .host, .port, .protocol, .timeout]

/-- The value of a setting: that of the upper section where it stands there, null or not. -/
def chosen (upper lower : List (Label × Data)) (field : Field) : Option Data :=
  (upper.lookup (.text field.name)).or (lower.lookup (.text field.name))

/-- The values of the settings, each from one of the sections. -/
def fieldwise (upper lower : List (Label × Data)) : List (Label × Data) :=
  Field.all.filterMap fun field =>
    (chosen upper lower field).map fun data => (.text field.name, data)

theorem Field.name_injective {field other : Field} (same : field.name = other.name) :
    field = other := by
  cases field <;> cases other <;> simp_all [Field.name]

theorem lookup_fieldwise (field : Field) :
    (fieldwise upper lower).lookup (.text field.name) = chosen upper lower field := by
  rw [fieldwise, Entries.lookup_named (fun field : Field => Label.text field.name), if_pos]
  · cases field <;> decide
  · exact fun field other same => Field.name_injective (Label.text.inj same)

/-! ## Mappings are no settings -/

/-- Two values are one, or both are mappings. -/
def Alike (left right : Option Data) : Prop :=
  left = right ∨ ∃ inner other, left = some (.map inner) ∧ right = some (.map other)

theorem Alike.symm {left right : Option Data} (alike : Alike left right) : Alike right left := by
  rcases alike with rfl | ⟨inner, other, isMap, isOther⟩
  · exact .inl rfl
  · exact .inr ⟨other, inner, isOther, isMap⟩

theorem Alike.filter {left right : Option Data} (alike : Alike left right) :
    Alike (left.filter (!·.isNull)) (right.filter (!·.isNull)) := by
  rcases alike with rfl | ⟨inner, other, rfl, rfl⟩
  · exact .inl rfl
  · exact .inr ⟨inner, other, rfl, rfl⟩

/-- A mapping over anything is a mapping, and anything else stands as it is. -/
theorem alike_over (data : Data) (below : Option Data) :
    Alike (some (data.over below)) (some data) := by
  by_cases isMap : data.IsMap
  · obtain ⟨inner, rfl⟩ := isMap
    refine .inr ?_
    cases below with
    | none => exact ⟨inner, inner, congrArg some (Data.over_none _), rfl⟩
    | some data =>
        by_cases isMap : data.IsMap
        · obtain ⟨under, rfl⟩ := isMap
          exact ⟨_, inner, congrArg some (Data.over_map inner under), rfl⟩
        · exact ⟨inner, inner, congrArg some (Data.over_beside isMap _), rfl⟩
  · exact .inl (congrArg some (Data.over_of_not_isMap isMap below))

theorem alike_given (distinct : Distinct upper) (field : Field) :
    Alike (given? (Yaml.overlay upper lower) field) (given? (fieldwise upper lower) field) := by
  refine Alike.filter ?_
  rw [lookup_fieldwise, Yaml.lookup_overlay distinct.labels, chosen]
  cases upper.lookup (.text field.name) with
  | none => exact .inl rfl
  | some data => exact alike_over data _

theorem readOr_of_alike {Item : Type} {usual item : Item} {read : Data → Except Problem Item}
    {entries others : List (Label × Data)} {field : Field}
    (alike : Alike (given? entries field) (given? others field))
    (noMap : ∀ inner, read (.map inner) ≠ .ok item)
    (result : readOr usual read entries field = .ok item) :
    readOr usual read others field = .ok item := by
  rcases alike with same | ⟨inner, other, isMap, -⟩
  · rw [readOr, ← same]
    exact result
  · rw [readOr, isMap] at result
    exact absurd result (noMap inner)

theorem Reads.of_alike {entries others : List (Label × Data)} {settings : Settings}
    (alike : ∀ field, Alike (given? entries field) (given? others field))
    (reads : Reads entries settings) : Reads others settings where
  apiKey := by
    obtain ⟨key, given, filled, read⟩ := reads.apiKey
    rcases alike .apiKey with same | ⟨inner, other, isMap, -⟩
    · exact ⟨key, same.symm.trans given, filled, read⟩
    · cases isMap.symm.trans given
      cases read
  host := readOr_of_alike (alike .host) nofun reads.host
  port := readOr_of_alike (alike .port) nofun reads.port
  protocol := readOr_of_alike (alike .protocol) nofun reads.protocol
  timeout := readOr_of_alike (alike .timeout) nofun reads.timeout

theorem ofEntries_overlay_iff (distinct : Distinct upper) {settings : Settings} :
    ofEntries (Yaml.overlay upper lower) = .ok settings ↔
      ofEntries (fieldwise upper lower) = .ok settings := by
  rw [ofEntries_eq_ok_iff, ofEntries_eq_ok_iff]
  constructor
  · exact Reads.of_alike (alike_given distinct)
  · exact Reads.of_alike fun field => (alike_given distinct field).symm

/-! ## The law -/

structure Layering (loader : Loader) (base : File) (above : Option File)
    (upper lower : List (Label × Data)) : Prop where
  loads : ∀ settings, loader.load base above = .ok settings ↔
    ofEntries (fieldwise upper lower) = .ok settings ∧ ¬Entangled loader upper lower
  refused : ¬Entangled loader upper lower →
    (∀ settings, ofEntries (fieldwise upper lower) ≠ .ok settings) →
      ∃ fault, loader.load base above = .error (.configuration fault)
  entangled : Entangled loader upper lower →
    loader.load base above = .error (.foreign (.tooDeep .overlay))
  /-- A null in the upper section resets a setting to its default. -/
  reset : ∀ field, upper.lookup (.text field.name) = some .null →
    given? (fieldwise upper lower) field = none
  /-- Whatever else stands in the sections does not matter. -/
  beside : ∀ otherBase otherAbove otherUpper otherLower,
    Sections loader otherBase otherAbove otherUpper otherLower →
      ¬Entangled loader otherUpper otherLower → ¬Entangled loader upper lower →
        (∀ field, chosen otherUpper otherLower field = chosen upper lower field) →
          ∀ settings, loader.load otherBase otherAbove = .ok settings ↔
            loader.load base above = .ok settings
  /-- An upper section without entries is as good as none. -/
  empty : upper = [] → loader.load base above = loader.load base none

theorem Sections.loads (names : loader.NamesOnce)
    (sections : Sections loader base above upper lower) (settings : Settings) :
    loader.load base above = .ok settings ↔
      ofEntries (fieldwise upper lower) = .ok settings ∧ ¬Entangled loader upper lower := by
  by_cases entangled : Entangled loader upper lower
  · rw [load_of_entangled names sections entangled]
    exact iff_of_false nofun fun both => both.2 entangled
  · rw [load_of_not_entangled names sections entangled,
      ofEntries_overlay_iff (sections.distinct names)]
    exact (and_iff_left entangled).symm

theorem Sections.load_of_empty (names : loader.NamesOnce)
    (sections : Sections loader base above [] lower) :
    loader.load base above = loader.load base none := by
  have alone : Sections loader base none [] lower := by
    cases sections with
    | alone holds texts | both holds texts =>
        exact .alone holds texts fun file isAbove => nomatch isAbove.1
  rw [load_of_not_entangled names sections not_entangled_nil,
    load_of_not_entangled names alone not_entangled_nil]

theorem load_layering (names : loader.NamesOnce)
    (sections : Sections loader base above upper lower) :
    Layering loader base above upper lower where
  loads := sections.loads names
  refused within refused := by
    rw [load_of_not_entangled names sections within]
    cases built : ofEntries (Yaml.overlay upper lower) with
    | ok settings =>
        have taken := (ofEntries_overlay_iff (sections.distinct names)).mp built
        exact absurd taken (refused settings)
    | error error =>
        obtain ⟨fault, rfl⟩ := exists_configuration_of_ofEntries built
        exact ⟨fault, rfl⟩
  entangled := load_of_entangled names sections
  reset field null := by
    rw [given?, lookup_fieldwise, chosen, null]
    rfl
  beside otherBase otherAbove otherUpper otherLower others otherWithin within same settings := by
    have equal : fieldwise otherUpper otherLower = fieldwise upper lower := by
      rw [fieldwise, fieldwise, funext same]
    rw [sections.loads names, others.loads names, equal]
    exact and_congr_right fun _ => iff_of_true otherWithin within
  empty none := by
    subst none
    exact sections.load_of_empty names

/-! Settings in a file, and a section that resets one of them. -/

theorem dataOf_usual (text : List Char) :
    Loader.usual.dataOf text = Data.ofText usualCalls (Loader.usual.nesting + 3) text := rfl

def plainText : List Char := "\x7bapi_key: key, port: 80\x7d".toList

def plainGraph : Yaml.Graph :=
  ⟨#[⟨.map, .mapping [(1, 2), (3, 4)]⟩, ⟨.str, .scalar "api_key".toList⟩,
    ⟨.str, .scalar "key".toList⟩, ⟨.str, .scalar "port".toList⟩, ⟨.int, .scalar "80".toList⟩], [0]⟩

def plainDraft : Yaml.Draft :=
  ⟨usualCalls, plainGraph,
    #[some (.collection 0), some (.whole (.text "api_key")), some (.whole (.text "key")),
      some (.whole (.text "port")), some (.whole (.int 80))], #[0],
    #[some (.map [(.text "api_key", .whole (.text "key")), (.text "port", .whole (.int 80))]),
      none, none, none, none]⟩

def plainFile : File :=
  ⟨"base.yaml", .bytes (Text.Utf8.encode plainText)⟩

def plainEntries : List (Label × Data) :=
  [(.text "api_key", .text "key"), (.text "port", .int 80)]

theorem plainFile_holds : plainFile.Holds .usual plainEntries := by
  have read : (Yaml.Graph.ofText usualCalls plainText).toOption = some (plainGraph, some 0) := by
    decide +kernel
  have completed : (Yaml.Draft.complete 0).run (.ofGraph usualCalls plainGraph) =
      .ok (.collection 0, plainDraft) := by
    rfl
  have whole : Loader.usual.dataOf plainText = .ok (.map plainEntries) := by
    rw [dataOf_usual, Data.ofText_of_complete read completed, Yaml.Draft.unfold_of_stable rfl rfl]
    rfl
  exact .whole ⟨plainText, ⟨plainText, rfl, rfl⟩, whole⟩ rfl

def resetText : List Char := "\x7bswitcherlabs: \x7bport: ~\x7d\x7d".toList

def resetGraph : Yaml.Graph :=
  ⟨#[⟨.map, .mapping [(1, 2)]⟩, ⟨.str, .scalar "switcherlabs".toList⟩, ⟨.map, .mapping [(3, 4)]⟩,
    ⟨.str, .scalar "port".toList⟩, ⟨.null, .scalar "~".toList⟩], [2, 0]⟩

def resetDraft : Yaml.Draft :=
  ⟨usualCalls, resetGraph,
    #[some (.collection 0), some (.whole (.text "switcherlabs")), some (.collection 2),
      some (.whole (.text "port")), some (.whole .null)], #[0, 2],
    #[some (.map [(.text "switcherlabs", .collection 2)]), none,
      some (.map [(.text "port", .whole .null)]), none, none]⟩

def resetFile : File :=
  ⟨"env.yaml", .bytes (Text.Utf8.encode resetText)⟩

def resetEntries : List (Label × Data) :=
  [(.text "port", .null)]

theorem resetFile_holds : resetFile.Holds .usual resetEntries := by
  have read : (Yaml.Graph.ofText usualCalls resetText).toOption = some (resetGraph, some 0) := by
    decide +kernel
  have completed : (Yaml.Draft.complete 0).run (.ofGraph usualCalls resetGraph) =
      .ok (.collection 0, resetDraft) := by
    rfl
  have whole : Loader.usual.dataOf resetText =
      .ok (.map [(.text sectionName, .map resetEntries)]) := by
    rw [dataOf_usual, Data.ofText_of_complete read completed, Yaml.Draft.unfold_of_stable rfl rfl]
    rfl
  exact .inSection ⟨resetText, ⟨resetText, rfl, rfl⟩, whole⟩ rfl

theorem load_layering_reset : Loader.usual.NamesOnce ∧
    Sections .usual plainFile (some resetFile) resetEntries plainEntries ∧
      Layering .usual plainFile (some resetFile) resetEntries plainEntries := by
  have sections : Sections .usual plainFile (some resetFile) resetEntries plainEntries :=
    .both plainFile_holds (not_isMixed_iff.mpr rfl) ⟨rfl, nofun⟩ resetFile_holds
      (not_isMixed_iff.mpr rfl)
  exact ⟨namesOnce_usual, sections, load_layering namesOnce_usual sections⟩

/-! Settings in a mapping that contains itself. -/

def ringText : List Char := "&a \x7bapi_key: key, a: *a\x7d".toList

def ringGraph : Yaml.Graph :=
  ⟨#[⟨.map, .mapping [(1, 2), (3, 0)]⟩, ⟨.str, .scalar "api_key".toList⟩,
    ⟨.str, .scalar "key".toList⟩, ⟨.str, .scalar "a".toList⟩], [0]⟩

def ringDraft : Yaml.Draft :=
  ⟨usualCalls, ringGraph,
    #[some (.collection 0), some (.whole (.text "api_key")), some (.whole (.text "key")),
      some (.whole (.text "a"))], #[0],
    #[some (.map [(.text "api_key", .whole (.text "key")), (.text "a", .collection 0)]),
      none, none, none]⟩

def ring : (depth : Nat) → Data
  | 0 => .null
  | depth + 1 => .map [(.text "api_key", .text "key"), (.text "a", ring depth)]

def ringEntries (depth : Nat) : List (Label × Data) :=
  [(.text "api_key", .text "key"), (.text "a", ring depth)]

theorem unfold_ringDraft (depth : Nat) :
    ringDraft.unfold depth = #[ring depth, .null, .null, .null] := by
  induction depth with
  | zero => rfl
  | succ depth inductionHypothesis =>
      rw [Yaml.Draft.unfold, inductionHypothesis]
      rfl

theorem ofText_ringText (depth : Nat) :
    Data.ofText usualCalls (depth + 1) ringText = .ok (.map (ringEntries depth)) := by
  have read : (Yaml.Graph.ofText usualCalls ringText).toOption = some (ringGraph, some 0) := by
    decide +kernel
  have completed : (Yaml.Draft.complete 0).run (.ofGraph usualCalls ringGraph) =
      .ok (.collection 0, ringDraft) := by
    rfl
  rw [Data.ofText_of_complete read completed, unfold_ringDraft]
  rfl

theorem at?_ring (depth count : Nat) :
    (ring (depth + count)).at? (List.replicate count (.text "a")) = some (ring depth) := by
  induction count with
  | zero => rfl
  | succ count inductionHypothesis => exact inductionHypothesis

theorem meetAt_ring (depth count : Nat) :
    Yaml.MeetAt (ringEntries (depth + count)) (ringEntries (depth + count))
      (List.replicate count (.text "a")) := by
  have found : (Data.map (ringEntries (depth + count))).at? (List.replicate count (.text "a")) =
      some (.map (ringEntries depth)) := by
    have shifted : depth + count + 1 = depth + 1 + count := by omega
    have along := at?_ring (depth + 1) count
    rw [← shifted] at along
    exact along
  exact ⟨_, _, found, found⟩

def ringFile (name : String) : File :=
  ⟨name, .bytes (Text.Utf8.encode ringText)⟩

/-- Deeper than the usual loader lays mappings over mappings. -/
def beyond : Nat :=
  Loader.usual.nesting + 1

theorem ringFile_holds (name : String) :
    (ringFile name).Holds .usual (ringEntries (1 + beyond)) := by
  have whole : Loader.usual.dataOf ringText = .ok (.map (ringEntries (1 + beyond))) :=
    ofText_ringText (1 + beyond)
  exact .whole ⟨ringText, ⟨ringText, rfl, rfl⟩, whole⟩ rfl

/-- Two files that are good settings each, also taken field by field, but cannot be laid over each
other. -/
theorem ring_over_ring :
    ∃ upper lower settings,
      Sections .usual (ringFile "base.yaml") (some (ringFile "env.yaml")) upper lower ∧
        ofEntries (fieldwise upper lower) = .ok settings ∧
          load (ringFile "base.yaml") (some (ringFile "env.yaml")) =
            .error (.foreign (.tooDeep .overlay)) := by
  have texts : ∀ depth, ¬IsMixed (ringEntries depth) := fun depth => not_isMixed_iff.mpr rfl
  have sections : Sections .usual (ringFile "base.yaml") (some (ringFile "env.yaml"))
      (ringEntries (1 + beyond)) (ringEntries (1 + beyond)) :=
    .both (ringFile_holds _) (texts _) ⟨rfl, nofun⟩ (ringFile_holds _) (texts _)
  have entangled : Entangled .usual (ringEntries (1 + beyond)) (ringEntries (1 + beyond)) :=
    ⟨_, List.length_replicate, meetAt_ring 1 beyond⟩
  have built : ∀ depth, ofEntries (fieldwise (ringEntries depth) (ringEntries depth)) =
      .ok ⟨"key", defaultHost, defaultPort, .https, defaultTimeout⟩ := fun depth => rfl
  exact ⟨_, _, _, sections, built _, load_of_entangled namesOnce_usual sections entangled⟩

end FeatureFlags.Settings
