import FeatureFlags.Proofs.Entries
import FeatureFlags.Proofs.Result
import FeatureFlags.Proofs.Text.Utf8
import FeatureFlags.Settings.File

/-!
# How settings are loaded

Loading ends with settings, with a configuration error, or with an error from outside the library,
and `load_ends` says which files bring which.  The stages come in order: the text of a file before
its data, the data before its section, the base file before the one above it, both before they are
laid over each other, and that before the names and the values of the settings are looked at.
-/

set_option autoImplicit false

namespace FeatureFlags.Settings

open Yaml (Data Label)

/-- A failure is a configuration fault of one kind or a foreign failure of another; there are no
others. -/
def FailsBy (refused : ConfigurationFault → Prop) (escapes : Foreign → Prop) : Error → Prop
  | .configuration fault => refused fault
  | .foreign failure => escapes failure
  | _ => False

theorem FailsBy.imp {refused refused' : ConfigurationFault → Prop}
    {escapes escapes' : Foreign → Prop}
    (worded : ∀ fault, refused fault → refused' fault)
    (unworded : ∀ failure, escapes failure → escapes' failure) {error : Error}
    (fails : FailsBy refused escapes error) : FailsBy refused' escapes' error := by
  cases error with
  | configuration fault => exact worded fault fails
  | foreign failure => exact unworded failure fails
  | _ => cases fails

/-! ## Texts and data of files -/

namespace File

variable {loader : Loader} {file : File}

def HasText (file : File) (text : List Char) : Prop :=
  ∃ written, file.content = .bytes (Text.Utf8.encode written) ∧ text = unifyBreaks written

def IsAbsent (file : File) : Prop :=
  file.content = .missing ∨ file.content = .directory

theorem text_eq_ok_iff {text : List Char} : file.text = .ok text ↔ file.HasText text := by
  unfold HasText
  cases content : file.content with
  | missing | directory => simp [File.text, content]
  | bytes bytes =>
      simp only [File.text, content, Content.bytes.injEq]
      cases read : Text.Utf8.decode bytes with
      | error fault =>
          refine iff_of_false nofun ?_
          rintro ⟨written, rfl, _⟩
          cases (Text.Utf8.decode_encode written).symm.trans read
      | ok written =>
          constructor
          · rintro ⟨⟩
            exact ⟨written, (Text.Utf8.encode_of_decode read).symm, rfl⟩
          · rintro ⟨other, rfl, rfl⟩
            cases (Text.Utf8.decode_encode other).symm.trans read
            rfl

theorem text_eq_error_iff {error : Error} :
    file.text = .error error ↔
      (file.IsAbsent ∧ error = .configuration (.unreadableFile file.name)) ∨
        ∃ bytes fault, file.content = .bytes bytes ∧ Text.Utf8.decode bytes = .error fault ∧
          error = .foreign (.undecodable fault) := by
  unfold IsAbsent
  cases content : file.content with
  | missing | directory => simp [File.text, content, eq_comm]
  | bytes bytes =>
      simp only [File.text, content]
      cases read : Text.Utf8.decode bytes with
      | error fault => simp [read, eq_comm]
      | ok written => simp [read]

/-- What escapes when a file is read: bytes that are no text, a scalar that is not what its tag
promises, and YAML that is nested too deep. -/
inductive Escapes (loader : Loader) (file : File) : Foreign → Prop where
  | undecodable {bytes : List UInt8} {fault : Text.Utf8.Fault}
      (content : file.content = .bytes bytes)
      (broken : Text.Utf8.decode bytes = .error fault) : Escapes loader file (.undecodable fault)
  | scalar {text : List Char} {fault : ScalarFault} (read : file.HasText text)
      (broken : loader.dataOf text = .error (.scalar fault)) :
      Escapes loader file (.scalar fault)
  | tooDeep {text : List Char} (read : file.HasText text)
      (deep : loader.dataOf text = .error .tooDeep) :
      Escapes loader file (.tooDeep .document)

def HasData (loader : Loader) (file : File) (data : Data) : Prop :=
  ∃ text, file.HasText text ∧ loader.dataOf text = .ok data

inductive Refused (loader : Loader) (file : File) : ConfigurationFault → Prop where
  | absent (absent : file.IsAbsent) : Refused loader file (.unreadableFile file.name)
  | malformed {text : List Char} (read : file.HasText text)
      (malformed : loader.dataOf text = .error .malformed) :
      Refused loader file (.malformedYaml file.name)
  | root {data : Data} (holds : file.HasData loader data) (filled : data.isFalsy = false)
      (other : ∀ entries, data ≠ .map entries) : Refused loader file (.rootNotMapping file.name)
  | sectionShape {entries : List (Label × Data)} {data : Data}
      (holds : file.HasData loader (.map entries))
      (found : entries.lookup (.text sectionName) = some data)
      (other : ∀ settings, data ≠ .map settings) :
      Refused loader file (.sectionNotMapping file.name)

inductive Holds (loader : Loader) (file : File) : List (Label × Data) → Prop where
  | empty {data : Data} (holds : file.HasData loader data) (falsy : data.isFalsy = true) :
      Holds loader file []
  | whole {entries : List (Label × Data)} (holds : file.HasData loader (.map entries))
      (noSection : entries.lookup (.text sectionName) = none) : Holds loader file entries
  | inSection {entries settings : List (Label × Data)}
      (holds : file.HasData loader (.map entries))
      (found : entries.lookup (.text sectionName) = some (.map settings)) :
      Holds loader file settings

def told (file : File) : Yaml.Fault → Error
  | .malformed => .configuration (.malformedYaml file.name)
  | .scalar fault => .foreign (.scalar fault)
  | .tooDeep => .foreign (.tooDeep .document)

theorem data_eq (loader : Loader) (file : File) : loader.data file = file.text >>= fun text =>
    (loader.dataOf text).mapError file.told := by
  unfold Loader.data
  refine bind_congr fun text => ?_
  cases loader.dataOf text with
  | ok data => rfl
  | error fault => cases fault <;> rfl

theorem data_eq_ok_iff {data : Data} : loader.data file = .ok data ↔ file.HasData loader data := by
  rw [data_eq, bind_eq_ok_iff, HasData]
  simp only [text_eq_ok_iff, mapError_eq_ok_iff]

theorem data_eq_error_iff {error : Error} :
    loader.data file = .error error ↔ file.text = .error error ∨
      ∃ text fault, file.HasText text ∧ loader.dataOf text = .error fault ∧
        error = file.told fault := by
  rw [data_eq, bind_eq_error_iff]
  simp only [text_eq_ok_iff, mapError_eq_error_iff, exists_and_left]

def settingsIn (file : File) (data : Data) : Except Error (List (Label × Data)) :=
  match if data.isFalsy then .map [] else data with
  | .map entries =>
      match entries.lookup (.text sectionName) with
      | none => .ok entries
      | some (.map settings) => .ok settings
      | some _ => .error (.configuration (.sectionNotMapping file.name))
  | _ => .error (.configuration (.rootNotMapping file.name))

theorem entries_eq (loader : Loader) (file : File) :
    loader.entries file = loader.data file >>= file.settingsIn := by
  unfold Loader.entries
  cases loader.data file with
  | error error => rfl
  | ok data => rfl

theorem settingsIn_map (entries : List (Label × Data)) :
    file.settingsIn (.map entries) =
      match entries.lookup (.text sectionName) with
      | none => .ok entries
      | some (.map settings) => .ok settings
      | some _ => .error (.configuration (.sectionNotMapping file.name)) := by
  cases entries <;> rfl

theorem settingsIn_of_falsy {data : Data} (falsy : data.isFalsy = true) :
    file.settingsIn data = .ok [] := by
  rw [settingsIn, falsy]
  rfl

theorem settingsIn_of_other {data : Data} (filled : data.isFalsy = false)
    (other : ∀ entries, data ≠ .map entries) :
    file.settingsIn data = .error (.configuration (.rootNotMapping file.name)) := by
  rw [settingsIn, filled]
  split
  · next entries same => exact absurd same (other entries)
  · rfl

theorem falsy_or_map_or_other (data : Data) :
    data.isFalsy = true ∨ (∃ entries, data = .map entries) ∨
      data.isFalsy = false ∧ ∀ entries, data ≠ .map entries := by
  cases falsy : data.isFalsy with
  | true => exact .inl rfl
  | false =>
      cases data with
      | map entries => exact .inr (.inl ⟨entries, rfl⟩)
      | _ => exact .inr (.inr ⟨rfl, nofun⟩)

theorem entries_eq_ok_iff {entries : List (Label × Data)} :
    loader.entries file = .ok entries ↔ file.Holds loader entries := by
  rw [entries_eq, bind_eq_ok_iff]
  simp only [data_eq_ok_iff]
  constructor
  · rintro ⟨data, holds, selected⟩
    obtain falsy | ⟨held, rfl⟩ | ⟨filled, other⟩ := falsy_or_map_or_other data
    · rw [settingsIn_of_falsy falsy] at selected
      cases selected
      exact .empty holds falsy
    · rw [settingsIn_map] at selected
      split at selected
      · next noSection =>
          cases selected
          exact .whole holds noSection
      · next found =>
          cases selected
          exact .inSection holds found
      · cases selected
    · rw [settingsIn_of_other filled other] at selected
      cases selected
  · intro holds
    cases holds with
    | empty holds falsy => exact ⟨_, holds, settingsIn_of_falsy falsy⟩
    | whole holds noSection => exact ⟨_, holds, by rw [settingsIn_map, noSection]⟩
    | inSection holds found => exact ⟨_, holds, by rw [settingsIn_map, found]⟩

theorem entries_eq_error_iff {error : Error} :
    loader.entries file = .error error ↔
      FailsBy (file.Refused loader) (file.Escapes loader) error := by
  rw [entries_eq, bind_eq_error_iff, data_eq_error_iff, text_eq_error_iff]
  simp only [data_eq_ok_iff]
  constructor
  · rintro (((⟨absent, rfl⟩ | ⟨bytes, fault, content, broken, rfl⟩) |
      ⟨text, fault, read, broken, rfl⟩) | ⟨data, holds, failed⟩)
    · exact .absent absent
    · exact .undecodable content broken
    · cases fault with
      | malformed => exact .malformed read broken
      | scalar fault => exact .scalar read broken
      | tooDeep => exact .tooDeep read broken
    · obtain falsy | ⟨held, rfl⟩ | ⟨filled, other⟩ := falsy_or_map_or_other data
      · rw [settingsIn_of_falsy falsy] at failed
        cases failed
      · rw [settingsIn_map] at failed
        split at failed
        · cases failed
        · cases failed
        · next other found =>
            cases failed
            exact .sectionShape holds found other
      · rw [settingsIn_of_other filled other] at failed
        cases failed
        exact .root holds filled other
  · intro fails
    cases error with
    | configuration fault =>
        cases fails with
        | absent absent => exact .inl (.inl (.inl ⟨absent, rfl⟩))
        | malformed read malformed => exact .inl (.inr ⟨_, _, read, malformed, rfl⟩)
        | root holds filled other => exact .inr ⟨_, holds, settingsIn_of_other filled other⟩
        | sectionShape holds found other =>
            refine .inr ⟨_, holds, ?_⟩
            rw [settingsIn_map, found]
            split
            · next none => cases none
            · next same =>
                cases same
                exact absurd rfl (other _)
            · rfl
    | foreign failure =>
        cases fails with
        | undecodable content broken => exact .inl (.inl (.inr ⟨_, _, content, broken, rfl⟩))
        | scalar read broken | tooDeep read broken => exact .inl (.inr ⟨_, _, read, broken, rfl⟩)
    | _ => cases fails

end File

/-! ## Two files -/

def IsAbove (above : Option File) (file : File) : Prop :=
  above = some file ∧ file.content ≠ .missing

inductive Gathers (loader : Loader) (base : File) (above : Option File) :
    List (Label × Data) → Prop where
  | alone {lower : List (Label × Data)} (holds : base.Holds loader lower)
      (alone : ∀ file, ¬IsAbove above file) : Gathers loader base above lower
  | both {lower upper : List (Label × Data)} {file : File} (holds : base.Holds loader lower)
      (isAbove : IsAbove above file) (upperHolds : file.Holds loader upper)
      (within : Yaml.reaches (loader.nesting + 1) upper lower = false) :
      Gathers loader base above (Yaml.overlay upper lower)

inductive Escapes (loader : Loader) (base : File) (above : Option File) : Foreign → Prop where
  | base {failure : Foreign} (escapes : base.Escapes loader failure) :
      Escapes loader base above failure
  | above {lower : List (Label × Data)} {file : File} {failure : Foreign}
      (holds : base.Holds loader lower) (isAbove : IsAbove above file)
      (escapes : file.Escapes loader failure) : Escapes loader base above failure
  /-- Mappings lie over mappings deeper than they can be laid over each other. -/
  | overlay {lower upper : List (Label × Data)} {file : File} (holds : base.Holds loader lower)
      (isAbove : IsAbove above file) (upperHolds : file.Holds loader upper)
      (deep : Yaml.reaches (loader.nesting + 1) upper lower = true) :
      Escapes loader base above (.tooDeep .overlay)
  | keyword {entries : List (Label × Data)} {label : Label} {data : Data}
      (gathers : Gathers loader base above entries) (listed : (label, data) ∈ entries)
      (noText : isText label = false) : Escapes loader base above .keywordNotText

inductive Refused (loader : Loader) (base : File) (above : Option File) :
    ConfigurationFault → Prop where
  | base {fault : ConfigurationFault} (refused : base.Refused loader fault) :
      Refused loader base above fault
  | above {lower : List (Label × Data)} {file : File} {fault : ConfigurationFault}
      (holds : base.Holds loader lower) (isAbove : IsAbove above file)
      (refused : file.Refused loader fault) : Refused loader base above fault
  | values {entries : List (Label × Data)} {fault : ConfigurationFault}
      (gathers : Gathers loader base above entries)
      (texts : ∀ entry ∈ entries, isText entry.1 = true)
      (refused : ofEntries entries = .error (.configuration fault)) :
      Refused loader base above fault

inductive Builds (loader : Loader) (base : File) (above : Option File) : Settings → Prop where
  | values {entries : List (Label × Data)} {settings : Settings}
      (gathers : Gathers loader base above entries)
      (texts : ∀ entry ∈ entries, isText entry.1 = true)
      (built : ofEntries entries = .ok settings) : Builds loader base above settings

variable {loader : Loader} {base : File} {above : Option File}

def laidOver (loader : Loader) (above : Option File) (lower : List (Label × Data)) :
    Except Error (List (Label × Data)) :=
  match above with
  | none | some ⟨_, .missing⟩ => .ok lower
  | some file => loader.entries file >>= fun upper =>
      if Yaml.reaches (loader.nesting + 1) upper lower then .error (.foreign (.tooDeep .overlay))
      else .ok (Yaml.overlay upper lower)

theorem layered_eq (loader : Loader) (base : File) (above : Option File) :
    loader.layered base above = loader.entries base >>= laidOver loader above := by
  unfold Loader.layered
  cases loader.entries base with
  | error error => rfl
  | ok lower =>
      match above with
      | none => rfl
      | some ⟨_, .missing⟩ => rfl
      | some ⟨name, .directory⟩ => rfl
      | some ⟨name, .bytes bytes⟩ =>
          change (loader.entries ⟨name, .bytes bytes⟩ >>= fun upper => _) =
            loader.entries ⟨name, .bytes bytes⟩ >>= fun upper => _
          refine bind_congr fun upper => ?_
          cases Yaml.reaches (loader.nesting + 1) upper lower <;> rfl

theorem alone_or_above (above : Option File) :
    (∀ file, ¬IsAbove above file) ∨ ∃ file, IsAbove above file := by
  by_cases isAbove : ∃ file, IsAbove above file
  · exact .inr isAbove
  · exact .inl (not_exists.mp isAbove)

theorem IsAbove.unique {file other : File} (isAbove : IsAbove above file)
    (also : IsAbove above other) : other = file :=
  Option.some.inj (also.1.symm.trans isAbove.1)

theorem laidOver_of_alone (alone : ∀ file, ¬IsAbove above file) (lower : List (Label × Data)) :
    laidOver loader above lower = .ok lower := by
  match above with
  | none => rfl
  | some ⟨_, .missing⟩ => rfl
  | some ⟨name, .directory⟩ => exact absurd ⟨rfl, nofun⟩ (alone ⟨name, .directory⟩)
  | some ⟨name, .bytes bytes⟩ => exact absurd ⟨rfl, nofun⟩ (alone ⟨name, .bytes bytes⟩)

theorem laidOver_of_above {file : File} (isAbove : IsAbove above file)
    (lower : List (Label × Data)) :
    laidOver loader above lower = loader.entries file >>= fun upper =>
      if Yaml.reaches (loader.nesting + 1) upper lower then .error (.foreign (.tooDeep .overlay))
      else .ok (Yaml.overlay upper lower) := by
  obtain ⟨rfl, present⟩ := isAbove
  obtain ⟨name, content⟩ := file
  cases content with
  | missing => exact absurd rfl present
  | directory | bytes => rfl

theorem layered_eq_ok_iff {entries : List (Label × Data)} :
    loader.layered base above = .ok entries ↔ Gathers loader base above entries := by
  rw [layered_eq, bind_eq_ok_iff]
  simp only [File.entries_eq_ok_iff]
  constructor
  · rintro ⟨lower, holds, laid⟩
    obtain alone | ⟨file, isAbove⟩ := alone_or_above above
    · rw [laidOver_of_alone alone] at laid
      cases laid
      exact .alone holds alone
    · rw [laidOver_of_above isAbove, bind_eq_ok_iff] at laid
      obtain ⟨upper, read, laid⟩ := laid
      split at laid
      · cases laid
      · next within =>
          cases laid
          exact .both holds isAbove (File.entries_eq_ok_iff.mp read) (Bool.eq_false_iff.mpr within)
  · intro gathers
    cases gathers with
    | alone holds alone => exact ⟨_, holds, laidOver_of_alone alone _⟩
    | both holds isAbove upperHolds within =>
        refine ⟨_, holds, ?_⟩
        rw [laidOver_of_above isAbove, File.entries_eq_ok_iff.mpr upperHolds]
        change (if _ then _ else _) = _
        rw [if_neg (Bool.eq_false_iff.mp within)]

theorem layered_eq_error_iff {error : Error} :
    loader.layered base above = .error error ↔
      FailsBy (base.Refused loader) (base.Escapes loader) error ∨
      ∃ lower file, base.Holds loader lower ∧ IsAbove above file ∧
        (FailsBy (file.Refused loader) (file.Escapes loader) error ∨
          ∃ upper, file.Holds loader upper ∧
            Yaml.reaches (loader.nesting + 1) upper lower = true ∧
              error = .foreign (.tooDeep .overlay)) := by
  rw [layered_eq, bind_eq_error_iff]
  simp only [File.entries_eq_ok_iff, File.entries_eq_error_iff]
  refine or_congr_right (exists_congr fun lower => ?_)
  obtain alone | ⟨file, isAbove⟩ := alone_or_above above
  · rw [laidOver_of_alone alone]
    exact iff_of_false nofun fun ⟨file, _, isAbove, _⟩ => alone file isAbove
  · rw [laidOver_of_above isAbove, bind_eq_error_iff]
    simp only [File.entries_eq_ok_iff, File.entries_eq_error_iff]
    have laid : ∀ upper, (if Yaml.reaches (loader.nesting + 1) upper lower = true then
          Except.error (Error.foreign (.tooDeep .overlay))
        else Except.ok (Yaml.overlay upper lower)) = .error error ↔
      Yaml.reaches (loader.nesting + 1) upper lower = true ∧
        error = .foreign (.tooDeep .overlay) := by
      intro upper
      split
      · next deep => simp [deep, eq_comm]
      · next within => simp [within]
    simp only [laid]
    constructor
    · exact fun ⟨holds, failed⟩ => ⟨file, holds, isAbove, failed⟩
    · rintro ⟨other, holds, also, failed⟩
      obtain rfl := isAbove.unique also
      exact ⟨holds, failed⟩

/-! ## Loading -/

/-- Values that are no settings are told by a configuration error. -/
theorem exists_configuration_of_ofEntries {entries : List (Label × Data)} {error : Error}
    (failed : ofEntries entries = .error error) : ∃ fault, error = .configuration fault := by
  unfold ofEntries at failed
  split at failed
  · cases failed
    exact ⟨_, rfl⟩
  · split at failed
    · cases failed
      exact ⟨_, rfl⟩
    · dsimp only at failed
      split at failed
      · cases failed
      · cases failed
        exact ⟨_, rfl⟩

def settingsOf (entries : List (Label × Data)) : Except Error Settings :=
  if entries.all (isText ·.1) then ofEntries entries else .error (.foreign .keywordNotText)

theorem load_eq (loader : Loader) (base : File) (above : Option File) :
    loader.load base above = loader.layered base above >>= settingsOf := by
  unfold Loader.load
  refine bind_congr fun entries => ?_
  rw [settingsOf]
  split <;> rfl

theorem load_eq_ok_iff {settings : Settings} :
    loader.load base above = .ok settings ↔ Builds loader base above settings := by
  rw [load_eq, bind_eq_ok_iff]
  simp only [layered_eq_ok_iff]
  constructor
  · rintro ⟨entries, gathers, built⟩
    rw [settingsOf] at built
    split at built
    · next texts => exact .values gathers (List.all_eq_true.mp texts) built
    · cases built
  · rintro ⟨gathers, texts, built⟩
    exact ⟨_, gathers, by rw [settingsOf, if_pos (List.all_eq_true.mpr texts), built]⟩

theorem settingsOf_eq_error {entries : List (Label × Data)}
    (gathers : Gathers loader base above entries) {error : Error}
    (failed : settingsOf entries = .error error) :
    FailsBy (Refused loader base above) (Escapes loader base above) error := by
  rw [settingsOf] at failed
  split at failed
  · next texts =>
      obtain ⟨fault, rfl⟩ := exists_configuration_of_ofEntries failed
      exact .values gathers (List.all_eq_true.mp texts) failed
  · next mixed =>
      cases failed
      rw [Bool.not_eq_true, List.all_eq_false] at mixed
      obtain ⟨⟨label, data⟩, listed, noText⟩ := mixed
      exact .keyword gathers listed (Bool.eq_false_iff.mpr noText)

theorem load_eq_error_iff {error : Error} :
    loader.load base above = .error error ↔
      FailsBy (Refused loader base above) (Escapes loader base above) error := by
  rw [load_eq, bind_eq_error_iff, layered_eq_error_iff]
  simp only [layered_eq_ok_iff]
  constructor
  · rintro ((fails | ⟨lower, file, holds, isAbove, fails | ⟨upper, upperHolds, deep, rfl⟩⟩) |
      ⟨entries, gathers, failed⟩)
    · exact fails.imp (fun _ => .base) fun _ => .base
    · exact fails.imp (fun _ => .above holds isAbove) fun _ => .above holds isAbove
    · exact .overlay holds isAbove upperHolds deep
    · exact settingsOf_eq_error gathers failed
  · intro fails
    cases error with
    | configuration fault =>
        cases fails with
        | base refused => exact .inl (.inl refused)
        | above holds isAbove refused =>
            exact .inl (.inr ⟨_, _, holds, isAbove, .inl refused⟩)
        | values gathers texts refused =>
            exact .inr ⟨_, gathers, by
              rw [settingsOf, if_pos (List.all_eq_true.mpr texts), refused]⟩
    | foreign failure =>
        cases fails with
        | base escapes => exact .inl (.inl escapes)
        | above holds isAbove escapes =>
            exact .inl (.inr ⟨_, _, holds, isAbove, .inl escapes⟩)
        | overlay holds isAbove upperHolds deep =>
            exact .inl (.inr ⟨_, _, holds, isAbove, .inr ⟨_, upperHolds, deep, rfl⟩⟩)
        | keyword gathers listed noText =>
            refine .inr ⟨_, gathers, if_neg fun texts => ?_⟩
            rw [List.all_eq_true.mp texts _ listed] at noText
            cases noText
    | _ => cases fails

/-! ## What escapes, by bytes and by labels -/

def File.IsNoText (file : File) : Prop :=
  ∃ bytes, file.content = .bytes bytes ∧ ∀ text, Text.Utf8.encode text ≠ bytes

theorem File.isNoText_iff (loader : Loader) {file : File} :
    file.IsNoText ↔ ∃ fault, file.Escapes loader (.undecodable fault) := by
  constructor
  · rintro ⟨bytes, content, noText⟩
    cases read : Text.Utf8.decode bytes with
    | error fault => exact ⟨fault, .undecodable content read⟩
    | ok text => exact absurd (Text.Utf8.encode_of_decode read) (noText text)
  · rintro ⟨fault, ⟨content, broken⟩⟩
    refine ⟨_, content, fun text same => ?_⟩
    rw [← Text.Utf8.decode_eq_ok_iff, broken] at same
    cases same

theorem escapes_undecodable_iff :
    (∃ fault, Escapes loader base above (.undecodable fault)) ↔ base.IsNoText ∨
      ∃ lower file, base.Holds loader lower ∧ IsAbove above file ∧ file.IsNoText := by
  simp only [File.isNoText_iff loader]
  constructor
  · rintro ⟨fault, escapes⟩
    cases escapes with
    | base escapes => exact .inl ⟨fault, escapes⟩
    | above holds isAbove escapes => exact .inr ⟨_, _, holds, isAbove, fault, escapes⟩
  · rintro (⟨fault, escapes⟩ | ⟨lower, file, holds, isAbove, fault, escapes⟩)
    · exact ⟨fault, .base escapes⟩
    · exact ⟨fault, .above holds isAbove escapes⟩

/-- A label of one mapping laid over another is a label of one of them. -/
theorem mem_labels_overlay {label : Label} {upper lower : List (Label × Data)} :
    label ∈ (Yaml.overlay upper lower).map Prod.fst ↔
      label ∈ upper.map Prod.fst ∨ label ∈ lower.map Prod.fst := by
  induction upper generalizing lower with
  | nil => simp [Yaml.overlay]
  | cons entry upper inductionHypothesis =>
      obtain ⟨name, data⟩ := entry
      rw [Yaml.overlay, inductionHypothesis, Entries.names_put, List.map_cons, List.mem_cons]
      split
      · next found =>
          obtain ⟨item, found⟩ := Option.isSome_iff_exists.mp found
          have present : name ∈ lower.map Prod.fst :=
            List.mem_map_of_mem (Entries.mem_of_lookup found)
          constructor
          · rintro (inUpper | inLower)
            · exact .inl (.inr inUpper)
            · exact .inr inLower
          · rintro ((rfl | inUpper) | inLower)
            · exact .inr present
            · exact .inl inUpper
            · exact .inr inLower
      · rw [List.mem_append, List.mem_singleton]
        constructor
        · rintro (inUpper | inLower | rfl)
          · exact .inl (.inr inUpper)
          · exact .inr inLower
          · exact .inl (.inl rfl)
        · rintro ((rfl | inUpper) | inLower)
          · exact .inr (.inr rfl)
          · exact .inl inUpper
          · exact .inr (.inl inLower)

def IsMixed (entries : List (Label × Data)) : Prop :=
  ∃ label ∈ entries.map Prod.fst, isText label = false

theorem isMixed_overlay_iff {upper lower : List (Label × Data)} :
    IsMixed (Yaml.overlay upper lower) ↔ IsMixed upper ∨ IsMixed lower := by
  unfold IsMixed
  simp only [mem_labels_overlay]
  constructor
  · rintro ⟨label, inUpper | inLower, noText⟩
    · exact .inl ⟨label, inUpper, noText⟩
    · exact .inr ⟨label, inLower, noText⟩
  · rintro (⟨label, inUpper, noText⟩ | ⟨label, inLower, noText⟩)
    · exact ⟨label, .inl inUpper, noText⟩
    · exact ⟨label, .inr inLower, noText⟩

theorem exists_mixed_iff {entries : List (Label × Data)} :
    IsMixed entries ↔ ∃ label data, (label, data) ∈ entries ∧ isText label = false := by
  unfold IsMixed
  constructor
  · rintro ⟨_, listed, noText⟩
    obtain ⟨⟨label, data⟩, member, rfl⟩ := List.mem_map.mp listed
    exact ⟨label, data, member, noText⟩
  · rintro ⟨label, data, member, noText⟩
    exact ⟨label, List.mem_map_of_mem member, noText⟩

theorem escapes_keyword_iff :
    Escapes loader base above .keywordNotText ↔ ∃ lower, base.Holds loader lower ∧
      (((∀ file, ¬IsAbove above file) ∧ IsMixed lower) ∨
        ∃ upper file, IsAbove above file ∧ file.Holds loader upper ∧
          Yaml.reaches (loader.nesting + 1) upper lower = false ∧
            (IsMixed upper ∨ IsMixed lower)) := by
  simp only [← isMixed_overlay_iff]
  constructor
  · intro escapes
    cases escapes with
    | base escapes => cases escapes
    | above _ _ escapes => cases escapes
    | keyword gathers listed noText =>
        have mixed := exists_mixed_iff.mpr ⟨_, _, listed, noText⟩
        cases gathers with
        | alone holds alone => exact ⟨_, holds, .inl ⟨alone, mixed⟩⟩
        | both holds isAbove upperHolds within =>
            exact ⟨_, holds, .inr ⟨_, _, isAbove, upperHolds, within, mixed⟩⟩
  · rintro ⟨lower, holds, ⟨alone, mixed⟩ | ⟨upper, file, isAbove, upperHolds, within, mixed⟩⟩
    · obtain ⟨label, data, listed, noText⟩ := exists_mixed_iff.mp mixed
      exact .keyword (.alone holds alone) listed noText
    · obtain ⟨label, data, listed, noText⟩ := exists_mixed_iff.mp mixed
      exact .keyword (.both holds isAbove upperHolds within) listed noText

structure Ends (loader : Loader) (base : File) (above : Option File)
    (result : Except Error Settings) : Prop where
  built : ∀ settings, result = .ok settings ↔ Builds loader base above settings
  refused : ∀ fault, result = .error (.configuration fault) ↔ Refused loader base above fault
  /-- All that escapes. -/
  escapes : ∀ failure, result = .error (.foreign failure) ↔ Escapes loader base above failure
  total : ∀ error, result = .error error →
    (∃ fault, error = .configuration fault) ∨ ∃ failure, error = .foreign failure
  /-- Bytes that are no text escape, from the base file first. -/
  undecodable : (∃ fault, result = .error (.foreign (.undecodable fault))) ↔ base.IsNoText ∨
    ∃ lower file, base.Holds loader lower ∧ IsAbove above file ∧ file.IsNoText
  /-- Labels that are no texts escape once the files are laid over each other. -/
  keyword : result = .error (.foreign .keywordNotText) ↔ ∃ lower, base.Holds loader lower ∧
    (((∀ file, ¬IsAbove above file) ∧ IsMixed lower) ∨
      ∃ upper file, IsAbove above file ∧ file.Holds loader upper ∧
        Yaml.reaches (loader.nesting + 1) upper lower = false ∧
          (IsMixed upper ∨ IsMixed lower))

theorem load_ends (loader : Loader) (base : File) (above : Option File) :
    Ends loader base above (loader.load base above) where
  built _ := load_eq_ok_iff
  refused _ := load_eq_error_iff
  escapes _ := load_eq_error_iff
  total error failed := by
    have fails := load_eq_error_iff.mp failed
    cases error with
    | configuration fault => exact .inl ⟨fault, rfl⟩
    | foreign failure => exact .inr ⟨failure, rfl⟩
    | _ => cases fails
  undecodable := by
    rw [← escapes_undecodable_iff]
    exact exists_congr fun fault => load_eq_error_iff
  keyword := by
    rw [load_eq_error_iff]
    change Escapes loader base above .keywordNotText ↔ _
    exact escapes_keyword_iff

/-- A byte that is no text makes loading fail with an error that the library does not word. -/
theorem undecodable_escapes :
    load ⟨"base.yaml", .bytes [0xFF]⟩ none =
      .error (.foreign (.undecodable ⟨0xFF, 0, 1, .invalidStart⟩)) := by
  have broken : Text.Utf8.decode [0xFF] = .error ⟨0xFF, 0, 1, .invalidStart⟩ := by
    rw [Text.Utf8.decode, Text.Utf8.decodeFrom]
    rfl
  exact load_eq_error_iff.mpr (.base (.undecodable rfl broken))

end FeatureFlags.Settings
