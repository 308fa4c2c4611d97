import FeatureFlags.Proofs.Double.Order
import FeatureFlags.Proofs.Settings.Loading
import FeatureFlags.Proofs.Settings.Numeral

/-!
# How settings are built

Settings are built exactly when each of them is read, and each reader keeps to the range of its
setting: `ofEntries_buildLaw` draws from this that what is built is valid, that it is built again of
itself, and that a value that denotes an integer outside the range is refused under its name.
-/

set_option autoImplicit false

namespace FeatureFlags.Settings

open Yaml (Data Label)

variable {entries : List (Label × Data)} {settings : Settings}

/-! ## All settings are read, or a problem is reported -/

structure Reads (entries : List (Label × Data)) (settings : Settings) : Prop where
  apiKey : ∃ key, given? entries .apiKey = some key ∧ key.isFalsy = false ∧
    readText key = .ok settings.apiKey
  host : readOr defaultHost readHost entries .host = .ok settings.host
  port : readOr defaultPort readPort entries .port = .ok settings.port
  protocol : readOr .https readProtocol entries .protocol = .ok settings.protocol
  timeout : readOr defaultTimeout readTimeout entries .timeout = .ok settings.timeout

def problems (entries : List (Label × Data)) (key : Data) : List (Field × Problem) :=
  problem .apiKey (readText key) ++ problem .host (readOr defaultHost readHost entries .host) ++
    problem .port (readOr defaultPort readPort entries .port) ++
      problem .protocol (readOr .https readProtocol entries .protocol) ++
        problem .timeout (readOr defaultTimeout readTimeout entries .timeout)

theorem ofEntries_of_filled {key : Data} (given : given? entries .apiKey = some key)
    (filled : key.isFalsy = false) :
    ofEntries entries =
      match readText key, readOr defaultHost readHost entries .host,
        readOr defaultPort readPort entries .port, readOr .https readProtocol entries .protocol,
        readOr defaultTimeout readTimeout entries .timeout with
      | .ok apiKey, .ok host, .ok port, .ok protocol, .ok timeout =>
          .ok ⟨apiKey, host, port, protocol, timeout⟩
      | _, _, _, _, _ => .error (.configuration (.invalid (problems entries key))) := by
  rw [ofEntries, given]
  dsimp only
  rw [filled, if_neg Bool.false_ne_true]
  rfl

theorem filled_or_missing (entries : List (Label × Data)) :
    (∃ key, given? entries .apiKey = some key ∧ key.isFalsy = false) ∨
      ofEntries entries = .error (.configuration .missingApiKey) := by
  rw [ofEntries]
  cases given : given? entries .apiKey with
  | none => exact .inr rfl
  | some key =>
      cases falsy : key.isFalsy with
      | true =>
          refine .inr ?_
          dsimp only
          rw [falsy, if_pos rfl]
      | false => exact .inl ⟨key, rfl, falsy⟩

theorem ofEntries_eq_ok_iff : ofEntries entries = .ok settings ↔ Reads entries settings := by
  constructor
  · intro built
    rcases filled_or_missing entries with ⟨key, given, filled⟩ | missing
    · rw [ofEntries_of_filled given filled] at built
      split at built
      · next apiKey host port protocol timeout =>
          cases built
          exact ⟨⟨key, given, filled, apiKey⟩, host, port, protocol, timeout⟩
      · cases built
    · cases missing.symm.trans built
  · rintro ⟨⟨key, given, filled, apiKey⟩, host, port, protocol, timeout⟩
    rw [ofEntries_of_filled given filled, apiKey, host, port, protocol, timeout]

theorem ofEntries_of_problem {key : Data} (given : given? entries .apiKey = some key)
    (filled : key.isFalsy = false) {listed : Field × Problem}
    (member : listed ∈ problems entries key) :
    ofEntries entries = .error (.configuration (.invalid (problems entries key))) := by
  rw [ofEntries_of_filled given filled]
  split
  · next apiKey host port protocol timeout =>
      rw [problems, apiKey, host, port, protocol, timeout] at member
      cases member
  · rfl

/-- The values are refused: there is no API key, or the problems that are reported name the
setting. -/
def Refuses (entries : List (Label × Data)) (field : Field) : Prop :=
  ofEntries entries = .error (.configuration .missingApiKey) ∨
    ∃ problems problem, ofEntries entries = .error (.configuration (.invalid problems)) ∧
      (field, problem) ∈ problems

theorem refuses_of_problem {field : Field} {problem : Problem}
    (listed : ∀ key, (field, problem) ∈ problems entries key) : Refuses entries field := by
  rcases filled_or_missing entries with ⟨key, given, filled⟩ | missing
  · exact .inr ⟨_, _, ofEntries_of_problem given filled (listed key), listed key⟩
  · exact .inl missing

theorem mem_problem {Item : Type} (field : Field) {fault : Problem}
    {result : Except Problem Item} (failed : result = .error fault) :
    (field, fault) ∈ problem field result := by
  rw [failed]
  exact List.mem_singleton.mpr rfl

/-! ## Integers in range -/

theorem readPort_eq_ok_iff {data : Data} {port : Nat} : readPort data = .ok port ↔
    ∃ value, readInteger data = .ok value ∧ 1 ≤ value ∧ value ≤ maxPort ∧ port = value.toNat := by
  rw [readPort, bind_eq_ok_iff]
  refine exists_congr fun value => and_congr_right fun _ => ?_
  by_cases low : value < 1
  · rw [if_pos low]
    exact iff_of_false nofun fun inside => by omega
  · rw [if_neg low]
    by_cases high : (maxPort : Int) < value
    · rw [if_pos high]
      exact iff_of_false nofun fun inside => by omega
    · rw [if_neg high]
      constructor
      · rintro ⟨⟩
        exact ⟨by omega, by omega, rfl⟩
      · rintro ⟨-, -, rfl⟩
        rfl

theorem readTimeout_eq_ok_iff {data : Data} {timeout : Nat} : readTimeout data = .ok timeout ↔
    ∃ value, readInteger data = .ok value ∧ 0 < value ∧ timeout = value.toNat := by
  rw [readTimeout, bind_eq_ok_iff]
  refine exists_congr fun value => and_congr_right fun _ => ?_
  by_cases low : value ≤ 0
  · rw [if_pos low]
    exact iff_of_false nofun fun inside => by omega
  · rw [if_neg low]
    constructor
    · rintro ⟨⟩
      exact ⟨by omega, rfl⟩
    · rintro ⟨-, rfl⟩
      rfl

/-- What a value given for a setting is read as, or else the default. -/
theorem of_readOr {Item : Type} {usual item : Item} {read : Data → Except Problem Item}
    {field : Field} (result : readOr usual read entries field = .ok item) :
    item = usual ∨ ∃ data, read data = .ok item := by
  rw [readOr] at result
  split at result
  · next data _ => exact .inr ⟨data, result⟩
  · cases result
    exact .inl rfl

structure IsValid (settings : Settings) : Prop where
  apiKey : settings.apiKey ≠ ""
  port : 1 ≤ settings.port ∧ settings.port ≤ maxPort
  protocol : settings.protocol = .http ∨ settings.protocol = .https
  timeout : 0 < settings.timeout

theorem readText_ne_empty {key : Data} {text : String} (filled : key.isFalsy = false)
    (read : readText key = .ok text) : text ≠ "" := by
  rintro rfl
  cases key with
  | text content =>
      cases read
      cases filled
  | binary bytes =>
      rw [readText] at read
      split at read
      · next content decoded =>
          obtain rfl : content = [] := String.ofList_eq_empty_iff.mp (Except.ok.inj read)
          obtain rfl : [] = bytes := Text.Utf8.encode_of_decode decoded
          cases filled
      · cases read
  | _ => cases read

theorem Reads.isValid (reads : Reads entries settings) : settings.IsValid where
  apiKey := by
    obtain ⟨key, -, filled, read⟩ := reads.apiKey
    exact readText_ne_empty filled read
  port := by
    rcases of_readOr reads.port with usual | ⟨data, read⟩
    · rw [usual]
      decide
    · obtain ⟨value, -, low, high, same⟩ := readPort_eq_ok_iff.mp read
      omega
  protocol := by
    cases settings.protocol with
    | http => exact .inl rfl
    | https => exact .inr rfl
  timeout := by
    rcases of_readOr reads.timeout with usual | ⟨data, read⟩
    · rw [usual]
      decide
    · obtain ⟨value, -, low, same⟩ := readTimeout_eq_ok_iff.mp read
      omega

/-! ## Built again -/

def fields (settings : Settings) : List (Label × Data) :=
  [(.text Field.apiKey.name, .text settings.apiKey), (.text Field.host.name, .ofRaw settings.host),
    (.text Field.port.name, .int settings.port),
    (.text Field.protocol.name, .text settings.protocol.name),
    (.text Field.timeout.name, .int settings.timeout)]

theorem readProtocol_name (protocol : Protocol) :
    readProtocol (.text protocol.name) = .ok protocol := by
  cases protocol with
  | http => rfl
  | https => rfl

theorem IsValid.reads_fields (valid : settings.IsValid) : Reads settings.fields settings where
  apiKey := by
    refine ⟨.text settings.apiKey, rfl, ?_, rfl⟩
    simpa [Data.isFalsy] using valid.apiKey
  host := by
    have given : given? settings.fields .host =
      (some (Data.ofRaw settings.host)).filter (!·.isNull) := rfl
    rw [readOr, given]
    cases settings.host with
    | whole text => rfl
    | broken text => rfl
  port := by
    have given : readOr defaultPort readPort settings.fields .port =
      readPort (.int settings.port) := rfl
    have inside := valid.port
    rw [given, readPort_eq_ok_iff]
    exact ⟨settings.port, rfl, by omega, by omega, rfl⟩
  protocol := readProtocol_name settings.protocol
  timeout := by
    have given : readOr defaultTimeout readTimeout settings.fields .timeout =
      readTimeout (.int settings.timeout) := rfl
    have inside := valid.timeout
    rw [given, readTimeout_eq_ok_iff]
    exact ⟨settings.timeout, rfl, by omega, rfl⟩

theorem ofEntries_fields_iff : ofEntries settings.fields = .ok settings ↔ settings.IsValid := by
  rw [ofEntries_eq_ok_iff]
  exact ⟨Reads.isValid, IsValid.reads_fields⟩

/-! ## Values that denote integers -/

/-- The integer that a value denotes: truth values count as zero and one, a double has to equal the
integer, and a text has to be a numeral of it. -/
inductive Denotes : Value → Int → Prop where
  | bool (value : Bool) : Denotes (.bool value) value.toInt
  | int (value : Int) : Denotes (.int value) value
  | double {number : Double} {value : Int} (same : number.orderInt? value = some .eq) :
      Denotes (.double number) value
  | numeral {text : String} {value : Int} (spells : Spells text.toList value) :
      Denotes (.string text) value

theorem eq_of_readWhole {number : Double} {value other : Int}
    (same : number.orderInt? value = some .eq) (read : readWhole number = .ok other) :
    other = value := by
  have whole := Double.toInt?_of_orderInt? same
  cases number with
  | nan | infinite => cases read
  | finite negative units fits =>
      rw [readWhole, whole] at read
      dsimp only at read
      split at read
      · cases read
        rfl
      · cases read

/-- No value is read as another integer than the one that it denotes. -/
theorem eq_of_readInteger {value : Value} {number other : Int} (denotes : Denotes value number)
    (read : readInteger (Data.ofValue value) = .ok other) : other = number := by
  cases denotes with
  | bool | int =>
      cases read
      rfl
  | double same => exact eq_of_readWhole same read
  | numeral spells =>
      have read : readNumeral _ = .ok other := read
      rcases readNumeral_of_spells spells with exact | ⟨-, problem, refused⟩
      · cases exact.symm.trans read
        rfl
      · cases refused.symm.trans read

variable {field : Field} {value : Value} {number : Int}

theorem Denotes.given (denotes : Denotes value number)
    (found : entries.lookup (.text field.name) = some (Data.ofValue value)) :
    given? entries field = some (Data.ofValue value) := by
  rw [given?, found, Option.filter_some, if_pos]
  cases denotes <;> rfl

theorem Denotes.readOr {Item : Type} (denotes : Denotes value number) (usual : Item)
    (read : Data → Except Problem Item)
    (found : entries.lookup (.text field.name) = some (Data.ofValue value)) :
    readOr usual read entries field = read (Data.ofValue value) := by
  rw [Settings.readOr, denotes.given found]

/-- A value is refused if its reader refuses it: the problem is among those that are reported. -/
theorem Denotes.refuses {Item : Type} (denotes : Denotes value number) (usual : Item)
    (read : Data → Except Problem Item)
    (found : entries.lookup (.text field.name) = some (Data.ofValue value))
    (unread : ∀ item, read (Data.ofValue value) ≠ .ok item)
    (among : ∀ key, ∀ listed ∈ problem field (Settings.readOr usual read entries field),
      listed ∈ problems entries key) : Refuses entries field := by
  cases result : read (Data.ofValue value) with
  | ok item => exact absurd result (unread item)
  | error fault =>
      have misread := mem_problem field ((denotes.readOr usual read found).trans result)
      exact refuses_of_problem fun key => among key _ misread

theorem refuses_port (denotes : Denotes value number)
    (found : entries.lookup (.text Field.port.name) = some (Data.ofValue value))
    (outside : number < 1 ∨ maxPort < number) : Refuses entries .port := by
  refine denotes.refuses defaultPort readPort found ?_ ?_
  · intro port read
    obtain ⟨other, integer, low, high, -⟩ := readPort_eq_ok_iff.mp read
    obtain rfl := eq_of_readInteger denotes integer
    omega
  · intro key listed misread
    simp only [problems, List.mem_append, misread, true_or, or_true]

theorem refuses_timeout (denotes : Denotes value number)
    (found : entries.lookup (.text Field.timeout.name) = some (Data.ofValue value))
    (outside : number ≤ 0) : Refuses entries .timeout := by
  refine denotes.refuses defaultTimeout readTimeout found ?_ ?_
  · intro timeout read
    obtain ⟨other, integer, low, -⟩ := readTimeout_eq_ok_iff.mp read
    obtain rfl := eq_of_readInteger denotes integer
    omega
  · intro key listed misread
    simp only [problems, List.mem_append, misread, or_true]

/-! ## The law -/

structure BuildLaw (entries : List (Label × Data)) : Prop where
  ends : (∃ settings, ofEntries entries = .ok settings) ∨
    ∃ fault, ofEntries entries = .error (.configuration fault)
  valid : ∀ settings, ofEntries entries = .ok settings → settings.IsValid
  again : ∀ settings, ofEntries entries = .ok settings → ofEntries settings.fields = .ok settings
  /-- Just the valid settings are built of their own values. -/
  fixed : ∀ settings : Settings, ofEntries settings.fields = .ok settings ↔ settings.IsValid
  /-- An API key that is not empty and no text is refused as such. -/
  apiKey : ∀ value, entries.lookup (.text Field.apiKey.name) = some (Data.ofValue value) →
    (Data.ofValue value).isFalsy = false → (∀ text, value ≠ .string text) →
      ∃ problems, ofEntries entries = .error (.configuration (.invalid problems)) ∧
        (.apiKey, .notText) ∈ problems
  portOutside : ∀ value number,
    entries.lookup (.text Field.port.name) = some (Data.ofValue value) → Denotes value number →
      number < 1 ∨ maxPort < number → Refuses entries .port
  timeoutOutside : ∀ value number,
    entries.lookup (.text Field.timeout.name) = some (Data.ofValue value) → Denotes value number →
      number ≤ 0 → Refuses entries .timeout
  port : ∀ value number settings,
    entries.lookup (.text Field.port.name) = some (Data.ofValue value) → Denotes value number →
      ofEntries entries = .ok settings → settings.port = number
  timeout : ∀ value number settings,
    entries.lookup (.text Field.timeout.name) = some (Data.ofValue value) → Denotes value number →
      ofEntries entries = .ok settings → settings.timeout = number

theorem ofEntries_buildLaw (entries : List (Label × Data)) : BuildLaw entries where
  ends := by
    cases built : ofEntries entries with
    | ok settings => exact .inl ⟨settings, rfl⟩
    | error error =>
        obtain ⟨fault, rfl⟩ := exists_configuration_of_ofEntries built
        exact .inr ⟨fault, rfl⟩
  valid settings built := (ofEntries_eq_ok_iff.mp built).isValid
  again settings built := ofEntries_fields_iff.mpr (ofEntries_eq_ok_iff.mp built).isValid
  fixed settings := ofEntries_fields_iff
  apiKey value found filled noText := by
    have present : (Data.ofValue value).isNull = false := by
      cases value with
      | null => cases filled
      | _ => rfl
    have given : given? entries .apiKey = some (Data.ofValue value) := by
      rw [given?, found, Option.filter_some, if_pos]
      rw [present]
      rfl
    have refused : readText (Data.ofValue value) = .error .notText := by
      cases value with
      | string text => exact absurd rfl (noText text)
      | _ => rfl
    have listed : (Field.apiKey, Problem.notText) ∈ problems entries (Data.ofValue value) := by
      simp only [problems, List.mem_append, mem_problem .apiKey refused, true_or]
    exact ⟨_, ofEntries_of_problem given filled listed, listed⟩
  portOutside value number found denotes outside := refuses_port denotes found outside
  timeoutOutside value number found denotes outside := refuses_timeout denotes found outside
  port value number settings found denotes built := by
    have read := (ofEntries_eq_ok_iff.mp built).port
    rw [denotes.readOr _ _ found, readPort_eq_ok_iff] at read
    obtain ⟨other, integer, low, high, same⟩ := read
    obtain rfl := eq_of_readInteger denotes integer
    omega
  timeout value number settings found denotes built := by
    have read := (ofEntries_eq_ok_iff.mp built).timeout
    rw [denotes.readOr _ _ found, readTimeout_eq_ok_iff] at read
    obtain ⟨other, integer, low, same⟩ := read
    obtain rfl := eq_of_readInteger denotes integer
    omega

/-- A port may be given as a numeral, a truth value as a timeout. -/
example : ofEntries [(.text "api_key", .text "key"), (.text "port", .text " +08_0.0 "),
    (.text "timeout_ms", .bool true)] = .ok ⟨"key", defaultHost, 80, .https, 1⟩ := by
  rfl

end FeatureFlags.Settings
