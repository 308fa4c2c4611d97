import FeatureFlags.Settings.Reading

/-!
# Settings from named values

A setting that is absent or null has its default; other names do not matter.  Only the API key has
to be given.  All problems are reported together, in the order of the settings.
-/

set_option autoImplicit false

namespace FeatureFlags

def Field.name : Field → String
  | .apiKey => "api_key"
  | .host => "host"
  | .port => "port"
  | .protocol => "protocol"
  | .timeout => "timeout_ms"

namespace Settings

open Yaml (Data Label)

/-- The value given for a setting; null does not count. -/
def given? (entries : List (Label × Data)) (field : Field) : Option Data :=
  (entries.lookup (.text field.name)).filter (!·.isNull)

def readOr {Item : Type} (usual : Item) (read : Data → Except Problem Item)
    (entries : List (Label × Data)) (field : Field) : Except Problem Item :=
  match given? entries field with
  | some data => read data
  | none => .ok usual

def problem {Item : Type} (field : Field) : Except Problem Item → List (Field × Problem)
  | .ok _ => []
  | .error problem => [(field, problem)]

def ofEntries (entries : List (Label × Data)) : Except Error Settings :=
  match given? entries .apiKey with
  | none => .error (.configuration .missingApiKey)
  | some key =>
      if key.isFalsy then .error (.configuration .missingApiKey)
      else
        let apiKey := readText key
        let host := readOr defaultHost readHost entries .host
        let port := readOr defaultPort readPort entries .port
        let protocol := readOr .https readProtocol entries .protocol
        let timeout := readOr defaultTimeout readTimeout entries .timeout
        match apiKey, host, port, protocol, timeout with
        | .ok apiKey, .ok host, .ok port, .ok protocol, .ok timeout =>
            .ok ⟨apiKey, host, port, protocol, timeout⟩
        | _, _, _, _, _ =>
            .error (.configuration (.invalid (problem .apiKey apiKey ++ problem .host host ++
              problem .port port ++ problem .protocol protocol ++ problem .timeout timeout)))

end Settings

end FeatureFlags
