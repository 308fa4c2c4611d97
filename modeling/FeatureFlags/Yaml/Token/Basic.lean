import FeatureFlags.Yaml.Cursor

/-!
# Tokens of a YAML text

Indicators, properties and scalars in order.  Block structure, which the text gives by indentation,
is made explicit by the `block…` tokens.
-/

set_option autoImplicit false

namespace FeatureFlags.Yaml

inductive Token where
  | versionDirective (major : Nat)
  | tagDirective (handle head : List Char)
  | otherDirective
  | documentStart
  | documentEnd
  | blockSequenceStart
  | blockMappingStart
  | blockEnd
  | flowSequenceStart
  | flowSequenceEnd
  | flowMappingStart
  | flowMappingEnd
  | blockEntry
  | flowEntry
  | key
  | value
  | alias (name : List Char)
  | anchor (name : List Char)
  /-- A tag; without a handle it is written out in full. -/
  | tag (handle : Option (List Char)) (suffix : List Char)
  | scalar (text : List Char) (plain : Bool)
  | broken (text : Text.Broken)
  deriving DecidableEq

end FeatureFlags.Yaml
